import RobotMulticam.Lib.Text

/-!
# Texts that say where they end

A writer is self-delimiting when the text of an item, followed by anything,
determines the item and what follows. Items written one after the other can
then be told apart without looking for a separator, which may occur inside
them. A size in front of a field makes it self-delimiting, if the number
cannot run into the field.
-/

namespace RobotMulticam.Lib

variable {α β : Type}

/-- What is written tells the item and what follows it. -/
def SelfDelimiting (write : α → List β) : Prop :=
  ∀ item other rest rest', write item ++ rest = write other ++ rest' → item = other ∧ rest = rest'

/-- A text up to the first mark. -/
theorem append_mark_inj {mark : β} {front other rest rest' : List β} (hfront : mark ∉ front)
    (hother : mark ∉ other) (h : front ++ mark :: rest = other ++ mark :: rest') :
    front = other ∧ rest = rest' := by
  rcases List.append_eq_append_iff.mp h with ⟨more, rfl, hrest⟩ | ⟨more, rfl, hrest⟩
  · cases more with
    | nil => simpa using hrest
    | cons letter more =>
      obtain ⟨rfl, _⟩ := List.cons.inj hrest
      exact absurd (by simp) hother
  · cases more with
    | nil => simpa [eq_comm] using hrest
    | cons letter more =>
      obtain ⟨rfl, _⟩ := List.cons.inj hrest
      exact absurd (by simp) hfront

/-- A field behind its size and a mark. -/
def sized (size : List β → Nat) (number : Nat → List β) (mark : β) (field : List β) : List β :=
  number (size field) ++ mark :: field

/-- Sizes that grow with every letter end the field. -/
theorem selfDelimiting_sized {size : List β → Nat} {number : Nat → List β} {mark : β}
    (hsize : ∀ field more, size (field ++ more) = size field → more = [])
    (hnumber : number.Injective) (hmark : ∀ count, mark ∉ number count) :
    SelfDelimiting (sized size number mark) := by
  intro field other rest rest' h
  have hshape : number (size field) ++ mark :: (field ++ rest) =
      number (size other) ++ mark :: (other ++ rest') := by
    simpa [sized] using h
  obtain ⟨hnumbers, hbehind⟩ := append_mark_inj (hmark _) (hmark _) hshape
  have hsizes : size field = size other := hnumber hnumbers
  -- one field is the beginning of the other, and of its size
  rcases List.append_eq_append_iff.mp hbehind with ⟨more, rfl, hrest⟩ | ⟨more, rfl, hrest⟩
  · obtain rfl := hsize field more hsizes.symm
    simpa using hrest
  · obtain rfl := hsize other more hsizes
    simpa [eq_comm] using hrest

namespace SelfDelimiting

variable {write : α → List β} (h : SelfDelimiting write) (separator : β)
include h

/-- Items that are written one after the other, each behind a separator. -/
theorem behind_injective {items others : List α}
    (hsame : (items.map fun item => separator :: write item).flatten =
      (others.map fun item => separator :: write item).flatten) : items = others := by
  induction items generalizing others with
  | nil =>
    cases others with
    | nil => rfl
    | cons other others => simp at hsame
  | cons item items ih =>
    cases others with
    | nil => simp at hsame
    | cons other others =>
      simp only [List.map_cons, List.flatten_cons, List.cons_append, List.cons.injEq,
        true_and] at hsame
      obtain ⟨rfl, hrest⟩ := h item other _ _ hsame
      rw [ih hrest]

/-- Items with a separator between them are told by the text. -/
theorem joined_injective (hsome : ∀ item, write item ≠ []) {items others : List α}
    (hsame : [separator].intercalate (items.map write) =
      [separator].intercalate (others.map write)) : items = others := by
  cases items with
  | nil =>
    cases others with
    | nil => rfl
    | cons other others =>
      rw [List.map_cons, Text.intercalate_cons] at hsame
      exact absurd (List.append_eq_nil_iff.mp hsame.symm).1 (hsome other)
  | cons item items =>
    cases others with
    | nil =>
      rw [List.map_cons, Text.intercalate_cons] at hsame
      exact absurd (List.append_eq_nil_iff.mp hsame).1 (hsome item)
    | cons other others =>
      rw [List.map_cons, List.map_cons, Text.intercalate_cons, Text.intercalate_cons,
        List.map_map, List.map_map] at hsame
      obtain ⟨rfl, hrest⟩ := h item other _ _ hsame
      rw [h.behind_injective separator hrest]

end SelfDelimiting

end RobotMulticam.Lib
