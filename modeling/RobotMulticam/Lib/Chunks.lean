import Mathlib

/-!
# Splitting a list into chunks and collecting chunks in slots

`chunks size items` cuts a list into pieces of `size` items, the last one
possibly shorter. A receiver that gets the pieces in any order keeps one
slot for each; `Agrees parts slots` says that whatever a slot holds is the
piece that belongs there. Full slots that agree hold exactly the pieces, so
their concatenation is the list that was cut.
-/

namespace RobotMulticam.Lib

variable {α : Type}

/-! ## Chunks -/

/-- `slice::chunks(size)`. -/
def chunks (size : Nat) (items : List α) : List (List α) :=
  (List.range ((items.length + size - 1) / size)).map fun index =>
    (items.drop (index * size)).take size

@[simp] theorem length_chunks (size : Nat) (items : List α) :
    (chunks size items).length = (items.length + size - 1) / size := by
  simp [chunks]

/-- The first `count` windows are a first part of the list. -/
theorem flatten_windows (size count : Nat) (items : List α) :
    ((List.range count).map fun index => (items.drop (index * size)).take size).flatten =
      items.take (count * size) := by
  induction count with
  | zero => simp
  | succ count ih =>
    rw [List.range_succ, List.map_append, List.flatten_append, ih]
    simp [Nat.succ_mul, List.take_add]

theorem flatten_chunks {size : Nat} (hsize : 0 < size) (items : List α) :
    (chunks size items).flatten = items := by
  rw [chunks, flatten_windows, List.take_of_length_le]
  have hcover := Nat.lt_div_mul_add hsize (a := items.length + size - 1)
  omega

variable {items piece parts : List α} {slots : List (Option α)} {index : Nat}

theorem mem_chunks {size : Nat} (hsize : 0 < size) (h : piece ∈ chunks size items) :
    0 < piece.length ∧ piece.length ≤ size := by
  obtain ⟨index, hindex, rfl⟩ := List.mem_map.mp h
  rw [List.mem_range, Nat.lt_div_iff_mul_lt hsize] at hindex
  rw [List.length_take, List.length_drop]
  refine ⟨?_, Nat.min_le_left _ _⟩
  have hbefore : index * size < items.length := by omega
  omega

/-! ## Slots -/

/-- Whatever a slot holds is the part that belongs there. -/
structure Agrees (parts : List α) (slots : List (Option α)) : Prop where
  length : slots.length = parts.length
  part : ∀ (index : Nat) (value : α), slots[index]? = some (some value) →
    parts[index]? = some value

/-- Full slots that agree with the parts hold the parts. -/
theorem Agrees.reduceOption_eq (h : Agrees parts slots) (hfull : slots.any Option.isNone = false) :
    slots.reduceOption = parts := by
  have hslots : slots = parts.map some := by
    apply List.ext_getElem?
    intro index
    rw [List.getElem?_map]
    cases hslot : slots[index]? with
    | none =>
      rw [List.getElem?_eq_none_iff, h.length] at hslot
      rw [List.getElem?_eq_none_iff.mpr hslot]
      rfl
    | some slot =>
      cases slot with
      | none =>
        rw [List.any_eq_false] at hfull
        exact absurd rfl (hfull none (List.mem_of_getElem? hslot))
      | some value =>
        rw [h.part index value hslot]
        rfl
  rw [hslots, List.reduceOption, List.filterMap_map]
  exact List.filterMap_some

/-- Writing back what a place already holds changes nothing. -/
theorem set_of_getElem? {item : α} (h : items[index]? = some item) :
    items.set index item = items := by
  obtain ⟨hlt, rfl⟩ := List.getElem?_eq_some_iff.mp h
  exact List.set_getElem_self hlt

/-- Filling a slot with its part keeps the agreement. -/
theorem Agrees.set (h : Agrees parts slots) {value : α} (hpart : parts[index]? = some value) :
    Agrees parts (slots.set index (some value)) := by
  refine ⟨by rw [List.length_set, h.length], ?_⟩
  intro other found hfound
  rw [List.getElem?_set] at hfound
  split at hfound
  · rename_i heq
    subst heq
    split at hfound
    · cases hfound
      exact hpart
    · cases hfound
  · exact h.part other found hfound

/-- Filling an empty slot adds the length of what it gets. -/
theorem length_flatten_set {slots : List (Option (List α))} (hempty : slots[index]? = some none) :
    (slots.set index (some piece)).reduceOption.flatten.length =
      slots.reduceOption.flatten.length + piece.length := by
  induction slots generalizing index with
  | nil => simp at hempty
  | cons slot slots ih =>
    cases index with
    | zero =>
      obtain rfl : slot = none := by simpa using hempty
      simp only [List.set_cons_zero, List.reduceOption_cons_of_some,
        List.reduceOption_cons_of_none, List.flatten_cons, List.length_append]
      omega
    | succ index =>
      have hrest := @ih index (by simpa using hempty)
      cases slot with
      | none =>
        simp only [List.set_cons_succ, List.reduceOption_cons_of_none]
        exact hrest
      | some held =>
        simp only [List.set_cons_succ, List.reduceOption_cons_of_some,
          List.flatten_cons, List.length_append]
        omega

/-- Slots of bounded pieces hold a bounded total. -/
theorem length_flatten_le {slots : List (Option (List α))} {bound : Nat}
    (h : ∀ piece, some piece ∈ slots → piece.length ≤ bound) :
    slots.reduceOption.flatten.length ≤ slots.length * bound := by
  induction slots with
  | nil => simp
  | cons slot slots ih =>
    have hrest := ih fun piece hpiece => h piece (List.mem_cons_of_mem slot hpiece)
    rw [List.length_cons, Nat.succ_mul]
    cases slot with
    | none =>
      rw [List.reduceOption_cons_of_none]
      omega
    | some held =>
      have hheld := h held List.mem_cons_self
      rw [List.reduceOption_cons_of_some, List.flatten_cons, List.length_append]
      omega

end RobotMulticam.Lib
