import Mathlib

/-!
# Insertion-ordered dictionaries

`dict keyOf items` is what a dictionary holds after the items were stored
under their keys one after the other: one item for each key, the last one
stored, at the place where the key first came up.
-/

namespace RobotMulticam.Lib

variable {α κ : Type} [DecidableEq κ] {keyOf : α → κ}

/-- Store an item under its key. -/
def dictInsert (keyOf : α → κ) (items : List α) (item : α) : List α :=
  if keyOf item ∈ items.map keyOf then
    items.map fun old => if keyOf old = keyOf item then item else old
  else items ++ [item]

def dict (keyOf : α → κ) (items : List α) : List α := items.foldl (dictInsert keyOf) []

theorem mem_dictInsert {items : List α} {item other : α}
    (h : other ∈ dictInsert keyOf items item) : other = item ∨ other ∈ items := by
  unfold dictInsert at h
  split at h
  · obtain ⟨old, hold, rfl⟩ := List.mem_map.mp h
    split
    · exact Or.inl rfl
    · exact Or.inr hold
  · rcases List.mem_append.mp h with hold | hnew
    · exact Or.inr hold
    · exact Or.inl (List.mem_singleton.mp hnew)

/-- Storing an item replaces no key and adds at most its own. -/
theorem map_dictInsert (items : List α) (item : α) :
    (dictInsert keyOf items item).map keyOf =
      items.map keyOf ++ if keyOf item ∈ items.map keyOf then [] else [keyOf item] := by
  unfold dictInsert
  split
  · rw [List.map_map, List.append_nil]
    refine List.map_congr_left fun old _ => ?_
    simp only [Function.comp_apply]
    split
    · rename_i hsame
      exact hsame.symm
    · rfl
  · rw [List.map_append, List.map_singleton]

/-- What a dictionary holds was stored. -/
theorem mem_of_mem_dict {items : List α} {item : α} (h : item ∈ dict keyOf items) :
    item ∈ items := by
  induction items using List.reverseRecOn with
  | nil => cases h
  | append_singleton items last ih =>
    rw [dict, List.foldl_append] at h
    rcases mem_dictInsert h with rfl | hearlier
    · simp
    · exact List.mem_append_left _ (ih hearlier)

/-- A dictionary has every key once. -/
theorem nodup_map_dict (items : List α) : ((dict keyOf items).map keyOf).Nodup := by
  induction items using List.reverseRecOn with
  | nil => exact List.nodup_nil
  | append_singleton items last ih =>
    rw [dict, List.foldl_append]
    show ((dictInsert keyOf (dict keyOf items) last).map keyOf).Nodup
    rw [map_dictInsert]
    split
    · rwa [List.append_nil]
    · rename_i hnew
      rw [← List.concat_eq_append, List.nodup_concat]
      exact ⟨hnew, ih⟩

end RobotMulticam.Lib
