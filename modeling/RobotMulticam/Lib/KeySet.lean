import Mathlib

/-!
# Keys of sets and maps

A loop that refuses repeated keys keeps the keys it has seen in an ordered
set. `Holds set keys` says that the set is exactly the list of keys seen, and
that none of them came twice; a key that is not in the set extends the list.

A map collected from a list keeps the last entry of each key, so that what it
returns is an entry of the list, and the entry of that key if there is only
one.
-/

namespace RobotMulticam.Lib

open Std (ExtTreeMap ExtTreeSet)

variable {κ : Type} [Ord κ] [Std.TransOrd κ]

/-- The set holds the keys of the list, which are distinct. -/
structure Holds (set : ExtTreeSet κ) (keys : List κ) : Prop where
  nodup : keys.Nodup
  mem_iff : ∀ key, key ∈ set ↔ key ∈ keys

/-- In a list without repetitions, a key does not occur in front of itself. -/
theorem not_mem_of_nodup {α : Type} {earlier later : List α} {key : α}
    (h : (earlier ++ key :: later).Nodup) : key ∉ earlier := by
  intro hmem
  exact (List.nodup_append.mp h).2.2 key hmem key List.mem_cons_self rfl

namespace Holds

variable {set : ExtTreeSet κ} {keys : List κ} {key : κ}

theorem empty : Holds (∅ : ExtTreeSet κ) [] := ⟨List.nodup_nil, by simp⟩

theorem contains_eq_false (h : Holds set keys) : set.contains key = false ↔ key ∉ keys := by
  rw [← h.mem_iff, ← ExtTreeSet.contains_iff_mem, Bool.not_eq_true]

/-- A new key extends the list. -/
theorem insert [Std.LawfulEqOrd κ] (h : Holds set keys) (hnew : key ∉ keys) :
    Holds (set.insert key) (keys ++ [key]) := by
  refine ⟨?_, ?_⟩
  · rw [← List.concat_eq_append, List.nodup_concat]
    exact ⟨hnew, h.nodup⟩
  · intro other
    rw [ExtTreeSet.mem_insert, Std.LawfulEqCmp.compare_eq_iff_eq, h.mem_iff, List.mem_append,
      List.mem_singleton, eq_comm, or_comm]

end Holds

section Collected

variable [Std.LawfulEqOrd κ] {ν : Type} {items : List ν} {keyOf : ν → κ}

/-- What a collected map returns is one of the items, under its own key. -/
theorem of_getElem?_ofList {key : κ} {item : ν}
    (h : (ExtTreeMap.ofList (items.map fun item => (keyOf item, item)))[key]? = some item) :
    item ∈ items ∧ keyOf item = key := by
  induction items using List.reverseRecOn with
  | nil => simp at h
  | append_singleton items last ih =>
    rw [List.map_append, List.map_singleton, ExtTreeMap.ofList_eq_insertMany_empty,
      ExtTreeMap.insertMany_append, ExtTreeMap.insertMany_list_singleton,
      ← ExtTreeMap.ofList_eq_insertMany_empty, ExtTreeMap.getElem?_insert] at h
    split at h
    · rename_i hkey
      obtain rfl := Option.some.inj h
      exact ⟨by simp, Std.LawfulEqOrd.eq_of_compare hkey⟩
    · obtain ⟨hmem, hkey⟩ := ih h
      exact ⟨List.mem_append_left _ hmem, hkey⟩

/-- With distinct keys, every item's value is found. -/
theorem getElem?_ofList_of_nodup {β : Type} {valueOf : ν → β} (hnodup : (items.map keyOf).Nodup)
    {item : ν} (hmem : item ∈ items) :
    (ExtTreeMap.ofList (items.map fun item => (keyOf item, valueOf item)))[keyOf item]? =
      some (valueOf item) := by
  refine ExtTreeMap.getElem?_ofList_of_mem Std.ReflCmp.compare_self ?_ (List.mem_map_of_mem hmem)
  rw [List.pairwise_map]
  refine (List.pairwise_map.mp hnodup).imp fun hne hsame => hne ?_
  exact Std.LawfulEqOrd.eq_of_compare hsame

end Collected

end RobotMulticam.Lib
