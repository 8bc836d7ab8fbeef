import Mathlib

/-!
# The most recent entries of a log, kept as an ordered set

A bounded history of keys is right when it holds exactly the last `capacity`
entries of the log of everything that was ever added. `Recent` says this of
an ordered set; the two step lemmas say how adding a key keeps it: with room
left the key is inserted, and a full set first gives up the entry that was
added first.
-/

namespace RobotMulticam.Lib

open Std (ExtTreeSet)

section Log

variable {κ : Type} {log : List κ} {count : Nat}

/-- An entry is among the last `count` exactly when fewer than `count` came
after one of its occurrences. -/
theorem mem_rtake_iff {key : κ} :
    key ∈ log.rtake count ↔
      ∃ older newer, log = older ++ key :: newer ∧ newer.length < count := by
  constructor
  · intro h
    obtain ⟨between, newer, hsplit⟩ := List.append_of_mem h
    have hlength := congrArg List.length hsplit
    simp only [List.rtake, List.length_drop, List.length_append, List.length_cons] at hlength
    refine ⟨log.take (log.length - count) ++ between, newer, ?_, by omega⟩
    rw [List.append_assoc, ← hsplit, List.rtake, List.take_append_drop]
  · rintro ⟨older, newer, rfl, hnewer⟩
    refine List.mem_of_getElem? (i := older.length -
      ((older ++ key :: newer).length - count)) ?_
    rw [List.rtake, List.getElem?_drop]
    have hindex : (older ++ key :: newer).length - count +
        (older.length - ((older ++ key :: newer).length - count)) = older.length := by
      simp only [List.length_append, List.length_cons]
      omega
    rw [hindex]
    simp

/-- A log with more than `count` entries has an oldest one among the last
`count + 1`. -/
theorem rtake_succ (h : count < log.length) :
    ∃ oldest, log.rtake (count + 1) = oldest :: log.rtake count := by
  have hindex : log.length - (count + 1) < log.length := by omega
  refine ⟨log[log.length - (count + 1)], ?_⟩
  rw [List.rtake, List.drop_eq_getElem_cons hindex, List.rtake]
  congr 2
  omega

theorem rtake_of_length_le (h : log.length ≤ count) : log.rtake count = log := by
  rw [List.rtake, Nat.sub_eq_zero_of_le h, List.drop_zero]

end Log

variable {κ : Type} [Ord κ] [Std.TransOrd κ] [Std.LawfulEqOrd κ]

/-- A set has as many members as any list that names each of them once. -/
theorem size_eq_length {seen : ExtTreeSet κ} {entries : List κ} (hnodup : entries.Nodup)
    (hmem : ∀ key, key ∈ seen ↔ key ∈ entries) : seen.size = entries.length := by
  rw [← ExtTreeSet.length_toList]
  apply List.Perm.length_eq
  refine (List.perm_ext_iff_of_nodup ?_ hnodup).mpr ?_
  · refine seen.distinct_toList.imp ?_
    rintro left right hne rfl
    exact hne Std.ReflCmp.compare_self
  · intro key
    rw [ExtTreeSet.mem_toList]
    exact hmem key

/-- The set holds the last `capacity` entries of the log, all different. -/
structure Recent (capacity : Nat) (log : List κ) (seen : ExtTreeSet κ) : Prop where
  mem : ∀ key, key ∈ seen ↔ key ∈ log.rtake capacity
  nodup : (log.rtake capacity).Nodup

namespace Recent

variable {capacity : Nat} {log : List κ} {seen : ExtTreeSet κ} {key : κ}

omit [Std.LawfulEqOrd κ] in
theorem empty (capacity : Nat) : Recent capacity ([] : List κ) ∅ := by
  refine ⟨?_, ?_⟩
  · intro key
    simp
  · simp

theorem size_eq (h : Recent capacity log seen) : seen.size = min capacity log.length := by
  rw [size_eq_length h.nodup h.mem, List.rtake, List.length_drop]
  omega

/-- A set with room takes the key in. -/
theorem insert_of_room (h : Recent capacity log seen) (hroom : seen.size ≠ capacity)
    (hnew : key ∉ seen) : Recent capacity (log ++ [key]) (seen.insert key) := by
  have hshort : log.length < capacity := by
    have hsize := h.size_eq
    omega
  have hall : log.rtake capacity = log := rtake_of_length_le (Nat.le_of_lt hshort)
  have hnext : (log ++ [key]).rtake capacity = log ++ [key] :=
    rtake_of_length_le (by simpa using hshort)
  have hmem := h.mem
  have hnodup := h.nodup
  rw [hall] at hmem hnodup
  refine ⟨?_, ?_⟩
  · intro other
    rw [hnext, ExtTreeSet.mem_insert, hmem, List.mem_append, List.mem_singleton,
      Std.LawfulEqOrd.compare_eq_iff_eq]
    rw [or_comm, eq_comm]
  · rw [hnext, List.nodup_append_comm]
    exact List.nodup_cons.mpr ⟨fun hin => hnew ((hmem key).mpr hin), hnodup⟩

/-- A full set first gives up the oldest of its entries. -/
theorem insert_evicting (h : Recent capacity log seen) (hpositive : 0 < capacity)
    (hfull : seen.size = capacity) {oldest : κ}
    (holdest : (log.rtake capacity).head? = some oldest) (hnew : key ∉ seen) :
    Recent capacity (log ++ [key]) ((seen.erase oldest).insert key) := by
  obtain ⟨count, rfl⟩ := Nat.exists_eq_succ_of_ne_zero (Nat.pos_iff_ne_zero.mp hpositive)
  have hlong : count < log.length := by
    have hsize := h.size_eq
    omega
  obtain ⟨first, hfirst⟩ := rtake_succ hlong
  have hmem := h.mem
  have hnodup := h.nodup
  rw [Nat.succ_eq_add_one, hfirst] at hmem hnodup holdest
  obtain rfl : first = oldest := Option.some.inj holdest
  obtain ⟨hgone, hrest⟩ := List.nodup_cons.mp hnodup
  have hnext : (log ++ [key]).rtake (count + 1) = log.rtake count ++ [key] :=
    List.rtake_concat_succ log count key
  refine ⟨?_, ?_⟩
  · intro other
    rw [Nat.succ_eq_add_one, hnext, ExtTreeSet.mem_insert, ExtTreeSet.mem_erase, hmem,
      List.mem_append, List.mem_singleton, List.mem_cons,
      Std.LawfulEqOrd.compare_eq_iff_eq, Ne, Std.LawfulEqOrd.compare_eq_iff_eq]
    constructor
    · rintro (rfl | ⟨hne, rfl | hin⟩)
      · exact Or.inr rfl
      · exact absurd rfl hne
      · exact Or.inl hin
    · rintro (hin | rfl)
      · refine Or.inr ⟨?_, Or.inr hin⟩
        rintro rfl
        exact hgone hin
      · exact Or.inl rfl
  · rw [Nat.succ_eq_add_one, hnext, List.nodup_append_comm]
    refine List.nodup_cons.mpr ⟨?_, hrest⟩
    intro hin
    exact hnew ((hmem key).mpr (List.mem_cons_of_mem first hin))

end Recent

end RobotMulticam.Lib
