import Mathlib

/-!
# A set that is emptied when it is full

A cheap way to bound a set of seen keys is to clear it when it is full. It
then knows the keys since it was last cleared: the log of all keys falls into
epochs of `capacity` keys, and the set holds the current one (`Epoch`). A key
that is checked against the set is `Fresh` in its epoch, and so a log of such
keys repeats a key only across epochs (`Fresh.nodup_iff`).
-/

namespace RobotMulticam.Lib

variable {κ : Type}

/-- Where the epoch began that the set holds after `count` keys. -/
def epochStart (capacity count : ℕ) : ℕ := capacity * ((count - 1) / capacity)

theorem epochStart_le (capacity count : ℕ) : epochStart capacity count ≤ count :=
  (Nat.mul_div_le _ _).trans (Nat.sub_le _ _)

variable {capacity : ℕ} {log : List κ}

theorem epochStart_succ (hpositive : 0 < capacity) (count : ℕ) :
    epochStart capacity (count + 1) =
      if capacity ≤ count - epochStart capacity count then count
      else epochStart capacity count := by
  unfold epochStart
  rw [Nat.add_sub_cancel]
  cases count with
  | zero => simp [Nat.not_le.mpr hpositive]
  | succ last =>
    rw [Nat.add_sub_cancel]
    have hlast := Nat.div_add_mod last capacity
    have hmod := Nat.mod_lt last hpositive
    generalize last / capacity = full at *
    split
    · -- the key before was the last that fitted
      have hnext : last + 1 = capacity * (full + 1) := by
        rw [Nat.mul_succ]
        omega
      rw [hnext, Nat.mul_div_cancel_left _ hpositive]
    · congr 1
      refine Nat.div_eq_of_lt_le ?_ ?_
      · rw [Nat.mul_comm]
        omega
      · rw [Nat.mul_comm, Nat.mul_succ]
        omega

/-- No key of the log is among those of its epoch before it. -/
def Fresh (capacity : ℕ) (log : List κ) : Prop :=
  ∀ k (hk : k < log.length), log[k] ∉ (log.take k).drop (epochStart capacity k)

theorem fresh_nil (capacity : ℕ) : Fresh capacity ([] : List κ) := by
  intro k hk
  exact absurd hk (Nat.not_lt_zero k)

theorem fresh_concat {key : κ} :
    Fresh capacity (log ++ [key]) ↔
      Fresh capacity log ∧ key ∉ log.drop (epochStart capacity log.length) := by
  have hbefore : ∀ k ≤ log.length, (log ++ [key]).take k = log.take k := fun k hk =>
    List.take_append_of_le_length hk
  constructor
  · intro h
    refine ⟨?_, ?_⟩
    · intro k hk
      have hkey := h k (by rw [List.length_append]; omega)
      rwa [hbefore k hk.le, List.getElem_append_left hk] at hkey
    · have hkey := h log.length (by simp)
      rwa [hbefore _ le_rfl, List.take_length, List.getElem_concat_length rfl] at hkey
  · rintro ⟨hlog, hkey⟩ k hk
    have hle : k ≤ log.length := by
      rw [List.length_append, List.length_singleton] at hk
      omega
    rw [hbefore k hle]
    rcases hle.lt_or_eq with hlt | heq
    · rw [List.getElem_append_left hlt]
      exact hlog k hlt
    · rw [List.getElem_concat_length heq, heq, List.take_length]
      exact hkey

theorem Fresh.of_append {more : List κ} (h : Fresh capacity (log ++ more)) :
    Fresh capacity log := by
  induction more using List.reverseRecOn with
  | nil => rwa [List.append_nil] at h
  | append_singleton more key ih =>
    rw [← List.append_assoc, fresh_concat] at h
    exact ih h.1

theorem fresh_of_nodup (capacity : ℕ) (h : log.Nodup) : Fresh capacity log := by
  induction log using List.reverseRecOn with
  | nil => exact fresh_nil capacity
  | append_singleton log key ih =>
    obtain ⟨hnew, hlog⟩ := List.nodup_cons.mp (List.nodup_append_comm.mp h)
    exact fresh_concat.mpr ⟨ih hlog, fun hmem => hnew (List.mem_of_mem_drop hmem)⟩

theorem Fresh.nodup_iff (h : Fresh capacity log) :
    log.Nodup ↔ ∀ j k, j < epochStart capacity k → k < log.length → log[j]? ≠ log[k]? := by
  rw [List.nodup_iff_getElem?_ne_getElem?]
  constructor
  · intro hdistinct j k hj hk
    exact hdistinct j k (hj.trans_le (epochStart_le capacity k)) hk
  · intro hepochs j k hjk hk hsame
    by_cases hj : j < epochStart capacity k
    · exact hepochs j k hj hk hsame
    · refine h k hk (List.mem_of_getElem? (i := j - epochStart capacity k) ?_)
      rw [List.getElem?_drop, Nat.add_sub_cancel' (not_lt.mp hj), List.getElem?_take_of_lt hjk,
        hsame, List.getElem?_eq_getElem hk]

variable [DecidableEq κ]

/-- Adds a key; a full set is emptied first. -/
def renew (capacity : ℕ) (seen : Finset κ) (key : κ) : Finset κ :=
  insert key (if capacity ≤ seen.card then ∅ else seen)

/-- The set holds the keys of the log's last epoch. -/
structure Epoch (capacity : ℕ) (log : List κ) (seen : Finset κ) : Prop where
  fresh : Fresh capacity log
  nodup : (log.drop (epochStart capacity log.length)).Nodup
  seen_eq : seen = (log.drop (epochStart capacity log.length)).toFinset

namespace Epoch

variable {capacity : ℕ} {log : List κ} {seen : Finset κ} {key : κ}

theorem empty (capacity : ℕ) : Epoch capacity ([] : List κ) ∅ := by
  refine ⟨fresh_nil capacity, ?_, ?_⟩
  · rw [List.drop_nil]
    exact List.nodup_nil
  · simp

theorem mem_iff (h : Epoch capacity log seen) :
    key ∈ seen ↔ key ∈ log.drop (epochStart capacity log.length) := by
  rw [h.seen_eq, List.mem_toFinset]

theorem card_eq (h : Epoch capacity log seen) :
    seen.card = log.length - epochStart capacity log.length := by
  rw [h.seen_eq, List.toFinset_card_of_nodup h.nodup, List.length_drop]

theorem renew (h : Epoch capacity log seen) (hpositive : 0 < capacity) (hnew : key ∉ seen) :
    Epoch capacity (log ++ [key]) (renew capacity seen key) := by
  have hstart := epochStart_succ hpositive log.length
  rw [← h.card_eq] at hstart
  have hlength : (log ++ [key]).length = log.length + 1 := by simp
  rw [h.mem_iff] at hnew
  have hfresh : Fresh capacity (log ++ [key]) := fresh_concat.mpr ⟨h.fresh, hnew⟩
  by_cases hfull : capacity ≤ seen.card
  · rw [if_pos hfull] at hstart
    refine ⟨hfresh, ?_, ?_⟩
    · rw [hlength, hstart, List.drop_left]
      exact List.nodup_singleton key
    · rw [hlength, hstart, List.drop_left]
      simp [Lib.renew, hfull]
  · rw [if_neg hfull] at hstart
    have hdrop : (log ++ [key]).drop (epochStart capacity (log ++ [key]).length) =
        log.drop (epochStart capacity log.length) ++ [key] := by
      rw [hlength, hstart, List.drop_append_of_le_length (epochStart_le _ _)]
    refine ⟨hfresh, ?_, ?_⟩
    · rw [hdrop, List.nodup_append_comm]
      exact List.nodup_cons.mpr ⟨hnew, h.nodup⟩
    · rw [hdrop, List.toFinset_append, ← h.seen_eq]
      simp [Lib.renew, hfull]

end Epoch

end RobotMulticam.Lib
