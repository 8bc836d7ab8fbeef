import Mathlib

/-!
# Logs that go round a list

A log goes round `items` when it is the beginning of their endless
repetition. Whatever window of one round is cut out of such a log is a
rotation of the items, so it has each of them once.
-/

namespace RobotMulticam.Lib

variable {α : Type} {items log : List α}

/-- The log is the beginning of `items ++ items ++ …`. -/
def Cycles (items log : List α) : Prop :=
  ∀ position < log.length, log[position]? = items[position % items.length]?

theorem cycles_nil (items : List α) : Cycles items [] := by
  intro position hposition
  simp at hposition

/-- The next entry is the item at its position in the round. -/
theorem Cycles.concat (h : Cycles items log) {item : α}
    (hitem : items[log.length % items.length]? = some item) : Cycles items (log ++ [item]) := by
  intro position hposition
  rw [List.length_append, List.length_singleton] at hposition
  by_cases hearlier : position < log.length
  · rw [List.getElem?_append_left hearlier]
    exact h position hearlier
  · obtain rfl : position = log.length := by omega
    rw [List.getElem?_concat_length, hitem]

/-- One round from any position is a rotation of the items. -/
theorem Cycles.window (h : Cycles items log) {position : Nat}
    (hfits : position + items.length ≤ log.length) :
    (log.drop position).take items.length = items.rotate position := by
  apply List.ext_getElem?
  intro offset
  by_cases hinside : offset < items.length
  · rw [List.getElem?_take_of_lt hinside, List.getElem?_drop, h _ (by omega),
      List.getElem?_rotate hinside, Nat.add_comm]
  · rw [List.getElem?_eq_none (by simp; omega), List.getElem?_eq_none (by simp; omega)]

/-! ## Where a round starts -/

/-- The position at which the round of the last of `count` entries starts. -/
def roundStart (round count : Nat) : Nat := (count - 1) / round * round

variable {round count : Nat}

theorem roundStart_lt (h : 0 < count) : roundStart round count < count := by
  have := Nat.div_mul_le_self (count - 1) round
  unfold roundStart
  omega

/-- An entry behind complete rounds starts one. -/
theorem roundStart_succ_of_dvd (h : round ∣ count) :
    roundStart round (count + 1) = count := Nat.div_mul_cancel h

/-- Any other entry belongs to the round of the one before it. -/
theorem roundStart_succ (h : ¬ round ∣ count) :
    roundStart round (count + 1) = roundStart round count := by
  cases count with
  | zero => exact absurd (dvd_zero round) h
  | succ earlier =>
    unfold roundStart
    rw [Nat.add_sub_cancel, Nat.add_sub_cancel, Nat.succ_div_of_not_dvd h]

theorem roundStart_of_dvd (h : round ∣ count) (hsome : 0 < count) :
    roundStart round count = count - round := by
  obtain ⟨rounds, rfl⟩ := h
  obtain ⟨earlier, rfl⟩ : ∃ earlier, rounds = earlier + 1 :=
    Nat.exists_eq_succ_of_ne_zero (Nat.ne_of_gt (Nat.pos_of_mul_pos_left hsome))
  have hround : 0 < round := Nat.pos_of_mul_pos_right hsome
  rw [show round * (earlier + 1) = earlier * round + round by ring]
  have hlast : (earlier * round + round - 1) / round = earlier := by
    apply Nat.div_eq_of_lt_le
    · omega
    · rw [Nat.add_mul, Nat.one_mul]
      omega
  rw [roundStart, hlast, Nat.add_sub_cancel]

end RobotMulticam.Lib
