import Mathlib

/-!
# Consecutive intervals

An interval is an offset and a length. `Consecutive start stop intervals`
says that the intervals, in this order, fill the range from `start` to `stop`
without a gap or an overlap; where they are nonempty, they partition it.
-/

namespace RobotMulticam.Lib

/-- The intervals follow each other from `start` to `stop`. -/
def Consecutive : Nat → Nat → List (Nat × Nat) → Prop
  | start, stop, [] => start = stop
  | start, stop, (offset, length) :: intervals =>
    offset = start ∧ Consecutive (start + length) stop intervals

namespace Consecutive

variable {start stop : Nat} {intervals earlier later : List (Nat × Nat)}

/-- The end is the start and all lengths. -/
theorem stop_eq (h : Consecutive start stop intervals) :
    stop = start + (intervals.map Prod.snd).sum := by
  induction intervals generalizing start with
  | nil =>
    have heq : start = stop := h
    simp [heq]
  | cons interval intervals ih =>
    have hrest := ih h.2
    rw [List.map_cons, List.sum_cons]
    omega

theorem append_iff :
    Consecutive start stop (earlier ++ later) ↔
      ∃ mid, Consecutive start mid earlier ∧ Consecutive mid stop later := by
  induction earlier generalizing start with
  | nil => simp [Consecutive]
  | cons interval earlier ih =>
    simp only [List.cons_append, Consecutive, ih]
    constructor
    · rintro ⟨hoffset, mid, hearlier, hlater⟩
      exact ⟨mid, ⟨hoffset, hearlier⟩, hlater⟩
    · rintro ⟨mid, ⟨hoffset, hearlier⟩, hlater⟩
      exact ⟨hoffset, mid, hearlier, hlater⟩

/-- Every interval is inside the range. -/
theorem mem_range (h : Consecutive start stop intervals) {interval : Nat × Nat}
    (hmem : interval ∈ intervals) : start ≤ interval.1 ∧ interval.1 + interval.2 ≤ stop := by
  induction intervals generalizing start with
  | nil => cases hmem
  | cons head intervals ih =>
    have hstop := h.2.stop_eq
    have hoffset := h.1
    rcases List.mem_cons.mp hmem with rfl | hmem
    · omega
    · have hrest := ih h.2 hmem
      omega

/-- An interval ends before the next one begins. -/
theorem pairwise (h : Consecutive start stop intervals) :
    intervals.Pairwise fun first second => first.1 + first.2 ≤ second.1 := by
  induction intervals generalizing start with
  | nil => exact List.Pairwise.nil
  | cons head intervals ih =>
    refine List.Pairwise.cons (fun interval hmem => ?_) (ih h.2)
    have hoffset := h.1
    have hrange := h.2.mem_range hmem
    omega

end Consecutive

end RobotMulticam.Lib
