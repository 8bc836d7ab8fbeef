import Mathlib

/-!
# IEEE 754 binary32 values

`F32` is the bit pattern of a single-precision number. Comparison is the
IEEE one: it is false as soon as a NaN is involved and otherwise compares
the sign-magnitude reading of the bits (`key`), which makes both zeros
equal and orders the infinities outside every finite value.

`toRat` is the number a finite pattern stands for. `lt_iff_toRat_lt` says
that comparing bits compares numbers, so a range check made with `lt` is a
statement about the numbers themselves.
-/

namespace RobotMulticam.Lib

/-- The bit pattern of an `f32`. -/
structure F32 where
  bits : UInt32
  deriving DecidableEq, Repr

namespace F32

/-- Everything but the sign bit. -/
def magnitude (x : F32) : Nat := x.bits.toNat % 2 ^ 31

/-- The sign bit. -/
def negative (x : F32) : Bool := decide (2 ^ 31 ≤ x.bits.toNat)

/-- The magnitude of the infinities: the largest exponent, no fraction. -/
def infinityMagnitude : Nat := 0x7f800000

/-- `f32::is_finite`. -/
def isFinite (x : F32) : Bool := decide (x.magnitude < infinityMagnitude)

/-- `f32::is_nan`. -/
def isNan (x : F32) : Bool := decide (infinityMagnitude < x.magnitude)

/-- Sign-magnitude reading of the bits. -/
def key (x : F32) : Int := if x.negative then -(x.magnitude : Int) else x.magnitude

/-- `left < right` on `f32`. -/
def lt (left right : F32) : Bool :=
  !left.isNan && !right.isNan && decide (left.key < right.key)

/-- The number a magnitude stands for: subnormals below `2 ^ 23`, then one
binade for each exponent. -/
def magnitudeValue (magnitude : Nat) : ℚ :=
  if magnitude < 2 ^ 23 then (magnitude : ℚ) / 2 ^ 149
  else ((2 ^ 23 + magnitude % 2 ^ 23 : ℕ) : ℚ) * 2 ^ (magnitude / 2 ^ 23) / 2 ^ 150

/-- The number a finite `f32` stands for. -/
def toRat (x : F32) : ℚ :=
  if x.negative then -magnitudeValue x.magnitude else magnitudeValue x.magnitude

/-! ## Comparing bits compares numbers -/

theorem magnitudeValue_zero : magnitudeValue 0 = 0 := by
  simp [magnitudeValue]

/-- The next magnitude up stands for a larger number, also across the step
from one binade to the next. -/
theorem magnitudeValue_lt_succ (m : Nat) :
    magnitudeValue m < magnitudeValue (m + 1) := by
  unfold magnitudeValue
  by_cases hsub : m + 1 < 2 ^ 23
  · -- both subnormal
    rw [if_pos (by omega : m < 2 ^ 23), if_pos hsub]
    have : (m : ℚ) < ((m + 1 : ℕ) : ℚ) := by exact_mod_cast Nat.lt_succ_self m
    gcongr
  · by_cases hedge : m < 2 ^ 23
    · -- the largest subnormal against the smallest normal number
      have hm : m = 2 ^ 23 - 1 := by omega
      subst hm
      norm_num
    · rw [if_neg hedge, if_neg hsub]
      by_cases hwrap : m % 2 ^ 23 = 2 ^ 23 - 1
      · -- the fraction wraps and the exponent grows by one
        have hmod : (m + 1) % 2 ^ 23 = 0 := by omega
        have hdiv : (m + 1) / 2 ^ 23 = m / 2 ^ 23 + 1 := by omega
        rw [hmod, hdiv, hwrap]
        have hpow : (0 : ℚ) < 2 ^ (m / 2 ^ 23) := by positivity
        generalize m / 2 ^ 23 = exponent at hpow ⊢
        have hdouble : (2 : ℚ) ^ (exponent + 1) = 2 * 2 ^ exponent := by ring
        apply div_lt_div_of_pos_right _ (by positivity)
        norm_num
        linarith
      · have hmod : (m + 1) % 2 ^ 23 = m % 2 ^ 23 + 1 := by omega
        have hdiv : (m + 1) / 2 ^ 23 = m / 2 ^ 23 := by omega
        rw [hmod, hdiv]
        have hfrac : ((2 ^ 23 + m % 2 ^ 23 : ℕ) : ℚ) <
            ((2 ^ 23 + (m % 2 ^ 23 + 1) : ℕ) : ℚ) := by
          exact_mod_cast (by omega)
        gcongr

theorem magnitudeValue_strictMono : StrictMono magnitudeValue :=
  strictMono_nat_of_lt_succ magnitudeValue_lt_succ

theorem magnitudeValue_nonneg (m : Nat) : 0 ≤ magnitudeValue m := by
  rw [← magnitudeValue_zero]
  exact magnitudeValue_strictMono.monotone (Nat.zero_le m)

theorem key_lt_iff_toRat_lt (left right : F32) :
    left.key < right.key ↔ left.toRat < right.toRat := by
  have hl := magnitudeValue_nonneg left.magnitude
  have hr := magnitudeValue_nonneg right.magnitude
  have hpos : ∀ m : Nat, 0 < magnitudeValue m ↔ 0 < m := by
    intro m
    rw [← magnitudeValue_zero]
    exact magnitudeValue_strictMono.lt_iff_lt
  have hl' := hpos left.magnitude
  have hr' := hpos right.magnitude
  unfold key toRat
  cases left.negative <;> cases right.negative <;>
    simp only [if_true, if_false, Bool.false_eq_true,
      neg_lt_neg_iff, Nat.cast_lt, magnitudeValue_strictMono.lt_iff_lt]
  · constructor <;> intro h
    · omega
    · linarith
  · constructor
    · intro h
      rcases Nat.eq_zero_or_pos left.magnitude with h0 | h0
      · have := hr'.mpr (by omega)
        linarith
      · have := hl'.mpr h0
        linarith
    · intro h
      by_contra hno
      have hlz : left.magnitude = 0 := by omega
      have hrz : right.magnitude = 0 := by omega
      rw [hlz, hrz, magnitudeValue_zero] at h
      simp at h

theorem isNan_of_isFinite {x : F32} (h : x.isFinite = true) : x.isNan = false := by
  simp only [isFinite, isNan, decide_eq_true_eq, decide_eq_false_iff_not] at *
  omega

/-- On finite values the IEEE comparison is the comparison of numbers. -/
theorem lt_iff_toRat_lt {left right : F32} (hl : left.isFinite = true)
    (hr : right.isFinite = true) :
    left.lt right = true ↔ left.toRat < right.toRat := by
  simp [lt, isNan_of_isFinite hl, isNan_of_isFinite hr, key_lt_iff_toRat_lt]

/-- Not below, on finite values, is at least. -/
theorem toRat_le_of_not_lt {left right : F32} (hl : left.isFinite = true)
    (hr : right.isFinite = true) (h : left.lt right = false) :
    right.toRat ≤ left.toRat := by
  have hnot : ¬ left.toRat < right.toRat := by
    rw [← lt_iff_toRat_lt hl hr, h]
    simp
  exact not_lt.mp hnot

end F32

end RobotMulticam.Lib
