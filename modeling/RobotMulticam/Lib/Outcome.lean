import Mathlib

/-!
# Results of fallible Rust calls

A call returns a value, returns an error, or panics. `Outcome` keeps the
last two apart: a panic unwinds the calling thread and is never handled by
`?`, so a theorem that a call "returns normally" has to exclude it.

The machine-word operations below are the ones whose overflow behaviour the
code spells out (`checked_add`, `saturating_add`). Sizes are `Nat`; a target
with 64-bit `usize` is assumed throughout.
-/

namespace RobotMulticam.Lib

/-- How a call that did not return a value ended. -/
inductive Fault (ε : Type) where
  | err (error : ε)
  | panic
  deriving DecidableEq, Repr

/-- The result of a call: a value, an error, or a panic. -/
abbrev Outcome (ε α : Type) := Except (Fault ε) α

/-- `Err(error)`. -/
def fail {ε α : Type} (error : ε) : Outcome ε α := .error (.err error)

/-- The call panicked. -/
def panicked {ε α : Type} : Outcome ε α := .error .panic

/-- `option.ok_or(error)`. -/
def okOr {ε α : Type} (error : ε) : Option α → Outcome ε α
  | some value => .ok value
  | none => fail error

/-- `result.map_err(f)`; a panic is not an error and passes through. -/
def mapErr {ε δ α : Type} (f : ε → δ) : Outcome ε α → Outcome δ α
  | .ok value => .ok value
  | .error (.err error) => fail (f error)
  | .error .panic => panicked

variable {ε α β : Type}

@[simp] theorem okOr_some (error : ε) (value : α) :
    okOr error (some value) = .ok value := rfl

@[simp] theorem okOr_none (error : ε) :
    okOr error (none : Option α) = fail error := rfl

variable {option : Option α} {value : α} {result : Except ε α}

theorem okOr_eq_ok {error : ε} : okOr error option = .ok value ↔ option = some value := by
  cases option with
  | none => simp [okOr, fail]
  | some found => simp [okOr]

@[simp] theorem fail_ne_ok (error : ε) (value : α) : (fail error : Outcome ε α) ≠ .ok value := by
  simp [fail]

@[simp] theorem panicked_ne_ok (value : α) : (panicked : Outcome ε α) ≠ .ok value := by
  simp [panicked]

theorem mapErr_eq_ok {δ : Type} {f : ε → δ} {result : Outcome ε α} :
    mapErr f result = .ok value ↔ result = .ok value := by
  cases result with
  | ok found => simp [mapErr]
  | error fault => cases fault <;> simp [mapErr]

theorem mapError_eq_ok {δ : Type} {f : ε → δ} :
    result.mapError f = .ok value ↔ result = .ok value := by
  cases result with
  | error error => simp [Except.mapError]
  | ok found => simp [Except.mapError]

/-- `option.context(message)` of `anyhow`. -/
def withContext {α : Type} (message : String) : Option α → Except String α
  | some value => .ok value
  | none => .error message

theorem withContext_eq_ok {message : String} :
    withContext message option = .ok value ↔ option = some value := by
  cases option with
  | none => simp [withContext]
  | some found => simp [withContext]

/-- A sequence returns a value exactly when both halves do. -/
theorem bind_eq_ok {first : Except ε α} {next : α → Except ε β} {value : β} :
    (first >>= next) = .ok value ↔
      ∃ mid, first = .ok mid ∧ next mid = .ok value := by
  cases first with
  | error fault => simp [bind, Except.bind]
  | ok mid => simp [bind, Except.bind]

theorem toOption_eq_some : result.toOption = some value ↔ result = .ok value := by
  cases result with
  | error error => simp [Except.toOption]
  | ok found => simp [Except.toOption]

theorem eq_ok_of_isSome (h : result.toOption.isSome = true) :
    result = .ok (result.toOption.get h) := by
  cases result with
  | error error => cases h
  | ok value => rfl

/-- Writing and reading that undo each other pair what can be read with what
can be written. -/
theorem exists_equiv_of_undo {write : α → Except ε β} {read : β → Except ε α}
    (hundo : ∀ value text, write value = .ok text ↔ read text = .ok value) :
    ∃ pairing : {text // ∃ value, read text = .ok value} ≃ {value // ∃ text, write value = .ok text},
      ∀ text, read text.1 = .ok (pairing text).1 := by
  choose valueOf hvalue using fun text : {text // ∃ value, read text = .ok value} => text.2
  choose textOf htext using fun value : {value // ∃ text, write value = .ok text} => value.2
  have hwrites : ∀ text, write (valueOf text) = .ok text.1 := fun text =>
    (hundo _ _).mpr (hvalue text)
  have hreads : ∀ value, read (textOf value) = .ok value.1 := fun value =>
    (hundo _ _).mp (htext value)
  refine ⟨⟨fun text => ⟨valueOf text, text.1, hwrites text⟩,
    fun value => ⟨textOf value, value.1, hreads value⟩, ?_, ?_⟩, hvalue⟩
  · intro text
    exact Subtype.ext (Except.ok.inj ((htext _).symm.trans (hwrites text)))
  · intro value
    exact Subtype.ext (Except.ok.inj ((hvalue _).symm.trans (hreads value)))

@[simp] theorem ok_bind (mid : α) (next : α → Except ε β) :
    (Except.ok mid >>= next) = next mid := rfl

@[simp] theorem fail_bind (error : ε) (next : α → Outcome ε β) :
    (fail error >>= next) = fail error := rfl

@[simp] theorem panicked_bind (next : α → Outcome ε β) :
    (panicked >>= next) = panicked := rfl

/-! ## Machine words -/

/-- `usize::MAX`. -/
def usizeMax : Nat := 2 ^ 64 - 1

/-- `isize::MAX`, the most bytes one allocation can hold. -/
def isizeMax : Nat := 2 ^ 63 - 1

/-- `usize::checked_add`. -/
def checkedAdd (left right : Nat) : Option Nat :=
  if left + right ≤ usizeMax then some (left + right) else none

/-- `usize::saturating_add`. -/
def saturatingAdd (left right : Nat) : Nat := min (left + right) usizeMax

/-- `usize::saturating_mul`. -/
def saturatingMul (left right : Nat) : Nat := min (left * right) usizeMax

theorem checkedAdd_of_le {left right : Nat} (h : left + right ≤ usizeMax) :
    checkedAdd left right = some (left + right) := if_pos h

theorem checkedAdd_eq_some {left right sum : Nat} :
    checkedAdd left right = some sum ↔
      left + right ≤ usizeMax ∧ sum = left + right := by
  unfold checkedAdd
  split
  · rename_i h
    simp [h, eq_comm]
  · rename_i h
    simp [h]

variable (left right : UInt64)

/-- `u64::saturating_add`. -/
def saturatingAdd64 : UInt64 :=
  if left.toNat + right.toNat < 2 ^ 64 then left + right else UInt64.ofNat (2 ^ 64 - 1)

/-- `u64::saturating_sub`. -/
def saturatingSub64 : UInt64 := if right ≤ left then left - right else 0

/-- `u64::abs_diff`. -/
def absDiff64 : UInt64 :=
  if right ≤ left then left - right else right - left

theorem toNat_saturatingSub64 : (saturatingSub64 left right).toNat = left.toNat - right.toNat := by
  unfold saturatingSub64
  split
  · rename_i hle
    exact UInt64.toNat_sub_of_le left right hle
  · rename_i hlt
    have hless := UInt64.lt_iff_toNat_lt.mp (UInt64.not_le.mp hlt)
    rw [UInt64.toNat_zero]
    omega

theorem toNat_absDiff64 : (absDiff64 left right).toNat = Nat.dist left.toNat right.toNat := by
  unfold absDiff64
  split
  · rename_i hle
    rw [UInt64.toNat_sub_of_le left right hle, Nat.dist_comm]
    exact (Nat.dist_eq_sub_of_le (UInt64.le_iff_toNat_le.mp hle)).symm
  · rename_i hlt
    have hle := UInt64.le_of_lt (UInt64.not_le.mp hlt)
    rw [UInt64.toNat_sub_of_le right left hle]
    exact (Nat.dist_eq_sub_of_le (UInt64.le_iff_toNat_le.mp hle)).symm

/-- A `u64` counter after `count` saturating increments from zero. -/
def counted64 (count : Nat) : UInt64 := UInt64.ofNat (min count (2 ^ 64 - 1))

theorem toNat_counted64 (count : Nat) : (counted64 count).toNat = min count (2 ^ 64 - 1) := by
  rw [counted64, UInt64.toNat_ofNat', Nat.mod_eq_of_lt (by omega)]

theorem counted64_succ (count : Nat) :
    saturatingAdd64 (counted64 count) 1 = counted64 (count + 1) := by
  apply UInt64.toNat_inj.mp
  have hone : (1 : UInt64).toNat = 1 := rfl
  rw [saturatingAdd64]
  split
  · rename_i hroom
    rw [toNat_counted64, hone] at hroom
    rw [UInt64.toNat_add, toNat_counted64, toNat_counted64, hone]
    omega
  · rename_i hfull
    rw [toNat_counted64, hone] at hfull
    rw [UInt64.toNat_ofNat', toNat_counted64]
    omega

/-- Counting is strict as long as the counter does not saturate. -/
theorem pairwise_counted64 (count : Nat) :
    ((List.range count).map counted64).Pairwise (· < ·) ↔ count ≤ 2 ^ 64 := by
  rw [List.pairwise_map]
  constructor
  · intro h
    by_contra hlong
    have hlast := List.pairwise_iff_getElem.mp h (2 ^ 64 - 1) (2 ^ 64)
      (by rw [List.length_range]; omega) (by rw [List.length_range]; omega) (by omega)
    rw [List.getElem_range, List.getElem_range, UInt64.lt_iff_toNat_lt, toNat_counted64,
      toNat_counted64] at hlast
    omega
  · intro hshort
    refine List.pairwise_lt_range.imp_of_mem ?_
    intro i j _ hj hlt
    have hbound := List.mem_range.mp hj
    rw [UInt64.lt_iff_toNat_lt, toNat_counted64, toNat_counted64]
    omega

/-! ## Slices and vectors -/

/-- `bytes[begin..finish]`, which panics unless `begin ≤ finish ≤ len`. -/
def slice {ε α : Type} (bytes : List α) (begin finish : Nat) : Outcome ε (List α) :=
  if begin ≤ finish ∧ finish ≤ bytes.length then
    .ok ((bytes.drop begin).take (finish - begin))
  else panicked

/-- A `Vec<u8>` never holds more than `isize::MAX` bytes: growing one past
that panics with a capacity overflow. -/
def vec {ε : Type} (bytes : List UInt8) : Outcome ε (List UInt8) :=
  if bytes.length ≤ isizeMax then .ok bytes else panicked

theorem vec_eq_ok {bytes out : List UInt8} :
    (vec bytes : Outcome ε (List UInt8)) = .ok out ↔
      bytes.length ≤ isizeMax ∧ out = bytes := by
  unfold vec
  split
  · rename_i h
    simp [h, eq_comm]
  · rename_i h
    simp [h]

theorem slice_of_le {bytes : List α} {begin finish : Nat} (ordered : begin ≤ finish)
    (inside : finish ≤ bytes.length) :
    (slice bytes begin finish : Outcome ε (List α)) =
      .ok ((bytes.drop begin).take (finish - begin)) :=
  if_pos ⟨ordered, inside⟩

end RobotMulticam.Lib
