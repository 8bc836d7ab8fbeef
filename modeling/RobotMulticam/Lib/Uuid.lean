import Mathlib

/-!
# UUIDs

A `Uuid` is its sixteen bytes in network order. The order is the one the
`uuid` crate derives: lexicographic over the bytes, which is what ordered
sets and maps keyed by a `Uuid` iterate in.
-/

namespace RobotMulticam.Lib

/-- Sixteen bytes in network order. -/
structure Uuid where
  bytes : List UInt8
  size : bytes.length = 16
  deriving DecidableEq

namespace Uuid

instance : Ord Uuid := ⟨compareOn Uuid.bytes⟩

theorem compare_def (left right : Uuid) :
    compare left right = compare left.bytes right.bytes := rfl

@[ext] theorem ext_bytes {left right : Uuid} (h : left.bytes = right.bytes) :
    left = right := by
  cases left
  cases right
  simpa using h

instance : Std.TransOrd Uuid where
  eq_swap := by
    intro left right
    rw [compare_def, compare_def]
    exact Std.OrientedCmp.eq_swap
  isLE_trans := by
    intro left mid right hlm hmr
    rw [compare_def] at *
    exact Std.TransCmp.isLE_trans hlm hmr

instance : Std.LawfulEqOrd Uuid where
  compare_self := by
    intro id
    rw [compare_def]
    exact Std.ReflCmp.compare_self
  eq_of_compare := by
    intro left right h
    rw [compare_def] at h
    exact ext_bytes (Std.LawfulEqCmp.eq_of_compare h)

/-- `Uuid::from_slice`. -/
def fromSlice (bytes : List UInt8) : Option Uuid :=
  if h : bytes.length = 16 then some ⟨bytes, h⟩ else none

@[simp] theorem fromSlice_bytes (id : Uuid) : fromSlice id.bytes = some id := by
  simp [fromSlice, id.size]

theorem fromSlice_eq_some {bytes : List UInt8} {id : Uuid} :
    fromSlice bytes = some id ↔ bytes = id.bytes := by
  constructor
  · intro h
    unfold fromSlice at h
    split at h
    · injection h with h
      rw [← h]
    · cases h
  · rintro rfl
    exact fromSlice_bytes id

/-- `Uuid::from_u128`, for short literals. -/
def ofNat (value : Nat) : Uuid where
  bytes := (List.range 16).map fun index => UInt8.ofNat (value >>> (8 * (15 - index)))
  size := by simp

end Uuid

end RobotMulticam.Lib
