import Mathlib

/-!
# Segments and bitmaps

Two ways to pack many values into one list, and what a write leaves alone.

`splice` writes values at an offset and `segmentAt` reads them back; segments apart
from the written one do not change. `setBit` and `testBit` do the same for a
bitmap of bytes whose bits are numbered from the least significant one.
-/

namespace RobotMulticam.Lib

/-! ## Segments -/

section Segments

variable {α : Type} {items values : List α} {start offset length : Nat}

/-- `items[offset..offset + length]` -/
def segmentAt (offset length : Nat) (items : List α) : List α := (items.drop offset).take length

/-- `items[start..start + values.len()].copy_from_slice(values)` -/
def splice (start : Nat) (values items : List α) : List α :=
  items.take start ++ values ++ items.drop (start + values.length)

theorem length_splice (h : start + values.length ≤ items.length) :
    (splice start values items).length = items.length := by
  simp only [splice, List.length_append, List.length_take, List.length_drop]
  omega

theorem segmentAt_replicate (value : α) {count : Nat} (h : offset + length ≤ count) :
    segmentAt offset length (List.replicate count value) = List.replicate length value := by
  simp only [segmentAt, List.drop_replicate, List.take_replicate]
  congr 1
  omega

theorem segmentAt_splice_self (h : start + values.length ≤ items.length) :
    segmentAt start values.length (splice start values items) = values := by
  have hlength : (items.take start).length = start := by
    rw [List.length_take]
    omega
  unfold segmentAt splice
  rw [List.append_assoc, List.drop_left' hlength, List.take_left]

theorem getElem?_segmentAt (index : Nat) :
    (segmentAt offset length items)[index]? = if index < length then items[offset + index]? else none := by
  rw [segmentAt, List.getElem?_take, List.getElem?_drop]

theorem getElem?_splice_of_outside {index : Nat} (h : start + values.length ≤ items.length)
    (hindex : index < start ∨ start + values.length ≤ index) :
    (splice start values items)[index]? = items[index]? := by
  have hlength : (items.take start).length = start := by
    rw [List.length_take]
    omega
  unfold splice
  rcases hindex with hbefore | hbehind
  · rw [List.append_assoc, List.getElem?_append_left (by omega), List.getElem?_take, if_pos hbefore]
  · rw [List.getElem?_append_right (by rw [List.length_append]; omega), List.length_append, hlength,
      List.getElem?_drop]
    congr 1
    omega

/-- A write does not touch the segments apart from it. -/
theorem segmentAt_splice_of_disjoint (h : start + values.length ≤ items.length)
    (hdisjoint : offset + length ≤ start ∨ start + values.length ≤ offset) :
    segmentAt offset length (splice start values items) = segmentAt offset length items := by
  apply List.ext_getElem?
  intro index
  rw [getElem?_segmentAt, getElem?_segmentAt]
  split
  · exact getElem?_splice_of_outside h (by omega)
  · rfl

end Segments

/-! ## Bitmaps -/

section Bitmaps

variable {bitmap : List UInt8} {index other : Nat}

/-- `bitmap.get(index / 8).is_some_and(|byte| byte & (1 << (index % 8)) != 0)` -/
def testBit (bitmap : List UInt8) (index : Nat) : Bool :=
  bitmap[index / 8]?.any fun byte => byte &&& (1 <<< UInt8.ofNat (index % 8)) != 0

/-- `bitmap[index / 8] |= 1 << (index % 8)` -/
def setBit (bitmap : List UInt8) (index : Nat) : List UInt8 :=
  bitmap.modify (index / 8) fun byte => byte ||| (1 <<< UInt8.ofNat (index % 8))

theorem toNat_bit {place : Nat} (h : place < 8) :
    (1 <<< UInt8.ofNat place : UInt8).toNat = 2 ^ place := by
  interval_cases place <;> rfl

theorem and_bit_ne_zero (byte : UInt8) {place : Nat} (h : place < 8) :
    (byte &&& (1 <<< UInt8.ofNat place) != 0) = byte.toNat.testBit place := by
  have hand : (byte &&& (1 <<< UInt8.ofNat place)).toNat =
      (byte.toNat.testBit place).toNat * 2 ^ place := by
    rw [UInt8.toNat_and, toNat_bit h, Nat.and_two_pow]
  have hzero : byte &&& (1 <<< UInt8.ofNat place) = 0 ↔ byte.toNat.testBit place = false := by
    rw [← UInt8.toNat_inj, hand]
    cases byte.toNat.testBit place <;> simp
  cases hbit : byte.toNat.testBit place with
  | false => simp [hzero.mpr hbit]
  | true => simpa [hbit] using hzero

theorem or_bit_and_bit (byte : UInt8) {place reading : Nat} (h : place < 8)
    (hreading : reading < 8) :
    ((byte ||| (1 <<< UInt8.ofNat place)) &&& (1 <<< UInt8.ofNat reading) != 0) =
      ((byte &&& (1 <<< UInt8.ofNat reading) != 0) || decide (place = reading)) := by
  rw [and_bit_ne_zero _ hreading, and_bit_ne_zero _ hreading, UInt8.toNat_or, toNat_bit h,
    Nat.testBit_or, Nat.testBit_two_pow]

theorem length_setBit : (setBit bitmap index).length = bitmap.length := List.length_modify ..

/-- Setting a bit changes no other. -/
theorem testBit_setBit (h : index / 8 < bitmap.length) :
    testBit (setBit bitmap index) other = (testBit bitmap other || decide (index = other)) := by
  unfold testBit setBit
  rw [List.getElem?_modify]
  by_cases hbyte : index / 8 = other / 8
  · obtain ⟨byte, hfound⟩ : ∃ byte, bitmap[other / 8]? = some byte :=
      ⟨_, List.getElem?_eq_getElem (hbyte ▸ h)⟩
    have hsame : index % 8 = other % 8 ↔ index = other := by omega
    have hbits := or_bit_and_bit byte (Nat.mod_lt index (by decide : 0 < 8))
      (Nat.mod_lt other (by decide : 0 < 8))
    simp only [hsame] at hbits
    simpa [hfound, hbyte] using hbits
  · have hne : index ≠ other := fun heq => hbyte (by rw [heq])
    simp [hbyte, hne]

theorem testBit_replicate_zero (count index : Nat) :
    testBit (List.replicate count 0) index = false := by
  unfold testBit
  rw [List.getElem?_replicate]
  split <;> simp

end Bitmaps

end RobotMulticam.Lib
