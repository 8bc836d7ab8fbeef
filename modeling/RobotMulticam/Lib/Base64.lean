import Mathlib

/-!
# Base64 without padding

Three bytes are written as four letters, a rest of one or two bytes as two or
three. The decoder takes canonical text only: no padding, and zeros in the
bits of the last letter that belong to no byte. Every text it accepts is then
the encoding of what it reads.
-/

namespace RobotMulticam.Lib.Base64

/-- Sixty-four different letters. -/
structure Alphabet where
  letter : Fin 64 → Char
  injective : Function.Injective letter

namespace Alphabet

variable (alphabet : Alphabet)

def value (char : Char) : Option (Fin 64) :=
  (List.finRange 64).find? fun value => alphabet.letter value = char

theorem value_eq_some {char : Char} {value : Fin 64} :
    alphabet.value char = some value ↔ char = alphabet.letter value := by
  constructor
  · intro h
    have hfound := List.find?_some h
    exact (of_decide_eq_true hfound).symm
  · rintro rfl
    rw [Alphabet.value, List.find?_eq_some_iff_append]
    obtain ⟨before, after, hsplit⟩ := List.append_of_mem (List.mem_finRange value)
    refine ⟨by simp, before, after, hsplit, ?_⟩
    -- the range has no repetition, so nothing in front of `value` is `value`
    have hnodup := List.nodup_finRange 64
    rw [hsplit, List.nodup_append] at hnodup
    intro earlier hearlier
    have hne := hnodup.2.2 earlier hearlier value List.mem_cons_self
    simpa using fun hsame => hne (alphabet.injective hsame)

@[simp] theorem value_letter (value : Fin 64) :
    alphabet.value (alphabet.letter value) = some value :=
  alphabet.value_eq_some.mpr rfl

/-- The letter of the lowest six bits. -/
def sextet (bits : Nat) : Char := alphabet.letter (Fin.ofNat 64 bits)

/-- `Engine::encode`. -/
def encode : List UInt8 → List Char
  | [] => []
  | [a] => [alphabet.sextet (a.toNat / 4), alphabet.sextet (a.toNat * 16)]
  | [a, b] =>
    [alphabet.sextet (a.toNat / 4), alphabet.sextet (a.toNat * 16 + b.toNat / 16),
      alphabet.sextet (b.toNat * 4)]
  | a :: b :: c :: rest =>
    alphabet.sextet (a.toNat / 4) :: alphabet.sextet (a.toNat * 16 + b.toNat / 16) ::
      alphabet.sextet (b.toNat * 4 + c.toNat / 64) :: alphabet.sextet c.toNat :: encode rest

/-- `Engine::decode`: no padding, no trailing bits. -/
def decode : List Char → Option (List UInt8)
  | [] => some []
  | [_] => none
  | [w, x] => do
    let w ← alphabet.value w
    let x ← alphabet.value x
    if x.val % 16 = 0 then some [UInt8.ofNat (w.val * 4 + x.val / 16)] else none
  | [w, x, y] => do
    let w ← alphabet.value w
    let x ← alphabet.value x
    let y ← alphabet.value y
    if y.val % 4 = 0 then
      some [UInt8.ofNat (w.val * 4 + x.val / 16), UInt8.ofNat (x.val * 16 + y.val / 4)]
    else none
  | w :: x :: y :: z :: rest => do
    let w ← alphabet.value w
    let x ← alphabet.value x
    let y ← alphabet.value y
    let z ← alphabet.value z
    let bytes ← decode rest
    some (UInt8.ofNat (w.val * 4 + x.val / 16) :: UInt8.ofNat (x.val * 16 + y.val / 4) ::
      UInt8.ofNat (y.val * 64 + z.val) :: bytes)

theorem sextet_eq_letter {bits : Nat} {value : Fin 64} (h : bits % 64 = value.val) :
    alphabet.sextet bits = alphabet.letter value :=
  congrArg alphabet.letter (Fin.ext h)

theorem ofNat_eq {bits : Nat} {byte : UInt8} (h : bits % 256 = byte.toNat) :
    UInt8.ofNat bits = byte :=
  UInt8.toNat_inj.mp (UInt8.toNat_ofNat'.trans h)

theorem decode_encode (bytes : List UInt8) :
    alphabet.decode (alphabet.encode bytes) = some bytes := by
  fun_induction alphabet.encode bytes with
  | case1 => rfl
  | case2 a =>
    have ha := a.toNat_lt
    simp only [decode, sextet, value_letter, Option.bind_eq_bind, Option.bind_some,
      Fin.val_ofNat]
    rw [if_pos (by omega), ofNat_eq (show _ = a.toNat by omega)]
  | case3 a b =>
    have ha := a.toNat_lt
    have hb := b.toNat_lt
    simp only [decode, sextet, value_letter, Option.bind_eq_bind, Option.bind_some,
      Fin.val_ofNat]
    rw [if_pos (by omega), ofNat_eq (show _ = a.toNat by omega),
      ofNat_eq (show _ = b.toNat by omega)]
  | case4 a b c rest ih =>
    have ha := a.toNat_lt
    have hb := b.toNat_lt
    have hc := c.toNat_lt
    simp only [decode, sextet, value_letter, Option.bind_eq_bind, Option.bind_some,
      Fin.val_ofNat, ih]
    rw [ofNat_eq (show _ = a.toNat by omega), ofNat_eq (show _ = b.toNat by omega),
      ofNat_eq (show _ = c.toNat by omega)]

variable {text : List Char} {bytes : List UInt8}

theorem encode_of_decode (h : alphabet.decode text = some bytes) :
    alphabet.encode bytes = text := by
  induction text using decode.induct generalizing bytes with
  | case1 =>
    cases h
    rfl
  | case2 char => cases h
  | case3 w x =>
    simp only [decode, Option.bind_eq_bind, Option.bind_eq_some_iff, value_eq_some,
      Option.ite_none_right_eq_some, Option.some.injEq] at h
    obtain ⟨w, rfl, x, rfl, hzero, rfl⟩ := h
    simp only [encode, UInt8.toNat_ofNat']
    rw [alphabet.sextet_eq_letter (show _ = w.val by omega),
      alphabet.sextet_eq_letter (show _ = x.val by omega)]
  | case4 w x y =>
    simp only [decode, Option.bind_eq_bind, Option.bind_eq_some_iff, value_eq_some,
      Option.ite_none_right_eq_some, Option.some.injEq] at h
    obtain ⟨w, rfl, x, rfl, y, rfl, hzero, rfl⟩ := h
    simp only [encode, UInt8.toNat_ofNat']
    rw [alphabet.sextet_eq_letter (show _ = w.val by omega),
      alphabet.sextet_eq_letter (show _ = x.val by omega),
      alphabet.sextet_eq_letter (show _ = y.val by omega)]
  | case5 w x y z rest ih =>
    simp only [decode, Option.bind_eq_bind, Option.bind_eq_some_iff, value_eq_some,
      Option.some.injEq] at h
    obtain ⟨w, rfl, x, rfl, y, rfl, z, rfl, tail, htail, rfl⟩ := h
    simp only [encode, UInt8.toNat_ofNat', ih htail]
    rw [alphabet.sextet_eq_letter (show _ = w.val by omega),
      alphabet.sextet_eq_letter (show _ = x.val by omega),
      alphabet.sextet_eq_letter (show _ = y.val by omega),
      alphabet.sextet_eq_letter (show _ = z.val by omega)]

/-- Decoding accepts canonical text only. -/
theorem decode_eq_some : alphabet.decode text = some bytes ↔ text = alphabet.encode bytes := by
  constructor
  · intro h
    exact (alphabet.encode_of_decode h).symm
  · rintro rfl
    exact alphabet.decode_encode bytes

theorem mem_encode {char : Char} (h : char ∈ alphabet.encode bytes) :
    ∃ value, char = alphabet.letter value := by
  fun_induction alphabet.encode bytes with
  | case1 => cases h
  | case2 a =>
    simp only [List.mem_cons, List.not_mem_nil, or_false] at h
    rcases h with rfl | rfl <;> exact ⟨_, rfl⟩
  | case3 a b =>
    simp only [List.mem_cons, List.not_mem_nil, or_false] at h
    rcases h with rfl | rfl | rfl <;> exact ⟨_, rfl⟩
  | case4 a b c rest ih =>
    simp only [List.mem_cons] at h
    rcases h with rfl | rfl | rfl | rfl | h
    · exact ⟨_, rfl⟩
    · exact ⟨_, rfl⟩
    · exact ⟨_, rfl⟩
    · exact ⟨_, rfl⟩
    · exact ih h

end Alphabet

/-- The letters of `URL_SAFE`. -/
def urlSafe : Alphabet where
  letter value := "ABCDEFGHIJKLMNOPQRSTUVWXYZabcdefghijklmnopqrstuvwxyz0123456789-_".toList.get
    (value.cast (by decide))
  injective :=
    (List.nodup_iff_injective_get.mp (by decide +kernel)).comp (Fin.cast_injective (by decide))

/-- An engine that accepts canonical text only, over letters that are safe in
a URL. -/
structure Engine where
  encode : List UInt8 → List Char
  decode : List Char → Option (List UInt8)
  decode_eq_some : ∀ {text bytes}, decode text = some bytes ↔ text = encode bytes
  encode_nil : encode [] = []
  mem_encode : ∀ bytes, ∀ char ∈ encode bytes, char.isAlphanum ∨ char = '-' ∨ char = '_'

theorem Engine.encode_ne_nil (engine : Engine) {bytes : List UInt8} (h : bytes ≠ []) :
    engine.encode bytes ≠ [] := by
  intro hnil
  have hempty := engine.decode_eq_some.mpr engine.encode_nil.symm
  rw [engine.decode_eq_some.mpr hnil.symm] at hempty
  exact h (Option.some.inj hempty)

/-- `URL_SAFE_NO_PAD`. -/
def urlSafeNoPad : Engine where
  encode := urlSafe.encode
  decode := urlSafe.decode
  decode_eq_some := urlSafe.decode_eq_some
  encode_nil := rfl
  mem_encode bytes char hmem := by
    obtain ⟨value, rfl⟩ := urlSafe.mem_encode hmem
    have hall : ∀ value, (urlSafe.letter value).isAlphanum ∨ urlSafe.letter value = '-' ∨
        urlSafe.letter value = '_' := by decide +kernel
    exact hall value

end RobotMulticam.Lib.Base64
