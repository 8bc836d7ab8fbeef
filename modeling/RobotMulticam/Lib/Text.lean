import Mathlib

/-!
# Text fields

The pieces a textual record is made of: characters and their bytes,
hexadecimal digits, percent-encoding, decimal numbers and separators. Text is
a list of characters. For every way of writing a value there is a lemma that
reading gives the value back.
-/

namespace RobotMulticam.Lib.Text

/-! ## Characters and bytes -/

/-- `str::as_bytes`. -/
def utf8 (text : List Char) : List UInt8 := text.flatMap String.utf8EncodeChar

/-- The text whose characters are the given bytes. -/
def ascii (bytes : List UInt8) : List Char := bytes.map Char.ofUInt8

/-- `str::from_utf8`. -/
def fromUtf8 (bytes : List UInt8) : Option String := String.fromUTF8? bytes.toByteArray

variable {bytes : List UInt8} {char separator : Char} {byte : UInt8} {text before : List Char}
  {number : Nat}

theorem utf8_ascii (h : ∀ byte ∈ bytes, byte < 128) : utf8 (ascii bytes) = bytes := by
  induction bytes with
  | nil => rfl
  | cons byte bytes ih =>
    have hbyte : byte.toNat < 128 := UInt8.lt_iff_toNat_lt.mp (h byte List.mem_cons_self)
    have hfirst : String.utf8EncodeChar (Char.ofUInt8 byte) = [byte] := by
      have hval : (Char.ofUInt8 byte).val.toNat = byte.toNat := UInt8.toNat_toUInt32 byte
      rw [String.utf8EncodeChar.eq_1, hval, if_pos (by omega), UInt8.ofNat_toNat]
    have hrest := ih fun other hother => h other (List.mem_cons_of_mem _ hother)
    show String.utf8EncodeChar (Char.ofUInt8 byte) ++ utf8 (ascii bytes) = _
    rw [hfirst, hrest]
    rfl

theorem fromUtf8_utf8 (text : String) : fromUtf8 (utf8 text.toList) = some text := by
  have hbytes : (utf8 text.toList).toByteArray = text.toByteArray := String.utf8Encode_toList
  rw [fromUtf8, hbytes, String.fromUTF8?, dif_pos text.isValidUTF8]
  rfl

/-- An ASCII byte stands for itself. -/
theorem utf8EncodeChar_of_mem (h : byte ∈ String.utf8EncodeChar char) (hascii : byte < 128) :
    String.utf8EncodeChar char = [byte] ∧ char = Char.ofUInt8 byte := by
  have hhigh : ∀ value : Nat, 128 ≤ value → value < 256 → byte ≠ UInt8.ofNat value := by
    rintro value hle hlt rfl
    rw [UInt8.lt_iff_toNat_lt, UInt8.toNat_ofNat', Nat.mod_eq_of_lt hlt] at hascii
    exact absurd hascii (Nat.not_lt.mpr hle)
  rw [String.utf8EncodeChar.eq_1] at h ⊢
  split at h
  · rename_i hsmall
    rw [if_pos hsmall]
    obtain rfl := List.mem_singleton.mp h
    refine ⟨rfl, Char.ext (UInt32.toNat_inj.mp ?_)⟩
    show _ = (UInt8.toUInt32 _).toNat
    rw [UInt8.toNat_toUInt32, UInt8.toNat_ofNat', Nat.mod_eq_of_lt (by omega)]
  · -- every byte of a longer sequence is at least 128
    exfalso
    split at h
    · simp only [List.mem_cons, List.not_mem_nil, or_false] at h
      rcases h with h | h <;> exact hhigh _ (by omega) (by omega) h
    · split at h
      · simp only [List.mem_cons, List.not_mem_nil, or_false] at h
        rcases h with h | h | h <;> exact hhigh _ (by omega) (by omega) h
      · simp only [List.mem_cons, List.not_mem_nil, or_false] at h
        rcases h with h | h | h | h <;> exact hhigh _ (by omega) (by omega) h

theorem utf8_cons (char : Char) (text : List Char) :
    utf8 (char :: text) = String.utf8EncodeChar char ++ utf8 text := rfl

/-- An ASCII byte in front is the first character. -/
theorem utf8_eq_cons (hascii : byte < 128) (h : utf8 text = byte :: bytes) :
    ∃ rest, text = Char.ofUInt8 byte :: rest ∧ utf8 rest = bytes := by
  cases text with
  | nil => cases h
  | cons char text =>
    rw [utf8_cons] at h
    cases hchar : String.utf8EncodeChar char with
    | nil => exact absurd hchar String.utf8EncodeChar_ne_nil
    | cons first others =>
      rw [hchar, List.cons_append, List.cons.injEq] at h
      obtain ⟨rfl, h⟩ := h
      obtain ⟨hone, rfl⟩ := utf8EncodeChar_of_mem (hchar ▸ List.mem_cons_self) hascii
      rw [hchar] at hone
      obtain ⟨-, rfl⟩ := List.cons.inj hone
      exact ⟨text, rfl, h⟩

/-- ASCII bytes in front of a text are its first characters. -/
theorem ascii_isPrefix (hascii : ∀ byte ∈ bytes, byte < 128) (h : bytes <+: utf8 text) :
    ascii bytes <+: text := by
  induction bytes generalizing text with
  | nil => exact List.nil_prefix
  | cons byte bytes ih =>
    obtain ⟨after, hafter⟩ := h
    obtain ⟨rest, rfl, hrest⟩ := utf8_eq_cons (hascii byte List.mem_cons_self) hafter.symm
    refine (List.prefix_cons_inj _).mpr (ih ?_ ⟨after, hrest.symm⟩)
    exact fun other hother => hascii other (List.mem_cons_of_mem _ hother)

/-- ASCII bytes that follow each other are characters that do. -/
theorem ascii_isInfix (hascii : ∀ byte ∈ bytes, byte < 128) (h : bytes <:+: utf8 text) :
    ascii bytes <:+: text := by
  induction text with
  | nil =>
    rw [List.eq_nil_of_infix_nil h]
    exact List.infix_rfl
  | cons char text ih =>
    cases bytes with
    | nil => exact List.nil_infix
    | cons byte bytes =>
      obtain ⟨before, after, hbytes⟩ := h
      rw [utf8_cons, List.append_assoc] at hbytes
      rcases List.append_eq_append_iff.mp hbytes with
        ⟨middle, hchar, hrest⟩ | ⟨middle, rfl, hrest⟩
      · cases middle with
        | nil =>
          exact (ih ⟨[], after, by simpa using hrest⟩).trans
            (List.infix_cons List.infix_rfl)
        | cons first middle =>
          -- the bytes begin inside the character, which is then one of them
          obtain ⟨rfl, -⟩ := List.cons.inj hrest
          have hmem : byte ∈ String.utf8EncodeChar char := by simp [hchar]
          obtain ⟨hone, -⟩ := utf8EncodeChar_of_mem hmem (hascii byte List.mem_cons_self)
          rw [hchar] at hone
          have hnil : before = [] := by
            cases before with
            | nil => rfl
            | cons other before => simp at hone
          subst hnil
          have hfront : byte :: bytes <+: utf8 (char :: text) :=
            ⟨after, by simpa [utf8_cons] using hbytes⟩
          exact (ascii_isPrefix hascii hfront).isInfix
      · exact (ih ⟨middle, after, by simpa using hrest.symm⟩).trans
          (List.infix_cons List.infix_rfl)

/-! ## Hexadecimal digits -/

def lowerHex (digit : Nat) : UInt8 := .ofNat (if digit < 10 then 48 + digit else 87 + digit)

def upperHex (digit : Nat) : UInt8 := .ofNat (if digit < 10 then 48 + digit else 55 + digit)

/-- Digits of either case. -/
def hexValue (byte : UInt8) : Option Nat :=
  if 48 ≤ byte ∧ byte ≤ 57 then some (byte.toNat - 48)
  else if 97 ≤ byte ∧ byte ≤ 102 then some (byte.toNat - 87)
  else if 65 ≤ byte ∧ byte ≤ 70 then some (byte.toNat - 55)
  else none

theorem hexValue_lowerHex {digit : Nat} (h : digit < 16) :
    hexValue (lowerHex digit) = some digit := by
  have hall : ∀ digit < 16, hexValue (lowerHex digit) = some digit := by decide
  exact hall digit h

theorem hexValue_upperHex {digit : Nat} (h : digit < 16) :
    hexValue (upperHex digit) = some digit := by
  have hall : ∀ digit < 16, hexValue (upperHex digit) = some digit := by decide
  exact hall digit h

theorem ofNat_hex (byte : UInt8) :
    UInt8.ofNat (16 * (byte.toNat / 16) + byte.toNat % 16) = byte := by
  rw [Nat.div_add_mod, UInt8.ofNat_toNat]

/-- The bytes of an even number of digits. -/
def hexBytes : List UInt8 → Option (List UInt8)
  | [] => some []
  | [_] => none
  | high :: low :: rest => do
    let high ← hexValue high
    let low ← hexValue low
    let bytes ← hexBytes rest
    some (UInt8.ofNat (16 * high + low) :: bytes)

/-- Two lower-case digits a byte. -/
def hexDigits (bytes : List UInt8) : List UInt8 :=
  bytes.flatMap fun byte => [lowerHex (byte.toNat / 16), lowerHex (byte.toNat % 16)]

theorem hexBytes_hexDigits (bytes : List UInt8) : hexBytes (hexDigits bytes) = some bytes := by
  induction bytes with
  | nil => rfl
  | cons byte bytes ih =>
    have hbyte := byte.toNat_lt
    show hexBytes (lowerHex _ :: lowerHex _ :: hexDigits bytes) = _
    rw [hexBytes, hexValue_lowerHex (by omega), hexValue_lowerHex (by omega), ih]
    simp only [Option.bind_eq_bind, Option.bind_some, ofNat_hex]

theorem length_hexDigits (bytes : List UInt8) : (hexDigits bytes).length = 2 * bytes.length := by
  simp [hexDigits, Nat.mul_comm]

theorem mem_hexDigits (h : byte ∈ hexDigits bytes) : ∃ digit < 16, byte = lowerHex digit := by
  obtain ⟨source, _, hbyte⟩ := List.mem_flatMap.mp h
  have hsource := source.toNat_lt
  simp only [List.mem_cons, List.not_mem_nil, or_false] at hbyte
  rcases hbyte with rfl | rfl
  · exact ⟨_, by omega, rfl⟩
  · exact ⟨_, by omega, rfl⟩

/-! ## Percent-encoding -/

/-- A set of bytes to escape. The sign itself is always escaped. -/
structure EscapeSet where
  contains : UInt8 → Bool
  percent : contains 37 = true

section Percent

variable (escapes : EscapeSet)

/-- `should_percent_encode`. -/
def EscapeSet.shouldPercentEncode (byte : UInt8) : Bool := 128 ≤ byte || escapes.contains byte

def percentEncodeByte (byte : UInt8) : List UInt8 :=
  if escapes.shouldPercentEncode byte then
    [37, upperHex (byte.toNat / 16), upperHex (byte.toNat % 16)]
  else [byte]

/-- `percent_encode`. -/
def percentEncode (bytes : List UInt8) : List UInt8 := bytes.flatMap (percentEncodeByte escapes)

/-- `percent_decode`: a sign without two digits behind it stands for itself. -/
def percentDecode : List UInt8 → List UInt8
  | byte :: high :: low :: rest =>
    if byte = 37 then
      match hexValue high, hexValue low with
      | some high, some low => UInt8.ofNat (16 * high + low) :: percentDecode rest
      | _, _ => byte :: percentDecode (high :: low :: rest)
    else byte :: percentDecode (high :: low :: rest)
  | bytes => bytes

theorem percentDecode_cons {byte : UInt8} (h : byte ≠ 37) (rest : List UInt8) :
    percentDecode (byte :: rest) = byte :: percentDecode rest := by
  rcases rest with _ | ⟨high, _ | ⟨low, rest⟩⟩
  · rfl
  · rfl
  · rw [percentDecode, if_neg h]

theorem percentDecode_escaped {high low : Nat} (hhigh : high < 16) (hlow : low < 16)
    (rest : List UInt8) :
    percentDecode (37 :: upperHex high :: upperHex low :: rest) =
      UInt8.ofNat (16 * high + low) :: percentDecode rest := by
  rw [percentDecode, if_pos rfl, hexValue_upperHex hhigh, hexValue_upperHex hlow]

theorem percentDecode_percentEncode (bytes : List UInt8) :
    percentDecode (percentEncode escapes bytes) = bytes := by
  induction bytes with
  | nil => rfl
  | cons byte bytes ih =>
    have hbyte := byte.toNat_lt
    show percentDecode (percentEncodeByte escapes byte ++ percentEncode escapes bytes) = _
    rw [percentEncodeByte]
    split
    · show percentDecode (37 :: upperHex _ :: upperHex _ :: percentEncode escapes bytes) = _
      rw [percentDecode_escaped (by omega) (by omega), ih, ofNat_hex]
    · rename_i hplain
      have hne : byte ≠ 37 := by
        rintro rfl
        exact hplain (by simp [EscapeSet.shouldPercentEncode, escapes.percent])
      show percentDecode (byte :: percentEncode escapes bytes) = _
      rw [percentDecode_cons hne, ih]

theorem mem_percentEncode {bytes : List UInt8} {byte : UInt8}
    (h : byte ∈ percentEncode escapes bytes) :
    byte = 37 ∨ (∃ digit < 16, byte = upperHex digit) ∨
      byte < 128 ∧ escapes.contains byte = false := by
  obtain ⟨source, _, hbyte⟩ := List.mem_flatMap.mp h
  have hsource := source.toNat_lt
  rw [percentEncodeByte] at hbyte
  split at hbyte
  · simp only [List.mem_cons, List.not_mem_nil, or_false] at hbyte
    rcases hbyte with rfl | rfl | rfl
    · exact Or.inl rfl
    · exact Or.inr (Or.inl ⟨_, by omega, rfl⟩)
    · exact Or.inr (Or.inl ⟨_, by omega, rfl⟩)
  · rename_i hplain
    rw [List.mem_singleton.mp hbyte]
    right
    right
    simpa [EscapeSet.shouldPercentEncode] using hplain

/-- What is written is ASCII. -/
theorem utf8_percentEncode (bytes : List UInt8) :
    utf8 (ascii (percentEncode escapes bytes)) = percentEncode escapes bytes := by
  refine utf8_ascii fun byte hbyte => ?_
  rcases mem_percentEncode escapes hbyte with rfl | ⟨digit, hdigit, rfl⟩ | ⟨hascii, _⟩
  · decide
  · have hall : ∀ digit < 16, upperHex digit < 128 := by decide
    exact hall digit hdigit
  · exact hascii

end Percent

/-- A crate that writes text with the bytes of a set escaped, and reads it
back. -/
structure PercentText where
  /-- `utf8_percent_encode`. -/
  encode : EscapeSet → String → List Char
  /-- `percent_decode_str` and `decode_utf8`. -/
  decode : List Char → Option String
  decode_encode : ∀ escapes text, decode (encode escapes text) = some text
  encode_empty : ∀ escapes, encode escapes "" = []
  /-- Signs, digits and what is not in the set. -/
  mem_encode : ∀ escapes text, ∀ char ∈ encode escapes text,
    char = '%' ∨ char.isAlphanum ∨ escapes.contains (.ofNat char.toNat) = false

theorem PercentText.encode_ne_nil (percent : PercentText) (escapes : EscapeSet) {text : String}
    (h : text ≠ "") : percent.encode escapes text ≠ [] := by
  intro hnil
  have hread := percent.decode_encode escapes text
  rw [hnil, ← percent.encode_empty escapes, percent.decode_encode] at hread
  exact h (Option.some.inj hread).symm

/-- The functions above, on UTF-8. -/
def percentUtf8 : PercentText where
  encode escapes text := ascii (percentEncode escapes (utf8 text.toList))
  decode text := fromUtf8 (percentDecode (utf8 text))
  decode_encode escapes text := by
    rw [utf8_percentEncode, percentDecode_percentEncode, fromUtf8_utf8]
  encode_empty _ := rfl
  mem_encode escapes text char hmem := by
    obtain ⟨byte, hbyte, rfl⟩ := List.mem_map.mp hmem
    have hnat : UInt8.ofNat (Char.ofUInt8 byte).toNat = byte := by
      rw [show (Char.ofUInt8 byte).toNat = byte.toNat from UInt8.toNat_toUInt32 byte,
        UInt8.ofNat_toNat]
    rcases mem_percentEncode escapes hbyte with rfl | ⟨digit, hdigit, rfl⟩ | ⟨_, hplain⟩
    · exact Or.inl rfl
    · have hall : ∀ digit < 16, (Char.ofUInt8 (upperHex digit)).isAlphanum := by decide
      exact Or.inr (Or.inl (hall digit hdigit))
    · exact Or.inr (Or.inr (hnat.symm ▸ hplain))

/-! ## Decimal numbers -/

/-- `str::parse` of an unsigned number below `limit`: an optional plus sign
and at least one digit, leading zeros allowed. -/
def parseUnsigned (limit : Nat) (text : List Char) : Option Nat :=
  let digits := if text.head? = some '+' then text.tail else text
  if digits ≠ [] ∧ digits.all Char.isDigit then
    let number := Nat.ofDigitChars 10 digits 0
    if number < limit then some number else none
  else none

theorem isDigit_of_mem_toDigits (h : char ∈ Nat.toDigits 10 number) : char.isDigit = true :=
  Nat.isDigit_of_mem_toDigits (by decide) (by decide) h

theorem parseUnsigned_toDigits {limit : Nat} (h : number < limit) :
    parseUnsigned limit (Nat.toDigits 10 number) = some number := by
  have hsign : (Nat.toDigits 10 number).head? ≠ some '+' := by
    intro hplus
    have hdigit := isDigit_of_mem_toDigits (List.mem_of_mem_head? hplus)
    exact absurd hdigit (by decide)
  have hdigits : Nat.toDigits 10 number ≠ [] ∧ (Nat.toDigits 10 number).all Char.isDigit :=
    ⟨Nat.toDigits_ne_nil, List.all_eq_true.mpr fun _ => isDigit_of_mem_toDigits⟩
  simp only [parseUnsigned, if_neg hsign, if_pos hdigits, Nat.ofDigitChars_ten_toDigits, if_pos h]

theorem lt_of_parseUnsigned {limit : Nat} (h : parseUnsigned limit text = some number) :
    number < limit := by
  simp only [parseUnsigned, Option.ite_none_right_eq_some, Option.some.injEq] at h
  obtain ⟨_, hlt, rfl⟩ := h
  exact hlt

/-! ## Separators -/

theorem intercalate_cons {α : Type} {separator : α} {first : List α} {segments : List (List α)} :
    [separator].intercalate (first :: segments) =
      first ++ (segments.map (separator :: ·)).flatten := by
  induction segments generalizing first with
  | nil => simp [List.intercalate]
  | cons segment segments ih =>
    have hnext := @ih segment
    simp only [List.intercalate] at hnext ⊢
    simp [List.intersperse, hnext]

/-- Every segment is a part of the text. -/
theorem infix_of_mem_splitOn {α : Type} [BEq α] [LawfulBEq α] {separator : α}
    {text segment : List α} (h : segment ∈ text.splitOn separator) : segment <:+: text := by
  have hjoined : [separator].intercalate (text.splitOn separator) = text :=
    List.intercalate_splitOn separator
  obtain ⟨before, after, hsplit⟩ := List.mem_iff_append.mp h
  cases before with
  | nil =>
    rw [hsplit, List.nil_append, intercalate_cons] at hjoined
    exact ⟨[], _, hjoined⟩
  | cons first before =>
    rw [hsplit, List.cons_append, intercalate_cons] at hjoined
    refine ⟨first ++ (before.map (separator :: ·)).flatten ++ [separator],
      (after.map (separator :: ·)).flatten, ?_⟩
    rw [← hjoined]
    simp

theorem not_mem_of_mem_splitOn {segment : List Char} (h : segment ∈ text.splitOn separator) :
    separator ∉ segment := by
  induction text generalizing segment with
  | nil =>
    rw [List.splitOn_nil, List.mem_singleton] at h
    simp [h]
  | cons char text ih =>
    obtain ⟨first, rest, hsplit⟩ := List.exists_cons_of_ne_nil (List.splitOn_ne_nil separator text)
    rw [List.splitOn_cons_eq_if_modifyHead, hsplit] at h
    rw [hsplit] at ih
    split at h
    · rcases List.mem_cons.mp h with rfl | h
      · simp
      · exact ih h
    · rename_i hother
      rcases List.mem_cons.mp h with rfl | h
      · have hfirst := ih List.mem_cons_self
        simp only [beq_iff_eq] at hother
        simp [hfirst, Ne.symm hother]
      · exact ih (List.mem_cons_of_mem _ h)

/-- `str::split` gives the only segments without the separator that join to
the text. -/
theorem splitOn_eq_iff {segments : List (List Char)} (h : segments ≠ []) :
    text.splitOn separator = segments ↔
      text = [separator].intercalate segments ∧ ∀ segment ∈ segments, separator ∉ segment := by
  constructor
  · rintro rfl
    exact ⟨(List.intercalate_splitOn separator).symm, fun _ => not_mem_of_mem_splitOn⟩
  · rintro ⟨rfl, hsegments⟩
    exact List.splitOn_intercalate separator hsegments h

/-- `str::split_once`. -/
def splitOnce (separator : Char) : List Char → Option (List Char × List Char)
  | [] => none
  | char :: text =>
    if char = separator then some ([], text)
    else (splitOnce separator text).map fun parts => (char :: parts.1, parts.2)

theorem splitOnce_eq_some {after : List Char} :
    splitOnce separator text = some (before, after) ↔
      text = before ++ separator :: after ∧ separator ∉ before := by
  induction text generalizing before with
  | nil => simp [splitOnce]
  | cons char text ih =>
    rw [splitOnce]
    cases before with
    | nil =>
      by_cases hsame : char = separator
      · simp [hsame]
      · simp [hsame]
    | cons first before =>
      by_cases hsame : char = separator
      · simp only [hsame, if_true, Option.some.injEq, Prod.mk.injEq, List.cons_append,
          List.cons.injEq, List.mem_cons, not_or]
        grind
      · simp only [hsame, if_false, Option.map_eq_some_iff, Prod.exists, Prod.mk.injEq,
          List.cons_append, List.cons.injEq, List.mem_cons, not_or]
        grind

/-- The text in front of the last occurrence of a pattern, which is where
`str::rfind` finds it. -/
def beforeLast (pattern : List Char) : List Char → Option (List Char)
  | [] => if pattern = [] then some [] else none
  | char :: text =>
    match beforeLast pattern text with
    | some before => some (char :: before)
    | none => if pattern.isPrefixOf (char :: text) then some [] else none

theorem beforeLast_of_not_mem {first : Char} {pattern : List Char} (h : first ∉ text) :
    beforeLast (first :: pattern) text = none := by
  induction text with
  | nil => rfl
  | cons char text ih =>
    have hchar : first ≠ char := fun hsame => h (hsame ▸ List.mem_cons_self)
    have hrest := ih fun hmem => h (List.mem_cons_of_mem _ hmem)
    rw [beforeLast, hrest]
    simp [List.isPrefixOf, hchar]

/-- A pattern whose first character does not come again is found where it
was written last. -/
theorem beforeLast_append {first : Char} {pattern after : List Char} (hpattern : first ∉ pattern)
    (hafter : first ∉ after) :
    beforeLast (first :: pattern) (before ++ first :: (pattern ++ after)) = some before := by
  induction before with
  | nil =>
    have hrest : first ∉ pattern ++ after := by simp [hpattern, hafter]
    rw [List.nil_append, beforeLast, beforeLast_of_not_mem hrest]
    simp [List.isPrefixOf]
  | cons char before ih => rw [List.cons_append, beforeLast, ih]

/-- One character is found unless it does not occur. -/
theorem beforeLast_eq_none : beforeLast [char] text = none ↔ char ∉ text := by
  refine ⟨?_, beforeLast_of_not_mem⟩
  induction text with
  | nil => simp
  | cons head text ih =>
    rw [beforeLast]
    split
    · simp
    · rename_i hnone
      have hrest := ih hnone
      split
      · simp
      · rename_i hhead
        intro _
        simp_all [List.isPrefixOf]

theorem beforeLast_eq_some (h : beforeLast [char] text = some before) :
    ∃ after, text = before ++ char :: after ∧ char ∉ after := by
  induction text generalizing before with
  | nil => simp [beforeLast] at h
  | cons head text ih =>
    rw [beforeLast] at h
    split at h
    · rename_i found hfound
      cases h
      obtain ⟨after, hafter, hnone⟩ := ih hfound
      exact ⟨after, by rw [hafter, List.cons_append], hnone⟩
    · rename_i hnone
      split at h
      · rename_i hhead
        cases h
        refine ⟨text, ?_, beforeLast_eq_none.mp hnone⟩
        simp only [List.isPrefixOf, Bool.and_true, beq_iff_eq] at hhead
        rw [hhead, List.nil_append]
      · cases h

end RobotMulticam.Lib.Text
