import RobotMulticam.Lib.Uuid
import RobotMulticam.Lib.Text

/-!
# The text of a UUID

`Uuid::hyphenated` writes five groups of lower-case digits. `Uuid::parse_str`
also reads the digits without hyphens, in braces, as a URN, and in upper
case. The code takes them from the crate `uuid`, of which a `UuidText` has
what proofs use; the functions here are one.
-/

namespace RobotMulticam.Lib

/-- Writing ids and reading them back. -/
structure UuidText where
  hyphenated : Uuid → List Char
  parseStr : List Char → Option Uuid
  parseStr_hyphenated : ∀ id, parseStr (hyphenated id) = some id
  length_hyphenated : ∀ id, (hyphenated id).length = 36
  mem_hyphenated : ∀ id, ∀ char ∈ hyphenated id, char = '-' ∨ char.isAlphanum

theorem UuidText.hyphenated_ne_nil (text : UuidText) (id : Uuid) : text.hyphenated id ≠ [] :=
  List.ne_nil_of_length_pos (by rw [text.length_hyphenated]; decide)

namespace Uuid

open RobotMulticam.Lib.Text

/-- Groups of 8, 4, 4, 4 and 12 digits. -/
def grouped (digits : List UInt8) : List UInt8 :=
  digits.take 8 ++ 45 :: ((digits.drop 8).take 4 ++ 45 :: ((digits.drop 12).take 4 ++ 45 ::
    ((digits.drop 16).take 4 ++ 45 :: digits.drop 20)))

/-- `Uuid::hyphenated`. -/
def hyphenated (id : Uuid) : List Char := ascii (grouped (hexDigits id.bytes))

def parseSimple (text : List UInt8) : Option Uuid := (hexBytes text).bind fromSlice

/-- Hyphens at 8, 13, 18 and 23, digits everywhere else. -/
def parseHyphenated (text : List UInt8) : Option Uuid :=
  if text.length = 36 ∧ text[8]? = some 45 ∧ text[13]? = some 45 ∧ text[18]? = some 45 ∧
      text[23]? = some 45 then
    parseSimple (text.take 8 ++ (text.drop 9).take 4 ++ (text.drop 14).take 4 ++
      (text.drop 19).take 4 ++ text.drop 24)
  else none

/-- `Uuid::parse_str`, by the number of bytes. -/
def parseStr (text : List Char) : Option Uuid :=
  let bytes := utf8 text
  if bytes.length = 32 then parseSimple bytes
  else if bytes.length = 36 then parseHyphenated bytes
  else if bytes.length = 38 ∧ bytes.head? = some 123 ∧ bytes.getLast? = some 125 then
    parseHyphenated bytes.tail.dropLast
  else if bytes.length = 45 ∧ bytes.take 9 = utf8 "urn:uuid:".toList then
    parseHyphenated (bytes.drop 9)
  else none

/-- The five groups are read as the digits in them. -/
theorem parseHyphenated_groups {a b c d e : List UInt8} (ha : a.length = 8) (hb : b.length = 4)
    (hc : c.length = 4) (hd : d.length = 4) (he : e.length = 12) :
    parseHyphenated (a ++ 45 :: (b ++ 45 :: (c ++ 45 :: (d ++ 45 :: e)))) =
      parseSimple (a ++ b ++ c ++ d ++ e) := by
  rw [parseHyphenated, if_pos]
  · simp [List.drop_append, List.drop_eq_nil_of_le, ha, hb, hc, hd]
  · simp [ha, hb, hc, hd, he]

theorem mem_grouped {digits : List UInt8} {byte : UInt8} (h : byte ∈ grouped digits) :
    byte = 45 ∨ byte ∈ digits := by
  simp only [grouped, List.mem_append, List.mem_cons] at h
  rcases h with h | h | h | h | h | h | h | h | h
  · exact Or.inr (List.mem_of_mem_take h)
  · exact Or.inl h
  · exact Or.inr (List.mem_of_mem_drop (List.mem_of_mem_take h))
  · exact Or.inl h
  · exact Or.inr (List.mem_of_mem_drop (List.mem_of_mem_take h))
  · exact Or.inl h
  · exact Or.inr (List.mem_of_mem_drop (List.mem_of_mem_take h))
  · exact Or.inl h
  · exact Or.inr (List.mem_of_mem_drop h)

theorem join_groups (digits : List UInt8) :
    digits.take 8 ++ (digits.drop 8).take 4 ++ (digits.drop 12).take 4 ++
      (digits.drop 16).take 4 ++ digits.drop 20 = digits := by
  have hjoin : ∀ start, (digits.drop start).take 4 ++ digits.drop (start + 4) =
      digits.drop start := by
    intro start
    rw [← List.drop_drop, List.take_append_drop]
  rw [List.append_assoc, hjoin 16, List.append_assoc, hjoin 12, List.append_assoc, hjoin 8,
    List.take_append_drop]

theorem length_digits (id : Uuid) : (hexDigits id.bytes).length = 32 := by
  rw [length_hexDigits, id.size]

theorem length_grouped (id : Uuid) : (grouped (hexDigits id.bytes)).length = 36 := by
  simp [grouped, id.length_digits]

theorem parseHyphenated_grouped (id : Uuid) :
    parseHyphenated (grouped (hexDigits id.bytes)) = some id := by
  have hlength := id.length_digits
  rw [grouped, parseHyphenated_groups (by simp [hlength]) (by simp [hlength])
    (by simp [hlength]) (by simp [hlength]) (by simp [hlength])]
  rw [join_groups, parseSimple, hexBytes_hexDigits]
  exact fromSlice_bytes id

/-- What is written is ASCII: hyphens and lower-case digits. -/
theorem mem_hyphenatedBytes {id : Uuid} {byte : UInt8}
    (h : byte ∈ grouped (hexDigits id.bytes)) :
    byte = 45 ∨ ∃ digit < 16, byte = lowerHex digit :=
  (mem_grouped h).imp_right mem_hexDigits

theorem utf8_hyphenated (id : Uuid) : utf8 id.hyphenated = grouped (hexDigits id.bytes) := by
  refine utf8_ascii fun byte hbyte => ?_
  rcases mem_hyphenatedBytes hbyte with rfl | ⟨digit, hdigit, rfl⟩
  · decide
  · have hall : ∀ digit < 16, lowerHex digit < 128 := by decide
    exact hall digit hdigit

theorem parseStr_hyphenated (id : Uuid) : parseStr id.hyphenated = some id := by
  have hlength := id.length_grouped
  rw [parseStr, utf8_hyphenated]
  rw [if_neg (by omega), if_pos hlength, parseHyphenated_grouped]

/-- The text of RFC 4122. -/
def text : UuidText where
  hyphenated := hyphenated
  parseStr := parseStr
  parseStr_hyphenated := parseStr_hyphenated
  length_hyphenated id := by rw [hyphenated, ascii, List.length_map, id.length_grouped]
  mem_hyphenated id char hmem := by
    obtain ⟨byte, hbyte, rfl⟩ := List.mem_map.mp hmem
    rcases mem_hyphenatedBytes hbyte with rfl | ⟨digit, hdigit, rfl⟩
    · exact Or.inl rfl
    · have hall : ∀ digit < 16, (Char.ofUInt8 (lowerHex digit)).isAlphanum := by decide
      exact Or.inr (hall digit hdigit)

end Uuid
end RobotMulticam.Lib
