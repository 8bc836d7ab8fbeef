import RobotMulticam.Lib.Outcome
import RobotMulticam.Lib.Uuid

/-!
# Emulation prevention

`add_emulation_prevention` escapes an RBSP so that no start code can appear
in it; `remove_emulation_prevention` undoes the escape. Both carry a counter
of the zero bytes just written. The two counters agree on every escaped
string (`removeFrom_addFrom`), which is the whole round trip, and the
adder's counter never lets a byte below 3 follow two zeros
(`startFree_addFrom`), which is what keeps start codes out.

A 3 behind two zeros is always an escape. To say so, `markFrom` is the adding
loop with a note of where each byte comes from.
-/

namespace RobotMulticam.Codec

open RobotMulticam.Lib

/-- `CodecError`. The payload of `prost::DecodeError` is not kept. -/
inductive CodecError where
  | zeroTimestamp
  | payloadTooLarge (limit actual : Nat)
  | malformedAccessUnit
  | malformedSei
  | timestampCount (count : Nat)
  | secondarySemanticMetadata (uuid : Uuid)
  | protobuf
  | contextCrc
  deriving DecidableEq

variable (zeroCount : Nat)

/-- The zero counter after `byte`: `u8::saturating_add(1)` on a zero byte,
reset by any other. -/
def nextZeroCount (byte : UInt8) : Nat :=
  if byte = 0 then min (zeroCount + 1) 255 else 0

/-- The loop of `add_emulation_prevention` from a given counter. -/
def addFrom : Nat → List UInt8 → List UInt8
  | _, [] => []
  | zeroCount, byte :: rest =>
    if 2 ≤ zeroCount ∧ byte ≤ 3 then
      3 :: byte :: addFrom (nextZeroCount 0 byte) rest
    else byte :: addFrom (nextZeroCount zeroCount byte) rest

variable (rbsp : List UInt8)

def addEmulationPrevention : List UInt8 := addFrom 0 rbsp

/-- The loop of `remove_emulation_prevention` from a given counter; the list
is `data[index..]`. -/
def removeFrom : Nat → List UInt8 → Outcome CodecError (List UInt8)
  | _, [] => .ok []
  | zeroCount, byte :: rest =>
    if 2 ≤ zeroCount ∧ byte = 3 then
      match rest.head? with
      | none => fail .malformedSei
      | some next => if 3 < next then fail .malformedSei else removeFrom 0 rest
    else do
      let out ← removeFrom (nextZeroCount zeroCount byte) rest
      pure (byte :: out)

def removeEmulationPrevention (data : List UInt8) : Outcome CodecError (List UInt8) :=
  removeFrom 0 data

/-! ## Round trip -/

/-- Started from the same counter, the remover reads back what the adder
wrote. -/
theorem removeFrom_addFrom : removeFrom zeroCount (addFrom zeroCount rbsp) = .ok rbsp := by
  induction rbsp generalizing zeroCount with
  | nil => rfl
  | cons byte rest ih =>
    by_cases hescape : 2 ≤ zeroCount ∧ byte ≤ 3
    · -- the escape byte is dropped and both counters restart at zero
      have hnot : ¬ (3 : UInt8) < byte := UInt8.not_lt.mpr hescape.2
      have hplain : removeFrom 0 (byte :: addFrom (nextZeroCount 0 byte) rest) =
          .ok (byte :: rest) := by
        rw [removeFrom, if_neg (by omega), ih]
        rfl
      rw [addFrom, if_pos hescape, removeFrom, if_pos ⟨hescape.1, rfl⟩]
      simp only [List.head?_cons, if_neg hnot]
      exact hplain
    · -- an unescaped byte is never read as an escape
      have hread : ¬ (2 ≤ zeroCount ∧ byte = 3) := by
        rintro ⟨hz, rfl⟩
        exact hescape ⟨hz, UInt8.le_refl 3⟩
      rw [addFrom, if_neg hescape, removeFrom, if_neg hread, ih]
      rfl

theorem removeEmulationPrevention_add :
    removeEmulationPrevention (addEmulationPrevention rbsp) = .ok rbsp :=
  removeFrom_addFrom 0 rbsp

/-! ## Start codes cannot appear -/

/-- Read after `zeroCount` zero bytes, the string never puts a byte below 3
behind two zeros. -/
def StartFree : Nat → List UInt8 → Prop
  | _, [] => True
  | zeroCount, byte :: rest =>
    ¬ (2 ≤ zeroCount ∧ byte < 3) ∧ StartFree (nextZeroCount zeroCount byte) rest

/-- Where a byte of an escaped string comes from. -/
inductive Origin where
  | copied
  | inserted
  deriving DecidableEq

/-- The loop of `add_emulation_prevention` with the origin of every byte it
pushes. -/
def markFrom : Nat → List UInt8 → List (UInt8 × Origin)
  | _, [] => []
  | zeroCount, byte :: rest =>
    if 2 ≤ zeroCount ∧ byte ≤ 3 then
      (3, .inserted) :: (byte, .copied) :: markFrom (nextZeroCount 0 byte) rest
    else (byte, .copied) :: markFrom (nextZeroCount zeroCount byte) rest

theorem map_fst_markFrom : (markFrom zeroCount rbsp).map Prod.fst = addFrom zeroCount rbsp := by
  induction rbsp generalizing zeroCount with
  | nil => rfl
  | cons byte rest ih =>
    rw [markFrom, addFrom]
    split
    · simp [ih]
    · simp [ih]

/-- Without the inserted bytes, the RBSP is left. -/
theorem copied_markFrom :
    ((markFrom zeroCount rbsp).filter fun marked => marked.2 = .copied).map Prod.fst = rbsp := by
  induction rbsp generalizing zeroCount with
  | nil => rfl
  | cons byte rest ih =>
    rw [markFrom]
    split
    · simp [ih]
    · simp [ih]

/-- Read after `zeroCount` zero bytes, a byte behind two zeros is at least 3,
and a 3 there was inserted in front of a byte that needs it. -/
def Guarded : Nat → List (UInt8 × Origin) → Prop
  | _, [] => True
  | zeroCount, marked :: rest =>
    (2 ≤ zeroCount → 3 ≤ marked.1 ∧
      (marked.1 = 3 → marked.2 = .inserted ∧ ∃ next ∈ rest.head?, next.1 ≤ 3)) ∧
    Guarded (nextZeroCount zeroCount marked.1) rest

theorem guarded_markFrom : Guarded zeroCount (markFrom zeroCount rbsp) := by
  induction rbsp generalizing zeroCount with
  | nil => trivial
  | cons byte rest ih =>
    by_cases hescape : 2 ≤ zeroCount ∧ byte ≤ 3
    · rw [markFrom, if_pos hescape]
      refine ⟨?_, ?_, ih _⟩
      · intro _
        exact ⟨UInt8.le_refl 3, fun _ => ⟨rfl, (byte, .copied), rfl, hescape.2⟩⟩
      · -- the escape resets the counter
        intro hzeros
        simp [nextZeroCount] at hzeros
    · rw [markFrom, if_neg hescape]
      refine ⟨?_, ih _⟩
      intro hzeros
      have hlarge : 3 < byte := UInt8.not_le.mp fun hsmall => hescape ⟨hzeros, hsmall⟩
      refine ⟨UInt8.le_of_lt hlarge, ?_⟩
      rintro rfl
      exact absurd hlarge (UInt8.lt_irrefl 3)

theorem Guarded.startFree {zeroCount : Nat} {marked : List (UInt8 × Origin)}
    (h : Guarded zeroCount marked) : StartFree zeroCount (marked.map Prod.fst) := by
  induction marked generalizing zeroCount with
  | nil => trivial
  | cons first rest ih =>
    refine ⟨?_, ih h.2⟩
    rintro ⟨hzeros, hsmall⟩
    exact UInt8.not_le.mpr hsmall (h.1 hzeros).1

theorem startFree_addFrom : StartFree zeroCount (addFrom zeroCount rbsp) := by
  rw [← map_fst_markFrom]
  exact (guarded_markFrom zeroCount rbsp).startFree

/-- What is guarded at a position: the two zeros in front raise the counter to
two, whatever it was before. -/
theorem Guarded.behind_zeros {zeroCount position : Nat} {marked : List (UInt8 × Origin)}
    (h : Guarded zeroCount marked) {first second third : UInt8 × Origin}
    (hfirst : marked[position]? = some first) (hsecond : marked[position + 1]? = some second)
    (hthird : marked[position + 2]? = some third) (hzero : first.1 = 0) (hzero' : second.1 = 0) :
    3 ≤ third.1 ∧ (third.1 = 3 →
      third.2 = .inserted ∧ ∃ next ∈ marked[position + 3]?, next.1 ≤ 3) := by
  induction position generalizing zeroCount marked with
  | zero =>
    obtain ⟨rest, rfl⟩ : ∃ rest, marked = first :: second :: third :: rest := by
      rcases marked with _ | ⟨a, _ | ⟨b, _ | ⟨c, rest⟩⟩⟩
      · simp at hthird
      · simp at hthird
      · simp at hthird
      · cases hfirst
        cases hsecond
        cases hthird
        exact ⟨rest, rfl⟩
    obtain ⟨_, _, hguard, _⟩ := h
    rw [hzero, hzero'] at hguard
    have htwo : 2 ≤ nextZeroCount (nextZeroCount zeroCount 0) 0 := by
      simp only [nextZeroCount, if_true]
      omega
    simpa [List.head?_eq_getElem?] using hguard htwo
  | succ position ih =>
    cases marked with
    | nil => simp at hfirst
    | cons head rest => exact ih h.2 hfirst hsecond hthird

/-- A start-free string contains no `00 00 01`, wherever the scan begins. -/
theorem StartFree.no_startCode {zeroCount : Nat} {bytes : List UInt8}
    (h : StartFree zeroCount bytes) : ¬ [0, 0, 1] <:+: bytes := by
  induction bytes generalizing zeroCount with
  | nil => simp
  | cons byte rest ih =>
    rw [List.infix_cons_iff]
    rintro (hatStart | hinside)
    · -- the two zeros raise the counter to two before the 01 is read
      obtain ⟨tail, htail⟩ := hatStart
      simp only [List.cons_append, List.nil_append, List.cons.injEq] at htail
      obtain ⟨rfl, rfl⟩ := htail
      obtain ⟨_, hsecond, hthird, _⟩ := h
      apply hthird
      refine ⟨?_, by decide⟩
      simp only [nextZeroCount, if_true]
      omega
    · exact ih h.2 hinside

theorem addEmulationPrevention_no_startCode : ¬ [0, 0, 1] <:+: addEmulationPrevention rbsp :=
  (startFree_addFrom 0 rbsp).no_startCode

theorem length_le_addFrom : rbsp.length ≤ (addFrom zeroCount rbsp).length := by
  induction rbsp generalizing zeroCount with
  | nil => simp [addFrom]
  | cons byte rest ih =>
    rw [addFrom]
    split
    · have := ih (nextZeroCount 0 byte)
      simp only [List.length_cons]
      omega
    · have := ih (nextZeroCount zeroCount byte)
      simp only [List.length_cons]
      omega

end RobotMulticam.Codec
