import RobotMulticam.Codec.SeiSyntax

/-!
# Annex-B byte streams

`start_codes` scans for 3- and 4-byte start codes and `split_annex_b` cuts
the access unit between them. `segments` is the same cut made in one pass
over the bytes, without offsets: `splitAnnexB_eq` relates the two, and the
proofs about rewritten access units work on `segments` only.

A payload can be put behind a start code again when it is `Clean`: not
empty and without a `00 00 01` inside. Every payload `split_annex_b` returns
is clean, and a sequence of clean payloads is read back from its
serialisation whatever zeros a payload begins or ends with.
-/

namespace RobotMulticam.Codec

open RobotMulticam.Lib

/-! ## The scanner -/

/-- The loop of `start_codes`; the list is `bytes[index..]`. With fewer than
three bytes left neither prefix can match. -/
def startCodesFrom : Nat → List UInt8 → List (Nat × Nat)
  | _, [] => []
  | index, 0 :: 0 :: 0 :: 1 :: rest => (index, 4) :: startCodesFrom (index + 4) rest
  | index, 0 :: 0 :: 1 :: rest => (index, 3) :: startCodesFrom (index + 3) rest
  | index, _ :: rest => startCodesFrom (index + 1) rest

def startCodes (bytes : List UInt8) : List (Nat × Nat) := startCodesFrom 0 bytes

/-- The loop of `split_annex_b` over the start codes still to handle. -/
def nalsBetween (accessUnit : List UInt8) :
    List (Nat × Nat) → Outcome CodecError (List (List UInt8))
  | [] => .ok []
  | (offset, codeLength) :: rest =>
    let begin := offset + codeLength
    let finish := (rest.head?.map Prod.fst).getD accessUnit.length
    if finish ≤ begin then fail .malformedAccessUnit
    else do
      let payload ← slice accessUnit begin finish
      let nals ← nalsBetween accessUnit rest
      pure (payload :: nals)

def splitAnnexB (accessUnit : List UInt8) : Outcome CodecError (List (List UInt8)) :=
  if (startCodes accessUnit).isEmpty then fail .malformedAccessUnit
  else nalsBetween accessUnit (startCodes accessUnit)

/-! ## The cut without offsets -/

/-- The bytes before the first start code, and the payload behind each. -/
def segments : List UInt8 → List UInt8 × List (List UInt8)
  | [] => ([], [])
  | 0 :: 0 :: 0 :: 1 :: rest => ([], (segments rest).1 :: (segments rest).2)
  | 0 :: 0 :: 1 :: rest => ([], (segments rest).1 :: (segments rest).2)
  | byte :: rest => (byte :: (segments rest).1, (segments rest).2)

/-- The bytes before the first start code are a prefix of the stream. -/
theorem segments_leading (bytes : List UInt8) : (segments bytes).1 <+: bytes := by
  fun_induction segments bytes with
  | case1 => exact List.prefix_rfl
  | case2 => exact List.nil_prefix
  | case3 => exact List.nil_prefix
  | case4 byte rest _ _ ih => exact (List.prefix_cons_inj byte).mpr ih

/-- The first start code lies right behind the leading bytes. -/
theorem startCodesFrom_head (index : Nat) (bytes : List UInt8) :
    ((startCodesFrom index bytes).head?.map Prod.fst).getD (index + bytes.length) =
      index + (segments bytes).1.length := by
  fun_induction segments bytes generalizing index with
  | case1 => rfl
  | case2 rest ih => simp [startCodesFrom]
  | case3 rest ih => simp [startCodesFrom]
  | case4 byte rest hfour hthree ih =>
    rw [startCodesFrom]
    · have := ih (index + 1)
      simp only [List.length_cons] at this ⊢
      rw [show index + (rest.length + 1) = index + 1 + rest.length by omega, this]
      omega
    · exact hfour
    · exact hthree

theorem startCodesFrom_isEmpty (index : Nat) (bytes : List UInt8) :
    (startCodesFrom index bytes).isEmpty = (segments bytes).2.isEmpty := by
  fun_induction segments bytes generalizing index with
  | case1 => rfl
  | case2 rest ih => simp [startCodesFrom]
  | case3 rest ih => simp [startCodesFrom]
  | case4 byte rest hfour hthree ih =>
    rw [startCodesFrom]
    · exact ih (index + 1)
    · exact hfour
    · exact hthree

/-- One start code: the slice up to the next one is the next segment. -/
theorem nalsBetween_cons (skipped code rest : List UInt8)
    (hrest : nalsBetween (skipped ++ (code ++ rest))
        (startCodesFrom (skipped.length + code.length) rest) =
      if [] ∈ (segments rest).2 then fail .malformedAccessUnit
      else .ok (segments rest).2) :
    nalsBetween (skipped ++ (code ++ rest))
        ((skipped.length, code.length) ::
          startCodesFrom (skipped.length + code.length) rest) =
      if [] ∈ (segments rest).1 :: (segments rest).2 then fail .malformedAccessUnit
      else .ok ((segments rest).1 :: (segments rest).2) := by
  have hfinish := startCodesFrom_head (skipped.length + code.length) rest
  rw [show skipped.length + code.length + rest.length =
    (skipped ++ (code ++ rest)).length by simp; omega] at hfinish
  rw [nalsBetween]
  simp only [hfinish]
  by_cases hempty : (segments rest).1 = []
  · rw [if_pos (by simp [hempty]), if_pos (by simp [hempty])]
  · have hpos : 0 < (segments rest).1.length := List.length_pos_iff.mpr hempty
    have hle : (segments rest).1.length ≤ rest.length := (segments_leading rest).length_le
    rw [if_neg (by omega)]
    have hslice : (slice (skipped ++ (code ++ rest)) (skipped.length + code.length)
        (skipped.length + code.length + (segments rest).1.length) :
          Outcome CodecError (List UInt8)) = .ok (segments rest).1 := by
      rw [slice_of_le (by omega) (by simp; omega), ← List.append_assoc,
        List.drop_left' (by simp), Nat.add_sub_cancel_left]
      congr 1
      exact (List.prefix_iff_eq_take.mp (segments_leading rest)).symm
    rw [hslice, ok_bind, hrest]
    by_cases hlater : [] ∈ (segments rest).2
    · rw [if_pos hlater, if_pos (List.mem_cons_of_mem _ hlater)]
      rfl
    · rw [if_neg hlater, if_neg (by simp [hlater, Ne.symm hempty])]
      rfl

/-- Cutting at the scanned offsets gives the segments, unless one is empty.
`skipped` is the part of the stream already scanned. -/
theorem nalsBetween_startCodesFrom (skipped bytes : List UInt8) :
    nalsBetween (skipped ++ bytes) (startCodesFrom skipped.length bytes) =
      if [] ∈ (segments bytes).2 then fail .malformedAccessUnit
      else .ok (segments bytes).2 := by
  fun_induction segments bytes generalizing skipped with
  | case1 => simp [startCodesFrom, nalsBetween]
  | case2 rest ih =>
    have hrest := ih (skipped ++ [0, 0, 0, 1])
    rw [List.length_append, List.append_assoc] at hrest
    exact nalsBetween_cons skipped [0, 0, 0, 1] rest hrest
  | case3 rest ih =>
    have hrest := ih (skipped ++ [0, 0, 1])
    rw [List.length_append, List.append_assoc] at hrest
    exact nalsBetween_cons skipped [0, 0, 1] rest hrest
  | case4 byte rest hfour hthree ih =>
    have hrest := ih (skipped ++ [byte])
    rw [startCodesFrom]
    · simpa using hrest
    · exact hfour
    · exact hthree

/-- `split_annex_b` succeeds exactly when there is a start code and no
payload is empty, and then returns the segments. -/
theorem splitAnnexB_eq (accessUnit : List UInt8) :
    splitAnnexB accessUnit =
      if (segments accessUnit).2 = [] ∨ [] ∈ (segments accessUnit).2 then
        fail .malformedAccessUnit
      else .ok (segments accessUnit).2 := by
  have hcut := nalsBetween_startCodesFrom [] accessUnit
  simp only [List.nil_append, List.length_nil] at hcut
  unfold splitAnnexB startCodes
  rw [startCodesFrom_isEmpty, hcut]
  by_cases hnone : (segments accessUnit).2 = []
  · simp [hnone]
  · simp [hnone]

/-! ## Clean payloads -/

/-- A payload that can stand behind a start code and be found again. -/
structure Clean (payload : List UInt8) : Prop where
  ne_nil : payload ≠ []
  no_startCode : ¬ [0, 0, 1] <:+: payload

theorem clean_seiNalPayload (message : UserDataUnregistered) :
    Clean (seiNalPayload message) :=
  ⟨seiNalPayload_ne_nil message, seiNalPayload_no_startCode message⟩

/-- No segment contains a start code: the scanner would have cut there. -/
theorem segments_no_startCode (bytes : List UInt8) :
    ¬ [0, 0, 1] <:+: (segments bytes).1 ∧
      ∀ payload ∈ (segments bytes).2, ¬ [0, 0, 1] <:+: payload := by
  fun_induction segments bytes with
  | case1 => simp
  | case2 rest ih =>
    refine ⟨by simp, ?_⟩
    intro payload hmem
    rcases List.mem_cons.mp hmem with rfl | hmem
    · exact ih.1
    · exact ih.2 payload hmem
  | case3 rest ih =>
    refine ⟨by simp, ?_⟩
    intro payload hmem
    rcases List.mem_cons.mp hmem with rfl | hmem
    · exact ih.1
    · exact ih.2 payload hmem
  | case4 byte rest hfour hthree ih =>
    refine ⟨?_, ih.2⟩
    rw [List.infix_cons_iff]
    rintro (hatStart | hinside)
    · -- a start code at this byte is one in the stream itself
      obtain ⟨tail, htail⟩ := hatStart
      obtain ⟨after, hafter⟩ := segments_leading rest
      simp only [List.cons_append, List.nil_append, List.cons.injEq] at htail
      obtain ⟨rfl, htail⟩ := htail
      rw [← htail] at hafter
      exact hthree (tail ++ after) rfl (by simpa using hafter.symm)
    · exact ih.1 hinside

variable {nals : List (List UInt8)} {payload : List UInt8}

theorem clean_of_splitAnnexB {accessUnit : List UInt8} (h : splitAnnexB accessUnit = .ok nals) :
    nals ≠ [] ∧ ∀ payload ∈ nals, Clean payload := by
  rw [splitAnnexB_eq] at h
  split at h
  · simp at h
  · rename_i hgood
    obtain ⟨hsome, hfull⟩ := not_or.mp hgood
    obtain rfl := Except.ok.inj h
    refine ⟨hsome, fun payload hmem => ⟨?_, (segments_no_startCode accessUnit).2 payload hmem⟩⟩
    rintro rfl
    exact hfull hmem

/-! ## Serialising clean payloads -/

/-- What the injectors write: each payload behind a 4-byte start code. -/
def serialize (nals : List (List UInt8)) : List UInt8 :=
  nals.flatMap fun nal => [0, 0, 0, 1] ++ nal

/-- A payload without a start code is scanned over up to the end. -/
theorem segments_of_no_startCode (h : ¬ [0, 0, 1] <:+: payload) :
    segments payload = (payload, []) := by
  fun_induction segments payload with
  | case1 => rfl
  | case2 rest ih =>
    exact absurd ⟨[0], rest, rfl⟩ h
  | case3 rest ih =>
    exact absurd ⟨[], rest, rfl⟩ h
  | case4 byte rest hfour hthree ih =>
    have hrest := ih (fun hinside => h (hinside.trans (List.suffix_cons byte rest).isInfix))
    rw [hrest]

/-- A payload without a start code is scanned over up to the 4-byte code
behind it, also when it ends in zeros. -/
theorem segments_append_startCode (rest : List UInt8) (h : ¬ [0, 0, 1] <:+: payload) :
    segments (payload ++ ([0, 0, 0, 1] ++ rest)) =
      (payload, (segments rest).1 :: (segments rest).2) := by
  induction payload with
  | nil => rfl
  | cons byte tail ih =>
    have htail := ih (fun hinside => h (hinside.trans (List.suffix_cons byte tail).isInfix))
    rw [List.cons_append, segments, htail]
    · -- a 4-byte code here would need the payload's own 00 00 01, or a
      -- 01 where the appended code still has a zero
      intro after hbyte hshape
      match tail, h, hshape with
      | [], _, hshape => simp at hshape
      | [x], _, hshape => simp at hshape
      | [x, y], _, hshape => simp at hshape
      | x :: y :: z :: more, h, hshape =>
        simp only [List.cons_append, List.cons.injEq] at hshape
        obtain ⟨rfl, rfl, rfl, _⟩ := hshape
        exact h ⟨[byte], more, rfl⟩
    · intro after hbyte hshape
      match tail, h, hshape with
      | [], _, hshape => simp at hshape
      | [x], _, hshape => simp at hshape
      | x :: y :: more, h, hshape =>
        simp only [List.cons_append, List.cons.injEq] at hshape
        obtain ⟨rfl, rfl, _⟩ := hshape
        exact h ⟨[], more, by rw [hbyte]; rfl⟩

theorem segments_serialize (h : ∀ payload ∈ nals, Clean payload) :
    segments (serialize nals) = ([], nals) := by
  induction nals with
  | nil => rfl
  | cons nal rest ih =>
    have hnal := (h nal List.mem_cons_self).no_startCode
    have hrest := ih (fun payload hmem => h payload (List.mem_cons_of_mem _ hmem))
    have hcut : segments (nal ++ serialize rest) = (nal, rest) := by
      cases rest with
      | nil => simpa [serialize] using segments_of_no_startCode hnal
      | cons next more =>
        have hnext : serialize (next :: more) =
            [0, 0, 0, 1] ++ (next ++ serialize more) := by simp [serialize]
        rw [hnext] at hrest ⊢
        rw [segments_append_startCode _ hnal]
        have hsplit : segments ([0, 0, 0, 1] ++ (next ++ serialize more)) =
            ([], (segments (next ++ serialize more)).1 ::
              (segments (next ++ serialize more)).2) := rfl
        rw [hsplit] at hrest
        rw [(Prod.mk.inj hrest).2]
    have hshape : serialize (nal :: rest) = [0, 0, 0, 1] ++ (nal ++ serialize rest) := by
      simp [serialize]
    rw [hshape]
    change ([], (segments (nal ++ serialize rest)).1 ::
      (segments (nal ++ serialize rest)).2) = _
    rw [hcut]

/-- Clean payloads are read back from their serialisation. -/
theorem splitAnnexB_serialize (hsome : nals ≠ []) (h : ∀ payload ∈ nals, Clean payload) :
    splitAnnexB (serialize nals) = .ok nals := by
  rw [splitAnnexB_eq, segments_serialize h]
  rw [if_neg]
  rintro (hnone | hempty)
  · exact hsome hnone
  · exact (h [] hempty).ne_nil rfl

/-! ## SEI NAL units -/

theorem startCodesFrom_eq_nil {index : Nat} {bytes : List UInt8} (h : ¬ [0, 0, 1] <:+: bytes) :
    startCodesFrom index bytes = [] := by
  fun_induction startCodesFrom index bytes with
  | case1 => rfl
  | case2 index rest => exact absurd ⟨[0], rest, rfl⟩ h
  | case3 index rest => exact absurd ⟨[], rest, rfl⟩ h
  | case4 index byte rest _ _ ih => exact ih fun hinside => h (List.infix_cons hinside)

/-- A written SEI NAL unit with the start code in front of it has no other. -/
theorem startCodes_makeUserDataSei {message : UserDataUnregistered} {out : List UInt8}
    (h : makeUserDataSei message = .ok out) : startCodes out = [(0, 4)] := by
  obtain ⟨rfl, _⟩ := makeUserDataSei_eq_ok h
  have hrest : startCodesFrom 4 (seiNalPayload message) = [] :=
    startCodesFrom_eq_nil (seiNalPayload_no_startCode message)
  rw [startCodes, List.cons_append, List.cons_append, List.cons_append, List.cons_append,
    List.nil_append, startCodesFrom, hrest]

/-- The escaped RBSP behind the header of an SEI NAL unit, with the origin of
every byte. -/
def markedNal (rbsp : List UInt8) : List (UInt8 × Origin) :=
  (h264NalSei, .copied) :: markFrom 0 rbsp

/-- Emulation prevention is undone by its inverse, and behind two zero bytes
it leaves nothing below 3, and a 3 only as an escape that is needed. -/
theorem emulation_prevention_guards (rbsp : List UInt8) :
    removeEmulationPrevention (addEmulationPrevention rbsp) = .ok rbsp ∧
      (markedNal rbsp).map Prod.fst = h264NalSei :: addEmulationPrevention rbsp ∧
      ((markedNal rbsp).filter fun marked => marked.2 = .copied).map Prod.fst =
        h264NalSei :: rbsp ∧
      (∀ position first second third, (markedNal rbsp)[position]? = some first →
        (markedNal rbsp)[position + 1]? = some second →
        (markedNal rbsp)[position + 2]? = some third → first.1 = 0 → second.1 = 0 →
        (third.1 ≠ 0 ∧ third.1 ≠ 1 ∧ third.1 ≠ 2) ∧
          (third.1 = 3 → third.2 = .inserted ∧
            ∃ next ∈ (markedNal rbsp)[position + 3]?, next.1 ≤ 3)) ∧
      ∀ message out, makeUserDataSei message = .ok out → startCodes out = [(0, 4)] := by
  refine ⟨removeEmulationPrevention_add rbsp, ?_, ?_, ?_, fun message out =>
    startCodes_makeUserDataSei⟩
  · exact congrArg (h264NalSei :: ·) (map_fst_markFrom 0 rbsp)
  · exact congrArg (h264NalSei :: ·) (copied_markFrom 0 rbsp)
  · intro position first second third hfirst hsecond hthird hzero hzero'
    -- the header is not zero, so the counter starts as in the loop
    have hguarded : Guarded 0 (markedNal rbsp) :=
      ⟨fun htwo => absurd htwo (by decide), guarded_markFrom 0 rbsp⟩
    obtain ⟨hlarge, hescape⟩ := hguarded.behind_zeros hfirst hsecond hthird hzero hzero'
    have hother : ∀ byte : UInt8, byte < 3 → third.1 ≠ byte := by
      rintro byte hsmall rfl
      exact UInt8.not_le.mpr hsmall hlarge
    exact ⟨⟨hother 0 (by decide), hother 1 (by decide), hother 2 (by decide)⟩, hescape⟩

end RobotMulticam.Codec
