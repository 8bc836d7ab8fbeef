import RobotMulticam.Codec.AccessUnit
import RobotMulticam.Lib.Returns

/-!
# Inspection stays inside its buffers

`inspect_h264_annex_b` runs on whatever arrives from the network. The models
of its loops take bytes off the front of a list, where the code indexes a
slice; `Indexed` has the loops as they are written, with an access that
panics outside the buffer. Each is the list model from its index on, so
none of them panics.

The cuts and slices that the models already take by position are in range
because the start codes lie behind each other (`startCodes_pairwise`) and
the cursor of the message loop only moves forward inside the RBSP
(`parseMessage_cursor`).
-/

namespace RobotMulticam.Codec

open RobotMulticam.Lib RobotMulticam.Protocol

/-! ## The loops with their indices -/

namespace Indexed

/-- `remove_emulation_prevention` from a given index. -/
def removeFrom (data : List UInt8) (zeroCount index : Nat) :
    Outcome CodecError (List UInt8) :=
  if index < data.length then do
    let byte ← getAt data index
    if 2 ≤ zeroCount ∧ byte = 3 then do
      let next ← okOr .malformedSei data[index + 1]?
      if 3 < next then fail .malformedSei else removeFrom data 0 (index + 1)
    else do
      let out ← removeFrom data (nextZeroCount zeroCount byte) (index + 1)
      pure (byte :: out)
  else .ok []
termination_by data.length - index

def removeEmulationPrevention (data : List UInt8) : Outcome CodecError (List UInt8) :=
  removeFrom data 0 0

/-- `start_codes` from a given index. -/
def startCodesFrom (bytes : List UInt8) (index : Nat) : Outcome CodecError (List (Nat × Nat)) :=
  if index + 3 ≤ bytes.length then do
    let rest ← slice bytes index bytes.length
    if [0, 0, 0, 1].isPrefixOf rest then do
      let codes ← startCodesFrom bytes (index + 4)
      pure ((index, 4) :: codes)
    else if [0, 0, 1].isPrefixOf rest then do
      let codes ← startCodesFrom bytes (index + 3)
      pure ((index, 3) :: codes)
    else startCodesFrom bytes (index + 1)
  else .ok []
termination_by bytes.length - index

def startCodes (bytes : List UInt8) : Outcome CodecError (List (Nat × Nat)) :=
  startCodesFrom bytes 0

/-- The message loop of `parse_sei_nal`, whose condition reads the byte at
the cursor. -/
def parseMessages (rbsp : List UInt8) (cursor : Nat) :
    Outcome CodecError (List UserDataUnregistered) :=
  if cursor < rbsp.length then do
    let byte ← getAt rbsp cursor
    if byte = 0x80 then .ok []
    else
      match _hparse : parseMessage rbsp cursor with
      | .error fault => .error fault
      | .ok (message, finish) => do
        let rest ← parseMessages rbsp finish
        pure (message.toList ++ rest)
  else .ok []
termination_by rbsp.length - cursor
decreasing_by
  have := parseMessage_cursor _hparse
  simp only at this
  omega

end Indexed

/-- From any index, the loop is the list model on the bytes behind it. -/
theorem removeFrom_indexed (data : List UInt8) (zeroCount index : Nat) :
    Indexed.removeFrom data zeroCount index = removeFrom zeroCount (data.drop index) := by
  rw [Indexed.removeFrom]
  by_cases hinside : index < data.length
  · have hrest := fun count => removeFrom_indexed data count (index + 1)
    rw [if_pos hinside, getAt_of_lt hinside, ok_bind, List.drop_eq_getElem_cons hinside, removeFrom]
    by_cases hescape : 2 ≤ zeroCount ∧ data[index] = 3
    · rw [if_pos hescape, if_pos hescape, List.head?_drop, hrest 0]
      cases data[index + 1]? with
      | none => rfl
      | some next => rfl
    · rw [if_neg hescape, if_neg hescape, hrest]
  · rw [if_neg hinside, List.drop_of_length_le (Nat.le_of_not_lt hinside)]
    rfl
termination_by data.length - index

variable {index : Nat} {bytes : List UInt8} {code : Nat × Nat}

theorem startCodesFrom_short (h : bytes.length < 3) : startCodesFrom index bytes = [] := by
  fun_induction startCodesFrom index bytes with
  | case1 => rfl
  | case2 =>
    simp only [List.length_cons] at h
    omega
  | case3 =>
    simp only [List.length_cons] at h
    omega
  | case4 index byte rest _ _ ih =>
    simp only [List.length_cons] at h
    exact ih (by omega)

/-- A byte that starts no code is skipped. -/
theorem startCodesFrom_skip {byte : UInt8} {rest : List UInt8}
    (hfour : ¬ [0, 0, 0, 1] <+: byte :: rest) (hthree : ¬ [0, 0, 1] <+: byte :: rest) :
    startCodesFrom index (byte :: rest) = startCodesFrom (index + 1) rest := by
  rw [startCodesFrom]
  · rintro tail rfl rfl
    exact hfour ⟨tail, rfl⟩
  · rintro tail rfl rfl
    exact hthree ⟨tail, rfl⟩

theorem startCodesFrom_indexed (bytes : List UInt8) (index : Nat) :
    Indexed.startCodesFrom bytes index = .ok (startCodesFrom index (bytes.drop index)) := by
  rw [Indexed.startCodesFrom]
  by_cases hroom : index + 3 ≤ bytes.length
  · have hslice : (slice bytes index bytes.length : Outcome CodecError (List UInt8)) =
        .ok (bytes.drop index) := by
      rw [slice_of_le (by omega) le_rfl, List.take_of_length_le (by simp)]
    rw [if_pos hroom, hslice, ok_bind]
    by_cases hfour : [0, 0, 0, 1] <+: bytes.drop index
    · obtain ⟨tail, htail⟩ := hfour
      have hbehind : bytes.drop (index + 4) = tail := by
        rw [← List.drop_drop, ← htail]
        rfl
      rw [if_pos (by rw [← htail]; rfl), startCodesFrom_indexed bytes (index + 4), hbehind, ← htail]
      rfl
    · rw [if_neg (by rwa [List.isPrefixOf_iff_prefix])]
      by_cases hthree : [0, 0, 1] <+: bytes.drop index
      · obtain ⟨tail, htail⟩ := hthree
        have hbehind : bytes.drop (index + 3) = tail := by
          rw [← List.drop_drop, ← htail]
          rfl
        rw [if_pos (by rw [← htail]; rfl), startCodesFrom_indexed bytes (index + 3), hbehind,
          ← htail]
        rfl
      · rw [if_neg (by rwa [List.isPrefixOf_iff_prefix]), startCodesFrom_indexed bytes (index + 1)]
        have hcons : bytes.drop index = bytes[index] :: bytes.drop (index + 1) :=
          List.drop_eq_getElem_cons (by omega)
        rw [hcons] at hfour hthree ⊢
        rw [startCodesFrom_skip hfour hthree]
  · rw [if_neg hroom, startCodesFrom_short (by simp; omega)]
termination_by bytes.length - index

theorem parseMessages_indexed (rbsp : List UInt8) (cursor : Nat) :
    Indexed.parseMessages rbsp cursor = parseMessages rbsp cursor := by
  rw [Indexed.parseMessages]
  by_cases hinside : cursor < rbsp.length
  · rw [if_pos hinside, getAt_of_lt hinside, ok_bind]
    have hget : rbsp[cursor]? = some rbsp[cursor] := List.getElem?_eq_getElem hinside
    by_cases hend : rbsp[cursor] = 0x80
    · rw [if_pos hend, parseMessages, if_neg (by simp [hget, hend])]
    · rw [if_neg hend, parseMessages_turn hinside (by simpa [hget] using hend)]
      split
      · rename_i fault hfault
        rw [hfault]
        rfl
      · rename_i message finish hparse
        have hcursor := parseMessage_cursor hparse
        rw [hparse, ok_bind, parseMessages_indexed rbsp finish]
        rfl
  · rw [if_neg hinside, parseMessages, if_neg (fun h => hinside h.1)]
termination_by rbsp.length - cursor
decreasing_by
  simp only at hcursor
  omega

/-! ## Start codes -/

/-- A code found behind `index` lies inside the bytes that were scanned. -/
theorem mem_startCodesFrom (h : code ∈ startCodesFrom index bytes) :
    index ≤ code.1 ∧ 0 < code.2 ∧ code.1 + code.2 ≤ index + bytes.length := by
  fun_induction startCodesFrom index bytes with
  | case1 => simp at h
  | case2 index rest ih =>
    simp only [List.length_cons]
    rcases List.mem_cons.mp h with rfl | hlater
    · exact ⟨le_rfl, Nat.succ_pos _, by omega⟩
    · have := ih hlater
      omega
  | case3 index rest ih =>
    simp only [List.length_cons]
    rcases List.mem_cons.mp h with rfl | hlater
    · exact ⟨le_rfl, Nat.succ_pos _, by omega⟩
    · have := ih hlater
      omega
  | case4 index byte rest _ _ ih =>
    have := ih h
    simp only [List.length_cons]
    omega

theorem startCodesFrom_pairwise (index : Nat) (bytes : List UInt8) :
    (startCodesFrom index bytes).Pairwise fun code next => code.1 + code.2 ≤ next.1 := by
  fun_induction startCodesFrom index bytes with
  | case1 => exact List.Pairwise.nil
  | case2 index rest ih =>
    exact List.Pairwise.cons (fun next hnext => (mem_startCodesFrom hnext).1) ih
  | case3 index rest ih =>
    exact List.Pairwise.cons (fun next hnext => (mem_startCodesFrom hnext).1) ih
  | case4 index byte rest _ _ ih => exact ih

/-- Where `split_annex_b` ends the payload behind a start code. -/
def nalEnd (accessUnit : List UInt8) (position : Nat) : Nat :=
  ((startCodes accessUnit)[position + 1]?.map Prod.fst).getD accessUnit.length

theorem nal_inside {accessUnit : List UInt8} {position : Nat}
    (h : (startCodes accessUnit)[position]? = some code) :
    code.1 + code.2 ≤ nalEnd accessUnit position ∧
      nalEnd accessUnit position ≤ accessUnit.length := by
  have hinside : ∀ code ∈ startCodes accessUnit, code.1 + code.2 ≤ accessUnit.length := by
    intro code hmem
    have := mem_startCodesFrom hmem
    omega
  unfold nalEnd
  cases hnext : (startCodes accessUnit)[position + 1]? with
  | none => exact ⟨hinside code (List.mem_of_getElem? h), le_rfl⟩
  | some next =>
    obtain ⟨hlt, rfl⟩ := List.getElem?_eq_some_iff.mp h
    obtain ⟨hlt', rfl⟩ := List.getElem?_eq_some_iff.mp hnext
    have hbehind := List.pairwise_iff_getElem.mp (startCodesFrom_pairwise 0 accessUnit)
      position (position + 1) hlt hlt' (Nat.lt_succ_self _)
    have hwhole := hinside _ (List.getElem_mem hlt')
    exact ⟨hbehind, show (startCodes accessUnit)[position + 1].1 ≤ _ by omega⟩

/-! ## Every call returns -/

theorem returns_removeFrom (zeroCount : Nat) (data : List UInt8) :
    Returns (removeFrom zeroCount data) := by
  fun_induction removeFrom zeroCount data with
  | case1 => exact returns_ok _
  | case2 => exact returns_fail _
  | case3 => exact returns_fail _
  | case4 zeroCount byte rest _ _ _ _ ih => exact ih
  | case5 zeroCount byte rest _ ih => exact returns_bind ih fun _ _ => returns_ok _

theorem returns_takeFfEncodedFrom (bytes : List UInt8) (value cursor : Nat) :
    Returns (takeFfEncodedFrom bytes value cursor) := by
  fun_induction takeFfEncodedFrom bytes value cursor with
  | case1 => exact returns_fail _
  | case2 => exact returns_fail _
  | case3 => exact returns_ok _
  | case4 _ _ _ _ _ _ _ ih => exact ih

/-- The declared size was compared with the buffer before anything is read,
and user data is longer than its UUID. -/
theorem returns_parseMessage (rbsp : List UInt8) (cursor : Nat) :
    Returns (parseMessage rbsp cursor) := by
  unfold parseMessage
  refine returns_bind (returns_takeFfEncodedFrom rbsp 0 cursor) ?_
  rintro ⟨payloadType, afterType⟩ _
  refine returns_bind (returns_takeFfEncodedFrom rbsp 0 afterType) ?_
  rintro ⟨payloadSize, afterSize⟩ _
  refine returns_bind (returns_okOr _ _) ?_
  intro finish hfinish
  obtain ⟨hadd, hle⟩ := Option.filter_eq_some_iff.mp (okOr_eq_ok.mp hfinish)
  obtain ⟨_, rfl⟩ := checkedAdd_eq_some.mp hadd
  have hend : afterSize + payloadSize ≤ rbsp.length := by simpa using hle
  split
  · split
    · exact returns_fail _
    · rename_i hlong
      refine returns_bind (returns_slice (by omega) (by omega)) fun _ _ => ?_
      refine returns_bind (returns_okOr _ _) fun _ _ => ?_
      exact returns_bind (returns_slice (by omega) hend) fun _ _ => returns_ok _
  · exact returns_ok _

theorem returns_parseMessages (rbsp : List UInt8) (cursor : Nat) :
    Returns (parseMessages rbsp cursor) := by
  fun_induction parseMessages rbsp cursor with
  | case1 cursor _ fault hfault =>
    have hreturns := returns_parseMessage rbsp cursor
    rw [hfault] at hreturns
    exact returns_error hreturns
  | case2 cursor _ message finish _ ih => exact returns_bind ih fun _ _ => returns_ok _
  | case3 => exact returns_ok _

theorem returns_parseSeiNal (nal : List UInt8) : Returns (parseSeiNal nal) := by
  unfold parseSeiNal
  split
  · exact returns_fail _
  · rename_i hheader
    have hsome : 1 ≤ nal.length := by
      rw [Nat.one_le_iff_ne_zero, List.length_eq_zero_iff.ne]
      rintro rfl
      exact hheader (by decide)
    refine returns_bind (returns_slice hsome le_rfl) fun data _ => ?_
    exact returns_bind (returns_removeFrom 0 data) fun rbsp _ => returns_parseMessages rbsp 0

theorem returns_splitAnnexB (accessUnit : List UInt8) : Returns (splitAnnexB accessUnit) := by
  rw [splitAnnexB_eq]
  split
  · exact returns_fail _
  · exact returns_ok _

theorem returns_collectMessages (messages : List UserDataUnregistered)
    (nals : List (List UInt8)) : Returns (collectMessages messages nals) := by
  induction nals generalizing messages with
  | nil => exact returns_ok _
  | cons nal rest ih =>
    rw [collectMessages]
    split
    · refine returns_bind (returns_parseSeiNal nal) fun parsed _ => ?_
      split
      · exact returns_fail _
      · exact ih _
    · exact ih _

theorem returns_decodeSyncTimestamp (codec : Message SyncTimestampV1) (bytes : List UInt8) :
    Returns (decodeSyncTimestamp codec bytes) := by
  unfold decodeSyncTimestamp
  split
  · exact returns_fail _
  · refine returns_bind (returns_okOr _ _) fun timestamp _ => ?_
    split
    · exact returns_fail _
    · exact returns_ok _

theorem returns_inspectH264AnnexB (codec : Message SyncTimestampV1) (accessUnit : List UInt8)
    (secondary : Bool) : Returns (inspectH264AnnexB codec accessUnit secondary) := by
  have hmessages : Returns (userDataMessages accessUnit) :=
    returns_bind (returns_splitAnnexB accessUnit) fun nals _ => returns_collectMessages [] nals
  refine returns_bind hmessages fun messages _ => ?_
  dsimp only
  split
  · exact returns_ok _
  · rename_i hsome
    split
    · exact returns_fail _
    · split
      · exact returns_fail _
      · -- the code indexes the first timestamp, and there is one
        rename_i hnone
        exact absurd (List.isEmpty_iff.mpr (List.head?_eq_none_iff.mp hnone)) hsome
      · exact returns_bind (returns_decodeSyncTimestamp codec _) fun _ _ => returns_ok _

/-- The start codes of a unit and the payloads cut between them. -/
structure CutsInside (accessUnit : List UInt8) : Prop where
  scan : Indexed.startCodes accessUnit = .ok (startCodes accessUnit)
  nonempty : ∀ code ∈ startCodes accessUnit, 0 < code.2
  ordered : (startCodes accessUnit).Pairwise fun code next => code.1 + code.2 ≤ next.1
  cuts : ∀ position code, (startCodes accessUnit)[position]? = some code →
    code.1 + code.2 ≤ nalEnd accessUnit position ∧
      nalEnd accessUnit position ≤ accessUnit.length

/-- What is read of an RBSP from a cursor, which moves forward. -/
structure ReadsInside (rbsp : List UInt8) (cursor : Nat) : Prop where
  number : Returns (takeFfEncoded rbsp cursor)
  message : Returns (parseMessage rbsp cursor)
  advances : ∀ message finish, parseMessage rbsp cursor = .ok (message, finish) →
    cursor < finish ∧ finish ≤ rbsp.length
  loop : Indexed.parseMessages rbsp cursor = parseMessages rbsp cursor ∧
    Returns (parseMessages rbsp cursor)

/-- Inspecting any bytes returns normally, and every cut, slice and index on
the way is in range. -/
theorem inspection_in_bounds (codec : Message SyncTimestampV1) (accessUnit : List UInt8)
    (secondary : Bool) :
    Returns (inspectH264AnnexB codec accessUnit secondary) ∧ CutsInside accessUnit ∧
      (∀ data, Indexed.removeEmulationPrevention data = removeEmulationPrevention data ∧
        Returns (removeEmulationPrevention data)) ∧
      ∀ rbsp cursor, ReadsInside rbsp cursor := by
  refine ⟨returns_inspectH264AnnexB codec accessUnit secondary, ⟨?_, ?_, ?_, ?_⟩, ?_, ?_⟩
  · exact startCodesFrom_indexed accessUnit 0
  · exact fun code hmem => (mem_startCodesFrom hmem).2.1
  · exact startCodesFrom_pairwise 0 accessUnit
  · exact fun position code hcode => nal_inside hcode
  · exact fun data => ⟨removeFrom_indexed data 0 0, returns_removeFrom 0 data⟩
  · intro rbsp cursor
    refine ⟨returns_takeFfEncodedFrom rbsp 0 cursor, returns_parseMessage rbsp cursor, ?_, ?_⟩
    · exact fun message finish hparse => parseMessage_cursor hparse
    · exact ⟨parseMessages_indexed rbsp cursor, returns_parseMessages rbsp cursor⟩

end RobotMulticam.Codec
