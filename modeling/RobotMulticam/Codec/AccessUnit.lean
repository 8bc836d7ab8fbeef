import RobotMulticam.Codec.AnnexB
import RobotMulticam.Protocol.Messages

/-!
# Injecting and inspecting access units

The Edge puts the capture timestamp, and on the anchor stream the context
and manifest messages, into an encoded access unit as SEI NAL units in front
of its first coded slice; the Receiver reads them back before decoding.

Both injectors rewrite the unit as `serialize` of its payloads with the new
ones inserted (`writeNals_eq`), so everything about the result follows from
the payload lists: `collectMessages` over them, and `splitAnnexB_serialize`.
-/

namespace RobotMulticam.Codec

open RobotMulticam.Lib RobotMulticam.Protocol

def maxSeiMessagesPerAu : Nat := 64

structure InspectedAccessUnit where
  timestamp : SyncTimestampV1
  messages : List UserDataUnregistered
  deriving DecidableEq

/-- `encode_anchor_context_packet`. -/
def encodeAnchorContextPacket (externals : Externals) (context : AnchorFrameContextV1) :
    Except CodecError (List UInt8) :=
  let exact := externals.context.encodeToVec context
  if maxAnchorContextPacketBytes < exact.length then
    .error (.payloadTooLarge maxAnchorContextPacketBytes exact.length)
  else .ok (externals.packet.encodeToVec ⟨1, exact, externals.crc32c exact⟩)

/-- The packet and the context in it, whose checksum is over the exact bytes
the packet carries. -/
def decodeAnchorContextPacket (externals : Externals) (bytes : List UInt8) :
    Except CodecError (AnchorFrameContextPacketV1 × AnchorFrameContextV1) :=
  if maxAnchorContextPacketBytes < bytes.length then
    .error (.payloadTooLarge maxAnchorContextPacketBytes bytes.length)
  else match externals.packet.decode bytes with
  | none => .error .protobuf
  | some packet =>
    if externals.crc32c packet.serializedContext ≠ packet.payloadCrc32c then .error .contextCrc
    else match externals.context.decode packet.serializedContext with
    | none => .error .protobuf
    | some context => .ok (packet, context)

section Model

variable (codec : Message SyncTimestampV1)

def encodeSyncTimestamp (captureTimeEdgeNs : UInt64) : Outcome CodecError (List UInt8) :=
  if captureTimeEdgeNs = 0 then fail .zeroTimestamp
  else .ok (codec.encodeToVec ⟨captureTimeEdgeNs⟩)

def decodeSyncTimestamp (bytes : List UInt8) : Outcome CodecError SyncTimestampV1 :=
  if 16 ≤ bytes.length then fail (.payloadTooLarge 15 bytes.length)
  else do
    let timestamp ← okOr .protobuf (codec.decode bytes)
    if timestamp.captureTimeEdgeNs = 0 then fail .zeroTimestamp else pure timestamp

/-- The message loop of `inspect_h264_annex_b`. -/
def collectMessages : List UserDataUnregistered → List (List UInt8) →
    Outcome CodecError (List UserDataUnregistered)
  | messages, [] => .ok messages
  | messages, nal :: rest =>
    if nalUnitType nal = some h264NalSei then do
      let parsed ← parseSeiNal nal
      if maxSeiMessagesPerAu < (messages ++ parsed).length then fail .malformedSei
      else collectMessages (messages ++ parsed) rest
    else collectMessages messages rest

variable (accessUnit : List UInt8)

/-- The user-data messages of an access unit, as the inspector gathers them. -/
def userDataMessages :
    Outcome CodecError (List UserDataUnregistered) := do
  let nals ← splitAnnexB accessUnit
  collectMessages [] nals

def inspectH264AnnexB (secondary : Bool) :
    Outcome CodecError (Option InspectedAccessUnit) := do
  let messages ← userDataMessages accessUnit
  let timestamps := messages.filter fun message => message.uuid = syncTimestampUuid
  if timestamps.isEmpty then pure none
  else if timestamps.length ≠ 1 then fail (.timestampCount timestamps.length)
  else
    let forbidden := if secondary then messages.find? fun message =>
        message.uuid = anchorContextUuid ∨ message.uuid = sessionManifestUuid
      else none
    match forbidden, timestamps.head? with
    | some message, _ => fail (.secondarySemanticMetadata message.uuid)
    | none, none => panicked
    | none, some first => do
      let timestamp ← decodeSyncTimestamp codec first.payload
      pure (some ⟨timestamp, messages⟩)

/-- A coded slice: NAL unit types 1 to 5. -/
def isCodedSlice (nal : List UInt8) : Bool :=
  let unitType := (nalUnitType nal).getD 0
  1 ≤ unitType && unitType ≤ 5

/-- Where both injectors insert: before the first coded slice, or in front. -/
def insertAt (nals : List (List UInt8)) : Nat := (nals.findIdx? isCodedSlice).getD 0

/-- The output loop of both injectors: every payload behind a 4-byte start
code, the insertion before payload number `position`. -/
def writeNals (insertion : Outcome CodecError (List UInt8)) (position : Nat) :
    Nat → List (List UInt8) → Outcome CodecError (List UInt8)
  | _, [] => .ok []
  | index, nal :: rest => do
    let inserted ← if index = position then insertion else .ok []
    let tail ← writeNals insertion position (index + 1) rest
    pure (inserted ++ ([0, 0, 0, 1] ++ nal) ++ tail)

def injectTimestampH264AnnexB (captureTimeEdgeNs : UInt64) :
    Outcome CodecError (List UInt8) := do
  let inspected ← inspectH264AnnexB codec accessUnit false
  if inspected.isSome then fail (.timestampCount 2)
  else do
    let payload ← encodeSyncTimestamp codec captureTimeEdgeNs
    let sei ← makeUserDataSei ⟨syncTimestampUuid, payload⟩
    let nals ← splitAnnexB accessUnit
    let out ← writeNals (.ok sei) (insertAt nals) 0 nals
    vec out

/-- The inner loop of `inject_user_data_h264_annex_b`. -/
def makeUserDataSeis : List UserDataUnregistered → Outcome CodecError (List UInt8)
  | [] => .ok []
  | addition :: rest => do
    let sei ← makeUserDataSei addition
    let tail ← makeUserDataSeis rest
    pure (sei ++ tail)

def injectUserDataH264AnnexB (additions : List UserDataUnregistered) :
    Outcome CodecError (List UInt8) := do
  let inspected ← inspectH264AnnexB codec accessUnit false
  let duplicate := inspected.any fun existing => additions.any fun addition =>
    existing.messages.any fun message => message.uuid = addition.uuid
  if duplicate then fail (.timestampCount 2)
  else do
    let nals ← splitAnnexB accessUnit
    let out ← writeNals (makeUserDataSeis additions) (insertAt nals) 0 nals
    vec out

end Model

/-! ## Gathering messages -/

/-- The messages of one NAL unit; only SEI units have any. -/
def nalMessages (nal : List UInt8) : Outcome CodecError (List UserDataUnregistered) :=
  if nalUnitType nal = some h264NalSei then parseSeiNal nal else .ok []

/-- The messages of a sequence of NAL units, without the limit. -/
def parsedMessages : List (List UInt8) → Outcome CodecError (List UserDataUnregistered)
  | [] => .ok []
  | nal :: rest => do
    let here ← nalMessages nal
    let later ← parsedMessages rest
    pure (here ++ later)

variable {messages start parsed : List UserDataUnregistered} {nals before after : List (List UInt8)}
  {insertion : Outcome CodecError (List UInt8)} {out : List UInt8}

theorem parsedMessages_append {left right : List (List UInt8)} :
    parsedMessages (left ++ right) = .ok messages ↔
      ∃ before after, parsedMessages left = .ok before ∧
        parsedMessages right = .ok after ∧ messages = before ++ after := by
  induction left generalizing messages with
  | nil => simp [parsedMessages]
  | cons nal rest ih =>
    simp only [List.cons_append, parsedMessages, bind_eq_ok, ih]
    constructor
    · rintro ⟨here, hhere, later, ⟨before, after, hbefore, hafter, rfl⟩, hsum⟩
      refine ⟨here ++ before, after, ⟨here, hhere, before, hbefore, rfl⟩, hafter, ?_⟩
      rw [List.append_assoc]
      exact (Except.ok.inj hsum).symm
    · rintro ⟨before, after, ⟨here, hhere, later, hlater, hsum⟩, hafter, rfl⟩
      obtain rfl := Except.ok.inj hsum
      refine ⟨here, hhere, later ++ after, ⟨later, after, hlater, hafter, rfl⟩, ?_⟩
      rw [List.append_assoc]
      rfl

/-- What the inspector gathers is what the units contain. -/
theorem collectMessages_eq_ok (h : collectMessages start nals = .ok messages) :
    ∃ parsed, parsedMessages nals = .ok parsed ∧ messages = start ++ parsed := by
  induction nals generalizing start with
  | nil =>
    obtain rfl := Except.ok.inj h
    exact ⟨[], rfl, by simp⟩
  | cons nal rest ih =>
    rw [collectMessages] at h
    simp only [parsedMessages, nalMessages]
    by_cases hsei : nalUnitType nal = some h264NalSei
    · rw [if_pos hsei] at h ⊢
      obtain ⟨here, hhere, h⟩ := bind_eq_ok.mp h
      split at h
      · simp at h
      · obtain ⟨later, hlater, rfl⟩ := ih h
        exact ⟨here ++ later, by rw [hhere, ok_bind, hlater]; rfl, by simp⟩
    · rw [if_neg hsei] at h ⊢
      obtain ⟨later, hlater, rfl⟩ := ih h
      exact ⟨later, by rw [ok_bind, hlater]; rfl, rfl⟩

/-- Below the limit the inspector gathers everything. -/
theorem collectMessages_of_le (h : parsedMessages nals = .ok parsed)
    (hle : (start ++ parsed).length ≤ maxSeiMessagesPerAu) :
    collectMessages start nals = .ok (start ++ parsed) := by
  induction nals generalizing start parsed with
  | nil =>
    obtain rfl := Except.ok.inj h
    simp [collectMessages]
  | cons nal rest ih =>
    obtain ⟨here, hhere, h⟩ := bind_eq_ok.mp h
    obtain ⟨later, hlater, h⟩ := bind_eq_ok.mp h
    obtain rfl := Except.ok.inj h
    rw [collectMessages]
    unfold nalMessages at hhere
    by_cases hsei : nalUnitType nal = some h264NalSei
    · rw [if_pos hsei] at hhere ⊢
      rw [hhere, ok_bind, if_neg (by simp at hle ⊢; omega)]
      rw [ih hlater (by simpa using hle), List.append_assoc]
    · rw [if_neg hsei] at hhere ⊢
      obtain rfl := Except.ok.inj hhere
      exact ih hlater hle

/-- Inserted SEI units contribute their own messages. -/
theorem parsedMessages_seiNalPayloads
    (h : ∀ message ∈ messages, (seiNalPayload message).length ≤ isizeMax) :
    parsedMessages (messages.map seiNalPayload) = .ok messages := by
  induction messages with
  | nil => rfl
  | cons message rest ih =>
    have hhere : nalMessages (seiNalPayload message) = .ok [message] := by
      rw [nalMessages, if_pos (nalUnitType_seiNalPayload message)]
      exact parseSeiNal_seiNalPayload message (h message List.mem_cons_self)
    rw [List.map_cons, parsedMessages, hhere, ok_bind,
      ih (fun other hmem => h other (List.mem_cons_of_mem _ hmem))]
    rfl

/-! ## Writing the unit back -/

theorem writeNals_behind (insertion : Outcome CodecError (List UInt8)) {position index : Nat}
    (nals : List (List UInt8)) (h : position < index) :
    writeNals insertion position index nals = .ok (serialize nals) := by
  induction nals generalizing index with
  | nil => rfl
  | cons nal rest ih =>
    rw [writeNals, if_neg (by omega), ok_bind, ih (by omega)]
    simp [serialize, pure, Except.pure]

/-- The output loop serialises the payloads with the insertion in place. -/
theorem writeNals_eq {position index : Nat} (hle : index ≤ position)
    (hlt : position < index + nals.length) :
    writeNals insertion position index nals = .ok out ↔
      ∃ inserted, insertion = .ok inserted ∧
        out = serialize (nals.take (position - index)) ++ inserted ++
          serialize (nals.drop (position - index)) := by
  induction nals generalizing index out with
  | nil => simp at hlt; omega
  | cons nal rest ih =>
    rw [writeNals]
    by_cases hhere : index = position
    · subst hhere
      rw [if_pos rfl]
      constructor
      · intro h
        obtain ⟨inserted, hinserted, h⟩ := bind_eq_ok.mp h
        rw [writeNals_behind _ _ (Nat.lt_succ_self _)] at h
        obtain rfl := Except.ok.inj h
        exact ⟨inserted, hinserted, by simp [serialize]⟩
      · rintro ⟨inserted, hinserted, rfl⟩
        rw [hinserted, ok_bind, writeNals_behind _ _ (Nat.lt_succ_self _)]
        simp [serialize, pure, Except.pure]
    · have hstep : position - index = (position - (index + 1)) + 1 := by omega
      simp only [List.length_cons] at hlt
      rw [if_neg hhere, ok_bind, bind_eq_ok, hstep]
      have hrest := fun out => @ih out (index + 1) (by omega) (by omega)
      simp only [hrest, List.take_succ_cons, List.drop_succ_cons]
      constructor
      · rintro ⟨tail, ⟨inserted, hinserted, rfl⟩, h⟩
        obtain rfl := Except.ok.inj h
        exact ⟨inserted, hinserted, by simp [serialize]⟩
      · rintro ⟨inserted, hinserted, rfl⟩
        exact ⟨_, ⟨inserted, hinserted, rfl⟩, by simp [serialize, pure, Except.pure]⟩

theorem insertAt_lt (h : nals ≠ []) : insertAt nals < nals.length := by
  unfold insertAt
  cases hfound : nals.findIdx? isCodedSlice with
  | none => simpa using List.length_pos_iff.mpr h
  | some position =>
    obtain ⟨hlt, _⟩ := List.findIdx?_eq_some_iff_getElem.mp hfound
    simpa using hlt

/-- The output loop of an access unit that can be split. -/
theorem writeNals_insertAt {accessUnit : List UInt8} (hnals : splitAnnexB accessUnit = .ok nals) :
    writeNals insertion (insertAt nals) 0 nals = .ok out ↔
      ∃ inserted, insertion = .ok inserted ∧
        out = serialize (nals.take (insertAt nals)) ++ inserted ++
          serialize (nals.drop (insertAt nals)) := by
  have hlt : insertAt nals < 0 + nals.length := by
    simpa using insertAt_lt (clean_of_splitAnnexB hnals).1
  exact writeNals_eq (Nat.zero_le _) hlt

theorem makeUserDataSeis_eq_ok {additions : List UserDataUnregistered}
    (h : makeUserDataSeis additions = .ok out) :
    out = serialize (additions.map seiNalPayload) ∧
      ∀ addition ∈ additions, (seiNalPayload addition).length ≤ isizeMax := by
  induction additions generalizing out with
  | nil =>
    obtain rfl := Except.ok.inj h
    exact ⟨rfl, by simp⟩
  | cons addition rest ih =>
    obtain ⟨sei, hsei, h⟩ := bind_eq_ok.mp h
    obtain ⟨tail, htail, h⟩ := bind_eq_ok.mp h
    obtain rfl := Except.ok.inj h
    obtain ⟨rfl, hlen⟩ := makeUserDataSei_eq_ok hsei
    obtain ⟨rfl, hrest⟩ := ih htail
    refine ⟨by simp [serialize], ?_⟩
    intro other hmem
    rcases List.mem_cons.mp hmem with rfl | hmem
    · simp only [List.length_append] at hlen
      omega
    · exact hrest other hmem

/-- Inserting SEI payloads between clean ones keeps them clean. -/
theorem clean_inserted (h : ∀ payload ∈ before ++ after, Clean payload)
    (messages : List UserDataUnregistered) :
    ∀ payload ∈ before ++ messages.map seiNalPayload ++ after, Clean payload := by
  intro payload hmem
  simp only [List.mem_append, List.mem_map] at hmem
  rcases hmem with (hmem | ⟨message, _, rfl⟩) | hmem
  · exact h payload (List.mem_append_left _ hmem)
  · exact clean_seiNalPayload message
  · exact h payload (List.mem_append_right _ hmem)

/-- Inserted messages are gathered between those of the units around them. -/
theorem parsedMessages_inserted (hparsed : parsedMessages (before ++ after) = .ok parsed)
    (hfit : ∀ message ∈ messages, (seiNalPayload message).length ≤ isizeMax) :
    ∃ left right, parsed = left ++ right ∧
      parsedMessages (before ++ messages.map seiNalPayload ++ after) =
        .ok (left ++ messages ++ right) := by
  obtain ⟨left, right, hleft, hright, rfl⟩ := parsedMessages_append.mp hparsed
  have hmessages := parsedMessages_seiNalPayloads hfit
  have hfront : parsedMessages (before ++ messages.map seiNalPayload) =
      .ok (left ++ messages) :=
    parsedMessages_append.mpr ⟨left, messages, hleft, hmessages, rfl⟩
  exact ⟨left, right, rfl,
    parsedMessages_append.mpr ⟨left ++ messages, right, hfront, hright, rfl⟩⟩

/-! ## What the injectors leave behind -/

section Injection

variable {codec : Message SyncTimestampV1} {accessUnit out : List UInt8} {secondary : Bool}
  {unit : InspectedAccessUnit} {captureTimeEdgeNs : UInt64}

/-- The inspector's verdict once the messages are known. -/
theorem inspectH264AnnexB_eq_ok {verdict : Option InspectedAccessUnit}
    (h : inspectH264AnnexB codec accessUnit secondary = .ok verdict) :
    ∃ messages, userDataMessages accessUnit = .ok messages ∧
      (verdict = none ↔ ∀ message ∈ messages, message.uuid ≠ syncTimestampUuid) ∧
      ∀ unit, verdict = some unit → unit.messages = messages := by
  obtain ⟨messages, hmessages, h⟩ := bind_eq_ok.mp h
  refine ⟨messages, hmessages, ?_⟩
  simp only at h
  split at h
  · rename_i hnone
    obtain rfl := Except.ok.inj h
    simpa [List.filter_eq_nil_iff] using hnone
  · rename_i hsome
    have hcarried : ¬ ∀ message ∈ messages, message.uuid ≠ syncTimestampUuid := by
      simpa [List.filter_eq_nil_iff] using hsome
    split at h
    · simp at h
    · split at h
      · simp at h
      · simp at h
      · obtain ⟨timestamp, _, h⟩ := bind_eq_ok.mp h
        obtain rfl := Except.ok.inj h
        refine ⟨by simpa using hcarried, ?_⟩
        rintro unit hunit
        rw [← Option.some.inj hunit]

/-- The check for secondary streams changes nothing in what is found. -/
theorem inspectH264AnnexB_anchor
    (h : inspectH264AnnexB codec accessUnit secondary = .ok (some unit)) :
    inspectH264AnnexB codec accessUnit false = .ok (some unit) := by
  obtain ⟨messages, hmessages, h⟩ := bind_eq_ok.mp h
  refine bind_eq_ok.mpr ⟨messages, hmessages, ?_⟩
  simp only [Bool.false_eq_true, if_false] at h ⊢
  split at h
  · cases h
  · rename_i hsome
    rw [if_neg hsome]
    split at h
    · simp at h
    · rename_i hone
      rw [if_neg hone]
      split at h
      · simp at h
      · simp at h
      · rename_i first _ hfirst
        simp only [hfirst]
        exact h

/-- A secondary stream's unit that passes has neither contexts nor manifest
chunks. -/
theorem inspectH264AnnexB_secondary
    (h : inspectH264AnnexB codec accessUnit true = .ok (some unit)) :
    ∀ message ∈ unit.messages,
      message.uuid ≠ anchorContextUuid ∧ message.uuid ≠ sessionManifestUuid := by
  obtain ⟨messages, _, h⟩ := bind_eq_ok.mp h
  simp only at h
  split at h
  · cases h
  · split at h
    · simp at h
    · split at h
      · simp at h
      · simp at h
      · rename_i hforbidden _
        obtain ⟨timestamp, _, h⟩ := bind_eq_ok.mp h
        cases h
        simpa [List.find?_eq_none] using hforbidden

/-- A unit with timestamp `captureTimeEdgeNs` injected: it carried none, and
its payloads now have the timestamp SEI before the first coded slice. -/
theorem injectTimestampH264AnnexB_eq_ok
    (h : injectTimestampH264AnnexB codec accessUnit captureTimeEdgeNs = .ok out) :
    ∃ nals messages,
      let stamp : UserDataUnregistered :=
        ⟨syncTimestampUuid, codec.encodeToVec ⟨captureTimeEdgeNs⟩⟩
      splitAnnexB accessUnit = .ok nals ∧ collectMessages [] nals = .ok messages ∧
      (∀ message ∈ messages, message.uuid ≠ syncTimestampUuid) ∧
      captureTimeEdgeNs ≠ 0 ∧ (seiNalPayload stamp).length ≤ isizeMax ∧
      out = serialize (nals.take (insertAt nals) ++ [seiNalPayload stamp] ++
        nals.drop (insertAt nals)) := by
  obtain ⟨inspected, hinspect, h⟩ := bind_eq_ok.mp h
  split at h
  · simp at h
  · rename_i hclear
    have hverdict : inspected = none := by simpa using hclear
    obtain ⟨messages, hmessages, hiff, _⟩ := inspectH264AnnexB_eq_ok hinspect
    obtain ⟨payload, hpayload, h⟩ := bind_eq_ok.mp h
    obtain ⟨sei, hsei, h⟩ := bind_eq_ok.mp h
    obtain ⟨nals, hnals, h⟩ := bind_eq_ok.mp h
    obtain ⟨written, hwritten, h⟩ := bind_eq_ok.mp h
    obtain ⟨_, rfl⟩ := vec_eq_ok.mp h
    obtain ⟨inserted, hinserted, rfl⟩ := (writeNals_insertAt hnals).mp hwritten
    obtain rfl := Except.ok.inj hinserted
    obtain ⟨rfl, hlen⟩ := makeUserDataSei_eq_ok hsei
    unfold encodeSyncTimestamp at hpayload
    split at hpayload
    · simp at hpayload
    · rename_i hnonzero
      obtain rfl := Except.ok.inj hpayload
      refine ⟨nals, messages, hnals, ?_, hiff.mp hverdict, hnonzero, ?_, ?_⟩
      · rw [userDataMessages, hnals, ok_bind] at hmessages
        exact hmessages
      · simp only [List.length_append] at hlen
        omega
      · simp [serialize]

/-- A unit with `additions` injected, in the same form. -/
theorem injectUserDataH264AnnexB_eq_ok {additions : List UserDataUnregistered}
    (h : injectUserDataH264AnnexB codec accessUnit additions = .ok out) :
    ∃ nals messages, splitAnnexB accessUnit = .ok nals ∧
      collectMessages [] nals = .ok messages ∧
      ((∃ message ∈ messages, message.uuid = syncTimestampUuid) →
        ∀ addition ∈ additions, ∀ message ∈ messages, message.uuid ≠ addition.uuid) ∧
      (∀ addition ∈ additions, (seiNalPayload addition).length ≤ isizeMax) ∧
      out = serialize (nals.take (insertAt nals) ++ additions.map seiNalPayload ++
        nals.drop (insertAt nals)) := by
  obtain ⟨inspected, hinspect, h⟩ := bind_eq_ok.mp h
  simp only at h
  split at h
  · simp at h
  · rename_i hfresh
    obtain ⟨messages, hmessages, hiff, hunit⟩ := inspectH264AnnexB_eq_ok hinspect
    obtain ⟨nals, hnals, h⟩ := bind_eq_ok.mp h
    obtain ⟨written, hwritten, h⟩ := bind_eq_ok.mp h
    obtain ⟨_, rfl⟩ := vec_eq_ok.mp h
    obtain ⟨inserted, hinserted, rfl⟩ := (writeNals_insertAt hnals).mp hwritten
    obtain ⟨rfl, hfit⟩ := makeUserDataSeis_eq_ok hinserted
    refine ⟨nals, messages, hnals, ?_, ?_, hfit, by simp [serialize]⟩
    · rw [userDataMessages, hnals, ok_bind] at hmessages
      exact hmessages
    · rintro ⟨stamp, hstamp, huuid⟩ addition hadd message hmem heq
      cases hcase : inspected with
      | none => exact (hiff.mp hcase) stamp hstamp huuid
      | some unit =>
        apply hfresh
        rw [hcase]
        simp only [Option.any_some, List.any_eq_true, decide_eq_true_eq, hunit unit hcase]
        exact ⟨addition, hadd, message, hmem, heq⟩

/-- Behind an injected timestamp, the next injection goes right after it
when there is a coded slice and in front of it when there is none. -/
theorem insertAt_injected (nals : List (List UInt8)) (message : UserDataUnregistered) :
    let position := insertAt nals
    let injected := nals.take position ++ [seiNalPayload message] ++ nals.drop position
    insertAt injected = position + 1 ∨ position = 0 ∧ insertAt injected = 0 := by
  have hsei : isCodedSlice (seiNalPayload message) = false := rfl
  unfold insertAt
  cases hfound : nals.findIdx? isCodedSlice with
  | none =>
    right
    have hnone : (nals.findIdx? isCodedSlice).isSome = false := by rw [hfound]; rfl
    refine ⟨rfl, ?_⟩
    simp [hsei, List.findIdx?_cons, hfound]
  | some position =>
    left
    have hspec := List.findIdx?_eq_some_iff_findIdx_eq.mp hfound
    have hbefore : (nals.take position).findIdx? isCodedSlice = none := by
      rw [List.findIdx?_eq_none_iff]
      intro nal hmem
      obtain ⟨index, hindex, rfl⟩ := List.getElem_of_mem hmem
      simp only [List.length_take] at hindex
      obtain ⟨_, _, hmin⟩ := List.findIdx?_eq_some_iff_getElem.mp hfound
      have := hmin index (by omega)
      simpa using this
    have hafter : (nals.drop position).findIdx? isCodedSlice = some 0 := by
      obtain ⟨hlt, hp, _⟩ := List.findIdx?_eq_some_iff_getElem.mp hfound
      rw [List.drop_eq_getElem_cons hlt, List.findIdx?_cons, hp]
      rfl
    simp only [Option.getD_some, List.findIdx?_append, hbefore, List.findIdx?_cons, hsei,
      List.findIdx?_nil, hafter]
    simp [hspec.1.le]

/-- A unit that carries exactly one timestamp is reported with it. -/
theorem inspectH264AnnexB_of_stamp (trips : codec.RoundTrips) (nonzero : captureTimeEdgeNs ≠ 0)
    (small : (codec.encodeToVec ⟨captureTimeEdgeNs⟩).length < 16)
    {messages : List UserDataUnregistered} (hmessages : userDataMessages accessUnit = .ok messages)
    (hstamp : messages.filter (fun message => message.uuid = syncTimestampUuid) =
      [⟨syncTimestampUuid, codec.encodeToVec ⟨captureTimeEdgeNs⟩⟩]) :
    inspectH264AnnexB codec accessUnit false =
      .ok (some ⟨⟨captureTimeEdgeNs⟩, messages⟩) := by
  have hdecode : decodeSyncTimestamp codec (codec.encodeToVec ⟨captureTimeEdgeNs⟩) =
      .ok ⟨captureTimeEdgeNs⟩ := by
    rw [decodeSyncTimestamp, if_neg (by omega), trips, okOr_some, ok_bind, if_neg nonzero]
    rfl
  unfold inspectH264AnnexB
  rw [hmessages, ok_bind]
  simp only [hstamp, List.isEmpty_cons, Bool.false_eq_true, if_false, List.length_singleton,
    ne_eq, not_true_eq_false, List.head?_cons]
  rw [hdecode]
  rfl

/-- The payloads after both injections: the timestamp and the additions
stand together, between the payloads of the original unit. -/
theorem injected_payloads (nals : List (List UInt8)) (stamp : UserDataUnregistered)
    (additions : List UserDataUnregistered) :
    let first := nals.take (insertAt nals) ++ [seiNalPayload stamp] ++ nals.drop (insertAt nals)
    ∃ before added after, nals = before ++ after ∧
      (added = stamp :: additions ∨ added = additions ++ [stamp]) ∧
      first.take (insertAt first) ++ additions.map seiNalPayload ++
        first.drop (insertAt first) = before ++ added.map seiNalPayload ++ after := by
  intro first
  have hlen : (nals.take (insertAt nals)).length ≤ insertAt nals := by simp
  rcases insertAt_injected nals stamp with hslice | ⟨hzero, hfront⟩
  · -- a coded slice follows: the additions go behind the timestamp
    refine ⟨nals.take (insertAt nals), stamp :: additions, nals.drop (insertAt nals),
      (List.take_append_drop _ _).symm, .inl rfl, ?_⟩
    change insertAt first = insertAt nals + 1 at hslice
    by_cases hshort : insertAt nals ≤ nals.length
    · have htaken : (nals.take (insertAt nals) ++ [seiNalPayload stamp]).length =
          insertAt nals + 1 := by simp [hshort]
      rw [hslice, List.take_left' htaken, List.drop_left' htaken]
      simp
    · have hnil : nals = [] := by
        by_contra hsome
        exact hshort (insertAt_lt hsome).le
      subst hnil
      exact absurd (Nat.zero_le _) hshort
  · -- no coded slice: everything goes to the front
    refine ⟨[], additions ++ [stamp], nals, rfl, .inr rfl, ?_⟩
    change insertAt first = 0 at hfront
    rw [hfront]
    simp [first, hzero]

end Injection

/-- **Round trip of the anchor path.** Injecting a timestamp and then any
additions gives a unit whose inspection reports that timestamp and the
messages of the original unit in order, with the timestamp message and the
additions in one block between them; without the inserted SEI payloads, its
payloads are those of the original unit. -/
theorem inspect_inject_round_trip (codec : Message SyncTimestampV1) (trips : codec.RoundTrips)
    (small : ∀ timestamp, (codec.encodeToVec timestamp).length < 16)
    (accessUnit : List UInt8) (captureTimeEdgeNs : UInt64)
    (additions : List UserDataUnregistered) (stamped enriched : List UInt8)
    (hstamped : injectTimestampH264AnnexB codec accessUnit captureTimeEdgeNs = .ok stamped)
    (henriched : injectUserDataH264AnnexB codec stamped additions = .ok enriched) :
    ∃ messages, userDataMessages accessUnit = .ok messages ∧
      (messages.length + 1 + additions.length ≤ maxSeiMessagesPerAu →
        ∃ inspected before added after nalsBefore nalsAfter,
          inspectH264AnnexB codec enriched false = .ok (some inspected) ∧
          inspected.timestamp.captureTimeEdgeNs = captureTimeEdgeNs ∧
          inspected.messages = before ++ added ++ after ∧
          messages = before ++ after ∧
          (added = ⟨syncTimestampUuid, codec.encodeToVec ⟨captureTimeEdgeNs⟩⟩ :: additions ∨
            added = additions ++ [⟨syncTimestampUuid, codec.encodeToVec ⟨captureTimeEdgeNs⟩⟩]) ∧
          splitAnnexB accessUnit = .ok (nalsBefore ++ nalsAfter) ∧
          splitAnnexB enriched = .ok (nalsBefore ++ added.map seiNalPayload ++ nalsAfter)) := by
  obtain ⟨nals, messages, hsplit, hcollect, hclear, hnonzero, hfitStamp, rfl⟩ :=
    injectTimestampH264AnnexB_eq_ok hstamped
  obtain ⟨_, hclean⟩ := clean_of_splitAnnexB hsplit
  obtain ⟨parsed, hparsed, hsum⟩ := collectMessages_eq_ok hcollect
  obtain rfl : messages = parsed := by simpa using hsum
  refine ⟨messages, by rw [userDataMessages, hsplit, ok_bind, hcollect], fun hlimit => ?_⟩
  set stamp : UserDataUnregistered :=
    ⟨syncTimestampUuid, codec.encodeToVec ⟨captureTimeEdgeNs⟩⟩ with hstamp
  -- the stamped unit: its payloads, and the timestamp among its messages
  set first := nals.take (insertAt nals) ++ [seiNalPayload stamp] ++
    nals.drop (insertAt nals) with hfirst
  have hsplitFirst : splitAnnexB (serialize first) = .ok first :=
    splitAnnexB_serialize (by simp [hfirst])
      (clean_inserted (by rwa [List.take_append_drop]) [stamp])
  obtain ⟨nals', existing, hsplit', hcollect', hfresh, hfit, rfl⟩ :=
    injectUserDataH264AnnexB_eq_ok henriched
  obtain rfl : nals' = first := Except.ok.inj (hsplit'.symm.trans hsplitFirst)
  have hcarried : ∃ message ∈ existing, message.uuid = syncTimestampUuid := by
    obtain ⟨found, hfound, hsum'⟩ := collectMessages_eq_ok hcollect'
    obtain rfl : existing = found := by simpa using hsum'
    rw [← List.take_append_drop (insertAt nals) nals] at hparsed
    obtain ⟨left, right, _, hinserted⟩ :=
      parsedMessages_inserted hparsed (show ∀ message ∈ [stamp], _ by simpa using hfitStamp)
    obtain rfl : left ++ [stamp] ++ right = existing :=
      Except.ok.inj (hinserted.symm.trans hfound)
    exact ⟨stamp, by simp, rfl⟩
  have hadditions : ∀ addition ∈ additions, addition.uuid ≠ syncTimestampUuid := by
    intro addition hmem heq
    have hrefused := hfresh hcarried addition hmem
    obtain ⟨message, hmessage, huuid⟩ := hcarried
    exact hrefused message hmessage (huuid.trans heq.symm)
  -- the enriched unit: the original payloads around one inserted block
  obtain ⟨nalsBefore, added, nalsAfter, rfl, hadded, hblock⟩ :=
    injected_payloads nals stamp additions
  change first.take (insertAt first) ++ additions.map seiNalPayload ++
    first.drop (insertAt first) = _ at hblock
  rw [hblock]
  have hmemAdded : ∀ message ∈ added, message = stamp ∨ message ∈ additions := by
    intro message hmem
    rcases hadded with rfl | rfl
    · simpa using hmem
    · exact (by simpa using hmem : message ∈ additions ∨ message = stamp).symm
  have hsplitAll :
      splitAnnexB (serialize (nalsBefore ++ added.map seiNalPayload ++ nalsAfter)) =
        .ok (nalsBefore ++ added.map seiNalPayload ++ nalsAfter) :=
    splitAnnexB_serialize (by rcases hadded with rfl | rfl <;> simp)
      (clean_inserted hclean added)
  have hfitAdded : ∀ message ∈ added, (seiNalPayload message).length ≤ isizeMax := by
    intro message hmem
    rcases hmemAdded message hmem with rfl | hmem
    · exact hfitStamp
    · exact hfit message hmem
  obtain ⟨before, after, rfl, hparsedAll⟩ := parsedMessages_inserted hparsed hfitAdded
  have hgather : userDataMessages
      (serialize (nalsBefore ++ added.map seiNalPayload ++ nalsAfter)) =
        .ok (before ++ added ++ after) := by
    rw [userDataMessages, hsplitAll, ok_bind]
    apply collectMessages_of_le hparsedAll
    have hlenAdded : added.length = additions.length + 1 := by
      rcases hadded with rfl | rfl <;> simp
    simp only [List.nil_append, List.length_append] at hlimit ⊢
    omega
  -- exactly one message is a timestamp: the original unit had none, and the
  -- second injection refused additions that are timestamps
  have hnone : ∀ part : List UserDataUnregistered,
      (∀ message ∈ part, message.uuid ≠ syncTimestampUuid) →
        part.filter (fun message => message.uuid = syncTimestampUuid) = [] := by
    intro part hpart
    simpa [List.filter_eq_nil_iff] using hpart
  have hfilter : (before ++ added ++ after).filter
      (fun message => message.uuid = syncTimestampUuid) = [stamp] := by
    rw [List.filter_append, List.filter_append,
      hnone before (fun message hmem => hclear message (List.mem_append_left _ hmem)),
      hnone after (fun message hmem => hclear message (List.mem_append_right _ hmem))]
    rcases hadded with rfl | rfl <;> simp [hnone additions hadditions, hstamp]
  exact ⟨⟨⟨captureTimeEdgeNs⟩, before ++ added ++ after⟩, before, added, after, nalsBefore,
    nalsAfter, inspectH264AnnexB_of_stamp trips hnonzero (small _) hgather hfilter, rfl, rfl,
    rfl, hadded, hsplit, hsplitAll⟩

/-- The bytes `prost` writes for a `SyncTimestampV1`: nothing for the default
value, else field 1 as a little-endian `fixed64`. -/
def fixed64Timestamp : Message SyncTimestampV1 where
  encodeToVec timestamp :=
    if timestamp.captureTimeEdgeNs = 0 then []
    else 0x09 :: (List.range 8).map fun index =>
      UInt8.ofNat (timestamp.captureTimeEdgeNs.toNat / 256 ^ index)
  decode
    | [] => some ⟨0⟩
    | [0x09, b0, b1, b2, b3, b4, b5, b6, b7] =>
      some ⟨UInt64.ofNat (b0.toNat + 256 * b1.toNat + 256 ^ 2 * b2.toNat +
        256 ^ 3 * b3.toNat + 256 ^ 4 * b4.toNat + 256 ^ 5 * b5.toNat +
        256 ^ 6 * b6.toNat + 256 ^ 7 * b7.toNat)⟩
    | _ => none

theorem fixed64Timestamp_roundTrips : fixed64Timestamp.RoundTrips := by
  rintro ⟨time⟩
  by_cases hzero : time = 0
  · subst hzero
    rfl
  · have hlt := time.toNat_lt
    have hencode : fixed64Timestamp.encodeToVec ⟨time⟩ =
        0x09 :: (List.range 8).map fun index => UInt8.ofNat (time.toNat / 256 ^ index) :=
      if_neg hzero
    rw [hencode]
    simp only [fixed64Timestamp, List.range, List.range.loop, List.map_cons, List.map_nil,
      UInt8.toNat_ofNat', Option.some.injEq, SyncTimestampV1.mk.injEq]
    apply UInt64.toNat_inj.mp
    simp only [UInt64.toNat_ofNat']
    omega

theorem fixed64Timestamp_short (timestamp : SyncTimestampV1) :
    (fixed64Timestamp.encodeToVec timestamp).length < 16 := by
  unfold fixed64Timestamp
  simp only
  split <;> simp

/-- A parameter set behind leading garbage and a 3-byte start code, ending in
a zero byte, and an IDR slice. -/
def idrUnit : List UInt8 :=
  [0xff, 0, 0, 1, 0x67, 0x42, 0, 0, 0, 0, 1, 0x65, 0x88, 0x84, 0x21]

def idrStamped : List UInt8 :=
  [0, 0, 0, 1, 0x67, 0x42, 0, 0, 0, 0, 1, 6, 5, 25, 74, 17, 145, 230, 149, 120, 83, 179, 146,
    167, 4, 192, 73, 254, 13, 91, 9, 42, 0, 0, 3, 0, 0, 3, 0, 0, 3, 0, 128, 0, 0, 0, 1,
    0x65, 0x88, 0x84, 0x21]

def idrEnriched : List UInt8 :=
  [0, 0, 0, 1, 0x67, 0x42, 0, 0, 0, 0, 1, 6, 5, 25, 74, 17, 145, 230, 149, 120, 83, 179, 146,
    167, 4, 192, 73, 254, 13, 91, 9, 42, 0, 0, 3, 0, 0, 3, 0, 0, 3, 0, 128, 0, 0, 0, 1,
    6, 5, 20, 98, 239, 8, 187, 46, 180, 89, 251, 184, 63, 248, 248, 116, 168, 0, 67, 0, 0, 3, 1,
    7, 128, 0, 0, 0, 1, 0x65, 0x88, 0x84, 0x21]

theorem inspect_inject_round_trip_idr :
    injectTimestampH264AnnexB fixed64Timestamp idrUnit 42 = .ok idrStamped ∧
    injectUserDataH264AnnexB fixed64Timestamp idrStamped
      [⟨anchorContextUuid, [0, 0, 1, 7]⟩] = .ok idrEnriched ∧
    ∃ inspected, inspectH264AnnexB fixed64Timestamp idrEnriched false = .ok (some inspected) ∧
      inspected.timestamp.captureTimeEdgeNs = 42 := by
  have hstamped : injectTimestampH264AnnexB fixed64Timestamp idrUnit 42 = .ok idrStamped := by
    decide +kernel
  have henriched : injectUserDataH264AnnexB fixed64Timestamp idrStamped
      [⟨anchorContextUuid, [0, 0, 1, 7]⟩] = .ok idrEnriched := by
    decide +kernel
  refine ⟨hstamped, henriched, ?_⟩
  obtain ⟨messages, hmessages, hround⟩ := inspect_inject_round_trip fixed64Timestamp
    fixed64Timestamp_roundTrips fixed64Timestamp_short idrUnit 42 _ _ _ hstamped henriched
  obtain rfl : messages = [] := by
    have hempty : userDataMessages idrUnit = .ok [] := by decide +kernel
    exact Except.ok.inj (hmessages.symm.trans hempty)
  obtain ⟨inspected, _, _, _, _, _, hinspect, htime, _⟩ := hround (by decide)
  exact ⟨inspected, hinspect, htime⟩

end RobotMulticam.Codec
