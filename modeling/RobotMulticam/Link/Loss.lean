import RobotMulticam.Receiver.Steps

/-!
# Lost access units

Queues on both ends and the network may drop access units. The Edge numbers
the units it sends; the Receiver numbers the units it ingests, and accepts a
unit's context only under its own number. A unit is therefore accepted
exactly when everything sent before it was ingested: one loss, and every
later unit of the connection is rejected.
-/

namespace RobotMulticam.Link

open RobotMulticam.Lib
open RobotMulticam.Protocol
open RobotMulticam.Codec
open RobotMulticam.Identity
open RobotMulticam.Receiver
open Std (ExtTreeMap)

/-! ## What `process` does to the registry -/

/-- Every record keeps everything but its bootstrap state. -/
def KeepsRecords (registry next : ReceiverRegistry) : Prop :=
  ∀ (key : StreamKey) (record : StreamRecord), registry.streams[key]? = some record →
    ∃ state, next.streams[key]? = some { record with state }

theorem KeepsRecords.refl (registry : ReceiverRegistry) : KeepsRecords registry registry :=
  fun _ record h => ⟨record.state, h⟩

variable {registry : ReceiverRegistry} {externals : Externals} {unit : AnchorUnit}
  {queue : IngestQueue} {done : List AnchorUnit} {runtime : ReceiverRuntime}

theorem KeepsRecords.trans {mid next : ReceiverRegistry} (hfirst : KeepsRecords registry mid)
    (hsecond : KeepsRecords mid next) : KeepsRecords registry next := by
  intro key record hrecord
  obtain ⟨_, hmid⟩ := hfirst key record hrecord
  obtain ⟨state, hnext⟩ := hsecond key _ hmid
  exact ⟨state, hnext⟩

theorem promote_keepsRecords (runtime : ReceiverRuntime)
    (promotion : StreamKey × BootstrapState) :
    KeepsRecords runtime.registry (promote runtime promotion).2.registry := by
  unfold promote
  split
  · exact .refl _
  · rename_i registry hregistry
    obtain ⟨old, hupdates⟩ := ReceiverRegistry.transition_eq_ok hregistry
    intro key record hrecord
    show ∃ state, registry.streams[key]? = _
    rw [hupdates.next_eq, ReceiverRegistry.getElem?_insert_stream]
    split
    · rename_i hsame
      rw [← hsame, hupdates.found] at hrecord
      cases hrecord
      exact ⟨_, rfl⟩
    · exact ⟨record.state, hrecord⟩

theorem promoteAll_keepsRecords (runtime : ReceiverRuntime)
    (promotions : List (StreamKey × BootstrapState)) :
    KeepsRecords runtime.registry (promoteAll runtime promotions).2.registry := by
  induction promotions generalizing runtime with
  | nil => exact .refl _
  | cons promotion promotions ih =>
    have hfirst := promote_keepsRecords runtime promotion
    unfold promoteAll
    split
    · rename_i heq
      rw [heq] at hfirst
      exact hfirst
    · rename_i heq
      rw [heq] at hfirst
      exact hfirst.trans (ih _)

theorem processManifestChunk_keepsRecords (externals : Externals) (runtime : ReceiverRuntime)
    (sessionId : Uuid) (payload : List UInt8) (now : Nat) :
    KeepsRecords runtime.registry
      (processManifestChunk externals runtime sessionId payload now).2.registry := by
  have hcollect := collectMessage_registry externals runtime sessionId payload now
  unfold processManifestChunk
  split
  · rename_i heq
    rw [heq] at hcollect
    exact hcollect ▸ .refl _
  · rename_i heq
    rw [heq] at hcollect
    exact hcollect ▸ .refl _
  · rename_i completed next heq
    rw [heq] at hcollect
    split
    · exact hcollect ▸ .refl _
    · rename_i prepared _
      have hall := promoteAll_keepsRecords (install next sessionId prepared)
        (promotions prepared.snapshots)
      rw [← hcollect]
      exact hall

theorem processManifestChunks_keepsRecords (externals : Externals) (runtime : ReceiverRuntime)
    (sessionId : Uuid) (messages : List (List UInt8 × Nat)) :
    KeepsRecords runtime.registry
      (processManifestChunks externals runtime sessionId messages).2.registry := by
  induction messages generalizing runtime with
  | nil => exact .refl _
  | cons message messages ih =>
    obtain ⟨payload, now⟩ := message
    have hfirst := processManifestChunk_keepsRecords externals runtime sessionId payload now
    unfold processManifestChunks
    split
    · rename_i heq
      rw [heq] at hfirst
      exact hfirst
    · rename_i heq
      rw [heq] at hfirst
      exact hfirst.trans (ih _)

theorem process_keepsRecords (externals : Externals) (runtime : ReceiverRuntime)
    (envelope : EncodedFrameEnvelope) (clock : Nat → Nat) :
    KeepsRecords runtime.registry (process externals runtime envelope clock).2.registry := by
  have hchunks := processManifestChunks_keepsRecords externals runtime envelope.key.sessionId
    ((manifestPayloads envelope).zipIdx.map fun message => (message.1, clock message.2))
  generalize hanswer : processManifestChunks externals runtime envelope.key.sessionId
    ((manifestPayloads envelope).zipIdx.map fun message => (message.1, clock message.2)) =
      answer at hchunks
  obtain ⟨result, next⟩ := answer
  cases result with
  | error error =>
    rw [process_of_error hanswer]
    exact hchunks
  | ok _ =>
    rw [process_of_ok hanswer, (processFrame_settings externals next envelope).1]
    exact hchunks

/-! ## Deliveries -/

/-- An access unit as the Edge sends it, with what its inspection finds. -/
structure AnchorUnit where
  ptsNs : UInt64
  accessUnit : List UInt8
  inspected : InspectedAccessUnit

/-- The `appsink` callback of the stream's listener: ingest, then `process`.
Returns the step that was broadcast. -/
def deliver (externals : Externals) (key : StreamKey) (runtime : ReceiverRuntime)
    (unit : AnchorUnit) (clock : Nat → Nat) :
    Option SynchronizedDatasetStep × ReceiverRuntime :=
  match runtime.registry.ingestH264BeforeDecode externals.timestamp key (some unit.ptsNs)
    unit.accessUnit with
  | .error _ => (none, runtime)
  | .ok (envelope, registry) =>
    let (answer, runtime) := process externals { runtime with registry } envelope clock
    (answer.toOption.join, runtime)

/-- The unit number `index` of the connection: it carries a context with that
number that fits the manifest in all other respects, and no chunk but of this
session and of a revision up to the manifest's. -/
structure SentUnit (externals : Externals) (sessionId : Uuid) (manifest : SessionManifestV1)
    (index : Nat) (unit : AnchorUnit) : Prop where
  inspection : inspectH264AnnexB externals.timestamp unit.accessUnit false =
    .ok (some unit.inspected)
  context : ∃ message packet context,
    unit.inspected.messages.find? (fun message => message.uuid = anchorContextUuid) =
      some message ∧
    decodeAnchorContextPacket externals message.payload = .ok (packet, context) ∧
    context.anchorFrameSeq.toNat = index ∧
    ∀ frame : StoredFrame, frame.accessUnitOrdinal = context.anchorFrameSeq →
      validateContext manifest frame context = true
  chunks : ∀ message ∈ unit.inspected.messages, message.uuid = sessionManifestUuid →
    ∃ chunk, externals.chunk.decode message.payload = some chunk ∧
      chunk.sessionId = sessionId.bytes ∧ chunk.manifestRevision ≤ manifest.manifestRevision

theorem SentUnit.index_lt {sessionId : Uuid} {manifest : SessionManifestV1} {index : Nat}
    (h : SentUnit externals sessionId manifest index unit) : index < 2 ^ 64 := by
  obtain ⟨_, _, context, _, _, hindex, _⟩ := h.context
  exact hindex ▸ context.anchorFrameSeq.toNat_lt

/-- PTS and capture times strictly increase. -/
def Increases (earlier later : AnchorUnit) : Prop :=
  earlier.ptsNs < later.ptsNs ∧
    earlier.inspected.timestamp.captureTimeEdgeNs < later.inspected.timestamp.captureTimeEdgeNs

instance (earlier later : AnchorUnit) : Decidable (Increases earlier later) :=
  inferInstanceAs (Decidable (_ ∧ _))

/-- The manifest is installed, and streams no camera but the stream's own. -/
def HasInstalled (key : StreamKey) (manifest : SessionManifestV1) (runtime : ReceiverRuntime) :
    Prop :=
  manifest.anchorCameraId = key.cameraId ∧ StepSynchronizer.otherCameras manifest = [] ∧
    ∃ session synchronizer, runtime.sessions[key.sessionId]? = some session ∧
      session.manifest = some manifest ∧ session.synchronizer = some synchronizer ∧
      synchronizer.manifest = manifest

instance (key : StreamKey) (manifest : SessionManifestV1) (runtime : ReceiverRuntime) :
    Decidable (HasInstalled key manifest runtime) :=
  decidable_of_iff (manifest.anchorCameraId = key.cameraId ∧
    StepSynchronizer.otherCameras manifest = [] ∧
    runtime.sessions[key.sessionId]?.any (fun session =>
      session.manifest = some manifest ∧
        session.synchronizer.any (·.manifest = manifest)) = true) (by
    simp [HasInstalled, Option.any_eq_true])

/-! ## What ingest counts -/

theorem push_of_le (item : EncodedFrameEnvelope) (h : item.encodedAu.length ≤ queue.maxBytes) :
    ∃ next, queue.push item = .ok next ∧ next.maxBytes = queue.maxBytes := by
  rw [IngestQueue.push]
  simp only [Nat.not_lt.mpr h, if_false]
  exact ⟨_, rfl, rfl⟩

theorem push_of_lt (item : EncodedFrameEnvelope) (h : queue.maxBytes < item.encodedAu.length) :
    queue.push item = .error .accessUnitTooLarge := by
  rw [IngestQueue.push]
  simp only [h, if_true]

/-- The envelope of a unit under an ordinal. -/
def envelopeOf (key : StreamKey) (unit : AnchorUnit) (ordinal : UInt64) : EncodedFrameEnvelope :=
  ⟨key, unit.ptsNs, ordinal, unit.inspected.timestamp.captureTimeEdgeNs, unit.accessUnit,
    unit.inspected.messages⟩

section Ingest

variable {externals : Externals} {key : StreamKey} {registry : ReceiverRegistry}
  {record : StreamRecord} {unit : AnchorUnit}

/-- The record takes a unit of this time. -/
structure TakesTime (record : StreamRecord) (unit : AnchorUnit) : Prop where
  pts : ∀ last, record.lastPtsNs = some last → last < unit.ptsNs
  capture : ∀ last, record.lastCaptureTimeEdgeNs = some last →
    last < unit.inspected.timestamp.captureTimeEdgeNs

theorem TakesTime.check (h : TakesTime record unit) :
    ¬ (record.lastPtsNs.any (unit.ptsNs ≤ ·) = true ∨
      record.lastCaptureTimeEdgeNs.any
        (unit.inspected.timestamp.captureTimeEdgeNs ≤ ·) = true) := by
  simp only [Option.any_eq_true, decide_eq_true_eq, not_or, not_exists, not_and]
  refine ⟨fun last hlast => ?_, fun last hlast => ?_⟩
  · exact UInt64.not_le.mpr (h.pts last hlast)
  · exact UInt64.not_le.mpr (h.capture last hlast)

/-- A unit of the anchor stream that fits the queue is ingested under the
record's number. -/
theorem ingest_unit_of_le (hrecord : registry.streams[key]? = some record)
    (hrole : record.identity.role = .anchor)
    (hinspect : inspectH264AnnexB externals.timestamp unit.accessUnit false =
      .ok (some unit.inspected))
    (htime : TakesTime record unit)
    (hfits : unit.accessUnit.length ≤ record.ingest.maxBytes) :
    ∃ ingest next, ingest.maxBytes = record.ingest.maxBytes ∧
      next.streams[key]? = some (ReceiverRegistry.ingestedRecord record
        (envelopeOf key unit record.nextOrdinal) ingest) ∧
      registry.ingestH264BeforeDecode externals.timestamp key (some unit.ptsNs) unit.accessUnit =
        .ok (envelopeOf key unit record.nextOrdinal, next) := by
  have hflag : decide (record.identity.role = .secondary) = false := by rw [hrole]; rfl
  obtain ⟨ingest, hpush, hbytes⟩ :=
    push_of_le (envelopeOf key unit record.nextOrdinal) hfits
  refine ⟨ingest, { registry with
    streams := registry.streams.insert key (ReceiverRegistry.ingestedRecord record
      (envelopeOf key unit record.nextOrdinal) ingest) }, hbytes, ?_, ?_⟩
  · rw [ReceiverRegistry.getElem?_insert_stream, if_pos rfl]
  · rw [ReceiverRegistry.ingestH264BeforeDecode]
    unfold envelopeOf at hpush ⊢
    simp only [okOr_some, ok_bind, hrecord, hflag, hinspect, mapErr, if_neg htime.check, hpush]
    rfl

theorem ingest_unit_of_lt (hrecord : registry.streams[key]? = some record)
    (hrole : record.identity.role = .anchor)
    (hinspect : inspectH264AnnexB externals.timestamp unit.accessUnit false =
      .ok (some unit.inspected))
    (htime : TakesTime record unit)
    (hlarge : record.ingest.maxBytes < unit.accessUnit.length) :
    registry.ingestH264BeforeDecode externals.timestamp key (some unit.ptsNs) unit.accessUnit =
      fail (.ingest .accessUnitTooLarge) := by
  have hflag : decide (record.identity.role = .secondary) = false := by rw [hrole]; rfl
  have hpush := push_of_lt (envelopeOf key unit record.nextOrdinal) hlarge
  rw [ReceiverRegistry.ingestH264BeforeDecode]
  unfold envelopeOf at hpush
  simp only [okOr_some, ok_bind, hrecord, hflag, hinspect, mapErr, if_neg htime.check, hpush]

end Ingest

/-! ## Along a connection -/

/-- The unit fits the ingest queue. -/
def Fits (maxBytes : Nat) (unit : AnchorUnit) : Prop := unit.accessUnit.length ≤ maxBytes

instance (maxBytes : Nat) (unit : AnchorUnit) : Decidable (Fits maxBytes unit) :=
  inferInstanceAs (Decidable (_ ≤ _))

/-- The units of `done` that fit are counted, and the record's times are
those of one of them. -/
structure Counted (limit : Nat) (done : List AnchorUnit) (record : StreamRecord) : Prop where
  role : record.identity.role = .anchor
  maxBytes : record.ingest.maxBytes = limit
  count : record.nextOrdinal = counted64 (done.filter (Fits limit ·)).length
  pts : ∀ last, record.lastPtsNs = some last → ∃ unit ∈ done, unit.ptsNs = last
  capture : ∀ last, record.lastCaptureTimeEdgeNs = some last →
    ∃ unit ∈ done, unit.inspected.timestamp.captureTimeEdgeNs = last

theorem Counted.takesTime {limit : Nat} {record : StreamRecord} (h : Counted limit done record)
    (hincreases : ∀ earlier ∈ done, Increases earlier unit) : TakesTime record unit := by
  refine ⟨fun last hlast => ?_, fun last hlast => ?_⟩
  · obtain ⟨earlier, hmem, rfl⟩ := h.pts last hlast
    exact (hincreases earlier hmem).1
  · obtain ⟨earlier, hmem, rfl⟩ := h.capture last hlast
    exact (hincreases earlier hmem).2

/-- The record of the stream after the deliveries `done`. -/
def Received (key : StreamKey) (limit : Nat) (done : List AnchorUnit)
    (runtime : ReceiverRuntime) : Prop :=
  ∃ record, runtime.registry.streams[key]? = some record ∧ Counted limit done record

section Deliveries

variable {externals : Externals} {key : StreamKey} {limit : Nat} {done : List AnchorUnit}
  {runtime : ReceiverRuntime} {unit : AnchorUnit} {manifest : SessionManifestV1}

theorem Counted.ingested {record : StreamRecord} {ingest : IngestQueue} {state : BootstrapState}
    (h : Counted limit done record) (hfits : Fits limit unit) (hbytes : ingest.maxBytes = limit) :
    Counted limit (done ++ [unit])
      { ReceiverRegistry.ingestedRecord record (envelopeOf key unit record.nextOrdinal) ingest with
        state } := by
  refine ⟨h.role, hbytes, ?_, ?_, ?_⟩
  · show saturatingAdd64 record.nextOrdinal 1 = _
    rw [h.count, counted64_succ]
    simp [hfits]
  · rintro last hlast
    exact ⟨unit, by simp, Option.some.inj hlast⟩
  · rintro last hlast
    exact ⟨unit, by simp, Option.some.inj hlast⟩

theorem Counted.refused {record : StreamRecord} (h : Counted limit done record)
    (hlarge : ¬ Fits limit unit) : Counted limit (done ++ [unit]) record := by
  refine ⟨h.role, h.maxBytes, by rw [h.count]; simp [hlarge], ?_, ?_⟩
  · intro last hlast
    obtain ⟨earlier, hmem, hsame⟩ := h.pts last hlast
    exact ⟨earlier, List.mem_append_left _ hmem, hsame⟩
  · intro last hlast
    obtain ⟨earlier, hmem, hsame⟩ := h.capture last hlast
    exact ⟨earlier, List.mem_append_left _ hmem, hsame⟩

/-- One delivery counts its unit if it fits. -/
theorem received_deliver (h : Received key limit done runtime)
    (hinspect : inspectH264AnnexB externals.timestamp unit.accessUnit false =
      .ok (some unit.inspected))
    (hincreases : ∀ earlier ∈ done, Increases earlier unit) (clock : Nat → Nat) :
    Received key limit (done ++ [unit]) (deliver externals key runtime unit clock).2 := by
  obtain ⟨record, hrecord, hcounted⟩ := h
  have htime := hcounted.takesTime hincreases
  by_cases hfits : Fits limit unit
  · obtain ⟨ingest, next, hbytes, hnext, hingest⟩ := ingest_unit_of_le hrecord hcounted.role
      hinspect htime (hcounted.maxBytes ▸ hfits)
    rw [deliver, hingest]
    obtain ⟨state, hstate⟩ := process_keepsRecords externals { runtime with registry := next }
      (envelopeOf key unit record.nextOrdinal) clock key _ hnext
    exact ⟨_, hstate, hcounted.ingested hfits (hbytes.trans hcounted.maxBytes)⟩
  · have hlarge : record.ingest.maxBytes < unit.accessUnit.length := by
      rw [hcounted.maxBytes]
      exact Nat.lt_of_not_le hfits
    rw [deliver, ingest_unit_of_lt hrecord hcounted.role hinspect htime hlarge]
    exact ⟨record, hrecord, hcounted.refused hfits⟩

/-- Chunks of the installed revision or an older one are ignored. -/
theorem installed_chunks {messages : List (List UInt8 × Nat)}
    (hchunks : ∀ message ∈ messages, ∃ chunk, externals.chunk.decode message.1 = some chunk ∧
      chunk.sessionId = key.sessionId.bytes ∧
      chunk.manifestRevision ≤ manifest.manifestRevision)
    (h : HasInstalled key manifest runtime) :
    ∃ next, processManifestChunks externals runtime key.sessionId messages = (.ok (), next) ∧
      HasInstalled key manifest next := by
  induction messages generalizing runtime with
  | nil => exact ⟨runtime, rfl, h⟩
  | cons message messages ih =>
    obtain ⟨payload, now⟩ := message
    obtain ⟨chunk, hdecode, hsession, hrevision⟩ := hchunks _ List.mem_cons_self
    obtain ⟨hanchor, hothers, session, synchronizer, hfound, hmanifest, hrest⟩ := h
    have hignored : collectMessage externals runtime key.sessionId payload now =
        (.ok none, runtime.setSession key.sessionId session) := by
      rw [collectMessage, hdecode]
      simp only [hsession, ne_eq, not_true_eq_false, if_false, ReceiverRuntime.session, hfound,
        Option.getD_some]
      rw [SessionRuntime.collectChunk, if_pos (by simp [hmanifest, hrevision])]
      rfl
    rw [processManifestChunks, processManifestChunk_of_incomplete hignored]
    refine ih (fun other hother => hchunks other (List.mem_cons_of_mem _ hother))
      ⟨hanchor, hothers, session, synchronizer, ?_, hmanifest, hrest⟩
    rw [setSession_sessions, if_pos rfl]

variable {synchronizer : StepSynchronizer} {index : Nat} {ordinal : UInt64}

/-- A frame of the anchor camera is broadcast as a step exactly when
`anchor_step` makes one of it. -/
theorem processFrame_isSome_iff {session : SessionRuntime} {envelope : EncodedFrameEnvelope}
    {packet : List UInt8} (hfound : runtime.sessions[envelope.key.sessionId]? = some session)
    (hmanifest : session.manifest = some manifest)
    (hsynchronizer : session.synchronizer = some synchronizer)
    (hanchor : manifest.anchorCameraId = envelope.key.cameraId)
    (hpacket : contextOf envelope = some packet) :
    (processFrame externals runtime envelope).1.toOption.join.isSome = true ↔
      (synchronizer.anchorStep externals (frameOf envelope) packet true).1.isOk = true := by
  have hrun : (processFrame externals runtime envelope).1 =
      (session.processFrame externals manifest synchronizer envelope).1 := by
    rw [processFrame, hfound]
    simp only [hmanifest, hsynchronizer]
  rw [hrun, SessionRuntime.processFrame, if_pos hanchor.symm, hpacket]
  dsimp only
  split
  all_goals
    rename_i hstep
    simp [hstep, Except.isOk, Except.toBool, Except.toOption]

/-- The context of a sent unit is accepted exactly under the unit's number. -/
theorem SentUnit.contextAccepted_iff (hsent : SentUnit externals key.sessionId manifest index unit)
    (hmanifest : synchronizer.manifest = manifest)
    (hanchor : manifest.anchorCameraId = key.cameraId) :
    ∃ packet, contextOf (envelopeOf key unit ordinal) = some packet ∧
      (StepSynchronizer.ContextAccepted externals synchronizer
        (frameOf (envelopeOf key unit ordinal)) packet ↔ index = ordinal.toNat) := by
  obtain ⟨message, packet, context, hmessage, hdecode, hindex, hvalid⟩ := hsent.context
  refine ⟨message.payload, ?_, ?_⟩
  · show (unit.inspected.messages.find? _).map _ = _
    rw [hmessage]
    rfl
  rw [← hindex, UInt64.toNat_inj, StepSynchronizer.ContextAccepted, hmanifest]
  constructor
  · rintro ⟨_, _, other, hother, haccepted⟩
    cases hdecode.symm.trans hother
    simp only [validateContext, Bool.and_eq_true, beq_iff_eq] at haccepted
    exact haccepted.2
  · intro hseq
    exact ⟨hanchor.symm, packet, context, hdecode, hvalid _ hseq.symm⟩

/-- The chunks a sent unit carries, as `process` handles them. -/
theorem SentUnit.chunk {clock : Nat → Nat}
    (hsent : SentUnit externals key.sessionId manifest index unit) :
    ∀ message ∈ (manifestPayloads (envelopeOf key unit ordinal)).zipIdx.map
        (fun message => (message.1, clock message.2)),
      ∃ chunk, externals.chunk.decode message.1 = some chunk ∧
        chunk.sessionId = key.sessionId.bytes ∧
        chunk.manifestRevision ≤ manifest.manifestRevision := by
  intro message hmessage
  obtain ⟨⟨payload, place⟩, hplace, rfl⟩ := List.mem_map.mp hmessage
  obtain ⟨sei, hsei, rfl⟩ := List.mem_map.mp (List.fst_mem_of_mem_zipIdx hplace)
  obtain ⟨hmem, huuid⟩ := List.mem_filter.mp hsei
  exact hsent.chunks sei hmem (of_decide_eq_true huuid)

/-- Under an installed manifest, `process` makes a step of a sent unit exactly
when the unit is numbered alike on both ends. -/
theorem process_isSome_iff (hinstalled : HasInstalled key manifest runtime)
    (hsent : SentUnit externals key.sessionId manifest index unit) (clock : Nat → Nat) :
    (process externals runtime (envelopeOf key unit ordinal) clock).1.toOption.join.isSome =
      true ↔ index = ordinal.toNat := by
  obtain ⟨next, hchunks, hanchor, hothers, session, synchronizer, hfound, hmanifest,
    hsynchronizer, hsame⟩ := installed_chunks hsent.chunk hinstalled
  obtain ⟨packet, hpacket, haccepted⟩ := hsent.contextAccepted_iff hsame hanchor
  rw [← haccepted, ← StepSynchronizer.anchorStep_isOk_iff (by rw [hsame]; exact hothers),
    ← processFrame_isSome_iff hfound hmanifest hsynchronizer hanchor hpacket,
    process_of_ok hchunks]

/-- A delivery yields a step exactly when the unit fits and its number is the
record's. -/
theorem deliver_isSome_iff (h : Received key limit done runtime)
    (hinstalled : HasInstalled key manifest runtime)
    (hsent : SentUnit externals key.sessionId manifest index unit)
    (hincreases : ∀ earlier ∈ done, Increases earlier unit) (clock : Nat → Nat) :
    (deliver externals key runtime unit clock).1.isSome = true ↔
      Fits limit unit ∧ index = (counted64 (done.filter (Fits limit ·)).length).toNat := by
  obtain ⟨record, hrecord, hcounted⟩ := h
  have htime := hcounted.takesTime hincreases
  by_cases hfits : Fits limit unit
  · obtain ⟨_, registry, _, _, hingest⟩ := ingest_unit_of_le hrecord hcounted.role
      hsent.inspection htime (hcounted.maxBytes ▸ hfits)
    have hkept : HasInstalled key manifest { runtime with registry } := hinstalled
    rw [deliver, hingest, ← hcounted.count, ← process_isSome_iff hkept hsent clock]
    simp only [hfits, true_and]
  · have hlarge : record.ingest.maxBytes < unit.accessUnit.length := by
      rw [hcounted.maxBytes]
      exact Nat.lt_of_not_le hfits
    rw [deliver, ingest_unit_of_lt hrecord hcounted.role hsent.inspection htime hlarge]
    simp only [hfits, false_and, iff_false]
    exact Bool.false_ne_true

end Deliveries

/-! ## Whole connections -/

/-- One delivery: the unit, its number at the sender, and the clock readings
of its `process`. -/
structure UnitDelivery where
  unit : AnchorUnit
  index : Nat
  clock : Nat → Nat

/-- The Receiver after a delivery. -/
def receive (externals : Externals) (key : StreamKey) (runtime : ReceiverRuntime)
    (delivery : UnitDelivery) : ReceiverRuntime :=
  (deliver externals key runtime delivery.unit delivery.clock).2

theorem received_accept {listenPort : UInt16} {rawStreamId : String} {identity : StreamIdentity}
    {key : StreamKey} (hverify : runtime.registry.verify rawStreamId = .ok identity)
    (hrole : identity.role = .anchor)
    (haccept : runtime.registry.accept listenPort rawStreamId = (.ok key, registry)) :
    Received key runtime.registry.policy.maxIngestBytes [] { runtime with registry } := by
  rcases runtime.registry.accept_cases listenPort rawStreamId with
    ⟨error, hrefused⟩ | ⟨found, hfound, _, haccepted⟩
  · cases haccept.symm.trans hrefused
  · cases haccept.symm.trans haccepted
    cases hverify.symm.trans hfound
    refine ⟨ReceiverRegistry.freshRecord runtime.registry.policy identity listenPort, ?_, hrole, rfl,
      rfl, nofun, nofun⟩
    show (runtime.registry.streams.insert _ _)[_]? = _
    rw [ReceiverRegistry.getElem?_insert_stream, if_pos rfl]

theorem received_run {key : StreamKey} {limit : Nat} {deliveries : List UnitDelivery}
    (h : Received key limit done runtime)
    (hinspect : ∀ delivery ∈ deliveries,
      inspectH264AnnexB externals.timestamp delivery.unit.accessUnit false =
        .ok (some delivery.unit.inspected))
    (hincreases : (done ++ deliveries.map UnitDelivery.unit).Pairwise Increases) :
    Received key limit (done ++ deliveries.map UnitDelivery.unit)
      (run (receive externals key) runtime deliveries) := by
  induction deliveries generalizing done runtime with
  | nil => simpa using h
  | cons delivery deliveries ih =>
    have hfirst : ∀ earlier ∈ done, Increases earlier delivery.unit := fun earlier hearlier =>
      (List.pairwise_append.mp hincreases).2.2 earlier hearlier _ List.mem_cons_self
    have hnext := received_deliver h (hinspect delivery List.mem_cons_self) hfirst delivery.clock
    rw [List.map_cons, ← List.singleton_append, ← List.append_assoc] at hincreases ⊢
    exact ih hnext (fun other hother => hinspect other (List.mem_cons_of_mem _ hother)) hincreases

/-- A delivered unit has at least as many units before it at the sender as at
the Receiver. -/
theorem length_le_of_sublist_range {before : List Nat} {index count : Nat}
    (h : (before ++ [index]).Sublist (List.range count)) : before.length ≤ index := by
  have hsorted := List.pairwise_append.mp (List.pairwise_lt_range.sublist h)
  have hnodup : before.Nodup := hsorted.1.imp Nat.ne_of_lt
  have hsubset : before ⊆ List.range index := fun earlier hearlier =>
    List.mem_range.mpr (hsorted.2.2 earlier hearlier index List.mem_cons_self)
  have hlength := (List.subperm_of_subset hnodup hsubset).length_le
  rwa [List.length_range] at hlength

/-- The deliveries are a subsequence of what was sent. -/
def SomeOf (sent : List AnchorUnit) (deliveries : List UnitDelivery) : Prop :=
  (deliveries.map fun delivery => (delivery.unit, delivery.index)).Sublist sent.zipIdx

namespace SomeOf

variable {sent : List AnchorUnit} {deliveries : List UnitDelivery}

theorem getElem?_index (h : SomeOf sent deliveries) {delivery : UnitDelivery}
    (hmem : delivery ∈ deliveries) : sent[delivery.index]? = some delivery.unit :=
  List.mem_zipIdx_iff_getElem?.mp (h.subset (List.mem_map.mpr ⟨delivery, hmem, rfl⟩))

theorem indices (h : SomeOf sent deliveries) :
    (deliveries.map UnitDelivery.index).Sublist (List.range sent.length) := by
  have hindices := List.Sublist.map Prod.snd h
  rw [List.map_map, List.zipIdx_map_snd, ← List.range_eq_range'] at hindices
  exact hindices

end SomeOf

/-- An anchor connects and sends units with context numbers 0, 1, 2, …; some
of them are delivered, with increasing times. A unit delivered when the manifest is installed yields
a step if and only if it fits the ingest limit and exactly as many units as
were sent before it were delivered before it and fitted. -/
theorem delivered_unit_accepted_iff (externals : Externals) (runtime : ReceiverRuntime)
    (listenPort : UInt16) (rawStreamId : String) (identity : StreamIdentity) (key : StreamKey)
    (registry : ReceiverRegistry) (manifest : SessionManifestV1)
    (hverify : runtime.registry.verify rawStreamId = .ok identity)
    (hrole : identity.role = .anchor)
    (haccept : runtime.registry.accept listenPort rawStreamId = (.ok key, registry))
    (sent : List AnchorUnit)
    (hsent : ∀ index unit, sent[index]? = some unit →
      SentUnit externals key.sessionId manifest index unit)
    (before : List UnitDelivery) (delivery : UnitDelivery)
    (hsome : SomeOf sent (before ++ [delivery]))
    (hincreases : ((before ++ [delivery]).map UnitDelivery.unit).Pairwise Increases)
    (hinstalled : HasInstalled key manifest
      (run (receive externals key) { runtime with registry } before)) :
    (deliver externals key (run (receive externals key) { runtime with registry } before)
        delivery.unit delivery.clock).1.isSome = true ↔
      Fits runtime.registry.policy.maxIngestBytes delivery.unit ∧
        delivery.index =
          (before.filter (Fits runtime.registry.policy.maxIngestBytes ·.unit)).length := by
  have hlast : delivery ∈ before ++ [delivery] := by simp
  have hunit := hsent _ _ (hsome.getElem?_index hlast)
  rw [List.map_append, List.map_singleton] at hincreases
  have hbefore : ∀ earlier ∈ before.map UnitDelivery.unit, Increases earlier delivery.unit :=
    fun earlier hearlier =>
      (List.pairwise_append.mp hincreases).2.2 earlier hearlier _ List.mem_cons_self
  have hstart : Received key runtime.registry.policy.maxIngestBytes []
      { runtime with registry } := received_accept hverify hrole haccept
  have hinspect : ∀ earlier ∈ before,
      inspectH264AnnexB externals.timestamp earlier.unit.accessUnit false =
        .ok (some earlier.unit.inspected) := fun earlier hearlier =>
    (hsent _ _ (hsome.getElem?_index (List.mem_append_left _ hearlier))).inspection
  have hreceived := received_run hstart hinspect (List.pairwise_append.mp hincreases).1
  rw [deliver_isSome_iff hreceived hinstalled hunit hbefore, List.nil_append, List.filter_map,
    List.length_map, toNat_counted64]
  -- the count does not saturate: it is at most the unit's own number
  have hindices := hsome.indices
  rw [List.map_append, List.map_singleton] at hindices
  have hle := length_le_of_sublist_range hindices
  rw [List.length_map] at hle
  have hcount := List.length_filter_le (Fits runtime.registry.policy.maxIngestBytes ·.unit) before
  have hsmall := hunit.index_lt
  refine and_congr_right fun _ => ?_
  show _ = min (before.filter (Fits runtime.registry.policy.maxIngestBytes ·.unit)).length _ ↔ _
  omega

/-- The manifest of a cell with only an anchor. -/
def lonelyManifest : SessionManifestV1 := cellManifest [anchorCamera]

def lonelyExternals : Externals :=
  cellExternals ([0, 1, 2].map (contextFor lonelyManifest)) [lonelyManifest]

def lonelyUnit (time : UInt64) (messages : List UserDataUnregistered) : AnchorUnit where
  ptsNs := time
  accessUnit := cellUnit time messages
  inspected := (inspectH264AnnexB lonelyExternals.timestamp (cellUnit time messages)
    false).toOption.join.getD ⟨⟨0⟩, []⟩

/-- The first unit carries the manifest. -/
def firstUnit : AnchorUnit :=
  lonelyUnit 100
    (manifestMessages lonelyManifest ++ [contextMessage (contextFor lonelyManifest 0)])

def secondUnit : AnchorUnit := lonelyUnit 200 [contextMessage (contextFor lonelyManifest 1)]

def thirdUnit : AnchorUnit := lonelyUnit 205 [contextMessage (contextFor lonelyManifest 2)]

def lonelyUnits : List AnchorUnit := [firstUnit, secondUnit, thirdUnit]

def anchorKey : StreamKey := ⟨cellSession, "anchor", 1⟩

/-- The registry after the anchor connected. -/
def lonelyRegistry : ReceiverRegistry := (cellRuntime.registry.accept 10000 anchorStream).2

instance (externals : Externals) (sessionId : Uuid) (manifest : SessionManifestV1)
    (message : UserDataUnregistered) :
    Decidable (∃ chunk, externals.chunk.decode message.payload = some chunk ∧
      chunk.sessionId = sessionId.bytes ∧ chunk.manifestRevision ≤ manifest.manifestRevision) :=
  decidable_of_iff ((externals.chunk.decode message.payload).any fun chunk =>
    decide (chunk.sessionId = sessionId.bytes ∧
      chunk.manifestRevision ≤ manifest.manifestRevision)) (by
    simp [Option.any_eq_true])

theorem lonelyUnits_sent : ∀ index unit, lonelyUnits[index]? = some unit →
    SentUnit lonelyExternals cellSession lonelyManifest index unit := by
  have hchecked : ∀ sent ∈ lonelyUnits.zipIdx,
      inspectH264AnnexB lonelyExternals.timestamp sent.1.accessUnit false =
        .ok (some sent.1.inspected) ∧
      sent.1.inspected.messages.find? (fun message => message.uuid = anchorContextUuid) =
        some (contextMessage (contextFor lonelyManifest (.ofNat sent.2))) ∧
      decodeAnchorContextPacket lonelyExternals
          (contextMessage (contextFor lonelyManifest (.ofNat sent.2))).payload =
        .ok (packetOf (contextFor lonelyManifest (.ofNat sent.2)),
          contextFor lonelyManifest (.ofNat sent.2)) ∧
      (UInt64.ofNat sent.2).toNat = sent.2 ∧
      ∀ message ∈ sent.1.inspected.messages, message.uuid = sessionManifestUuid →
        ∃ chunk, lonelyExternals.chunk.decode message.payload = some chunk ∧
          chunk.sessionId = cellSession.bytes ∧
          chunk.manifestRevision ≤ lonelyManifest.manifestRevision := by
    decide +kernel
  intro index unit hunit
  obtain ⟨hinspect, hmessage, hdecode, hindex, hchunks⟩ :=
    hchecked (unit, index) (List.mem_zipIdx_iff_getElem?.mpr hunit)
  refine ⟨hinspect, ⟨_, _, _, hmessage, hdecode, hindex, ?_⟩, hchunks⟩
  intro frame hframe
  simp [validateContext, hframe, contextFor, lonelyManifest, cellManifest]

theorem lonelyUnits_increase : lonelyUnits.Pairwise Increases := by decide +kernel

theorem lonely_accept :
    cellRuntime.registry.accept 10000 anchorStream = (.ok anchorKey, lonelyRegistry) := by
  have hkey : (cellRuntime.registry.accept 10000 anchorStream).1 = .ok anchorKey := by
    decide +kernel
  rw [lonelyRegistry, ← hkey]

theorem lonely_verify :
    cellRuntime.registry.verify anchorStream = .ok (cellIdentity "anchor" 0 1 .anchor) := by
  decide +kernel

/-- The first unit, delivered at time 1. -/
def firstDelivery : UnitDelivery := ⟨firstUnit, 0, fun _ => 1⟩

/-- The Receiver after the first delivery. -/
def installedRuntime : ReceiverRuntime :=
  run (receive lonelyExternals anchorKey) { cellRuntime with registry := lonelyRegistry }
    [firstDelivery]

/-- The first delivery installs the manifest. No step comes of the third unit
right behind it. -/
theorem lonely_deliveries :
    HasInstalled anchorKey lonelyManifest installedRuntime ∧
      Fits cellRuntime.registry.policy.maxIngestBytes thirdUnit ∧
      (deliver lonelyExternals anchorKey installedRuntime thirdUnit fun _ => 1).1 = none := by
  decide +kernel

theorem delivered_unit_accepted_second :
    Fits cellRuntime.registry.policy.maxIngestBytes secondUnit ∧
      (deliver lonelyExternals anchorKey installedRuntime secondUnit fun _ => 1).1.isSome = true :=
  ⟨by decide +kernel,
    (delivered_unit_accepted_iff lonelyExternals cellRuntime 10000 anchorStream
      (cellIdentity "anchor" 0 1 .anchor) anchorKey lonelyRegistry lonelyManifest
      lonely_verify rfl lonely_accept lonelyUnits lonelyUnits_sent [firstDelivery]
      ⟨secondUnit, 1, fun _ => 1⟩ (.cons_cons _ (.cons_cons _ (.cons _ .slnil)))
      (lonelyUnits_increase.sublist (.cons_cons _ (.cons_cons _ (.cons _ .slnil))))
      lonely_deliveries.1).mpr (by decide +kernel)⟩

/-- The second unit is lost. The third one is then ingested under number 1,
its context says 2, and no step comes of it. -/
theorem lost_unit_ends_steps :
    cellRuntime.registry.verify anchorStream = .ok (cellIdentity "anchor" 0 1 .anchor) ∧
      cellRuntime.registry.accept 10000 anchorStream = (.ok anchorKey, lonelyRegistry) ∧
      (∀ index unit, lonelyUnits[index]? = some unit →
        SentUnit lonelyExternals anchorKey.sessionId lonelyManifest index unit) ∧
      lonelyUnits.Pairwise Increases ∧
      SomeOf lonelyUnits [firstDelivery, ⟨thirdUnit, 2, fun _ => 1⟩] ∧
      HasInstalled anchorKey lonelyManifest installedRuntime ∧
      Fits cellRuntime.registry.policy.maxIngestBytes thirdUnit ∧
      (deliver lonelyExternals anchorKey installedRuntime thirdUnit fun _ => 1).1 = none :=
  ⟨lonely_verify, lonely_accept, lonelyUnits_sent, lonelyUnits_increase,
    .cons_cons _ (.cons _ (.cons_cons _ .slnil)), lonely_deliveries⟩

end RobotMulticam.Link
