import RobotMulticam.Codec.Manifest
import RobotMulticam.Receiver.Registry
import RobotMulticam.Receiver.Synchronize

/-!
# The receiver runtime

`process` handles one envelope: it feeds the manifest chunks it carries to
the session's reassembler, installs a manifest that completes, and hands the
frame to the session's synchronizer. It takes the session lock up to three
times and the registry's lock in between, so it is cut here into the
sections that run under one lock each:

* `collectMessage`: one chunk into the reassembler;
* `prepare`: read the connected transports and validate the completed bytes;
* `install`: replace the session's manifest and synchronizer;
* `promote`: one bootstrap transition in the registry;
* `processFrame`: the frame into the synchronizer.

`process` runs them in order. Clock readings are nanoseconds since the
runtime started.
-/

namespace RobotMulticam.Receiver

open RobotMulticam.Lib
open RobotMulticam.Protocol
open RobotMulticam.Codec
open Std (ExtTreeMap)

inductive RuntimeError where
  | registry (error : ReceiverError)
  | manifestChunk
  | reassembly (message : String)
  | synchronize (error : SynchronizeError)
  | bind
  deriving DecidableEq

structure SessionRuntime where
  reassemblyRevision : UInt64 := 0
  reassembler : Option ManifestReassembler := none
  manifestBytes : Option (List UInt8) := none
  manifest : Option SessionManifestV1 := none
  synchronizer : Option StepSynchronizer := none
  acceptedSteps : UInt64 := 0
  droppedSteps : UInt64 := 0
  lastCaptureTimeEdgeNs : UInt64 := 0

structure ReceiverRuntime where
  registry : ReceiverRegistry
  basePort : UInt16
  manifestTimeout : Nat
  maxFramesPerCamera : Nat
  maxSkewNs : UInt64
  sessions : ExtTreeMap Uuid SessionRuntime
  framesPositive : maxFramesPerCamera ≠ 0
  skewPositive : maxSkewNs ≠ 0

namespace ReceiverRuntime

def new (registry : ReceiverRegistry) (basePort : UInt16) (manifestTimeout : Nat)
    (maxFramesPerCamera : Nat) (maxSkewNs : UInt64) (stepCapacity : Nat) :
    Except RuntimeError ReceiverRuntime :=
  if h : manifestTimeout = 0 ∨ maxFramesPerCamera = 0 ∨ maxSkewNs = 0 ∨ stepCapacity = 0 then
    .error .bind
  else .ok {
    registry
    basePort
    manifestTimeout
    maxFramesPerCamera
    maxSkewNs
    sessions := ∅
    framesPositive := fun hzero => h (Or.inr (Or.inl hzero))
    skewPositive := fun hzero => h (Or.inr (Or.inr (Or.inl hzero))) }

/-- `sessions.entry(session_id).or_default()`. -/
def session (runtime : ReceiverRuntime) (sessionId : Uuid) : SessionRuntime :=
  runtime.sessions[sessionId]?.getD {}

def setSession (runtime : ReceiverRuntime) (sessionId : Uuid) (session : SessionRuntime) :
    ReceiverRuntime :=
  { runtime with sessions := runtime.sessions.insert sessionId session }

end ReceiverRuntime

/-! ## Chunks -/

/-- The section of `process_manifest_chunk` that collects a chunk. A new
revision starts a new reassembler; its number is kept even when the chunk is
refused. -/
def SessionRuntime.collectChunk (externals : Externals) (session : SessionRuntime)
    (chunk : SessionManifestChunkV1) (now timeout : Nat) :
    Except ManifestError (Option (List UInt8)) × SessionRuntime :=
  if session.manifest.any (chunk.manifestRevision ≤ ·.manifestRevision) then (.ok none, session)
  else match if session.reassemblyRevision = chunk.manifestRevision then session.reassembler
      else none with
  | none =>
    let session := { session with reassemblyRevision := chunk.manifestRevision }
    match ManifestReassembler.new externals chunk now timeout with
    | .error error => (.error error, session)
    | .ok reassembler =>
      match reassembler.insert externals chunk now with
      | (.error error, _) => (.error error, session)
      | (.ok completed, reassembler) =>
        (.ok completed, { session with reassembler := some reassembler })
  | some reassembler =>
    let (completed, reassembler) := reassembler.insert externals chunk now
    (completed, { session with reassembler := some reassembler })

/-- The bytes of a completed manifest, and the revision its chunks had. -/
structure Completed where
  revision : UInt64
  bytes : List UInt8

/-- Decodes the payload of a manifest message and collects the chunk. -/
def collectMessage (externals : Externals) (runtime : ReceiverRuntime) (sessionId : Uuid)
    (payload : List UInt8) (now : Nat) :
    Except RuntimeError (Option Completed) × ReceiverRuntime :=
  match externals.chunk.decode payload with
  | none => (.error .manifestChunk, runtime)
  | some chunk =>
    if chunk.sessionId ≠ sessionId.bytes then (.error .manifestChunk, runtime)
    else
      let (answer, session) := (runtime.session sessionId).collectChunk externals chunk now
        runtime.manifestTimeout
      ((answer.mapError fun error => .reassembly error.text).map fun bytes =>
          bytes.map (⟨chunk.manifestRevision, ·⟩),
        runtime.setSession sessionId session)

/-! ## Installing -/

/-- A validated manifest that is about to be installed. -/
structure Prepared where
  revision : UInt64
  bytes : List UInt8
  manifest : SessionManifestV1
  synchronizer : StepSynchronizer
  snapshots : List StreamSnapshot

/-- The connected transports among the snapshots. -/
def transportsOf (snapshots : List StreamSnapshot) : List ConnectedCamera :=
  (snapshots.filter (·.connected)).map fun snapshot =>
    ⟨snapshot.key.cameraId, snapshot.slot.toUInt32, snapshot.key.epoch, snapshot.listenPort⟩

def prepare (externals : Externals) (runtime : ReceiverRuntime) (sessionId : Uuid)
    (completed : Completed) : Except RuntimeError Prepared := do
  let snapshots := runtime.registry.snapshots sessionId
  let manifest ← (validateManifest externals completed.bytes (transportsOf snapshots)
    runtime.basePort).mapError .synchronize
  let synchronizer ← (StepSynchronizer.new manifest runtime.maxFramesPerCamera
    runtime.maxSkewNs).mapError .synchronize
  pure ⟨completed.revision, completed.bytes, manifest, synchronizer, snapshots⟩

def install (runtime : ReceiverRuntime) (sessionId : Uuid) (prepared : Prepared) :
    ReceiverRuntime :=
  runtime.setSession sessionId {
    runtime.session sessionId with
    manifestBytes := some prepared.bytes
    manifest := some prepared.manifest
    synchronizer := some prepared.synchronizer
    reassembler := none }

/-- The transitions that follow an installation, in order. -/
def promotions (snapshots : List StreamSnapshot) : List (StreamKey × BootstrapState) :=
  (snapshots.filter fun snapshot =>
    snapshot.connected && snapshot.state == .provisionalStream).flatMap fun snapshot =>
      [(snapshot.key, .manifestValidated), (snapshot.key, .datasetReady)]

def promote (runtime : ReceiverRuntime) (promotion : StreamKey × BootstrapState) :
    Except RuntimeError Unit × ReceiverRuntime :=
  match runtime.registry.transition promotion.1 promotion.2 with
  | .error error => (.error (.registry error), runtime)
  | .ok registry => (.ok (), { runtime with registry })

/-! ## Frames -/

/-- The frame `process` builds from an envelope. -/
def frameOf (envelope : EncodedFrameEnvelope) : StoredFrame where
  cameraId := envelope.key.cameraId
  captureTimeEdgeNs := envelope.captureTimeEdgeNs
  streamEpoch := envelope.key.epoch
  normalizedPtsNs := envelope.ptsNs
  accessUnitOrdinal := envelope.accessUnitOrdinal
  storageUri := ""
  encodedImage := envelope.encodedAu

/-- The payload of the first context message of an envelope. -/
def contextOf (envelope : EncodedFrameEnvelope) : Option (List UInt8) :=
  (envelope.metadataMessages.find? fun message => message.uuid = anchorContextUuid).map
    (·.payload)

/-- The last section of `process`: what happens to a session whose manifest
and synchronizer are in place. The step, if there is one, is broadcast. -/
def SessionRuntime.processFrame (externals : Externals) (session : SessionRuntime)
    (manifest : SessionManifestV1) (synchronizer : StepSynchronizer)
    (envelope : EncodedFrameEnvelope) :
    Except RuntimeError (Option SynchronizedDatasetStep) × SessionRuntime :=
  if envelope.key.cameraId = manifest.anchorCameraId then
    let dropped := saturatingAdd64 session.droppedSteps 1
    match contextOf envelope with
    | none => (.ok none, { session with droppedSteps := dropped })
    | some packet =>
      match synchronizer.anchorStep externals (frameOf envelope) packet true with
      | (.ok step, synchronizer) =>
        (.ok (some step), {
          session with
          synchronizer := some synchronizer
          acceptedSteps := saturatingAdd64 session.acceptedSteps 1
          lastCaptureTimeEdgeNs := step.captureTimeEdgeNs })
      | (.error .missingCamera, synchronizer) | (.error .context, synchronizer) =>
        (.ok none, {
          session with
          synchronizer := some synchronizer
          droppedSteps := dropped })
      | (.error error, synchronizer) =>
        (.error (.synchronize error), { session with synchronizer := some synchronizer })
  else
    match synchronizer.pushSecondary (frameOf envelope) with
    | .error error => (.error (.synchronize error), session)
    | .ok synchronizer => (.ok none, { session with synchronizer := some synchronizer })

def processFrame (externals : Externals) (runtime : ReceiverRuntime)
    (envelope : EncodedFrameEnvelope) :
    Except RuntimeError (Option SynchronizedDatasetStep) × ReceiverRuntime :=
  match runtime.sessions[envelope.key.sessionId]? with
  | none => (.ok none, runtime)
  | some session =>
    match session.manifest, session.synchronizer with
    | some manifest, some synchronizer =>
      let (answer, session) := session.processFrame externals manifest synchronizer envelope
      (answer, runtime.setSession envelope.key.sessionId session)
    | _, _ => (.ok none, runtime)

/-! ## One envelope -/

/-- The payloads of the manifest messages of an envelope. -/
def manifestPayloads (envelope : EncodedFrameEnvelope) : List (List UInt8) :=
  (envelope.metadataMessages.filter fun message => message.uuid = sessionManifestUuid).map
    (·.payload)

/-- Runs the transitions until one fails. -/
def promoteAll (runtime : ReceiverRuntime) :
    List (StreamKey × BootstrapState) → Except RuntimeError Unit × ReceiverRuntime
  | [] => (.ok (), runtime)
  | promotion :: promotions =>
    match promote runtime promotion with
    | (.error error, runtime) => (.error error, runtime)
    | (.ok (), runtime) => promoteAll runtime promotions

/-- `process_manifest_chunk`, with the decoding in front of it. -/
def processManifestChunk (externals : Externals) (runtime : ReceiverRuntime)
    (sessionId : Uuid) (payload : List UInt8) (now : Nat) :
    Except RuntimeError Unit × ReceiverRuntime :=
  match collectMessage externals runtime sessionId payload now with
  | (.error error, runtime) => (.error error, runtime)
  | (.ok none, runtime) => (.ok (), runtime)
  | (.ok (some completed), runtime) =>
    match prepare externals runtime sessionId completed with
    | .error error => (.error error, runtime)
    | .ok prepared =>
      promoteAll (install runtime sessionId prepared) (promotions prepared.snapshots)

/-- The loop of `process` over the manifest messages, each with the clock
reading it is handled at. -/
def processManifestChunks (externals : Externals) (runtime : ReceiverRuntime)
    (sessionId : Uuid) : List (List UInt8 × Nat) → Except RuntimeError Unit × ReceiverRuntime
  | [] => (.ok (), runtime)
  | (payload, now) :: rest =>
    match processManifestChunk externals runtime sessionId payload now with
    | (.error error, runtime) => (.error error, runtime)
    | (.ok (), runtime) => processManifestChunks externals runtime sessionId rest

/-- `clock index` is the reading for the manifest message number `index`. -/
def process (externals : Externals) (runtime : ReceiverRuntime)
    (envelope : EncodedFrameEnvelope) (clock : Nat → Nat) :
    Except RuntimeError (Option SynchronizedDatasetStep) × ReceiverRuntime :=
  match processManifestChunks externals runtime envelope.key.sessionId
      ((manifestPayloads envelope).zipIdx.map fun (payload, index) => (payload, clock index)) with
  | (.error error, runtime) => (.error error, runtime)
  | (.ok (), runtime) => processFrame externals runtime envelope

/-! ## What each section does -/

@[simp] theorem setSession_registry (runtime : ReceiverRuntime) (id : Uuid)
    (session : SessionRuntime) :
    (runtime.setSession id session).registry = runtime.registry := rfl

theorem setSession_sessions (runtime : ReceiverRuntime) (id other : Uuid)
    (session : SessionRuntime) :
    (runtime.setSession id session).sessions[other]? =
      if id = other then some session else runtime.sessions[other]? := by
  show (runtime.sessions.insert id session)[other]? = _
  rw [ExtTreeMap.getElem?_insert]
  simp

@[simp] theorem setSession_session_self (runtime : ReceiverRuntime) (id : Uuid)
    (session : SessionRuntime) : (runtime.setSession id session).session id = session := by
  simp [ReceiverRuntime.session, setSession_sessions]

variable {runtime next : ReceiverRuntime} {externals : Externals} {sessionId : Uuid}
  {payload : List UInt8} {now : Nat} {envelope : EncodedFrameEnvelope}

theorem setSession_session_of_ne {id other : Uuid} {session : SessionRuntime} (hne : id ≠ other) :
    (runtime.setSession id session).session other = runtime.session other := by
  simp [ReceiverRuntime.session, setSession_sessions, hne]

/-- What collecting a chunk can do: skip it, because the manifest in force is
not older; start a reassembler, which may fail; or insert it into the one of
its revision. -/
theorem collectChunk_cases (externals : Externals) (session : SessionRuntime)
    (chunk : SessionManifestChunkV1) (now timeout : Nat) :
    (session.manifest.any (fun current => chunk.manifestRevision ≤ current.manifestRevision) ∧
      session.collectChunk externals chunk now timeout = (.ok none, session)) ∨
    (¬ session.manifest.any (fun current => chunk.manifestRevision ≤ current.manifestRevision) ∧
      (session.reassembler = none ∨ session.reassemblyRevision ≠ chunk.manifestRevision) ∧
      ((∃ error, ManifestReassembler.new externals chunk now timeout = .error error ∧
          session.collectChunk externals chunk now timeout =
            (.error error, { session with reassemblyRevision := chunk.manifestRevision })) ∨
        ∃ started answer, ManifestReassembler.new externals chunk now timeout = .ok started ∧
          started.insert externals chunk now = (.ok answer, started) ∧
          session.collectChunk externals chunk now timeout = (.ok answer, {
            session with
            reassemblyRevision := chunk.manifestRevision
            reassembler := some started }))) ∨
    (¬ session.manifest.any (fun current => chunk.manifestRevision ≤ current.manifestRevision) ∧
      session.reassemblyRevision = chunk.manifestRevision ∧
      ∃ reassembler, session.reassembler = some reassembler ∧
        session.collectChunk externals chunk now timeout =
          ((reassembler.insert externals chunk now).1, {
            session with
            reassembler := some (reassembler.insert externals chunk now).2 })) := by
  unfold SessionRuntime.collectChunk
  split
  · rename_i hheld
    exact Or.inl ⟨hheld, rfl⟩
  · rename_i hfresh
    refine Or.inr ?_
    split
    · rename_i hnone
      refine Or.inl ⟨hfresh, ?_, ?_⟩
      · by_cases hrevision : session.reassemblyRevision = chunk.manifestRevision
        · rw [if_pos hrevision] at hnone
          exact Or.inl hnone
        · exact Or.inr hrevision
      · cases hnew : ManifestReassembler.new externals chunk now timeout with
        | error error => exact Or.inl ⟨error, rfl, rfl⟩
        | ok started =>
          -- the second insertion of the first chunk does not fail
          obtain ⟨answer, _, hinsert⟩ := ManifestReassembler.insert_of_new hnew
          refine Or.inr ⟨started, answer, rfl, hinsert, ?_⟩
          simp only [hinsert]
    · rename_i reassembler hsome
      refine Or.inr ⟨hfresh, ?_⟩
      split at hsome
      · rename_i hrevision
        exact ⟨hrevision, reassembler, hsome, rfl⟩
      · cases hsome

/-- Collecting a chunk touches the reassembly only. -/
theorem collectChunk_keeps (externals : Externals) (session : SessionRuntime)
    (chunk : SessionManifestChunkV1) (now timeout : Nat) :
    (session.collectChunk externals chunk now timeout).2.manifest = session.manifest ∧
    (session.collectChunk externals chunk now timeout).2.manifestBytes =
      session.manifestBytes ∧
    (session.collectChunk externals chunk now timeout).2.synchronizer =
      session.synchronizer := by
  rcases collectChunk_cases externals session chunk now timeout with
    ⟨_, hskip⟩ | ⟨_, _, ⟨error, _, hrefused⟩ | ⟨started, answer, _, _, hstarted⟩⟩ |
    ⟨_, _, reassembler, _, hinserted⟩
  · rw [hskip]
    exact ⟨rfl, rfl, rfl⟩
  · rw [hrefused]
    exact ⟨rfl, rfl, rfl⟩
  · rw [hstarted]
    exact ⟨rfl, rfl, rfl⟩
  · rw [hinserted]
    exact ⟨rfl, rfl, rfl⟩

/-- A manifest message is refused before the session is touched, or its chunk
is collected. -/
theorem collectMessage_cases (externals : Externals) (runtime : ReceiverRuntime)
    (sessionId : Uuid) (payload : List UInt8) (now : Nat) :
    (collectMessage externals runtime sessionId payload now =
      (.error .manifestChunk, runtime)) ∨
    (∃ chunk, externals.chunk.decode payload = some chunk ∧
      chunk.sessionId = sessionId.bytes ∧
      collectMessage externals runtime sessionId payload now =
        (((((runtime.session sessionId).collectChunk externals chunk now
            runtime.manifestTimeout).1.mapError fun error => .reassembly error.text).map
              fun bytes => bytes.map (⟨chunk.manifestRevision, ·⟩)),
          runtime.setSession sessionId ((runtime.session sessionId).collectChunk externals chunk
            now runtime.manifestTimeout).2)) := by
  unfold collectMessage
  cases hdecode : externals.chunk.decode payload with
  | none => exact Or.inl rfl
  | some chunk =>
    by_cases hsession : chunk.sessionId = sessionId.bytes
    · exact Or.inr ⟨chunk, rfl, hsession, if_neg (not_not.mpr hsession)⟩
    · exact Or.inl (if_pos hsession)

/-- Chunks complete only if they are newer than the manifest in force. -/
theorem collectMessage_newer {found : Completed}
    (h : collectMessage externals runtime sessionId payload now = (.ok (some found), next)) :
    ∀ current ∈ (next.session sessionId).manifest,
      current.manifestRevision < found.revision := by
  rcases collectMessage_cases externals runtime sessionId payload now with
    hrefused | ⟨chunk, _, _, hcollected⟩
  · rw [hrefused] at h
    cases h
  · rw [hcollected] at h
    obtain ⟨hanswer, rfl⟩ := Prod.mk.inj h
    rw [setSession_session_self, (collectChunk_keeps externals _ chunk now _).1]
    have hfresh : ¬ (runtime.session sessionId).manifest.any
        (fun current => chunk.manifestRevision ≤ current.manifestRevision) := by
      intro hheld
      rw [SessionRuntime.collectChunk, if_pos hheld] at hanswer
      cases hanswer
    have hrevision : chunk.manifestRevision = found.revision := by
      rcases hchunk : ((runtime.session sessionId).collectChunk externals chunk now
          runtime.manifestTimeout).1 with error | _ | bytes
      all_goals
        rw [hchunk] at hanswer
        cases hanswer
      rfl
    intro current hcurrent
    rw [← hrevision, ← UInt64.not_le]
    intro hle
    refine hfresh ?_
    rw [hcurrent]
    exact decide_eq_true hle

/-- A prepared manifest is what its bytes decode to, validated, and comes
with a fresh synchronizer. -/
theorem prepare_eq_ok {completed : Completed} {prepared : Prepared} :
    prepare externals runtime sessionId completed = .ok prepared ↔
      validateManifest externals completed.bytes
          (transportsOf (runtime.registry.snapshots sessionId)) runtime.basePort =
        .ok prepared.manifest ∧
      StepSynchronizer.new prepared.manifest runtime.maxFramesPerCamera runtime.maxSkewNs =
        .ok prepared.synchronizer ∧
      prepared.revision = completed.revision ∧ prepared.bytes = completed.bytes ∧
      prepared.snapshots = runtime.registry.snapshots sessionId := by
  unfold prepare
  simp only [bind_eq_ok, mapError_eq_ok]
  constructor
  · rintro ⟨manifest, hmanifest, synchronizer, hsynchronizer, hprepared⟩
    cases hprepared
    exact ⟨hmanifest, hsynchronizer, rfl, rfl, rfl⟩
  · rintro ⟨hmanifest, hsynchronizer, hrevision, hbytes, hsnapshots⟩
    refine ⟨prepared.manifest, hmanifest, prepared.synchronizer, hsynchronizer, ?_⟩
    rw [← hrevision, ← hbytes, ← hsnapshots]
    rfl

theorem promote_sessions (runtime : ReceiverRuntime) (promotion : StreamKey × BootstrapState) :
    (promote runtime promotion).2.sessions = runtime.sessions := by
  unfold promote
  split
  · rfl
  · rfl

/-- A step is made of the first context message of the anchor's envelope. -/
theorem session_processFrame_eq_step {session : SessionRuntime} {manifest : SessionManifestV1}
    {synchronizer : StepSynchronizer} {step : SynchronizedDatasetStep}
    (h : (session.processFrame externals manifest synchronizer envelope).1 = .ok (some step)) :
    envelope.key.cameraId = manifest.anchorCameraId ∧
      ∃ packet, contextOf envelope = some packet ∧
        (synchronizer.anchorStep externals (frameOf envelope) packet true).1 = .ok step := by
  unfold SessionRuntime.processFrame at h
  split at h
  · rename_i hanchor
    dsimp only at h
    split at h
    · cases h
    · rename_i packet hpacket
      refine ⟨hanchor, packet, hpacket, ?_⟩
      split at h
      · rename_i hstep
        cases h
        rw [hstep]
      · cases h
      · cases h
      · cases h
  · split at h
    · cases h
    · cases h

/-- The frame section changes nothing but counters and the synchronizer, and
that only as `push_secondary` or `anchor_step` do. A step comes from
`anchor_step`. -/
theorem session_processFrame_cases (externals : Externals) (session : SessionRuntime)
    (manifest : SessionManifestV1) (synchronizer : StepSynchronizer)
    (envelope : EncodedFrameEnvelope) {answer : Except RuntimeError (Option SynchronizedDatasetStep)}
    {next : SessionRuntime}
    (h : session.processFrame externals manifest synchronizer envelope = (answer, next)) :
    next.manifest = session.manifest ∧ next.manifestBytes = session.manifestBytes ∧
    next.reassembler = session.reassembler ∧
    next.reassemblyRevision = session.reassemblyRevision ∧
    ((next.synchronizer = session.synchronizer ∧ ∀ step, answer ≠ .ok (some step)) ∨
      (envelope.key.cameraId ≠ manifest.anchorCameraId ∧
        (∀ step, answer ≠ .ok (some step)) ∧
        ∃ pushed, synchronizer.pushSecondary (frameOf envelope) = .ok pushed ∧
          next.synchronizer = some pushed) ∨
      (envelope.key.cameraId = manifest.anchorCameraId ∧ ∃ packet,
        next.synchronizer =
          some (synchronizer.anchorStep externals (frameOf envelope) packet true).2 ∧
        ∀ step, answer = .ok (some step) →
          (synchronizer.anchorStep externals (frameOf envelope) packet true).1 = .ok step)) := by
  unfold SessionRuntime.processFrame at h
  split at h
  · rename_i hanchor
    dsimp only at h
    split at h
    · -- an anchor frame without a context only counts as dropped
      cases h
      exact ⟨rfl, rfl, rfl, rfl, Or.inl ⟨rfl, by simp⟩⟩
    · rename_i packet _
      split at h
      · -- the step that is broadcast
        rename_i step after hstep
        cases h
        refine ⟨rfl, rfl, rfl, rfl, Or.inr (Or.inr ⟨hanchor, packet, ?_, ?_⟩)⟩
        · rw [hstep]
        · intro other hother
          cases hother
          rw [hstep]
      · rename_i after hstep
        cases h
        exact ⟨rfl, rfl, rfl, rfl, Or.inr (Or.inr ⟨hanchor, packet, by rw [hstep], by simp⟩)⟩
      · rename_i after hstep
        cases h
        exact ⟨rfl, rfl, rfl, rfl, Or.inr (Or.inr ⟨hanchor, packet, by rw [hstep], by simp⟩)⟩
      · -- any other error is returned, and the queues keep what was taken from them
        rename_i error after _ _ hstep
        cases h
        exact ⟨rfl, rfl, rfl, rfl, Or.inr (Or.inr ⟨hanchor, packet, by rw [hstep], by simp⟩)⟩
  · rename_i hother
    split at h
    · cases h
      exact ⟨rfl, rfl, rfl, rfl, Or.inl ⟨rfl, by simp⟩⟩
    · rename_i pushed hpushed
      cases h
      exact ⟨rfl, rfl, rfl, rfl, Or.inr (Or.inl ⟨hother, by simp, pushed, hpushed, rfl⟩)⟩

theorem processFrame_cases (externals : Externals) (runtime : ReceiverRuntime)
    (envelope : EncodedFrameEnvelope) :
    processFrame externals runtime envelope = (.ok none, runtime) ∨
    (∃ session manifest synchronizer,
      runtime.sessions[envelope.key.sessionId]? = some session ∧
      session.manifest = some manifest ∧ session.synchronizer = some synchronizer ∧
      processFrame externals runtime envelope =
        ((session.processFrame externals manifest synchronizer envelope).1,
          runtime.setSession envelope.key.sessionId
            (session.processFrame externals manifest synchronizer envelope).2)) := by
  unfold processFrame
  split
  · exact Or.inl rfl
  · rename_i session hsession
    split
    · rename_i manifest synchronizer hmanifest hsynchronizer
      exact Or.inr ⟨session, manifest, synchronizer, hsession, hmanifest, hsynchronizer, rfl⟩
    · exact Or.inl rfl

/-! ## How `process` goes on -/

theorem processManifestChunk_of_incomplete
    (h : collectMessage externals runtime sessionId payload now = (.ok none, next)) :
    processManifestChunk externals runtime sessionId payload now = (.ok (), next) := by
  rw [processManifestChunk, h]

/-- A chunk that completes a valid manifest has it installed, whatever
becomes of the transitions afterwards. -/
theorem processManifestChunk_of_prepared {completed : Completed} {ready : Prepared}
    (h : collectMessage externals runtime sessionId payload now = (.ok (some completed), next))
    (hready : prepare externals next sessionId completed = .ok ready) :
    processManifestChunk externals runtime sessionId payload now =
      promoteAll (install next sessionId ready) (promotions ready.snapshots) := by
  rw [processManifestChunk, h]
  dsimp only
  rw [hready]

/-- A manifest message does no more than collect its chunk, or it completes a
manifest that is then installed. -/
theorem processManifestChunk_cases (externals : Externals) (runtime : ReceiverRuntime)
    (sessionId : Uuid) (payload : List UInt8) (now : Nat) :
    (processManifestChunk externals runtime sessionId payload now).2 =
      (collectMessage externals runtime sessionId payload now).2 ∨
    ∃ completed ready,
      prepare externals (collectMessage externals runtime sessionId payload now).2 sessionId
        completed = .ok ready ∧
      processManifestChunk externals runtime sessionId payload now =
        promoteAll
          (install (collectMessage externals runtime sessionId payload now).2 sessionId ready)
          (promotions ready.snapshots) := by
  unfold processManifestChunk
  rcases collectMessage externals runtime sessionId payload now with
    ⟨error | _ | completed, next⟩
  · exact Or.inl rfl
  · exact Or.inl rfl
  · cases hready : prepare externals next sessionId completed with
    | error error => exact Or.inl (by simp only [hready])
    | ok ready => exact Or.inr ⟨completed, ready, hready, by simp only [hready]⟩

/-- A refused chunk ends `process`: the frame is not handled. -/
theorem process_of_error {clock : Nat → Nat} {error : RuntimeError}
    (h : processManifestChunks externals runtime envelope.key.sessionId
      ((manifestPayloads envelope).zipIdx.map fun message => (message.1, clock message.2)) =
        (.error error, next)) :
    process externals runtime envelope clock = (.error error, next) := by
  unfold process
  split
  · rename_i hchunks
    cases hchunks.symm.trans h
    rfl
  · rename_i hchunks
    cases hchunks.symm.trans h

theorem process_of_ok {clock : Nat → Nat}
    (h : processManifestChunks externals runtime envelope.key.sessionId
      ((manifestPayloads envelope).zipIdx.map fun message => (message.1, clock message.2)) =
        (.ok (), next)) :
    process externals runtime envelope clock = processFrame externals next envelope := by
  unfold process
  split
  · rename_i hchunks
    cases hchunks.symm.trans h
  · rename_i hchunks
    cases hchunks.symm.trans h
    rfl

/-! ## What the sections leave alone -/

theorem setSession_same {β : Type} {id : Uuid} {next : SessionRuntime} (part : SessionRuntime → β)
    (hsame : part next = part (runtime.session id)) (other : Uuid) :
    part ((runtime.setSession id next).session other) = part (runtime.session other) := by
  by_cases hid : id = other
  · rw [← hid, setSession_session_self]
    exact hsame
  · rw [setSession_session_of_ne hid]

theorem collectMessage_manifest (externals : Externals) (runtime : ReceiverRuntime)
    (sessionId : Uuid) (payload : List UInt8) (now : Nat) (id : Uuid) :
    ((collectMessage externals runtime sessionId payload now).2.session id).manifest =
      (runtime.session id).manifest ∧
    ((collectMessage externals runtime sessionId payload now).2.session id).manifestBytes =
      (runtime.session id).manifestBytes := by
  rcases collectMessage_cases externals runtime sessionId payload now with
    hrefused | ⟨chunk, _, _, hcollected⟩
  · rw [hrefused]
    exact ⟨rfl, rfl⟩
  · rw [hcollected]
    obtain ⟨hmanifest, hbytes, _⟩ := collectChunk_keeps externals (runtime.session sessionId) chunk
      now runtime.manifestTimeout
    exact ⟨setSession_same (·.manifest) hmanifest id, setSession_same (·.manifestBytes) hbytes id⟩

/-- A frame leaves the manifest and the reassembly of every session alone. -/
theorem processFrame_session (externals : Externals) (runtime : ReceiverRuntime)
    (envelope : EncodedFrameEnvelope) (id : Uuid) :
    ((processFrame externals runtime envelope).2.session id).manifest =
      (runtime.session id).manifest ∧
    ((processFrame externals runtime envelope).2.session id).manifestBytes =
      (runtime.session id).manifestBytes ∧
    ((processFrame externals runtime envelope).2.session id).reassembler =
      (runtime.session id).reassembler ∧
    ((processFrame externals runtime envelope).2.session id).reassemblyRevision =
      (runtime.session id).reassemblyRevision := by
  rcases processFrame_cases externals runtime envelope with
    hnothing | ⟨session, current, synchronizer, hsession, _, _, hframe⟩
  · rw [hnothing]
    exact ⟨rfl, rfl, rfl, rfl⟩
  · rw [hframe]
    obtain ⟨hmanifest, hbytes, hreassembler, hrevision, _⟩ := session_processFrame_cases externals
      session current synchronizer envelope (Prod.eta _).symm
    have hbefore : runtime.session envelope.key.sessionId = session := by
      rw [ReceiverRuntime.session, hsession]
      rfl
    by_cases hid : envelope.key.sessionId = id
    · rw [← hid, setSession_session_self, hbefore]
      exact ⟨hmanifest, hbytes, hreassembler, hrevision⟩
    · rw [setSession_session_of_ne hid]
      exact ⟨rfl, rfl, rfl, rfl⟩

theorem processFrame_settings (externals : Externals) (runtime : ReceiverRuntime)
    (envelope : EncodedFrameEnvelope) :
    (processFrame externals runtime envelope).2.registry = runtime.registry ∧
    (processFrame externals runtime envelope).2.basePort = runtime.basePort ∧
    (processFrame externals runtime envelope).2.manifestTimeout = runtime.manifestTimeout := by
  rcases processFrame_cases externals runtime envelope with
    hnothing | ⟨session, current, synchronizer, _, _, _, hframe⟩
  · rw [hnothing]
    exact ⟨rfl, rfl, rfl⟩
  · rw [hframe]
    exact ⟨rfl, rfl, rfl⟩

theorem collectMessage_registry (externals : Externals) (runtime : ReceiverRuntime)
    (sessionId : Uuid) (payload : List UInt8) (now : Nat) :
    (collectMessage externals runtime sessionId payload now).2.registry = runtime.registry := by
  rcases collectMessage_cases externals runtime sessionId payload now with
    hrefused | ⟨chunk, _, _, hcollected⟩
  · rw [hrefused]
  · rw [hcollected, setSession_registry]

theorem promote_keeps (runtime : ReceiverRuntime) (promotion : StreamKey × BootstrapState) :
    runtime.registry.Keeps (promote runtime promotion).2.registry := by
  unfold promote
  split
  · exact .refl _
  · rename_i registry hregistry
    exact ReceiverRegistry.transition_keeps hregistry

end RobotMulticam.Receiver
