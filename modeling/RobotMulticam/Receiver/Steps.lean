import RobotMulticam.Protocol.Wire
import RobotMulticam.Receiver.Threads

/-!
# Broadcast steps

A step is broadcast in the frame section of the anchor's envelope. It is
formed by the session's synchronizer, so what it says about its session and
its frames depends on the manifest in force and on the frames that were
queued since that manifest was installed. The results here say under which
conditions on manifests and envelopes a step carries the session of its
stream, and the stream epochs its manifest declares, in every interleaving
of stream threads.
-/

namespace RobotMulticam.Receiver

open RobotMulticam.Lib
open RobotMulticam.Protocol
open RobotMulticam.Codec
open RobotMulticam.Identity
open StepSynchronizer (EachQueue)

variable {externals : Externals} {world : World} {envelope : EncodedFrameEnvelope}
  {step : SynchronizedDatasetStep}

/-- A step comes from `anchor_step` of the synchronizer in force, called with
the envelope's own context. -/
theorem World.broadcast_cases {action : Action}
    (h : world.broadcast externals action = some (envelope, step)) :
    ∃ session manifest synchronizer packet,
      world.framing action = some envelope ∧
      world.runtime.sessions[envelope.key.sessionId]? = some session ∧
      session.manifest = some manifest ∧ session.synchronizer = some synchronizer ∧
      envelope.key.cameraId = manifest.anchorCameraId ∧ contextOf envelope = some packet ∧
      (synchronizer.anchorStep externals (frameOf envelope) packet true).1 = .ok step := by
  unfold broadcast at h
  split at h
  · cases h
  · rename_i hframing
    split at h
    · rename_i found hfound
      cases h
      rcases processFrame_cases externals world.runtime envelope with
        hnothing | ⟨session, manifest, synchronizer, hsession, hmanifest, hheld, hframe⟩
      · rw [hnothing] at hfound
        cases hfound
      · rw [hframe] at hfound
        obtain ⟨hanchor, packet, hpacket, hstep⟩ := session_processFrame_eq_step hfound
        exact ⟨session, manifest, synchronizer, packet, hframing, hsession, hmanifest, hheld,
          hanchor, hpacket, hstep⟩
    · cases h

theorem World.manifestOf_of_session {key : StreamKey} {session : SessionRuntime}
    (h : world.runtime.sessions[key.sessionId]? = some session) :
    world.manifestOf key = session.manifest := by
  rw [manifestOf, ReceiverRuntime.session, h]
  rfl

theorem ReceiverRuntime.new_eq_ok {registry : ReceiverRegistry} {basePort : UInt16}
    {manifestTimeout maxFramesPerCamera : Nat} {maxSkewNs : UInt64} {stepCapacity : Nat}
    {runtime : ReceiverRuntime}
    (h : ReceiverRuntime.new registry basePort manifestTimeout maxFramesPerCamera maxSkewNs
      stepCapacity = .ok runtime) :
    runtime.sessions = ∅ ∧ runtime.registry = registry := by
  unfold ReceiverRuntime.new at h
  split at h
  · cases h
  · cases h
    exact ⟨rfl, rfl⟩

/-! ## A cell with two cameras -/

/-- The session of the examples. -/
def cellSession : Uuid := ⟨List.replicate 16 1, rfl⟩

def cellIdentity (cameraId : String) (slot : UInt16) (epoch : UInt32) (role : Role) :
    StreamIdentity where
  embodimentId := "cell"
  edgeInstanceId := "edge"
  edgeBootId := ⟨List.replicate 16 2, rfl⟩
  sessionId := cellSession
  cameraId
  slot
  epoch
  role
  codec := .h264

def anchorStream : String :=
  "rmc1;emb=cell;edge=edge;boot=02020202-0202-0202-0202-020202020202;" ++
  "sid=01010101-0101-0101-0101-010101010101;cid=anchor;slot=0;epoch=1;role=anchor;codec=h264;" ++
  "sig=wJ1R9AK56EFQYJVE3OnWvA"

def sideStream : String :=
  "rmc1;emb=cell;edge=edge;boot=02020202-0202-0202-0202-020202020202;" ++
  "sid=01010101-0101-0101-0101-010101010101;cid=side;slot=1;epoch=1;role=secondary;codec=h264;" ++
  "sig=zQCORBfGquLUtacSX-d6Bg"

/-- The side camera after a reconnect. -/
def sideStreamAgain : String :=
  "rmc1;emb=cell;edge=edge;boot=02020202-0202-0202-0202-020202020202;" ++
  "sid=01010101-0101-0101-0101-010101010101;cid=side;slot=1;epoch=2;role=secondary;codec=h264;" ++
  "sig=IKmS0PSQByzOgwryz2bFSQ"

/-- A side camera whose signed role is anchor. -/
def sideStreamAsAnchor : String :=
  "rmc1;emb=cell;edge=edge;boot=02020202-0202-0202-0202-020202020202;" ++
  "sid=01010101-0101-0101-0101-010101010101;cid=side;slot=1;epoch=1;role=anchor;codec=h264;" ++
  "sig=TeoYGiQNRka9kXCjSxQx2A"

/-- Verification under the key of 32 bytes 7, for the streams above. -/
def cellVerify (raw : String) : Except IdentityError StreamIdentity :=
  if raw = anchorStream then .ok (cellIdentity "anchor" 0 1 .anchor)
  else if raw = sideStream then .ok (cellIdentity "side" 1 1 .secondary)
  else if raw = sideStreamAgain then .ok (cellIdentity "side" 1 2 .secondary)
  else if raw = sideStreamAsAnchor then .ok (cellIdentity "side" 1 1 .anchor)
  else .error .authentication

def cellRegistry : ReceiverRegistry :=
  .new ⟨"cell", some "edge", 10000, 2, 8, 1000000⟩ cellVerify

/-- One second for a manifest, eight frames a camera, 20 ns of skew. -/
def cellRuntime : ReceiverRuntime :=
  (ReceiverRuntime.new cellRegistry 10000 1000000000 8 20 8).toOption.get (by decide)

theorem cellRuntime_new :
    ReceiverRuntime.new cellRegistry 10000 1000000000 8 20 8 = .ok cellRuntime :=
  eq_ok_of_isSome _

def cellCamera (stableCameraId : String) (slot : UInt32) (role : Int32) :
    CameraDescriptorV1 where
  stableCameraId
  streamSlot := slot
  streamEpoch := 1
  role
  transportPort := 10000 + slot

/-- A manifest of revision 1 with one observation and one action value. -/
def cellManifest (cameras : List CameraDescriptorV1) : SessionManifestV1 where
  schemaVersion := 1
  sessionId := cellSession.bytes
  edgeBootId := List.replicate 16 2
  manifestRevision := 1
  anchorCameraId := "anchor"
  streamIdSchema := "rmc1"
  schemaIdAlgorithm := schemaIdHash
  observationSchemaId := 11
  actionSchemaId := 12
  observationVectorLength := 1
  actionVectorLength := 1
  featureSlices := [
    { featureId := 1, qualifiedName := "body.position", vectorKind := 1, length := 1 },
    { featureId := 2, qualifiedName := "body.target", vectorKind := 2, length := 1 }]
  cameras

def anchorCamera : CameraDescriptorV1 := cellCamera "anchor" 0 cameraRoleAnchor

def sideCamera : CameraDescriptorV1 := cellCamera "side" 1 cameraRoleSecondary

variable (manifest : SessionManifestV1)

/-- The context of an anchor frame under a manifest. -/
def contextFor (ordinal : UInt64) : AnchorFrameContextV1 where
  schemaVersion := 1
  sessionId := manifest.sessionId
  anchorFrameSeq := ordinal
  manifestRevision := manifest.manifestRevision
  observationSchemaId := manifest.observationSchemaId
  actionSchemaId := manifest.actionSchemaId
  observationState := [⟨0x3f800000⟩]
  action := [⟨0x40000000⟩]

/-- The chunks a manifest is sent in. -/
def chunksOf : List SessionManifestChunkV1 :=
  (chunkManifest (wireExternals [] [] [] [] []) manifest.encode cellSession.bytes
    manifest.manifestRevision .none).toOption.getD []

def packetOf (context : AnchorFrameContextV1) : AnchorFrameContextPacketV1 :=
  ⟨1, context.encode, crc32c context.encode⟩

/-- Externals that read the given contexts and manifests, all chunks of the
manifests, and the capture times of the access units below. -/
def cellExternals (contexts : List AnchorFrameContextV1) (manifests : List SessionManifestV1) :
    Externals :=
  wireExternals [⟨100⟩, ⟨200⟩, ⟨205⟩] contexts (contexts.map packetOf) manifests
    (manifests.flatMap chunksOf)

def contextMessage (context : AnchorFrameContextV1) : UserDataUnregistered :=
  ⟨anchorContextUuid, (packetOf context).encode⟩

def manifestMessages : List UserDataUnregistered :=
  (chunksOf manifest).map (manifestChunkSei (cellExternals [] [manifest]))

/-- An access unit with a capture time and metadata messages. -/
def cellUnit (time : UInt64) (messages : List UserDataUnregistered) : List UInt8 :=
  (do
    let stamped ← injectTimestampH264AnnexB (cellExternals [] []).timestamp idrUnit time
    injectUserDataH264AnnexB (cellExternals [] []).timestamp stamped messages).toOption.getD []

/-! ## The session of a step -/

/-- Bytes that complete in a session decode to a manifest of that session. -/
def CompletesOwnSession (externals : Externals) (world : World) (action : Action) : Prop :=
  ∀ complete ∈ world.completing action,
    ∀ manifest ∈ externals.manifest.decode complete.2.bytes,
      manifest.sessionId = complete.1.key.sessionId.bytes

/-- A step that is broadcast carries the session of the envelope. -/
def BroadcastsOwnSession (externals : Externals) (world : World) (action : Action) : Prop :=
  ∀ sent ∈ world.broadcast externals action, sent.2.sessionId = sent.1.key.sessionId.bytes

instance (externals : Externals) (world : World) (action : Action) :
    Decidable (CompletesOwnSession externals world action) :=
  inferInstanceAs (Decidable (∀ complete ∈ world.completing action,
    ∀ manifest ∈ externals.manifest.decode complete.2.bytes, _))

instance (externals : Externals) (world : World) (action : Action) :
    Decidable (BroadcastsOwnSession externals world action) :=
  inferInstanceAs (Decidable (∀ sent ∈ world.broadcast externals action, _))

/-- The manifest in force is the session's, and the synchronizer's. -/
def OwnManifest (id : Uuid) (manifest : SessionManifestV1) (synchronizer : StepSynchronizer) :
    Prop :=
  manifest.sessionId = id.bytes ∧ synchronizer.manifest = manifest

/-- Handling a frame keeps the synchronizer's manifest. -/
theorem manifest_of_frame {synchronizer next : StepSynchronizer} {frame : StoredFrame}
    (h : synchronizer.pushSecondary frame = .ok next ∨
      ∃ packet, next = (synchronizer.anchorStep externals frame packet true).2) :
    next.manifest = synchronizer.manifest := by
  rcases h with hpushed | ⟨packet, rfl⟩
  · exact (StepSynchronizer.pushSecondary_eq_ok hpushed).1
  · exact StepSynchronizer.anchorStep_manifest externals synchronizer frame packet true

theorem ownManifest_step (world : World) (action : Action) (h : Installed OwnManifest world)
    (hcond : CompletesOwnSession externals world action) :
    Installed OwnManifest (world.step externals action) := by
  refine Installed.step ?_ ?_ world action h hcond
  · intro world action envelope found ready hcond hcompleting hready
    obtain ⟨hvalid, hnew, _⟩ := prepare_eq_ok.mp hready
    refine ⟨hcond (envelope, found) hcompleting ready.manifest
      (validateManifest_eq_ok hvalid).1, ?_⟩
    exact (StepSynchronizer.new_eq_ok hnew).1
  · intro world action envelope session manifest synchronizer next _ _ _ _ hnext hown
    exact ⟨hown.1, (manifest_of_frame hnext).trans hown.2⟩

/-- Every step belongs to the session it came from, in every run in which
completed bytes are manifests of their session. -/
theorem steps_carry_their_session (externals : Externals) (registry : ReceiverRegistry)
    (basePort : UInt16) (manifestTimeout maxFramesPerCamera : Nat) (maxSkewNs : UInt64)
    (stepCapacity : Nat) (runtime : ReceiverRuntime)
    (hnew : ReceiverRuntime.new registry basePort manifestTimeout maxFramesPerCamera maxSkewNs
      stepCapacity = .ok runtime)
    (actions : List Action)
    (hmeets : Meets (World.step externals) (CompletesOwnSession externals)
      (World.initial runtime) actions) :
    Meets (World.step externals) (BroadcastsOwnSession externals) (World.initial runtime)
      actions := by
  refine meets_of_invariant ownManifest_step ?_
    (Installed.initial (ReceiverRuntime.new_eq_ok hnew).1) hmeets
  intro world action h _ sent hsent
  obtain ⟨envelope, step⟩ := sent
  obtain ⟨session, manifest, synchronizer, packet, _, hsession, hmanifest, hheld, _, _,
    hanswer⟩ := World.broadcast_cases hsent
  obtain ⟨hown, hsame⟩ := h.inForce _ session manifest synchronizer hsession hmanifest hheld
  obtain ⟨_, hcontent⟩ := StepSynchronizer.anchorStep_cases externals synchronizer
    (frameOf envelope) packet true
  rw [(hcontent step hanswer).1, hsame, hown]

/-- The anchor connects, and its first access unit has the manifest and a
context for it. The five sections of `process` follow. -/
def bootstrapActions : List Action :=
  [.accept 10000 anchorStream,
    .ingest 0 ⟨cellSession, "anchor", 1⟩ (some 100)
      (cellUnit 100 (manifestMessages manifest ++ [contextMessage (contextFor manifest 0)])),
    .advance 0 1, .advance 0 1, .advance 0 1, .advance 0 1, .advance 0 1]

/-- Externals for `bootstrapActions`. -/
def bootstrapExternals : Externals :=
  cellExternals [contextFor manifest 0] [manifest]

theorem steps_carry_their_session_anchor :
    Meets (World.step (bootstrapExternals (cellManifest [anchorCamera])))
        (BroadcastsOwnSession (bootstrapExternals (cellManifest [anchorCamera])))
        (World.initial cellRuntime) (bootstrapActions (cellManifest [anchorCamera])) ∧
      -- the last section does broadcast a step
      ((run (World.step (bootstrapExternals (cellManifest [anchorCamera])))
          (World.initial cellRuntime)
          (bootstrapActions (cellManifest [anchorCamera])).dropLast).broadcast
        (bootstrapExternals (cellManifest [anchorCamera])) (.advance 0 1)).isSome = true :=
  -- one evaluation of the run for both parts
  And.imp_left (steps_carry_their_session _ _ _ _ _ _ _ _ cellRuntime_new _) (by decide +kernel)

/-- A manifest of another session. -/
def foreignManifest : SessionManifestV1 :=
  { cellManifest [anchorCamera] with sessionId := List.replicate 16 9 }

/-- Nothing compares the session of a manifest with the stream's. A stream
of session `1…1` sends chunks labelled with its own session that hold a
manifest of session `9…9`, and a step of `9…9` is broadcast. -/
theorem step_of_foreign_session :
    ReceiverRuntime.new cellRegistry 10000 1000000000 8 20 8 = .ok cellRuntime ∧
      ¬ Meets (World.step (bootstrapExternals foreignManifest))
        (BroadcastsOwnSession (bootstrapExternals foreignManifest))
        (World.initial cellRuntime) (bootstrapActions foreignManifest) :=
  ⟨cellRuntime_new, by decide +kernel⟩

/-! ## The revision of a step -/

/-- The synchronizer works with the manifest in force. -/
def SameManifest (synchronizer : StepSynchronizer) : Prop :=
  synchronizer.manifest = manifest

theorem sameManifest_step (world : World) (action : Action)
    (h : Installed (fun _ => SameManifest) world) :
    Installed (fun _ => SameManifest) (world.step externals action) := by
  refine @Installed.step _ externals (fun _ _ => True) ?_ ?_ world action h trivial
  · intro world action envelope found ready _ _ hready
    obtain ⟨_, hnew, _⟩ := prepare_eq_ok.mp hready
    exact (StepSynchronizer.new_eq_ok hnew).1
  · intro world action envelope session manifest synchronizer next _ _ _ _ hnext hsame
    exact (manifest_of_frame hnext).trans hsame

/-- A step has the revision of the manifest in force when it is broadcast. -/
theorem World.broadcast_revision {action : Action} (h : Installed (fun _ => SameManifest) world)
    (hsent : world.broadcast externals action = some (envelope, step)) :
    (world.manifestOf envelope.key).map (·.manifestRevision) = some step.manifestRevision := by
  obtain ⟨session, manifest, synchronizer, packet, _, hsession, hmanifest, hheld, _, _,
    hanswer⟩ := World.broadcast_cases hsent
  have hsame := h.inForce _ session manifest synchronizer hsession hmanifest hheld
  obtain ⟨_, _, _, _, hcontent⟩ := StepSynchronizer.anchorStep_content hanswer
  have hrevision := congrArg StepContent.manifestRevision hcontent
  rw [World.manifestOf_of_session hsession, hmanifest, ← hsame]
  exact congrArg some hrevision.symm

/-! ## The epochs of a step -/

/-- The manifest has the camera, and declares this epoch for it. -/
def DeclaresEpoch (cameraId : String) (epoch : UInt32) : Prop :=
  (∃ camera ∈ manifest.cameras, camera.stableCameraId = cameraId) ∧
    ∀ camera ∈ manifest.cameras, camera.stableCameraId = cameraId → camera.streamEpoch = epoch

instance (manifest : SessionManifestV1) (cameraId : String) (epoch : UInt32) :
    Decidable (DeclaresEpoch manifest cameraId epoch) :=
  inferInstanceAs (Decidable ((∃ camera ∈ manifest.cameras, _) ∧ ∀ camera ∈ manifest.cameras, _))

/-- A frame is handled under a manifest that, if it knows the camera,
declares the epoch of the frame's stream. -/
def FramesOfDeclaredEpoch (world : World) (action : Action) : Prop :=
  ∀ envelope ∈ world.framing action, ∀ manifest ∈ world.manifestOf envelope.key,
    ∀ camera ∈ manifest.cameras, camera.stableCameraId = envelope.key.cameraId →
      camera.streamEpoch = envelope.key.epoch

/-- Every frame of a broadcast step has the epoch that the manifest in force
declares for its camera. -/
def BroadcastsDeclaredEpochs (externals : Externals) (world : World) (action : Action) : Prop :=
  ∀ sent ∈ world.broadcast externals action, (world.manifestOf sent.1.key).isSome ∧
    ∀ manifest ∈ world.manifestOf sent.1.key,
      ∀ frame ∈ sent.2.frames, DeclaresEpoch manifest frame.cameraId frame.streamEpoch

instance (world : World) (action : Action) : Decidable (FramesOfDeclaredEpoch world action) :=
  inferInstanceAs (Decidable (∀ envelope ∈ world.framing action,
    ∀ manifest ∈ world.manifestOf envelope.key, ∀ camera ∈ manifest.cameras, _))

instance (externals : Externals) (world : World) (action : Action) :
    Decidable (BroadcastsDeclaredEpochs externals world action) :=
  inferInstanceAs (Decidable (∀ sent ∈ world.broadcast externals action, _ ∧
    ∀ manifest ∈ world.manifestOf sent.1.key, ∀ frame ∈ sent.2.frames, _))

/-- What holds of a manifest in force and its synchronizer: the queues are
for cameras of the manifest, and the frames in them have declared epochs. -/
structure DeclaredFrames (manifest : SessionManifestV1) (synchronizer : StepSynchronizer) :
    Prop where
  same : synchronizer.manifest = manifest
  anchor : ∃ camera ∈ manifest.cameras, camera.stableCameraId = manifest.anchorCameraId
  cameras : ∀ id ∈ synchronizer.queues, ∃ camera ∈ manifest.cameras, camera.stableCameraId = id
  queued : EachQueue (fun _ queue => ∀ frame ∈ queue,
    DeclaresEpoch manifest frame.cameraId frame.streamEpoch) synchronizer.queues

theorem declaredFrames_step (world : World) (action : Action)
    (h : Installed (fun _ => DeclaredFrames) world) (hcond : FramesOfDeclaredEpoch world action) :
    Installed (fun _ => DeclaredFrames) (world.step externals action) := by
  refine Installed.step ?_ ?_ world action h hcond
  · intro world action envelope found ready _ _ hready
    obtain ⟨hvalid, hnew, _⟩ := prepare_eq_ok.mp hready
    obtain ⟨hsame, hqueued, hcameras⟩ := StepSynchronizer.new_eq_ok hnew
    obtain ⟨_, _, anchor, hanchor, hid, _⟩ := validateManifest_eq_ok hvalid
    refine ⟨hsame, ⟨anchor, hanchor, hid⟩, hcameras, ?_⟩
    intro id queue hqueue
    rw [hqueued id queue hqueue]
    exact List.forall_mem_nil _
  · intro world action envelope session manifest synchronizer next hcond hframing hsession
      hmanifest hnext hdeclared
    rcases hnext with hpushed | ⟨packet, rfl⟩
    · obtain ⟨hkept, hmem, hids, hqueued⟩ := StepSynchronizer.pushSecondary_eq_ok hpushed
      refine ⟨hkept.trans hdeclared.same, hdeclared.anchor, ?_, ?_⟩
      · intro id hid
        exact hdeclared.cameras id ((hids id).mp hid)
      · -- the new frame: its queue is that of a camera, and the condition has its epoch
        intro id left hleft frame hframe
        rcases hqueued id left hleft frame hframe with rfl | ⟨queue, hqueue, hold⟩
        · refine ⟨hdeclared.cameras _ hmem, hcond envelope hframing manifest ?_⟩
          rw [World.manifestOf_of_session hsession]
          exact hmanifest
        · exact hdeclared.queued id queue hqueue frame hold
    · obtain ⟨⟨queues, hloses, hids, hnext⟩, _⟩ := StepSynchronizer.anchorStep_cases externals
        synchronizer (frameOf envelope) packet true
      rw [hnext]
      refine ⟨hdeclared.same, hdeclared.anchor, ?_, hdeclared.queued.of_losesFrames hloses ?_⟩
      · intro id hid
        exact hdeclared.cameras id ((hids id).mp hid)
      · exact fun id queue rest hqueue hrest frame hframe => hqueue frame (hrest.subset hframe)

/-- Epochs are never mixed in a step, in every run in which each frame is
handled under a manifest that declares its stream's epoch. -/
theorem steps_never_mix_epochs (externals : Externals) (registry : ReceiverRegistry)
    (basePort : UInt16) (manifestTimeout maxFramesPerCamera : Nat) (maxSkewNs : UInt64)
    (stepCapacity : Nat) (runtime : ReceiverRuntime)
    (hnew : ReceiverRuntime.new registry basePort manifestTimeout maxFramesPerCamera maxSkewNs
      stepCapacity = .ok runtime)
    (actions : List Action)
    (hmeets : Meets (World.step externals) FramesOfDeclaredEpoch (World.initial runtime)
      actions) :
    Meets (World.step externals) (BroadcastsDeclaredEpochs externals) (World.initial runtime)
      actions := by
  refine meets_of_invariant declaredFrames_step ?_
    (Installed.initial (ReceiverRuntime.new_eq_ok hnew).1) hmeets
  intro world action h hcond sent hsent
  obtain ⟨envelope, step⟩ := sent
  obtain ⟨session, manifest, synchronizer, packet, hframing, hsession, hmanifest, hheld, hanchor,
    _, hanswer⟩ := World.broadcast_cases hsent
  have hdeclared := h.inForce _ session manifest synchronizer hsession hmanifest hheld
  have hinForce : world.manifestOf envelope.key = some manifest := by
    rw [World.manifestOf_of_session hsession, hmanifest]
  refine ⟨by rw [hinForce]; rfl, ?_⟩
  intro current hcurrent frame hframe
  obtain rfl : manifest = current := Option.some.inj (hinForce.symm.trans hcurrent)
  obtain ⟨_, hcontent⟩ := StepSynchronizer.anchorStep_cases externals synchronizer
    (frameOf envelope) packet true
  rcases (hcontent step hanswer).2 frame hframe with
    rfl | ⟨id, queue, queued, skew, hqueue, hqueued, rfl⟩
  · refine ⟨?_, hcond envelope hframing manifest hinForce⟩
    show ∃ camera ∈ manifest.cameras, camera.stableCameraId = envelope.key.cameraId
    rw [hanchor]
    exact hdeclared.anchor
  · exact hdeclared.queued id queue hqueue queued hqueued

/-- Both cameras connect, the anchor's first access unit brings the manifest,
something happens, and a side frame and an anchor frame with a context
follow. -/
def twoCameraActions (between : List Action) (sideEpoch : UInt32) : List Action :=
  ([.accept 10000 anchorStream, .accept 10001 sideStream,
    .ingest 0 ⟨cellSession, "anchor", 1⟩ (some 100)
      (cellUnit 100 (manifestMessages (cellManifest [anchorCamera, sideCamera]))),
    .advance 0 1, .advance 0 1, .advance 0 1, .advance 0 1, .advance 0 1] : List Action) ++
  between ++
  ([.ingest 1 ⟨cellSession, "side", sideEpoch⟩ (some 205) (cellUnit 205 []), .advance 1 2,
    .ingest 0 ⟨cellSession, "anchor", 1⟩ (some 200)
      (cellUnit 200 [contextMessage (contextFor (cellManifest [anchorCamera, sideCamera]) 1)]),
    .advance 0 3] : List Action)

/-- Externals for `twoCameraActions`. -/
def twoCameraExternals : Externals :=
  cellExternals [contextFor (cellManifest [anchorCamera, sideCamera]) 1]
    [cellManifest [anchorCamera, sideCamera]]

theorem steps_never_mix_epochs_two_cameras :
    Meets (World.step twoCameraExternals) (BroadcastsDeclaredEpochs twoCameraExternals)
        (World.initial cellRuntime) (twoCameraActions [] 1) ∧
      -- the last section broadcasts a step with both frames
      ((run (World.step twoCameraExternals) (World.initial cellRuntime)
          (twoCameraActions [] 1).dropLast).broadcast twoCameraExternals
        (.advance 0 3)).map (fun sent => sent.2.frames.map (·.streamEpoch)) = some [1, 1] :=
  And.imp_left (steps_never_mix_epochs _ _ _ _ _ _ _ _ cellRuntime_new _) (by decide +kernel)

/-- Neither `push_secondary` nor `anchor_step` looks at the epoch of a frame.
The side camera reconnects with epoch 2 after the manifest was installed, and
its next frame joins a step under the manifest that declares epoch 1. -/
theorem step_mixes_epochs :
    ReceiverRuntime.new cellRegistry 10000 1000000000 8 20 8 = .ok cellRuntime ∧
      ¬ Meets (World.step twoCameraExternals) (BroadcastsDeclaredEpochs twoCameraExternals)
        (World.initial cellRuntime)
        (twoCameraActions [.disconnect ⟨cellSession, "side", 1⟩, .accept 10001 sideStreamAgain]
          2) :=
  ⟨cellRuntime_new, by decide +kernel⟩

end RobotMulticam.Receiver
