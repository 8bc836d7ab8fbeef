import RobotMulticam.Receiver.Runtime

/-!
# The metadata service

The calls of `ReceiverMetadata` that the web relay makes: it lists the
sessions, asks for the manifest of one, and subscribes to its steps. Each
reads the runtime under the session lock.
-/

namespace RobotMulticam.Receiver

open RobotMulticam.Lib
open RobotMulticam.Protocol

structure SessionStatus where
  sessionId : List UInt8
  manifestRevision : UInt64
  anchorCameraId : String
  authoritative : Bool
  connectedCameras : UInt32
  lastCaptureTimeEdgeNs : UInt64
  acceptedSteps : UInt64
  droppedSteps : UInt64
  deriving DecidableEq

inductive StatusCode where
  | invalidArgument
  | notFound
  | failedPrecondition
  | internal
  deriving DecidableEq, Repr

/-- `tonic::Status`. -/
structure Status where
  code : StatusCode
  message : String
  deriving DecidableEq

namespace ReceiverRuntime

/-- The status of one session. -/
def sessionStatus (runtime : ReceiverRuntime) (sessionId : Uuid) (session : SessionRuntime) :
    Except RuntimeError SessionStatus :=
  let connectedCameras := ((runtime.registry.snapshots sessionId).filter (·.connected)).length
  if 2 ^ 32 ≤ connectedCameras then .error .manifestChunk
  else .ok {
    sessionId := sessionId.bytes
    manifestRevision := session.manifest.elim 0 (·.manifestRevision)
    anchorCameraId := session.manifest.elim "" (·.anchorCameraId)
    authoritative := session.manifest.isSome
    connectedCameras := UInt32.ofNat connectedCameras
    lastCaptureTimeEdgeNs := session.lastCaptureTimeEdgeNs
    acceptedSteps := session.acceptedSteps
    droppedSteps := session.droppedSteps }

def sessionStatuses (runtime : ReceiverRuntime) : Except RuntimeError (List SessionStatus) := do
  let statuses ← runtime.sessions.toList.mapM fun entry => runtime.sessionStatus entry.1 entry.2
  -- a stable sort, like `sort_by_key`
  pure (statuses.insertionSort fun left right =>
    left.lastCaptureTimeEdgeNs ≤ right.lastCaptureTimeEdgeNs)

/-- The manifest in force and the bytes it came in. -/
def manifest (runtime : ReceiverRuntime) (sessionId : Uuid) :
    Option (List UInt8 × SessionManifestV1) := do
  let session ← runtime.sessions[sessionId]?
  pure (← session.manifestBytes, ← session.manifest)

theorem manifest_eq_some {runtime : ReceiverRuntime} {sessionId : Uuid} {bytes : List UInt8}
    {found : SessionManifestV1} (h : runtime.manifest sessionId = some (bytes, found)) :
    (runtime.session sessionId).manifest = some found ∧
      (runtime.session sessionId).manifestBytes = some bytes := by
  simp only [manifest, Option.bind_eq_bind, Option.pure_def, Option.bind_eq_some_iff] at h
  obtain ⟨session, hsession, held, hheld, current, hcurrent, hpair⟩ := h
  cases hpair
  rw [ReceiverRuntime.session, hsession]
  exact ⟨hcurrent, hheld⟩

end ReceiverRuntime

def parseSession (bytes : List UInt8) : Except Status Uuid :=
  match Uuid.fromSlice bytes with
  | none => .error ⟨.invalidArgument, "session_id must be 16 bytes"⟩
  | some sessionId => .ok sessionId

structure GetSessionManifestResponse where
  sessionId : List UInt8
  manifestRevision : UInt64
  serializedSessionManifest : List UInt8

/-- Revision 0 asks for whatever is in force. -/
def getSessionManifest (runtime : ReceiverRuntime) (sessionId : List UInt8)
    (manifestRevision : UInt64) : Except Status GetSessionManifestResponse := do
  let sessionId ← parseSession sessionId
  match runtime.manifest sessionId with
  | none => .error ⟨.notFound, "manifest unavailable"⟩
  | some (bytes, manifest) =>
    if manifestRevision ≠ 0 ∧ manifestRevision ≠ manifest.manifestRevision then
      .error ⟨.notFound, "manifest revision unavailable"⟩
    else .ok ⟨sessionId.bytes, manifest.manifestRevision, bytes⟩

/-- The answer holds the bytes of the manifest in force. -/
theorem getSessionManifest_eq_ok {runtime : ReceiverRuntime} {sessionId : Uuid}
    {manifestRevision : UInt64} {reply : GetSessionManifestResponse}
    (h : getSessionManifest runtime sessionId.bytes manifestRevision = .ok reply) :
    ∃ manifest, (runtime.session sessionId).manifest = some manifest ∧
      (runtime.session sessionId).manifestBytes = some reply.serializedSessionManifest := by
  obtain ⟨parsed, hparsed, hreply⟩ := bind_eq_ok.mp h
  rw [parseSession, Uuid.fromSlice_bytes] at hparsed
  cases hparsed
  split at hreply
  · cases hreply
  · rename_i bytes manifest hmanifest
    split at hreply
    · cases hreply
    · cases hreply
      obtain ⟨hcurrent, hbytes⟩ := ReceiverRuntime.manifest_eq_some hmanifest
      exact ⟨manifest, hcurrent, hbytes⟩

/-- What a subscription asks for. -/
structure StepSubscription where
  sessionId : Uuid
  includeEncodedImages : Bool
  cameraIds : List String

def subscribeSynchronizedSteps (runtime : ReceiverRuntime) (sessionId : List UInt8)
    (includeEncodedImages : Bool) (cameraIds : List String) : Except Status StepSubscription := do
  let sessionId ← parseSession sessionId
  match runtime.manifest sessionId with
  | none => .error ⟨.failedPrecondition, "authoritative manifest unavailable"⟩
  | some _ => .ok ⟨sessionId, includeEncodedImages, cameraIds⟩

/-- What a subscription makes of a step that is broadcast. -/
def StepSubscription.forward (self : StepSubscription) (step : SynchronizedDatasetStep) :
    Option SynchronizedDatasetStep :=
  if step.sessionId ≠ self.sessionId.bytes then none
  else
    let frames := if self.cameraIds.isEmpty then step.frames
      else step.frames.filter fun frame => self.cameraIds.contains frame.cameraId
    some { step with
      frames := if self.includeEncodedImages then frames
        else frames.map fun frame =>
          { frame with encodedImage := [], encodedImageMediaType := "" } }

/-- A step keeps its revision on the way. -/
theorem StepSubscription.forward_revision {self : StepSubscription}
    {step forwarded : SynchronizedDatasetStep} (h : self.forward step = some forwarded) :
    forwarded.manifestRevision = step.manifestRevision := by
  unfold forward at h
  split at h
  · cases h
  · rw [← Option.some.inj h]

end RobotMulticam.Receiver
