import RobotMulticam.Lib.Ring
import RobotMulticam.Relay.Projection

/-!
# The relay manager

`process_step` hands the frames of a step to the HLS pipelines of their
cameras and then publishes the events of the step. An event is appended to
the bounded history of its stream and sent to the broadcast channel, in this
order; `openStep` is everything before the first event.

What GStreamer and the disk answer is an input (`StepMedia`). Streams and
histories are keyed by the text `session/camera`, in which neither part has a
slash.
-/

namespace RobotMulticam.Relay

open RobotMulticam.Lib
open RobotMulticam.Protocol
open Std (ExtTreeMap)

inductive RelayError where
  | session
  | disk
  | pipeline
  | projection (error : ProjectionError)
  deriving DecidableEq

structure StreamInfo where
  sessionId : List Char
  cameraId : String
  cameraKey : List Char
  streamEpoch : UInt32
  playlistUrl : List Char
  metadataUrl : List Char
  playlistReady : Bool
  lastCaptureTimeEdgeNs : UInt64
  lastMediaPtsSeconds : Float
  lastAccessUnitOrdinal : UInt64

/-- The capacity is within the bounds that `Config::from_env` accepts. The
text of ids is the crate's and never changes. -/
structure HttpState where
  uuidText : UuidText
  streams : ExtTreeMap (List Char) StreamInfo
  histories : ExtTreeMap (List Char) (List FrameMetadataEvent)
  historyPerStream : Nat
  historyBounds : 32 ≤ historyPerStream ∧ historyPerStream ≤ 4096

structure HlsPipeline where
  epoch : UInt32
  lastOrdinal : Option UInt64 := none
  frameDurationNs : Option UInt64

structure RelayManager where
  http : HttpState
  pipelines : ExtTreeMap (List Char) HlsPipeline
  activeSession : Option Uuid

/-- How GStreamer and the disk answer for one frame. -/
structure FrameMedia where
  starts : Bool
  takes : Bool
  playlistReady : Bool

/-- How they answer for one step: whether the directories of a new session
can be set up, and what happens to each frame. -/
structure StepMedia where
  cleared : Bool
  frame : Nat → FrameMedia

/-- Everything works. -/
def StepMedia.working : StepMedia := ⟨true, fun _ => ⟨true, true, true⟩⟩

/-- The key of a stream and of its history. -/
def streamKey (session camera : List Char) : List Char := session ++ '/' :: camera

/-! ## Frames -/

/-- A buffer goes into the pipeline; the answer says whether there is a gap. -/
def HlsPipeline.push (self : HlsPipeline) (frame : FrameReference) : Bool × HlsPipeline :=
  let expected := fun last : UInt64 => if last.toNat + 1 < 2 ^ 64 then last + 1 else last
  (self.lastOrdinal.any fun last => frame.accessUnitOrdinal ≠ expected last,
    { self with lastOrdinal := some frame.accessUnitOrdinal })

/-- The frame duration of a camera, by the last of its descriptors that has
a rate. The product does not reach 64 bits. -/
def frameDuration (manifest : SessionManifestV1) (cameraId : String) : Option UInt64 :=
  (manifest.cameras.filter fun camera =>
    camera.stableCameraId = cameraId ∧ 0 < camera.fpsNum ∧ 0 < camera.fpsDen).getLast?.map
      fun camera => 1000000000 * camera.fpsDen.toUInt64 / camera.fpsNum.toUInt64

def streamInfo (session : List Char) (frame : FrameReference) (playlistReady : Bool) :
    StreamInfo where
  sessionId := session
  cameraId := frame.cameraId
  cameraKey := cameraKey frame.cameraId
  streamEpoch := frame.streamEpoch
  playlistUrl := "/live/".toList ++ streamKey session (cameraKey frame.cameraId) ++
    "/index.m3u8".toList
  metadataUrl := "/metadata/".toList ++ streamKey session (cameraKey frame.cameraId)
  playlistReady
  lastCaptureTimeEdgeNs := frame.captureTimeEdgeNs
  lastMediaPtsSeconds := mediaPtsSeconds frame.normalizedPtsNs
  lastAccessUnitOrdinal := frame.accessUnitOrdinal

namespace RelayManager

def new (uuidText : UuidText) (historyPerStream : Nat)
    (historyBounds : 32 ≤ historyPerStream ∧ historyPerStream ≤ 4096) : RelayManager where
  http := ⟨uuidText, ∅, ∅, historyPerStream, historyBounds⟩
  pipelines := ∅
  activeSession := none

variable (self : RelayManager)

/-- Both ways to leave a session forget its streams and histories. -/
def forget : RelayManager :=
  { self with
    http := { self.http with streams := ∅, histories := ∅ }
    pipelines := ∅ }

def resetSession (sessionId : Uuid) (cleared : Bool) : Except RelayError Unit × RelayManager :=
  if self.activeSession = some sessionId then (.ok (), self)
  else if cleared then (.ok (), { self.forget with activeSession := some sessionId })
  else (.error .disk, self.forget)

def clearActiveSession : RelayManager :=
  { self.forget with activeSession := none }

/-- A frame goes into a pipeline that is running. -/
def pushFrame (sessionId : Uuid) (media : FrameMedia) (frame : FrameReference)
    (pipeline : HlsPipeline) : RelayManager :=
  let session := self.http.uuidText.hyphenated sessionId
  let key := cameraKey frame.cameraId
  if media.takes then
    { self with
      pipelines := self.pipelines.insert key (pipeline.push frame).2
      http := {
        self.http with
        streams := self.http.streams.insert (streamKey session key)
          (streamInfo session frame media.playlistReady) } }
  else { self with pipelines := self.pipelines.erase key }

/-- One turn of the loop over the frames. A pipeline of another epoch is
replaced. -/
def relayFrame (sessionId : Uuid) (manifest : SessionManifestV1) (media : FrameMedia)
    (frame : FrameReference) : Except RelayError Unit × RelayManager :=
  if frame.encodedImage.isEmpty then (.ok (), self)
  else
    let key := cameraKey frame.cameraId
    match self.pipelines[key]?.filter (·.epoch = frame.streamEpoch) with
    | some pipeline => (.ok (), self.pushFrame sessionId media frame pipeline)
    | none =>
      if media.starts then
        (.ok (), self.pushFrame sessionId media frame
          { epoch := frame.streamEpoch, frameDurationNs := frameDuration manifest frame.cameraId })
      else (.error .pipeline, { self with pipelines := self.pipelines.erase key })

def relayFrames (sessionId : Uuid) (manifest : SessionManifestV1) (media : Nat → FrameMedia) :
    List (FrameReference × Nat) → RelayManager → Except RelayError Unit × RelayManager
  | [], self => (.ok (), self)
  | (frame, index) :: rest, self =>
    match self.relayFrame sessionId manifest (media index) frame with
    | (.error error, self) => (.error error, self)
    | (.ok (), self) => relayFrames sessionId manifest media rest self

/-! ## Steps -/

/-- `process_step` up to its loop over the events: the session, the frames,
and the events to publish. -/
def openStep (step : SynchronizedDatasetStep) (manifest : SessionManifestV1) (media : StepMedia) :
    Except RelayError (List FrameMetadataEvent) × RelayManager :=
  let uuidText := self.http.uuidText
  match Uuid.fromSlice step.sessionId with
  | none => (.error .session, self)
  | some sessionId =>
    match self.resetSession sessionId media.cleared with
    | (.error error, self) => (.error error, self)
    | (.ok (), self) =>
      match relayFrames sessionId manifest media.frame step.frames.zipIdx self with
      | (.error error, self) => (.error error, self)
      | (.ok (), self) => ((projectMetadata uuidText step manifest).mapError .projection, self)

end RelayManager

/-- The history of the event's stream takes the event and loses its oldest
ones if it has become too long. -/
def HttpState.append (self : HttpState) (event : FrameMetadataEvent) : HttpState :=
  let key := streamKey event.sessionId event.cameraKey
  { self with
    histories := self.histories.insert key
      (trim self.historyPerStream (self.histories[key]?.getD [] ++ [event])) }

def RelayManager.append (self : RelayManager) (event : FrameMetadataEvent) : RelayManager :=
  { self with http := self.http.append event }

/-- The events in the answer are those that were sent, in order. -/
def RelayManager.processStep (self : RelayManager) (step : SynchronizedDatasetStep)
    (manifest : SessionManifestV1) (media : StepMedia) :
    Except RelayError (List FrameMetadataEvent) × RelayManager :=
  match self.openStep step manifest media with
  | (.error error, self) => (.error error, self)
  | (.ok events, self) => (.ok events, events.foldl append self)

variable {step : SynchronizedDatasetStep} {manifest : SessionManifestV1}
  {events : List FrameMetadataEvent}

/-- Events that were opened are the projection of the step. -/
theorem RelayManager.openStep_events {self : RelayManager} {media : StepMedia}
    (h : (self.openStep step manifest media).1 = .ok events) :
    projectMetadata self.http.uuidText step manifest = .ok events := by
  unfold openStep at h
  split at h
  · cases h
  · split at h
    · cases h
    · split at h
      · cases h
      · exact mapError_eq_ok.mp h

theorem RelayManager.processStep_events {self : RelayManager} {media : StepMedia}
    (h : (self.processStep step manifest media).1 = .ok events) :
    projectMetadata self.http.uuidText step manifest = .ok events := by
  unfold processStep at h
  split at h
  · cases h
  · rename_i hopen
    cases h
    exact openStep_events (congrArg Prod.fst hopen)

/-! ## Keys -/

theorem not_mem_ascii_hexDigits (bytes : List UInt8) : '/' ∉ Text.ascii (Text.hexDigits bytes) := by
  intro hmem
  obtain ⟨byte, hbyte, hchar⟩ := List.mem_map.mp hmem
  obtain ⟨digit, hdigit, rfl⟩ := Text.mem_hexDigits hbyte
  have hall : ∀ digit < 16, Char.ofUInt8 (Text.lowerHex digit) ≠ '/' := by decide
  exact hall digit hdigit hchar

theorem not_mem_cameraKey (cameraId : String) : '/' ∉ cameraKey cameraId :=
  not_mem_ascii_hexDigits _

theorem not_mem_hyphenated (uuidText : UuidText) (id : Uuid) : '/' ∉ uuidText.hyphenated id := by
  intro hmem
  rcases uuidText.mem_hyphenated _ _ hmem with hhyphen | hdigit
  · exact absurd hhyphen (by decide)
  · exact absurd hdigit (by decide)

/-- A key without further slashes has only one reading. -/
theorem streamKey_inj {session camera session' camera' : List Char} (hsession : '/' ∉ session)
    (hcamera : '/' ∉ camera) :
    streamKey session camera = streamKey session' camera' ↔
      session = session' ∧ camera = camera' := by
  rw [streamKey, streamKey, List.append_cons_inj_of_notMem hsession hcamera]
  simp

/-! ## Histories -/

namespace RelayManager

theorem pushFrame_histories (self : RelayManager) (sessionId : Uuid) (media : FrameMedia)
    (frame : FrameReference) (pipeline : HlsPipeline) :
    (self.pushFrame sessionId media frame pipeline).http.histories = self.http.histories := by
  unfold pushFrame
  split
  · rfl
  · rfl

theorem relayFrame_histories (self : RelayManager) (sessionId : Uuid)
    (manifest : SessionManifestV1) (media : FrameMedia) (frame : FrameReference) :
    (self.relayFrame sessionId manifest media frame).2.http.histories = self.http.histories := by
  unfold relayFrame
  split
  · rfl
  · dsimp only
    split
    · exact pushFrame_histories self sessionId media frame _
    · split
      · exact pushFrame_histories self sessionId media frame _
      · rfl

theorem relayFrames_histories (sessionId : Uuid) (manifest : SessionManifestV1)
    (media : Nat → FrameMedia) (frames : List (FrameReference × Nat)) (self : RelayManager) :
    (relayFrames sessionId manifest media frames self).2.http.histories = self.http.histories := by
  induction frames generalizing self with
  | nil => rfl
  | cons indexed rest ih =>
    obtain ⟨frame, index⟩ := indexed
    have hframe := self.relayFrame_histories sessionId manifest (media index) frame
    rw [relayFrames]
    split
    · rename_i hfailed
      rw [hfailed] at hframe
      exact hframe
    · rename_i hpassed
      rw [hpassed] at hframe
      exact (ih _).trans hframe

/-- A step of the active session does not touch the histories until its
events are published. -/
theorem openStep_histories {self : RelayManager} {step : SynchronizedDatasetStep}
    (manifest : SessionManifestV1) (media : StepMedia)
    (hactive : ∀ sessionId ∈ Uuid.fromSlice step.sessionId,
      self.activeSession = some sessionId) :
    (self.openStep step manifest media).2.http.histories = self.http.histories := by
  unfold openStep
  split
  · rfl
  · rename_i sessionId hsession
    have hreset : self.resetSession sessionId media.cleared = (.ok (), self) :=
      if_pos (hactive sessionId hsession)
    simp only [hreset]
    have hframes := relayFrames_histories sessionId manifest media.frame step.frames.zipIdx self
    split
    · rename_i hfailed
      rw [hfailed] at hframes
      exact hframes
    · rename_i hpassed
      rw [hpassed] at hframes
      exact hframes

end RelayManager

/-- The events of a step have slash-free keys. -/
theorem not_mem_of_projectMetadata {uuidText : UuidText}
    (h : projectMetadata uuidText step manifest = .ok events) :
    ∀ event ∈ events, '/' ∉ event.sessionId ∧ '/' ∉ event.cameraKey := by
  obtain ⟨sessionId, context, packet, namedFeatures, _, _, _, rfl⟩ := projectMetadata_eq_ok h
  intro event hevent
  obtain ⟨frame, _, rfl⟩ := List.mem_map.mp hevent
  exact ⟨not_mem_hyphenated uuidText sessionId, not_mem_cameraKey frame.cameraId⟩

def FrameMetadataEvent.OfStream (event : FrameMetadataEvent) (session camera : List Char) : Prop :=
  event.sessionId = session ∧ event.cameraKey = camera

instance (event : FrameMetadataEvent) (session camera : List Char) :
    Decidable (event.OfStream session camera) := inferInstanceAs (Decidable (_ ∧ _))

/-- What is kept of a stream. -/
def HttpState.history (self : HttpState) (session camera : List Char) : List FrameMetadataEvent :=
  self.histories[streamKey session camera]?.getD []

theorem HttpState.history_congr {first second : HttpState} (h : first.histories = second.histories)
    (session camera : List Char) : first.history session camera = second.history session camera := by
  rw [history, history, h]

/-- Appending reaches the history of the event's own stream. -/
theorem HttpState.history_append (self : HttpState) {event : FrameMetadataEvent}
    (session camera : List Char) (hsession : '/' ∉ event.sessionId)
    (hcamera : '/' ∉ event.cameraKey) :
    (self.append event).history session camera =
      if event.OfStream session camera then
        trim self.historyPerStream (self.history session camera ++ [event])
      else self.history session camera := by
  show ((self.histories.insert _ _)[streamKey session camera]?).getD [] = _
  by_cases hstream : event.OfStream session camera
  · rw [if_pos hstream]
    obtain ⟨rfl, rfl⟩ := hstream
    rw [ExtTreeMap.getElem?_insert_self]
    rfl
  · have hother : compare (streamKey event.sessionId event.cameraKey) (streamKey session camera) ≠
        .eq := by
      rw [Ne, Std.LawfulEqOrd.compare_eq_iff_eq, streamKey_inj hsession hcamera]
      exact hstream
    rw [if_neg hstream, ExtTreeMap.getElem?_insert, if_neg hother]
    rfl

end RobotMulticam.Relay
