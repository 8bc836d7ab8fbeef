import RobotMulticam.Receiver.Selection

/-!
# What steps consume

`anchor_step` takes frames out of the queues camera by camera, before it
knows whether the later cameras have one. A step that fails may therefore
have consumed frames, and a queue that a step emptied no longer remembers
what was in it.
-/

namespace RobotMulticam.Receiver

open RobotMulticam.Lib
open RobotMulticam.Protocol
open Std (ExtTreeMap)

namespace StepSynchronizer

variable {externals : Externals} {limit : Nat}

/-! ## Failed steps -/

variable {anchor : StoredFrame} {included : Bool} {cameras : List CameraDescriptorV1}
  {queues after : ExtTreeMap String (List StoredFrame)} {frames : List FrameReference}
  {self : StepSynchronizer} {step : SynchronizedDatasetStep}

/-- A loop that fails leaves the queues alone exactly when the first camera
already had no frame to take. -/
theorem collectFrames_keeps_iff {maxSkewNs : UInt64} {camera : CameraDescriptorV1}
    {error : SynchronizeError}
    (h : collectFrames maxSkewNs anchor included (camera :: cameras) queues frames =
      (Except.error error, after)) :
    (∀ id : String, after[id]? = queues[id]?) ↔
      ∀ queue : List StoredFrame, queues[camera.stableCameraId]? = some queue →
        ∀ frame ∈ queue, maxSkewNs.toNat < (skewOf anchor.captureTimeEdgeNs frame).natAbs := by
  cases hqueue : queues[camera.stableCameraId]? with
  | none =>
    rw [StepSynchronizer.collectFrames] at h
    simp only [hqueue] at h
    cases h
    refine iff_of_true (fun _ => rfl) ?_
    intro found hfound
    cases hfound
  | some queue =>
    rw [StepSynchronizer.collectFrames] at h
    simp only [hqueue] at h
    constructor
    · -- what the first camera loses is not given back
      intro hsame found hfound
      cases hfound
      by_contra hclose
      have hshorter := takeNearest_shorter hclose
      have hlast : after[camera.stableCameraId]? = some queue := (hsame _).trans hqueue
      split at h
      · rename_i refused rest htake
        rw [htake] at hshorter
        cases h
        rw [getElem?_insert_queue, if_pos rfl] at hlast
        cases hlast
        exact absurd hshorter (Nat.lt_irrefl _)
      · rename_i selected skew rest htake
        rw [htake] at hshorter
        obtain ⟨first, hfirst, hkept⟩ := collectFrames_sublist h _ _ hlast
        rw [getElem?_insert_queue, if_pos rfl] at hfirst
        cases hfirst
        exact absurd hkept.length_le (Nat.not_le.mpr hshorter)
    · intro hfar id
      rw [takeNearest_refused (hfar queue rfl)] at h
      cases h
      rw [getElem?_insert_queue]
      split
      · rename_i hid
        rw [← hid, hqueue]
      · rfl

/-- **Failed steps.** A failing `anchor_step` leaves every queue as it was
exactly when it fails before the loop over the cameras or at the first of
them for want of a frame within the tolerance. -/
theorem failed_step_keeps_queues_iff (externals : Externals) (self : StepSynchronizer)
    (anchor : StoredFrame) (contextPacketBytes : List UInt8) (included : Bool)
    (error : SynchronizeError)
    (h : (self.anchorStep externals anchor contextPacketBytes included).1 = .error error) :
    (∀ id : String,
      (self.anchorStep externals anchor contextPacketBytes included).2.queues[id]? =
        self.queues[id]?) ↔
    (ContextAccepted externals self anchor contextPacketBytes →
      ∀ camera ∈ (otherCameras self.manifest).head?, ∀ queue : List StoredFrame,
        self.queues[camera.stableCameraId]? = some queue →
          ∀ frame ∈ queue,
            self.maxSkewNs.toNat < (skewOf anchor.captureTimeEdgeNs frame).natAbs) := by
  by_cases hcontext : ContextAccepted externals self anchor contextPacketBytes
  · obtain ⟨outcome, queues, hcollect, hnext, _, hok⟩ := anchorStep_of_accepted included hcontext
    rw [hnext]
    simp only [hcontext, true_implies]
    cases hcameras : otherCameras self.manifest with
    | nil =>
      -- without other cameras the call does not fail
      rw [hcameras] at hcollect
      cases hcollect
      obtain ⟨step, hstep, _⟩ := hok _ rfl
      rw [hstep] at h
      cases h
    | cons camera cameras =>
      rw [hcameras] at hcollect
      cases outcome with
      | error refused => simpa using collectFrames_keeps_iff hcollect
      | ok frames =>
        obtain ⟨step, hstep, _⟩ := hok frames rfl
        rw [hstep] at h
        cases h
  · rw [anchorStep_of_refused included hcontext]
    exact iff_of_true (fun _ => rfl) fun haccepted => absurd haccepted hcontext

def threeCameraManifest : SessionManifestV1 :=
  cellManifest [anchorCamera, sideCamera, cellCamera "top" 2 cameraRoleSecondary]

def threeCameraExternals : Externals := cellExternals [contextFor threeCameraManifest 0] []

/-- An anchor step at 100 ns in the cell with three cameras. -/
def threeCameraStep (calls : List Call) :
    Except SynchronizeError SynchronizedDatasetStep × StepSynchronizer :=
  (run (perform threeCameraExternals) (cellSynchronizer threeCameraManifest) calls).anchorStep
    threeCameraExternals (cellFrame "anchor" 100 0)
    (packetOf (contextFor threeCameraManifest 0)).encode false

theorem failed_step_keeps_queues_iff_first :
    (threeCameraStep [.pushSecondary (cellFrame "top" 100 0)]).1 = .error .missingCamera ∧
    ∀ id : String, (threeCameraStep [.pushSecondary (cellFrame "top" 100 0)]).2.queues[id]? =
      (run (perform threeCameraExternals) (cellSynchronizer threeCameraManifest)
        [.pushSecondary (cellFrame "top" 100 0)]).queues[id]? := by
  have hfailed : (threeCameraStep [.pushSecondary (cellFrame "top" 100 0)]).1 =
      .error .missingCamera := by
    decide +kernel
  refine ⟨hfailed, (failed_step_keeps_queues_iff _ _ _ _ _ _ hfailed).mpr ?_⟩
  intro _
  have hfar : ∀ camera ∈ (otherCameras threeCameraManifest).head?,
      (run (perform threeCameraExternals) (cellSynchronizer threeCameraManifest)
        [.pushSecondary (cellFrame "top" 100 0)]).queues[camera.stableCameraId]? = some [] := by
    decide +kernel
  intro camera hcamera queue hqueue
  cases (hfar camera hcamera).symm.trans hqueue
  exact nofun

/-- The side camera's frame is taken before the top camera turns out to have
none. -/
theorem failed_step_takes_frame :
    (threeCameraStep [.pushSecondary (cellFrame "side" 100 0)]).1 = .error .missingCamera ∧
    (run (perform threeCameraExternals) (cellSynchronizer threeCameraManifest)
      [.pushSecondary (cellFrame "side" 100 0)]).queues["side"]? =
        some [cellFrame "side" 100 0] ∧
    (threeCameraStep [.pushSecondary (cellFrame "side" 100 0)]).2.queues["side"]? = some [] := by
  decide +kernel

/-! ## Frames used once -/

/-- What a loop over arbitrary cameras takes: frames of the queues, each older
than everything its camera has left. -/
theorem collectFrames_used {maxSkewNs : UInt64} {collected : List FrameReference}
    (hqueues : EachQueue (QueueKept limit) queues)
    (h : collectFrames maxSkewNs anchor included cameras queues frames =
      (Except.ok collected, after)) :
    ∀ found ∈ collected, found ∈ frames ∨
      (∃ (queue : List StoredFrame) (selected : StoredFrame),
        queues[found.cameraId]? = some queue ∧ selected ∈ queue ∧
        selected.captureTimeEdgeNs = found.captureTimeEdgeNs) ∧
      ∀ rest : List StoredFrame, after[found.cameraId]? = some rest →
        ∀ frame ∈ rest, found.captureTimeEdgeNs < frame.captureTimeEdgeNs := by
  induction cameras generalizing queues frames with
  | nil =>
    cases h
    exact fun found hfound => Or.inl hfound
  | cons camera cameras ih =>
    obtain ⟨queue, selected, skew, rest, hqueue, htake, h⟩ := collectFrames_cons_eq_ok h
    have hkept := hqueues _ queue hqueue
    obtain ⟨_, hpicked⟩ := takeNearest_eq_ok hkept.ordered htake
    obtain ⟨before, rfl, _⟩ := hpicked.split
    have hrest : rest.Sublist (before ++ selected :: rest) :=
      (List.sublist_cons_self selected rest).trans (List.sublist_append_right before _)
    have hinsert := hqueues.insert (hkept.sublist hrest)
    intro found hfound
    rcases ih hinsert h found hfound with hmem | ⟨⟨held, other, hheld, hother, htime⟩, hleft⟩
    · rcases List.mem_append.mp hmem with hold | hnew
      · exact Or.inl hold
      · rw [List.mem_singleton.mp hnew]
        have hown : selected.cameraId = camera.stableCameraId :=
          hkept.own selected (by simp)
        refine Or.inr ⟨⟨_, selected, hown ▸ hqueue, by simp, rfl⟩, ?_⟩
        intro left hleft frame hframe
        obtain ⟨first, hfirst, hsub⟩ := collectFrames_sublist h _ _ hleft
        rw [show (reference selected skew included).cameraId = camera.stableCameraId
          from hown, getElem?_insert_queue, if_pos rfl] at hfirst
        cases hfirst
        exact (List.rel_of_pairwise_cons (List.pairwise_append.mp hkept.ordered).2.1
          (hsub.subset hframe)).1
    · refine Or.inr ⟨?_, hleft⟩
      rw [getElem?_insert_queue] at hheld
      split at hheld
      · rename_i hid
        cases hheld
        exact ⟨_, other, hid ▸ hqueue, hrest.subset hother, htime⟩
      · exact ⟨held, other, hheld, hother, htime⟩

/-- A synchronizer with the steps it has returned so far. -/
structure StepHistory where
  synchronizer : StepSynchronizer
  steps : List SynchronizedDatasetStep

/-- The step a call returns, if it returns one. -/
def returned (externals : Externals) (self : StepSynchronizer) :
    Call → Option SynchronizedDatasetStep
  | .pushSecondary _ => none
  | .anchorStep anchor packet included =>
    (self.anchorStep externals anchor packet included).1.toOption

theorem returned_eq_some {call : Call} (h : self.returned externals call = some step) :
    ∃ anchor packet included, call = .anchorStep anchor packet included ∧
      (self.anchorStep externals anchor packet included).1 = .ok step := by
  cases call with
  | pushSecondary frame => cases h
  | anchorStep anchor packet included =>
    exact ⟨anchor, packet, included, rfl, toOption_eq_some.mp h⟩

def StepHistory.perform (externals : Externals) (recorded : StepHistory) (call : Call) :
    StepHistory :=
  ⟨recorded.synchronizer.perform externals call,
    recorded.steps ++ (recorded.synchronizer.returned externals call).toList⟩

/-- `used` is a frame of camera `id` in a returned step, the anchor apart. -/
def StepHistory.Uses (recorded : StepHistory) (id : String) (used : FrameReference) : Prop :=
  ∃ step ∈ recorded.steps, used ∈ step.frames ∧ used.cameraId = id ∧
    id ≠ recorded.synchronizer.manifest.anchorCameraId

/-- Of two returned steps, the later one has only newer frames of each camera
but the anchor. -/
def StepHistory.UsesOnce (recorded : StepHistory) : Prop :=
  recorded.steps.Pairwise fun earlier later =>
    ∀ used ∈ earlier.frames, ∀ again ∈ later.frames, used.cameraId = again.cameraId →
      used.cameraId ≠ recorded.synchronizer.manifest.anchorCameraId →
        used.captureTimeEdgeNs < again.captureTimeEdgeNs

/-- A frame pushed while its camera's queue is empty is newer than the frames
of that camera already used. -/
def StepHistory.PushesNewer (recorded : StepHistory) : Call → Prop
  | .pushSecondary frame =>
    frame.cameraId ≠ recorded.synchronizer.manifest.anchorCameraId →
      recorded.synchronizer.queues[frame.cameraId]? = some [] →
      ∀ step ∈ recorded.steps, ∀ used ∈ step.frames, used.cameraId = frame.cameraId →
        used.captureTimeEdgeNs < frame.captureTimeEdgeNs
  | .anchorStep _ _ _ => True

instance (recorded : StepHistory) : ∀ call, Decidable (recorded.PushesNewer call)
  | .pushSecondary frame => inferInstanceAs (Decidable
      (frame.cameraId ≠ recorded.synchronizer.manifest.anchorCameraId →
        recorded.synchronizer.queues[frame.cameraId]? = some [] →
        ∀ step ∈ recorded.steps, ∀ used ∈ step.frames, used.cameraId = frame.cameraId →
          used.captureTimeEdgeNs < frame.captureTimeEdgeNs))
  | .anchorStep _ _ _ => isTrue trivial

instance (recorded : StepHistory) : Decidable recorded.UsesOnce :=
  inferInstanceAs (Decidable (recorded.steps.Pairwise fun earlier later =>
    ∀ used ∈ earlier.frames, ∀ again ∈ later.frames, used.cameraId = again.cameraId →
      used.cameraId ≠ recorded.synchronizer.manifest.anchorCameraId →
        used.captureTimeEdgeNs < again.captureTimeEdgeNs))

/-- Everything queued is newer than what was used. -/
structure StepHistory.Unused (limit : Nat) (recorded : StepHistory) : Prop where
  kept : Kept recorded.synchronizer.manifest limit recorded.synchronizer.maxSkewNs
    recorded.synchronizer
  newer : ∀ (id : String) (queue : List StoredFrame),
    recorded.synchronizer.queues[id]? = some queue → ∀ frame ∈ queue, ∀ used,
      recorded.Uses id used → used.captureTimeEdgeNs < frame.captureTimeEdgeNs
  once : recorded.UsesOnce

/-- A push keeps everything queued newer than what was used: behind a queued
frame the guard sees to it, in an empty queue the condition. -/
theorem StepHistory.newer_push {recorded : StepHistory} {next : StepSynchronizer}
    {frame : StoredFrame} (h : recorded.Unused limit)
    (hcond : recorded.PushesNewer (.pushSecondary frame))
    (hpush : recorded.synchronizer.pushSecondary frame = .ok next)
    (id : String) (queue : List StoredFrame) (hqueue : next.queues[id]? = some queue)
    (other : StoredFrame) (hother : other ∈ queue) (used : FrameReference)
    (hused : recorded.Uses id used) :
    used.captureTimeEdgeNs < other.captureTimeEdgeNs := by
  obtain ⟨held, hheld, hsecondary, hlast, rfl⟩ := pushSecondary_inv hpush
  rw [getElem?_insert_queue] at hqueue
  split at hqueue
  · rename_i hid
    subst hid
    cases hqueue
    rcases List.mem_append.mp hother with hmem | hmem
    · refine h.newer _ held hheld other ?_ used hused
      split at hmem
      · exact List.mem_of_mem_tail hmem
      · exact hmem
    · rw [List.mem_singleton.mp hmem]
      cases hempty : held.getLast? with
      | none =>
        rw [List.getLast?_eq_none_iff] at hempty
        subst hempty
        obtain ⟨step, hstep, hframes, hid, _⟩ := hused
        exact hcond hsecondary hheld step hstep used hframes hid
      | some last =>
        have hbefore := h.newer _ held hheld last (List.mem_of_getLast? hempty) used hused
        exact UInt64.lt_trans hbefore (hlast last hempty).1
  · exact h.newer id queue hqueue other hother used hused

/-- The frames of a returned step: the anchor's own, or one that was queued
and is older than what its camera has left. -/
theorem frames_of_anchorStep {packet : List UInt8}
    (hqueues : EachQueue (QueueKept limit) self.queues)
    (h : (self.anchorStep externals anchor packet included).1 = .ok step) :
    ∀ found ∈ step.frames, found.cameraId ≠ self.manifest.anchorCameraId →
      (∃ (queue : List StoredFrame) (selected : StoredFrame),
        self.queues[found.cameraId]? = some queue ∧ selected ∈ queue ∧
        selected.captureTimeEdgeNs = found.captureTimeEdgeNs) ∧
      ∀ rest : List StoredFrame,
        (self.anchorStep externals anchor packet included).2.queues[found.cameraId]? =
            some rest →
          ∀ frame ∈ rest, found.captureTimeEdgeNs < frame.captureTimeEdgeNs := by
  obtain ⟨hanchor, frames, queues, hcollect, hnext, hsorted⟩ := anchorStep_eq_ok h
  intro found hfound hother
  rw [hsorted, List.mem_insertionSort] at hfound
  rw [hnext]
  rcases collectFrames_used hqueues hcollect found hfound with hmem | hused
  · rw [List.mem_singleton.mp hmem] at hother
    exact absurd hanchor hother
  · exact hused

/-- Whatever `anchor_step` returns, queues only lose frames. -/
theorem anchorStep_sublist {packet : List UInt8} {id : String} {left : List StoredFrame}
    (h : (self.anchorStep externals anchor packet included).2.queues[id]? = some left) :
    ∃ queue, self.queues[id]? = some queue ∧ left.Sublist queue := by
  by_cases hcontext : ContextAccepted externals self anchor packet
  · obtain ⟨outcome, queues, hcollect, hnext, _⟩ := anchorStep_of_accepted included hcontext
    rw [hnext] at h
    exact collectFrames_sublist hcollect _ _ h
  · rw [anchorStep_of_refused included hcontext] at h
    exact ⟨left, h, List.Sublist.refl left⟩

theorem StepHistory.unused_perform (hlimit : limit ≠ 0) (recorded : StepHistory) (call : Call)
    (h : recorded.Unused limit) (hcond : recorded.PushesNewer call) :
    (recorded.perform externals call).Unused limit := by
  have hkept : Kept recorded.synchronizer.manifest limit recorded.synchronizer.maxSkewNs
      (recorded.synchronizer.perform externals call) :=
    kept_perform hlimit recorded.synchronizer call h.kept
  have hsame : Kept (recorded.perform externals call).synchronizer.manifest limit
      (recorded.perform externals call).synchronizer.maxSkewNs
      (recorded.perform externals call).synchronizer :=
    ⟨rfl, hkept.sameLimit, rfl, hkept.queues⟩
  have hmanifest : (recorded.perform externals call).synchronizer.manifest =
      recorded.synchronizer.manifest := hkept.sameManifest
  refine ⟨hsame, ?_, ?_⟩
  · intro id queue hqueue frame hframe used hused
    obtain ⟨step, hstep, hmem, hid, hother⟩ := hused
    rw [hmanifest] at hother
    rcases List.mem_append.mp hstep with hold | hnew
    · have hused : recorded.Uses id used := ⟨step, hold, hmem, hid, hother⟩
      cases call with
      | pushSecondary pushed =>
        cases hpush : recorded.synchronizer.pushSecondary pushed with
        | error error =>
          simp only [StepHistory.perform, StepSynchronizer.perform, hpush] at hqueue
          exact h.newer id queue hqueue frame hframe used hused
        | ok next =>
          simp only [StepHistory.perform, StepSynchronizer.perform, hpush] at hqueue
          exact StepHistory.newer_push h hcond hpush id queue hqueue frame hframe used hused
      | anchorStep anchor packet included =>
        obtain ⟨held, hheld, hsub⟩ := anchorStep_sublist hqueue
        exact h.newer id held hheld frame (hsub.subset hframe) used hused
    · obtain ⟨anchor, packet, included, rfl, hreturned⟩ := returned_eq_some (by simpa using hnew)
      subst hid
      exact (frames_of_anchorStep h.kept.queues hreturned used hmem hother).2 queue hqueue frame
        hframe
  · unfold StepHistory.UsesOnce
    rw [hmanifest]
    refine List.pairwise_append.mpr ⟨h.once, ?_, ?_⟩
    · cases recorded.synchronizer.returned externals call with
      | none => exact List.Pairwise.nil
      | some step => exact List.pairwise_singleton _ _
    · intro earlier hearlier later hlater used hused again hagain hid hother
      obtain ⟨anchor, packet, included, rfl, hreturned⟩ :=
        returned_eq_some (by simpa using hlater)
      obtain ⟨⟨queue, selected, hqueue, hselected, htime⟩, _⟩ :=
        frames_of_anchorStep h.kept.queues hreturned again hagain (hid ▸ hother)
      rw [← htime]
      exact h.newer _ queue hqueue selected hselected used
        ⟨earlier, hearlier, hused, hid, hid ▸ hother⟩

/-- **Frames used once.** In every run whose pushes into empty queues are newer
than what was used of their camera, the capture times of each secondary
camera strictly increase from step to step. -/
theorem secondary_frames_used_once (externals : Externals) (manifest : SessionManifestV1)
    (maxFramesPerCamera : Nat) (maxSkewNs : UInt64) (synchronizer : StepSynchronizer)
    (hnew : StepSynchronizer.new manifest maxFramesPerCamera maxSkewNs = .ok synchronizer)
    (calls : List Call)
    (hmeets : Meets (StepHistory.perform externals) StepHistory.PushesNewer ⟨synchronizer, []⟩
      calls) :
    (run (StepHistory.perform externals) ⟨synchronizer, []⟩ calls).UsesOnce := by
  obtain ⟨hlimit, hkept⟩ := kept_new hnew
  have hstart : StepHistory.Unused maxFramesPerCamera ⟨synchronizer, []⟩ := by
    refine ⟨⟨rfl, hkept.sameLimit, rfl, hkept.queues⟩, ?_, List.Pairwise.nil⟩
    rintro id queue hqueue frame hframe used ⟨step, hstep, _⟩
    cases hstep
  exact (run_invariant (StepHistory.unused_perform hlimit) hstart hmeets).once

/-- Two anchor frames at 100 ns and 104 ns; before each, a frame of the side
camera. -/
def twoSteps (first second : StoredFrame) : List Call :=
  [.pushSecondary first,
    .anchorStep (cellFrame "anchor" 100 0) (packetOf (contextFor twoCameraManifest 0)).encode false,
    .pushSecondary second,
    .anchorStep (cellFrame "anchor" 104 1) (packetOf (contextFor twoCameraManifest 1)).encode false]

def twoStepsExternals : Externals :=
  cellExternals [contextFor twoCameraManifest 0, contextFor twoCameraManifest 1] []

/-- The capture times of the side camera in the steps of the run. -/
def twoStepsTimes (first second : StoredFrame) : List (List UInt64) :=
  (run (StepHistory.perform twoStepsExternals) ⟨cellSynchronizer twoCameraManifest, []⟩
    (twoSteps first second)).steps.map fun step =>
      (step.frames.filter (·.cameraId = "side")).map (·.captureTimeEdgeNs)

theorem secondary_frames_used_once_newer :
    twoStepsTimes (cellFrame "side" 101 0) (cellFrame "side" 105 1) = [[101], [105]] ∧
    (run (StepHistory.perform twoStepsExternals) ⟨cellSynchronizer twoCameraManifest, []⟩
      (twoSteps (cellFrame "side" 101 0) (cellFrame "side" 105 1))).UsesOnce :=
  ⟨by decide +kernel, secondary_frames_used_once twoStepsExternals twoCameraManifest 4 20
    (cellSynchronizer twoCameraManifest) (eq_ok_of_isSome _) _ (by decide +kernel)⟩

/-- The frame is used, pushed again into the empty queue, and used again. -/
theorem secondary_frame_used_twice :
    twoStepsTimes (cellFrame "side" 105 0) (cellFrame "side" 105 0) = [[105], [105]] ∧
    ¬ (run (StepHistory.perform twoStepsExternals) ⟨cellSynchronizer twoCameraManifest, []⟩
      (twoSteps (cellFrame "side" 105 0) (cellFrame "side" 105 0))).UsesOnce := by
  decide +kernel

end StepSynchronizer

end RobotMulticam.Receiver
