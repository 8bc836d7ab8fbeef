import RobotMulticam.Lib.Ring
import RobotMulticam.Receiver.Steps

/-!
# Which frames a step is made of

The queues of a `StepSynchronizer` stay short and ordered along every run of
`push_secondary` and `anchor_step`, and the frame `anchor_step` takes from a
queue is the first of those nearest to the anchor; what stays in the queue
is what followed it.

Everything about a call goes through one relation on a single queue,
`Picked`, which `takeNearest` establishes for ordered queues.
-/

namespace RobotMulticam.Receiver

open RobotMulticam.Lib
open RobotMulticam.Protocol
open RobotMulticam.Codec
open Std (ExtTreeMap)

/-! ## One queue -/

/-- The signed distance of a frame from the anchor, in nanoseconds. -/
def skewOf (anchorTimeNs : UInt64) (frame : StoredFrame) : Int :=
  (frame.captureTimeEdgeNs.toNat : Int) - anchorTimeNs.toNat

/-- Strictly increasing in capture time and in ordinal. -/
def Ordered (queue : List StoredFrame) : Prop :=
  queue.Pairwise fun earlier later =>
    earlier.captureTimeEdgeNs < later.captureTimeEdgeNs ∧
      earlier.accessUnitOrdinal < later.accessUnitOrdinal

/-- `selected` is the first of the frames of the queue nearest to the anchor
and is within the tolerance; `rest` are the frames that follow it. -/
structure Picked (maxSkewNs anchorTimeNs : UInt64) (queue : List StoredFrame)
    (selected : StoredFrame) (rest : List StoredFrame) : Prop where
  split : ∃ before, queue = before ++ selected :: rest ∧
    ∀ frame ∈ before, (skewOf anchorTimeNs selected).natAbs < (skewOf anchorTimeNs frame).natAbs
  nearest : ∀ frame ∈ queue,
    (skewOf anchorTimeNs selected).natAbs ≤ (skewOf anchorTimeNs frame).natAbs
  tolerance : (skewOf anchorTimeNs selected).natAbs ≤ maxSkewNs.toNat

variable {anchorTimeNs maxSkewNs : UInt64} {queue : List StoredFrame} {skew : Int}

/-- The first frame of a queue is chosen as long as it is alone. -/
theorem nearest_concat_of_none (h : nearest anchorTimeNs queue = none) (frame : StoredFrame) :
    nearest anchorTimeNs (queue ++ [frame]) =
      some (queue.length, skewOf anchorTimeNs frame) := by
  unfold nearest at h ⊢
  rw [List.zipIdx_append, List.map_append, List.foldl_append, h]
  simp [skewOf]

/-- One more frame at the back is chosen only if it is strictly nearer. -/
theorem nearest_concat_of_some {index : Nat} (h : nearest anchorTimeNs queue = some (index, skew))
    (frame : StoredFrame) :
    nearest anchorTimeNs (queue ++ [frame]) =
      if (skewOf anchorTimeNs frame).natAbs < skew.natAbs then
        some (queue.length, skewOf anchorTimeNs frame)
      else some (index, skew) := by
  unfold nearest at h ⊢
  rw [List.zipIdx_append, List.map_append, List.foldl_append, h]
  simp only [List.zipIdx_singleton, List.map_cons, List.map_nil, List.foldl_cons, List.foldl_nil,
    Nat.zero_add]
  rfl

theorem nearest_eq_none : nearest anchorTimeNs queue = none ↔ queue = [] := by
  induction queue using List.reverseRecOn with
  | nil => simp [nearest]
  | append_singleton queue frame _ =>
    cases hheld : nearest anchorTimeNs queue with
    | none => simp [nearest_concat_of_none hheld]
    | some held =>
      rw [nearest_concat_of_some hheld]
      split <;> simp

/-- The index found is that of the first frame with the least distance. -/
theorem nearest_eq_some {index : Nat} (h : nearest anchorTimeNs queue = some (index, skew)) :
    ∃ before selected after, queue = before ++ selected :: after ∧ before.length = index ∧
      skew = skewOf anchorTimeNs selected ∧
      (∀ frame ∈ before, skew.natAbs < (skewOf anchorTimeNs frame).natAbs) ∧
      ∀ frame ∈ after, skew.natAbs ≤ (skewOf anchorTimeNs frame).natAbs := by
  -- frames arrive at the back, so the induction does too
  induction queue using List.reverseRecOn generalizing index skew with
  | nil => cases h
  | append_singleton queue frame ih =>
    cases hheld : nearest anchorTimeNs queue with
    | none =>
      rw [nearest_concat_of_none hheld] at h
      obtain ⟨rfl, rfl⟩ := Prod.mk.inj (Option.some.inj h)
      rw [nearest_eq_none] at hheld
      subst hheld
      exact ⟨[], frame, [], rfl, rfl, rfl, by simp, by simp⟩
    | some held =>
      obtain ⟨heldIndex, heldSkew⟩ := held
      rw [nearest_concat_of_some hheld] at h
      obtain ⟨before, selected, after, rfl, hindex, hskew, hbefore, hafter⟩ := ih hheld
      split at h
      · rename_i hnearer
        obtain ⟨rfl, rfl⟩ := Prod.mk.inj (Option.some.inj h)
        refine ⟨before ++ selected :: after, frame, [], rfl, rfl, rfl, ?_, by simp⟩
        intro other hother
        rcases List.mem_append.mp hother with hmem | hmem
        · exact hnearer.trans (hbefore other hmem)
        · rcases List.mem_cons.mp hmem with rfl | hmem
          · rw [← hskew]
            exact hnearer
          · exact hnearer.trans_le (hafter other hmem)
      · rename_i hfarther
        obtain ⟨rfl, rfl⟩ := Prod.mk.inj (Option.some.inj h)
        refine ⟨before, selected, after ++ [frame], by simp, hindex, hskew, hbefore, ?_⟩
        intro other hother
        rcases List.mem_append.mp hother with hmem | hmem
        · exact hafter other hmem
        · rw [List.mem_singleton.mp hmem]
          exact Nat.le_of_not_lt hfarther

/-- In an ordered queue, dropping from the front what is not newer than a
frame leaves what follows the frame. -/
theorem Ordered.dropWhile {before after : List StoredFrame} {selected : StoredFrame}
    (h : Ordered (before ++ selected :: after)) :
    (before ++ after).dropWhile (fun frame =>
      decide (frame.captureTimeEdgeNs ≤ selected.captureTimeEdgeNs)) = after := by
  obtain ⟨_, hafter, hacross⟩ := List.pairwise_append.mp h
  have hdropped : before.dropWhile (fun frame =>
      decide (frame.captureTimeEdgeNs ≤ selected.captureTimeEdgeNs)) = [] := by
    rw [List.dropWhile_eq_nil_iff]
    intro frame hframe
    simpa using UInt64.le_of_lt (hacross frame hframe selected List.mem_cons_self).1
  rw [List.dropWhile_append, hdropped]
  cases after with
  | nil => rfl
  | cons next after =>
    have hnewer := (List.rel_of_pairwise_cons hafter List.mem_cons_self).1
    simp [hnewer]

/-- A frame newer than the last one of an ordered queue is newer than all. -/
theorem Ordered.newer (h : Ordered queue) {frame : StoredFrame}
    (hlast : ∀ last ∈ queue.getLast?, last.captureTimeEdgeNs < frame.captureTimeEdgeNs ∧
      last.accessUnitOrdinal < frame.accessUnitOrdinal) :
    ∀ other ∈ queue, other.captureTimeEdgeNs < frame.captureTimeEdgeNs ∧
      other.accessUnitOrdinal < frame.accessUnitOrdinal := by
  refine rel_of_getLast? (fun first second third hfirst hsecond => ?_) h hlast
  exact ⟨UInt64.lt_trans hfirst.1 hsecond.1, UInt64.lt_trans hfirst.2 hsecond.2⟩

/-- What `takeNearest` does: it refuses a queue whose frames are all outside
the tolerance, or takes out the first of the nearest frames, with what is
not newer in front; the skew may still turn out not to fit its field. -/
theorem takeNearest_inv (maxSkewNs anchorTimeNs : UInt64) (queue : List StoredFrame) :
    ((∀ frame ∈ queue, maxSkewNs.toNat < (skewOf anchorTimeNs frame).natAbs) ∧
      takeNearest maxSkewNs anchorTimeNs queue = (.error .missingCamera, queue)) ∨
    ∃ before selected after, queue = before ++ selected :: after ∧
      (∀ frame ∈ before,
        (skewOf anchorTimeNs selected).natAbs < (skewOf anchorTimeNs frame).natAbs) ∧
      (∀ frame ∈ after,
        (skewOf anchorTimeNs selected).natAbs ≤ (skewOf anchorTimeNs frame).natAbs) ∧
      (skewOf anchorTimeNs selected).natAbs ≤ maxSkewNs.toNat ∧
      (takeNearest maxSkewNs anchorTimeNs queue).2 = (before ++ after).dropWhile (fun frame =>
        decide (frame.captureTimeEdgeNs ≤ selected.captureTimeEdgeNs)) ∧
      ∀ found skew, (takeNearest maxSkewNs anchorTimeNs queue).1 = .ok (found, skew) →
        found = selected ∧ skew = skewOf anchorTimeNs selected := by
  cases hnearest : nearest anchorTimeNs queue with
  | none =>
    rw [nearest_eq_none] at hnearest
    subst hnearest
    exact Or.inl ⟨nofun, rfl⟩
  | some chosen =>
    obtain ⟨index, skew⟩ := chosen
    obtain ⟨before, selected, after, rfl, hindex, rfl, hbefore, hafter⟩ :=
      nearest_eq_some hnearest
    unfold takeNearest
    simp only [hnearest]
    split
    · rename_i houtside
      refine Or.inl ⟨?_, rfl⟩
      intro frame hframe
      rcases List.mem_append.mp hframe with hmem | hmem
      · exact houtside.trans (hbefore frame hmem)
      · rcases List.mem_cons.mp hmem with rfl | hmem
        · exact houtside
        · exact houtside.trans_le (hafter frame hmem)
    · rename_i htolerance
      have hselected : (before ++ selected :: after)[index]? = some selected := by
        simp [← hindex]
      have herase : (before ++ selected :: after).eraseIdx index = before ++ after := by
        rw [← hindex, List.eraseIdx_append_of_length_le (Nat.le_refl _)]
        simp
      simp only [hselected, herase]
      refine Or.inr ⟨before, selected, after, rfl, hbefore, hafter,
        Nat.le_of_not_lt htolerance, ?_⟩
      split
      · refine ⟨rfl, ?_⟩
        intro found skew hfound
        cases hfound
        exact ⟨rfl, rfl⟩
      · exact ⟨rfl, nofun⟩

/-- Taking from an ordered queue leaves exactly what followed the frame. -/
theorem takeNearest_eq_ok {rest : List StoredFrame} {selected : StoredFrame}
    (hordered : Ordered queue)
    (h : takeNearest maxSkewNs anchorTimeNs queue = (.ok (selected, skew), rest)) :
    skew = skewOf anchorTimeNs selected ∧
      Picked maxSkewNs anchorTimeNs queue selected rest := by
  rcases takeNearest_inv maxSkewNs anchorTimeNs queue with
    ⟨_, hrefused⟩ | ⟨before, chosen, after, rfl, hbefore, hafter, htolerance, hrest, hfound⟩
  · rw [hrefused] at h
    cases h
  · rw [h] at hrest hfound
    obtain ⟨rfl, hskew⟩ := hfound selected skew rfl
    obtain rfl : rest = after := hrest.trans hordered.dropWhile
    refine ⟨hskew, ⟨before, rfl, hbefore⟩, ?_, htolerance⟩
    intro frame hframe
    rcases List.mem_append.mp hframe with hmem | hmem
    · exact Nat.le_of_lt (hbefore frame hmem)
    · rcases List.mem_cons.mp hmem with rfl | hmem
      · exact Nat.le_refl _
      · exact hafter frame hmem

/-- A queue with a frame within the tolerance loses one, even if
`anchor_step` then cannot represent the skew. -/
theorem takeNearest_shorter
    (h : ¬ ∀ frame ∈ queue, maxSkewNs.toNat < (skewOf anchorTimeNs frame).natAbs) :
    (takeNearest maxSkewNs anchorTimeNs queue).2.length < queue.length := by
  rcases takeNearest_inv maxSkewNs anchorTimeNs queue with
    ⟨hfar, _⟩ | ⟨before, chosen, after, rfl, _, _, _, hrest, _⟩
  · exact absurd hfar h
  · have hshort := (List.dropWhile_sublist (l := before ++ after) fun frame =>
      decide (frame.captureTimeEdgeNs ≤ chosen.captureTimeEdgeNs)).length_le
    rw [hrest]
    simp only [List.length_append, List.length_cons] at hshort ⊢
    omega

/-- A queue whose frames are all outside the tolerance is refused as it is. -/
theorem takeNearest_refused
    (h : ∀ frame ∈ queue, maxSkewNs.toNat < (skewOf anchorTimeNs frame).natAbs) :
    takeNearest maxSkewNs anchorTimeNs queue = (.error .missingCamera, queue) := by
  rcases takeNearest_inv maxSkewNs anchorTimeNs queue with
    ⟨_, hrefused⟩ | ⟨before, chosen, after, rfl, _, _, htolerance, _⟩
  · exact hrefused
  · exact absurd (h chosen (by simp)) (Nat.not_lt.mpr htolerance)

/-! ## The loop over the cameras -/

namespace StepSynchronizer

variable {anchor : StoredFrame} {included : Bool} {cameras : List CameraDescriptorV1}
  {queues after : ExtTreeMap String (List StoredFrame)} {frames collected : List FrameReference}
  {queue : List StoredFrame} {self : StepSynchronizer} {step : SynchronizedDatasetStep}

/-- What a camera has left when the loop ends is part of what it had. -/
theorem collectFrames_sublist {maxSkewNs : UInt64}
    {outcome : Except SynchronizeError (List FrameReference)}
    (h : collectFrames maxSkewNs anchor included cameras queues frames = (outcome, after)) :
    LosesFrames queues after := by
  have hloses := (collectFrames_cases maxSkewNs anchor included cameras queues frames).1
  rwa [h] at hloses

/-- A loop that succeeds takes a frame of the first camera and goes on. -/
theorem collectFrames_cons_eq_ok {maxSkewNs : UInt64} {camera : CameraDescriptorV1}
    (h : collectFrames maxSkewNs anchor included (camera :: cameras) queues frames =
      (Except.ok collected, after)) :
    ∃ queue selected skew rest, queues[camera.stableCameraId]? = some queue ∧
      takeNearest maxSkewNs anchor.captureTimeEdgeNs queue = (Except.ok (selected, skew), rest) ∧
      collectFrames maxSkewNs anchor included cameras (queues.insert camera.stableCameraId rest)
        (frames ++ [reference selected skew included]) = (Except.ok collected, after) := by
  rw [StepSynchronizer.collectFrames] at h
  split at h
  · cases h
  · rename_i queue hqueue
    split at h
    · cases h
    · rename_i selected skew rest htake
      exact ⟨queue, selected, skew, rest, hqueue, htake, h⟩

/-- What a loop that succeeds took: one frame from the queue of each camera,
in the order of the cameras, and nothing from other queues. The cameras are
distinct, so no queue is taken from twice. -/
theorem collectFrames_eq_ok {maxSkewNs : UInt64}
    (hordered : EachQueue (fun _ queue => Ordered queue) queues)
    (hdistinct : (cameras.map (·.stableCameraId)).Nodup)
    (h : collectFrames maxSkewNs anchor included cameras queues frames =
      (Except.ok collected, after)) :
    (∀ id, id ∉ cameras.map (·.stableCameraId) → after[id]? = queues[id]?) ∧
    ∃ chosen : List StoredFrame,
      collected = frames ++ chosen.map (fun selected =>
        reference selected (skewOf anchor.captureTimeEdgeNs selected) included) ∧
      List.Forall₂ (fun (camera : CameraDescriptorV1) selected => ∃ queue rest,
        queues[camera.stableCameraId]? = some queue ∧
        after[camera.stableCameraId]? = some rest ∧
        Picked maxSkewNs anchor.captureTimeEdgeNs queue selected rest) cameras chosen := by
  induction cameras generalizing queues frames with
  | nil =>
    cases h
    exact ⟨fun _ _ => rfl, [], by simp, .nil⟩
  | cons camera cameras ih =>
    rw [List.map_cons, List.nodup_cons] at hdistinct
    obtain ⟨queue, selected, skew, rest, hqueue, htake, h⟩ := collectFrames_cons_eq_ok h
    obtain ⟨rfl, hpicked⟩ := takeNearest_eq_ok (hordered _ queue hqueue) htake
    have hrest : Ordered rest := by
      obtain ⟨before, hsplit, _⟩ := hpicked.split
      have hwhole : Ordered queue := hordered _ queue hqueue
      rw [hsplit] at hwhole
      exact (List.pairwise_cons.mp (List.pairwise_append.mp hwhole).2.1).2
    obtain ⟨hothers, chosen, hcollected, hchosen⟩ :=
      ih (hordered.insert hrest) hdistinct.2 h
    refine ⟨?_, selected :: chosen, by simp [hcollected], ?_⟩
    · intro id hid
      rw [List.map_cons, List.mem_cons, not_or] at hid
      rw [hothers id hid.2, getElem?_insert_queue, if_neg (Ne.symm hid.1)]
    · refine .cons ⟨queue, rest, hqueue, ?_, hpicked⟩ ?_
      · -- this camera's queue is not touched again
        rw [hothers _ hdistinct.1, getElem?_insert_queue, if_pos rfl]
      · have hother : ∀ other ∈ cameras, other.stableCameraId ≠ camera.stableCameraId :=
          fun other hmem heq => hdistinct.1 (heq ▸ List.mem_map_of_mem hmem)
        refine ((List.forall₂_and_left _ _).mpr ⟨hother, hchosen⟩).imp ?_
        rintro other found ⟨hne, queue', rest', hqueue', hfound⟩
        rw [getElem?_insert_queue, if_neg (Ne.symm hne)] at hqueue'
        exact ⟨queue', rest', hqueue', hfound⟩

/-! ## Runs -/

/-- A call of `push_secondary` or of `anchor_step`. -/
inductive Call where
  | pushSecondary (frame : StoredFrame)
  | anchorStep (anchor : StoredFrame) (contextPacketBytes : List UInt8)
      (includeEncodedImages : Bool)

/-- The synchronizer after a call, whatever the call returns. -/
def perform (externals : Externals) (self : StepSynchronizer) : Call → StepSynchronizer
  | .pushSecondary frame =>
    match self.pushSecondary frame with
    | .error _ => self
    | .ok next => next
  | .anchorStep anchor packet included => (self.anchorStep externals anchor packet included).2

/-- What holds of the queue of camera `id`. -/
structure QueueKept (limit : Nat) (id : String) (queue : List StoredFrame) : Prop where
  short : queue.length ≤ limit
  ordered : Ordered queue
  own : ∀ frame ∈ queue, frame.cameraId = id

theorem QueueKept.sublist {limit : Nat} {id : String} {rest : List StoredFrame}
    (h : QueueKept limit id queue) (hrest : rest.Sublist queue) : QueueKept limit id rest :=
  ⟨hrest.length_le.trans h.short, h.ordered.sublist hrest,
    fun frame hframe => h.own frame (hrest.subset hframe)⟩

/-- What a push does to the queue of its camera. -/
theorem QueueKept.push {limit : Nat} {frame : StoredFrame}
    (h : QueueKept limit frame.cameraId queue) (hlimit : limit ≠ 0)
    (hlast : ∀ last ∈ queue.getLast?, last.captureTimeEdgeNs < frame.captureTimeEdgeNs ∧
      last.accessUnitOrdinal < frame.accessUnitOrdinal) :
    QueueKept limit frame.cameraId
      ((if queue.length = limit then queue.tail else queue) ++ [frame]) := by
  rw [show (if queue.length = limit then queue.tail else queue) = makeRoom limit queue by
    rw [makeRoom, List.drop_one]]
  have hkept : (makeRoom limit queue).Sublist queue := (makeRoom_suffix limit queue).sublist
  refine ⟨?_, ?_, ?_⟩
  · rw [List.length_append, List.length_singleton]
    exact length_makeRoom_lt hlimit h.short
  · refine List.pairwise_append.mpr ⟨h.ordered.sublist hkept, List.pairwise_singleton _ _, ?_⟩
    intro other hother last hfound
    rw [List.mem_singleton.mp hfound]
    exact h.ordered.newer hlast other (hkept.subset hother)
  · intro other hother
    rcases List.mem_append.mp hother with hmem | hmem
    · exact h.own other (hkept.subset hmem)
    · rw [List.mem_singleton.mp hmem]

/-- What holds of a synchronizer along its runs. -/
structure Kept (manifest : SessionManifestV1) (limit : Nat) (maxSkewNs : UInt64)
    (synchronizer : StepSynchronizer) : Prop where
  sameManifest : synchronizer.manifest = manifest
  sameLimit : synchronizer.maxFramesPerCamera = limit
  sameSkew : synchronizer.maxSkewNs = maxSkewNs
  queues : EachQueue (QueueKept limit) synchronizer.queues

variable {externals : Externals} {manifest : SessionManifestV1} {limit : Nat}
  {maxSkewNs : UInt64}

theorem kept_new (h : new manifest limit maxSkewNs = .ok self) :
    limit ≠ 0 ∧ Kept manifest limit maxSkewNs self := by
  have hempty : EachQueue (QueueKept limit) self.queues := by
    obtain ⟨_, hqueued, _⟩ := new_eq_ok h
    intro id queue hqueue
    rw [hqueued id queue hqueue]
    exact ⟨Nat.zero_le _, List.Pairwise.nil, nofun⟩
  unfold new at h
  split at h
  · cases h
  · rename_i hpositive
    cases h
    exact ⟨fun hzero => hpositive (Or.inl hzero), rfl, rfl, rfl, hempty⟩

/-- Neither call spoils the queues, successful or not. -/
theorem kept_perform (hlimit : limit ≠ 0) (self : StepSynchronizer) (call : Call)
    (h : Kept manifest limit maxSkewNs self) :
    Kept manifest limit maxSkewNs (self.perform externals call) := by
  cases call with
  | pushSecondary frame =>
    unfold perform
    dsimp only
    split
    · exact h
    · rename_i next hpush
      obtain ⟨queue, hqueue, _, hlast, rfl⟩ := pushSecondary_inv hpush
      refine ⟨h.sameManifest, h.sameLimit, h.sameSkew, h.queues.insert ?_⟩
      rw [h.sameLimit]
      exact (h.queues _ queue hqueue).push hlimit hlast
  | anchorStep anchor packet included =>
    show Kept _ _ _ (self.anchorStep externals anchor packet included).2
    obtain ⟨⟨queues, hloses, _, hnext⟩, _⟩ :=
      anchorStep_cases externals self anchor packet included
    rw [hnext]
    exact ⟨h.sameManifest, h.sameLimit, h.sameSkew,
      h.queues.of_losesFrames hloses fun _ _ _ hqueue => hqueue.sublist⟩

/-! ## Exact steps -/

/-- The step a call from `state` to `next` returns: one entry for each streamed
camera in the order of the ids, the anchor's own frame with skew zero, and
for every other camera the first of the queued frames nearest to the anchor,
with its exact skew; that camera keeps what followed the frame. -/
structure ExactStep (state next : StepSynchronizer) (anchor : StoredFrame) (included : Bool)
    (step : SynchronizedDatasetStep) : Prop where
  cameras : (step.frames.map (·.cameraId)).Perm
    ((streamedCameras state.manifest).map (·.stableCameraId))
  sorted : (step.frames.map (·.cameraId)).Pairwise (· < ·)
  ownFrame : anchor.cameraId = state.manifest.anchorCameraId ∧
    reference anchor 0 included ∈ step.frames
  others : ∀ camera ∈ streamedCameras state.manifest,
    camera.stableCameraId ≠ state.manifest.anchorCameraId →
      ∃ queue selected rest, state.queues[camera.stableCameraId]? = some queue ∧
        Picked state.maxSkewNs anchor.captureTimeEdgeNs queue selected rest ∧
        selected.cameraId = camera.stableCameraId ∧
        reference selected (skewOf anchor.captureTimeEdgeNs selected) included ∈ step.frames ∧
        next.queues[camera.stableCameraId]? = some rest

/-- A stable sort by camera id of entries with distinct ids is strictly
increasing. -/
theorem insertionSort_cameraId (hdistinct : (frames.map (·.cameraId)).Nodup) :
    ((frames.insertionSort fun left right =>
      compare left.cameraId right.cameraId ≠ .gt).map (·.cameraId)).Pairwise (· < ·) := by
  set order : FrameReference → FrameReference → Prop :=
    fun left right => compare left.cameraId right.cameraId ≠ .gt with horder
  have hle : ∀ left right, order left right ↔ left.cameraId ≤ right.cameraId :=
    fun _ _ => compare_le_iff_le
  have : Std.Total order := ⟨fun left right => by
    rw [hle, hle]
    exact le_total _ _⟩
  have : IsTrans FrameReference order := ⟨fun left middle right hleft hright => by
    rw [hle] at *
    exact hleft.trans hright⟩
  have hsorted : ((frames.insertionSort order).map (·.cameraId)).Pairwise (· ≤ ·) :=
    List.pairwise_map.mpr ((List.pairwise_insertionSort order frames).imp fun h => (hle _ _).mp h)
  have hnodup : ((frames.insertionSort order).map (·.cameraId)).Nodup :=
    ((List.perm_insertionSort order frames).map _).nodup_iff.mpr hdistinct
  exact hsorted.imp₂ (fun _ _ hle hne => lt_of_le_of_ne hle hne) hnodup

/-- The streamed cameras are the anchor and the others. -/
theorem streamedCameras_perm {manifest : SessionManifestV1}
    (hdistinct : (manifest.cameras.map (·.stableCameraId)).Nodup)
    (hanchor : ∃ camera ∈ manifest.cameras,
      camera.stableCameraId = manifest.anchorCameraId ∧ camera.streamExcluded = false) :
    (manifest.anchorCameraId :: (otherCameras manifest).map (·.stableCameraId)).Perm
      ((streamedCameras manifest).map (·.stableCameraId)) := by
  have hstreamed : ((streamedCameras manifest).map (·.stableCameraId)).Nodup :=
    hdistinct.sublist (List.filter_sublist.map _)
  have hothers : ((otherCameras manifest).map (·.stableCameraId)).Nodup :=
    hdistinct.sublist (List.filter_sublist.map _)
  refine (List.perm_ext_iff_of_nodup (List.nodup_cons.mpr ⟨?_, hothers⟩) hstreamed).mpr ?_
  · simp [otherCameras]
  · intro id
    obtain ⟨found, hfound, hid, hnot⟩ := hanchor
    simp only [otherCameras, streamedCameras, List.mem_cons, List.mem_map, List.mem_filter,
      Bool.and_eq_true, Bool.not_eq_true', bne_iff_ne, ne_eq]
    constructor
    · rintro (rfl | ⟨camera, ⟨hmem, hkept, _⟩, rfl⟩)
      · exact ⟨found, ⟨hfound, hnot⟩, hid⟩
      · exact ⟨camera, ⟨hmem, hkept⟩, rfl⟩
    · rintro ⟨camera, ⟨hmem, hkept⟩, rfl⟩
      by_cases hsame : camera.stableCameraId = manifest.anchorCameraId
      · exact Or.inl hsame
      · exact Or.inr ⟨camera, ⟨hmem, hkept, hsame⟩, rfl⟩

/-- A returned step comes out of a loop that succeeded. -/
theorem anchorStep_eq_ok {packet : List UInt8}
    (h : (self.anchorStep externals anchor packet included).1 = .ok step) :
    anchor.cameraId = self.manifest.anchorCameraId ∧
    ∃ frames queues, collectFrames self.maxSkewNs anchor included (otherCameras self.manifest)
        self.queues [reference anchor 0 included] = (Except.ok frames, queues) ∧
      (self.anchorStep externals anchor packet included).2 = { self with queues } ∧
      step.frames = frames.insertionSort (fun left right =>
        compare left.cameraId right.cameraId ≠ .gt) := by
  have hcontext : ContextAccepted externals self anchor packet := by
    by_contra hrefused
    rw [anchorStep_of_refused included hrefused] at h
    cases h
  obtain ⟨outcome, queues, hcollect, hnext, herror, hok⟩ :=
    anchorStep_of_accepted included hcontext
  cases outcome with
  | error error =>
    rw [herror error rfl] at h
    cases h
  | ok frames =>
    obtain ⟨built, hbuilt, _, hsorted⟩ := hok frames rfl
    rw [hbuilt] at h
    cases h
    exact ⟨hcontext.1, frames, queues, hcollect, hnext, hsorted⟩

theorem exactStep_of_ok {next : StepSynchronizer} {packet : List UInt8}
    (hdistinct : (self.manifest.cameras.map (·.stableCameraId)).Nodup)
    (hanchor : ∃ camera ∈ self.manifest.cameras,
      camera.stableCameraId = self.manifest.anchorCameraId ∧ camera.streamExcluded = false)
    (hqueues : EachQueue (QueueKept limit) self.queues)
    (h : self.anchorStep externals anchor packet included = (.ok step, next)) :
    ExactStep self next anchor included step := by
  obtain ⟨hown, frames, queues, hcollect, hnext, hsorted⟩ :=
    anchorStep_eq_ok (congrArg Prod.fst h)
  rw [h] at hnext
  obtain rfl : next = { self with queues } := hnext
  have hothers : ((otherCameras self.manifest).map (·.stableCameraId)).Nodup :=
    hdistinct.sublist (List.filter_sublist.map _)
  obtain ⟨_, chosen, rfl, hchosen⟩ :=
    collectFrames_eq_ok (fun id queue hqueue => (hqueues id queue hqueue).ordered)
      hothers hcollect
  -- every chosen frame is of the camera whose queue it was in
  have howned : List.Forall₂ (fun (camera : CameraDescriptorV1) selected =>
      ∃ queue rest, self.queues[camera.stableCameraId]? = some queue ∧
        queues[camera.stableCameraId]? = some rest ∧
        Picked self.maxSkewNs anchor.captureTimeEdgeNs queue selected rest ∧
        selected.cameraId = camera.stableCameraId) (otherCameras self.manifest) chosen := by
    refine hchosen.imp ?_
    rintro camera selected ⟨queue, rest, hqueue, hrest, hpicked⟩
    obtain ⟨before, hsplit, _⟩ := hpicked.split
    exact ⟨queue, rest, hqueue, hrest, hpicked,
      (hqueues _ queue hqueue).own selected (by simp [hsplit])⟩
  have hids : (otherCameras self.manifest).map (·.stableCameraId) =
      chosen.map (·.cameraId) := by
    rw [← List.forall₂_eq_eq_eq, List.forall₂_map_left_iff, List.forall₂_map_right_iff]
    refine howned.imp ?_
    rintro camera selected ⟨_, _, _, _, _, hown⟩
    exact hown.symm
  have hcameras : (step.frames.map (·.cameraId)).Perm
      ((streamedCameras self.manifest).map (·.stableCameraId)) := by
    rw [hsorted]
    refine ((List.perm_insertionSort _ _).map _).trans ?_
    refine List.Perm.trans (.of_eq ?_) (streamedCameras_perm hdistinct hanchor)
    simp only [List.singleton_append, List.map_cons, List.map_map]
    rw [hids, ← hown]
    rfl
  refine ⟨hcameras, ?_, ⟨hown, ?_⟩, ?_⟩
  · have hnodup : (step.frames.map (·.cameraId)).Nodup :=
      hcameras.nodup_iff.mpr (hdistinct.sublist (List.filter_sublist.map _))
    rw [hsorted] at hnodup ⊢
    exact insertionSort_cameraId
      (((List.perm_insertionSort _ _).map _).nodup_iff.mp hnodup)
  · rw [hsorted, List.mem_insertionSort]
    simp
  · intro camera hcamera hother
    have hmem : camera ∈ otherCameras self.manifest := by
      simp only [streamedCameras, List.mem_filter] at hcamera
      simp [otherCameras, hcamera, hother]
    obtain ⟨index, hindex, rfl⟩ := List.getElem_of_mem hmem
    have hlength := howned.length_eq
    obtain ⟨queue, rest, hqueue, hrest, hpicked, hown⟩ :=
      howned.get hindex (hlength ▸ hindex)
    refine ⟨queue, _, rest, hqueue, hpicked, hown, ?_, hrest⟩
    rw [hsorted, List.mem_insertionSort]
    exact List.mem_append_right _ (List.mem_map_of_mem (List.get_mem _ _))

/-- **Exact selection.** In every state that calls of `push_secondary` and
`anchor_step` lead to, the queues are bounded and strictly increasing, and
every step `anchor_step` returns from there is exact. -/
theorem synchronized_selection_exact (externals : Externals) (bytes : List UInt8)
    (transports : List ConnectedCamera) (basePort : UInt16) (manifest : SessionManifestV1)
    (maxFramesPerCamera : Nat) (maxSkewNs : UInt64) (synchronizer : StepSynchronizer)
    (hvalid : validateManifest externals bytes transports basePort = .ok manifest)
    (hnew : StepSynchronizer.new manifest maxFramesPerCamera maxSkewNs = .ok synchronizer)
    (calls : List Call) :
    let state := run (perform externals) synchronizer calls
    state.manifest = manifest ∧ state.maxSkewNs = maxSkewNs ∧
    (∀ (id : String) (queue : List StoredFrame), state.queues[id]? = some queue →
      queue.length ≤ maxFramesPerCamera ∧ Ordered queue) ∧
    ∀ anchor packet included step next,
      state.anchorStep externals anchor packet included = (.ok step, next) →
        ExactStep state next anchor included step := by
  intro state
  obtain ⟨hlimit, hkept⟩ := kept_new hnew
  have hstate : Kept manifest maxFramesPerCamera maxSkewNs state :=
    run_invariant' (kept_perform hlimit) hkept calls
  obtain ⟨_, hdistinct, hanchor⟩ := validateManifest_eq_ok hvalid
  refine ⟨hstate.sameManifest, hstate.sameSkew, ?_, ?_⟩
  · intro id queue hqueue
    exact ⟨(hstate.queues id queue hqueue).short, (hstate.queues id queue hqueue).ordered⟩
  · intro anchor packet included step next hstep
    rw [← hstate.sameManifest] at hdistinct hanchor
    exact exactStep_of_ok hdistinct hanchor hstate.queues hstep

/-- A frame of the cell, captured at `time`. -/
def cellFrame (cameraId : String) (time ordinal : UInt64) : StoredFrame where
  cameraId
  captureTimeEdgeNs := time
  streamEpoch := 1
  normalizedPtsNs := time
  accessUnitOrdinal := ordinal
  storageUri := ""
  encodedImage := [1]

/-- Four frames a camera and 20 ns of skew. -/
def cellSynchronizer (manifest : SessionManifestV1) : StepSynchronizer :=
  (new manifest 4 20).toOption.get rfl

def twoCameraManifest : SessionManifestV1 := cellManifest [anchorCamera, sideCamera]

def twoCameraTransports : List ConnectedCamera :=
  [⟨"anchor", 0, 1, 10000⟩, ⟨"side", 1, 1, 10001⟩]

/-- Two frames 5 ns before and after the anchor, and a later one. -/
def tiedCalls : List Call :=
  [.pushSecondary (cellFrame "side" 95 0), .pushSecondary (cellFrame "side" 105 1),
    .pushSecondary (cellFrame "side" 200 2)]

theorem synchronized_selection_exact_tie :
    let externals := cellExternals [contextFor twoCameraManifest 0] [twoCameraManifest]
    let state := run (perform externals) (cellSynchronizer twoCameraManifest) tiedCalls
    ∃ step next, state.anchorStep externals (cellFrame "anchor" 100 0)
        (packetOf (contextFor twoCameraManifest 0)).encode false = (.ok step, next) ∧
      ExactStep state next (cellFrame "anchor" 100 0) false step ∧
      next.queues["side"]? = some [cellFrame "side" 105 1, cellFrame "side" 200 2] := by
  intro externals state
  obtain ⟨_, _, _, hexact⟩ := synchronized_selection_exact externals twoCameraManifest.encode
    twoCameraTransports 10000 twoCameraManifest 4 20 (cellSynchronizer twoCameraManifest)
    (by decide +kernel) (eq_ok_of_isSome _) tiedCalls
  have hreturned : (state.anchorStep externals (cellFrame "anchor" 100 0)
      (packetOf (contextFor twoCameraManifest 0)).encode false).1.toOption.isSome = true := by
    decide +kernel
  refine ⟨_, _, Prod.ext (eq_ok_of_isSome hreturned) rfl, ?_, by decide +kernel⟩
  exact hexact _ (packetOf (contextFor twoCameraManifest 0)).encode _ _ _
    (Prod.ext (eq_ok_of_isSome hreturned) rfl)

end StepSynchronizer

end RobotMulticam.Receiver
