import RobotMulticam.Codec.AccessUnit
import RobotMulticam.Lib.KeySet
import RobotMulticam.Lib.Loop

/-!
# Manifest validation and step synchronization

`validate_manifest` checks a decoded manifest against the connected
transports. A `StepSynchronizer` belongs to one validated manifest: it
queues the frames of the secondary cameras and, for each anchor frame, takes
the nearest queued frame of every camera to form a step.

A failing `anchor_step` may already have taken frames out of queues, so it
returns the synchronizer along with its result.
-/

namespace RobotMulticam.Receiver

open RobotMulticam.Lib
open RobotMulticam.Protocol
open RobotMulticam.Codec
open Std (ExtTreeMap ExtTreeSet)

structure ConnectedCamera where
  cameraId : String
  streamSlot : UInt32
  streamEpoch : UInt32
  listenPort : UInt16
  deriving DecidableEq

inductive SynchronizeError where
  | manifest
  | cameraCatalog
  | featureLayout
  | context
  | missingCamera
  | nonMonotonic
  deriving DecidableEq, Repr

/-! ## Manifests -/

/-- What the loop over the cameras has seen so far. -/
structure CatalogState where
  cameraIds : ExtTreeSet String
  anchorCount : Nat

/-- The transport of a camera fits its descriptor. -/
def transportMatches (transportIndex : ExtTreeMap String ConnectedCamera) (basePort : UInt16)
    (camera : CameraDescriptorV1) : Bool :=
  match transportIndex[camera.stableCameraId]? with
  | none => false
  | some connected =>
    let expectedPort := basePort.toNat + camera.streamSlot.toNat
    decide (expectedPort < 2 ^ 32)
      && connected.streamSlot == camera.streamSlot
      && connected.streamEpoch == camera.streamEpoch
      && connected.listenPort.toNat == expectedPort
      && camera.transportPort.toNat == expectedPort

/-- One turn of the loop over the cameras. -/
def checkCamera (manifest : SessionManifestV1)
    (transportIndex : ExtTreeMap String ConnectedCamera) (basePort : UInt16)
    (seen : CatalogState) (camera : CameraDescriptorV1) :
    Except SynchronizeError CatalogState :=
  let isAnchor := camera.role == cameraRoleAnchor
  if camera.stableCameraId.isEmpty || seen.cameraIds.contains camera.stableCameraId then
    .error .cameraCatalog
  else if isAnchor &&
      (camera.stableCameraId != manifest.anchorCameraId || camera.streamExcluded) then
    .error .cameraCatalog
  else if !camera.streamExcluded && !transportMatches transportIndex basePort camera then
    .error .cameraCatalog
  else .ok {
    cameraIds := seen.cameraIds.insert camera.stableCameraId
    anchorCount := if isAnchor then seen.anchorCount + 1 else seen.anchorCount }

/-- What the loop over the feature slices has seen so far: the next offset
of each vector kind, and the names and ids in use. -/
structure LayoutState where
  expected : ExtTreeMap Int32 UInt32
  names : ExtTreeSet String
  ids : ExtTreeSet UInt64

def checkFeature (seen : LayoutState) (feature : FeatureSliceV1) :
    Except SynchronizeError LayoutState :=
  match seen.expected[feature.vectorKind]? with
  | none => .error .featureLayout
  | some offset =>
    if feature.featureId == 0 || feature.qualifiedName.isEmpty || feature.length == 0
        || feature.offset != offset || seen.names.contains feature.qualifiedName
        || seen.ids.contains feature.featureId then .error .featureLayout
    else if 2 ^ 32 ≤ offset.toNat + feature.length.toNat then .error .featureLayout
    else .ok {
      expected := seen.expected.insert feature.vectorKind (offset + feature.length)
      names := seen.names.insert feature.qualifiedName
      ids := seen.ids.insert feature.featureId }

def validateLayout (manifest : SessionManifestV1) : Except SynchronizeError Unit := do
  let layout ← manifest.featureSlices.foldlM checkFeature
    ⟨ExtTreeMap.ofList [((1 : Int32), (0 : UInt32)), (2, 0), (3, 0)], ∅, ∅⟩
  if layout.expected[(1 : Int32)]? = some manifest.observationVectorLength
      ∧ layout.expected[(2 : Int32)]? = some manifest.actionVectorLength
      ∧ layout.expected[(3 : Int32)]? = some manifest.auxiliaryVectorLength then .ok ()
  else .error .featureLayout

/-- The checks on the manifest's own fields. -/
def manifestFieldsValid (manifest : SessionManifestV1) : Bool :=
  manifest.schemaVersion == 1
    && manifest.sessionId.length == 16
    && manifest.edgeBootId.length == 16
    && manifest.manifestRevision != 0
    && !manifest.anchorCameraId.isEmpty
    && manifest.streamIdSchema == "rmc1"
    && manifest.schemaIdAlgorithm == schemaIdHash

def validateManifest (externals : Externals) (bytes : List UInt8)
    (transports : List ConnectedCamera) (basePort : UInt16) :
    Except SynchronizeError SessionManifestV1 :=
  match externals.manifest.decode bytes with
  | none => .error .manifest
  | some manifest =>
    if !manifestFieldsValid manifest then .error .manifest
    else do
      -- the last of several transports with one camera id wins
      let transportIndex := ExtTreeMap.ofList
        (transports.map fun camera => (camera.cameraId, camera))
      let seen ← manifest.cameras.foldlM (checkCamera manifest transportIndex basePort) ⟨∅, 0⟩
      if seen.anchorCount ≠ 1 ∨
          transports.length ≠ (manifest.cameras.filter (!·.streamExcluded)).length then
        .error .cameraCatalog
      else
        validateLayout manifest
        .ok manifest

/-! ## Steps -/

structure StoredFrame where
  cameraId : String
  captureTimeEdgeNs : UInt64
  streamEpoch : UInt32
  normalizedPtsNs : UInt64
  accessUnitOrdinal : UInt64
  storageUri : String
  encodedImage : List UInt8
  deriving DecidableEq

structure StepSynchronizer where
  manifest : SessionManifestV1
  maxFramesPerCamera : Nat
  maxSkewNs : UInt64
  queues : ExtTreeMap String (List StoredFrame)

def reference (frame : StoredFrame) (skew : Int) (included : Bool) : FrameReference where
  cameraId := frame.cameraId
  captureTimeEdgeNs := frame.captureTimeEdgeNs
  skewFromAnchorNs := skew
  storageUri := frame.storageUri
  encodedImage := if included then frame.encodedImage else []
  encodedImageMediaType := if included then "video/h264" else ""
  streamEpoch := frame.streamEpoch
  normalizedPtsNs := frame.normalizedPtsNs
  accessUnitOrdinal := frame.accessUnitOrdinal

def validateContext (manifest : SessionManifestV1) (anchor : StoredFrame)
    (context : AnchorFrameContextV1) : Bool :=
  context.schemaVersion == 1
    && context.sessionId == manifest.sessionId
    && context.manifestRevision == manifest.manifestRevision
    && context.observationSchemaId == manifest.observationSchemaId
    && context.actionSchemaId == manifest.actionSchemaId
    && context.observationState.length == manifest.observationVectorLength.toNat
    && context.action.length == manifest.actionVectorLength.toNat
    && context.auxiliary.length == manifest.auxiliaryVectorLength.toNat
    && context.anchorFrameSeq == anchor.accessUnitOrdinal

/-- The place and signed skew of the queued frame nearest to the anchor; of
equally near ones, the first. -/
def nearest (anchorTimeNs : UInt64) (queue : List StoredFrame) : Option (Nat × Int) :=
  (queue.zipIdx.map fun (frame, index) =>
    (index, (frame.captureTimeEdgeNs.toNat : Int) - anchorTimeNs.toNat)).foldl
    (fun best candidate =>
      match best with
      | none => some candidate
      | some held =>
        if candidate.2.natAbs < held.2.natAbs then some candidate else some held)
    none

/-- Takes the nearest frame out of a camera's queue, and the older ones with
it. -/
def takeNearest (maxSkewNs anchorTimeNs : UInt64) (queue : List StoredFrame) :
    Except SynchronizeError (StoredFrame × Int) × List StoredFrame :=
  match nearest anchorTimeNs queue with
  | none => (.error .missingCamera, queue)
  | some (index, skew) =>
    if maxSkewNs.toNat < skew.natAbs then (.error .missingCamera, queue)
    else match queue[index]? with
    | none => (.error .missingCamera, queue)
    | some selected =>
      let rest := (queue.eraseIdx index).dropWhile fun frame =>
        frame.captureTimeEdgeNs ≤ selected.captureTimeEdgeNs
      if -2 ^ 63 ≤ skew ∧ skew < 2 ^ 63 then (.ok (selected, skew), rest)
      else (.error .missingCamera, rest)

namespace StepSynchronizer

def new (manifest : SessionManifestV1) (maxFramesPerCamera : Nat) (maxSkewNs : UInt64) :
    Except SynchronizeError StepSynchronizer :=
  if maxFramesPerCamera = 0 ∨ maxSkewNs = 0 then .error .manifest
  else .ok {
    manifest
    maxFramesPerCamera
    maxSkewNs
    queues := ExtTreeMap.ofList ((manifest.cameras.filter (!·.streamExcluded)).map
      fun camera => (camera.stableCameraId, [])) }

def pushSecondary (self : StepSynchronizer) (frame : StoredFrame) :
    Except SynchronizeError StepSynchronizer :=
  if frame.cameraId = self.manifest.anchorCameraId then .error .nonMonotonic
  else match self.queues[frame.cameraId]? with
  | none => .error .cameraCatalog
  | some queue =>
    if queue.getLast?.any fun last =>
        frame.captureTimeEdgeNs ≤ last.captureTimeEdgeNs
          || frame.accessUnitOrdinal ≤ last.accessUnitOrdinal then .error .nonMonotonic
    else
      let queue := if queue.length = self.maxFramesPerCamera then queue.tail else queue
      .ok { self with queues := self.queues.insert frame.cameraId (queue ++ [frame]) }

/-- The loop of `anchor_step` over the other cameras of the manifest. -/
def collectFrames (maxSkewNs : UInt64) (anchor : StoredFrame) (included : Bool) :
    List CameraDescriptorV1 → ExtTreeMap String (List StoredFrame) → List FrameReference →
    Except SynchronizeError (List FrameReference) × ExtTreeMap String (List StoredFrame)
  | [], queues, frames => (.ok frames, queues)
  | camera :: cameras, queues, frames =>
    match queues[camera.stableCameraId]? with
    | none => (.error .missingCamera, queues)
    | some queue =>
      match takeNearest maxSkewNs anchor.captureTimeEdgeNs queue with
      | (.error error, rest) => (.error error, queues.insert camera.stableCameraId rest)
      | (.ok (selected, skew), rest) =>
        collectFrames maxSkewNs anchor included cameras
          (queues.insert camera.stableCameraId rest)
          (frames ++ [reference selected skew included])

/-- The cameras of a manifest that are streamed. -/
def streamedCameras (manifest : SessionManifestV1) : List CameraDescriptorV1 :=
  manifest.cameras.filter (!·.streamExcluded)

/-- The cameras a step needs besides the anchor. -/
def otherCameras (manifest : SessionManifestV1) : List CameraDescriptorV1 :=
  manifest.cameras.filter fun camera =>
    !camera.streamExcluded && camera.stableCameraId != manifest.anchorCameraId

def anchorStep (externals : Externals) (self : StepSynchronizer) (anchor : StoredFrame)
    (contextPacketBytes : List UInt8) (includeEncodedImages : Bool) :
    Except SynchronizeError SynchronizedDatasetStep × StepSynchronizer :=
  if anchor.cameraId ≠ self.manifest.anchorCameraId then (.error .context, self)
  else match decodeAnchorContextPacket externals contextPacketBytes with
  | .error _ => (.error .context, self)
  | .ok (packet, context) =>
    if !validateContext self.manifest anchor context then (.error .context, self)
    else match collectFrames self.maxSkewNs anchor includeEncodedImages
        (otherCameras self.manifest) self.queues
        [reference anchor 0 includeEncodedImages] with
    | (.error error, queues) => (.error error, { self with queues })
    | (.ok frames, queues) =>
      (.ok {
        sessionId := self.manifest.sessionId
        manifestRevision := self.manifest.manifestRevision
        captureTimeEdgeNs := anchor.captureTimeEdgeNs
        -- a stable sort, like `sort_by`
        frames := frames.insertionSort fun left right =>
          compare left.cameraId right.cameraId ≠ .gt
        observationState := context.observationState
        action := context.action
        auxiliary := context.auxiliary
        valid := context.invalidReason.isEmpty
        invalidReason := context.invalidReason
        anchorContext := some context
        anchorContextPacket := some packet }, { self with queues })

end StepSynchronizer

/-- What a step says apart from its frames. -/
structure StepContent where
  sessionId : List UInt8
  manifestRevision : UInt64
  captureTimeEdgeNs : UInt64
  observationState : List F32
  action : List F32
  auxiliary : List F32
  anchorContext : Option AnchorFrameContextV1
  anchorContextPacket : Option AnchorFrameContextPacketV1
  deriving DecidableEq

def contentOf (step : SynchronizedDatasetStep) : StepContent where
  sessionId := step.sessionId
  manifestRevision := step.manifestRevision
  captureTimeEdgeNs := step.captureTimeEdgeNs
  observationState := step.observationState
  action := step.action
  auxiliary := step.auxiliary
  anchorContext := step.anchorContext
  anchorContextPacket := step.anchorContextPacket

/-- The content under a manifest, for a capture time and a context. -/
def stepContent (manifest : SessionManifestV1) (captureTimeEdgeNs : UInt64)
    (packet : AnchorFrameContextPacketV1) (context : AnchorFrameContextV1) : StepContent where
  sessionId := manifest.sessionId
  manifestRevision := manifest.manifestRevision
  captureTimeEdgeNs
  observationState := context.observationState
  action := context.action
  auxiliary := context.auxiliary
  anchorContext := some context
  anchorContextPacket := some packet

variable {manifest : SessionManifestV1} {context : AnchorFrameContextV1}
  {transports : List ConnectedCamera} {anchor : StoredFrame} {externals : Externals}
  {bytes : List UInt8} {basePort : UInt16}

/-- A context names the session and the revision of its manifest. -/
theorem names_of_validateContext (h : validateContext manifest anchor context = true) :
    context.sessionId = manifest.sessionId ∧
      context.manifestRevision = manifest.manifestRevision := by
  simp only [validateContext, Bool.and_eq_true, beq_iff_eq] at h
  obtain ⟨⟨⟨⟨⟨⟨⟨⟨_, hsession⟩, hrevision⟩, _⟩, _⟩, _⟩, _⟩, _⟩, _⟩ := h
  exact ⟨hsession, hrevision⟩

/-- Two manifests that accept a context therefore give the same content. -/
theorem stepContent_congr {first second : SessionManifestV1} {other : StoredFrame}
    (hfirst : validateContext first anchor context = true)
    (hsecond : validateContext second other context = true) (captureTimeEdgeNs : UInt64)
    (packet : AnchorFrameContextPacketV1) :
    stepContent first captureTimeEdgeNs packet context =
      stepContent second captureTimeEdgeNs packet context := by
  obtain ⟨hsession, hrevision⟩ := names_of_validateContext hfirst
  obtain ⟨hsession', hrevision'⟩ := names_of_validateContext hsecond
  rw [stepContent, stepContent, ← hsession, ← hsession', ← hrevision, ← hrevision']

/-! ## What a valid manifest says -/

/-- What `checkCamera` asks of a camera by itself: it has an id, an anchor has
the anchor's id and is streamed, and a streamed camera fits its transport. -/
structure CameraFits (manifest : SessionManifestV1)
    (transportIndex : ExtTreeMap String ConnectedCamera) (basePort : UInt16)
    (camera : CameraDescriptorV1) : Prop where
  named : camera.stableCameraId ≠ ""
  anchor : camera.role = cameraRoleAnchor →
    camera.stableCameraId = manifest.anchorCameraId ∧ camera.streamExcluded = false
  transport : camera.streamExcluded = false →
    transportMatches transportIndex basePort camera = true

/-- The cameras with the anchor's role. -/
def anchors (cameras : List CameraDescriptorV1) : List CameraDescriptorV1 :=
  cameras.filter (·.role == cameraRoleAnchor)

section Catalog

variable {manifest : SessionManifestV1} {transportIndex : ExtTreeMap String ConnectedCamera}
  {basePort : UInt16} {ids : List String} {camera : CameraDescriptorV1}
  {cameras : List CameraDescriptorV1}

/-- A camera passes if it fits and its id is new. -/
theorem checkCamera_eq_ok_iff {seen next : CatalogState} (hids : Holds seen.cameraIds ids) :
    checkCamera manifest transportIndex basePort seen camera = .ok next ↔
      CameraFits manifest transportIndex basePort camera ∧ camera.stableCameraId ∉ ids ∧
        next = ⟨seen.cameraIds.insert camera.stableCameraId,
          seen.anchorCount + (anchors [camera]).length⟩ := by
  have hnew : seen.cameraIds.contains camera.stableCameraId = false ↔
      camera.stableCameraId ∉ ids := hids.contains_eq_false
  have hcount : (if camera.role == cameraRoleAnchor then seen.anchorCount + 1
      else seen.anchorCount) = seen.anchorCount + (anchors [camera]).length := by
    unfold anchors
    by_cases hrole : camera.role = cameraRoleAnchor <;> simp [hrole]
  unfold checkCamera
  dsimp only
  rw [hcount]
  constructor
  · intro h
    split at h
    · cases h
    · rename_i hfresh
      split at h
      · cases h
      · rename_i hanchor
        split at h
        · cases h
        · rename_i htransport
          cases h
          simp only [Bool.or_eq_true, not_or, Bool.not_eq_true] at hfresh
          refine ⟨⟨?_, ?_, ?_⟩, hnew.mp hfresh.2, rfl⟩
          · intro hempty
            simp [hempty] at hfresh
          · intro hrole
            simpa [hrole] using hanchor
          · intro hstreamed
            simpa [hstreamed] using htransport
  · rintro ⟨hfits, hfresh, rfl⟩
    have hnamed : camera.stableCameraId.isEmpty = false := by simp [hfits.named]
    rw [if_neg, if_neg, if_neg]
    · intro hexcluded
      simp only [Bool.and_eq_true, Bool.not_eq_true'] at hexcluded
      simp [hfits.transport hexcluded.1] at hexcluded
    · intro hanchor
      simp only [Bool.and_eq_true, beq_iff_eq] at hanchor
      obtain ⟨hid, hstreamed⟩ := hfits.anchor hanchor.1
      simp [hid, hstreamed] at hanchor
    · simp [hnamed, hnew.mpr hfresh]

/-- What the loop knows after the given cameras. -/
structure CatalogTracks (manifest : SessionManifestV1)
    (transportIndex : ExtTreeMap String ConnectedCamera) (basePort : UInt16)
    (cameras : List CameraDescriptorV1) (seen : CatalogState) : Prop where
  fits : ∀ camera ∈ cameras, CameraFits manifest transportIndex basePort camera
  ids : Holds seen.cameraIds (cameras.map (·.stableCameraId))
  count : seen.anchorCount = (anchors cameras).length

theorem CatalogTracks.checkCamera {seen next : CatalogState}
    (h : CatalogTracks manifest transportIndex basePort cameras seen)
    (hok : checkCamera manifest transportIndex basePort seen camera = .ok next) :
    CatalogTracks manifest transportIndex basePort (cameras ++ [camera]) next := by
  obtain ⟨hfits, hnew, rfl⟩ := (checkCamera_eq_ok_iff h.ids).mp hok
  refine ⟨List.forall_mem_append.mpr ⟨h.fits, by simpa using hfits⟩, ?_, ?_⟩
  · simpa using h.ids.insert hnew
  · show seen.anchorCount + (anchors [camera]).length = (anchors (cameras ++ [camera])).length
    rw [h.count, ← List.length_append]
    exact congrArg List.length (List.filter_append ..).symm

theorem catalogTracks_empty : CatalogTracks manifest transportIndex basePort [] ⟨∅, 0⟩ :=
  ⟨by simp, .empty, rfl⟩

/-- The loop over the cameras passes if every camera fits and the ids are
distinct, and it counts the anchors. -/
theorem foldlM_checkCamera_eq_ok_iff {count : Nat} :
    (∃ after, cameras.foldlM (Receiver.checkCamera manifest transportIndex basePort) ⟨∅, 0⟩ =
        .ok after ∧ after.anchorCount = count) ↔
    (∀ camera ∈ cameras, CameraFits manifest transportIndex basePort camera) ∧
      (cameras.map (·.stableCameraId)).Nodup ∧ (anchors cameras).length = count := by
  constructor
  · rintro ⟨after, hafter, rfl⟩
    have hall := loop_invariant (CatalogTracks manifest transportIndex basePort)
      (fun _ _ _ _ hseen => hseen.checkCamera) catalogTracks_empty hafter
    exact ⟨hall.fits, hall.ids.nodup, hall.count.symm⟩
  · rintro ⟨hfits, hnodup, rfl⟩
    have hturn : ∀ done camera rest seen, cameras = done ++ camera :: rest →
        CatalogTracks manifest transportIndex basePort done seen →
        ∃ next, Receiver.checkCamera manifest transportIndex basePort seen camera = .ok next ∧
          CatalogTracks manifest transportIndex basePort (done ++ [camera]) next := by
      rintro done camera rest seen rfl hseen
      rw [List.map_append, List.map_cons] at hnodup
      have hok := (checkCamera_eq_ok_iff hseen.ids).mpr
        ⟨hfits camera (by simp), not_mem_of_nodup hnodup, rfl⟩
      exact ⟨_, hok, hseen.checkCamera hok⟩
    obtain ⟨after, hafter, hall⟩ := loop_succeeds _ hturn catalogTracks_empty
    exact ⟨after, hafter, hall.count⟩

end Catalog

/-- The part of a manifest that is checked against the transports. -/
structure CatalogFits (manifest : SessionManifestV1) (transports : List ConnectedCamera)
    (basePort : UInt16) : Prop where
  fits : ∀ camera ∈ manifest.cameras, CameraFits manifest
    (ExtTreeMap.ofList (transports.map fun camera => (camera.cameraId, camera))) basePort camera
  distinct : (manifest.cameras.map (·.stableCameraId)).Nodup
  anchor : (anchors manifest.cameras).length = 1
  count : transports.length = (manifest.cameras.filter (!·.streamExcluded)).length

/-- A manifest is valid if the bytes decode to it and its three parts pass. -/
theorem validateManifest_eq_ok_iff :
    validateManifest externals bytes transports basePort = .ok manifest ↔
      externals.manifest.decode bytes = some manifest ∧ manifestFieldsValid manifest = true ∧
        CatalogFits manifest transports basePort ∧ validateLayout manifest = .ok () := by
  unfold validateManifest
  constructor
  · intro h
    split at h
    · cases h
    · rename_i decoded hdecode
      split at h
      · cases h
      · rename_i hfields
        dsimp only at h
        obtain ⟨seen, hseen, h⟩ := bind_eq_ok.mp h
        split at h
        · cases h
        · rename_i hcounts
          obtain ⟨⟨⟩, hlayout, hmanifest⟩ := bind_eq_ok.mp h
          cases hmanifest
          push Not at hcounts
          obtain ⟨hfits, hdistinct, hanchor⟩ :=
            foldlM_checkCamera_eq_ok_iff.mp ⟨seen, hseen, hcounts.1⟩
          exact ⟨hdecode, by simpa using hfields, ⟨hfits, hdistinct, hanchor, hcounts.2⟩, hlayout⟩
  · rintro ⟨hdecode, hfields, hcatalog, hlayout⟩
    obtain ⟨seen, hseen, hcount⟩ :=
      foldlM_checkCamera_eq_ok_iff.mpr ⟨hcatalog.fits, hcatalog.distinct, hcatalog.anchor⟩
    simp only [hdecode, hfields, hseen, ok_bind, hcount, hcatalog.count, hlayout, Bool.not_true,
      Bool.false_eq_true, if_false, ne_eq, not_true_eq_false, or_self]

/-- A valid manifest is what the bytes decode to, its cameras have distinct
ids, and its anchor is one of the cameras that are streamed. -/
theorem validateManifest_eq_ok
    (h : validateManifest externals bytes transports basePort = .ok manifest) :
    externals.manifest.decode bytes = some manifest ∧
      (manifest.cameras.map (·.stableCameraId)).Nodup ∧
      ∃ camera ∈ manifest.cameras,
        camera.stableCameraId = manifest.anchorCameraId ∧ camera.streamExcluded = false := by
  obtain ⟨hdecode, _, hcatalog, _⟩ := validateManifest_eq_ok_iff.mp h
  obtain ⟨anchor, hanchor⟩ := List.length_eq_one_iff.mp hcatalog.anchor
  have hmem : anchor ∈ anchors manifest.cameras := by simp [hanchor]
  obtain ⟨hcamera, hrole⟩ := List.mem_filter.mp hmem
  exact ⟨hdecode, hcatalog.distinct, anchor, hcamera,
    (hcatalog.fits anchor hcamera).anchor (beq_iff_eq.mp hrole)⟩

/-! ## What happens to queued frames -/

/-- Whatever `takeNearest` answers, the queue only loses frames, and the
selected one is one of them. -/
theorem takeNearest_cases (maxSkewNs anchorTimeNs : UInt64) (queue : List StoredFrame) :
    (takeNearest maxSkewNs anchorTimeNs queue).2.Sublist queue ∧
    ∀ selected skew, (takeNearest maxSkewNs anchorTimeNs queue).1 = .ok (selected, skew) →
      selected ∈ queue := by
  unfold takeNearest
  split
  · exact ⟨.refl _, nofun⟩
  · rename_i index skew _
    split
    · exact ⟨.refl _, nofun⟩
    · split
      · exact ⟨.refl _, nofun⟩
      · rename_i selected hselected
        have hrest : ((queue.eraseIdx index).dropWhile fun frame =>
            decide (frame.captureTimeEdgeNs ≤ selected.captureTimeEdgeNs)).Sublist queue :=
          (List.dropWhile_sublist _).trans (List.eraseIdx_sublist _ _)
        dsimp only
        split
        · refine ⟨hrest, ?_⟩
          intro frame skew hframe
          cases hframe
          exact List.mem_of_getElem? hselected
        · exact ⟨hrest, nofun⟩

namespace StepSynchronizer

theorem getElem?_insert_queue (queues : ExtTreeMap String (List StoredFrame)) (id other : String)
    (queue : List StoredFrame) :
    (queues.insert id queue)[other]? = if id = other then some queue else queues[other]? := by
  rw [ExtTreeMap.getElem?_insert]
  simp

variable {queues : ExtTreeMap String (List StoredFrame)} {queue : List StoredFrame}
  {Q : String → List StoredFrame → Prop} {synchronizer next self : StepSynchronizer}
  {externals : Externals} {anchor : StoredFrame} {packet : List UInt8}

/-- A camera that has a queue gets another one. -/
theorem mem_insert_queue {id : String} (h : queues[id]? = some queue) (next : List StoredFrame)
    (other : String) : other ∈ queues.insert id next ↔ other ∈ queues := by
  rw [ExtTreeMap.mem_iff_isSome_getElem?, ExtTreeMap.mem_iff_isSome_getElem?,
    getElem?_insert_queue]
  split
  · rename_i hsame
    rw [← hsame, h]
    rfl
  · rfl

/-- What holds of the queue of each camera. -/
def EachQueue (Q : String → List StoredFrame → Prop)
    (queues : ExtTreeMap String (List StoredFrame)) : Prop :=
  ∀ (id : String) (queue : List StoredFrame), queues[id]? = some queue → Q id queue

theorem EachQueue.insert (h : EachQueue Q queues) {id : String} (hqueue : Q id queue) :
    EachQueue Q (queues.insert id queue) := by
  intro other found hfound
  rw [getElem?_insert_queue] at hfound
  split at hfound
  · rename_i hsame
    cases hfound
    exact hsame ▸ hqueue
  · exact h other found hfound

/-- Every camera has part of what it had before. -/
def LosesFrames (before after : ExtTreeMap String (List StoredFrame)) : Prop :=
  EachQueue (fun id left => ∃ queue, before[id]? = some queue ∧ left.Sublist queue) after

theorem LosesFrames.refl (queues : ExtTreeMap String (List StoredFrame)) :
    LosesFrames queues queues :=
  fun _ queue hqueue => ⟨queue, hqueue, .refl _⟩

/-- A property of queues that survives the loss of frames. -/
theorem EachQueue.of_losesFrames {before after : ExtTreeMap String (List StoredFrame)}
    (h : EachQueue Q before) (hloses : LosesFrames before after)
    (hsublist : ∀ id queue rest, Q id queue → rest.Sublist queue → Q id rest) :
    EachQueue Q after := by
  intro id left hleft
  obtain ⟨queue, hqueue, hsub⟩ := hloses id left hleft
  exact hsublist id queue left (h id queue hqueue) hsub

/-- The loop over the other cameras only takes frames out of queues: they
keep their cameras, and each reference it adds is of a frame that was
queued. -/
theorem collectFrames_cases (maxSkewNs : UInt64) (anchor : StoredFrame) (included : Bool)
    (cameras : List CameraDescriptorV1) (queues : ExtTreeMap String (List StoredFrame))
    (frames : List FrameReference) :
    LosesFrames queues (collectFrames maxSkewNs anchor included cameras queues frames).2 ∧
    (∀ id, id ∈ (collectFrames maxSkewNs anchor included cameras queues frames).2 ↔
      id ∈ queues) ∧
    ∀ collected, (collectFrames maxSkewNs anchor included cameras queues frames).1 =
        .ok collected →
      ∀ found ∈ collected, found ∈ frames ∨
        ∃ (id : String) (queue : List StoredFrame) (frame : StoredFrame) (skew : Int),
          queues[id]? = some queue ∧ frame ∈ queue ∧
          found = reference frame skew included := by
  induction cameras generalizing queues frames with
  | nil =>
    refine ⟨.refl queues, fun _ => Iff.rfl, ?_⟩
    intro collected hcollected found hfound
    cases hcollected
    exact Or.inl hfound
  | cons camera cameras ih =>
    rw [collectFrames]
    split
    · exact ⟨.refl queues, fun _ => Iff.rfl, nofun⟩
    · rename_i queue hqueue
      obtain ⟨hrest, hselected⟩ :=
        takeNearest_cases maxSkewNs anchor.captureTimeEdgeNs queue
      have hinsert : ∀ rest : List StoredFrame, rest.Sublist queue →
          LosesFrames queues (queues.insert camera.stableCameraId rest) :=
        fun rest hsub => (LosesFrames.refl queues).insert ⟨queue, hqueue, hsub⟩
      split
      · -- the loop gives up, but what this camera's queue lost stays lost
        rename_i error rest htake
        rw [htake] at hrest
        exact ⟨hinsert rest hrest, mem_insert_queue hqueue rest, nofun⟩
      · rename_i selected skew rest htake
        rw [htake] at hrest hselected
        have hthis := hinsert rest hrest
        obtain ⟨hafter, hids, hcollected⟩ :=
          ih (queues.insert camera.stableCameraId rest)
            (frames ++ [reference selected skew included])
        refine ⟨hthis.of_losesFrames hafter ?_,
          fun id => (hids id).trans (mem_insert_queue hqueue rest id), ?_⟩
        · rintro id held left ⟨whole, hwhole, hheld⟩ hleft
          exact ⟨whole, hwhole, hleft.trans hheld⟩
        · intro collected hok found hfound
          rcases hcollected collected hok found hfound with
            hmem | ⟨id, held, frame, skew, hheld, hframe, rfl⟩
          · rcases List.mem_append.mp hmem with hold | hnew
            · exact Or.inl hold
            · exact Or.inr ⟨_, queue, selected, skew, hqueue, hselected selected skew rfl,
                List.mem_singleton.mp hnew⟩
          · obtain ⟨whole, hwhole, hsub⟩ := hthis id held hheld
            exact Or.inr ⟨id, whole, frame, skew, hwhole, hsub.subset hframe, rfl⟩

/-- Inserting empty queues. -/
theorem EachQueue.insertMany_nil (h : EachQueue Q queues) (hnil : ∀ id, Q id [])
    (cameras : List CameraDescriptorV1) :
    EachQueue Q (queues.insertMany (cameras.map fun camera => (camera.stableCameraId, []))) := by
  induction cameras generalizing queues with
  | nil =>
    rw [List.map_nil, ExtTreeMap.insertMany_nil]
    exact h
  | cons camera cameras ih =>
    rw [List.map_cons, ExtTreeMap.insertMany_cons]
    exact ih (h.insert (hnil _))

/-- A fresh synchronizer has an empty queue for each camera of the manifest
that is not excluded. -/
theorem new_eq_ok {manifest : SessionManifestV1} {maxFramesPerCamera : Nat} {maxSkewNs : UInt64}
    (h : new manifest maxFramesPerCamera maxSkewNs = .ok synchronizer) :
    synchronizer.manifest = manifest ∧ EachQueue (fun _ queue => queue = []) synchronizer.queues ∧
      ∀ id ∈ synchronizer.queues, ∃ camera ∈ manifest.cameras, camera.stableCameraId = id := by
  unfold new at h
  split at h
  · cases h
  · cases h
    refine ⟨rfl, ?_, ?_⟩
    · dsimp only
      rw [ExtTreeMap.ofList_eq_insertMany_empty]
      refine EachQueue.insertMany_nil (Q := fun _ queue => queue = []) ?_ (fun _ => rfl) _
      intro id queue hqueue
      simp at hqueue
    · intro id hid
      rw [ExtTreeMap.mem_ofList, List.contains_iff_mem, List.map_map] at hid
      obtain ⟨camera, hcamera, hid⟩ := List.mem_map.mp hid
      exact ⟨camera, (List.mem_filter.mp hcamera).1, hid⟩

/-- An accepted frame is newer than the last one queued for its camera and
goes behind it; a full queue loses its front. -/
theorem pushSecondary_inv {frame : StoredFrame} (h : synchronizer.pushSecondary frame = .ok next) :
    ∃ queue, synchronizer.queues[frame.cameraId]? = some queue ∧
      frame.cameraId ≠ synchronizer.manifest.anchorCameraId ∧
      (∀ last ∈ queue.getLast?, last.captureTimeEdgeNs < frame.captureTimeEdgeNs ∧
        last.accessUnitOrdinal < frame.accessUnitOrdinal) ∧
      next = { synchronizer with
        queues := synchronizer.queues.insert frame.cameraId
          ((if queue.length = synchronizer.maxFramesPerCamera then queue.tail else queue) ++
            [frame]) } := by
  unfold pushSecondary at h
  split at h
  · cases h
  · rename_i hsecondary
    split at h
    · cases h
    · rename_i queue hqueue
      dsimp only at h
      split at h
      · cases h
      · rename_i hnewer
        cases h
        refine ⟨queue, hqueue, hsecondary, ?_, rfl⟩
        intro last hlast
        rw [Option.mem_def.mp hlast] at hnewer
        simpa using hnewer

/-- A pushed frame joins the queue of its camera, which exists. -/
theorem pushSecondary_eq_ok {frame : StoredFrame}
    (h : synchronizer.pushSecondary frame = .ok next) :
    next.manifest = synchronizer.manifest ∧ frame.cameraId ∈ synchronizer.queues ∧
      (∀ id, id ∈ next.queues ↔ id ∈ synchronizer.queues) ∧
      EachQueue (fun id left => ∀ other ∈ left, other = frame ∨
        ∃ queue, synchronizer.queues[id]? = some queue ∧ other ∈ queue) next.queues := by
  obtain ⟨queue, hqueue, _, _, rfl⟩ := pushSecondary_inv h
  refine ⟨rfl, ?_, mem_insert_queue hqueue _, EachQueue.insert ?_ ?_⟩
  · rw [ExtTreeMap.mem_iff_isSome_getElem?, hqueue]
    rfl
  · exact fun id held hheld other hother => Or.inr ⟨held, hheld, hother⟩
  · intro other hother
    rcases List.mem_append.mp hother with hold | hnew
    · refine Or.inr ⟨queue, hqueue, ?_⟩
      split at hold
      · exact List.mem_of_mem_tail hold
      · exact hold
    · exact Or.inl (List.mem_singleton.mp hnew)

/-- The checks of `anchor_step` before it looks at the queues. -/
def ContextAccepted (externals : Externals) (self : StepSynchronizer) (anchor : StoredFrame)
    (contextPacketBytes : List UInt8) : Prop :=
  anchor.cameraId = self.manifest.anchorCameraId ∧
    ∃ packet context,
      decodeAnchorContextPacket externals contextPacketBytes = .ok (packet, context) ∧
      validateContext self.manifest anchor context = true

theorem anchorStep_of_refused (included : Bool)
    (h : ¬ ContextAccepted externals self anchor packet) :
    self.anchorStep externals anchor packet included = (.error .context, self) := by
  unfold anchorStep
  split
  · rfl
  · rename_i hcamera
    split
    · rfl
    · rename_i decoded context hdecode
      rw [if_pos]
      simp only [Bool.not_eq_true', ← Bool.not_eq_true]
      exact fun hvalid => h ⟨not_not.mp hcamera, decoded, context, hdecode, hvalid⟩

/-- Once the context is accepted, only the loop over the cameras decides. -/
theorem anchorStep_of_accepted (included : Bool)
    (h : ContextAccepted externals self anchor packet) :
    ∃ outcome queues, collectFrames self.maxSkewNs anchor included (otherCameras self.manifest)
        self.queues [reference anchor 0 included] = (outcome, queues) ∧
      (self.anchorStep externals anchor packet included).2 = { self with queues } ∧
      (∀ error, outcome = .error error →
        (self.anchorStep externals anchor packet included).1 = .error error) ∧
      ∀ frames, outcome = .ok frames → ∃ step,
        (self.anchorStep externals anchor packet included).1 = .ok step ∧
        step.sessionId = self.manifest.sessionId ∧
        step.frames = frames.insertionSort (fun left right =>
          compare left.cameraId right.cameraId ≠ .gt) := by
  obtain ⟨hcamera, decoded, context, hdecode, hvalid⟩ := h
  refine ⟨_, _, rfl, ?_⟩
  unfold anchorStep
  rw [if_neg (not_not.mpr hcamera), hdecode]
  simp only [hvalid, Bool.not_true, Bool.false_eq_true, if_false]
  split
  · rename_i error queues hcollect
    rw [hcollect]
    refine ⟨rfl, ?_, nofun⟩
    intro _ heq
    cases heq
    rfl
  · rename_i frames queues hcollect
    rw [hcollect]
    refine ⟨rfl, nofun, ?_⟩
    intro _ heq
    cases heq
    exact ⟨_, rfl, rfl, rfl⟩

/-- Without other cameras, an anchor step is made exactly when its context is
accepted. -/
theorem anchorStep_isOk_iff {included : Bool} (hothers : otherCameras self.manifest = []) :
    (self.anchorStep externals anchor packet included).1.isOk = true ↔
      ContextAccepted externals self anchor packet := by
  constructor
  · intro hok
    by_contra hrefused
    rw [anchorStep_of_refused included hrefused] at hok
    cases hok
  · intro haccepted
    obtain ⟨outcome, queues, hcollect, _, _, hok⟩ := anchorStep_of_accepted included haccepted
    rw [hothers, collectFrames] at hcollect
    cases hcollect
    obtain ⟨step, hstep, _⟩ := hok _ rfl
    rw [hstep]
    rfl

/-- What a step says besides its frames comes from the manifest, the anchor's
capture time and the decoded packet. -/
theorem anchorStep_content {packetBytes : List UInt8} {included : Bool}
    {step : SynchronizedDatasetStep}
    (h : (self.anchorStep externals anchor packetBytes included).1 = .ok step) :
    ∃ packet context, decodeAnchorContextPacket externals packetBytes = .ok (packet, context) ∧
      validateContext self.manifest anchor context = true ∧
      contentOf step = stepContent self.manifest anchor.captureTimeEdgeNs packet context := by
  unfold anchorStep at h
  split at h
  · cases h
  · split at h
    · cases h
    · rename_i packet context hdecode
      split at h
      · cases h
      · rename_i hvalid
        split at h
        · cases h
        · cases h
          exact ⟨packet, context, hdecode, by simpa using hvalid, rfl⟩

/-- What `anchor_step` does to the queues, and what a step is made of. -/
theorem anchorStep_cases (externals : Externals) (synchronizer : StepSynchronizer)
    (anchor : StoredFrame) (packet : List UInt8) (included : Bool) :
    (∃ queues, LosesFrames synchronizer.queues queues ∧
      (∀ id, id ∈ queues ↔ id ∈ synchronizer.queues) ∧
      (synchronizer.anchorStep externals anchor packet included).2 =
        { synchronizer with queues }) ∧
    ∀ step, (synchronizer.anchorStep externals anchor packet included).1 = .ok step →
      step.sessionId = synchronizer.manifest.sessionId ∧
      ∀ found ∈ step.frames, found = reference anchor 0 included ∨
        ∃ (id : String) (queue : List StoredFrame) (frame : StoredFrame) (skew : Int),
          synchronizer.queues[id]? = some queue ∧ frame ∈ queue ∧
          found = reference frame skew included := by
  by_cases hcontext : ContextAccepted externals synchronizer anchor packet
  · obtain ⟨outcome, queues, hcollect, hnext, herror, hok⟩ :=
      anchorStep_of_accepted included hcontext
    obtain ⟨hloses, hids, hframes⟩ := collectFrames_cases synchronizer.maxSkewNs anchor
      included (otherCameras synchronizer.manifest) synchronizer.queues
      [reference anchor 0 included]
    rw [hcollect] at hloses hids hframes
    refine ⟨⟨queues, hloses, hids, hnext⟩, ?_⟩
    intro step hstep
    cases outcome with
    | error error =>
      rw [herror error rfl] at hstep
      cases hstep
    | ok frames =>
      obtain ⟨built, hbuilt, hsession, hsorted⟩ := hok frames rfl
      rw [hbuilt] at hstep
      cases hstep
      refine ⟨hsession, ?_⟩
      intro found hfound
      rw [hsorted, List.mem_insertionSort] at hfound
      rcases hframes frames rfl found hfound with hanchor | hqueue
      · exact Or.inl (List.mem_singleton.mp hanchor)
      · exact Or.inr hqueue
  · rw [anchorStep_of_refused included hcontext]
    exact ⟨⟨_, .refl _, fun _ => Iff.rfl, rfl⟩, nofun⟩

theorem anchorStep_manifest (externals : Externals) (synchronizer : StepSynchronizer)
    (anchor : StoredFrame) (packet : List UInt8) (included : Bool) :
    (synchronizer.anchorStep externals anchor packet included).2.manifest =
      synchronizer.manifest := by
  obtain ⟨⟨queues, _, _, hnext⟩, _⟩ :=
    anchorStep_cases externals synchronizer anchor packet included
  rw [hnext]

end StepSynchronizer

end RobotMulticam.Receiver
