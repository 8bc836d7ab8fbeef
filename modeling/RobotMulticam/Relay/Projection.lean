import RobotMulticam.Lib.Packing
import RobotMulticam.Lib.Pointwise
import RobotMulticam.Lib.UuidText
import RobotMulticam.Protocol.Messages

/-!
# Named features

The web relay takes the vectors of a step apart again: `project_features`
cuts each feature of the manifest out of the vector of its kind and reads its
bit in the validity bitmap. `project_metadata` makes one event of each frame
of the step, and all of them carry the same features.
-/

namespace RobotMulticam.Relay

open RobotMulticam.Lib
open RobotMulticam.Protocol

inductive ProjectionError where
  | session
  | context
  | featureSlice
  | featureKind
  deriving DecidableEq, Repr

inductive FeatureVectorKind where
  | unspecified
  | observation
  | action
  | auxiliary
  deriving DecidableEq, Repr

/-- `FeatureVectorKind::try_from(i32)`. -/
def FeatureVectorKind.tryFrom (value : Int32) : Option FeatureVectorKind :=
  if value = 0 then some .unspecified
  else if value = vectorKindObservation then some .observation
  else if value = vectorKindAction then some .action
  else if value = vectorKindAuxiliary then some .auxiliary
  else none

def FeatureVectorKind.asStrName : FeatureVectorKind → String
  | .unspecified => "FEATURE_VECTOR_KIND_UNSPECIFIED"
  | .observation => "FEATURE_VECTOR_KIND_OBSERVATION"
  | .action => "FEATURE_VECTOR_KIND_ACTION"
  | .auxiliary => "FEATURE_VECTOR_KIND_AUXILIARY"

/-- The vector of a kind; there is none for an unspecified one. -/
def FeatureVectorKind.vector (step : SynchronizedDatasetStep) :
    FeatureVectorKind → Option (List F32)
  | .observation => some step.observationState
  | .action => some step.action
  | .auxiliary => some step.auxiliary
  | .unspecified => none

structure NamedFeature where
  featureId : UInt64
  qualifiedName : String
  semantic : String
  sourceDeviceId : String
  vectorKind : String
  unit : String
  shape : List UInt32
  values : List F32
  valid : Bool
  required : Bool
  deriving DecidableEq

def projectFeature (step : SynchronizedDatasetStep) (validity : List UInt8) (index : Nat)
    (feature : FeatureSliceV1) : Except ProjectionError NamedFeature :=
  match FeatureVectorKind.tryFrom feature.vectorKind with
  | none => .error .featureKind
  | some kind =>
    match kind.vector step with
    | none => .error .featureKind
    | some vector =>
      if feature.offset.toNat + feature.length.toNat ≤ vector.length then .ok {
        featureId := feature.featureId
        qualifiedName := feature.qualifiedName
        semantic := feature.semantic
        sourceDeviceId := feature.sourceDeviceId
        vectorKind := kind.asStrName
        unit := feature.unit
        shape := feature.shape
        values := segmentAt feature.offset.toNat feature.length.toNat vector
        valid := testBit validity index
        required := feature.required }
      else .error .featureSlice

def projectFeatures (step : SynchronizedDatasetStep) (manifest : SessionManifestV1)
    (validity : List UInt8) : Except ProjectionError (List NamedFeature) :=
  manifest.featureSlices.zipIdx.mapM fun entry => projectFeature step validity entry.2 entry.1

variable {step : SynchronizedDatasetStep} {manifest : SessionManifestV1}

/-- Features that can be projected one by one are projected in order. -/
theorem projectFeatures_eq_ok {validity : List UInt8} {projected : List NamedFeature}
    (hlength : projected.length = manifest.featureSlices.length)
    (h : ∀ (index : Nat) (feature : FeatureSliceV1) (named : NamedFeature),
      manifest.featureSlices[index]? = some feature → projected[index]? = some named →
        projectFeature step validity index feature = .ok named) :
    projectFeatures step manifest validity = .ok projected := by
  refine mapM_eq_ok.mpr (List.forall₂_iff_get.mpr ⟨by rw [List.length_zipIdx, hlength], ?_⟩)
  intro index hfeature hnamed
  rw [List.length_zipIdx] at hfeature
  simpa using h index _ _ (List.getElem?_eq_getElem hfeature) (List.getElem?_eq_getElem hnamed)

/-! ## Frame events -/

/-- `as_str_name` of an enumeration value, or its number if there is none. -/
def enumName (names : List (Int32 × String)) (value : Int32) : String :=
  (names.lookup value).getD ("UNKNOWN_" ++ toString value)

def enumNameTimestamp : Int32 → String :=
  enumName [(0, "TIMESTAMP_QUALITY_UNSPECIFIED"), (1, "TIMESTAMP_QUALITY_HARDWARE_CAPTURE"),
    (2, "TIMESTAMP_QUALITY_V4L2_DRIVER"), (3, "TIMESTAMP_QUALITY_GSTREAMER_RUNNING_TIME"),
    (4, "TIMESTAMP_QUALITY_EDGE_DEQUEUE"), (5, "TIMESTAMP_QUALITY_SOURCE_CLOCK_MAPPED"),
    (6, "TIMESTAMP_QUALITY_EDGE_RECEIVE_FALLBACK"), (255, "TIMESTAMP_QUALITY_INVALID")]

def enumNameAction : Int32 → String :=
  enumName [(0, "ACTION_SOURCE_QUALITY_UNSPECIFIED"),
    (1, "ACTION_SOURCE_QUALITY_CONTROLLER_EFFECTIVE_TARGET"),
    (2, "ACTION_SOURCE_QUALITY_APPLIED_FEEDBACK"), (3, "ACTION_SOURCE_QUALITY_ACCEPTED_COMMAND"),
    (4, "ACTION_SOURCE_QUALITY_LAST_SENT_COMMAND"), (255, "ACTION_SOURCE_QUALITY_UNAVAILABLE")]

/-- The name of a `FrameValidityFlag`. -/
def enumNameValidity : Int32 → String :=
  enumName [(0, "FRAME_VALIDITY_FLAG_UNSPECIFIED"), (1, "FRAME_VALIDITY_FLAG_OBSERVATION_VALID"),
    (2, "FRAME_VALIDITY_FLAG_ACTION_VALID"), (3, "FRAME_VALIDITY_FLAG_REQUIRED_DEVICES_PRESENT"),
    (4, "FRAME_VALIDITY_FLAG_CLOCK_MAPPING_VALID"),
    (5, "FRAME_VALIDITY_FLAG_INTERPOLATION_VALID"), (6, "FRAME_VALIDITY_FLAG_SCHEMA_MATCHED"),
    (7, "FRAME_VALIDITY_FLAG_CONTEXT_CRC_VALID")]

structure DeviceFrameQuality where
  deviceId : String
  timestampQuality : String
  previousSampleTimeEdgeNs : UInt64
  nextSampleTimeEdgeNs : UInt64
  maxFeatureGapNs : UInt64
  clockModelRevision : UInt64
  clockResidualNs : Int64
  valid : Bool
  invalidReason : String
  actionSourceQuality : String
  deriving DecidableEq

/-- The quality of a device, with the names of its enumeration values. -/
def deviceFrameQuality (quality : DeviceFrameQualityV1) : DeviceFrameQuality where
  deviceId := quality.deviceId
  timestampQuality := enumNameTimestamp quality.timestampQuality
  previousSampleTimeEdgeNs := quality.previousSampleTimeEdgeNs
  nextSampleTimeEdgeNs := quality.nextSampleTimeEdgeNs
  maxFeatureGapNs := quality.maxFeatureGapNs
  clockModelRevision := quality.clockModelRevision
  clockResidualNs := quality.clockResidualNs
  valid := quality.valid
  invalidReason := quality.invalidReason
  actionSourceQuality := enumNameAction quality.actionSourceQuality

/-- Session and camera keys are kept as the characters of their text. -/
structure FrameMetadataEvent where
  sessionId : List Char
  manifestRevision : UInt64
  anchorCameraId : String
  anchorFrameSeq : UInt64
  stepCaptureTimeEdgeNs : UInt64
  cameraId : String
  cameraKey : List Char
  captureTimeEdgeNs : UInt64
  skewFromAnchorNs : Int
  streamEpoch : UInt32
  normalizedPtsNs : UInt64
  mediaPtsSeconds : Float
  accessUnitOrdinal : UInt64
  encodedBytes : Nat
  valid : Bool
  invalidReason : String
  observationSchemaId : UInt64
  actionSchemaId : UInt64
  actionSourceQuality : String
  validityFlags : List String
  contextCrc32c : UInt32
  namedFeatures : List NamedFeature
  deviceQuality : List DeviceFrameQuality

/-- `camera_key`: the bytes of the id in hexadecimal. -/
def cameraKey (cameraId : String) : List Char :=
  Text.ascii (Text.hexDigits (Text.utf8 cameraId.toList))

/-- Nanoseconds as seconds, rounded to an `f64`. -/
def mediaPtsSeconds (normalizedPtsNs : UInt64) : Float := normalizedPtsNs.toFloat / 1000000000.0

/-- The event of one frame of a step. -/
def frameMetadataEvent (uuidText : UuidText) (step : SynchronizedDatasetStep)
    (manifest : SessionManifestV1) (sessionId : Uuid) (context : AnchorFrameContextV1)
    (packet : AnchorFrameContextPacketV1) (namedFeatures : List NamedFeature)
    (frame : FrameReference) : FrameMetadataEvent where
  sessionId := uuidText.hyphenated sessionId
  manifestRevision := step.manifestRevision
  anchorCameraId := manifest.anchorCameraId
  anchorFrameSeq := context.anchorFrameSeq
  stepCaptureTimeEdgeNs := step.captureTimeEdgeNs
  cameraId := frame.cameraId
  cameraKey := cameraKey frame.cameraId
  captureTimeEdgeNs := frame.captureTimeEdgeNs
  skewFromAnchorNs := frame.skewFromAnchorNs
  streamEpoch := frame.streamEpoch
  normalizedPtsNs := frame.normalizedPtsNs
  mediaPtsSeconds := mediaPtsSeconds frame.normalizedPtsNs
  accessUnitOrdinal := frame.accessUnitOrdinal
  encodedBytes := frame.encodedImage.length
  valid := step.valid
  invalidReason := step.invalidReason
  observationSchemaId := context.observationSchemaId
  actionSchemaId := context.actionSchemaId
  actionSourceQuality := enumNameAction context.actionSourceQuality
  validityFlags := context.validityFlags.map enumNameValidity
  contextCrc32c := packet.payloadCrc32c
  namedFeatures
  deviceQuality := context.deviceQuality.map deviceFrameQuality

/-- Nothing here compares the revision of the step with the manifest's. -/
def projectMetadata (uuidText : UuidText) (step : SynchronizedDatasetStep)
    (manifest : SessionManifestV1) : Except ProjectionError (List FrameMetadataEvent) :=
  match Uuid.fromSlice step.sessionId with
  | none => .error .session
  | some sessionId =>
    match step.anchorContext, step.anchorContextPacket with
    | some context, some packet => do
      let namedFeatures ← projectFeatures step manifest context.featureValidityBitmap
      pure (step.frames.map
        (frameMetadataEvent uuidText step manifest sessionId context packet namedFeatures))
    | _, _ => .error .context

/-- The events of a step are those of its frames, in order. -/
theorem projectMetadata_eq_ok {uuidText : UuidText} {events : List FrameMetadataEvent}
    (h : projectMetadata uuidText step manifest = .ok events) :
    ∃ sessionId context packet namedFeatures,
      step.sessionId = sessionId.bytes ∧ step.anchorContext = some context ∧
      projectFeatures step manifest context.featureValidityBitmap = .ok namedFeatures ∧
      events = step.frames.map
        (frameMetadataEvent uuidText step manifest sessionId context packet namedFeatures) := by
  unfold projectMetadata at h
  split at h
  · cases h
  · rename_i sessionId hsession
    split at h
    · rename_i context packet hcontext _
      obtain ⟨namedFeatures, hfeatures, hevents⟩ := bind_eq_ok.mp h
      exact ⟨sessionId, context, packet, namedFeatures, Uuid.fromSlice_eq_some.mp hsession,
        hcontext, hfeatures, (Except.ok.inj hevents).symm⟩
    · cases h

end RobotMulticam.Relay
