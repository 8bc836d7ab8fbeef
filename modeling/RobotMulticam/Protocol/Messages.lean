import RobotMulticam.Lib.Binary32
import RobotMulticam.Lib.Uuid

/-!
# Protocol constants and wire messages

The constants are those of `config/protocol_constants.toml`; the records are
the messages of `proto/frame_metadata.proto`, `proto/receiver_api.proto` and
`proto/adapter_api.proto`, restricted to the fields the modelled code reads,
sets or copies. Protobuf
enumerations are kept as the `i32` that `prost` stores.

The byte formats themselves belong to other packages (`prost`, `zstd`,
`crc32c`). They enter as `Externals`, and what the code relies on about
them is stated as separate properties (`Message.RoundTrips`,
`Zstd.RoundTrips`).
-/

namespace RobotMulticam.Protocol

open RobotMulticam.Lib

/-! ## Constants -/

/-- `4a1191e6-9578-53b3-92a7-04c049fe0d5b` -/
def syncTimestampUuid : Uuid where
  bytes := [0x4a, 0x11, 0x91, 0xe6, 0x95, 0x78, 0x53, 0xb3,
    0x92, 0xa7, 0x04, 0xc0, 0x49, 0xfe, 0x0d, 0x5b]
  size := rfl

/-- `62ef08bb-2eb4-59fb-b83f-f8f874a80043` -/
def anchorContextUuid : Uuid where
  bytes := [0x62, 0xef, 0x08, 0xbb, 0x2e, 0xb4, 0x59, 0xfb,
    0xb8, 0x3f, 0xf8, 0xf8, 0x74, 0xa8, 0x00, 0x43]
  size := rfl

/-- `791a8fc5-d0c3-5abf-81da-abf7f0373194` -/
def sessionManifestUuid : Uuid where
  bytes := [0x79, 0x1a, 0x8f, 0xc5, 0xd0, 0xc3, 0x5a, 0xbf,
    0x81, 0xda, 0xab, 0xf7, 0xf0, 0x37, 0x31, 0x94]
  size := rfl

def srtStreamIdSchema : String := "rmc1"

def maxStreamIdBytes : Nat := 256

def maxAnchorContextPacketBytes : Nat := 8192

def maxManifestChunkBytes : Nat := 8192

def maxManifestTotalBytes : Nat := 262144

def schemaIdHash : String := "RFC8785-JCS+SHA-256-first-64-bits-big-endian"

def manifestMaxCompressionRatio : Nat := 16

/-! ## Messages -/

structure SyncTimestampV1 where
  captureTimeEdgeNs : UInt64
  deriving DecidableEq, Repr

structure DeviceFrameQualityV1 where
  deviceId : String := ""
  timestampQuality : Int32 := 0
  previousSampleTimeEdgeNs : UInt64 := 0
  nextSampleTimeEdgeNs : UInt64 := 0
  maxFeatureGapNs : UInt64 := 0
  interpolationAlpha : F32 := ⟨0⟩
  clockModelRevision : UInt64 := 0
  clockResidualNs : Int64 := 0
  valid : Bool := false
  invalidReason : String := ""
  actionSourceQuality : Int32 := 0
  deriving DecidableEq

structure AnchorFrameContextV1 where
  schemaVersion : UInt32 := 0
  sessionId : List UInt8 := []
  anchorFrameSeq : UInt64 := 0
  manifestRevision : UInt64 := 0
  observationSchemaId : UInt64 := 0
  actionSchemaId : UInt64 := 0
  observationState : List F32 := []
  action : List F32 := []
  auxiliary : List F32 := []
  featureValidityBitmap : List UInt8 := []
  actionSourceQuality : Int32 := 0
  deviceQuality : List DeviceFrameQualityV1 := []
  validityFlags : List Int32 := []
  invalidReason : String := ""
  deriving DecidableEq

structure AnchorFrameContextPacketV1 where
  schemaVersion : UInt32 := 0
  serializedContext : List UInt8 := []
  payloadCrc32c : UInt32 := 0
  deriving DecidableEq

/-- `FeatureDataType::Float32 as i32`. -/
def featureDataTypeFloat32 : Int32 := 1

/-- `FeatureVectorKind::Observation as i32`. -/
def vectorKindObservation : Int32 := 1

/-- `FeatureVectorKind::Action as i32`. -/
def vectorKindAction : Int32 := 2

/-- `FeatureVectorKind::Auxiliary as i32`. -/
def vectorKindAuxiliary : Int32 := 3

structure FeatureSliceV1 where
  featureId : UInt64 := 0
  qualifiedName : String := ""
  semantic : String := ""
  sourceDeviceId : String := ""
  vectorKind : Int32 := 0
  dataType : Int32 := 0
  unit : String := ""
  shape : List UInt32 := []
  offset : UInt32 := 0
  length : UInt32 := 0
  interpolation : Int32 := 0
  required : Bool := false
  deriving DecidableEq

structure DeviceDescriptorV1 where
  adapterInstanceId : String := ""
  deviceId : String := ""
  deviceKind : Int32 := 0
  role : String := ""
  vendor : String := ""
  model : String := ""
  adapterVersion : String := ""
  sdkVersion : String := ""
  sourceClockId : String := ""
  required : Bool := false
  deriving DecidableEq

/-- `CameraRoleV1::Anchor as i32`. -/
def cameraRoleAnchor : Int32 := 1

/-- `CameraRoleV1::Secondary as i32`. -/
def cameraRoleSecondary : Int32 := 2

/-- `VideoCodecV1::H264 as i32`. -/
def videoCodecH264 : Int32 := 1

/-- `TimestampQuality::GstreamerRunningTime as i32`. -/
def timestampGstreamerRunningTime : Int32 := 3

/-- The accuracy and calibration fields are never set by the code. -/
structure CameraDescriptorV1 where
  cameraIdHash : UInt64 := 0
  stableCameraId : String := ""
  productName : String := ""
  serial : String := ""
  physicalDevice : String := ""
  virtualDevice : String := ""
  streamSlot : UInt32 := 0
  streamEpoch : UInt32 := 0
  width : UInt32 := 0
  height : UInt32 := 0
  fpsNum : UInt32 := 0
  fpsDen : UInt32 := 0
  pixelFormat : String := ""
  streamExcluded : Bool := false
  requiredForDataset : Bool := false
  role : Int32 := 0
  videoCodec : Int32 := 0
  transport : String := ""
  transportPort : UInt32 := 0
  streamIdSchema : String := ""
  timestampQuality : Int32 := 0
  timestampSource : String := ""
  timestampEvent : String := ""
  sourceClockId : String := ""
  deriving DecidableEq

structure SessionManifestV1 where
  schemaVersion : UInt32 := 0
  sessionId : List UInt8 := []
  embodimentId : String := ""
  edgeCoreVersion : String := ""
  clockDomainId : String := ""
  sessionEpochEdgeNs : UInt64 := 0
  manifestRevision : UInt64 := 0
  cameraCatalogRevision : UInt64 := 0
  anchorCameraId : String := ""
  observationSchemaId : UInt64 := 0
  actionSchemaId : UInt64 := 0
  observationVectorLength : UInt32 := 0
  actionVectorLength : UInt32 := 0
  auxiliaryVectorLength : UInt32 := 0
  edgeBootId : List UInt8 := []
  edgeInstanceId : String := ""
  streamIdSchema : String := ""
  schemaIdAlgorithm : String := ""
  devices : List DeviceDescriptorV1 := []
  featureSlices : List FeatureSliceV1 := []
  cameras : List CameraDescriptorV1 := []
  deriving DecidableEq

/-- `ManifestCompressionV1`, with its `i32` values. -/
inductive ManifestCompressionV1 where
  | unspecified
  | none
  | zstd
  deriving DecidableEq, Repr

/-- `ManifestCompressionV1 as i32`. -/
def ManifestCompressionV1.toInt32 : ManifestCompressionV1 → Int32
  | .unspecified => 0
  | .none => 1
  | .zstd => 2

/-- `ManifestCompressionV1::try_from(i32)`. -/
def ManifestCompressionV1.tryFrom (value : Int32) : Option ManifestCompressionV1 :=
  if value = 0 then some .unspecified
  else if value = 1 then some .none
  else if value = 2 then some .zstd
  else Option.none

@[simp] theorem ManifestCompressionV1.tryFrom_toInt32 (mode : ManifestCompressionV1) :
    ManifestCompressionV1.tryFrom mode.toInt32 = some mode := by
  cases mode <;> rfl

structure SessionManifestChunkV1 where
  schemaVersion : UInt32
  sessionId : List UInt8
  manifestRevision : UInt64
  chunkIndex : UInt32
  chunkCount : UInt32
  compression : Int32
  uncompressedSize : UInt32
  fullPayloadCrc32c : UInt32
  chunkPayload : List UInt8
  deriving DecidableEq

/-- `preview_uri` is never set by the code. -/
structure FrameReference where
  cameraId : String
  captureTimeEdgeNs : UInt64
  skewFromAnchorNs : Int
  storageUri : String
  encodedImage : List UInt8
  encodedImageMediaType : String
  streamEpoch : UInt32
  normalizedPtsNs : UInt64
  accessUnitOrdinal : UInt64
  deriving DecidableEq

/-- `device_quality` is never set by the code. -/
structure SynchronizedDatasetStep where
  sessionId : List UInt8
  manifestRevision : UInt64
  captureTimeEdgeNs : UInt64
  frames : List FrameReference
  observationState : List F32
  action : List F32
  auxiliary : List F32
  valid : Bool
  invalidReason : String
  anchorContext : Option AnchorFrameContextV1
  anchorContextPacket : Option AnchorFrameContextPacketV1
  deriving DecidableEq

/-! ## Adapter messages -/

structure FeatureDescriptor where
  featureId : UInt64 := 0
  qualifiedName : String := ""
  semantic : String := ""
  role : Int32 := 0
  unit : String := ""
  shape : List UInt32 := []
  interpolation : Int32 := 0
  required : Bool := false
  deriving DecidableEq

structure SourceClockDescriptor where
  sourceClockId : String := ""
  kind : Int32 := 0
  description : String := ""
  supportsProbe : Bool := false
  deriving DecidableEq

structure DeviceDescriptor where
  deviceId : String := ""
  kind : Int32 := 0
  role : String := ""
  vendor : String := ""
  model : String := ""
  required : Bool := false
  features : List FeatureDescriptor := []
  commandModes : List String := []
  deriving DecidableEq

structure AdapterDescriptor where
  apiVersion : UInt32 := 0
  adapterInstanceId : String := ""
  adapterName : String := ""
  adapterVersion : String := ""
  vendorSdkVersion : String := ""
  sourceClock : Option SourceClockDescriptor := none
  devices : List DeviceDescriptor := []
  descriptorRevision : UInt64 := 0
  deriving DecidableEq

/-- The features of all devices, in order. -/
def AdapterDescriptor.features (descriptor : AdapterDescriptor) : List FeatureDescriptor :=
  descriptor.devices.flatMap (·.features)

structure FeatureBlock where
  featureId : UInt64 := 0
  values : List F32 := []
  valid : Bool := false
  invalidReason : String := ""
  sourceTimeNs : UInt64 := 0
  deriving DecidableEq

structure DeviceSample where
  adapterInstanceId : String := ""
  deviceId : String := ""
  sampleSeq : UInt64 := 0
  sourceClockId : String := ""
  sourceTimeNs : UInt64 := 0
  featureBlocks : List FeatureBlock := []
  descriptorRevision : UInt64 := 0
  deriving DecidableEq

/-! ## External byte formats -/

/-- `prost::Message` for one message type. -/
structure Message (M : Type) where
  encodeToVec : M → List UInt8
  decode : List UInt8 → Option M

/-- Decoding undoes encoding. -/
def Message.RoundTrips {M : Type} (message : Message M) : Prop :=
  ∀ value, message.decode (message.encodeToVec value) = some value

/-- `zstd::stream`: `encode_all`, and `Decoder::new(encoded)` followed by
`take(limit).read_to_end`. Errors are their `to_string`. -/
structure Zstd where
  encodeAll : List UInt8 → Except String (List UInt8)
  readTake : List UInt8 → Nat → Except String (List UInt8)

/-- Reading back an encoded stream yields its first `limit` bytes. -/
def Zstd.RoundTrips (zstd : Zstd) : Prop :=
  ∀ bytes encoded limit, zstd.encodeAll bytes = .ok encoded →
    zstd.readTake encoded limit = .ok (bytes.take limit)

/-- The byte formats and checksums the code takes from other packages. -/
structure Externals where
  timestamp : Message SyncTimestampV1
  context : Message AnchorFrameContextV1
  packet : Message AnchorFrameContextPacketV1
  manifest : Message SessionManifestV1
  chunk : Message SessionManifestChunkV1
  crc32c : List UInt8 → UInt32
  zstd : Zstd

end RobotMulticam.Protocol
