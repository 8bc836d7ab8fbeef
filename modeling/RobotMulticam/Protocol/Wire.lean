import RobotMulticam.Protocol.Messages

/-!
# The protobuf bytes of the modelled messages

`prost` writes the fields of a message in the order of their numbers and
leaves out the ones that have their default value. The functions below write
the modelled fields of `proto/frame_metadata.proto` that way, and `crc32c`
is the Castagnoli checksum of the `crc32c` package.

They make concrete `Externals` on which the model can be run. Reading is
given for a list of known messages (`Message.listed`): a reader that knows
them returns the message whose bytes it sees.
-/

namespace RobotMulticam.Protocol

open RobotMulticam.Lib

/-! ## Fields -/

/-- Base-128 groups, low group first; a 64-bit number needs at most ten. -/
def varint (value : Nat) : List UInt8 := go 10 value
where
  go : Nat → Nat → List UInt8
    | 0, _ => []
    | fuel + 1, value =>
      if value < 128 then [UInt8.ofNat value]
      else UInt8.ofNat (128 + value % 128) :: go fuel (value / 128)

/-- A field's tag: its number and its wire type. -/
def fieldKey (number wireType : Nat) : List UInt8 := varint (8 * number + wireType)

/-- The `count` low bytes of a number, low byte first. -/
def littleEndian (count value : Nat) : List UInt8 :=
  (List.range count).map fun index => UInt8.ofNat (value / 256 ^ index)

variable (number : Nat)

def uint32Field (value : UInt32) : List UInt8 :=
  if value = 0 then [] else fieldKey number 0 ++ varint value.toNat

/-- Enumerations are written as their two's complement 64-bit value. -/
def enumField (value : Int32) : List UInt8 :=
  if value = 0 then []
  else fieldKey number 0 ++ varint (value.toInt % 2 ^ 64).toNat

def boolField (value : Bool) : List UInt8 :=
  if value then fieldKey number 0 ++ [1] else []

def fixed64Field (value : UInt64) : List UInt8 :=
  if value = 0 then [] else fieldKey number 1 ++ littleEndian 8 value.toNat

/-- Zigzag numbers: signs alternate, small magnitudes stay small. -/
def sint64Field (value : Int64) : List UInt8 :=
  if value = 0 then []
  else fieldKey number 0 ++
    varint (if 0 ≤ value.toInt then 2 * value.toInt else -2 * value.toInt - 1).toNat

/-- Both zeros are the default. -/
def floatField (value : F32) : List UInt8 :=
  if value.bits = 0 ∨ value.bits = 0x80000000 then []
  else fieldKey number 5 ++ littleEndian 4 value.bits.toNat

/-- A length-delimited field, also when it is empty. -/
def delimitedField (bytes : List UInt8) : List UInt8 :=
  fieldKey number 2 ++ varint bytes.length ++ bytes

def bytesField (bytes : List UInt8) : List UInt8 :=
  if bytes = [] then [] else delimitedField number bytes

def stringField (text : String) : List UInt8 :=
  bytesField number text.toUTF8.toList

def floatsField (values : List F32) : List UInt8 :=
  bytesField number (values.flatMap fun value => littleEndian 4 value.bits.toNat)

def uint32sField (values : List UInt32) : List UInt8 :=
  bytesField number (values.flatMap fun value => varint value.toNat)

def enumsField (values : List Int32) : List UInt8 :=
  bytesField number (values.flatMap fun value => varint (value.toInt % 2 ^ 64).toNat)

/-! ## Messages -/

def SyncTimestampV1.encode (timestamp : SyncTimestampV1) : List UInt8 :=
  fixed64Field 1 timestamp.captureTimeEdgeNs

def DeviceFrameQualityV1.encode (quality : DeviceFrameQualityV1) : List UInt8 :=
  stringField 1 quality.deviceId ++ enumField 2 quality.timestampQuality ++
    fixed64Field 3 quality.previousSampleTimeEdgeNs ++
    fixed64Field 4 quality.nextSampleTimeEdgeNs ++ fixed64Field 5 quality.maxFeatureGapNs ++
    floatField 6 quality.interpolationAlpha ++ fixed64Field 7 quality.clockModelRevision ++
    sint64Field 8 quality.clockResidualNs ++ boolField 9 quality.valid ++
    stringField 10 quality.invalidReason ++ enumField 11 quality.actionSourceQuality

def AnchorFrameContextV1.encode (context : AnchorFrameContextV1) : List UInt8 :=
  uint32Field 1 context.schemaVersion ++ bytesField 2 context.sessionId ++
    fixed64Field 3 context.anchorFrameSeq ++ fixed64Field 4 context.manifestRevision ++
    fixed64Field 5 context.observationSchemaId ++ fixed64Field 6 context.actionSchemaId ++
    floatsField 10 context.observationState ++ floatsField 11 context.action ++
    floatsField 12 context.auxiliary ++ bytesField 13 context.featureValidityBitmap ++
    enumField 20 context.actionSourceQuality ++
    context.deviceQuality.flatMap (fun quality => delimitedField 21 quality.encode) ++
    enumsField 22 context.validityFlags ++
    stringField 23 context.invalidReason

def AnchorFrameContextPacketV1.encode (packet : AnchorFrameContextPacketV1) : List UInt8 :=
  uint32Field 1 packet.schemaVersion ++ bytesField 2 packet.serializedContext ++
    uint32Field 3 packet.payloadCrc32c

def FeatureSliceV1.encode (slice : FeatureSliceV1) : List UInt8 :=
  fixed64Field 1 slice.featureId ++ stringField 2 slice.qualifiedName ++
    stringField 3 slice.semantic ++ stringField 4 slice.sourceDeviceId ++
    enumField 5 slice.vectorKind ++ enumField 6 slice.dataType ++ stringField 7 slice.unit ++
    uint32sField 8 slice.shape ++ uint32Field 9 slice.offset ++ uint32Field 10 slice.length ++
    enumField 11 slice.interpolation ++ boolField 12 slice.required

def DeviceDescriptorV1.encode (device : DeviceDescriptorV1) : List UInt8 :=
  stringField 1 device.adapterInstanceId ++ stringField 2 device.deviceId ++
    enumField 3 device.deviceKind ++ stringField 4 device.role ++ stringField 5 device.vendor ++
    stringField 6 device.model ++ stringField 7 device.adapterVersion ++
    stringField 8 device.sdkVersion ++ stringField 9 device.sourceClockId ++
    boolField 10 device.required

def CameraDescriptorV1.encode (camera : CameraDescriptorV1) : List UInt8 :=
  fixed64Field 1 camera.cameraIdHash ++ stringField 2 camera.stableCameraId ++
    stringField 3 camera.productName ++ stringField 4 camera.serial ++
    stringField 5 camera.physicalDevice ++ stringField 6 camera.virtualDevice ++
    uint32Field 7 camera.streamSlot ++ uint32Field 8 camera.streamEpoch ++
    uint32Field 9 camera.width ++ uint32Field 10 camera.height ++ uint32Field 11 camera.fpsNum ++
    uint32Field 12 camera.fpsDen ++ stringField 13 camera.pixelFormat ++
    boolField 14 camera.streamExcluded ++ boolField 15 camera.requiredForDataset ++
    enumField 16 camera.role ++ enumField 17 camera.videoCodec ++
    stringField 18 camera.transport ++ uint32Field 19 camera.transportPort ++
    stringField 20 camera.streamIdSchema ++ enumField 21 camera.timestampQuality ++
    stringField 25 camera.timestampSource ++ stringField 26 camera.timestampEvent ++
    stringField 27 camera.sourceClockId

def SessionManifestV1.encode (manifest : SessionManifestV1) : List UInt8 :=
  uint32Field 1 manifest.schemaVersion ++ bytesField 2 manifest.sessionId ++
    stringField 3 manifest.embodimentId ++ stringField 4 manifest.edgeCoreVersion ++
    stringField 5 manifest.clockDomainId ++ fixed64Field 6 manifest.sessionEpochEdgeNs ++
    fixed64Field 7 manifest.manifestRevision ++
    fixed64Field 8 manifest.cameraCatalogRevision ++ stringField 9 manifest.anchorCameraId ++
    fixed64Field 10 manifest.observationSchemaId ++ fixed64Field 11 manifest.actionSchemaId ++
    uint32Field 12 manifest.observationVectorLength ++
    uint32Field 13 manifest.actionVectorLength ++
    uint32Field 14 manifest.auxiliaryVectorLength ++ bytesField 15 manifest.edgeBootId ++
    stringField 16 manifest.edgeInstanceId ++ stringField 17 manifest.streamIdSchema ++
    stringField 19 manifest.schemaIdAlgorithm ++
    manifest.devices.flatMap (fun device => delimitedField 20 device.encode) ++
    manifest.featureSlices.flatMap (fun slice => delimitedField 21 slice.encode) ++
    manifest.cameras.flatMap (fun camera => delimitedField 30 camera.encode)

def SessionManifestChunkV1.encode (chunk : SessionManifestChunkV1) : List UInt8 :=
  uint32Field 1 chunk.schemaVersion ++ bytesField 2 chunk.sessionId ++
    fixed64Field 3 chunk.manifestRevision ++ uint32Field 4 chunk.chunkIndex ++
    uint32Field 5 chunk.chunkCount ++ enumField 6 chunk.compression ++
    uint32Field 7 chunk.uncompressedSize ++ uint32Field 8 chunk.fullPayloadCrc32c ++
    bytesField 9 chunk.chunkPayload

/-! ## Concrete externals -/

/-- A reader of the given messages. -/
def Message.listed {M : Type} (encode : M → List UInt8) (known : List M) : Message M where
  encodeToVec := encode
  decode bytes := known.find? fun value => encode value == bytes

/-- CRC-32C, one bit at a time. -/
def crc32c (bytes : List UInt8) : UInt32 :=
  UInt32.ofNat (update 0xffffffff bytes ^^^ 0xffffffff)
where
  shift (crc : Nat) : Nat :=
    (List.range 8).foldl
      (fun crc _ => if crc % 2 = 1 then (crc >>> 1) ^^^ 0x82f63b78 else crc >>> 1) crc
  -- the case split has the register evaluated before the next byte
  update : Nat → List UInt8 → Nat
    | crc, [] => crc
    | crc, byte :: bytes =>
      match shift (crc ^^^ byte.toNat) with
      | 0 => update 0 bytes
      | register + 1 => update (register + 1) bytes

/-- Compression that stores; none of the runs below compresses. -/
def Zstd.stored : Zstd where
  encodeAll bytes := .ok bytes
  readTake encoded limit := .ok (encoded.take limit)

theorem Zstd.stored_roundTrips : Zstd.stored.RoundTrips := by
  intro bytes encoded limit hencoded
  obtain rfl : bytes = encoded := Except.ok.inj hencoded
  rfl

/-- Externals that read the given messages. -/
def wireExternals (timestamps : List SyncTimestampV1) (contexts : List AnchorFrameContextV1)
    (packets : List AnchorFrameContextPacketV1) (manifests : List SessionManifestV1)
    (manifestChunks : List SessionManifestChunkV1) : Externals where
  timestamp := .listed SyncTimestampV1.encode timestamps
  context := .listed AnchorFrameContextV1.encode contexts
  packet := .listed AnchorFrameContextPacketV1.encode packets
  manifest := .listed SessionManifestV1.encode manifests
  chunk := .listed SessionManifestChunkV1.encode manifestChunks
  crc32c := crc32c
  zstd := .stored

-- the check value of CRC-32C: the checksum of the digits 1 to 9
example : crc32c [0x31, 0x32, 0x33, 0x34, 0x35, 0x36, 0x37, 0x38, 0x39] = 0xe3069283 := by
  decide +kernel

end RobotMulticam.Protocol
