import RobotMulticam.Discovery.CameraMap
import RobotMulticam.Discovery.Policy
import RobotMulticam.Edge.Embodiment
import RobotMulticam.Identity.StreamIdentity

/-!
# The manifest of a session

`build_manifest_chunks` describes the planned cameras and the compiled
embodiment in one manifest and cuts it into chunks. The port of a camera is
the base port and its slot; its epoch is taken from the same map as the epoch
in its stream identity, with the same default.

BLAKE3, the version of the package and the clock are parameters
(`BuildEnvironment`). Errors are the texts the function reports.
-/

namespace RobotMulticam.Edge

open RobotMulticam.Lib
open RobotMulticam.Protocol
open RobotMulticam.Codec
open RobotMulticam.Identity
open RobotMulticam.Discovery (CameraMapping EvaluatedCamera)
open Std (ExtTreeMap)

/-- An evaluated camera, its entry in the map and its virtual device. -/
structure PlannedCamera where
  item : EvaluatedCamera
  allocation : CameraMapping
  virtualDevice : String
  deriving DecidableEq

/-- `item.camera.stable_camera_id` -/
def PlannedCamera.id (planned : PlannedCamera) : String := planned.item.camera.stableCameraId

structure EdgeConfig where
  width : UInt32
  height : UInt32
  fps : UInt32
  basePort : UInt16
  embodimentId : String
  edgeInstanceId : String
  deriving DecidableEq

structure AdapterRuntime where
  descriptors : ExtTreeMap String AdapterDescriptor
  compiled : CompiledEmbodiment

structure BuildEnvironment where
  blake3 : List UInt8 → List UInt8
  cargoPkgVersion : String
  /-- `SystemClock::obtain().time()` in nanoseconds. -/
  systemTime : Option UInt64

/-- The arguments of `build_manifest_chunks`. -/
structure ManifestPlan where
  config : EdgeConfig
  sessionId : Uuid
  edgeBootId : Uuid
  manifestRevision : UInt64
  planned : List PlannedCamera
  streamEpochs : ExtTreeMap String UInt32
  adapterRuntime : AdapterRuntime

/-! ## Devices and features -/

def deviceDescriptor (adapter : AdapterDescriptor) (device : DeviceDescriptor) :
    DeviceDescriptorV1 where
  adapterInstanceId := adapter.adapterInstanceId
  deviceId := device.deviceId
  deviceKind := device.kind
  role := device.role
  vendor := device.vendor
  model := device.model
  adapterVersion := adapter.adapterVersion
  sdkVersion := adapter.vendorSdkVersion
  sourceClockId := (adapter.sourceClock.map (·.sourceClockId)).getD ""
  required := device.required

/-- `FeatureVectorKind` of a compiled feature, `as i32`. -/
def VectorKind.toInt32 : VectorKind → Int32
  | .observation => vectorKindObservation
  | .action => vectorKindAction
  | .auxiliary => vectorKindAuxiliary

def featureSlice (descriptors : ExtTreeMap String AdapterDescriptor) (feature : CompiledFeature) :
    FeatureSliceV1 where
  featureId := feature.featureId
  qualifiedName := feature.qualifiedName
  -- looked up by id alone, in the order of the adapter ids
  semantic := (((descriptors.values.flatMap (·.features)).find?
    (·.featureId = feature.featureId)).map (·.semantic)).getD ""
  sourceDeviceId := feature.deviceId
  vectorKind := feature.kind.toInt32
  dataType := featureDataTypeFloat32
  unit := feature.unit
  shape := feature.shape
  offset := feature.offset
  length := feature.length
  interpolation := feature.interpolation
  required := feature.required

/-! ## Cameras -/

/-- `base_port.checked_add(stream_slot)` -/
def checkedPort (basePort streamSlot : UInt16) : Option UInt16 :=
  if basePort.toNat + streamSlot.toNat < 2 ^ 16 then some (basePort + streamSlot) else none

/-- `stream_epochs.get(id).copied().unwrap_or(1)` -/
def streamEpoch (streamEpochs : ExtTreeMap String UInt32) (id : String) : UInt32 :=
  streamEpochs[id]?.getD 1

variable (environment : BuildEnvironment)

/-- The first eight bytes of the digest of an id. -/
def cameraIdHash (id : String) : UInt64 :=
  UInt64.ofNat (((environment.blake3 id.toUTF8.toList).take 8).foldl
    (fun value byte => 256 * value + byte.toNat) 0)

variable (plan : ManifestPlan)

def cameraOf (planned : PlannedCamera) (port : UInt16) :
    CameraDescriptorV1 where
  cameraIdHash := cameraIdHash environment planned.id
  stableCameraId := planned.id
  productName := planned.item.camera.endpoint.productName
  serial := planned.item.camera.endpoint.serial.getD ""
  physicalDevice := planned.item.camera.endpoint.devicePath
  virtualDevice := planned.virtualDevice
  streamSlot := planned.allocation.streamSlot.toUInt32
  streamEpoch := streamEpoch plan.streamEpochs planned.id
  width := plan.config.width
  height := plan.config.height
  fpsNum := plan.config.fps
  fpsDen := 1
  pixelFormat := "I420"
  streamExcluded := !planned.item.streamEnabled
  requiredForDataset := planned.item.streamEnabled
  role := if planned.item.anchor then cameraRoleAnchor else cameraRoleSecondary
  videoCodec := videoCodecH264
  transport := "srt-mpegts"
  transportPort := port.toUInt32
  streamIdSchema := "rmc1"
  timestampQuality := timestampGstreamerRunningTime
  timestampSource := "GStreamer pipeline clock"
  timestampEvent := "capture-buffer running time"
  sourceClockId := "edge-monotonic"

def cameraDescriptor (planned : PlannedCamera) :
    Except String CameraDescriptorV1 := do
  -- a camera that is not streamed needs a port as well
  let port ← withContext "camera transport port overflow"
    (checkedPort plan.config.basePort planned.allocation.streamSlot)
  .ok (cameraOf environment plan planned port)

/-- The identity `serve` gives the stream of a planned camera. -/
def ManifestPlan.streamIdentity (planned : PlannedCamera) :
    StreamIdentity where
  embodimentId := plan.config.embodimentId
  edgeInstanceId := plan.config.edgeInstanceId
  edgeBootId := plan.edgeBootId
  sessionId := plan.sessionId
  cameraId := planned.id
  slot := planned.allocation.streamSlot
  epoch := streamEpoch plan.streamEpochs planned.id
  role := if planned.item.anchor then .anchor else .secondary
  codec := .h264

/-! ## The manifest -/

def manifestOf (cameras : List CameraDescriptorV1) (anchorCameraId : String)
    (sessionEpochEdgeNs : UInt64) : SessionManifestV1 where
  schemaVersion := 1
  sessionId := plan.sessionId.bytes
  embodimentId := plan.config.embodimentId
  edgeCoreVersion := environment.cargoPkgVersion
  clockDomainId := "edge-monotonic"
  sessionEpochEdgeNs
  manifestRevision := plan.manifestRevision
  cameraCatalogRevision := plan.manifestRevision
  anchorCameraId
  observationSchemaId := plan.adapterRuntime.compiled.observationSchemaId
  actionSchemaId := plan.adapterRuntime.compiled.actionSchemaId
  observationVectorLength := plan.adapterRuntime.compiled.observationLength
  actionVectorLength := plan.adapterRuntime.compiled.actionLength
  auxiliaryVectorLength := plan.adapterRuntime.compiled.auxiliaryLength
  edgeBootId := plan.edgeBootId.bytes
  edgeInstanceId := plan.config.edgeInstanceId
  streamIdSchema := "rmc1"
  schemaIdAlgorithm := schemaIdHash
  devices := plan.adapterRuntime.descriptors.values.flatMap fun adapter =>
    adapter.devices.map (deviceDescriptor adapter)
  featureSlices := plan.adapterRuntime.compiled.features.map
    (featureSlice plan.adapterRuntime.descriptors)
  cameras

def buildManifest :
    Except String SessionManifestV1 := do
  let cameras ← plan.planned.mapM (cameraDescriptor environment plan)
  let anchor ← withContext "anchor camera disappeared while building manifest"
    (plan.planned.find? (·.item.anchor))
  let sessionEpochEdgeNs ← withContext "GStreamer system clock unavailable"
    environment.systemTime
  .ok (manifestOf environment plan cameras anchor.id sessionEpochEdgeNs)

/-- The serialized manifest and its chunks. -/
def buildManifestChunks (externals : Externals) (environment : BuildEnvironment)
    (plan : ManifestPlan) : Except String (List UInt8 × List SessionManifestChunkV1) := do
  let manifest ← buildManifest environment plan
  let serialized := externals.manifest.encodeToVec manifest
  let chunks ← (chunkManifest externals serialized plan.sessionId.bytes plan.manifestRevision
    .zstd).mapError ManifestError.text
  .ok (serialized, chunks)

/-! ## What is built -/

section Built

variable {environment : BuildEnvironment} {plan : ManifestPlan}

theorem cameraDescriptor_eq_ok {planned : PlannedCamera} {camera : CameraDescriptorV1}
    (h : cameraDescriptor environment plan planned = .ok camera) :
    plan.config.basePort.toNat + planned.allocation.streamSlot.toNat < 2 ^ 16 ∧
      camera = cameraOf environment plan planned
        (plan.config.basePort + planned.allocation.streamSlot) := by
  unfold cameraDescriptor at h
  obtain ⟨port, hport, h⟩ := bind_eq_ok.mp h
  cases h
  rw [withContext_eq_ok] at hport
  unfold checkedPort at hport
  split at hport
  · rename_i hsmall
    cases hport
    exact ⟨hsmall, rfl⟩
  · cases hport

/-- The cameras of a manifest, one for each that was planned. -/
def camerasOf (environment : BuildEnvironment) (plan : ManifestPlan) : List CameraDescriptorV1 :=
  plan.planned.map fun camera =>
    cameraOf environment plan camera (plan.config.basePort + camera.allocation.streamSlot)

theorem buildManifest_eq_ok {manifest : SessionManifestV1}
    (h : buildManifest environment plan = .ok manifest) :
    ∃ anchor time, plan.planned.find? (·.item.anchor) = some anchor ∧
      (∀ camera ∈ plan.planned,
        plan.config.basePort.toNat + camera.allocation.streamSlot.toNat < 2 ^ 16) ∧
      manifest = manifestOf environment plan (camerasOf environment plan) anchor.id time := by
  unfold buildManifest at h
  obtain ⟨cameras, hcameras, h⟩ := bind_eq_ok.mp h
  obtain ⟨anchor, hanchor, h⟩ := bind_eq_ok.mp h
  obtain ⟨time, _, h⟩ := bind_eq_ok.mp h
  cases h
  have hall := mapM_eq_ok.mp hcameras
  have hsame : cameras = camerasOf environment plan := by
    rw [camerasOf, ← List.map_id cameras]
    exact map_eq_of_forall₂ hall fun _ _ hcamera => (cameraDescriptor_eq_ok hcamera).2
  refine ⟨anchor, time, withContext_eq_ok.mp hanchor, ?_, by rw [hsame]⟩
  refine (forall_mem_iff_of_forall₂ hall (Q := fun _ => True) ?_).mpr fun _ _ => trivial
  intro camera described hcamera
  exact iff_of_true (cameraDescriptor_eq_ok hcamera).1 trivial

theorem buildManifestChunks_eq_ok {externals : Externals} {bytes : List UInt8}
    {chunks : List SessionManifestChunkV1}
    (h : buildManifestChunks externals environment plan = .ok (bytes, chunks)) :
    ∃ manifest, buildManifest environment plan = .ok manifest ∧
      bytes = externals.manifest.encodeToVec manifest := by
  unfold buildManifestChunks at h
  obtain ⟨manifest, hmanifest, h⟩ := bind_eq_ok.mp h
  obtain ⟨cut, _, h⟩ := bind_eq_ok.mp h
  cases h
  exact ⟨manifest, hmanifest, rfl⟩

end Built

end RobotMulticam.Edge
