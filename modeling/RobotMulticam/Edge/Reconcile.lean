import RobotMulticam.Discovery.Policy
import RobotMulticam.Edge.Context
import RobotMulticam.Edge.Exports
import RobotMulticam.Edge.SessionManifest
import RobotMulticam.Identity.Signed
import RobotMulticam.Lib.Triple

/-!
# The reconcile loop of the edge

Every two seconds `serve` looks for cameras and brings what runs in line with
what it finds. `turn` is the body of the loop, cut along its statements:

* `discover` finds the cameras and evaluates the policy;
* `restartAll` drops every pipeline when the set of ids has changed, and
  counts up the revision and the epochs;
* `planCamera` gives a camera its slot and its virtual device;
* `publishManifest` describes the planned cameras;
* `ensureRunning` starts what does not run;
* `record` saves the map and the exports, again when the set has changed.

An error in any of them ends `serve`, with everything written so far left as
it is. The snapshot, the virtual devices, the pipelines and the point where
writing files fails are inputs of a turn. Log messages and health checks are
left out.
-/

namespace RobotMulticam.Edge

open RobotMulticam.Lib
open RobotMulticam.Protocol
open RobotMulticam.Codec
open RobotMulticam.Identity
open RobotMulticam.Discovery (CameraCandidate CameraMap CameraPolicy DiscoveryError
  DiscoveryExternals EvaluatedCamera MapCodec MappingError RegexEngine SelectorError
  groupLogicalCameras)
open Std (ExtTreeMap ExtTreeSet)

/-! ## What a turn works with -/

/-- What stays the same over all starts of an edge: its configuration and the
libraries. -/
structure Deployment (Regex : Type) where
  config : EdgeConfig
  virtualPoolSize : UInt16
  virtualStart : UInt32
  manifestRepeatSec : UInt64
  hmacKey : List UInt8
  policy : CameraPolicy Regex
  regex : RegexEngine Regex
  discovery : DiscoveryExternals
  externals : Externals
  crates : IdentityCrates
  codec : MapCodec
  json : ExportsJson

/-- What `serve` sets up when it starts. -/
structure EdgeProcess where
  pid : Nat
  sessionId : Uuid
  edgeBootId : Uuid
  adapterRuntime : AdapterRuntime

/-- What the outside answers in one turn. -/
structure TurnInput where
  snapshot : Except String (List CameraCandidate)
  environment : BuildEnvironment
  /-- The check of a virtual device and its settings, by path. -/
  virtualDevice : String → Except String Unit
  /-- The start of a pipeline, by camera. -/
  pipeline : String → Except String Unit
  /-- After how many file operations saving the map fails, or the process
  dies, if it does. -/
  saveStops : Option Nat
  /-- The same for the exports. -/
  exportStops : Option Nat

inductive EdgeError where
  | snapshot (text : String)
  | discovery (error : DiscoveryError)
  | selector (error : SelectorError)
  | mapping (error : MappingError)
  | virtualCamera (text : String)
  | identity (error : IdentityError)
  | context (error : ContextError)
  | pipeline (text : String)
  | text (message : String)
  | io (error : IoError)
  /-- Writing failed otherwise, or the process died. -/
  | stopped

/-- What a streaming pipeline is started with. -/
structure StreamPipeline where
  identity : StreamIdentity
  port : UInt16
  streamId : String
  metadata : Option AnchorMetadataProvider

inductive Running where
  | stream (pipeline : StreamPipeline)
  | ui

structure EdgeState where
  mapping : CameraMap
  running : ExtTreeMap String Running
  previousActive : ExtTreeSet String
  streamEpochs : ExtTreeMap String UInt32
  manifestRevision : UInt64
  manifestStore : List UInt8
  /-- The state directory. -/
  directory : Directory
  /-- The streams that `serve` began to start, in order. -/
  started : List StreamPipeline
  /-- The lists that it began to export, in order; over all processes. -/
  exported : List (List CameraExport)

def PlannedCamera.toExport (planned : PlannedCamera) : CameraExport where
  stableCameraId := planned.id
  physicalDevice := planned.item.camera.endpoint.devicePath
  virtualDevice := planned.virtualDevice
  streamSlot := planned.allocation.streamSlot
  streamEnabled := planned.item.streamEnabled
  anchor := planned.item.anchor

/-- The error of a call as an error of `serve`. -/
def raise {ε α : Type} (f : ε → EdgeError) (result : Except ε α) : Outcome EdgeError α :=
  result.mapError fun error => .err (f error)

/-! ## The statements of the loop -/

section Turn

variable {Regex : Type} (deployment : Deployment Regex) (process : EdgeProcess)
  (input : TurnInput)

def discover : Outcome EdgeError (List EvaluatedCamera) := do
  let snapshot ← raise .snapshot input.snapshot
  let logical ← mapErr .discovery (groupLogicalCameras deployment.discovery snapshot)
  raise .selector (deployment.policy.evaluateOrDegrade deployment.regex logical)

def activeIds (evaluated : List EvaluatedCamera) : ExtTreeSet String :=
  .ofList (evaluated.map (·.camera.stableCameraId))

/-- Releasing a virtual device does nothing. -/
def dropRemoved (active : ExtTreeSet String) (state : EdgeState) : EdgeState :=
  { state with
    running := (state.previousActive.toList.filter (· ∉ active)).foldl (·.erase ·) state.running }

/-- `epoch.checked_add(1)` of the entry, which is made if it is missing. -/
def advanceEpoch (id : String) : Method EdgeError EdgeState Unit := do
  let state ← get
  let epoch := state.streamEpochs.getD id 0
  if epoch.toNat + 1 < 2 ^ 32 then
    set { state with streamEpochs := state.streamEpochs.insert id (epoch + 1) }
  else throw (.err (.text "stream epoch overflow"))

def advanceRevision : Method EdgeError EdgeState Unit := do
  let state ← get
  if state.manifestRevision.toNat + 1 < 2 ^ 64 then
    set { state with manifestRevision := state.manifestRevision + 1 }
  else throw (.err (.text "manifest revision overflow"))

def restartAll (active : ExtTreeSet String) : Method EdgeError EdgeState Unit := do
  modify fun state => { state with running := ∅ }
  advanceRevision
  active.toList.forM advanceEpoch

def planCamera (item : EvaluatedCamera) : Method EdgeError EdgeState PlannedCamera := do
  let state ← get
  let allocated := state.mapping.allocateOrReuse item.camera
    deployment.virtualPoolSize deployment.virtualStart
  set { state with mapping := allocated.2 }
  let allocation ← Method.attempt (raise .mapping allocated.1)
  let virtualDevice := "/dev/video" ++ toString allocation.virtualDeviceNumber.toNat
  Method.attempt (raise .virtualCamera (input.virtualDevice virtualDevice))
  pure ⟨item, allocation, virtualDevice⟩

/-- The arguments of `build_manifest_chunks` at this point. -/
def manifestPlan (state : EdgeState) (planned : List PlannedCamera) : ManifestPlan where
  config := deployment.config
  sessionId := process.sessionId
  edgeBootId := process.edgeBootId
  manifestRevision := state.manifestRevision
  planned
  streamEpochs := state.streamEpochs
  adapterRuntime := process.adapterRuntime

def publishManifest (planned : List PlannedCamera) :
    Method EdgeError EdgeState (Option (List SessionManifestChunkV1)) := do
  let state ← get
  if planned.any (·.item.anchor) then
    let built ← Method.attempt (raise .text (buildManifestChunks deployment.externals
      input.environment (manifestPlan deployment process state planned)))
    set { state with manifestStore := built.1 }
    pure (some built.2)
  else
    set { state with manifestStore := [] }
    pure none

/-- The metadata that a pipeline sends: only the anchor's sends any. -/
def streamMetadata (state : EdgeState) (chunks : Option (List SessionManifestChunkV1))
    (anchor : Bool) : Outcome EdgeError (Option AnchorMetadataProvider) :=
  if anchor then do
    let chunks ← okOr (.text "anchor manifest missing") chunks
    let schedule ← raise .context (ManifestSchedule.new chunks (.ofNat (min
      (deployment.config.fps.toNat * deployment.manifestRepeatSec.toNat) (2 ^ 64 - 1))))
    pure (some ⟨process.sessionId, state.manifestRevision, schedule⟩)
  else pure none

/-- What the pipeline of a streamed camera is started with. -/
def streamPipeline (state : EdgeState) (chunks : Option (List SessionManifestChunkV1))
    (planned : PlannedCamera) : Outcome EdgeError StreamPipeline := do
  let identity := (manifestPlan deployment process state []).streamIdentity planned
  let port ← okOr (.text "SRT base+slot overflow")
    (checkedPort deployment.config.basePort planned.allocation.streamSlot)
  let streamId ← raise .identity (identity.encodeSigned deployment.crates deployment.hmacKey)
  let metadata ← streamMetadata deployment process state chunks planned.item.anchor
  pure ⟨identity, port, streamId, metadata⟩

def ensureRunning (chunks : Option (List SessionManifestChunkV1)) (planned : PlannedCamera) :
    Method EdgeError EdgeState Unit := do
  let state ← get
  if planned.id ∈ state.running then pure ()
  else if planned.item.streamEnabled then
    let stream ← Method.attempt (streamPipeline deployment process state chunks planned)
    modify fun state => { state with started := state.started ++ [stream] }
    Method.attempt (raise .pipeline (input.pipeline planned.id))
    modify fun state => { state with running := state.running.insert planned.id (.stream stream) }
  else
    Method.attempt (raise .pipeline (input.pipeline planned.id))
    modify fun state => { state with running := state.running.insert planned.id .ui }

/-- Runs file operations, all of them or up to the point where it stops. -/
def writeFiles (stops : Option Nat) (steps : List FileStep) :
    Method EdgeError EdgeState Unit := do
  let state ← get
  match stops with
  | some count =>
    set { state with directory := (execute state.directory (steps.take count)).2 }
    throw (.err .stopped)
  | none =>
    let written := execute state.directory steps
    set { state with directory := written.2 }
    Method.attempt (raise .io written.1)

/-- `mapping.save_atomic` -/
def saveMap : Method EdgeError EdgeState Unit := do
  let state ← get
  match state.mapping.advance with
  | none => throw (.err (.mapping .generationOverflow))
  | some mapping =>
    set { state with mapping }
    writeFiles input.saveStops (mapping.saveSteps deployment.codec mapName process.pid)

def writeExports (exports : List CameraExport) : Method EdgeError EdgeState Unit := do
  modify fun state => { state with exported := state.exported ++ [exports] }
  writeFiles input.exportStops (exportSteps deployment.json process.pid exports)

def record (active : ExtTreeSet String) (exports : List CameraExport) :
    Method EdgeError EdgeState Unit := do
  modify fun state => { state with mapping := state.mapping.tombstoneMissing active.toList }
  saveMap deployment process input
  writeExports deployment process input exports
  modify fun state => { state with previousActive := active }

/-- From the evaluated cameras to running pipelines. -/
def bringUp (evaluated : List EvaluatedCamera) :
    Method EdgeError EdgeState (List PlannedCamera) := do
  let planned ← evaluated.mapM (planCamera deployment input)
  let chunks ← publishManifest deployment process input planned
  planned.forM (ensureRunning deployment process input chunks)
  pure planned

/-- The body of the loop. Sets are compared by their elements, in order. -/
def turn : Method EdgeError EdgeState Unit := do
  let evaluated ← Method.attempt (discover deployment input)
  let active := activeIds evaluated
  let state ← get
  let topologyChanged := decide (active.toList ≠ state.previousActive.toList)
  modify (dropRemoved active)
  (if topologyChanged then restartAll active else pure ())
  let planned ← bringUp deployment process input evaluated
  (if topologyChanged then
    record deployment process input active (planned.map PlannedCamera.toExport)
  else pure ())

end Turn

end RobotMulticam.Edge
