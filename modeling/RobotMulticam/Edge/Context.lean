import RobotMulticam.Codec.AccessUnit
import RobotMulticam.Codec.Manifest

/-!
# Anchor contexts

What the Edge attaches to an anchor access unit: the context assembled from
the feature samples around its capture time, and now and then a chunk of the
session manifest.

Samples are kept for each feature in a bounded ring; a context holds their
values resampled at the capture time, in the vector layout of the compiled
embodiment. The two operations on floating-point numbers the code makes are
parameters (`Resampling`).
-/

namespace RobotMulticam.Edge

open RobotMulticam.Lib
open RobotMulticam.Protocol
open RobotMulticam.Codec
open Std (ExtTreeMap)

inductive InterpolationMethod where
  | unspecified
  | linear
  | zeroOrderHold
  | nearest
  | none
  deriving DecidableEq, Repr

/-- `InterpolationMethod::try_from(i32)`. -/
def InterpolationMethod.tryFrom (value : Int32) : Option InterpolationMethod :=
  if value = 0 then some .unspecified
  else if value = 1 then some .linear
  else if value = 2 then some .zeroOrderHold
  else if value = 3 then some .nearest
  else if value = 4 then some .none
  else Option.none

inductive ContextError where
  | invalidCapacity
  | invalidSample
  | invalidPts
  | holdCapacity
  | contextBudget
  deriving DecidableEq, Repr

/-! ## Feature rings -/

structure FeatureSample where
  timeEdgeNs : UInt64
  values : List F32
  valid : Bool
  deriving DecidableEq

structure ResampledFeature where
  values : List F32
  previousTimeNs : UInt64
  nextTimeNs : UInt64
  alpha : F32
  deriving DecidableEq

/-- The arithmetic of linear interpolation on `f32`. -/
structure Resampling where
  /-- `(part as f64 / whole as f64) as f32` -/
  ratio : UInt64 → UInt64 → F32
  /-- `a + (b - a) * alpha` -/
  interpolate : F32 → F32 → F32 → F32

structure FeatureRing where
  capacity : Nat
  vectorLen : Nat
  samples : List FeatureSample

namespace FeatureRing

def new (capacity vectorLen : Nat) : Except ContextError FeatureRing :=
  if capacity = 0 ∨ vectorLen = 0 then .error .invalidCapacity
  else .ok ⟨capacity, vectorLen, []⟩

def insert (self : FeatureRing) (sample : FeatureSample) : Except ContextError FeatureRing :=
  if sample.timeEdgeNs = 0 ∨ sample.values.length ≠ self.vectorLen ∨
      self.samples.getLast?.any (fun last => sample.timeEdgeNs ≤ last.timeEdgeNs) then
    .error .invalidSample
  else
    let kept := if self.samples.length = self.capacity then self.samples.drop 1 else self.samples
    .ok { self with samples := kept ++ [sample] }

def single (sample : FeatureSample) : ResampledFeature :=
  ⟨sample.values, sample.timeEdgeNs, sample.timeEdgeNs, ⟨0⟩⟩

/-- The latest valid sample at or before a time. -/
def previous (self : FeatureRing) (atNs : UInt64) : Option FeatureSample :=
  self.samples.reverse.find? fun sample => sample.valid && sample.timeEdgeNs ≤ atNs

/-- The earliest valid sample at or after a time. -/
def next (self : FeatureRing) (atNs : UInt64) : Option FeatureSample :=
  self.samples.find? fun sample => sample.valid && atNs ≤ sample.timeEdgeNs

def resampleLinear (resampling : Resampling) (atNs maxGapNs : UInt64)
    (left right : FeatureSample) : Option ResampledFeature :=
  let span := saturatingSub64 right.timeEdgeNs left.timeEdgeNs
  if maxGapNs < span then none
  else
    let alpha := if span = 0 then ⟨0⟩
      else resampling.ratio (saturatingSub64 atNs left.timeEdgeNs) span
    some ⟨List.zipWith (fun a b => resampling.interpolate a b alpha) left.values right.values,
      left.timeEdgeNs, right.timeEdgeNs, alpha⟩

/-- The one of the two samples around a time that is nearer, the earlier one
on a tie. -/
def nearer (atNs : UInt64) : Option FeatureSample → Option FeatureSample → Option FeatureSample
  | some left, some right =>
    if saturatingSub64 atNs left.timeEdgeNs ≤ saturatingSub64 right.timeEdgeNs atNs then some left
    else some right
  | some value, none => some value
  | none, some value => some value
  | none, none => none

def resample (resampling : Resampling) (self : FeatureRing) (atNs : UInt64)
    (method : InterpolationMethod) (maxGapNs : UInt64) : Option ResampledFeature :=
  match method with
  | .linear => do
    let left ← self.previous atNs
    let right ← self.next atNs
    resampleLinear resampling atNs maxGapNs left right
  | .zeroOrderHold => do
    let selected ← self.previous atNs
    if saturatingSub64 atNs selected.timeEdgeNs ≤ maxGapNs then some (single selected) else none
  | .nearest => do
    let selected ← nearer atNs (self.previous atNs) (self.next atNs)
    if absDiff64 selected.timeEdgeNs atNs ≤ maxGapNs then some (single selected) else none
  | .none => ((self.previous atNs).filter fun sample => sample.timeEdgeNs = atNs).map single
  | .unspecified => none

end FeatureRing

/-! ## Contexts -/

inductive VectorKind where
  | observation
  | action
  | auxiliary
  deriving DecidableEq, Repr

/-- A feature and the place of its values in the vector of its kind. -/
structure CompiledFeature where
  featureId : UInt64
  qualifiedName : String
  deviceId : String
  kind : VectorKind
  offset : UInt32
  length : UInt32
  shape : List UInt32
  required : Bool
  interpolation : Int32
  unit : String
  deriving DecidableEq

structure CompiledEmbodiment where
  embodimentId : String
  observationSchemaId : UInt64
  actionSchemaId : UInt64
  observationLength : UInt32
  actionLength : UInt32
  auxiliaryLength : UInt32
  features : List CompiledFeature
  deriving DecidableEq

structure ContextAssembler where
  layout : CompiledEmbodiment
  rings : ExtTreeMap UInt64 FeatureRing
  maxGapNs : UInt64
  contextBudgetBytes : Nat

/-- The local variables of `assemble`. -/
structure Assembly where
  observation : List F32
  action : List F32
  auxiliary : List F32
  validity : List UInt8
  qualityByDevice : ExtTreeMap String DeviceFrameQualityV1
  invalidReasons : List String

namespace Assembly

/-- The vector a kind of feature is written to. -/
def vector (self : Assembly) : VectorKind → List F32
  | .observation => self.observation
  | .action => self.action
  | .auxiliary => self.auxiliary

def setVector (self : Assembly) (values : List F32) : VectorKind → Assembly
  | .observation => { self with observation := values }
  | .action => { self with action := values }
  | .auxiliary => { self with auxiliary := values }

/-- `destination[start..end].copy_from_slice(values)`, which panics unless the
range is inside and as long as the values. -/
def copyFromSlice {ε : Type} (destination : List F32) (start length : Nat) (values : List F32) :
    Outcome ε (List F32) :=
  if start + length ≤ destination.length ∧ values.length = length then
    .ok (destination.take start ++ values ++ destination.drop (start + length))
  else panicked

/-- `TimestampQuality::SourceClockMapped as i32`. -/
def sourceClockMapped : Int32 := 5

/-- `TimestampQuality::Invalid as i32`. -/
def timestampInvalid : Int32 := 255

/-- `ActionSourceQuality::ControllerEffectiveTarget as i32`. -/
def controllerEffectiveTarget : Int32 := 1

/-- `ActionSourceQuality::Unavailable as i32`. -/
def actionUnavailable : Int32 := 255

/-- A device's quality after one of its features was resampled. -/
def resampledQuality (quality : DeviceFrameQualityV1) (value : ResampledFeature) :
    DeviceFrameQualityV1 :=
  { quality with
    previousSampleTimeEdgeNs :=
      if quality.previousSampleTimeEdgeNs = 0 then value.previousTimeNs
      else min quality.previousSampleTimeEdgeNs value.previousTimeNs
    nextSampleTimeEdgeNs := max quality.nextSampleTimeEdgeNs value.nextTimeNs
    maxFeatureGapNs :=
      max quality.maxFeatureGapNs (saturatingSub64 value.nextTimeNs value.previousTimeNs)
    interpolationAlpha := value.alpha }

/-- A feature that was resampled: its values, its bit and its device. -/
def withValue {ε : Type} (self : Assembly) (index : Nat) (feature : CompiledFeature)
    (value : ResampledFeature) : Outcome ε Assembly := do
  let values ← copyFromSlice (self.vector feature.kind) feature.offset.toNat
    feature.length.toNat value.values
  let quality := self.qualityByDevice[feature.deviceId]?.getD
    { deviceId := feature.deviceId
      timestampQuality := sourceClockMapped
      valid := true
      actionSourceQuality := controllerEffectiveTarget }
  pure { self.setVector values feature.kind with
    validity := self.validity.modify (index / 8)
      fun byte => byte ||| (1 <<< UInt8.ofNat (index % 8))
    qualityByDevice :=
      self.qualityByDevice.insert feature.deviceId (resampledQuality quality value) }

/-- A required feature without a value marks the context and its device. -/
def withoutValue (self : Assembly) (feature : CompiledFeature) : Assembly :=
  if feature.required then
    let quality := self.qualityByDevice[feature.deviceId]?.getD { deviceId := feature.deviceId }
    { self with
      invalidReasons := self.invalidReasons ++ [feature.qualifiedName]
      qualityByDevice := self.qualityByDevice.insert feature.deviceId
        { quality with
          timestampQuality := timestampInvalid
          actionSourceQuality := actionUnavailable
          valid := false
          invalidReason := "required feature unavailable" } }
  else self

end Assembly

namespace ContextAssembler

def new (layout : CompiledEmbodiment) (ringCapacity : Nat) (maxGapNs : UInt64)
    (contextBudgetBytes : Nat) : Except ContextError ContextAssembler := do
  let rings ← layout.features.foldlM (fun (rings : ExtTreeMap UInt64 FeatureRing) feature => do
    let ring ← FeatureRing.new ringCapacity feature.length.toNat
    pure (rings.insert feature.featureId ring)) ∅
  pure ⟨layout, rings, maxGapNs, contextBudgetBytes⟩

def push (self : ContextAssembler) (featureId : UInt64) (sample : FeatureSample) :
    Except ContextError ContextAssembler :=
  match self.rings[featureId]? with
  | none => .error .invalidSample
  | some ring => do
    let ring ← ring.insert sample
    pure { self with rings := self.rings.insert featureId ring }

/-- What `resample` returns for a feature. -/
def resampled (resampling : Resampling) (self : ContextAssembler) (captureTimeEdgeNs : UInt64)
    (feature : CompiledFeature) : Option ResampledFeature := do
  let ring ← self.rings[feature.featureId]?
  ring.resample resampling captureTimeEdgeNs
    ((InterpolationMethod.tryFrom feature.interpolation).getD .unspecified) self.maxGapNs

/-- One turn of the loop over the features. -/
def assembleFeature (resampling : Resampling) (self : ContextAssembler)
    (captureTimeEdgeNs : UInt64) (assembly : Assembly) (entry : CompiledFeature × Nat) :
    Outcome ContextError Assembly :=
  match self.resampled resampling captureTimeEdgeNs entry.1 with
  | some value => assembly.withValue entry.2 entry.1 value
  | none => .ok (assembly.withoutValue entry.1)

/-- The flags of every context, and those of a context with all values. -/
def validityFlags (fullyValid : Bool) : List Int32 :=
  [6, 7] ++ if fullyValid then [1, 2, 3, 4, 5] else []

/-- The vectors before the loop: all zero, all invalid. -/
def blank (layout : CompiledEmbodiment) : Assembly where
  observation := List.replicate layout.observationLength.toNat ⟨0⟩
  action := List.replicate layout.actionLength.toNat ⟨0⟩
  auxiliary := List.replicate layout.auxiliaryLength.toNat ⟨0⟩
  validity := List.replicate ((layout.features.length + 7) / 8) 0
  qualityByDevice := ∅
  invalidReasons := []

/-- The context made from the local variables after the loop. -/
def contextOf (layout : CompiledEmbodiment) (sessionId : Uuid)
    (anchorFrameSeq manifestRevision : UInt64) (assembly : Assembly) : AnchorFrameContextV1 where
  schemaVersion := 1
  sessionId := sessionId.bytes
  anchorFrameSeq
  manifestRevision
  observationSchemaId := layout.observationSchemaId
  actionSchemaId := layout.actionSchemaId
  observationState := assembly.observation
  action := assembly.action
  auxiliary := assembly.auxiliary
  featureValidityBitmap := assembly.validity
  actionSourceQuality :=
    if assembly.invalidReasons.isEmpty then Assembly.controllerEffectiveTarget
    else Assembly.actionUnavailable
  deviceQuality := assembly.qualityByDevice.toList.map Prod.snd
  validityFlags := validityFlags assembly.invalidReasons.isEmpty
  invalidReason := String.intercalate "," assembly.invalidReasons

def assemble (externals : Externals) (resampling : Resampling) (self : ContextAssembler)
    (sessionId : Uuid) (anchorFrameSeq manifestRevision captureTimeEdgeNs : UInt64) :
    Outcome ContextError AnchorFrameContextV1 := do
  let assembly ← self.layout.features.zipIdx.foldlM
    (self.assembleFeature resampling captureTimeEdgeNs) (blank self.layout)
  let context := contextOf self.layout sessionId anchorFrameSeq manifestRevision assembly
  if self.contextBudgetBytes < (externals.context.encodeToVec context).length then
    fail .contextBudget
  else pure context

end ContextAssembler

/-! ## Manifest chunks -/

/-- `next` is the chunk a cycle continues with, so that there is one. -/
structure ManifestSchedule where
  chunks : List SessionManifestChunkV1
  next : Fin chunks.length
  repeatEveryFrames : UInt64
  lastStartedFrame : Option UInt64

namespace ManifestSchedule

def new (chunks : List SessionManifestChunkV1) (repeatEveryFrames : UInt64) :
    Except ContextError ManifestSchedule :=
  if h : chunks = [] ∨ repeatEveryFrames = 0 then .error .invalidCapacity
  else
    have hsome : chunks ≠ [] := fun hnil => h (Or.inl hnil)
    .ok ⟨chunks, ⟨0, List.length_pos_of_ne_nil hsome⟩, repeatEveryFrames, none⟩

/-- At most one chunk for an access unit. A cycle that was begun goes on; the
next one begins when it is due. -/
def forAccessUnit (self : ManifestSchedule) (frameSeq : UInt64) :
    Option SessionManifestChunkV1 × ManifestSchedule :=
  let due := self.lastStartedFrame.all fun last =>
    self.repeatEveryFrames ≤ saturatingSub64 frameSeq last
  if self.next.val = 0 ∧ ¬ due then (none, self)
  else
    (some (self.chunks.get self.next), { self with
      lastStartedFrame := if self.next.val = 0 then some frameSeq else self.lastStartedFrame
      next := if h : self.next.val + 1 < self.chunks.length then ⟨self.next.val + 1, h⟩
        else ⟨0, Nat.zero_lt_of_lt self.next.isLt⟩ })

end ManifestSchedule

/-! ## The metadata provider -/

inductive ProviderError where
  | context (error : ContextError)
  | codec (error : CodecError)
  deriving DecidableEq

/-- `assembler` is shared with the threads that push samples, so every call
gets it as it is then. -/
structure AnchorMetadataProvider where
  sessionId : Uuid
  manifestRevision : UInt64
  schedule : ManifestSchedule

namespace AnchorMetadataProvider

def assembleContext (externals : Externals) (resampling : Resampling)
    (self : AnchorMetadataProvider) (assembler : ContextAssembler)
    (captureTimeEdgeNs accessUnitOrdinal : UInt64) :
    Outcome ContextError AnchorFrameContextV1 :=
  assembler.assemble externals resampling self.sessionId accessUnitOrdinal self.manifestRevision
    captureTimeEdgeNs

/-- `for_access_unit`; the schedule moves on only behind a context. -/
def forAccessUnit (externals : Externals) (resampling : Resampling)
    (self : AnchorMetadataProvider) (assembler : ContextAssembler)
    (captureTimeEdgeNs accessUnitOrdinal : UInt64) :
    Outcome ProviderError (List UserDataUnregistered) × AnchorMetadataProvider :=
  match mapErr .context
    (self.assembleContext externals resampling assembler captureTimeEdgeNs accessUnitOrdinal) with
  | .error fault => (.error fault, self)
  | .ok context =>
    match encodeAnchorContextPacket externals context with
    | .error error => (fail (.codec error), self)
    | .ok payload =>
      let (chunk, schedule) := self.schedule.forAccessUnit accessUnitOrdinal
      (.ok (⟨anchorContextUuid, payload⟩ :: (chunk.map (manifestChunkSei externals)).toList),
        { self with schedule })

variable {resampling : Resampling} {self : AnchorMetadataProvider} {assembler : ContextAssembler}
  {captureTimeEdgeNs accessUnitOrdinal : UInt64}

/-- A context has the number and the session it was assembled for. -/
theorem assembleContext_eq_ok {externals : Externals} {context : AnchorFrameContextV1}
    (h : self.assembleContext externals resampling assembler captureTimeEdgeNs
      accessUnitOrdinal = .ok context) :
    context.anchorFrameSeq = accessUnitOrdinal ∧ context.sessionId = self.sessionId.bytes ∧
      context.manifestRevision = self.manifestRevision := by
  unfold assembleContext ContextAssembler.assemble at h
  obtain ⟨assembly, _, h⟩ := bind_eq_ok.mp h
  dsimp only at h
  split at h
  · simp at h
  · cases h
    exact ⟨rfl, rfl, rfl⟩

/-- The messages for an access unit start with the packet of its context. -/
theorem forAccessUnit_eq_ok {externals : Externals} {next : AnchorMetadataProvider}
    {additions : List UserDataUnregistered}
    (h : self.forAccessUnit externals resampling assembler captureTimeEdgeNs
      accessUnitOrdinal = (.ok additions, next)) :
    ∃ context payload rest,
      self.assembleContext externals resampling assembler captureTimeEdgeNs
        accessUnitOrdinal = .ok context ∧
      encodeAnchorContextPacket externals context = .ok payload ∧
      additions = ⟨anchorContextUuid, payload⟩ :: rest := by
  unfold forAccessUnit at h
  split at h
  · cases h
  · rename_i context hcontext
    split at h
    · cases h
    · rename_i payload hpayload
      cases h
      exact ⟨context, payload, _, mapErr_eq_ok.mp hcontext, hpayload, rfl⟩

end AnchorMetadataProvider

end RobotMulticam.Edge
