import RobotMulticam.Link.Manifest
import RobotMulticam.Relay.Projection

/-!
# From the assembler to the web relay

The Edge packs the resampled features into three vectors and a bitmap, the
relay takes them out by the slices of the manifest. For a layout the Receiver
accepts, every feature comes out with exactly what its ring was resampled to,
whatever was pushed before.
-/

namespace RobotMulticam.Link

open RobotMulticam.Lib
open RobotMulticam.Protocol
open RobotMulticam.Edge
open RobotMulticam.Receiver
open RobotMulticam.Relay
open Std (ExtTreeMap)

/-- A projected feature is the given one, valid with the resampled values, or
invalid with zeros where there are none. -/
structure Projects (resampled : CompiledFeature → Option ResampledFeature)
    (feature : CompiledFeature) (named : NamedFeature) : Prop where
  featureId : named.featureId = feature.featureId
  qualifiedName : named.qualifiedName = feature.qualifiedName
  value : ∀ value, resampled feature = some value →
    named.valid = true ∧ named.values = value.values
  noValue : resampled feature = none →
    named.valid = false ∧ named.values = List.replicate feature.length.toNat ⟨0⟩

/-- The step carries the vectors of the context. -/
structure StepCarries (step : SynchronizedDatasetStep) (context : AnchorFrameContextV1) : Prop where
  observationState : step.observationState = context.observationState
  action : step.action = context.action
  auxiliary : step.auxiliary = context.auxiliary

/-- The kind the relay reads. -/
def relayKind : VectorKind → FeatureVectorKind
  | .observation => .observation
  | .action => .action
  | .auxiliary => .auxiliary

/-- What the relay makes of a feature. -/
def namedFeature (descriptors : ExtTreeMap String AdapterDescriptor)
    (resampled : CompiledFeature → Option ResampledFeature) (feature : CompiledFeature) :
    NamedFeature where
  featureId := feature.featureId
  qualifiedName := feature.qualifiedName
  semantic := (featureSlice descriptors feature).semantic
  sourceDeviceId := feature.deviceId
  vectorKind := (relayKind feature.kind).asStrName
  unit := feature.unit
  shape := feature.shape
  values := valuesOf feature (resampled feature)
  valid := (resampled feature).isSome
  required := feature.required

theorem projects_namedFeature (descriptors : ExtTreeMap String AdapterDescriptor)
    (resampled : CompiledFeature → Option ResampledFeature) (feature : CompiledFeature) :
    Projects resampled feature (namedFeature descriptors resampled feature) := by
  refine ⟨rfl, rfl, ?_, ?_⟩
  · intro value hvalue
    simp [namedFeature, valuesOf, hvalue]
  · intro hnone
    simp [namedFeature, valuesOf, hnone]

section Filled

variable {layout : CompiledEmbodiment} {resampled : CompiledFeature → Option ResampledFeature}
  {assembly : Assembly} {step : SynchronizedDatasetStep} {anchorFrameSeq manifestRevision : UInt64}

/-- The relay finds the vector the Edge wrote. -/
theorem vector_relayKind {sessionId : Uuid}
    (hstep : StepCarries step (ContextAssembler.contextOf layout sessionId anchorFrameSeq
      manifestRevision assembly))
    (kind : VectorKind) : (relayKind kind).vector step = some (assembly.vector kind) := by
  cases kind with
  | observation => exact congrArg some hstep.observationState
  | action => exact congrArg some hstep.action
  | auxiliary => exact congrArg some hstep.auxiliary

theorem projectFeatures_of_filled (hsound : LayoutSound layout)
    (hfilled : Filled layout resampled layout.features.length assembly)
    (descriptors : ExtTreeMap String AdapterDescriptor) {manifest : SessionManifestV1}
    {sessionId : Uuid}
    (hmanifest : manifest.featureSlices = layout.features.map (featureSlice descriptors))
    (hstep : StepCarries step (ContextAssembler.contextOf layout sessionId anchorFrameSeq
      manifestRevision assembly)) :
    projectFeatures step manifest assembly.validity =
      .ok (layout.features.map (namedFeature descriptors resampled)) := by
  refine projectFeatures_eq_ok (by simp [hmanifest]) ?_
  intro index slice named hslice hnamed
  rw [hmanifest, List.getElem?_map] at hslice
  obtain ⟨feature, hfeature, rfl⟩ := Option.map_eq_some_iff.mp hslice
  rw [List.getElem?_map, hfeature] at hnamed
  obtain rfl := Option.some.inj hnamed
  have hindex : index < layout.features.length := (List.getElem?_eq_some_iff.mp hfeature).1
  have hkind : FeatureVectorKind.tryFrom feature.kind.toInt32 = some (relayKind feature.kind) := by
    cases feature.kind <;> rfl
  have hvalues := hfilled.values index feature hfeature
  have hbit := hfilled.bits index feature hfeature
  rw [if_pos hindex] at hvalues
  rw [decide_eq_true hindex, Bool.true_and] at hbit
  have hrange := hsound.mem_range (List.mem_of_getElem? hfeature)
  rw [← hfilled.length] at hrange
  unfold projectFeature
  simp only [featureSlice, hkind, vector_relayKind hstep, if_pos hrange, hvalues, hbit]
  rfl

/-- No reason is given exactly if no required feature is missing. -/
theorem intercalate_reasons_eq_empty (hsound : LayoutSound layout)
    (hfilled : Filled layout resampled layout.features.length assembly) :
    String.intercalate "," assembly.invalidReasons = "" ↔
      ∀ feature ∈ layout.features, feature.required = true →
        (resampled feature).isSome = true := by
  have hreasons := hfilled.reasons
  rw [List.take_length] at hreasons
  have hall : (∀ feature ∈ layout.features, feature.required = true →
      (resampled feature).isSome = true) ↔ assembly.invalidReasons = [] := by
    rw [hreasons, List.map_eq_nil_iff, List.filter_eq_nil_iff]
    simp [isMissing, Option.isSome_iff_ne_none]
  rw [hall]
  constructor
  · intro hempty
    cases hnames : assembly.invalidReasons with
    | nil => rfl
    | cons name names =>
      -- the first reason is a feature's name, which shows in the text
      have hname : name ∈ assembly.invalidReasons := by simp [hnames]
      rw [hreasons] at hname
      obtain ⟨feature, hfeature, rfl⟩ := List.mem_map.mp hname
      have hne := hsound.name_ne feature (List.mem_filter.mp hfeature).1
      rw [hnames] at hempty
      cases names with
      | nil =>
        rw [String.intercalate_singleton] at hempty
        exact absurd hempty hne
      | cons other names =>
        rw [String.intercalate_cons_cons] at hempty
        simp [hne] at hempty
  · intro hnil
    rw [hnil, String.intercalate_nil]

end Filled

/-- What holds of an assembler however many samples were offered to it. -/
structure Assembles (layout : CompiledEmbodiment) (assembler : ContextAssembler) : Prop where
  layout_eq : assembler.layout = layout
  fits : assembler.Fits

theorem assembles_run {layout : CompiledEmbodiment} {start : ContextAssembler}
    (h : Assembles layout start) (samples : List (UInt64 × FeatureSample)) :
    Assembles layout (run ContextAssembler.offer start samples) :=
  run_invariant' (fun assembler sample hassembler =>
    ⟨(assembler.layout_offer sample).trans hassembler.layout_eq, hassembler.fits.offer sample⟩)
    h samples

/-- Feature values survive from the assembler to the relay. After any samples,
assembling does not panic, and what the relay projects from a context has
every feature in order, with the values it was resampled to or with zeros; no
two features of a kind share a value, and the context gives no reason exactly
if all required features were resampled. -/
theorem features_survive_projection {descriptors : ExtTreeMap String AdapterDescriptor}
    {layout : CompiledEmbodiment} {capacity : Nat} {maxGapNs : UInt64} {contextBudgetBytes : Nat}
    {start : ContextAssembler}
    (hlayout : validateLayout (layoutManifest descriptors layout) = .ok ())
    (hnew : ContextAssembler.new layout capacity maxGapNs contextBudgetBytes = .ok start)
    (samples : List (UInt64 × FeatureSample)) (externals : Externals) (resampling : Resampling)
    (sessionId : Uuid) (anchorFrameSeq manifestRevision captureTimeEdgeNs : UInt64) :
    let assembler := run ContextAssembler.offer start samples
    let resampled := assembler.resampled resampling captureTimeEdgeNs
    let assembled := assembler.assemble externals resampling sessionId anchorFrameSeq
      manifestRevision captureTimeEdgeNs
    assembled ≠ panicked ∧
    ∀ context, assembled = .ok context →
      (∀ step manifest, StepCarries step context →
        manifest.featureSlices = layout.features.map (featureSlice descriptors) →
        ∃ projected, projectFeatures step manifest context.featureValidityBitmap = .ok projected ∧
          List.Forall₂ (Projects resampled) layout.features projected) ∧
      (∀ (first second : Nat) (earlier later : CompiledFeature), first < second →
        layout.features[first]? = some earlier → layout.features[second]? = some later →
        earlier.kind = later.kind →
          earlier.offset.toNat + earlier.length.toNat ≤ later.offset.toNat) ∧
      (context.invalidReason = "" ↔ ∀ feature ∈ layout.features, feature.required = true →
        (resampled feature).isSome = true) := by
  intro assembler resampled assembled
  have hsound := validateLayout_layoutManifest_iff.mp hlayout
  obtain ⟨hsame, hfits⟩ := ContextAssembler.fits_new hsound.ids hnew
  have hassembles := assembles_run ⟨hsame, hfits⟩ samples
  obtain ⟨assembly, hfilled, hresult⟩ := hassembles.fits.assemble
    (hassembles.layout_eq ▸ hsound) externals resampling sessionId anchorFrameSeq
    manifestRevision captureTimeEdgeNs
  rw [hassembles.layout_eq] at hfilled hresult
  change assembled = _ ∨ assembled = _ at hresult
  refine ⟨?_, ?_⟩
  · rcases hresult with hresult | hresult
    · simp [hresult, fail, panicked]
    · simp [hresult, panicked]
  · intro context hcontext
    obtain rfl : ContextAssembler.contextOf layout sessionId anchorFrameSeq manifestRevision
        assembly = context := by
      rcases hresult with hresult | hresult
      · simp [hresult] at hcontext
      · exact Except.ok.inj (hresult.symm.trans hcontext)
    refine ⟨?_, ?_, intercalate_reasons_eq_empty hsound hfilled⟩
    · intro step manifest hstep hmanifest
      refine ⟨_, projectFeatures_of_filled hsound hfilled descriptors hmanifest hstep, ?_⟩
      rw [List.forall₂_map_right_iff, List.forall₂_same]
      exact fun feature _ => projects_namedFeature descriptors resampled feature
    · intro first second earlier later hlt hearlier hlater hkind
      exact hsound.disjoint hearlier hlater hkind hlt

/-- The assembler of the two arms, before any sample. -/
def armsAssembler : ContextAssembler where
  layout := armsLayout 2
  rings := ((∅ : ExtTreeMap UInt64 FeatureRing).insert 1 ⟨4, 2, []⟩).insert 2 ⟨4, 3, []⟩
  maxGapNs := 1000
  contextBudgetBytes := 8192

/-- A stand-in for the arithmetic: the earlier sample's value. -/
def earlierValue : Resampling := ⟨fun _ _ => ⟨0⟩, fun earlier _ _ => earlier⟩

/-- A sample of the left arm, the only one. -/
def leftSample : UInt64 × FeatureSample := (1, ⟨10, [⟨1⟩, ⟨2⟩], true⟩)

def armsAssembled : Outcome ContextError AnchorFrameContextV1 :=
  (run ContextAssembler.offer armsAssembler [leftSample]).assemble
    (wireExternals [] [] [] [] []) earlierValue syncTimestampUuid 1 1 10

/-- A step with the vectors of a context. -/
def stepOf (context : AnchorFrameContextV1) : SynchronizedDatasetStep where
  sessionId := []
  manifestRevision := 1
  captureTimeEdgeNs := 10
  frames := []
  observationState := context.observationState
  action := context.action
  auxiliary := context.auxiliary
  valid := true
  invalidReason := ""
  anchorContext := some context
  anchorContextPacket := none

theorem features_survive_projection_arms :
    ∃ context projected, armsAssembled = .ok context ∧
      projectFeatures (stepOf context) (layoutManifest (armAdapters []) (armsLayout 2))
        context.featureValidityBitmap = .ok projected ∧
      projected.map (·.featureId) = [1, 2] ∧ context.invalidReason ≠ "" := by
  have hnew : ContextAssembler.new (armsLayout 2) 4 1000 8192 = .ok armsAssembler := by rfl
  have hlayout : validateLayout (layoutManifest (armAdapters []) (armsLayout 2)) = .ok () := by
    decide +kernel
  have hmissing : ((run ContextAssembler.offer armsAssembler [leftSample]).resampled earlierValue
      10 (rightArm 2)).isSome = false ∧ armsAssembled.toOption.isSome = true := by
    decide +kernel
  obtain ⟨context, hcontext⟩ : ∃ context, armsAssembled = .ok context := by
    cases hresult : armsAssembled with
    | error fault => simp [hresult, Except.toOption] at hmissing
    | ok context => exact ⟨context, rfl⟩
  obtain ⟨_, hsurvive⟩ := features_survive_projection hlayout hnew [leftSample]
    (wireExternals [] [] [] [] []) earlierValue syncTimestampUuid 1 1 10
  obtain ⟨hproject, _, hreason⟩ := hsurvive context hcontext
  obtain ⟨projected, hprojected, hfeatures⟩ := hproject (stepOf context)
    (layoutManifest (armAdapters []) (armsLayout 2)) ⟨rfl, rfl, rfl⟩ rfl
  refine ⟨context, projected, hcontext, hprojected, ?_, fun hempty => ?_⟩
  · exact map_eq_of_forall₂ hfeatures fun _ _ hprojects => hprojects.featureId
  · have hright := hreason.mp hempty (rightArm 2) (by decide) rfl
    rw [hmissing.1] at hright
    cases hright

end RobotMulticam.Link
