import RobotMulticam.Edge.Assembly
import RobotMulticam.Edge.SessionManifest
import RobotMulticam.Receiver.Catalog

/-!
# The manifest on both ends

The Edge compiles the layout and builds the manifest; the Receiver validates
both by rules of its own.

The compiler places features correctly whatever the descriptors are, but the
Receiver also wants nonempty features and distinct ids across all adapters,
and no descriptor is checked for that: `compiled_layout_accepted_iff` says
which selections of features come through. Given a layout that comes through,
the cameras are never a reason to refuse the manifest.
-/

namespace RobotMulticam.Link

open RobotMulticam.Lib
open RobotMulticam.Protocol
open RobotMulticam.Edge
open RobotMulticam.Receiver
open Std (ExtTreeMap)

/-! ## Layouts -/

/-- The manifest of a layout, with nothing else in it. -/
def layoutManifest (descriptors : ExtTreeMap String AdapterDescriptor)
    (layout : CompiledEmbodiment) : SessionManifestV1 where
  observationVectorLength := layout.observationLength
  actionVectorLength := layout.actionLength
  auxiliaryVectorLength := layout.auxiliaryLength
  featureSlices := layout.features.map (featureSlice descriptors)

theorem toInt32_inj {kind other : VectorKind} : kind.toInt32 = other.toInt32 ↔ kind = other := by
  cases kind <;> cases other <;> decide

theorem intervalsOf_featureSlice (descriptors : ExtTreeMap String AdapterDescriptor)
    (kind : VectorKind) (features : List CompiledFeature) :
    intervalsOf kind.toInt32 (features.map (featureSlice descriptors)) =
      placesOf kind features := by
  unfold intervalsOf placesOf
  rw [List.filter_map, List.map_map]
  congr 2
  funext feature
  simp [featureSlice, toInt32_inj]

theorem forall_vectorKinds_toInt32 {P : Int32 → Prop} :
    (∀ kind ∈ vectorKinds, P kind) ↔ ∀ kind : VectorKind, P kind.toInt32 := by
  rw [forall_vectorKinds]
  constructor
  · rintro ⟨hobservation, haction, hauxiliary⟩ kind
    cases kind with
    | observation => exact hobservation
    | action => exact haction
    | auxiliary => exact hauxiliary
  · intro h
    exact ⟨h .observation, h .action, h .auxiliary⟩

/-- The two ends agree on what a sound layout is. -/
theorem validateLayout_layoutManifest_iff {descriptors : ExtTreeMap String AdapterDescriptor}
    {layout : CompiledEmbodiment} :
    validateLayout (layoutManifest descriptors layout) = .ok () ↔ LayoutSound layout := by
  rw [validateLayout_eq_ok_iff]
  have hnames : (layoutManifest descriptors layout).featureSlices.map (·.qualifiedName) =
      layout.features.map (·.qualifiedName) := by
    simp [layoutManifest, featureSlice, Function.comp_def]
  have hids : (layoutManifest descriptors layout).featureSlices.map (·.featureId) =
      layout.features.map (·.featureId) := by
    simp [layoutManifest, featureSlice, Function.comp_def]
  have hplaces : ∀ kind : VectorKind,
      intervalsOf kind.toInt32 (layoutManifest descriptors layout).featureSlices =
        placesOf kind layout.features :=
    fun kind => intervalsOf_featureSlice descriptors kind layout.features
  have hlength : ∀ kind : VectorKind,
      vectorLength (layoutManifest descriptors layout) kind.toInt32 =
        layout.vectorLength kind := by
    intro kind
    cases kind <;> rfl
  constructor
  · intro h
    have hfits : ∀ feature ∈ layout.features, SliceFits (featureSlice descriptors feature) :=
      fun feature hmem => h.fits _ (List.mem_map_of_mem hmem)
    refine ⟨fun feature hmem => (hfits feature hmem).id,
      fun feature hmem => (hfits feature hmem).name,
      fun feature hmem => (hfits feature hmem).length, hnames ▸ h.names, hids ▸ h.ids, ?_⟩
    intro kind
    have hkind := forall_vectorKinds_toInt32.mp h.consecutive kind
    rwa [hplaces, hlength] at hkind
  · intro h
    refine ⟨?_, hnames ▸ h.names, hids ▸ h.ids, forall_vectorKinds_toInt32.mpr fun kind => ?_⟩
    · intro slice hslice
      obtain ⟨feature, hmem, rfl⟩ := List.mem_map.mp hslice
      refine ⟨?_, h.id_ne feature hmem, h.name_ne feature hmem, h.length_ne feature hmem⟩
      show feature.kind.toInt32 ∈ vectorKinds
      cases feature.kind <;> decide
    · rw [hplaces, hlength]
      exact h.consecutive kind

section Compiled

variable {crates : SchemaCrates} {config : EmbodimentConfig}
  {descriptors : ExtTreeMap String AdapterDescriptor} {layout : CompiledEmbodiment}

/-- The Receiver accepts the layout of a compiled embodiment, and the Edge can
assemble contexts for it, exactly if no selected feature has a zero in its
shape and the ids of the selected features are distinct. -/
theorem compiled_layout_accepted_iff
    (hdescriptors : ∀ (id : String) (descriptor : AdapterDescriptor),
      descriptors[id]? = some descriptor → validateDescriptor descriptor = .ok ())
    (hcompile : config.compile crates descriptors = .ok layout) :
    (validateLayout (layoutManifest descriptors layout) = .ok () ∧
      ∀ (capacity : Nat) (maxGapNs : UInt64) (contextBudgetBytes : Nat), capacity ≠ 0 →
        ∃ assembler, ContextAssembler.new layout capacity maxGapNs contextBudgetBytes =
          .ok assembler) ↔
      (∀ feature ∈ config.selected descriptors, 0 ∉ feature.shape) ∧
        ((config.selected descriptors).map (·.featureId)).Nodup := by
  have hids : ∀ feature ∈ config.selected descriptors, feature.featureId ≠ 0 := by
    intro feature hfeature
    obtain ⟨_, id, descriptor, hdescriptor, hmem⟩ := of_mem_selected hfeature
    exact (validateDescriptor_eq_ok (hdescriptors id descriptor hdescriptor)).2.2 feature hmem
  have hnames : ∀ feature ∈ config.selected descriptors, feature.qualifiedName ≠ "" :=
    fun feature hfeature => (of_mem_selected hfeature).1
  rw [validateLayout_layoutManifest_iff, ← (compile_eq_ok hcompile).sound_iff hids hnames]
  constructor
  · exact And.left
  · intro hsound
    exact ⟨hsound, fun capacity maxGapNs contextBudgetBytes hcapacity =>
      ContextAssembler.exists_new hsound.length_ne hcapacity maxGapNs contextBudgetBytes⟩

end Compiled

/-- An adapter with one device of its own name. -/
def armAdapter (name : String) (featureId : UInt64) (shape : List UInt32) : AdapterDescriptor where
  apiVersion := 1
  adapterInstanceId := name
  sourceClock := some { sourceClockId := name }
  devices := [{
    deviceId := name
    features := [{ featureId, qualifiedName := name ++ ".position", shape, interpolation := 1 }] }]
  descriptorRevision := 1

def armAdapters (adapters : List AdapterDescriptor) : ExtTreeMap String AdapterDescriptor :=
  ExtTreeMap.ofList (adapters.map fun adapter => (adapter.adapterInstanceId, adapter))

/-- Two arms, on an adapter each. -/
def armsConfig : EmbodimentConfig where
  schemaVersion := 1
  embodimentId := "arms"
  adapters := [⟨"left", "unix:///run/left.sock"⟩, ⟨"right", "unix:///run/right.sock"⟩]
  devices := [⟨"left", "left"⟩, ⟨"right", "right"⟩]
  vectorLayout := { observation := [⟨"left.position", true⟩, ⟨"right.position", true⟩], action := [] }

/-- The feature of the right arm, behind that of the left one. -/
def rightArm (featureId : UInt64) : CompiledFeature :=
  ⟨featureId, "right.position", "right", .observation, 2, 3, [3], true, 1, ""⟩

/-- The layout of the arms. The schema ids are those of `namesAndPlaces`. -/
def armsLayout (rightId : UInt64) : CompiledEmbodiment where
  embodimentId := "arms"
  observationSchemaId := 0x02b7356b1e84dbcf
  actionSchemaId := 0x4f53cda18c2baa0c
  observationLength := 5
  actionLength := 0
  auxiliaryLength := 0
  features := [⟨1, "left.position", "left", .observation, 0, 2, [2], true, 1, ""⟩, rightArm rightId]

theorem armAdapters_valid {adapters : List AdapterDescriptor}
    (h : ∀ adapter ∈ adapters, validateDescriptor adapter = .ok ()) (id : String)
    (descriptor : AdapterDescriptor) (hfound : (armAdapters adapters)[id]? = some descriptor) :
    validateDescriptor descriptor = .ok () :=
  h descriptor (of_getElem?_ofList hfound).1

theorem compiled_layout_accepted_arms :
    validateLayout (layoutManifest (armAdapters [armAdapter "left" 1 [2], armAdapter "right" 2 [3]])
      (armsLayout 2)) = .ok () := by
  have hcompile : armsConfig.compile namesAndPlaces
      (armAdapters [armAdapter "left" 1 [2], armAdapter "right" 2 [3]]) = .ok (armsLayout 2) := by
    decide +kernel
  have hvalid : ∀ adapter ∈ [armAdapter "left" 1 [2], armAdapter "right" 2 [3]],
      validateDescriptor adapter = .ok () := by decide +kernel
  refine ((compiled_layout_accepted_iff (armAdapters_valid hvalid) hcompile).mpr ?_).1
  decide +kernel

/-- Both adapters number their only feature 1. Each descriptor is valid, the
embodiment compiles, and the Receiver refuses the layout. -/
theorem shared_feature_id_rejected :
    (∀ (id : String) (descriptor : AdapterDescriptor),
      (armAdapters [armAdapter "left" 1 [2], armAdapter "right" 1 [3]])[id]? = some descriptor →
        validateDescriptor descriptor = .ok ()) ∧
      armsConfig.compile namesAndPlaces
        (armAdapters [armAdapter "left" 1 [2], armAdapter "right" 1 [3]]) = .ok (armsLayout 1) ∧
      validateLayout (layoutManifest
        (armAdapters [armAdapter "left" 1 [2], armAdapter "right" 1 [3]]) (armsLayout 1)) =
          .error .featureLayout := by
  refine ⟨armAdapters_valid ?_, ?_⟩
  · decide +kernel
  · decide +kernel

/-! ## Cameras -/

/-- The transport of a streamed camera once its stream is connected: slot and
epoch are those of its identity, the port is the slot's. -/
def transportOf (plan : ManifestPlan) (planned : PlannedCamera) : ConnectedCamera :=
  let identity := plan.streamIdentity planned
  ⟨identity.cameraId, identity.slot.toUInt32, identity.epoch, plan.config.basePort + identity.slot⟩

section Built

variable {environment : BuildEnvironment} {plan : ManifestPlan}

/-- A planned camera, as the manifest describes it, and its transport agree. -/
theorem transportAgrees_cameraOf {planned : PlannedCamera}
    (hport : plan.config.basePort.toNat + planned.allocation.streamSlot.toNat < 2 ^ 16) :
    TransportAgrees plan.config.basePort (transportOf plan planned)
      (cameraOf environment plan planned
        (plan.config.basePort + planned.allocation.streamSlot)) := by
  have hsum : (plan.config.basePort + planned.allocation.streamSlot).toNat =
      plan.config.basePort.toNat + planned.allocation.streamSlot.toNat := by
    rw [UInt16.toNat_add]
    omega
  refine ⟨rfl, rfl, ?_, ?_⟩
  · simpa [transportOf, ManifestPlan.streamIdentity, cameraOf] using hsum
  · simpa [cameraOf] using hsum

/-- A filter on the described cameras is a filter on the planned ones. -/
theorem filter_camerasOf {described : CameraDescriptorV1 → Bool} {planned : PlannedCamera → Bool}
    (h : ∀ camera port, described (cameraOf environment plan camera port) = planned camera) :
    ((camerasOf environment plan).filter described).length =
      (plan.planned.filter planned).length := by
  unfold camerasOf
  rw [List.filter_map, List.length_map]
  congr 2
  funext camera
  exact h camera _

theorem catalogFits_camerasOf {transports : List ConnectedCamera} {anchor : PlannedCamera}
    {manifest : SessionManifestV1} (hcameras : manifest.cameras = camerasOf environment plan)
    (hanchorId : manifest.anchorCameraId = anchor.id)
    (hids : (plan.planned.map (·.id)).Nodup) (hnamed : ∀ camera ∈ plan.planned, camera.id ≠ "")
    (hanchor : plan.planned.filter (·.item.anchor) = [anchor])
    (hstreamed : anchor.item.streamEnabled = true)
    (hports : ∀ camera ∈ plan.planned,
      plan.config.basePort.toNat + camera.allocation.streamSlot.toNat < 2 ^ 16)
    (htransports : transports.Perm
      ((plan.planned.filter (·.item.streamEnabled)).map (transportOf plan))) :
    CatalogFits manifest transports plan.config.basePort := by
  have hdistinct : (transports.map (·.cameraId)).Nodup := by
    rw [(htransports.map _).nodup_iff, List.map_map]
    exact hids.sublist (List.filter_sublist.map _)
  refine ⟨?_, ?_, ?_, ?_⟩
  · intro described hdescribed
    rw [hcameras] at hdescribed
    obtain ⟨camera, hcamera, rfl⟩ := List.mem_map.mp hdescribed
    refine ⟨hnamed camera hcamera, ?_, ?_⟩
    · intro hrole
      -- the only planned anchor is the one the manifest names
      have hisAnchor : camera.item.anchor = true := by
        by_contra hother
        simp [cameraOf, hother, cameraRoleAnchor, cameraRoleSecondary] at hrole
      have hsame : camera ∈ plan.planned.filter (·.item.anchor) :=
        List.mem_filter.mpr ⟨hcamera, hisAnchor⟩
      rw [hanchor, List.mem_singleton] at hsame
      rw [hsame, hanchorId]
      exact ⟨rfl, by simp [cameraOf, hstreamed]⟩
    · intro hstreamedCamera
      have henabled : camera.item.streamEnabled = true := by
        simpa [cameraOf] using hstreamedCamera
      have hmem : transportOf plan camera ∈ transports :=
        htransports.mem_iff.mpr (List.mem_map_of_mem (List.mem_filter.mpr ⟨hcamera, henabled⟩))
      exact transportMatches_eq_true.mpr ⟨transportOf plan camera,
        getElem?_ofList_of_nodup hdistinct hmem, transportAgrees_cameraOf (hports camera hcamera)⟩
  · rw [hcameras, camerasOf, List.map_map]
    exact hids
  · have hroles : (anchors (camerasOf environment plan)).length =
        (plan.planned.filter (·.item.anchor)).length := by
      refine filter_camerasOf fun camera port => ?_
      cases hrole : camera.item.anchor <;>
        simp [cameraOf, hrole, cameraRoleAnchor, cameraRoleSecondary]
    rw [hcameras, hroles, hanchor, List.length_singleton]
  · have hstreams : ((camerasOf environment plan).filter (!·.streamExcluded)).length =
        (plan.planned.filter (·.item.streamEnabled)).length :=
      filter_camerasOf fun camera port => Bool.not_not _
    rw [hcameras, hstreams, htransports.length_eq, List.length_map]

end Built

/-- The Receiver accepts the manifest the Edge builds: with the transports of
the streamed cameras in any order, whatever the slots, the epochs and the
cameras that are not streamed. -/
theorem built_manifest_accepted {externals : Externals} {environment : BuildEnvironment}
    {plan : ManifestPlan} {bytes : List UInt8} {chunks : List SessionManifestChunkV1}
    {transports : List ConnectedCamera}
    (hids : (plan.planned.map (·.id)).Nodup) (hnamed : ∀ camera ∈ plan.planned, camera.id ≠ "")
    (hanchor : ∃ anchor, plan.planned.filter (·.item.anchor) = [anchor] ∧
      anchor.item.streamEnabled = true)
    (hrevision : 1 ≤ plan.manifestRevision)
    (hlayout : validateLayout (layoutManifest plan.adapterRuntime.descriptors
      plan.adapterRuntime.compiled) = .ok ())
    (hbuilt : buildManifestChunks externals environment plan = .ok (bytes, chunks))
    (hprost : ∀ manifest, buildManifest environment plan = .ok manifest →
      externals.manifest.decode (externals.manifest.encodeToVec manifest) = some manifest)
    (htransports : transports.Perm
      ((plan.planned.filter (·.item.streamEnabled)).map (transportOf plan))) :
    ∃ manifest, buildManifest environment plan = .ok manifest ∧
      validateManifest externals bytes transports plan.config.basePort = .ok manifest := by
  obtain ⟨manifest, hmanifest, rfl⟩ := buildManifestChunks_eq_ok hbuilt
  refine ⟨manifest, hmanifest, validateManifest_eq_ok_iff.mpr ⟨hprost manifest hmanifest, ?_⟩⟩
  obtain ⟨anchor, hsingle, hstreamed⟩ := hanchor
  obtain ⟨found, time, hfound, hports, rfl⟩ := buildManifest_eq_ok hmanifest
  -- `find` stops at the only anchor there is
  have hsame : found = anchor := by
    have hmem : found ∈ plan.planned.filter (·.item.anchor) :=
      List.mem_filter.mpr ⟨List.mem_of_find?_eq_some hfound, by simpa using List.find?_some hfound⟩
    rwa [hsingle, List.mem_singleton] at hmem
  obtain rfl := hsame
  refine ⟨?_, catalogFits_camerasOf rfl rfl hids hnamed hsingle hstreamed hports htransports,
    hlayout⟩
  have hid := hnamed found (List.mem_of_find?_eq_some hfound)
  have hne : plan.manifestRevision ≠ 0 := by
    intro hzero
    rw [hzero] at hrevision
    exact absurd hrevision (by decide)
  simp [manifestFieldsValid, manifestOf, plan.sessionId.size, plan.edgeBootId.size, hne, hid]

/-- A camera whose virtual device has the number 40 plus its slot. -/
def benchCamera (id device : String) (slot : UInt16) (streamEnabled anchor : Bool) :
    PlannedCamera where
  item := ⟨⟨id, id, Discovery.anonymousCamera device id⟩, streamEnabled, anchor⟩
  allocation := ⟨id, id, slot, 40 + slot.toUInt32, .active⟩
  virtualDevice := "/dev/video" ++ toString (40 + slot.toNat)

/-- Three cameras, of which one is not streamed. -/
def benchPlan : ManifestPlan where
  config := ⟨640, 480, 30, 10000, "arms", "edge"⟩
  sessionId := syncTimestampUuid
  edgeBootId := anchorContextUuid
  manifestRevision := 1
  planned := [
    benchCamera "side" "/dev/video0" 2 true false,
    benchCamera "front" "/dev/video2" 0 true true,
    benchCamera "spare" "/dev/video4" 1 false false]
  streamEpochs := ExtTreeMap.ofList [("side", (3 : UInt32))]
  adapterRuntime := ⟨armAdapters [armAdapter "left" 1 [2], armAdapter "right" 2 [3]], armsLayout 2⟩

def benchEnvironment : BuildEnvironment := ⟨id, "0.1.0", some 5⟩

/-- The manifest of the plan. -/
def planManifest : SessionManifestV1 :=
  manifestOf benchEnvironment benchPlan (camerasOf benchEnvironment benchPlan) "front" 5

theorem built_manifest_accepted_bench :
    ∃ manifest, buildManifest benchEnvironment benchPlan = .ok manifest ∧
      validateManifest (wireExternals [] [] [] [planManifest] []) planManifest.encode
        [⟨"front", 0, 1, 10000⟩, ⟨"side", 2, 3, 10002⟩] 10000 = .ok manifest := by
  have hmanifest : buildManifest benchEnvironment benchPlan = .ok planManifest := by
    decide +kernel
  have hbytes : (buildManifestChunks (wireExternals [] [] [] [planManifest] []) benchEnvironment
      benchPlan).map Prod.fst = .ok planManifest.encode := by
    decide +kernel
  obtain ⟨chunks, hbuilt⟩ : ∃ chunks, buildManifestChunks
      (wireExternals [] [] [] [planManifest] []) benchEnvironment benchPlan =
        .ok (planManifest.encode, chunks) := by
    cases hresult : buildManifestChunks (wireExternals [] [] [] [planManifest] [])
        benchEnvironment benchPlan with
    | error error =>
      rw [hresult] at hbytes
      cases hbytes
    | ok result =>
      rw [hresult] at hbytes
      exact ⟨result.2, by rw [← Except.ok.inj hbytes]⟩
  refine built_manifest_accepted (by decide) (by decide) ⟨_, rfl, rfl⟩ (by decide)
    (by decide +kernel) hbuilt ?_ (by decide +kernel)
  intro manifest hother
  obtain rfl := Except.ok.inj (hmanifest.symm.trans hother)
  decide +kernel

end RobotMulticam.Link
