import RobotMulticam.Lib.Intervals
import RobotMulticam.Lib.Loop
import RobotMulticam.Protocol.Wire
import RobotMulticam.Receiver.Synchronize

/-!
# What a validated manifest guarantees

`validate_manifest` looks every streamed camera up in a map of the transports
and compares two counts. That this makes cameras and transports correspond
one to one is a counting argument: the ids of the streamed cameras are
distinct and all occur among the transports, and there are as many transports
as streamed cameras, so the transports are these ids in another order.

`validate_layout` walks over the feature slices with one running offset for
each vector kind. `validateLayout_eq_ok_iff` says what it accepts: slices
that, kind by kind, fill the vector from the front, with nonempty lengths and
distinct ids and names.
-/

namespace RobotMulticam.Receiver

open RobotMulticam.Lib
open RobotMulticam.Protocol
open StepSynchronizer (streamedCameras)
open Std (ExtTreeMap ExtTreeSet)

/-! ## The transports -/

/-- A transport and a camera agree on slot and epoch, and both ports are the
slot's. -/
structure TransportAgrees (basePort : UInt16) (connected : ConnectedCamera)
    (camera : CameraDescriptorV1) : Prop where
  slot : connected.streamSlot = camera.streamSlot
  epoch : connected.streamEpoch = camera.streamEpoch
  listenPort : connected.listenPort.toNat = basePort.toNat + camera.streamSlot.toNat
  transportPort : camera.transportPort.toNat = basePort.toNat + camera.streamSlot.toNat

theorem transportMatches_eq_true {transportIndex : ExtTreeMap String ConnectedCamera}
    {basePort : UInt16} {camera : CameraDescriptorV1} :
    transportMatches transportIndex basePort camera = true ↔
      ∃ connected, transportIndex[camera.stableCameraId]? = some connected ∧
        TransportAgrees basePort connected camera := by
  unfold transportMatches
  cases transportIndex[camera.stableCameraId]? with
  | none => simp
  | some connected =>
    simp only [Bool.and_eq_true, decide_eq_true_eq, beq_iff_eq, Option.some.injEq,
      exists_eq_left']
    constructor
    · rintro ⟨⟨⟨⟨_, hslot⟩, hepoch⟩, hlisten⟩, htransport⟩
      exact ⟨hslot, hepoch, hlisten, htransport⟩
    · rintro ⟨hslot, hepoch, hlisten, htransport⟩
      have hport := connected.listenPort.toNat_lt
      exact ⟨⟨⟨⟨by omega, hslot⟩, hepoch⟩, hlisten⟩, htransport⟩

section Transports

variable {manifest : SessionManifestV1} {transports : List ConnectedCamera} {basePort : UInt16}
  {camera : CameraDescriptorV1} {connected : ConnectedCamera}

/-- Every streamed camera has a transport that agrees with it. -/
theorem CatalogFits.exists_transport (h : CatalogFits manifest transports basePort)
    (hcamera : camera ∈ streamedCameras manifest) :
    ∃ connected ∈ transports, connected.cameraId = camera.stableCameraId ∧
      TransportAgrees basePort connected camera := by
  obtain ⟨hmem, hstreamed⟩ := List.mem_filter.mp hcamera
  have hmatches := (h.fits camera hmem).transport (by simpa using hstreamed)
  obtain ⟨connected, hfound, hagrees⟩ := transportMatches_eq_true.mp hmatches
  obtain ⟨hconnected, hid⟩ := of_getElem?_ofList hfound
  exact ⟨connected, hconnected, hid, hagrees⟩

/-- The transports' ids are the ids of the streamed cameras, each once. -/
theorem CatalogFits.perm (h : CatalogFits manifest transports basePort) :
    ((streamedCameras manifest).map (·.stableCameraId)).Perm (transports.map (·.cameraId)) := by
  have hnodup : ((streamedCameras manifest).map (·.stableCameraId)).Nodup :=
    h.distinct.sublist (List.filter_sublist.map _)
  have hsubset : (streamedCameras manifest).map (·.stableCameraId) ⊆
      transports.map (·.cameraId) := by
    intro id hid
    obtain ⟨camera, hcamera, rfl⟩ := List.mem_map.mp hid
    obtain ⟨connected, hconnected, hsame, _⟩ := h.exists_transport hcamera
    rw [← hsame]
    exact List.mem_map_of_mem hconnected
  -- as many transports as streamed cameras leave no room for another id
  refine (hnodup.subperm hsubset).perm_of_length_le ?_
  rw [List.length_map, List.length_map, h.count]
  exact le_refl _

theorem CatalogFits.nodup (h : CatalogFits manifest transports basePort) :
    (transports.map (·.cameraId)).Nodup :=
  h.perm.nodup_iff.mp (h.distinct.sublist (List.filter_sublist.map _))

/-- A transport agrees with the streamed camera of its id. -/
theorem CatalogFits.agrees (h : CatalogFits manifest transports basePort)
    (hconnected : connected ∈ transports) (hcamera : camera ∈ streamedCameras manifest)
    (hid : camera.stableCameraId = connected.cameraId) :
    TransportAgrees basePort connected camera := by
  obtain ⟨found, hfound, hsame, hagrees⟩ := h.exists_transport hcamera
  have heq : found = connected :=
    List.inj_on_of_nodup_map h.nodup hfound hconnected (hsame.trans hid)
  rwa [heq] at hagrees

/-- What passed against some transports passes against a single one exactly
if it streams one camera, and the transport is this camera's. -/
theorem validateManifest_single_iff {externals : Externals} {bytes : List UInt8} :
    validateManifest externals bytes [connected] basePort = .ok manifest ↔
      (∃ transports, validateManifest externals bytes transports basePort = .ok manifest) ∧
        ∃ camera, streamedCameras manifest = [camera] ∧
          camera.stableCameraId = connected.cameraId ∧
          TransportAgrees basePort connected camera := by
  constructor
  · intro h
    obtain ⟨_, _, hcatalog, _⟩ := validateManifest_eq_ok_iff.mp h
    obtain ⟨camera, hcamera⟩ := List.length_eq_one_iff.mp hcatalog.count.symm
    have hmem : camera ∈ streamedCameras manifest := by
      rw [streamedCameras, hcamera]
      exact List.mem_singleton_self camera
    obtain ⟨found, hfound, hid, hagrees⟩ := hcatalog.exists_transport hmem
    rw [List.mem_singleton.mp hfound] at hid hagrees
    exact ⟨⟨_, h⟩, camera, hcamera, hid.symm, hagrees⟩
  · rintro ⟨⟨transports, h⟩, camera, hcamera, hid, hagrees⟩
    obtain ⟨hdecode, hfields, hcatalog, hlayout⟩ := validateManifest_eq_ok_iff.mp h
    refine validateManifest_eq_ok_iff.mpr ⟨hdecode, hfields, ⟨?_, hcatalog.distinct,
      hcatalog.anchor, (congrArg List.length hcamera).symm⟩, hlayout⟩
    intro other hother
    refine ⟨(hcatalog.fits other hother).named, (hcatalog.fits other hother).anchor, ?_⟩
    intro hstreamed
    have hmem : other ∈ streamedCameras manifest :=
      List.mem_filter.mpr ⟨hother, by simp [hstreamed]⟩
    rw [hcamera, List.mem_singleton] at hmem
    subst hmem
    exact transportMatches_eq_true.mpr ⟨connected, by simp [hid], hagrees⟩

end Transports

/-! ## The layout -/

/-- The kinds of vectors a slice can belong to. -/
def vectorKinds : List Int32 := [vectorKindObservation, vectorKindAction, vectorKindAuxiliary]

/-- The length a manifest declares for a kind of vector. -/
def vectorLength (manifest : SessionManifestV1) (kind : Int32) : UInt32 :=
  if kind = vectorKindObservation then manifest.observationVectorLength
  else if kind = vectorKindAction then manifest.actionVectorLength
  else manifest.auxiliaryVectorLength

/-- Offset and length of the slices of a kind, in order. -/
def intervalsOf (kind : Int32) (slices : List FeatureSliceV1) : List (Nat × Nat) :=
  (slices.filter (·.vectorKind = kind)).map fun slice => (slice.offset.toNat, slice.length.toNat)

/-- What `checkFeature` asks of a slice by itself. -/
structure SliceFits (slice : FeatureSliceV1) : Prop where
  kind : slice.vectorKind ∈ vectorKinds
  id : slice.featureId ≠ 0
  name : slice.qualifiedName ≠ ""
  length : slice.length ≠ 0

/-- The layouts `validate_layout` accepts. -/
structure LayoutFits (manifest : SessionManifestV1) : Prop where
  fits : ∀ slice ∈ manifest.featureSlices, SliceFits slice
  names : (manifest.featureSlices.map (·.qualifiedName)).Nodup
  ids : (manifest.featureSlices.map (·.featureId)).Nodup
  consecutive : ∀ kind ∈ vectorKinds,
    Consecutive 0 (vectorLength manifest kind).toNat (intervalsOf kind manifest.featureSlices)

/-- What the loop knows after the given slices. -/
structure LayoutTracks (seen : LayoutState) (slices : List FeatureSliceV1) : Prop where
  names : Holds seen.names (slices.map (·.qualifiedName))
  ids : Holds seen.ids (slices.map (·.featureId))
  kinds : ∀ kind, kind ∈ seen.expected ↔ kind ∈ vectorKinds
  consecutive : ∀ (kind : Int32) (offset : UInt32), seen.expected[kind]? = some offset →
    Consecutive 0 offset.toNat (intervalsOf kind slices)

theorem intervalsOf_concat (kind : Int32) (slices : List FeatureSliceV1)
    (slice : FeatureSliceV1) :
    intervalsOf kind (slices ++ [slice]) = intervalsOf kind slices ++
      if slice.vectorKind = kind then [(slice.offset.toNat, slice.length.toNat)] else [] := by
  unfold intervalsOf
  rw [List.filter_append, List.map_append]
  by_cases hkind : slice.vectorKind = kind <;> simp [hkind]

section Loop

variable {seen next : LayoutState} {slices : List FeatureSliceV1} {slice : FeatureSliceV1}

/-- What the loop knows after a slice that passed. -/
theorem LayoutTracks.checkFeature (h : LayoutTracks seen slices)
    (hok : checkFeature seen slice = .ok next) :
    SliceFits slice ∧ LayoutTracks next (slices ++ [slice]) := by
  unfold Receiver.checkFeature at hok
  split at hok
  · cases hok
  · rename_i offset hoffset
    split at hok
    · cases hok
    · rename_i hfits
      split at hok
      · cases hok
      · rename_i hsmall
        cases hok
        simp only [Bool.or_eq_true, not_or, Bool.not_eq_true, beq_eq_false_iff_ne,
          bne_eq_false_iff_eq] at hfits
        obtain ⟨⟨⟨⟨⟨hid, hname⟩, hlength⟩, hat⟩, hnewName⟩, hnewId⟩ := hfits
        have hkind : slice.vectorKind ∈ vectorKinds :=
          (h.kinds _).mp (ExtTreeMap.mem_iff_isSome_getElem?.mpr (by simp [hoffset]))
        refine ⟨⟨hkind, hid, by simpa using hname, hlength⟩, ?_, ?_, ?_, ?_⟩
        · simpa using h.names.insert (h.names.contains_eq_false.mp hnewName)
        · simpa using h.ids.insert (h.ids.contains_eq_false.mp hnewId)
        · intro kind
          rw [ExtTreeMap.mem_insert, Std.LawfulEqOrd.compare_eq_iff_eq, h.kinds]
          constructor
          · rintro (rfl | hmem)
            · exact hkind
            · exact hmem
          · exact Or.inr
        · intro kind stop hstop
          dsimp only at hstop
          rw [ExtTreeMap.getElem?_insert] at hstop
          rw [intervalsOf_concat]
          -- the slice ends its own kind anew and leaves the other kinds alone
          split at hstop
          · rename_i hsame
            obtain rfl := Std.LawfulEqOrd.eq_of_compare hsame
            obtain rfl := Option.some.inj hstop
            rw [if_pos rfl, Consecutive.append_iff]
            refine ⟨offset.toNat, h.consecutive _ offset hoffset, by rw [hat], ?_⟩
            show offset.toNat + slice.length.toNat = (offset + slice.length).toNat
            rw [UInt32.toNat_add]
            omega
          · rename_i hother
            rw [if_neg fun heq => hother (by simp [heq]), List.append_nil]
            exact h.consecutive kind stop hstop

/-- A slice that fits, is new and begins where the last one of its kind ended
passes. -/
theorem LayoutTracks.exists_checkFeature (h : LayoutTracks seen slices) (hfits : SliceFits slice)
    (hname : slice.qualifiedName ∉ slices.map (·.qualifiedName))
    (hid : slice.featureId ∉ slices.map (·.featureId)) {stop : Nat} (hstop : stop < 2 ^ 32)
    (hconsecutive : Consecutive 0 stop (intervalsOf slice.vectorKind (slices ++ [slice]))) :
    ∃ next, Receiver.checkFeature seen slice = .ok next := by
  obtain ⟨offset, hoffset⟩ : ∃ offset, seen.expected[slice.vectorKind]? = some offset :=
    Option.isSome_iff_exists.mp
      (ExtTreeMap.mem_iff_isSome_getElem?.mp ((h.kinds _).mpr hfits.kind))
  rw [intervalsOf_concat, if_pos rfl, Consecutive.append_iff] at hconsecutive
  obtain ⟨mid, hmid, hat, hend⟩ := hconsecutive
  have hsame : mid = offset.toNat :=
    hmid.stop_eq.trans (h.consecutive _ offset hoffset).stop_eq.symm
  have heq : slice.offset = offset := UInt32.toNat_inj.mp (hat.trans hsame)
  have hstopEq : mid + slice.length.toNat = stop := hend
  unfold Receiver.checkFeature
  simp only [hoffset]
  rw [if_neg, if_neg]
  · exact ⟨_, rfl⟩
  · omega
  · simp [hfits.id, hfits.name, hfits.length, heq, h.names.contains_eq_false.mpr hname,
      h.ids.contains_eq_false.mpr hid]

end Loop

/-- The offsets the loop starts with. -/
def initialLayout : LayoutState :=
  ⟨ExtTreeMap.ofList [((1 : Int32), (0 : UInt32)), (2, 0), (3, 0)], ∅, ∅⟩

theorem layoutTracks_initial : LayoutTracks initialLayout [] := by
  refine ⟨.empty, .empty, ?_, ?_⟩
  · intro kind
    simp only [initialLayout, ExtTreeMap.mem_ofList, List.contains_iff_mem]
    rfl
  · intro kind offset hoffset
    have hzero : offset = 0 := by
      simp only [initialLayout, ExtTreeMap.ofList_cons, ExtTreeMap.insertMany_cons,
        ExtTreeMap.insertMany_nil, ExtTreeMap.getElem?_insert] at hoffset
      grind
    rw [hzero]
    rfl

/-- After a loop that succeeded. -/
theorem foldlM_checkFeature_eq_ok {slices : List FeatureSliceV1} {after : LayoutState}
    (h : slices.foldlM checkFeature initialLayout = .ok after) :
    (∀ slice ∈ slices, SliceFits slice) ∧ LayoutTracks after slices := by
  refine loop_invariant (fun done seen => (∀ slice ∈ done, SliceFits slice) ∧
    LayoutTracks seen done) ?_ ⟨by simp, layoutTracks_initial⟩ h
  rintro done slice seen next ⟨hfits, htracks⟩ hnext
  obtain ⟨hslice, hnextTracks⟩ := htracks.checkFeature hnext
  exact ⟨List.forall_mem_append.mpr ⟨hfits, by simpa using hslice⟩, hnextTracks⟩

/-- The loop passes over a layout that fits. -/
theorem LayoutFits.exists_foldlM {manifest : SessionManifestV1} (h : LayoutFits manifest) :
    ∃ after, manifest.featureSlices.foldlM checkFeature initialLayout = .ok after := by
  have hturn : ∀ done slice rest seen, manifest.featureSlices = done ++ slice :: rest →
      LayoutTracks seen done →
      ∃ next, checkFeature seen slice = .ok next ∧ LayoutTracks next (done ++ [slice]) := by
    intro done slice rest seen hslices htracks
    have hslice : SliceFits slice := h.fits slice (by simp [hslices])
    have hnames := h.names
    have hids := h.ids
    have hall := h.consecutive slice.vectorKind hslice.kind
    rw [hslices, List.map_append, List.map_cons] at hnames hids
    -- the slices up to this one end where the rest of their kind begins
    rw [hslices, List.append_cons, intervalsOf, List.filter_append, List.map_append,
      Consecutive.append_iff] at hall
    obtain ⟨mid, hmid, hlater⟩ := hall
    have hend := hlater.stop_eq
    have hsmall := (vectorLength manifest slice.vectorKind).toNat_lt
    obtain ⟨next, hnext⟩ := htracks.exists_checkFeature hslice (not_mem_of_nodup hnames)
      (not_mem_of_nodup hids) (show mid < 2 ^ 32 by omega) hmid
    exact ⟨next, hnext, (htracks.checkFeature hnext).2⟩
  obtain ⟨after, hafter, _⟩ :=
    loop_succeeds (fun done seen => LayoutTracks seen done) hturn layoutTracks_initial
  exact ⟨after, hafter⟩

theorem forall_vectorKinds {P : Int32 → Prop} :
    (∀ kind ∈ vectorKinds, P kind) ↔ P 1 ∧ P 2 ∧ P 3 := by
  simp [vectorKinds, vectorKindObservation, vectorKindAction, vectorKindAuxiliary]

/-- `validate_layout` accepts exactly the layouts that fit. -/
theorem validateLayout_eq_ok_iff {manifest : SessionManifestV1} :
    validateLayout manifest = .ok () ↔ LayoutFits manifest := by
  have hlengths : ∀ layout : LayoutState,
      (∀ kind ∈ vectorKinds, layout.expected[kind]? = some (vectorLength manifest kind)) ↔
        layout.expected[(1 : Int32)]? = some manifest.observationVectorLength ∧
        layout.expected[(2 : Int32)]? = some manifest.actionVectorLength ∧
        layout.expected[(3 : Int32)]? = some manifest.auxiliaryVectorLength :=
    fun _ => forall_vectorKinds
  unfold validateLayout
  constructor
  · intro h
    obtain ⟨layout, hloop, h⟩ := bind_eq_ok.mp h
    split at h
    · rename_i hexpected
      obtain ⟨hfits, htracks⟩ := foldlM_checkFeature_eq_ok hloop
      exact ⟨hfits, htracks.names.nodup, htracks.ids.nodup, fun kind hkind =>
        htracks.consecutive kind _ ((hlengths layout).mpr hexpected kind hkind)⟩
    · cases h
  · intro h
    obtain ⟨layout, hloop⟩ := h.exists_foldlM
    refine bind_eq_ok.mpr ⟨layout, hloop, if_pos ((hlengths layout).mp fun kind hkind => ?_)⟩
    obtain ⟨_, htracks⟩ := foldlM_checkFeature_eq_ok hloop
    obtain ⟨offset, hoffset⟩ : ∃ offset, layout.expected[kind]? = some offset :=
      Option.isSome_iff_exists.mp
        (ExtTreeMap.mem_iff_isSome_getElem?.mp ((htracks.kinds kind).mpr hkind))
    have hsame : offset.toNat = (vectorLength manifest kind).toNat :=
      (htracks.consecutive kind offset hoffset).stop_eq.trans
        (h.consecutive kind hkind).stop_eq.symm
    rw [hoffset, UInt32.toNat_inj.mp hsame]

/-! ## The correspondence -/

/-- A validated manifest and the transports it was checked against correspond
one to one: the transports' ids are distinct and are the ids of the streamed
cameras, each transport agrees with its camera, and the one anchor is among
them. For each kind of vector, the slices of that kind partition the vector
into consecutive nonempty intervals. -/
theorem manifest_matches_transports {externals : Externals} {bytes : List UInt8}
    {transports : List ConnectedCamera} {basePort : UInt16} {manifest : SessionManifestV1}
    (h : validateManifest externals bytes transports basePort = .ok manifest) :
    ((transports.map (·.cameraId)).Nodup ∧
      (manifest.cameras.map (·.stableCameraId)).Nodup ∧
      ∀ id, id ∈ transports.map (·.cameraId) ↔
        ∃ camera ∈ manifest.cameras, camera.streamExcluded = false ∧
          camera.stableCameraId = id) ∧
    (∀ connected ∈ transports, ∀ camera ∈ manifest.cameras, camera.streamExcluded = false →
      camera.stableCameraId = connected.cameraId → TransportAgrees basePort connected camera) ∧
    (∃ anchor, manifest.cameras.filter (·.role == cameraRoleAnchor) = [anchor] ∧
      anchor.stableCameraId = manifest.anchorCameraId ∧
      manifest.anchorCameraId ∈ transports.map (·.cameraId)) ∧
    (∀ slice ∈ manifest.featureSlices, slice.vectorKind ∈ vectorKinds) ∧
    ∀ kind ∈ vectorKinds,
      Consecutive 0 (vectorLength manifest kind).toNat
        (intervalsOf kind manifest.featureSlices) ∧
      ∀ interval ∈ intervalsOf kind manifest.featureSlices, 0 < interval.2 := by
  obtain ⟨_, _, hcatalog, hlayout⟩ := validateManifest_eq_ok_iff.mp h
  have hfits := validateLayout_eq_ok_iff.mp hlayout
  have hids : ∀ id, id ∈ transports.map (·.cameraId) ↔
      ∃ camera ∈ manifest.cameras, camera.streamExcluded = false ∧
        camera.stableCameraId = id := by
    intro id
    rw [← hcatalog.perm.mem_iff]
    simp [streamedCameras, and_assoc]
  refine ⟨⟨hcatalog.nodup, hcatalog.distinct, hids⟩, ?_, ?_, fun slice hslice =>
    (hfits.fits slice hslice).kind, ?_⟩
  · intro connected hconnected camera hcamera hstreamed hid
    exact hcatalog.agrees hconnected
      (List.mem_filter.mpr ⟨hcamera, by simp [hstreamed]⟩) hid
  · obtain ⟨anchor, hanchor⟩ := List.length_eq_one_iff.mp hcatalog.anchor
    have hmem : anchor ∈ anchors manifest.cameras := by simp [hanchor]
    obtain ⟨hcamera, hrole⟩ := List.mem_filter.mp hmem
    obtain ⟨hid, hstreamed⟩ := (hcatalog.fits anchor hcamera).anchor (beq_iff_eq.mp hrole)
    exact ⟨anchor, hanchor, hid, (hids _).mpr ⟨anchor, hcamera, hstreamed, hid⟩⟩
  · intro kind hkind
    refine ⟨hfits.consecutive kind hkind, ?_⟩
    intro interval hinterval
    obtain ⟨slice, hslice, rfl⟩ := List.mem_map.mp hinterval
    have hlength := (hfits.fits slice (List.mem_filter.mp hslice).1).length
    exact Nat.pos_of_ne_zero fun hzero => hlength (UInt32.toNat_inj.mp hzero)

/-- Two streamed cameras and one that is not. -/
def benchManifest : SessionManifestV1 where
  schemaVersion := 1
  sessionId := List.replicate 16 1
  edgeBootId := List.replicate 16 2
  manifestRevision := 1
  anchorCameraId := "front"
  streamIdSchema := "rmc1"
  schemaIdAlgorithm := schemaIdHash
  observationVectorLength := 3
  featureSlices := [
    { featureId := 1, qualifiedName := "arm.position", vectorKind := 1, length := 2 },
    { featureId := 2, qualifiedName := "arm.effort", vectorKind := 1, offset := 2, length := 1 }]
  cameras := [
    { stableCameraId := "front", streamEpoch := 1, role := cameraRoleAnchor,
      transportPort := 10000 },
    { stableCameraId := "spare", streamSlot := 1, streamExcluded := true,
      role := cameraRoleSecondary },
    { stableCameraId := "side", streamSlot := 2, streamEpoch := 4, role := cameraRoleSecondary,
      transportPort := 10002 }]

def benchTransports : List ConnectedCamera :=
  [⟨"side", 2, 4, 10002⟩, ⟨"front", 0, 1, 10000⟩]

theorem manifest_matches_transports_bench :
    validateManifest (wireExternals [] [] [] [benchManifest] []) benchManifest.encode
        benchTransports 10000 = .ok benchManifest ∧
      (benchTransports.map (·.cameraId)).Nodup ∧
      Consecutive 0 3 (intervalsOf vectorKindObservation benchManifest.featureSlices) := by
  have hvalid : validateManifest (wireExternals [] [] [] [benchManifest] []) benchManifest.encode
      benchTransports 10000 = .ok benchManifest := by decide +kernel
  obtain ⟨⟨hnodup, _⟩, _, _, _, hlayout⟩ := manifest_matches_transports hvalid
  exact ⟨hvalid, hnodup, (hlayout vectorKindObservation (by decide)).1⟩

end RobotMulticam.Receiver
