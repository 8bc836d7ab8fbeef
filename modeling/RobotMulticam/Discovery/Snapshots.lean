import RobotMulticam.Discovery.Cameras
import RobotMulticam.Lib.Path
import RobotMulticam.Lib.SelfDelimiting

/-!
# What a snapshot depends on

Two facts about discovery that the identities of cameras rest on. The
canonical identity spells out its fields, whatever they contain: each is
written behind its size (`canonical_identity_unambiguous`). And the order in
which the devices are found does not matter: an endpoint's place in its group
is its `endpointPreference`, which no two devices share
(`group_logical_cameras_order_free`).
-/

namespace RobotMulticam.Discovery

open RobotMulticam.Lib
open RobotMulticam.Lib.Text (utf8)
open Std (ExtTreeMap)

/-! ## The canonical identity -/

/-- A field as the identity has it. -/
def writtenField (field : String) : List Char :=
  sized String.utf8Len (Nat.toDigits 10) ':' field.toList

theorem utf8Len_append_eq {field more : List Char}
    (h : String.utf8Len (field ++ more) = String.utf8Len field) : more = [] := by
  cases more with
  | nil => rfl
  | cons char more =>
    have hpos := Char.utf8Size_pos char
    rw [String.utf8Len_append, String.utf8Len_cons] at h
    omega

theorem selfDelimiting_writtenField : SelfDelimiting writtenField := by
  have hnumber : (Nat.toDigits 10).Injective :=
    Function.LeftInverse.injective fun number => Nat.ofDigitChars_ten_toDigits
  have hcolon : ∀ count, ':' ∉ Nat.toDigits 10 count := fun count hmem =>
    absurd (Text.isDigit_of_mem_toDigits hmem) (by decide)
  intro field other rest rest' hsame
  obtain ⟨hfields, hrest⟩ := selfDelimiting_sized (fun _ _ => utf8Len_append_eq) hnumber hcolon
    _ _ _ _ hsame
  exact ⟨String.toList_injective hfields, hrest⟩

namespace CameraCandidate

/-- The fields that make up the identity. -/
def identityFields (candidate : CameraCandidate) : List String :=
  [candidate.vendorId.getD "", candidate.productId.getD "", candidate.serial.getD "",
    candidate.usbInterface.getD "", candidate.udevIdPath.getD "", candidate.busInfo.getD "",
    candidate.endpointRole]

theorem toList_canonicalIdentity (candidate : CameraCandidate) :
    candidate.canonicalIdentity.toList =
      ['|'].intercalate (candidate.identityFields.map writtenField) := by
  have hfield : ∀ field : String,
      (toString field.utf8ByteSize ++ ":" ++ field).toList = writtenField field := by
    intro field
    have hsize : field.utf8ByteSize = String.utf8Len field.toList := by
      rw [← String.utf8ByteSize_ofList, String.ofList_toList]
    rw [String.toList_append, String.toList_append, Nat.toString_eq_repr,
      Nat.repr_eq_ofList_toDigits, String.toList_ofList, hsize, List.append_assoc]
    rfl
  rw [canonicalIdentity, String.toList_intercalate, List.map_map]
  simp only [Function.comp_def, hfield]
  rfl

end CameraCandidate

/-- Two devices have one canonical identity exactly when the fields it is made
of agree, with an absent field read as an empty one. -/
theorem canonical_identity_unambiguous (left right : CameraCandidate) :
    left.canonicalIdentity = right.canonicalIdentity ↔
      left.vendorId.getD "" = right.vendorId.getD "" ∧
      left.productId.getD "" = right.productId.getD "" ∧
      left.serial.getD "" = right.serial.getD "" ∧
      left.usbInterface.getD "" = right.usbInterface.getD "" ∧
      left.udevIdPath.getD "" = right.udevIdPath.getD "" ∧
      left.busInfo.getD "" = right.busInfo.getD "" ∧
      left.endpointRole = right.endpointRole := by
  have hfields : left.identityFields = right.identityFields ↔
      left.canonicalIdentity = right.canonicalIdentity := by
    rw [← String.toList_inj, left.toList_canonicalIdentity, right.toList_canonicalIdentity]
    constructor
    · intro hsame
      rw [hsame]
    · refine selfDelimiting_writtenField.joined_injective '|' ?_
      intro field
      simp [writtenField, sized]
  rw [← hfields]
  simp [CameraCandidate.identityFields]

/-! ## The order of discovery -/

/-- A device path as it is compared. -/
def CameraCandidate.deviceComponents (candidate : CameraCandidate) : List Component :=
  components (utf8 candidate.devicePath.toList)

/-- The externals of a Unix host, which orders paths by their components. -/
def unixExternals (externals : DiscoveryExternals) : DiscoveryExternals where
  blake3 := externals.blake3
  base32Nopad := externals.base32Nopad
  pathLe left right :=
    decide (components (utf8 left.toList) ≤ components (utf8 right.toList))

def endpointPreference (candidate : CameraCandidate) : ℕ ×ₗ List Component :=
  toLex (roleRank candidate, candidate.deviceComponents)

variable {externals : DiscoveryExternals} {candidates : List CameraCandidate}

theorem preferred_iff {left right : CameraCandidate} :
    Preferred (unixExternals externals) left right ↔
      endpointPreference left ≤ endpointPreference right := by
  simp [Preferred, unixExternals, endpointPreference, Prod.Lex.toLex_le_toLex,
    CameraCandidate.deviceComponents]

instance (externals : DiscoveryExternals) :
    Std.Total (Preferred (unixExternals externals)) where
  total left right := by
    rw [preferred_iff, preferred_iff]
    exact le_total _ _

instance (externals : DiscoveryExternals) :
    IsTrans CameraCandidate (Preferred (unixExternals externals)) where
  trans left middle right := by
    rw [preferred_iff, preferred_iff, preferred_iff]
    exact le_trans

section
variable {externals : DiscoveryExternals} {candidates reordered : List CameraCandidate}

/-- Sorting forgets the order of devices with distinct paths. -/
theorem insertionSort_eq_of_perm (hperm : reordered.Perm candidates)
    (hpaths : candidates.Pairwise fun left right =>
      left.deviceComponents ≠ right.deviceComponents) :
    reordered.insertionSort (Preferred (unixExternals externals)) =
      candidates.insertionSort (Preferred (unixExternals externals)) := by
  have hsorted := (List.perm_insertionSort (Preferred (unixExternals externals)) reordered).trans
    (hperm.trans (List.perm_insertionSort (Preferred (unixExternals externals)) candidates).symm)
  refine hsorted.eq_of_pairwise ?_ (List.pairwise_insertionSort _ _)
    (List.pairwise_insertionSort _ _)
  intro left right hleft hright hle hge
  have hsame : endpointPreference left = endpointPreference right :=
    le_antisymm (preferred_iff.mp hle) (preferred_iff.mp hge)
  have hdistinct : (candidates.map CameraCandidate.deviceComponents).Nodup :=
    List.pairwise_map.mpr hpaths
  refine List.inj_on_of_nodup_map hdistinct ?_ ?_ (congrArg (fun key => (ofLex key).2) hsame)
  · exact hperm.mem_iff.mp ((List.perm_insertionSort _ _).mem_iff.mp hleft)
  · exact (List.perm_insertionSort _ _).mem_iff.mp hright

end

/-- The groups, with the devices of each in order of preference. -/
def sortedGroups (externals : DiscoveryExternals) (candidates : List CameraCandidate) :
    ExtTreeMap String (List CameraCandidate) :=
  (groupByParent candidates).map fun _ endpoints => endpoints.insertionSort (Preferred externals)

theorem addCamera_sorted (externals : DiscoveryExternals)
    (state : List LogicalCamera × ExtTreeMap String String) (parent : String)
    (endpoints : List CameraCandidate) :
    addCamera (unixExternals externals) state
        (parent, endpoints.insertionSort (Preferred (unixExternals externals))) =
      addCamera (unixExternals externals) state (parent, endpoints) := by
  unfold addCamera
  rw [(List.pairwise_insertionSort _ endpoints).insertionSort_eq]

/-- The loop sees a group only through its sorted list. -/
theorem groupLogicalCameras_eq_sortedGroups (externals : DiscoveryExternals)
    (candidates : List CameraCandidate) :
    groupLogicalCameras (unixExternals externals) candidates = (do
      let state ← (sortedGroups (unixExternals externals) candidates).toList.foldlM
        (addCamera (unixExternals externals)) ([], ∅)
      pure state.1) := by
  rw [sortedGroups, ExtTreeMap.toList_map, List.foldlM_map]
  simp only [addCamera_sorted]
  rfl

theorem sortedGroups_eq_of_perm {reordered : List CameraCandidate}
    (hperm : reordered.Perm candidates)
    (hpaths : candidates.Pairwise fun left right =>
      left.deviceComponents ≠ right.deviceComponents) :
    sortedGroups (unixExternals externals) reordered =
      sortedGroups (unixExternals externals) candidates := by
  refine ExtTreeMap.ext_getElem? ?_
  intro parent
  have hendpoints : (endpointsOf reordered parent).Perm (endpointsOf candidates parent) :=
    hperm.filter _
  have hempty : endpointsOf reordered parent = [] ↔ endpointsOf candidates parent = [] := by
    rw [← List.length_eq_zero_iff, hendpoints.length_eq, List.length_eq_zero_iff]
  have hsorted :
      (endpointsOf reordered parent).insertionSort (Preferred (unixExternals externals)) =
        (endpointsOf candidates parent).insertionSort (Preferred (unixExternals externals)) :=
    insertionSort_eq_of_perm hendpoints (hpaths.sublist List.filter_sublist)
  simp only [sortedGroups, ExtTreeMap.getElem?_map, getElem?_groupByParent, hempty]
  split
  · rfl
  · exact congrArg some hsorted

theorem exists_preferredEndpoint (externals : DiscoveryExternals) {parent : String}
    {candidate : CameraCandidate} (h : candidate ∈ endpointsOf candidates parent) :
    ∃ endpoint, preferredEndpoint externals candidates parent = some endpoint := by
  have hmember := (List.perm_insertionSort (Preferred externals) _).mem_iff.mpr h
  exact ⟨_, List.head?_eq_some_head (List.ne_nil_of_mem hmember)⟩

/-- The endpoint that stands for a parent comes before all others. -/
theorem preferred_of_preferredEndpoint {parent : String} {endpoint other : CameraCandidate}
    (h : preferredEndpoint (unixExternals externals) candidates parent = some endpoint)
    (hother : other ∈ endpointsOf candidates parent) :
    endpointPreference endpoint ≤ endpointPreference other := by
  obtain ⟨rest, hrest⟩ := List.head?_eq_some_iff.mp h
  have hsorted := List.pairwise_insertionSort (Preferred (unixExternals externals))
    (endpointsOf candidates parent)
  have hmember :=
    (List.perm_insertionSort (Preferred (unixExternals externals)) _).mem_iff.mpr hother
  rw [hrest] at hsorted hmember
  rcases List.mem_cons.mp hmember with rfl | hlater
  · exact le_rfl
  · exact preferred_iff.mp (List.rel_of_pairwise_cons hsorted hlater)

/-- Devices with distinct paths make one snapshot in whatever order they are
found, and it has one camera for each logical parent with a device that can
capture: the one with the least role rank and, among these, the least path. -/
theorem group_logical_cameras_order_free (externals : DiscoveryExternals)
    (candidates reordered : List CameraCandidate) (hperm : reordered.Perm candidates)
    (hpaths : candidates.Pairwise fun left right =>
      left.deviceComponents ≠ right.deviceComponents) :
    groupLogicalCameras (unixExternals externals) reordered =
        groupLogicalCameras (unixExternals externals) candidates ∧
      ∀ cameras, groupLogicalCameras (unixExternals externals) candidates = .ok cameras →
        (cameras.map fun camera => camera.endpoint.logicalParent).Nodup ∧
        (∀ parent, (∃ camera ∈ cameras, camera.endpoint.logicalParent = parent) ↔
          ∃ candidate ∈ candidates,
            candidate.isSupportedCapture ∧ candidate.logicalParent = parent) ∧
        ∀ camera ∈ cameras,
          camera.stableCameraId = camera.endpoint.stableCameraId (unixExternals externals) ∧
          camera.canonicalIdentity = camera.endpoint.canonicalIdentity ∧
          camera.endpoint ∈ candidates ∧ camera.endpoint.isSupportedCapture ∧
          ∀ candidate ∈ candidates, candidate.isSupportedCapture →
            candidate.logicalParent = camera.endpoint.logicalParent →
            endpointPreference camera.endpoint ≤ endpointPreference candidate := by
  refine ⟨?_, ?_⟩
  · rw [groupLogicalCameras_eq_sortedGroups, groupLogicalCameras_eq_sortedGroups,
      sortedGroups_eq_of_perm hperm hpaths]
  intro cameras hcameras
  refine ⟨List.pairwise_map.mpr (pairwise_cameras hcameras), ?_, ?_⟩
  · intro parent
    constructor
    · rintro ⟨camera, hcamera, rfl⟩
      obtain ⟨parent, endpoint, hendpoint, rfl⟩ := (mem_cameras_iff hcameras).mp hcamera
      obtain ⟨hmember, hsupported, -⟩ :=
        mem_endpointsOf_iff.mp (mem_endpointsOf_of_preferred hendpoint)
      exact ⟨endpoint, hmember, hsupported, rfl⟩
    · rintro ⟨candidate, hcandidate, hsupported, rfl⟩
      obtain ⟨endpoint, hendpoint⟩ := exists_preferredEndpoint (unixExternals externals)
        (mem_endpointsOf_iff.mpr ⟨hcandidate, hsupported, rfl⟩)
      exact ⟨_, (mem_cameras_iff hcameras).mpr ⟨_, _, hendpoint, rfl⟩,
        logicalParent_of_preferred hendpoint⟩
  · intro camera hcamera
    obtain ⟨parent, endpoint, hendpoint, rfl⟩ := (mem_cameras_iff hcameras).mp hcamera
    have hendpoints := mem_endpointsOf_of_preferred hendpoint
    obtain ⟨hmember, hsupported, rfl⟩ := mem_endpointsOf_iff.mp hendpoints
    refine ⟨rfl, rfl, hmember, hsupported, ?_⟩
    intro candidate hcandidate hcapture hparent
    exact preferred_of_preferredEndpoint hendpoint
      (mem_endpointsOf_iff.mpr ⟨hcandidate, hcapture, hparent⟩)

/-- The three devices of two cameras, found in the other order. -/
theorem group_logical_cameras_order_free_two :
    groupLogicalCameras (unixExternals lengthHash) twoCameras.reverse =
      groupLogicalCameras (unixExternals lengthHash) twoCameras :=
  (group_logical_cameras_order_free lengthHash twoCameras twoCameras.reverse
    (List.reverse_perm twoCameras) (by decide +kernel)).1

end RobotMulticam.Discovery
