import RobotMulticam.Lib.Chunks
import RobotMulticam.Lib.Loop
import RobotMulticam.Lib.Text

/-!
# Logical cameras

A physical camera shows up as several video devices. Discovery keeps the
devices that can capture, groups them by their logical parent and picks one
endpoint for each group. The endpoint's canonical identity, a text made of
the fields that survive a reboot, is hashed into the camera's stable id.

`getElem?_groupByParent` says what is in the groups. `Identified` is the
invariant of the loop over them: the loop refuses two identities with one
hash, and nothing else, so cameras with one id have one identity.
-/

namespace RobotMulticam.Discovery

open RobotMulticam.Lib
open RobotMulticam.Lib.Text (utf8)
open Std (ExtTreeMap)

/-- A video device. Paths are their text. -/
structure CameraCandidate where
  devicePath : String
  productName : String := ""
  vendorId : Option String := none
  productId : Option String := none
  serial : Option String := none
  usbInterface : Option String := none
  udevIdPath : Option String := none
  busInfo : Option String := none
  endpointRole : String := ""
  driver : Option String := none
  logicalParent : String
  captureCapable : Bool
  outputCapable : Bool
  metadataOnly : Bool
  supportedCaps : Bool
  managedVirtualLabel : Bool
  deriving DecidableEq

/-- What discovery uses from elsewhere: the hash, its base-32 text, which has
52 characters, and the order of paths. -/
structure DiscoveryExternals where
  blake3 : List UInt8 → Vector UInt8 32
  base32Nopad : Vector UInt8 32 → Vector Char 52
  pathLe : String → String → Bool

namespace CameraCandidate

def isGeneratedVirtual (candidate : CameraCandidate) : Bool :=
  candidate.driver == some "v4l2loopback" ||
    decide ("/devices/virtual/video4linux".toList <:+: candidate.devicePath.toList) ||
    candidate.managedVirtualLabel

def isSupportedCapture (candidate : CameraCandidate) : Bool :=
  candidate.captureCapable && !candidate.outputCapable && !candidate.metadataOnly &&
    candidate.supportedCaps && !candidate.isGeneratedVirtual

def canonicalIdentity (candidate : CameraCandidate) : String :=
  let fields := [
    candidate.vendorId.getD "",
    candidate.productId.getD "",
    candidate.serial.getD "",
    candidate.usbInterface.getD "",
    candidate.udevIdPath.getD "",
    candidate.busInfo.getD "",
    candidate.endpointRole]
  "|".intercalate (fields.map fun field => toString field.utf8ByteSize ++ ":" ++ field)

end CameraCandidate

/-- The stable id that a canonical identity hashes to. -/
def stableIdOf (externals : DiscoveryExternals) (identity : String) : String :=
  let digest := externals.blake3 (utf8 identity.toList)
  let encoded := (externals.base32Nopad digest).map Char.toLower
  "cam_" ++ String.ofList (encoded.toList.take 12)

def CameraCandidate.stableCameraId (externals : DiscoveryExternals)
    (candidate : CameraCandidate) : String := stableIdOf externals candidate.canonicalIdentity

structure LogicalCamera where
  stableCameraId : String
  canonicalIdentity : String
  endpoint : CameraCandidate
  deriving DecidableEq

inductive DiscoveryError where
  | stableIdCollision (stableCameraId : String)
  deriving DecidableEq

/-- The rank of an endpoint's role in `endpoint_preference`. -/
def roleRank (candidate : CameraCandidate) : Nat :=
  if candidate.endpointRole = "rgb" ∨ candidate.endpointRole = "primary" then 0
  else if candidate.endpointRole = "alternate" then 1
  else 2

/-- The order of `endpoint_preference`: the rank of the role, then the path. -/
def Preferred (externals : DiscoveryExternals) (left right : CameraCandidate) : Prop :=
  roleRank left < roleRank right ∨
    (roleRank left = roleRank right ∧ externals.pathLe left.devicePath right.devicePath = true)

instance (externals : DiscoveryExternals) : DecidableRel (Preferred externals) := fun _ _ =>
  inferInstanceAs (Decidable (_ ∨ _))

/-- The candidates that can capture, by logical parent. -/
def groupByParent (candidates : List CameraCandidate) :
    ExtTreeMap String (List CameraCandidate) :=
  candidates.foldl
    (fun groups candidate =>
      if candidate.isSupportedCapture then
        groups.insert candidate.logicalParent
          (groups.getD candidate.logicalParent [] ++ [candidate])
      else groups) ∅

/-- One turn of the loop over the groups. -/
def addCamera (externals : DiscoveryExternals)
    (state : List LogicalCamera × ExtTreeMap String String)
    (group : String × List CameraCandidate) :
    Outcome DiscoveryError (List LogicalCamera × ExtTreeMap String String) :=
  match group.2.insertionSort (Preferred externals) with
  | [] => panicked
  | endpoint :: _ =>
    let stableCameraId := endpoint.stableCameraId externals
    let canonicalIdentity := endpoint.canonicalIdentity
    if state.2[stableCameraId]?.any (· ≠ canonicalIdentity) then
      fail (.stableIdCollision stableCameraId)
    else
      .ok (state.1 ++ [⟨stableCameraId, canonicalIdentity, endpoint⟩],
        state.2.insert stableCameraId canonicalIdentity)

def groupLogicalCameras (externals : DiscoveryExternals) (candidates : List CameraCandidate) :
    Outcome DiscoveryError (List LogicalCamera) := do
  let (cameras, _) ← (groupByParent candidates).toList.foldlM (addCamera externals) ([], ∅)
  pure cameras

/-! ## Groups -/

/-- The devices of one logical parent that can capture. -/
def endpointsOf (candidates : List CameraCandidate) (parent : String) : List CameraCandidate :=
  candidates.filter fun candidate =>
    candidate.isSupportedCapture && candidate.logicalParent == parent

/-- The endpoint that stands for a logical parent, if it has any. -/
def preferredEndpoint (externals : DiscoveryExternals) (candidates : List CameraCandidate)
    (parent : String) : Option CameraCandidate :=
  ((endpointsOf candidates parent).insertionSort (Preferred externals)).head?

variable {candidates : List CameraCandidate} {parent : String} {externals : DiscoveryExternals}
  {cameras : List LogicalCamera} {endpoint : CameraCandidate}

theorem mem_endpointsOf_iff {candidate : CameraCandidate} :
    candidate ∈ endpointsOf candidates parent ↔
      candidate ∈ candidates ∧ candidate.isSupportedCapture = true ∧
        candidate.logicalParent = parent := by
  simp [endpointsOf]

theorem getElem?_groupByParent (candidates : List CameraCandidate) (parent : String) :
    (groupByParent candidates)[parent]? =
      if endpointsOf candidates parent = [] then none
      else some (endpointsOf candidates parent) := by
  induction candidates using List.reverseRecOn with
  | nil => simp [groupByParent, endpointsOf]
  | append_singleton candidates candidate ih =>
    have hlast : endpointsOf (candidates ++ [candidate]) parent =
        endpointsOf candidates parent ++
          if candidate.isSupportedCapture && candidate.logicalParent == parent
          then [candidate] else [] := by
      rw [endpointsOf, List.filter_append]
      congr 1
      simp [List.filter_cons]
    have hgroups : groupByParent (candidates ++ [candidate]) =
        if candidate.isSupportedCapture then
          (groupByParent candidates).insert candidate.logicalParent
            ((groupByParent candidates).getD candidate.logicalParent [] ++ [candidate])
        else groupByParent candidates := by
      rw [groupByParent, List.foldl_append]
      rfl
    rw [hlast, hgroups]
    by_cases hsupported : candidate.isSupportedCapture = true
    · rw [if_pos hsupported, ExtTreeMap.getElem?_insert, ExtTreeMap.getD_eq_getD_getElem?]
      by_cases hparent : candidate.logicalParent = parent
      · subst hparent
        have hdefault : ((groupByParent candidates)[candidate.logicalParent]?).getD [] =
            endpointsOf candidates candidate.logicalParent := by
          rw [ih]
          split
          · rename_i hempty
            exact hempty.symm
          · rfl
        simp [hsupported, hdefault]
      · simp [hparent, ih]
    · simp [hsupported, ih]

theorem mem_groupByParent {endpoints : List CameraCandidate} :
    (parent, endpoints) ∈ (groupByParent candidates).toList ↔
      endpoints ≠ [] ∧ endpoints = endpointsOf candidates parent := by
  rw [ExtTreeMap.mem_toList_iff_getElem?_eq_some, getElem?_groupByParent]
  split
  · rename_i hempty
    constructor
    · intro hnone
      cases hnone
    · rintro ⟨hne, rfl⟩
      exact absurd hempty hne
  · rename_i hne
    constructor
    · intro hsome
      cases hsome
      exact ⟨hne, rfl⟩
    · rintro ⟨_, rfl⟩
      rfl

/-! ## The loop over the groups -/

/-- The camera that an endpoint stands for. -/
def cameraOf (externals : DiscoveryExternals) (endpoint : CameraCandidate) : LogicalCamera :=
  ⟨endpoint.stableCameraId externals, endpoint.canonicalIdentity, endpoint⟩

/-- The loop has a camera for each group, and knows the identity behind each
id. -/
structure Identified (externals : DiscoveryExternals)
    (done : List (String × List CameraCandidate))
    (state : List LogicalCamera × ExtTreeMap String String) : Prop where
  cameras : state.1.map some = done.map fun group =>
    (group.2.insertionSort (Preferred externals)).head?.map (cameraOf externals)
  known : ∀ camera ∈ state.1, state.2[camera.stableCameraId]? = some camera.canonicalIdentity

theorem Identified.addCamera {done : List (String × List CameraCandidate)}
    {group : String × List CameraCandidate}
    {state next : List LogicalCamera × ExtTreeMap String String}
    (h : Identified externals done state)
    (hadd : addCamera externals state group = .ok next) :
    Identified externals (done ++ [group]) next := by
  unfold Discovery.addCamera at hadd
  split at hadd
  · cases hadd
  · rename_i endpoint rest hsorted
    dsimp only at hadd
    split at hadd
    · cases hadd
    · rename_i hfree
      cases hadd
      refine ⟨?_, ?_⟩
      · rw [List.map_append, h.cameras, List.map_append]
        simp [hsorted, cameraOf]
      · intro camera hcamera
        rw [ExtTreeMap.getElem?_insert]
        rcases List.mem_append.mp hcamera with hold | hnew
        · have hknown := h.known camera hold
          by_cases hsame : endpoint.stableCameraId externals = camera.stableCameraId
          · -- the identity that was known for this id is the new one
            have hidentity : camera.canonicalIdentity = endpoint.canonicalIdentity := by
              rw [hsame, hknown] at hfree
              simpa using hfree
            simp [hsame, hidentity]
          · simpa [hsame] using hknown
        · rw [List.mem_singleton.mp hnew]
          simp

/-- What a successful snapshot consists of. -/
theorem groupLogicalCameras_eq_ok (h : groupLogicalCameras externals candidates = .ok cameras) :
    cameras.map some = (groupByParent candidates).toList.map (fun group =>
        (preferredEndpoint externals candidates group.1).map (cameraOf externals)) ∧
      ∀ left ∈ cameras, ∀ right ∈ cameras, left.stableCameraId = right.stableCameraId →
        left.canonicalIdentity = right.canonicalIdentity := by
  unfold groupLogicalCameras at h
  obtain ⟨⟨found, identities⟩, hloop, hfound⟩ := bind_eq_ok.mp h
  cases hfound
  have hnumbered : Identified externals (groupByParent candidates).toList (cameras, identities) :=
    loop_invariant (Identified externals)
      (fun done group state next hstate hadd => hstate.addCamera hadd)
      ⟨rfl, fun camera hcamera => by cases hcamera⟩ hloop
  refine ⟨?_, ?_⟩
  · rw [hnumbered.cameras]
    refine List.map_congr_left ?_
    rintro ⟨parent, endpoints⟩ hgroup
    rw [(mem_groupByParent.mp hgroup).2]
    rfl
  · intro left hleft right hright hsame
    have hidentity := hnumbered.known left hleft
    rw [hsame, hnumbered.known right hright] at hidentity
    exact (Option.some.inj hidentity).symm

/-! ## Distinct ids -/

/-- The groups have distinct parents. -/
theorem pairwise_parents (candidates : List CameraCandidate) :
    (groupByParent candidates).toList.Pairwise fun left right => left.1 ≠ right.1 := by
  refine (ExtTreeMap.distinct_keys_toList (t := groupByParent candidates)).imp ?_
  intro left right hne heq
  exact hne (by rw [heq]; exact Std.ReflCmp.compare_self)

/-- The endpoint that stands for a parent is one of its devices. -/
theorem mem_endpointsOf_of_preferred
    (h : preferredEndpoint externals candidates parent = some endpoint) :
    endpoint ∈ endpointsOf candidates parent := by
  have hsorted := List.mem_of_mem_head? (show endpoint ∈ List.head? _ from h)
  exact (List.perm_insertionSort _ _).mem_iff.mp hsorted

theorem logicalParent_of_preferred
    (h : preferredEndpoint externals candidates parent = some endpoint) :
    endpoint.logicalParent = parent :=
  (mem_endpointsOf_iff.mp (mem_endpointsOf_of_preferred h)).2.2

/-- A snapshot has a camera for the endpoint of each logical parent, in the
order of the parents. -/
theorem cameras_eq_filterMap (h : groupLogicalCameras externals candidates = .ok cameras) :
    cameras = (groupByParent candidates).toList.filterMap fun group =>
      (preferredEndpoint externals candidates group.1).map (cameraOf externals) := by
  have hsome := congrArg (List.filterMap id) (groupLogicalCameras_eq_ok h).1
  rw [List.filterMap_map, List.filterMap_map] at hsome
  exact List.filterMap_some.symm.trans hsome

theorem mem_cameras_iff {camera : LogicalCamera}
    (h : groupLogicalCameras externals candidates = .ok cameras) :
    camera ∈ cameras ↔ ∃ parent endpoint,
      preferredEndpoint externals candidates parent = some endpoint ∧
      cameraOf externals endpoint = camera := by
  rw [cameras_eq_filterMap h, List.mem_filterMap]
  constructor
  · rintro ⟨⟨parent, endpoints⟩, -, hcamera⟩
    obtain ⟨endpoint, hendpoint, rfl⟩ := Option.map_eq_some_iff.mp hcamera
    exact ⟨parent, endpoint, hendpoint, rfl⟩
  · rintro ⟨parent, endpoint, hendpoint, rfl⟩
    have hgroup : (parent, endpointsOf candidates parent) ∈ (groupByParent candidates).toList :=
      mem_groupByParent.mpr
        ⟨List.ne_nil_of_mem (mem_endpointsOf_of_preferred hendpoint), rfl⟩
    exact ⟨_, hgroup, congrArg (Option.map (cameraOf externals)) hendpoint⟩

/-- The cameras have distinct parents. -/
theorem pairwise_cameras (h : groupLogicalCameras externals candidates = .ok cameras) :
    cameras.Pairwise fun left right =>
      left.endpoint.logicalParent ≠ right.endpoint.logicalParent := by
  rw [cameras_eq_filterMap h, List.pairwise_filterMap]
  refine (pairwise_parents candidates).imp ?_
  intro left right hparents camera hcamera other hother
  obtain ⟨endpoint, hendpoint, rfl⟩ := Option.map_eq_some_iff.mp hcamera
  obtain ⟨second, hsecond, rfl⟩ := Option.map_eq_some_iff.mp hother
  simpa only [cameraOf, logicalParent_of_preferred hendpoint, logicalParent_of_preferred hsecond]
    using hparents

/-- The cameras of a snapshot have distinct ids exactly when the endpoints
that stand for different logical parents have different canonical
identities. -/
theorem stable_ids_distinct_iff (externals : DiscoveryExternals)
    (candidates : List CameraCandidate) (cameras : List LogicalCamera)
    (hcameras : groupLogicalCameras externals candidates = .ok cameras) :
    (cameras.map LogicalCamera.stableCameraId).Nodup ↔
      ∀ left right, left ≠ right →
        ∀ endpoint ∈ preferredEndpoint externals candidates left,
        ∀ other ∈ preferredEndpoint externals candidates right,
          endpoint.canonicalIdentity ≠ other.canonicalIdentity := by
  have hknown := (groupLogicalCameras_eq_ok hcameras).2
  have hmember : ∀ {parent found}, preferredEndpoint externals candidates parent = some found →
      cameraOf externals found ∈ cameras := fun hfound =>
    (mem_cameras_iff hcameras).mpr ⟨_, _, hfound, rfl⟩
  constructor
  · intro hdistinct left right hparents endpoint hendpoint other hother hidentity
    -- one identity has one id, and only one camera has it
    have hsame := List.inj_on_of_nodup_map hdistinct (hmember hendpoint)
      (hmember hother) (congrArg (stableIdOf externals) hidentity)
    have hendpoints : endpoint = other := congrArg LogicalCamera.endpoint hsame
    rw [← logicalParent_of_preferred hendpoint, hendpoints] at hparents
    exact hparents (logicalParent_of_preferred hother)
  · intro hdistinct
    -- two cameras with one id have one identity, so their parents are the same
    have hidentities : cameras.Pairwise fun left right =>
        left.canonicalIdentity ≠ right.canonicalIdentity := by
      refine (pairwise_cameras hcameras).imp_of_mem ?_
      intro left right hleft hright hparents
      obtain ⟨parent, endpoint, hendpoint, rfl⟩ := (mem_cameras_iff hcameras).mp hleft
      obtain ⟨other, second, hsecond, rfl⟩ := (mem_cameras_iff hcameras).mp hright
      refine hdistinct parent other ?_ endpoint hendpoint second hsecond
      rw [← logicalParent_of_preferred hendpoint, ← logicalParent_of_preferred hsecond]
      exact hparents
    rw [List.nodup_iff_pairwise_ne, List.pairwise_map]
    refine hidentities.imp_of_mem ?_
    intro left right hleft hright hidentity hsame
    exact hidentity (hknown left hleft right hright hsame)

/-- Five bits a character, the last ones filled up with zeros. -/
def base32 (bytes : List UInt8) : List Char :=
  let bits := bytes.flatMap fun byte => (List.range 8).reverse.map byte.toNat.testBit
  (chunks 5 bits).map fun group =>
    let value := (group ++ List.replicate (5 - group.length) false).foldl
      (fun value bit => 2 * value + bit.toNat) 0
    "ABCDEFGHIJKLMNOPQRSTUVWXYZ234567".toList.getD value 'A'

theorem length_base32 (digest : Vector UInt8 32) : (base32 digest.toList).length = 52 := by
  simp [base32, length_chunks, List.length_flatMap]

/-- Externals for evaluation, with a hash of 32 bytes with the length of the
input. -/
def lengthHash : DiscoveryExternals where
  blake3 bytes := Vector.replicate 32 (UInt8.ofNat bytes.length)
  base32Nopad digest := ⟨(base32 digest.toList).toArray, length_base32 digest⟩
  pathLe left right := left ≤ right

/-- A capture device of one model, without a serial number, a path or bus
information. -/
def anonymousCamera (devicePath logicalParent : String) : CameraCandidate where
  devicePath
  vendorId := some "046d"
  productId := some "0825"
  endpointRole := "primary"
  logicalParent
  captureCapable := true
  outputCapable := false
  metadataOnly := false
  supportedCaps := true
  managedVirtualLabel := false

/-- Two cameras of one model, the first one with two devices and the second
one with a serial number. -/
def twoCameras : List CameraCandidate :=
  [anonymousCamera "/dev/video1" "/sys/devices/platform/a",
    anonymousCamera "/dev/video0" "/sys/devices/platform/a",
    { anonymousCamera "/dev/video2" "/sys/devices/platform/b" with serial := some "S1" }]

theorem stable_ids_distinct_iff_two :
    ∃ cameras, groupLogicalCameras lengthHash twoCameras = .ok cameras ∧ cameras.length = 2 ∧
      (cameras.map LogicalCamera.stableCameraId).Nodup := by
  have hcameras : groupLogicalCameras lengthHash twoCameras =
      .ok [cameraOf lengthHash (anonymousCamera "/dev/video0" "/sys/devices/platform/a"),
        cameraOf lengthHash { anonymousCamera "/dev/video2" "/sys/devices/platform/b" with
          serial := some "S1" }] := by
    decide +kernel
  refine ⟨_, hcameras, rfl, (stable_ids_distinct_iff lengthHash _ _ hcameras).mpr ?_⟩
  intro left right hparents endpoint hendpoint other hother
  rw [← logicalParent_of_preferred hendpoint, ← logicalParent_of_preferred hother] at hparents
  have hdevice := (mem_endpointsOf_iff.mp (mem_endpointsOf_of_preferred hendpoint)).1
  have hsecond := (mem_endpointsOf_iff.mp (mem_endpointsOf_of_preferred hother)).1
  have hdiffer : ∀ endpoint ∈ twoCameras, ∀ other ∈ twoCameras,
      endpoint.logicalParent ≠ other.logicalParent →
        endpoint.canonicalIdentity ≠ other.canonicalIdentity := by
    decide +kernel
  exact hdiffer endpoint hdevice other hsecond hparents

/-- Two cameras of one model that say nothing else about themselves have
different parents and one identity. The identities agree, so the snapshot is
accepted, with one id for both. -/
theorem anonymous_cameras_share_id :
    ∃ camera other, groupLogicalCameras lengthHash
        [anonymousCamera "/dev/video0" "/sys/devices/platform/a",
          anonymousCamera "/dev/video2" "/sys/devices/platform/b"] = .ok [camera, other] ∧
      camera.endpoint.logicalParent ≠ other.endpoint.logicalParent ∧
      camera.stableCameraId = other.stableCameraId := by
  refine ⟨cameraOf lengthHash (anonymousCamera "/dev/video0" "/sys/devices/platform/a"),
    cameraOf lengthHash (anonymousCamera "/dev/video2" "/sys/devices/platform/b"), ?_, ?_, ?_⟩
  · decide +kernel
  · decide
  · decide +kernel

end RobotMulticam.Discovery
