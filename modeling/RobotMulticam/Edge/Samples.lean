import RobotMulticam.Edge.Adapters

/-!
# Samples on an adapter connection

A connection knows the ids and lengths of the features its adapter described
and checks every sample against them. The check does not look at the `valid`
flags: a block always has to have all its values, and they have to be finite.
-/

namespace RobotMulticam.Edge

open RobotMulticam.Lib
open RobotMulticam.Protocol
open Std (ExtTreeMap ExtTreeSet)

inductive AdapterClientError where
  | descriptor (error : DescriptorError)
  | sample
  deriving DecidableEq, Repr

/-- `usize::checked_mul`. -/
def checkedMulSize (left right : Nat) : Option Nat :=
  if left * right < 2 ^ 64 then some (left * right) else none

/-- The number of values of a feature, as `connect` computes it. -/
def featureLength (shape : List UInt32) : Nat :=
  if shape.isEmpty then 1
  else (shape.foldlM (fun total size => checkedMulSize total size.toNat) 1).getD (2 ^ 64 - 1)

structure AdapterConnection where
  descriptor : AdapterDescriptor
  featureIds : ExtTreeSet UInt64
  featureLengths : ExtTreeMap UInt64 Nat
  lastSequence : UInt64
  lastSourceTimeNs : UInt64

namespace AdapterConnection

/-- `connect`, once the adapter has sent its descriptor. -/
def connect (descriptor : AdapterDescriptor) : Except AdapterClientError AdapterConnection := do
  (validateDescriptor descriptor).mapError .descriptor
  .ok {
    descriptor
    featureIds := ExtTreeSet.ofList (descriptor.features.map (·.featureId))
    featureLengths := ExtTreeMap.ofList
      (descriptor.features.map fun feature => (feature.featureId, featureLength feature.shape))
    lastSequence := 0
    lastSourceTimeNs := 0 }

/-- The check of one block, with the ids seen before it. -/
def checkBlock (self : AdapterConnection) (seen : ExtTreeSet UInt64) (block : FeatureBlock) :
    Except AdapterClientError (ExtTreeSet UInt64) :=
  -- the flag `valid` of the block is not looked at
  if !self.featureIds.contains block.featureId || seen.contains block.featureId
      || self.featureLengths[block.featureId]? != some block.values.length
      || block.values.any (!·.isFinite) then .error .sample
  else .ok (seen.insert block.featureId)

def validateSample (self : AdapterConnection) (sample : DeviceSample) :
    Except AdapterClientError AdapterConnection :=
  let validDevice : Bool := self.descriptor.devices.any (·.deviceId = sample.deviceId)
  let totalValues : Nat := (sample.featureBlocks.map (·.values.length)).sum
  -- the checked sum comes first
  if 2 ^ 64 ≤ totalValues then .error .sample
  else if sample.adapterInstanceId ≠ self.descriptor.adapterInstanceId
      ∨ sample.descriptorRevision ≠ self.descriptor.descriptorRevision
      ∨ ¬ validDevice
      ∨ sample.sampleSeq ≤ self.lastSequence
      ∨ sample.sourceTimeNs = 0
      ∨ sample.sourceTimeNs ≤ self.lastSourceTimeNs
      ∨ self.featureIds.size < sample.featureBlocks.length
      ∨ 65536 < totalValues then .error .sample
  else do
    let _ ← sample.featureBlocks.foldlM self.checkBlock ∅
    .ok { self with
      lastSequence := sample.sampleSeq
      lastSourceTimeNs := sample.sourceTimeNs }

end AdapterConnection

/-! ## What is accepted -/

/-- A block of a described feature, with all its values. -/
structure BlockFits (connection : AdapterConnection) (block : FeatureBlock) : Prop where
  known : block.featureId ∈ connection.featureIds
  length : connection.featureLengths[block.featureId]? = some block.values.length
  finite : ∀ value ∈ block.values, value.isFinite = true

/-- The samples a connection accepts. -/
structure SampleFits (connection : AdapterConnection) (sample : DeviceSample) : Prop where
  adapter : sample.adapterInstanceId = connection.descriptor.adapterInstanceId
  revision : sample.descriptorRevision = connection.descriptor.descriptorRevision
  device : sample.deviceId ∈ connection.descriptor.devices.map (·.deviceId)
  sequence : connection.lastSequence < sample.sampleSeq
  time : connection.lastSourceTimeNs < sample.sourceTimeNs
  count : sample.featureBlocks.length ≤ connection.featureIds.size
  total : (sample.featureBlocks.map (·.values.length)).sum ≤ 65536
  distinct : (sample.featureBlocks.map (·.featureId)).Nodup
  blocks : ∀ block ∈ sample.featureBlocks, BlockFits connection block

section Accepted

variable {connection : AdapterConnection} {seen next : ExtTreeSet UInt64} {block : FeatureBlock}
  {blocks : List FeatureBlock}

theorem checkBlock_eq_ok_iff {ids : List UInt64} (hids : Holds seen ids) :
    connection.checkBlock seen block = .ok next ↔
      BlockFits connection block ∧ block.featureId ∉ ids ∧ next = seen.insert block.featureId := by
  have hnew : seen.contains block.featureId = false ↔ block.featureId ∉ ids :=
    hids.contains_eq_false
  unfold AdapterConnection.checkBlock
  constructor
  · intro h
    split at h
    · cases h
    · rename_i hfits
      cases h
      simp only [Bool.or_eq_true, not_or, Bool.not_eq_true, Bool.not_eq_true',
        Bool.not_eq_false, bne_eq_false_iff_eq, List.any_eq_false] at hfits
      obtain ⟨⟨⟨hknown, hfresh⟩, hlength⟩, hfinite⟩ := hfits
      exact ⟨⟨ExtTreeSet.contains_iff_mem.mp hknown, hlength, by simpa using hfinite⟩,
        hnew.mp hfresh, rfl⟩
  · rintro ⟨hfits, hfresh, rfl⟩
    rw [if_neg]
    have hknown : connection.featureIds.contains block.featureId = true :=
      ExtTreeSet.contains_iff_mem.mpr hfits.known
    simpa [hknown, hnew.mpr hfresh, hfits.length] using hfits.finite

/-- What the loop knows after the given blocks. -/
structure BlocksTrack (connection : AdapterConnection) (blocks : List FeatureBlock)
    (seen : ExtTreeSet UInt64) : Prop where
  fits : ∀ block ∈ blocks, BlockFits connection block
  ids : Holds seen (blocks.map (·.featureId))

theorem BlocksTrack.checkBlock (h : BlocksTrack connection blocks seen)
    (hok : connection.checkBlock seen block = .ok next) :
    BlocksTrack connection (blocks ++ [block]) next := by
  obtain ⟨hfits, hfresh, rfl⟩ := (checkBlock_eq_ok_iff h.ids).mp hok
  exact ⟨List.forall_mem_append.mpr ⟨h.fits, by simpa using hfits⟩,
    by simpa using h.ids.insert hfresh⟩

/-- The loop over the blocks passes if every block fits and the ids are
distinct. -/
theorem exists_foldlM_checkBlock_iff :
    (∃ after, blocks.foldlM connection.checkBlock ∅ = .ok after) ↔
      (∀ block ∈ blocks, BlockFits connection block) ∧ (blocks.map (·.featureId)).Nodup := by
  have hstart : BlocksTrack connection [] ∅ := ⟨by simp, .empty⟩
  constructor
  · rintro ⟨after, hafter⟩
    have hall := loop_invariant (BlocksTrack connection) (fun _ _ _ _ hseen => hseen.checkBlock)
      hstart hafter
    exact ⟨hall.fits, hall.ids.nodup⟩
  · rintro ⟨hfits, hdistinct⟩
    have hturn : ∀ done block rest seen, blocks = done ++ block :: rest →
        BlocksTrack connection done seen →
        ∃ next, connection.checkBlock seen block = .ok next ∧
          BlocksTrack connection (done ++ [block]) next := by
      rintro done block rest seen rfl hseen
      rw [List.map_append, List.map_cons] at hdistinct
      have hok := (checkBlock_eq_ok_iff hseen.ids).mpr
        ⟨hfits block (by simp), not_mem_of_nodup hdistinct, rfl⟩
      exact ⟨_, hok, hseen.checkBlock hok⟩
    obtain ⟨after, hafter, _⟩ := loop_succeeds _ hturn hstart
    exact ⟨after, hafter⟩

/-- A connection accepts exactly the samples that fit, and remembers number
and time. -/
theorem validateSample_eq_ok_iff {sample : DeviceSample} {next : AdapterConnection} :
    connection.validateSample sample = .ok next ↔
      SampleFits connection sample ∧ next = { connection with
        lastSequence := sample.sampleSeq
        lastSourceTimeNs := sample.sourceTimeNs } := by
  have hdevices : connection.descriptor.devices.any (·.deviceId = sample.deviceId) = true ↔
      sample.deviceId ∈ connection.descriptor.devices.map (·.deviceId) := by
    simp
  unfold AdapterConnection.validateSample
  dsimp only
  constructor
  · intro h
    split at h
    · cases h
    · split at h
      · cases h
      · rename_i hfields
        obtain ⟨seen, hseen, h⟩ := bind_eq_ok.mp h
        cases h
        obtain ⟨hall, hdistinct⟩ := exists_foldlM_checkBlock_iff.mp ⟨seen, hseen⟩
        simp only [not_or, not_not] at hfields
        obtain ⟨hadapter, hrevision, hdevice, hsequence, _, htime, hcount, htotal⟩ := hfields
        refine ⟨⟨hadapter, hrevision, hdevices.mp hdevice, ?_, ?_, ?_, ?_, hdistinct, hall⟩, rfl⟩
        · exact UInt64.not_le.mp hsequence
        · exact UInt64.not_le.mp htime
        · omega
        · omega
  · rintro ⟨hfits, rfl⟩
    obtain ⟨seen, hseen⟩ := exists_foldlM_checkBlock_iff.mpr ⟨hfits.blocks, hfits.distinct⟩
    have htotal := hfits.total
    have hpositive : sample.sourceTimeNs ≠ 0 := by
      intro hzero
      have htime := hfits.time
      rw [hzero] at htime
      exact UInt64.not_lt_zero htime
    rw [if_neg (by omega), if_neg]
    · rw [hseen]
      rfl
    · simp only [not_or, not_not]
      exact ⟨hfits.adapter, hfits.revision, hdevices.mpr hfits.device,
        UInt64.not_le.mpr hfits.sequence, hpositive, UInt64.not_le.mpr hfits.time,
        Nat.not_lt.mpr hfits.count, Nat.not_lt.mpr htotal⟩

end Accepted

/-- What a connection knows of its adapter; the samples do not change it. -/
structure Connected (descriptor : AdapterDescriptor) (connection : AdapterConnection) : Prop where
  descriptor_eq : connection.descriptor = descriptor
  ids : ∀ feature ∈ descriptor.features, feature.featureId ∈ connection.featureIds
  lengths : ∀ feature ∈ descriptor.features,
    connection.featureLengths[feature.featureId]? = some (featureLength feature.shape)
  distinct : (descriptor.features.map (·.featureId)).Nodup

variable {descriptor : AdapterDescriptor} {connection : AdapterConnection}

theorem Connected.after (h : Connected descriptor connection) (sample : DeviceSample) :
    Connected descriptor { connection with
      lastSequence := sample.sampleSeq
      lastSourceTimeNs := sample.sourceTimeNs } :=
  ⟨h.descriptor_eq, h.ids, h.lengths, h.distinct⟩

theorem connect_eq_ok (h : AdapterConnection.connect descriptor = .ok connection) :
    Connected descriptor connection ∧ connection.lastSequence = 0 ∧
      connection.lastSourceTimeNs = 0 := by
  unfold AdapterConnection.connect at h
  obtain ⟨_, hvalid, h⟩ := bind_eq_ok.mp h
  cases h
  obtain ⟨_, hdistinct, _⟩ := validateDescriptor_eq_ok (mapError_eq_ok.mp hvalid)
  refine ⟨⟨rfl, ?_, fun _ => getElem?_ofList_of_nodup hdistinct, hdistinct⟩, rfl, rfl⟩
  intro feature hfeature
  rw [ExtTreeSet.mem_ofList, List.contains_iff_mem]
  exact List.mem_map_of_mem hfeature

end RobotMulticam.Edge
