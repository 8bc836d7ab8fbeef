import RobotMulticam.Adapter.Service
import RobotMulticam.Edge.Samples

/-!
# Samples from the adapter runtime to the Edge

The runtime sends a block without values for a feature the backend did not
read, and passes values on that are not finite; it marks both as invalid. The
Edge refuses both whatever the mark says. So a stream is accepted exactly as
long as every sample is complete.
-/

namespace RobotMulticam.Link

open RobotMulticam.Lib
open RobotMulticam.Protocol
open RobotMulticam.Adapter
open RobotMulticam.Edge
open Std (ExtTreeMap ExtTreeSet)

variable {δ : Type}

/-- Where the backend read a feature, it read as many values as described. -/
def AsDescribed (descriptor : AdapterDescriptor) (sample : Sample δ) : Prop :=
  ∀ feature ∈ descriptor.features, ∀ values, sample.values feature.qualifiedName = some values →
    values.length = featureLength feature.shape

/-- Every feature with values was read, all values are finite in a message,
and there are not too many. -/
structure CompleteSample (numbers : Numbers δ) (descriptor : AdapterDescriptor)
    (sample : Sample δ) : Prop where
  present : ∀ feature ∈ featuresByName descriptor, featureLength feature.shape ≠ 0 →
    (sample.values feature.qualifiedName).isSome = true
  finite : ∀ feature ∈ featuresByName descriptor, ∀ values,
    sample.values feature.qualifiedName = some values →
      ∀ value ∈ values, (numbers.toF32 value).isFinite = true
  total : ((featuresByName descriptor).map fun feature =>
    ((sample.values feature.qualifiedName).getD []).length).sum ≤ 65536

section SampleTurn

variable {numbers : Numbers δ} {descriptor : AdapterDescriptor} {sample : Sample δ}
  {connection : AdapterConnection}

/-- The block of a feature is accepted if the feature was read completely, or
has no values to read. -/
theorem blockFits_iff (hconnected : Connected descriptor connection)
    (hdescribed : AsDescribed descriptor sample) {feature : FeatureDescriptor}
    (hfeature : feature ∈ descriptor.features) :
    BlockFits connection (featureBlock numbers sample feature) ↔
      (featureLength feature.shape ≠ 0 →
        (sample.values feature.qualifiedName).isSome = true) ∧
      ∀ values, sample.values feature.qualifiedName = some values →
        ∀ value ∈ values, (numbers.toF32 value).isFinite = true := by
  have hlength := hconnected.lengths feature hfeature
  have hknown := hconnected.ids feature hfeature
  cases hvalues : sample.values feature.qualifiedName with
  | none =>
    -- the block is empty
    have hblock : (featureBlock numbers sample feature).values = [] := by
      simp [featureBlock, hvalues]
    constructor
    · intro hfits
      have hzero := hfits.length
      rw [hblock] at hzero
      have hsame := Option.some.inj (hlength.symm.trans hzero)
      exact ⟨fun hne => absurd hsame hne, by simp⟩
    · rintro ⟨hpresent, _⟩
      have hzero : featureLength feature.shape = 0 := by simpa using hpresent
      refine ⟨hknown, ?_, by simp [hblock]⟩
      rw [hblock, List.length_nil, ← hzero]
      exact hlength
  | some values =>
    have hblock : (featureBlock numbers sample feature).values = values.map numbers.toF32 := by
      simp [featureBlock, hvalues]
    have hcount := hdescribed feature hfeature values hvalues
    constructor
    · intro hfits
      refine ⟨fun _ => rfl, ?_⟩
      rintro _ ⟨⟩ value hvalue
      exact hfits.finite _ (hblock ▸ List.mem_map_of_mem hvalue)
    · rintro ⟨_, hfinite⟩
      refine ⟨hknown, ?_, ?_⟩
      · rw [hblock, List.length_map, hcount]
        exact hlength
      · intro value hvalue
        rw [hblock] at hvalue
        obtain ⟨number, hnumber, rfl⟩ := List.mem_map.mp hvalue
        exact hfinite values rfl number hnumber

theorem nodup_featuresByName (hconnected : Connected descriptor connection) :
    ((featuresByName descriptor).map (·.featureId)).Nodup := by
  have hnames : ((featuresByName descriptor).map (·.qualifiedName)).Nodup := nodup_map_dict _
  refine hnames.of_map.map_on fun feature hfeature other hother hsame => ?_
  exact List.inj_on_of_nodup_map hconnected.distinct (mem_of_mem_dict hfeature)
    (mem_of_mem_dict hother) hsame

/-- The connection knows at least as many features as a sample has blocks. -/
theorem length_featuresByName_le (hconnected : Connected descriptor connection) :
    (featuresByName descriptor).length ≤ connection.featureIds.size := by
  have hsubset : (featuresByName descriptor).map (·.featureId) ⊆ connection.featureIds.toList := by
    intro id hid
    obtain ⟨feature, hfeature, rfl⟩ := List.mem_map.mp hid
    exact ExtTreeSet.mem_toList.mpr (hconnected.ids feature (mem_of_mem_dict hfeature))
  have hle := ((nodup_featuresByName hconnected).subperm hsubset).length_le
  rwa [List.length_map, ExtTreeSet.length_toList] at hle

/-- The blocks of a sample are accepted exactly if it is complete. -/
theorem blocks_fit_iff (hconnected : Connected descriptor connection)
    (hdescribed : AsDescribed descriptor sample) :
    ((((featuresByName descriptor).map (featureBlock numbers sample)).map
        (·.values.length)).sum ≤ 65536 ∧
      ∀ block ∈ (featuresByName descriptor).map (featureBlock numbers sample),
        BlockFits connection block) ↔ CompleteSample numbers descriptor sample := by
  have htotal : ((featuresByName descriptor).map (featureBlock numbers sample)).map
      (·.values.length) = (featuresByName descriptor).map fun feature =>
        ((sample.values feature.qualifiedName).getD []).length := by
    simp [featureBlock, Function.comp_def]
  rw [htotal, List.forall_mem_map]
  have hblock : ∀ feature ∈ featuresByName descriptor,
      BlockFits connection (featureBlock numbers sample feature) ↔ _ :=
    fun feature hfeature => blockFits_iff hconnected hdescribed (mem_of_mem_dict hfeature)
  constructor
  · rintro ⟨htotal, hfits⟩
    exact ⟨fun feature hfeature => ((hblock feature hfeature).mp (hfits feature hfeature)).1,
      fun feature hfeature => ((hblock feature hfeature).mp (hfits feature hfeature)).2, htotal⟩
  · intro hcomplete
    exact ⟨hcomplete.total, fun feature hfeature => (hblock feature hfeature).mpr
      ⟨hcomplete.present feature hfeature, hcomplete.finite feature hfeature⟩⟩

/-- The sample of a turn is accepted exactly if it is complete. -/
theorem sampleFits_iff (hconnected : Connected descriptor connection)
    (hdescribed : AsDescribed descriptor sample) {sampleSeq : Nat} {message : DeviceSample}
    (hmessage : deviceSample numbers descriptor sampleSeq sample = some message)
    (hsequence : connection.lastSequence.toNat < sampleSeq)
    (htime : connection.lastSourceTimeNs.toNat < sample.sourceTimeNs) :
    message.sampleSeq.toNat = sampleSeq ∧ message.sourceTimeNs.toNat = sample.sourceTimeNs ∧
      (SampleFits connection message ↔ CompleteSample numbers descriptor sample) := by
  unfold deviceSample at hmessage
  split at hmessage
  · cases hmessage
  · rename_i device hdevice
    split at hmessage
    · rename_i hrange
      cases hmessage
      have hseqNat : (UInt64.ofNat sampleSeq).toNat = sampleSeq :=
        UInt64.toNat_ofNat_of_lt' hrange.1
      have htimeNat : (UInt64.ofNat sample.sourceTimeNs).toNat = sample.sourceTimeNs :=
        UInt64.toNat_ofNat_of_lt' hrange.2
      refine ⟨hseqNat, htimeNat, ?_⟩
      rw [← blocks_fit_iff hconnected hdescribed]
      constructor
      · intro hfits
        exact ⟨hfits.total, hfits.blocks⟩
      · rintro ⟨htotal, hblocks⟩
        refine ⟨?_, ?_, ?_, ?_, ?_, ?_, htotal, ?_, hblocks⟩
        · rw [hconnected.descriptor_eq]
        · rw [hconnected.descriptor_eq]
        · rw [hconnected.descriptor_eq]
          exact List.mem_map_of_mem (List.mem_of_head? hdevice)
        · rw [UInt64.lt_iff_toNat_lt, hseqNat]
          exact hsequence
        · rw [UInt64.lt_iff_toNat_lt, htimeNat]
          exact htime
        · rw [List.length_map]
          exact length_featuresByName_le hconnected
        · rw [List.map_map]
          exact nodup_featuresByName hconnected
    · cases hmessage

end SampleTurn

/-- The same from any connection that is behind the stream. -/
theorem accepted_iff {numbers : Numbers δ} {descriptor : AdapterDescriptor}
    {connection : AdapterConnection} (hconnected : Connected descriptor connection)
    {sampleSeq : Nat} (hsequence : connection.lastSequence.toNat ≤ sampleSeq)
    {turns : List (SampleTurn δ)}
    (htimes : ∀ turn ∈ turns, connection.lastSourceTimeNs.toNat < turn.sample.sourceTimeNs)
    (hincreasing : turns.Pairwise fun earlier later =>
      earlier.sample.sourceTimeNs < later.sample.sourceTimeNs)
    (hdescribed : ∀ turn ∈ turns, AsDescribed descriptor turn.sample) :
    (∃ after, (streamSamples numbers descriptor sampleSeq turns).foldlM
        AdapterConnection.validateSample connection = .ok after) ↔
      ∀ entry ∈ turns.zip (streamSamples numbers descriptor sampleSeq turns),
        CompleteSample numbers descriptor entry.1.sample := by
  -- along the turns: an accepted sample moves the number and the time of the
  -- connection to its own, which the next turn exceeds
  induction turns generalizing connection sampleSeq with
  | nil => simp [streamSamples, pure, Except.pure]
  | cons turn turns ih =>
    obtain ⟨htimesHead, htimesRest⟩ := List.forall_mem_cons.mp htimes
    obtain ⟨hdescribedHead, hdescribedRest⟩ := List.forall_mem_cons.mp hdescribed
    obtain ⟨hlater, hincreasingRest⟩ := List.pairwise_cons.mp hincreasing
    unfold streamSamples
    cases hmessage : deviceSample numbers descriptor (sampleSeq + turn.others + 1)
        turn.sample with
    | none => simp [pure, Except.pure]
    | some message =>
      obtain ⟨hseqNat, htimeNat, hfits⟩ := sampleFits_iff hconnected hdescribedHead hmessage
        (by omega) htimesHead
      have hrest := ih (hconnected.after message) hseqNat.le
        (fun later hmem => htimeNat.trans_lt (hlater later hmem)) hincreasingRest
        hdescribedRest
      rw [List.zip_cons_cons, List.forall_mem_cons, ← hfits, ← hrest]
      constructor
      · rintro ⟨after, h⟩
        rw [List.foldlM_cons] at h
        obtain ⟨next, hnext, h⟩ := bind_eq_ok.mp h
        obtain ⟨haccepted, rfl⟩ := validateSample_eq_ok_iff.mp hnext
        exact ⟨haccepted, after, h⟩
      · rintro ⟨haccepted, after, h⟩
        refine ⟨after, ?_⟩
        rw [List.foldlM_cons, bind_eq_ok]
        exact ⟨_, validateSample_eq_ok_iff.mpr ⟨haccepted, rfl⟩, h⟩

/-- Every sample a stream yields is accepted exactly if each was complete. -/
theorem samples_accepted_iff {numbers : Numbers δ} {descriptor : AdapterDescriptor}
    {connection : AdapterConnection}
    (hconnect : AdapterConnection.connect descriptor = .ok connection) (sampleSeq : Nat)
    {turns : List (SampleTurn δ)} (hpositive : ∀ turn ∈ turns, 0 < turn.sample.sourceTimeNs)
    (hincreasing : turns.Pairwise fun earlier later =>
      earlier.sample.sourceTimeNs < later.sample.sourceTimeNs)
    (hdescribed : ∀ turn ∈ turns, AsDescribed descriptor turn.sample) :
    (∃ after, (streamSamples numbers descriptor sampleSeq turns).foldlM
        AdapterConnection.validateSample connection = .ok after) ↔
      ∀ entry ∈ turns.zip (streamSamples numbers descriptor sampleSeq turns),
        CompleteSample numbers descriptor entry.1.sample := by
  obtain ⟨hconnected, hsequence, htime⟩ := connect_eq_ok hconnect
  refine accepted_iff hconnected (by simp [hsequence]) (by simpa [htime] using hpositive)
    hincreasing hdescribed

/-- A backend whose numbers are single-precision ones. -/
def singleNumbers : Numbers F32 := ⟨F32.isFinite, id⟩

/-- A turn of an arm with two joints, at the given time. -/
def armTurn (sourceTimeNs : Nat) (position : Option (List F32)) : SampleTurn F32 where
  others := 0
  sample := ⟨sourceTimeNs, fun name => if name = "arm.position" then position else none⟩

def armConnection : AdapterConnection where
  descriptor := armDescriptor 1 [2]
  featureIds := ExtTreeSet.ofList [(1 : UInt64)]
  featureLengths := ExtTreeMap.ofList [((1 : UInt64), 2)]
  lastSequence := 0
  lastSourceTimeNs := 0

theorem connect_arm : AdapterConnection.connect (armDescriptor 1 [2]) = .ok armConnection := by
  have hvalid : validateDescriptor (armDescriptor 1 [2]) = .ok () := by decide +kernel
  unfold AdapterConnection.connect
  rw [hvalid]
  rfl

/-- The only feature of the arm. -/
def armPosition : FeatureDescriptor :=
  { featureId := 1, qualifiedName := "arm.position", shape := [2] }

theorem asDescribed_armTurn {sourceTimeNs : Nat} {position : Option (List F32)}
    (h : ∀ values, position = some values → values.length = 2) :
    AsDescribed (armDescriptor 1 [2]) (armTurn sourceTimeNs position).sample := by
  intro feature hfeature values hvalues
  obtain rfl : feature = armPosition := List.mem_singleton.mp hfeature
  exact h values hvalues

theorem complete_armTurn {sourceTimeNs : Nat} {values : List F32} (hlength : values.length = 2)
    (hfinite : ∀ value ∈ values, value.isFinite = true) :
    CompleteSample singleNumbers (armDescriptor 1 [2])
      (armTurn sourceTimeNs (some values)).sample := by
  have hfeatures : featuresByName (armDescriptor 1 [2]) = [armPosition] := rfl
  refine ⟨?_, ?_, ?_⟩
  · rw [hfeatures, List.forall_mem_singleton]
    exact fun _ => rfl
  · rw [hfeatures, List.forall_mem_singleton]
    rintro _ ⟨⟩
    exact hfinite
  · rw [hfeatures]
    show values.length + 0 ≤ 65536
    omega

theorem samples_accepted_iff_arm :
    ∃ after, (streamSamples singleNumbers (armDescriptor 1 [2]) 7
      [armTurn 5 (some [⟨1⟩, ⟨2⟩]), armTurn 9 (some [⟨3⟩, ⟨4⟩])]).foldlM
        AdapterConnection.validateSample armConnection = .ok after := by
  refine (samples_accepted_iff connect_arm 7 (by decide) (by decide) ?_).mpr ?_
  · simp only [List.forall_mem_cons]
    exact ⟨asDescribed_armTurn (by simp), asDescribed_armTurn (by simp), by simp⟩
  · intro entry hentry
    have hturn := (List.of_mem_zip hentry).1
    simp only [List.mem_cons, List.not_mem_nil, or_false] at hturn
    rcases hturn with hturn | hturn
    · rw [hturn]
      exact complete_armTurn rfl (by decide)
    · rw [hturn]
      exact complete_armTurn rfl (by decide)

/-- The arm's position was not read. The runtime sends the block empty and
marked as invalid, and the Edge refuses the sample. -/
theorem absent_feature_rejected :
    AdapterConnection.connect (armDescriptor 1 [2]) = .ok armConnection ∧
      AsDescribed (armDescriptor 1 [2]) (armTurn 5 none).sample ∧
      ∃ message, streamSamples singleNumbers (armDescriptor 1 [2]) 0 [armTurn 5 none] =
          [message] ∧
        message.featureBlocks.map (·.valid) = [false] ∧
        ∀ after, armConnection.validateSample message ≠ .ok after := by
  refine ⟨connect_arm, asDescribed_armTurn (by simp), _, rfl, rfl, ?_⟩
  intro after haccepted
  have hfits := (validateSample_eq_ok_iff.mp haccepted).1
  have hlength := (hfits.blocks _ List.mem_cons_self).length
  revert hlength
  decide +kernel

end RobotMulticam.Link
