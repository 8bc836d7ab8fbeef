import RobotMulticam.Edge.Embodiment
import RobotMulticam.Lib.Run
import RobotMulticam.Lib.Packing

/-!
# What a context contains

`assemble` writes each resampled feature into the vector of its kind and sets
its bit. In a sound layout the features of a kind have disjoint slices inside
the vector, so that after the loop every slice holds what its own feature was
resampled to, or the zeros it started with (`Filled`).

The rings of an assembler hold samples of the right length from the start and
after every `push`, and for such an assembler the copies cannot panic.
-/

namespace RobotMulticam.Edge

open RobotMulticam.Lib
open RobotMulticam.Protocol
open Std (ExtTreeMap)

/-! ## Rings -/

/-- The ring keeps samples of the given number of values. -/
structure FeatureRing.Fits (ring : FeatureRing) (length : Nat) : Prop where
  vectorLen : ring.vectorLen = length
  values : ∀ sample ∈ ring.samples, sample.values.length = length

namespace FeatureRing.Fits

variable {ring : FeatureRing} {length : Nat} {sample : FeatureSample} {atNs : UInt64}

theorem insert (h : ring.Fits length) {after : FeatureRing} (hok : ring.insert sample = .ok after) :
    after.Fits length := by
  unfold FeatureRing.insert at hok
  split at hok
  · cases hok
  · rename_i hvalid
    cases hok
    simp only [not_or, not_not] at hvalid
    refine ⟨h.vectorLen, fun other hother => ?_⟩
    rcases List.mem_append.mp hother with hkept | hnew
    · refine h.values other ?_
      split at hkept
      · exact List.mem_of_mem_drop hkept
      · exact hkept
    · rw [List.mem_singleton.mp hnew, hvalid.2.1]
      exact h.vectorLen

theorem previous (h : ring.Fits length) (hfound : ring.previous atNs = some sample) :
    sample.values.length = length :=
  h.values sample (List.mem_reverse.mp (List.mem_of_find?_eq_some hfound))

theorem next (h : ring.Fits length) (hfound : ring.next atNs = some sample) :
    sample.values.length = length :=
  h.values sample (List.mem_of_find?_eq_some hfound)

theorem nearer {left right : Option FeatureSample}
    (hleft : ∀ sample, left = some sample → sample.values.length = length)
    (hright : ∀ sample, right = some sample → sample.values.length = length)
    (h : FeatureRing.nearer atNs left right = some sample) : sample.values.length = length := by
  unfold FeatureRing.nearer at h
  split at h
  · split at h
    · exact hleft sample h
    · exact hright sample h
  · exact hleft sample h
  · exact hright sample h
  · cases h

/-- What is resampled has as many values as the samples. -/
theorem resample (h : ring.Fits length) {resampling : Resampling} {maxGapNs : UInt64}
    {method : InterpolationMethod} {value : ResampledFeature}
    (hvalue : ring.resample resampling atNs method maxGapNs = some value) :
    value.values.length = length := by
  cases method with
  | linear =>
    obtain ⟨left, hleft, hvalue⟩ := Option.bind_eq_some_iff.mp hvalue
    obtain ⟨right, hright, hvalue⟩ := Option.bind_eq_some_iff.mp hvalue
    unfold FeatureRing.resampleLinear at hvalue
    dsimp only at hvalue
    split at hvalue
    · cases hvalue
    · cases hvalue
      rw [List.length_zipWith, h.previous hleft, h.next hright, Nat.min_self]
  | zeroOrderHold =>
    obtain ⟨selected, hselected, hvalue⟩ := Option.bind_eq_some_iff.mp hvalue
    split at hvalue
    · cases hvalue
      exact h.previous hselected
    · cases hvalue
  | nearest =>
    obtain ⟨selected, hselected, hvalue⟩ := Option.bind_eq_some_iff.mp hvalue
    split at hvalue
    · cases hvalue
      exact nearer (fun _ => h.previous) (fun _ => h.next) hselected
    · cases hvalue
  | none =>
    obtain ⟨selected, hselected, rfl⟩ := Option.map_eq_some_iff.mp hvalue
    exact h.previous (Option.filter_eq_some_iff.mp hselected).1
  | unspecified => cases hvalue

end FeatureRing.Fits

/-! ## Assemblers -/

/-- Every feature of the layout has a ring that fits it. -/
def ContextAssembler.Fits (assembler : ContextAssembler) : Prop :=
  ∀ feature ∈ assembler.layout.features, ∃ ring,
    assembler.rings[feature.featureId]? = some ring ∧ ring.Fits feature.length.toNat

namespace ContextAssembler

/-- One turn of the loop in `new`. -/
def insertRing (capacity : Nat) (rings : ExtTreeMap UInt64 FeatureRing)
    (feature : CompiledFeature) : Except ContextError (ExtTreeMap UInt64 FeatureRing) := do
  let ring ← FeatureRing.new capacity feature.length.toNat
  pure (rings.insert feature.featureId ring)

theorem new_eq (layout : CompiledEmbodiment) (capacity : Nat) (maxGapNs : UInt64)
    (contextBudgetBytes : Nat) :
    new layout capacity maxGapNs contextBudgetBytes = (do
      let rings ← layout.features.foldlM (insertRing capacity) ∅
      pure ⟨layout, rings, maxGapNs, contextBudgetBytes⟩) := rfl

variable {layout : CompiledEmbodiment} {capacity : Nat} {assembler : ContextAssembler}

/-- An assembler can be made for features that are not empty. -/
theorem exists_new (hlength : ∀ feature ∈ layout.features, feature.length ≠ 0)
    (hcapacity : capacity ≠ 0) (maxGapNs : UInt64) (contextBudgetBytes : Nat) :
    ∃ assembler, new layout capacity maxGapNs contextBudgetBytes = .ok assembler := by
  have hturn : ∀ done feature rest rings, layout.features = done ++ feature :: rest → True →
      ∃ next, insertRing capacity rings feature = .ok next ∧ True := by
    intro done feature rest rings hfeatures _
    have hfeature := hlength feature (by simp [hfeatures])
    have hnew : FeatureRing.new capacity feature.length.toNat =
        .ok ⟨capacity, feature.length.toNat, []⟩ :=
      if_neg (not_or.mpr ⟨hcapacity, fun hzero => hfeature (UInt32.toNat_inj.mp hzero)⟩)
    exact ⟨_, by rw [insertRing, hnew]; rfl, trivial⟩
  obtain ⟨rings, hrings, _⟩ := loop_succeeds (fun _ _ => True) hturn trivial
  refine ⟨⟨layout, rings, maxGapNs, contextBudgetBytes⟩, ?_⟩
  rw [new_eq, hrings]
  rfl

/-- Every feature has an empty ring of its own length. -/
def RingsMade (capacity : Nat) (features : List CompiledFeature)
    (rings : ExtTreeMap UInt64 FeatureRing) : Prop :=
  ∀ feature ∈ features,
    rings[feature.featureId]? = some (FeatureRing.mk capacity feature.length.toNat [])

theorem foldlM_insertRing_eq_ok {features : List CompiledFeature}
    (hids : (features.map (·.featureId)).Nodup) {rings : ExtTreeMap UInt64 FeatureRing}
    (h : features.foldlM (insertRing capacity) ∅ = .ok rings) :
    RingsMade capacity features rings := by
  refine loop_invariant (fun done rings => (done.map (·.featureId)).Nodup →
    RingsMade capacity done rings) ?_ (by simp [RingsMade]) h hids
  intro done last before after hbefore hafter hids feature hfeature
  rw [List.map_append, List.map_singleton] at hids
  unfold insertRing at hafter
  obtain ⟨ring, hring, hafter⟩ := bind_eq_ok.mp hafter
  cases hafter
  unfold FeatureRing.new at hring
  split at hring
  · cases hring
  · cases hring
    rw [ExtTreeMap.getElem?_insert]
    rcases List.mem_append.mp hfeature with hearlier | hlast
    · -- the new ring does not replace an earlier one
      have hne : last.featureId ≠ feature.featureId := fun heq =>
        not_mem_of_nodup hids (List.mem_map.mpr ⟨feature, hearlier, heq.symm⟩)
      rw [if_neg (by simpa using hne)]
      exact hbefore hids.of_append_left feature hearlier
    · rw [List.mem_singleton.mp hlast, if_pos (by simp)]

/-- With distinct ids, every feature has the ring that was made for it. -/
theorem fits_new (hids : (layout.features.map (·.featureId)).Nodup) {maxGapNs : UInt64}
    {contextBudgetBytes : Nat} (h : new layout capacity maxGapNs contextBudgetBytes = .ok assembler) :
    assembler.layout = layout ∧ assembler.Fits := by
  rw [new_eq] at h
  obtain ⟨rings, hrings, h⟩ := bind_eq_ok.mp h
  cases h
  refine ⟨rfl, fun feature hfeature => ?_⟩
  exact ⟨_, foldlM_insertRing_eq_ok hids hrings feature hfeature, rfl, by simp⟩

/-- `push`, where the caller goes on after an error. -/
def offer (assembler : ContextAssembler) (sample : UInt64 × FeatureSample) : ContextAssembler :=
  (assembler.push sample.1 sample.2).toOption.getD assembler

theorem offer_cases (assembler : ContextAssembler) (sample : UInt64 × FeatureSample) :
    assembler.offer sample = assembler ∨
      ∃ ring after, assembler.rings[sample.1]? = some ring ∧ ring.insert sample.2 = .ok after ∧
        assembler.offer sample =
          { assembler with rings := assembler.rings.insert sample.1 after } := by
  unfold offer push
  split
  · exact Or.inl rfl
  · rename_i ring hring
    cases hinsert : ring.insert sample.2 with
    | error error => exact Or.inl rfl
    | ok after => exact Or.inr ⟨ring, after, hring, hinsert, rfl⟩

theorem Fits.offer (h : assembler.Fits) (sample : UInt64 × FeatureSample) :
    (assembler.offer sample).Fits := by
  rcases assembler.offer_cases sample with hsame | ⟨ring, after, hring, hinsert, hnext⟩
  · rwa [hsame]
  · rw [hnext]
    intro feature hfeature
    obtain ⟨found, hfound, hfits⟩ := h feature hfeature
    dsimp only
    rw [ExtTreeMap.getElem?_insert]
    split
    · rename_i hsame
      rw [← Std.LawfulEqOrd.eq_of_compare hsame, hring] at hfound
      cases hfound
      exact ⟨after, rfl, hfits.insert hinsert⟩
    · exact ⟨found, hfound, hfits⟩

theorem layout_offer (assembler : ContextAssembler) (sample : UInt64 × FeatureSample) :
    (assembler.offer sample).layout = assembler.layout := by
  rcases assembler.offer_cases sample with hsame | ⟨ring, after, _, _, hnext⟩
  · rw [hsame]
  · rw [hnext]

end ContextAssembler

/-! ## Disjoint slices -/

namespace LayoutSound

variable {layout : CompiledEmbodiment}

theorem mem_range (h : LayoutSound layout) {feature : CompiledFeature}
    (hfeature : feature ∈ layout.features) :
    feature.offset.toNat + feature.length.toNat ≤ (layout.vectorLength feature.kind).toNat := by
  refine ((h.consecutive feature.kind).mem_range (List.mem_map.mpr ⟨feature, ?_, rfl⟩)).2
  exact List.mem_filter.mpr ⟨hfeature, by simp⟩

/-- The slices of two features of one kind do not overlap. -/
theorem disjoint (h : LayoutSound layout) {first second : Nat} {earlier later : CompiledFeature}
    (hfirst : layout.features[first]? = some earlier)
    (hsecond : layout.features[second]? = some later) (hkind : earlier.kind = later.kind)
    (hlt : first < second) :
    earlier.offset.toNat + earlier.length.toNat ≤ later.offset.toNat := by
  have hpairwise := (h.consecutive later.kind).pairwise
  rw [placesOf, List.pairwise_map, List.pairwise_filter] at hpairwise
  obtain ⟨hfirstLt, rfl⟩ := List.getElem?_eq_some_iff.mp hfirst
  obtain ⟨hsecondLt, rfl⟩ := List.getElem?_eq_some_iff.mp hsecond
  exact List.pairwise_iff_getElem.mp hpairwise first second hfirstLt hsecondLt hlt
    (by simp [hkind]) (by simp)

end LayoutSound

/-! ## The loop over the features -/

namespace Assembly

/-- What writing a feature changes, where it does not panic. -/
theorem withValue_eq {assembly : Assembly} {feature : CompiledFeature}
    {value : ResampledFeature} (hvalues : value.values.length = feature.length.toNat)
    (hrange : feature.offset.toNat + feature.length.toNat ≤
      (assembly.vector feature.kind).length) (index : Nat) :
    ∃ after, (assembly.withValue index feature value : Outcome ContextError Assembly) =
        .ok after ∧
      (∀ kind, after.vector kind = if feature.kind = kind then
        splice feature.offset.toNat value.values (assembly.vector kind)
        else assembly.vector kind) ∧
      after.validity = setBit assembly.validity index ∧
      after.invalidReasons = assembly.invalidReasons := by
  have hcopy : (copyFromSlice (assembly.vector feature.kind) feature.offset.toNat
      feature.length.toNat value.values : Outcome ContextError (List F32)) =
        .ok (splice feature.offset.toNat value.values (assembly.vector feature.kind)) := by
    unfold copyFromSlice splice
    rw [if_pos ⟨hrange, hvalues⟩, hvalues]
  unfold withValue
  rw [hcopy]
  refine ⟨_, rfl, ?_, rfl, ?_⟩
  · intro kind
    generalize feature.kind = written
    cases written <;> cases kind <;> rfl
  · cases feature.kind <;> rfl

/-- A feature without a value leaves a trace only if it is required. -/
theorem withoutValue_eq (assembly : Assembly) (feature : CompiledFeature) :
    (∀ kind, (assembly.withoutValue feature).vector kind = assembly.vector kind) ∧
      (assembly.withoutValue feature).validity = assembly.validity ∧
      (assembly.withoutValue feature).invalidReasons = assembly.invalidReasons ++
        if feature.required then [feature.qualifiedName] else [] := by
  unfold withoutValue
  split
  · refine ⟨?_, rfl, rfl⟩
    intro kind
    cases kind <;> rfl
  · exact ⟨fun _ => rfl, rfl, (List.append_nil _).symm⟩

end Assembly

/-- The values of a feature in a context: zeros where there is no value. -/
def valuesOf (feature : CompiledFeature) (value : Option ResampledFeature) : List F32 :=
  (value.map (·.values)).getD (List.replicate feature.length.toNat ⟨0⟩)

/-- A required feature has no value. -/
def isMissing (resampled : CompiledFeature → Option ResampledFeature)
    (feature : CompiledFeature) : Bool :=
  feature.required && (resampled feature).isNone

/-- The local variables after the given number of features: each slice holds
its own feature's values, or zeros if the feature has no value or is still to
come. -/
structure Filled (layout : CompiledEmbodiment)
    (resampled : CompiledFeature → Option ResampledFeature) (count : Nat)
    (assembly : Assembly) : Prop where
  length : ∀ kind, (assembly.vector kind).length = (layout.vectorLength kind).toNat
  values : ∀ (index : Nat) (feature : CompiledFeature), layout.features[index]? = some feature →
    segmentAt feature.offset.toNat feature.length.toNat (assembly.vector feature.kind) =
      valuesOf feature (if index < count then resampled feature else none)
  bitmap : assembly.validity.length = (layout.features.length + 7) / 8
  bits : ∀ (index : Nat) (feature : CompiledFeature), layout.features[index]? = some feature →
    testBit assembly.validity index = (decide (index < count) && (resampled feature).isSome)
  reasons : assembly.invalidReasons =
    ((layout.features.take count).filter (isMissing resampled)).map (·.qualifiedName)

section Loop

variable {layout : CompiledEmbodiment} {resampled : CompiledFeature → Option ResampledFeature}

theorem filled_blank (h : LayoutSound layout) :
    Filled layout resampled 0 (ContextAssembler.blank layout) := by
  have hvector : ∀ kind, (ContextAssembler.blank layout).vector kind =
      List.replicate (layout.vectorLength kind).toNat ⟨0⟩ := by
    intro kind
    cases kind <;> rfl
  refine ⟨?_, ?_, ?_, ?_, rfl⟩
  · intro kind
    rw [hvector, List.length_replicate]
  · intro index feature hfeature
    rw [hvector, segmentAt_replicate _ (h.mem_range (List.mem_of_getElem? hfeature)),
      if_neg (Nat.not_lt_zero index)]
    rfl
  · exact List.length_replicate
  · intro index feature _
    rw [decide_eq_false (Nat.not_lt_zero index), Bool.false_and]
    exact testBit_replicate_zero _ index

variable {count : Nat} {feature : CompiledFeature} {before : Assembly}

/-- The reasons after one more feature. -/
theorem filter_take_succ (hfeature : layout.features[count]? = some feature) :
    (layout.features.take (count + 1)).filter (isMissing resampled) =
      (layout.features.take count).filter (isMissing resampled) ++
        if isMissing resampled feature then [feature] else [] := by
  rw [List.take_add_one, hfeature, Option.toList_some, List.filter_append, List.filter_singleton,
    Bool.cond_eq_ite]

/-- Below the next bound are the indices below this one, and this one. -/
theorem lt_succ_iff_of_ne {index : Nat} (hne : index ≠ count) :
    index < count + 1 ↔ index < count := by omega

/-- A turn for a feature with a value. -/
theorem Filled.withValue (h : Filled layout resampled count before) (hsound : LayoutSound layout)
    (hfeature : layout.features[count]? = some feature) {value : ResampledFeature}
    (hvalue : resampled feature = some value)
    (hlength : value.values.length = feature.length.toNat) :
    ∃ after, (before.withValue count feature value : Outcome ContextError Assembly) = .ok after ∧
      Filled layout resampled (count + 1) after := by
  have hrange := hsound.mem_range (List.mem_of_getElem? hfeature)
  rw [← h.length, ← hlength] at hrange
  obtain ⟨after, hafter, hvector, hvalidity, hreasons⟩ :=
    Assembly.withValue_eq hlength (hlength ▸ hrange) count
  have hindex : count < layout.features.length := (List.getElem?_eq_some_iff.mp hfeature).1
  refine ⟨after, hafter, ?_, ?_, ?_, ?_, ?_⟩
  · intro kind
    rw [hvector]
    split
    · rename_i hkind
      rw [← h.length kind, length_splice (hkind ▸ hrange)]
    · exact h.length kind
  · intro index other hother
    rw [hvector]
    by_cases hsame : index = count
    · -- the slice that was written
      obtain rfl := hsame
      obtain rfl := Option.some.inj (hfeature.symm.trans hother)
      rw [if_pos rfl, if_pos (Nat.lt_succ_self index), hvalue, ← hlength,
        segmentAt_splice_self hrange]
      rfl
    · -- another slice, of another kind or apart from the written one
      simp only [lt_succ_iff_of_ne hsame]
      rw [← h.values index other hother]
      split
      · rename_i hkind
        refine segmentAt_splice_of_disjoint (hkind ▸ hrange) ?_
        rw [hlength]
        rcases Nat.lt_or_gt_of_ne hsame with hlt | hlt
        · exact Or.inl (hsound.disjoint hother hfeature hkind.symm hlt)
        · exact Or.inr (hsound.disjoint hfeature hother hkind hlt)
      · rfl
  · rw [hvalidity, length_setBit, h.bitmap]
  · intro index other hother
    rw [hvalidity, testBit_setBit (by rw [h.bitmap]; omega), h.bits index other hother]
    by_cases hsame : index = count
    · obtain rfl := hsame
      obtain rfl := Option.some.inj (hfeature.symm.trans hother)
      simp [hvalue]
    · simp [lt_succ_iff_of_ne hsame, Ne.symm hsame]
  · rw [hreasons, h.reasons, filter_take_succ hfeature]
    simp [isMissing, hvalue]

/-- A turn for a feature without a value. -/
theorem Filled.withoutValue (h : Filled layout resampled count before)
    (hfeature : layout.features[count]? = some feature) (hvalue : resampled feature = none) :
    Filled layout resampled (count + 1) (before.withoutValue feature) := by
  obtain ⟨hvector, hvalidity, hreasons⟩ := before.withoutValue_eq feature
  refine ⟨?_, ?_, ?_, ?_, ?_⟩
  · intro kind
    rw [hvector, h.length]
  · intro index other hother
    rw [hvector, h.values index other hother]
    by_cases hsame : index = count
    · obtain rfl := hsame
      obtain rfl := Option.some.inj (hfeature.symm.trans hother)
      simp [hvalue]
    · simp only [lt_succ_iff_of_ne hsame]
  · rw [hvalidity, h.bitmap]
  · intro index other hother
    rw [hvalidity, h.bits index other hother]
    by_cases hsame : index = count
    · obtain rfl := hsame
      obtain rfl := Option.some.inj (hfeature.symm.trans hother)
      simp [hvalue]
    · simp only [lt_succ_iff_of_ne hsame]
  · rw [hreasons, h.reasons, filter_take_succ hfeature]
    by_cases hrequired : feature.required <;> simp [isMissing, hvalue, hrequired]

end Loop

namespace ContextAssembler

variable {assembler : ContextAssembler} {resampling : Resampling} {captureTimeEdgeNs : UInt64}

theorem Fits.resampled (h : assembler.Fits) {feature : CompiledFeature}
    (hfeature : feature ∈ assembler.layout.features) {value : ResampledFeature}
    (hvalue : assembler.resampled resampling captureTimeEdgeNs feature = some value) :
    value.values.length = feature.length.toNat := by
  obtain ⟨ring, hring, hfits⟩ := h feature hfeature
  obtain ⟨found, hfound, hresample⟩ := Option.bind_eq_some_iff.mp hvalue
  rw [hring] at hfound
  cases hfound
  exact hfits.resample hresample

/-- The loop over the features never panics. -/
theorem Fits.foldlM_assembleFeature (h : assembler.Fits) (hsound : LayoutSound assembler.layout) :
    ∃ assembly, assembler.layout.features.zipIdx.foldlM
        (assembler.assembleFeature resampling captureTimeEdgeNs) (blank assembler.layout) =
          .ok assembly ∧
      Filled assembler.layout (assembler.resampled resampling captureTimeEdgeNs)
        assembler.layout.features.length assembly := by
  have hturn : ∀ done item rest before, assembler.layout.features.zipIdx = done ++ item :: rest →
      Filled assembler.layout (assembler.resampled resampling captureTimeEdgeNs) done.length
        before →
      ∃ next, assembler.assembleFeature resampling captureTimeEdgeNs before item = .ok next ∧
        Filled assembler.layout (assembler.resampled resampling captureTimeEdgeNs)
          (done ++ [item]).length next := by
    rintro done ⟨feature, index⟩ rest before hsplit hbefore
    -- the item behind `done` is the feature of that index
    have hitem := congrArg (·[done.length]?) hsplit
    simp only [List.getElem?_zipIdx, List.getElem?_append_right (le_refl _), Nat.sub_self,
      List.getElem?_cons_zero, Option.map_eq_some_iff, Prod.mk.injEq, Nat.zero_add] at hitem
    obtain ⟨_, hfeature, rfl, rfl⟩ := hitem
    rw [List.length_append, List.length_singleton]
    unfold assembleFeature
    cases hvalue : assembler.resampled resampling captureTimeEdgeNs _ with
    | none => exact ⟨_, rfl, hbefore.withoutValue hfeature hvalue⟩
    | some value =>
      exact hbefore.withValue hsound hfeature hvalue
        (h.resampled (List.mem_of_getElem? hfeature) hvalue)
  obtain ⟨assembly, hloop, hfilled⟩ := loop_succeeds
    (fun done => Filled assembler.layout (assembler.resampled resampling captureTimeEdgeNs)
      done.length) hturn (filled_blank hsound)
  rw [List.length_zipIdx] at hfilled
  exact ⟨assembly, hloop, hfilled⟩

/-- An assembler that fits its sound layout returns a context made from filled
vectors, or finds it too large. -/
theorem Fits.assemble (h : assembler.Fits) (hsound : LayoutSound assembler.layout)
    (externals : Externals) (resampling : Resampling) (sessionId : Uuid)
    (anchorFrameSeq manifestRevision captureTimeEdgeNs : UInt64) :
    ∃ assembly, Filled assembler.layout (assembler.resampled resampling captureTimeEdgeNs)
        assembler.layout.features.length assembly ∧
      (assembler.assemble externals resampling sessionId anchorFrameSeq manifestRevision
          captureTimeEdgeNs = fail .contextBudget ∨
        assembler.assemble externals resampling sessionId anchorFrameSeq manifestRevision
          captureTimeEdgeNs = .ok (contextOf assembler.layout sessionId anchorFrameSeq
            manifestRevision assembly)) := by
  obtain ⟨assembly, hloop, hfilled⟩ := h.foldlM_assembleFeature hsound
  refine ⟨assembly, hfilled, ?_⟩
  unfold ContextAssembler.assemble
  rw [hloop, ok_bind]
  dsimp only
  split
  · exact Or.inl rfl
  · exact Or.inr rfl

end ContextAssembler

end RobotMulticam.Edge
