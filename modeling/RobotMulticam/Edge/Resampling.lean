import RobotMulticam.Edge.Assembly
import RobotMulticam.Lib.Ring
import RobotMulticam.Lib.Run

/-!
# What a feature ring resamples

A ring holds the last samples it accepted, in the order of their times
(`holds_run`). The two searches of `resample` run towards each other from
its ends, so on an ordered ring they find the valid samples next to the
queried time: `IsPrevious` and `IsNext` say which those are without any
search, and the results of the methods are stated over them.

The values between two samples are computed by `Resampling`, which is not
interpreted.
-/

namespace RobotMulticam.Edge

open RobotMulticam.Lib

namespace FeatureRing

/-! ## What the ring holds -/

variable {ring : FeatureRing} {capacity vectorLen : Nat}

theorem insert_eq_ok {after : FeatureRing} {sample : FeatureSample} :
    ring.insert sample = .ok after ↔
      (sample.timeEdgeNs ≠ 0 ∧ sample.values.length = ring.vectorLen ∧
        ∀ last ∈ ring.samples.getLast?, last.timeEdgeNs < sample.timeEdgeNs) ∧
      after = { ring with samples := makeRoom ring.capacity ring.samples ++ [sample] } := by
  have hlast : ¬ ring.samples.getLast?.any (fun last => sample.timeEdgeNs ≤ last.timeEdgeNs) ↔
      ∀ last ∈ ring.samples.getLast?, last.timeEdgeNs < sample.timeEdgeNs := by
    cases ring.samples.getLast? <;> simp
  unfold insert
  split
  · rename_i hbad
    constructor
    · simp
    · rintro ⟨⟨hzero, hlength, hnewer⟩, _⟩
      rcases hbad with hbad | hbad | hbad
      · exact absurd hbad hzero
      · exact absurd hlength hbad
      · exact absurd hbad (hlast.mpr hnewer)
  · rename_i hgood
    rw [not_or, not_or, not_not, hlast] at hgood
    constructor
    · intro hok
      exact ⟨hgood, (Except.ok.inj hok).symm⟩
    · rintro ⟨_, rfl⟩
      rfl

/-- `insert`, where the caller goes on after an error. -/
def offer (ring : FeatureRing) (sample : FeatureSample) : FeatureRing :=
  (ring.insert sample).toOption.getD ring

/-- The sample, if it was accepted. -/
def accepted (ring : FeatureRing) (sample : FeatureSample) : List FeatureSample :=
  if (ring.insert sample).toOption.isSome then [sample] else []

theorem offer_cases (ring : FeatureRing) (sample : FeatureSample) :
    (∃ after, ring.insert sample = .ok after ∧ ring.offer sample = after ∧
      ring.accepted sample = [sample]) ∨
      ring.offer sample = ring ∧ ring.accepted sample = [] := by
  unfold offer accepted
  cases ring.insert sample with
  | error fault => exact Or.inr ⟨rfl, rfl⟩
  | ok after => exact Or.inl ⟨after, rfl, rfl, rfl⟩

/-- The ring holds the last samples of all that were accepted, by time. -/
structure Holds (capacity vectorLen : Nat) (ring : FeatureRing)
    (log : List FeatureSample) : Prop where
  room : ring.capacity = capacity
  width : ring.vectorLen = vectorLen
  samples : ring.samples = log.rtake (min capacity log.length)
  increasing : ring.samples.Pairwise fun sample later => sample.timeEdgeNs < later.timeEdgeNs
  values : ∀ sample ∈ ring.samples, sample.values.length = vectorLen

theorem rtake_min_length (log : List FeatureSample) (count : Nat) :
    log.rtake (min count log.length) = log.rtake count := by
  rcases le_total count log.length with hle | hle
  · rw [Nat.min_eq_left hle]
  · rw [Nat.min_eq_right hle, rtake_of_length_le le_rfl, rtake_of_length_le hle]

theorem Holds.offer {log : List FeatureSample} (h : Holds capacity vectorLen ring log)
    (hcapacity : capacity ≠ 0) (sample : FeatureSample) :
    Holds capacity vectorLen (ring.offer sample) (log ++ ring.accepted sample) := by
  rcases offer_cases ring sample with ⟨after, hinsert, hafter, hlog⟩ | ⟨hafter, hlog⟩
  · obtain ⟨⟨_, hlength, hnewer⟩, rfl⟩ := insert_eq_ok.mp hinsert
    have hsuffix := makeRoom_suffix ring.capacity ring.samples
    rw [hafter, hlog]
    refine ⟨h.room, h.width, ?_, ?_, ?_⟩
    · rw [rtake_min_length, ← makeRoom_rtake hcapacity, ← rtake_min_length log, ← h.samples, h.room]
    · refine pairwise_concat (fun _ _ _ => UInt64.lt_trans)
        (h.increasing.sublist hsuffix.sublist) ?_
      exact fun last hlast => hnewer last (getLast?_makeRoom hlast)
    · intro other hother
      rcases List.mem_append.mp hother with hkept | hnew
      · exact h.values other (hsuffix.subset hkept)
      · rw [List.mem_singleton.mp hnew, hlength, h.width]
  · rw [hafter, hlog, List.append_nil]
    exact h

theorem new_eq_ok (h : new capacity vectorLen = .ok ring) :
    capacity ≠ 0 ∧ ring = ⟨capacity, vectorLen, []⟩ := by
  unfold new at h
  split at h
  · cases h
  · rename_i hpositive
    exact ⟨fun hzero => hpositive (Or.inl hzero), (Except.ok.inj h).symm⟩

theorem holds_run {start : FeatureRing} (hnew : new capacity vectorLen = .ok start)
    (inserts : List FeatureSample) :
    Holds capacity vectorLen (run offer start inserts) (outputs offer accepted start inserts) := by
  obtain ⟨hcapacity, rfl⟩ := new_eq_ok hnew
  have hstart : Holds capacity vectorLen ⟨capacity, vectorLen, []⟩ [] :=
    ⟨rfl, rfl, (List.rtake_nil _).symm, List.Pairwise.nil, by simp⟩
  exact run_outputs_invariant' (fun ring log sample h => h.offer hcapacity sample) hstart inserts

/-! ## The samples around a time -/

section Around

variable (ring : FeatureRing) (atNs : UInt64)

/-- The latest valid sample at or before a time. -/
structure IsPrevious (sample : FeatureSample) : Prop where
  mem : sample ∈ ring.samples
  valid : sample.valid
  before : sample.timeEdgeNs ≤ atNs
  latest : ∀ other ∈ ring.samples, other.valid → other.timeEdgeNs ≤ atNs →
    other.timeEdgeNs ≤ sample.timeEdgeNs

/-- The earliest valid sample at or after a time. -/
structure IsNext (sample : FeatureSample) : Prop where
  mem : sample ∈ ring.samples
  valid : sample.valid
  after : atNs ≤ sample.timeEdgeNs
  earliest : ∀ other ∈ ring.samples, other.valid → atNs ≤ other.timeEdgeNs →
    sample.timeEdgeNs ≤ other.timeEdgeNs

/-- How far a sample is from a time. -/
def distance (sample : FeatureSample) : Nat := Nat.dist sample.timeEdgeNs.toNat atNs.toNat

/-- The valid sample that is closest to a time, the earlier one on a tie. -/
structure IsNearest (sample : FeatureSample) : Prop where
  mem : sample ∈ ring.samples
  valid : sample.valid
  closest : ∀ other ∈ ring.samples, other.valid → distance atNs sample ≤ distance atNs other
  tie : ∀ other ∈ ring.samples, other.valid → distance atNs other = distance atNs sample →
    sample.timeEdgeNs ≤ other.timeEdgeNs

end Around

theorem nearer_isSome (atNs : UInt64) (previous next : Option FeatureSample) :
    (nearer atNs previous next).isSome ↔ previous.isSome ∨ next.isSome := by
  cases previous with
  | none => cases next <;> simp [nearer]
  | some before =>
    cases next with
    | none => simp [nearer]
    | some after =>
      rw [nearer]
      split <;> simp

section Ordered

variable {ring : FeatureRing} {atNs : UInt64}
  (hordered : ring.samples.Pairwise fun sample later => sample.timeEdgeNs < later.timeEdgeNs)
include hordered

variable {sample other : FeatureSample}

/-- Samples of an ordered ring are told apart by their times. -/
theorem eq_of_time (hsample : sample ∈ ring.samples) (hother : other ∈ ring.samples)
    (hle : sample.timeEdgeNs ≤ other.timeEdgeNs) (hge : other.timeEdgeNs ≤ sample.timeEdgeNs) :
    sample = other := by
  have hnodup : (ring.samples.map (·.timeEdgeNs)).Nodup :=
    List.pairwise_map.mpr (hordered.imp fun hlt => UInt64.ne_of_lt hlt)
  exact List.inj_on_of_nodup_map hnodup hsample hother (UInt64.le_antisymm hle hge)

theorem previous_eq_some_iff : ring.previous atNs = some sample ↔ ring.IsPrevious atNs sample := by
  unfold previous
  rw [find?_reverse_eq_some_iff_last (fun _ _ => UInt64.lt_asymm) hordered]
  simp only [Bool.and_eq_true, decide_eq_true_eq]
  constructor
  · rintro ⟨hmem, ⟨hvalid, hbefore⟩, hlast⟩
    refine ⟨hmem, hvalid, hbefore, ?_⟩
    intro other hother hothers hearlier
    rcases hlast other hother ⟨hothers, hearlier⟩ with rfl | hlt
    · exact UInt64.le_refl _
    · exact UInt64.le_of_lt hlt
  · rintro ⟨hmem, hvalid, hbefore, hlatest⟩
    refine ⟨hmem, ⟨hvalid, hbefore⟩, ?_⟩
    rintro other hother ⟨hothers, hearlier⟩
    have hle := hlatest other hother hothers hearlier
    by_cases hge : sample.timeEdgeNs ≤ other.timeEdgeNs
    · exact Or.inl (eq_of_time hordered hother hmem hle hge)
    · exact Or.inr (UInt64.not_le.mp hge)

theorem next_eq_some_iff : ring.next atNs = some sample ↔ ring.IsNext atNs sample := by
  unfold next
  rw [find?_eq_some_iff_first (fun _ _ => UInt64.lt_asymm) hordered]
  simp only [Bool.and_eq_true, decide_eq_true_eq]
  constructor
  · rintro ⟨hmem, ⟨hvalid, hafter⟩, hfirst⟩
    refine ⟨hmem, hvalid, hafter, ?_⟩
    intro other hother hothers hlater
    rcases hfirst other hother ⟨hothers, hlater⟩ with rfl | hlt
    · exact UInt64.le_refl _
    · exact UInt64.le_of_lt hlt
  · rintro ⟨hmem, hvalid, hafter, hearliest⟩
    refine ⟨hmem, ⟨hvalid, hafter⟩, ?_⟩
    rintro other hother ⟨hothers, hlater⟩
    have hle := hearliest other hother hothers hlater
    by_cases hge : other.timeEdgeNs ≤ sample.timeEdgeNs
    · exact Or.inl (eq_of_time hordered hother hmem hge hle)
    · exact Or.inr (UInt64.not_le.mp hge)

/-- Every valid sample has one of the two between itself and the time. -/
theorem between (hmem : other ∈ ring.samples) (hvalid : other.valid) :
    (∃ before, ring.previous atNs = some before ∧
      other.timeEdgeNs.toNat ≤ before.timeEdgeNs.toNat ∧
      before.timeEdgeNs.toNat ≤ atNs.toNat) ∨
    ∃ after, ring.next atNs = some after ∧ atNs.toNat ≤ after.timeEdgeNs.toNat ∧
      after.timeEdgeNs.toNat ≤ other.timeEdgeNs.toNat := by
  by_cases hside : other.timeEdgeNs ≤ atNs
  · have hsome : (ring.previous atNs).isSome :=
      List.find?_isSome.mpr ⟨other, List.mem_reverse.mpr hmem, by simp [hvalid, hside]⟩
    obtain ⟨before, hbefore⟩ := Option.isSome_iff_exists.mp hsome
    have hprevious := (previous_eq_some_iff hordered).mp hbefore
    exact Or.inl ⟨before, hbefore, hprevious.latest other hmem hvalid hside, hprevious.before⟩
  · have hlater : atNs ≤ other.timeEdgeNs := UInt64.le_of_lt (UInt64.not_le.mp hside)
    have hsome : (ring.next atNs).isSome :=
      List.find?_isSome.mpr ⟨other, hmem, by simp [hvalid, hlater]⟩
    obtain ⟨after, hafter⟩ := Option.isSome_iff_exists.mp hsome
    have hnext := (next_eq_some_iff hordered).mp hafter
    exact Or.inr ⟨after, hafter, hnext.after, hnext.earliest other hmem hvalid hlater⟩

/-- One of the two samples around a time is the nearest of all if the other,
where there is one, is not nearer. -/
theorem isNearest_previous {before : FeatureSample} (hbefore : ring.previous atNs = some before)
    (hcloser : ∀ after, ring.next atNs = some after →
      distance atNs before ≤ distance atNs after) : ring.IsNearest atNs before := by
  have hprevious := (previous_eq_some_iff hordered).mp hbefore
  have hle : before.timeEdgeNs.toNat ≤ atNs.toNat := hprevious.before
  have hside : ∀ other ∈ ring.samples, other.valid →
      distance atNs before ≤ distance atNs other ∧
        (distance atNs other = distance atNs before →
          before.timeEdgeNs.toNat ≤ other.timeEdgeNs.toNat) := by
    intro other hmem hvalid
    rcases between hordered hmem hvalid with ⟨found, hfound, hother, _⟩ | ⟨after, hafter, hat, hother⟩
    · obtain rfl := Option.some.inj (hbefore.symm.trans hfound)
      unfold distance Nat.dist
      omega
    · have := hcloser after hafter
      unfold distance Nat.dist at *
      omega
  exact ⟨hprevious.mem, hprevious.valid, fun other hmem hvalid => (hside other hmem hvalid).1,
    fun other hmem hvalid => (hside other hmem hvalid).2⟩

theorem isNearest_next {after : FeatureSample} (hafter : ring.next atNs = some after)
    (hcloser : ∀ before, ring.previous atNs = some before →
      distance atNs after < distance atNs before) : ring.IsNearest atNs after := by
  have hnext := (next_eq_some_iff hordered).mp hafter
  have hle : atNs.toNat ≤ after.timeEdgeNs.toNat := hnext.after
  have hside : ∀ other ∈ ring.samples, other.valid →
      distance atNs after ≤ distance atNs other ∧
        (distance atNs other = distance atNs after →
          after.timeEdgeNs.toNat ≤ other.timeEdgeNs.toNat) := by
    intro other hmem hvalid
    rcases between hordered hmem hvalid with ⟨before, hbefore, hother, hat⟩ | ⟨found, hfound, _, hother⟩
    · have := hcloser before hbefore
      unfold distance Nat.dist at *
      omega
    · obtain rfl := Option.some.inj (hafter.symm.trans hfound)
      unfold distance Nat.dist
      omega
  exact ⟨hnext.mem, hnext.valid, fun other hmem hvalid => (hside other hmem hvalid).1,
    fun other hmem hvalid => (hside other hmem hvalid).2⟩

theorem isNearest_of_nearer (h : nearer atNs (ring.previous atNs) (ring.next atNs) = some sample) :
    ring.IsNearest atNs sample := by
  cases hprevious : ring.previous atNs with
  | none =>
    cases hnext : ring.next atNs with
    | none => simp [hprevious, hnext, nearer] at h
    | some after =>
      obtain rfl : after = sample := by simpa [hprevious, hnext, nearer] using h
      exact isNearest_next hordered hnext (by simp [hprevious])
  | some before =>
    cases hnext : ring.next atNs with
    | none =>
      obtain rfl : before = sample := by simpa [hprevious, hnext, nearer] using h
      exact isNearest_previous hordered hprevious (by simp [hnext])
    | some after =>
      have hle := ((previous_eq_some_iff hordered).mp hprevious).before
      have hge := ((next_eq_some_iff hordered).mp hnext).after
      have hdistances : saturatingSub64 atNs before.timeEdgeNs ≤
          saturatingSub64 after.timeEdgeNs atNs ↔
          distance atNs before ≤ distance atNs after := by
        rw [UInt64.le_iff_toNat_le, toNat_saturatingSub64, toNat_saturatingSub64]
        rw [UInt64.le_iff_toNat_le] at hle hge
        unfold distance Nat.dist
        omega
      rw [hprevious, hnext, nearer] at h
      split at h
      · rename_i hcloser
        obtain rfl := Option.some.inj h
        refine isNearest_previous hordered hprevious ?_
        rintro other hother
        obtain rfl := Option.some.inj (hnext.symm.trans hother)
        exact hdistances.mp hcloser
      · rename_i hfarther
        obtain rfl := Option.some.inj h
        refine isNearest_next hordered hnext ?_
        rintro other hother
        obtain rfl := Option.some.inj (hprevious.symm.trans hother)
        exact Nat.lt_of_not_le fun hcloser => hfarther (hdistances.mpr hcloser)

variable (atNs) in
theorem exists_nearer (hmem : other ∈ ring.samples) (hvalid : other.valid) :
    ∃ found, nearer atNs (ring.previous atNs) (ring.next atNs) = some found := by
  rw [← Option.isSome_iff_exists, nearer_isSome]
  rcases between hordered hmem hvalid with ⟨before, hbefore, _⟩ | ⟨after, hafter, _⟩
  · exact Or.inl (Option.isSome_of_eq_some hbefore)
  · exact Or.inr (Option.isSome_of_eq_some hafter)

end Ordered

/-! ## The methods -/

/-- What each method returns, in terms of the samples around the time. -/
structure Resamples (resampling : Resampling) (vectorLen : Nat) (ring : FeatureRing)
    (atNs maxGapNs : UInt64) : Prop where
  linear : (ring.resample resampling atNs .linear maxGapNs).isSome ↔
    ∃ before after, ring.IsPrevious atNs before ∧ ring.IsNext atNs after ∧
      after.timeEdgeNs.toNat - before.timeEdgeNs.toNat ≤ maxGapNs.toNat
  times : ∀ value before after, ring.resample resampling atNs .linear maxGapNs = some value →
    ring.IsPrevious atNs before → ring.IsNext atNs after →
    value.previousTimeNs = before.timeEdgeNs ∧ value.nextTimeNs = after.timeEdgeNs
  held : ∀ value, ring.resample resampling atNs .zeroOrderHold maxGapNs = some value ↔
    ∃ before, ring.IsPrevious atNs before ∧
      atNs.toNat - before.timeEdgeNs.toNat ≤ maxGapNs.toNat ∧ value = single before
  near : (ring.resample resampling atNs .nearest maxGapNs).isSome ↔
    ∃ sample ∈ ring.samples, sample.valid ∧ distance atNs sample ≤ maxGapNs.toNat
  nearest : ∀ value, ring.resample resampling atNs .nearest maxGapNs = some value →
    ∃ sample, ring.IsNearest atNs sample ∧ value = single sample
  equal : ∀ value, ring.resample resampling atNs .none maxGapNs = some value ↔
    ∃ sample ∈ ring.samples, sample.valid ∧ sample.timeEdgeNs = atNs ∧ value = single sample
  lengths : ∀ method value, ring.resample resampling atNs method maxGapNs = some value →
    value.values.length = vectorLen

/-- Two samples that are close enough are interpolated. -/
theorem resampleLinear_cases (resampling : Resampling) (atNs maxGapNs : UInt64)
    (before after : FeatureSample) :
    (∃ value, resampleLinear resampling atNs maxGapNs before after = some value ∧
      after.timeEdgeNs.toNat - before.timeEdgeNs.toNat ≤ maxGapNs.toNat ∧
      value.previousTimeNs = before.timeEdgeNs ∧ value.nextTimeNs = after.timeEdgeNs) ∨
    resampleLinear resampling atNs maxGapNs before after = none ∧
      ¬ after.timeEdgeNs.toNat - before.timeEdgeNs.toNat ≤ maxGapNs.toNat := by
  unfold resampleLinear
  dsimp only
  split
  · rename_i hwide
    rw [UInt64.lt_iff_toNat_lt, toNat_saturatingSub64] at hwide
    exact Or.inr ⟨rfl, Nat.not_le.mpr hwide⟩
  · rename_i hclose
    rw [UInt64.not_lt, UInt64.le_iff_toNat_le, toNat_saturatingSub64] at hclose
    exact Or.inl ⟨_, rfl, hclose, rfl, rfl⟩

section Methods

variable (resampling : Resampling) {ring : FeatureRing} {atNs maxGapNs : UInt64}
  {value : ResampledFeature}
  (hordered : ring.samples.Pairwise fun sample later => sample.timeEdgeNs < later.timeEdgeNs)
include hordered

theorem resample_linear_of_some
    (h : ring.resample resampling atNs .linear maxGapNs = some value) :
    ∃ before after, ring.IsPrevious atNs before ∧ ring.IsNext atNs after ∧
      after.timeEdgeNs.toNat - before.timeEdgeNs.toNat ≤ maxGapNs.toNat ∧
      value.previousTimeNs = before.timeEdgeNs ∧ value.nextTimeNs = after.timeEdgeNs := by
  obtain ⟨before, hbefore, h⟩ := Option.bind_eq_some_iff.mp h
  obtain ⟨after, hafter, h⟩ := Option.bind_eq_some_iff.mp h
  refine ⟨before, after, (previous_eq_some_iff hordered).mp hbefore,
    (next_eq_some_iff hordered).mp hafter, ?_⟩
  rcases resampleLinear_cases resampling atNs maxGapNs before after with
    ⟨result, hresult, hgap, htimes⟩ | ⟨hnone, _⟩
  · obtain rfl := Option.some.inj (h.symm.trans hresult)
    exact ⟨hgap, htimes⟩
  · cases h.symm.trans hnone

theorem resample_linear_isSome {before after : FeatureSample}
    (hbefore : ring.IsPrevious atNs before) (hafter : ring.IsNext atNs after)
    (hgap : after.timeEdgeNs.toNat - before.timeEdgeNs.toNat ≤ maxGapNs.toNat) :
    (ring.resample resampling atNs .linear maxGapNs).isSome := by
  have hresample : ring.resample resampling atNs .linear maxGapNs =
      resampleLinear resampling atNs maxGapNs before after := by
    rw [resample, (previous_eq_some_iff hordered).mpr hbefore,
      (next_eq_some_iff hordered).mpr hafter]
    rfl
  rcases resampleLinear_cases resampling atNs maxGapNs before after with
    ⟨result, hresult, _⟩ | ⟨_, hwide⟩
  · rw [hresample, hresult]
    rfl
  · exact absurd hgap hwide

theorem resample_zeroOrderHold_eq_some_iff :
    ring.resample resampling atNs .zeroOrderHold maxGapNs = some value ↔
      ∃ before, ring.IsPrevious atNs before ∧
        atNs.toNat - before.timeEdgeNs.toNat ≤ maxGapNs.toNat ∧ value = single before := by
  have hresample : ring.resample resampling atNs .zeroOrderHold maxGapNs = some value ↔
      ∃ before, ring.previous atNs = some before ∧
        (if saturatingSub64 atNs before.timeEdgeNs ≤ maxGapNs then some (single before) else none) =
          some value := Option.bind_eq_some_iff
  rw [hresample]
  refine exists_congr fun before => and_congr (previous_eq_some_iff hordered) ?_
  rw [Option.ite_none_right_eq_some, UInt64.le_iff_toNat_le, toNat_saturatingSub64,
    Option.some.injEq, eq_comm (a := value)]

omit hordered in
/-- The sample that was chosen is returned if it is close enough. -/
theorem resample_nearest_eq_some_iff :
    ring.resample resampling atNs .nearest maxGapNs = some value ↔
      ∃ sample, nearer atNs (ring.previous atNs) (ring.next atNs) = some sample ∧
        distance atNs sample ≤ maxGapNs.toNat ∧ value = single sample := by
  have hresample : ring.resample resampling atNs .nearest maxGapNs = some value ↔
      ∃ sample, nearer atNs (ring.previous atNs) (ring.next atNs) = some sample ∧
        (if absDiff64 sample.timeEdgeNs atNs ≤ maxGapNs then some (single sample) else none) =
          some value := Option.bind_eq_some_iff
  rw [hresample]
  refine exists_congr fun sample => and_congr_right fun _ => ?_
  rw [Option.ite_none_right_eq_some, UInt64.le_iff_toNat_le, toNat_absDiff64,
    Option.some.injEq, eq_comm (a := value)]
  rfl

theorem resample_nearest_isSome_iff :
    (ring.resample resampling atNs .nearest maxGapNs).isSome ↔
      ∃ sample ∈ ring.samples, sample.valid ∧ distance atNs sample ≤ maxGapNs.toNat := by
  constructor
  · intro hsome
    obtain ⟨value, hvalue⟩ := Option.isSome_iff_exists.mp hsome
    obtain ⟨sample, hsample, hclose, _⟩ := (resample_nearest_eq_some_iff resampling).mp hvalue
    have hnearest := isNearest_of_nearer hordered hsample
    exact ⟨sample, hnearest.mem, hnearest.valid, hclose⟩
  · rintro ⟨other, hmem, hvalid, hclose⟩
    obtain ⟨sample, hsample⟩ := exists_nearer atNs hordered hmem hvalid
    have hcloser := (isNearest_of_nearer hordered hsample).closest other hmem hvalid
    exact Option.isSome_iff_exists.mpr ⟨single sample,
      (resample_nearest_eq_some_iff resampling).mpr ⟨sample, hsample, hcloser.trans hclose, rfl⟩⟩

/-- A valid sample of exactly that time is the latest one up to it. -/
theorem resample_none_eq_some_iff :
    ring.resample resampling atNs .none maxGapNs = some value ↔
      ∃ sample ∈ ring.samples, sample.valid ∧ sample.timeEdgeNs = atNs ∧
        value = single sample := by
  have hresample : ring.resample resampling atNs .none maxGapNs = some value ↔
      ∃ sample, (ring.previous atNs = some sample ∧ sample.timeEdgeNs = atNs) ∧
        single sample = value := by
    rw [resample, Option.map_eq_some_iff]
    simp only [Option.filter_eq_some_iff, decide_eq_true_eq]
  rw [hresample]
  constructor
  · rintro ⟨sample, ⟨hsample, htime⟩, rfl⟩
    have hprevious := (previous_eq_some_iff hordered).mp hsample
    exact ⟨sample, hprevious.mem, hprevious.valid, htime, rfl⟩
  · rintro ⟨sample, hmem, hvalid, rfl, rfl⟩
    refine ⟨sample, ⟨(previous_eq_some_iff hordered).mpr ⟨hmem, hvalid, ?_, ?_⟩, rfl⟩, rfl⟩
    · exact UInt64.le_refl _
    · exact fun other _ _ hle => hle

end Methods

/-- Every run of `insert` leaves a ring that holds the last samples accepted,
and that is resampled from the right ones. -/
theorem ring_resamples (resampling : Resampling) (capacity vectorLen : Nat) (start : FeatureRing)
    (hnew : new capacity vectorLen = .ok start) (inserts : List FeatureSample) :
    Holds capacity vectorLen (run offer start inserts) (outputs offer accepted start inserts) ∧
      ∀ atNs maxGapNs,
        Resamples resampling vectorLen (run offer start inserts) atNs maxGapNs := by
  have hholds := holds_run hnew inserts
  have hordered := hholds.increasing
  have hfits : (run offer start inserts).Fits vectorLen := ⟨hholds.width, hholds.values⟩
  refine ⟨hholds, fun atNs maxGapNs => ⟨?_, ?_, ?_, ?_, ?_, ?_, ?_⟩⟩
  · constructor
    · intro hsome
      obtain ⟨value, hvalue⟩ := Option.isSome_iff_exists.mp hsome
      obtain ⟨before, after, hbefore, hafter, hgap, _⟩ :=
        resample_linear_of_some resampling hordered hvalue
      exact ⟨before, after, hbefore, hafter, hgap⟩
    · rintro ⟨before, after, hbefore, hafter, hgap⟩
      exact resample_linear_isSome resampling hordered hbefore hafter hgap
  · intro value before after hvalue hbefore hafter
    obtain ⟨left, right, hleft, hright, _, hprevious, hnext⟩ :=
      resample_linear_of_some resampling hordered hvalue
    have hsame := Option.some.inj (((previous_eq_some_iff hordered).mpr hleft).symm.trans
      ((previous_eq_some_iff hordered).mpr hbefore))
    have hsame' := Option.some.inj (((next_eq_some_iff hordered).mpr hright).symm.trans
      ((next_eq_some_iff hordered).mpr hafter))
    rw [← hsame, ← hsame']
    exact ⟨hprevious, hnext⟩
  · exact fun value => resample_zeroOrderHold_eq_some_iff resampling hordered
  · exact resample_nearest_isSome_iff resampling hordered
  · intro value hvalue
    obtain ⟨sample, hsample, _, hsingle⟩ := (resample_nearest_eq_some_iff resampling).mp hvalue
    exact ⟨sample, isNearest_of_nearer hordered hsample, hsingle⟩
  · exact fun value => resample_none_eq_some_iff resampling hordered
  · exact fun method value => hfits.resample

theorem ring_resamples_pair :
    ∃ ring, new 2 1 = .ok ring ∧
      Resamples ⟨fun _ _ => ⟨0⟩, fun left _ _ => left⟩ 1
        (run offer ring [⟨10, [⟨0⟩], true⟩, ⟨20, [⟨0⟩], true⟩]) 15 10 :=
  ⟨⟨2, 1, []⟩, rfl, (ring_resamples _ 2 1 ⟨2, 1, []⟩ rfl _).2 15 10⟩

end FeatureRing

end RobotMulticam.Edge
