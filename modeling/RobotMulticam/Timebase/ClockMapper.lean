import RobotMulticam.Lib.Outcome
import RobotMulticam.Lib.Ring
import RobotMulticam.Lib.Run

/-!
# Mapping a device clock to the Edge timebase

A `ClockMapper` fits a line through the observations it stored and is reset
when the source clock jumps. `observe` has three exits, and each of them
treats the points, the model, the revision and the last source time in its
own way. `Follows` relates all four to the log of what was observed and how
it was answered: only what was accepted since the last reset counts.

The least-squares fit, the tests on residuals and the mapped time are
floating-point computations; `Arithmetic` leaves them open.
-/

namespace RobotMulticam.Timebase

open RobotMulticam.Lib

structure ClockMapperConfig where
  maxSamples : Nat
  residualRejectNs : UInt64
  jumpResetNs : UInt64

structure Point where
  sourceNs : UInt64
  edgeNs : UInt64
  deriving DecidableEq

inductive ClockUpdate where
  | accepted
  | rejectedOutlier
  | resetAfterJump
  deriving DecidableEq, Repr

inductive ClockError where
  | invalidCapacity
  | notReady
  | outOfRange
  deriving DecidableEq, Repr

structure ClockModel (F64 : Type) where
  slope : F64
  offsetNs : F64
  residualRmsNs : F64
  revision : UInt64
  sampleCount : Nat

/-- What is computed in `f64`. -/
structure Arithmetic (F64 : Type) where
  /-- Slope, offset and RMS residual of the least-squares line, unless the
  points have no variance. -/
  solve : List Point → Option (F64 × F64 × F64)
  /-- Whether the residual of an observation is above a limit. -/
  exceeds : ClockModel F64 → Point → UInt64 → Bool
  /-- The rounded time a source time is mapped to, if it is in range. -/
  mapped : ClockModel F64 → UInt64 → Option UInt64

structure ClockMapper (F64 : Type) where
  config : ClockMapperConfig
  points : List Point
  model : Option (ClockModel F64)
  revision : UInt64
  lastSourceNs : Option UInt64

variable {F64 : Type} (arithmetic : Arithmetic F64)

def fit (points : List Point) (revision : UInt64) : Option (ClockModel F64) :=
  if points.length < 2 then none
  else (arithmetic.solve points).map fun line =>
    ⟨line.1, line.2.1, line.2.2, revision, points.length⟩

namespace ClockMapper

def new (config : ClockMapperConfig) : Except ClockError (ClockMapper F64) :=
  if config.maxSamples < 4 then .error .invalidCapacity
  else .ok ⟨config, [], none, 1, none⟩

variable (self : ClockMapper F64) (point : Point)

def push : ClockMapper F64 :=
  let kept := if self.points.length = self.config.maxSamples then self.points.drop 1
    else self.points
  let points := kept ++ [point]
  { self with
    points
    lastSourceNs := some point.sourceNs
    model := fit arithmetic points self.revision }

def reset : ClockMapper F64 :=
  { self with
    points := []
    model := none
    lastSourceNs := none
    revision := saturatingAdd64 self.revision 1 }

/-- There is a model and the residual against it is above a limit. -/
def farther (limit : UInt64) : Bool :=
  self.model.any fun model => arithmetic.exceeds model point limit

/-- `observe`; the point is the source time and the time of receipt. -/
def observe : ClockUpdate × ClockMapper F64 :=
  if self.lastSourceNs.any (fun previous => point.sourceNs ≤ previous) then
    (.resetAfterJump, self.reset.push arithmetic point)
  else if self.farther arithmetic point self.config.jumpResetNs then
    (.resetAfterJump, self.reset.push arithmetic point)
  else if 4 ≤ self.points.length ∧ self.farther arithmetic point self.config.residualRejectNs then
    (.rejectedOutlier, { self with lastSourceNs := some point.sourceNs })
  else (.accepted, self.push arithmetic point)

def map (sourceNs : UInt64) : Except ClockError UInt64 := do
  let model ← self.model.elim (.error .notReady) .ok
  (arithmetic.mapped model sourceNs).elim (.error .outOfRange) .ok

variable {mapper : ClockMapper F64} {log : List (Point × ClockUpdate)}

theorem new_eq_ok {config : ClockMapperConfig} (h : new config = .ok mapper) :
    config.maxSamples ≠ 0 ∧ mapper = ⟨config, [], none, 1, none⟩ := by
  unfold new at h
  split at h
  · cases h
  · rename_i hroom
    exact ⟨by omega, (Except.ok.inj h).symm⟩

/-- The exits of `observe`. -/
theorem observe_cases :
    self.observe arithmetic point = (.resetAfterJump, self.reset.push arithmetic point) ∨
    (∀ last ∈ self.lastSourceNs, last < point.sourceNs) ∧
      (self.observe arithmetic point =
          (.rejectedOutlier, { self with lastSourceNs := some point.sourceNs }) ∨
        self.observe arithmetic point = (.accepted, self.push arithmetic point)) := by
  have hlast : ¬ self.lastSourceNs.any (fun previous => point.sourceNs ≤ previous) ↔
      ∀ last ∈ self.lastSourceNs, last < point.sourceNs := by
    cases self.lastSourceNs <;> simp
  unfold observe
  split
  · exact Or.inl rfl
  · rename_i hforward
    split
    · exact Or.inl rfl
    · refine Or.inr ⟨hlast.mp hforward, ?_⟩
      split
      · exact Or.inl rfl
      · exact Or.inr rfl

/-- A reset leaves the new point alone. -/
theorem points_of_reset {self : ClockMapper F64} (hroom : self.config.maxSamples ≠ 0)
    (point : Point) : (self.reset.push arithmetic point).points = [point] := by
  show (if 0 = self.config.maxSamples then [] else []) ++ [point] = [point]
  rw [if_neg (Ne.symm hroom), List.nil_append]

/-! ## Runs -/

/-- The mapper behind an observation. -/
def next : ClockMapper F64 :=
  (self.observe arithmetic point).2

/-- The observation and its answer. -/
def answered : List (Point × ClockUpdate) :=
  [(point, (self.observe arithmetic point).1)]

/-- The observations that count behind one more: a reset leaves only the new
one. -/
def counting (points : List Point) (entry : Point × ClockUpdate) : List Point :=
  match entry.2 with
  | .accepted => points ++ [entry.1]
  | .rejectedOutlier => points
  | .resetAfterJump => [entry.1]

/-- The observations since the last reset that were not rejected. -/
def sinceReset (log : List (Point × ClockUpdate)) : List Point := log.foldl counting []

/-- How often the mapper was reset. -/
def resets (log : List (Point × ClockUpdate)) : Nat :=
  log.countP fun entry => entry.2 = .resetAfterJump

theorem sinceReset_concat (log : List (Point × ClockUpdate)) (entry : Point × ClockUpdate) :
    sinceReset (log ++ [entry]) = counting (sinceReset log) entry := by
  simp [sinceReset]

theorem resets_concat (log : List (Point × ClockUpdate)) (entry : Point × ClockUpdate) :
    resets (log ++ [entry]) = resets log + if entry.2 = .resetAfterJump then 1 else 0 := by
  simp [resets, List.countP_singleton]

/-- The observations that were not rejected. -/
def notRejected (log : List (Point × ClockUpdate)) : List Point :=
  (log.filter fun entry => entry.2 ≠ .rejectedOutlier).map Prod.fst

/-- Without a reset, everything that is not rejected counts. -/
theorem foldl_counting (hlast : ∀ entry ∈ log, entry.2 ≠ .resetAfterJump) (points : List Point) :
    log.foldl counting points = points ++ notRejected log := by
  induction log generalizing points with
  | nil => simp [notRejected]
  | cons entry log ih =>
    obtain ⟨hentry, hrest⟩ := List.forall_mem_cons.mp hlast
    rw [List.foldl_cons, ih hrest]
    obtain ⟨point, update⟩ := entry
    cases update with
    | accepted => simp [counting, notRejected]
    | rejectedOutlier => simp [counting, notRejected]
    | resetAfterJump => exact absurd rfl hentry

theorem sinceReset_eq_notRejected (hlast : ∀ entry ∈ log, entry.2 ≠ .resetAfterJump) :
    sinceReset log = notRejected log :=
  foldl_counting hlast []

/-- Behind a reset, the log counts from the point that caused it. -/
theorem sinceReset_append_reset {before after : List (Point × ClockUpdate)} {point : Point}
    (hlast : ∀ entry ∈ after, entry.2 ≠ .resetAfterJump) :
    sinceReset (before ++ (point, .resetAfterJump) :: after) = point :: notRejected after := by
  rw [sinceReset, List.foldl_append, List.foldl_cons, foldl_counting hlast]
  rfl

/-- The state of a mapper against the log. -/
structure Follows (config : ClockMapperConfig) (mapper : ClockMapper F64)
    (log : List (Point × ClockUpdate)) : Prop where
  settings : mapper.config = config
  points : mapper.points = (sinceReset log).rtake config.maxSamples
  increasing : (sinceReset log).Pairwise fun point later => point.sourceNs < later.sourceNs
  latest : ∀ point ∈ sinceReset log, ∃ last ∈ mapper.lastSourceNs, point.sourceNs ≤ last
  revision : mapper.revision = counted64 (1 + resets log)
  model : mapper.model = fit arithmetic mapper.points mapper.revision

namespace Follows

variable {arithmetic : Arithmetic F64} {config : ClockMapperConfig} {mapper : ClockMapper F64}
  {log : List (Point × ClockUpdate)}

theorem resetting (h : Follows arithmetic config mapper log) (hroom : config.maxSamples ≠ 0)
    (point : Point) :
    Follows arithmetic config (mapper.reset.push arithmetic point)
      (log ++ [(point, .resetAfterJump)]) := by
  have hsince : sinceReset (log ++ [(point, .resetAfterJump)]) = [point] := by
    rw [sinceReset_concat]
    rfl
  have hpoints : (mapper.reset.push arithmetic point).points = [point] :=
    points_of_reset arithmetic (by rwa [h.settings]) point
  refine ⟨h.settings, ?_, ?_, ?_, ?_, rfl⟩
  · rw [hpoints, hsince, rtake_of_length_le (Nat.one_le_iff_ne_zero.mpr hroom)]
  · rw [hsince]
    exact List.pairwise_singleton _ _
  · rw [hsince]
    rintro other hother
    rw [List.mem_singleton.mp hother]
    exact ⟨point.sourceNs, rfl, UInt64.le_refl _⟩
  · rw [resets_concat, if_pos rfl, ← Nat.add_assoc, ← counted64_succ, ← h.revision]
    rfl

theorem rejecting (h : Follows arithmetic config mapper log) {point : Point}
    (hforward : ∀ last ∈ mapper.lastSourceNs, last < point.sourceNs) :
    Follows arithmetic config { mapper with lastSourceNs := some point.sourceNs }
      (log ++ [(point, .rejectedOutlier)]) := by
  have hsince : sinceReset (log ++ [(point, .rejectedOutlier)]) = sinceReset log := by
    rw [sinceReset_concat]
    rfl
  refine ⟨h.settings, ?_, ?_, ?_, ?_, h.model⟩
  · rw [hsince]
    exact h.points
  · rw [hsince]
    exact h.increasing
  · rw [hsince]
    intro other hother
    obtain ⟨last, hlast, hle⟩ := h.latest other hother
    exact ⟨point.sourceNs, rfl, UInt64.le_trans hle (UInt64.le_of_lt (hforward last hlast))⟩
  · rw [resets_concat, if_neg (by simp), Nat.add_zero]
    exact h.revision

theorem accepting (h : Follows arithmetic config mapper log) (hroom : config.maxSamples ≠ 0)
    {point : Point} (hforward : ∀ last ∈ mapper.lastSourceNs, last < point.sourceNs) :
    Follows arithmetic config (mapper.push arithmetic point)
      (log ++ [(point, .accepted)]) := by
  have hsince : sinceReset (log ++ [(point, .accepted)]) = sinceReset log ++ [point] := by
    rw [sinceReset_concat]
    rfl
  have hpoints : (mapper.push arithmetic point).points =
      makeRoom mapper.config.maxSamples mapper.points ++ [point] := rfl
  have hnewer : ∀ earlier ∈ sinceReset log, earlier.sourceNs < point.sourceNs := by
    intro earlier hearlier
    obtain ⟨last, hlast, hle⟩ := h.latest earlier hearlier
    exact UInt64.lt_of_le_of_lt hle (hforward last hlast)
  refine ⟨h.settings, ?_, ?_, ?_, ?_, rfl⟩
  · rw [hpoints, hsince, h.settings, h.points, makeRoom_rtake hroom]
  · rw [hsince]
    refine List.pairwise_append.mpr ⟨h.increasing, List.pairwise_singleton _ _, ?_⟩
    intro earlier hearlier other hother
    rw [List.mem_singleton.mp hother]
    exact hnewer earlier hearlier
  · rw [hsince]
    intro other hother
    refine ⟨point.sourceNs, rfl, ?_⟩
    rcases List.mem_append.mp hother with hearlier | hnew
    · exact UInt64.le_of_lt (hnewer other hearlier)
    · rw [List.mem_singleton.mp hnew]
      exact UInt64.le_refl _
  · rw [resets_concat, if_neg (by simp), Nat.add_zero]
    exact h.revision

theorem next (h : Follows arithmetic config mapper log) (hroom : config.maxSamples ≠ 0)
    (point : Point) :
    Follows arithmetic config (mapper.next arithmetic point)
      (log ++ mapper.answered arithmetic point) := by
  unfold ClockMapper.next answered
  rcases observe_cases arithmetic mapper point with hreset | ⟨hforward, hrejected | haccepted⟩
  · rw [hreset]
    exact h.resetting hroom point
  · rw [hrejected]
    exact h.rejecting hforward
  · rw [haccepted]
    exact h.accepting hroom hforward

variable (arithmetic) in
theorem run {start : ClockMapper F64} (hnew : new config = .ok start)
    (observations : List Point) :
    Follows arithmetic config (Lib.run (ClockMapper.next arithmetic) start observations)
      (outputs (ClockMapper.next arithmetic) (answered arithmetic) start observations) := by
  obtain ⟨hroom, rfl⟩ := new_eq_ok hnew
  have hstart : Follows arithmetic config (⟨config, [], none, 1, none⟩ : ClockMapper F64) [] :=
    ⟨rfl, (List.rtake_nil _).symm, List.Pairwise.nil, by simp [sinceReset], rfl, rfl⟩
  exact run_outputs_invariant' (fun mapper log point h => h.next hroom point) hstart observations

end Follows

theorem revision_of_fit {points : List Point} {revision : UInt64} {model : ClockModel F64}
    (h : fit arithmetic points revision = some model) : model.revision = revision := by
  unfold fit at h
  split at h
  · cases h
  · obtain ⟨line, _, rfl⟩ := Option.map_eq_some_iff.mp h
    rfl

theorem map_eq_ok {sourceNs time : UInt64} (h : mapper.map arithmetic sourceNs = .ok time) :
    ∃ model, mapper.model = some model ∧ arithmetic.mapped model sourceNs = some time := by
  obtain ⟨model, hmodel, h⟩ := bind_eq_ok.mp h
  cases hsome : mapper.model with
  | none => simp [hsome] at hmodel
  | some found =>
    obtain rfl : found = model := by simpa [hsome] using hmodel
    cases hmapped : arithmetic.mapped found sourceNs with
    | none => simp [hmapped] at h
    | some value => exact ⟨found, rfl, by simpa [hmapped] using h⟩

/-- What holds of a mapper after any observations, and of the next one. -/
structure Consistent (config : ClockMapperConfig) (mapper : ClockMapper F64)
    (log : List (Point × ClockUpdate)) : Prop where
  bounded : mapper.points.length ≤ config.maxSamples
  increasing : mapper.points.Pairwise fun point later => point.sourceNs < later.sourceNs
  undisturbed : (∀ entry ∈ log, entry.2 ≠ .resetAfterJump) →
    mapper.points = (notRejected log).rtake config.maxSamples
  restarted : ∀ before point after, log = before ++ (point, .resetAfterJump) :: after →
    (∀ entry ∈ after, entry.2 ≠ .resetAfterJump) →
    mapper.points = (point :: notRejected after).rtake config.maxSamples
  latest : ∀ point ∈ mapper.points, ∃ last ∈ mapper.lastSourceNs, point.sourceNs ≤ last
  revision : 1 + resets log < 2 ^ 64 → mapper.revision.toNat = 1 + resets log
  model : ∀ model ∈ mapper.model,
    fit arithmetic mapper.points mapper.revision = some model ∧ model.revision = mapper.revision
  mapped : ∀ sourceNs time, mapper.map arithmetic sourceNs = .ok time →
    ∃ model, fit arithmetic mapper.points mapper.revision = some model ∧
      arithmetic.mapped model sourceNs = some time
  jumped : ∀ point, (mapper.observe arithmetic point).1 = .resetAfterJump →
    (mapper.observe arithmetic point).2.points = [point]
  counted : mapper.revision.toNat < 2 ^ 64 - 1 → ∀ point,
    (mapper.observe arithmetic point).1 = .resetAfterJump ↔
      mapper.revision < (mapper.observe arithmetic point).2.revision

/-- The revision tells resets from the other answers until it saturates. -/
theorem reset_iff_revision (hbelow : mapper.revision.toNat < 2 ^ 64 - 1) (point : Point) :
    (mapper.observe arithmetic point).1 = .resetAfterJump ↔
      mapper.revision < (mapper.observe arithmetic point).2.revision := by
  have hnext : mapper.revision < saturatingAdd64 mapper.revision 1 := by
    have hone : (1 : UInt64).toNat = 1 := rfl
    rw [saturatingAdd64, if_pos (by omega), UInt64.lt_iff_toNat_lt, UInt64.toNat_add, hone]
    omega
  rcases observe_cases arithmetic mapper point with hreset | ⟨_, hrejected | haccepted⟩
  · rw [hreset]
    exact iff_of_true rfl hnext
  · rw [hrejected]
    exact iff_of_false (by simp) (UInt64.lt_irrefl _)
  · rw [haccepted]
    exact iff_of_false (by simp) (UInt64.lt_irrefl _)

/-- A clock model never mixes samples across a reset. -/
theorem clock_mapper_consistent (config : ClockMapperConfig) (start : ClockMapper F64)
    (hnew : new config = .ok start) (observations : List Point) :
    Consistent arithmetic config (run (next arithmetic) start observations)
      (outputs (next arithmetic) (answered arithmetic) start observations) := by
  have hfollows := Follows.run arithmetic hnew observations
  have hsuffix : ∀ {log : List Point}, log.rtake config.maxSamples <:+ log :=
    fun {log} => List.drop_suffix _ log
  refine ⟨?_, ?_, ?_, ?_, ?_, ?_, ?_, ?_, ?_, reset_iff_revision arithmetic⟩
  · rw [hfollows.points, List.rtake, List.length_drop]
    omega
  · rw [hfollows.points]
    exact hfollows.increasing.sublist hsuffix.sublist
  · intro hnone
    rw [hfollows.points, sinceReset_eq_notRejected hnone]
  · intro before point after hlog hlast
    rw [hfollows.points, hlog, sinceReset_append_reset hlast]
  · intro point hpoint
    rw [hfollows.points] at hpoint
    exact hfollows.latest point (hsuffix.subset hpoint)
  · intro hbelow
    rw [hfollows.revision, toNat_counted64]
    omega
  · intro model hmodel
    have hfit := hfollows.model.symm.trans hmodel
    exact ⟨hfit, revision_of_fit arithmetic hfit⟩
  · intro sourceNs time htime
    obtain ⟨model, hmodel, hmapped⟩ := map_eq_ok arithmetic htime
    exact ⟨model, hfollows.model.symm.trans hmodel, hmapped⟩
  · intro point hjump
    have hroom : (run (next arithmetic) start observations).config.maxSamples ≠ 0 := by
      rw [hfollows.settings]
      exact (new_eq_ok hnew).1
    rcases observe_cases arithmetic (run (next arithmetic) start observations) point with
      hreset | ⟨_, hrejected | haccepted⟩
    · rw [hreset]
      exact points_of_reset arithmetic hroom point
    · rw [hrejected] at hjump
      cases hjump
    · rw [haccepted] at hjump
      cases hjump

/-- Every pair of points has a line, and nothing is far from it. -/
def lenient : Arithmetic Unit :=
  ⟨fun _ => some ((), (), ()), fun _ _ _ => false, fun _ sourceNs => some sourceNs⟩

/-- The third point goes back in time. -/
theorem clock_mapper_consistent_jump :
    ∃ start : ClockMapper Unit, new ⟨4, 1, 2⟩ = .ok start ∧
      Consistent lenient ⟨4, 1, 2⟩ (run (next lenient) start [⟨10, 11⟩, ⟨20, 21⟩, ⟨15, 31⟩])
        (outputs (next lenient) (answered lenient) start [⟨10, 11⟩, ⟨20, 21⟩, ⟨15, 31⟩]) :=
  ⟨⟨⟨4, 1, 2⟩, [], none, 1, none⟩, rfl, clock_mapper_consistent lenient _ _ rfl _⟩

end ClockMapper

end RobotMulticam.Timebase
