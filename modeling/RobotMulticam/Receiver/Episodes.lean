import RobotMulticam.Receiver.Session

/-!
# Episodes over whole runs

Three things a recorder is expected to do, and when the session manager does
them.

* The post-roll: an episode ended with `k` further steps holds those `k` when
  it is taken right behind the last of them. It stays active until then and
  goes on taking steps (`post_roll_exact_iff`).
* The bound: an episode grows up to the episode capacity, but it begins with
  the whole pre-roll, which has a capacity of its own
  (`episodes_bounded_iff`).
* The order: the last capture time is looked up in what is stored, so a step
  that finds nothing stored is compared with nothing
  (`capture_times_increase_iff`).
-/

namespace RobotMulticam.Receiver

open RobotMulticam.Lib
open RobotMulticam.Protocol
open SessionManager

/-! ## The post-roll -/

/-- The step of a call, if the manager finds it valid. -/
def SessionManager.validStep (self : SessionManager) : SessionCall → List SynchronizedDatasetStep
  | .ingest step => if self.validateStep step = .ok () then [step] else []
  | _ => []

variable {self manager : SessionManager} {recorded arrived : List SynchronizedDatasetStep}

theorem SessionManager.validStep_ingest {step : SynchronizedDatasetStep}
    (h : self.validateStep step = .ok ()) : self.validStep (.ingest step) = [step] :=
  if_pos h

/-- The valid steps among the calls of a run, in order. -/
def validSteps (start : SessionManager) (calls : List SessionCall) :
    List SynchronizedDatasetStep :=
  outputs SessionManager.call validStep start calls

/-- How far an episode ended behind `recorded` with `count` steps to come
is, after the valid steps `arrived`. -/
inductive PostRoll (recorded : List SynchronizedDatasetStep) (count : Nat)
    (arrived : List SynchronizedDatasetStep) (episode : Episode) : Prop
  | running (hsteps : episode.steps = recorded ++ arrived) (hstate : episode.state = .postRoll)
      (hremaining : episode.postRollRemaining + arrived.length = count)
      (hopen : arrived.length < count)
  | complete (hsteps : episode.steps = recorded ++ arrived) (hstate : episode.state = .finalized)
      (hcomplete : arrived.length = count)
  | overrun (hstate : episode.state = .invalid ∨
        episode.state = .finalized ∧ recorded.length + count < episode.steps.length)
      (hover : count < arrived.length)

namespace PostRoll

variable {recorded arrived : List SynchronizedDatasetStep} {count : Nat} {episode : Episode}

/-- A step that finds room. -/
theorem push (h : PostRoll recorded count arrived episode) (step : SynchronizedDatasetStep) :
    PostRoll recorded count (arrived ++ [step]) (episode.push step) := by
  have hlength : (arrived ++ [step]).length = arrived.length + 1 := by simp
  cases h with
  | running hsteps hstate hremaining hopen =>
    have hpushed : (episode.push step).postRollRemaining = episode.postRollRemaining - 1 := by
      simp [Episode.push, hstate]
    by_cases hlast : episode.postRollRemaining - 1 = 0
    · refine .complete (by simp [hsteps]) (by simp [Episode.push, hstate, hlast]) ?_
      omega
    · refine .running (by simp [hsteps]) (by simp [Episode.push, hstate, hlast]) ?_ ?_
      · omega
      · omega
  | complete hsteps hstate hcomplete =>
    -- the episode is still active, so it takes a step too many
    refine .overrun (Or.inr ⟨by simp [Episode.push, hstate], ?_⟩) (by omega)
    simp [hsteps, hcomplete]
  | overrun hstate hover =>
    refine .overrun ?_ (by omega)
    rcases hstate with hinvalid | ⟨hfinal, hlong⟩
    · exact Or.inl (by simp [Episode.push, hinvalid])
    · refine Or.inr ⟨by simp [Episode.push, hfinal], ?_⟩
      rw [Episode.push_steps, List.length_append]
      omega

/-- A step that finds the episode full comes after the post-roll. -/
theorem overflow (h : PostRoll recorded count arrived episode) {capacity : Nat}
    (hroom : ∀ index < count, recorded.length + index ≠ capacity)
    (hfull : episode.steps.length = capacity) (step : SynchronizedDatasetStep) :
    PostRoll recorded count (arrived ++ [step]) { episode with state := .invalid } := by
  refine .overrun (Or.inl rfl) ?_
  cases h with
  | running hsteps hstate hremaining hopen =>
    exact absurd (by simpa [hsteps] using hfull) (hroom arrived.length hopen)
  | complete hsteps hstate hcomplete => simp [hcomplete]
  | overrun hstate hover =>
    simp only [List.length_append, List.length_singleton]
    omega

theorem not_recording (h : PostRoll recorded count arrived episode) :
    episode.state ≠ .recording := by
  cases h with
  | running hsteps hstate => simp [hstate]
  | complete hsteps hstate => simp [hstate]
  | overrun hstate =>
    rcases hstate with hinvalid | ⟨hfinal, _⟩
    · simp [hinvalid]
    · simp [hfinal]

end PostRoll

/-- The manager during the post-roll. -/
def PostRolling (capacity : Nat) (recorded : List SynchronizedDatasetStep) (count : Nat)
    (arrived : List SynchronizedDatasetStep) (manager : SessionManager) : Prop :=
  manager.episodeCapacity = capacity ∧
    ∃ episode, manager.active = some episode ∧ PostRoll recorded count arrived episode

/-- The post-roll begins with `end_episode`; one without steps is complete. -/
theorem PostRolling.ended {ended : SessionManager} {postRollSteps : Nat}
    (hended : self.endEpisode postRollSteps = (.ok (), ended))
    (hrecorded : ended.active.map (·.steps) = some recorded) :
    PostRolling ended.episodeCapacity recorded postRollSteps [] ended := by
  unfold endEpisode at hended
  split at hended
  · cases hended
  · split at hended
    · cases hended
    · cases hended
      obtain rfl := Option.some.inj hrecorded
      refine ⟨rfl, _, rfl, ?_⟩
      by_cases hzero : postRollSteps = 0
      · exact .complete (by simp) (by simp [hzero]) (by simp [hzero])
      · exact .running (by simp) (by simp [hzero]) (by simp) (by simpa using Nat.pos_of_ne_zero hzero)

/-- A call that does not take the episode. -/
theorem PostRolling.call {capacity count : Nat}
    (h : PostRolling capacity recorded count arrived manager)
    (hroom : ∀ index < count, recorded.length + index ≠ capacity) {call : SessionCall}
    (huntaken : call = .takeFinalized → ∀ episode, manager.takeFinalized.1 ≠ .ok episode) :
    PostRolling capacity recorded count (arrived ++ manager.validStep call)
      (manager.call call) := by
  obtain ⟨hcapacity, episode, hactive, hroll⟩ := h
  obtain ⟨result, hstep⟩ := manager.call_step call
  generalize manager.call call = next at hstep ⊢
  cases hstep with
  | refused call error hinvalid =>
    have hnone : manager.validStep call = [] := by
      cases call with
      | ingest step => simp [validStep, hinvalid step rfl]
      | _ => rfl
    rw [hnone, List.append_nil]
    exact ⟨hcapacity, episode, hactive, hroll⟩
  | updated manifestRevision schemaFingerprint hidle => simp [hactive] at hidle
  | buffered step hvalid hidle => simp [hactive] at hidle
  | recorded step found hvalid hfound hfree =>
    obtain rfl : episode = found := Option.some.inj (hactive.symm.trans hfound)
    rw [validStep_ingest hvalid]
    exact ⟨hcapacity, _, rfl, hroll.push step⟩
  | overflowed step found hvalid hfound hfull =>
    obtain rfl : episode = found := Option.some.inj (hactive.symm.trans hfound)
    rw [validStep_ingest hvalid]
    exact ⟨hcapacity, _, rfl, hroll.overflow hroom (hfull.trans hcapacity) step⟩
  | begun freshId hidle => simp [hactive] at hidle
  | ended postRollSteps found hfound hrecording =>
    obtain rfl : episode = found := Option.some.inj (hactive.symm.trans hfound)
    exact absurd hrecording hroll.not_recording
  | taken found hfound hclosed =>
    exact absurd (takeFinalized_eq_ok.mpr ⟨hfound, hclosed⟩)
      (huntaken rfl found)

/-- Calls that do not take the episode. -/
theorem PostRolling.run {capacity count : Nat}
    (h : PostRolling capacity recorded count arrived manager)
    (hroom : ∀ index < count, recorded.length + index ≠ capacity) {calls : List SessionCall}
    (huntaken : Meets SessionManager.call (fun manager call => call = .takeFinalized →
      ∀ episode, manager.takeFinalized.1 ≠ .ok episode) manager calls) :
    PostRolling capacity recorded count (arrived ++ validSteps manager calls)
      (Lib.run SessionManager.call manager calls) := by
  induction calls generalizing manager arrived with
  | nil => simpa [validSteps, outputs] using h
  | cons call calls ih =>
    -- the steps that arrived so far move from the run to the invariant
    have hrest := ih (h.call hroom huntaken.1) huntaken.2
    rwa [List.append_assoc] at hrest

/-- An episode is ended by `end_episode(k)` and the calls behind it do not
take it; at least `k` of the steps they offer are valid, and the first `k`
find room. What is taken then is the finalized episode with exactly these
`k` steps behind the recorded ones if and only if no further valid step was
offered. -/
theorem post_roll_exact_iff {self ended : SessionManager} {postRollSteps : Nat}
    (hended : self.endEpisode postRollSteps = (.ok (), ended))
    {recorded : List SynchronizedDatasetStep}
    (hrecorded : ended.active.map (·.steps) = some recorded) {calls : List SessionCall}
    (huntaken : Meets SessionManager.call (fun manager call => call = .takeFinalized →
      ∀ episode, manager.takeFinalized.1 ≠ .ok episode) ended calls)
    (henough : postRollSteps ≤ (validSteps ended calls).length)
    (hroom : ∀ index < postRollSteps, recorded.length + index ≠ ended.episodeCapacity) :
    (∃ episode, (run SessionManager.call ended calls).takeFinalized.1 = .ok episode ∧
      episode.state = .finalized ∧
      episode.steps = recorded ++ (validSteps ended calls).take postRollSteps) ↔
    (validSteps ended calls).length = postRollSteps := by
  obtain ⟨_, episode, hactive, hroll⟩ := (PostRolling.ended hended hrecorded).run hroom huntaken
  rw [List.nil_append] at hroll
  cases hroll with
  -- at least `k` valid steps arrived, so the post-roll is not running any more
  | running hsteps hstate hremaining hopen => omega
  | complete hsteps hstate hcomplete =>
    refine ⟨fun _ => hcomplete, fun _ => ⟨episode, ?_, hstate, ?_⟩⟩
    · exact takeFinalized_eq_ok.mpr ⟨hactive, Or.inl hstate⟩
    · rw [hsteps, ← hcomplete, List.take_length]
  | overrun hstate hover =>
    refine ⟨?_, fun hlength => absurd hlength (by omega)⟩
    rintro ⟨found, htaken, hfinal, hsteps⟩
    obtain ⟨hfound, _⟩ := takeFinalized_eq_ok.mp htaken
    obtain rfl : episode = found := Option.some.inj (hactive.symm.trans hfound)
    rcases hstate with hinvalid | ⟨_, hlong⟩
    · simp [hinvalid] at hfinal
    · rw [hsteps, List.length_append, List.length_take] at hlong
      omega

/-- The small session up to the end of its episode. -/
def drillEnded : SessionManager := run SessionManager.call (drillManager 2 5) (drillCalls.take 7)

theorem post_roll_exact_drill :
    (validSteps drillEnded [.ingest (drillStep 5)]).length = 1 ∧
      ∃ episode, (run SessionManager.call drillEnded [.ingest (drillStep 5)]).takeFinalized.1 =
          .ok episode ∧ episode.state = .finalized ∧
        episode.steps = [drillStep 2, drillStep 3, drillStep 4] ++
          (validSteps drillEnded [.ingest (drillStep 5)]).take 1 := by
  obtain ⟨hended, hrecorded, hcapacity, hlength⟩ :
      (run SessionManager.call (drillManager 2 5) (drillCalls.take 6)).endEpisode 1 =
          (.ok (), drillEnded) ∧
        drillEnded.active.map (·.steps) = some [drillStep 2, drillStep 3, drillStep 4] ∧
        drillEnded.episodeCapacity = 5 ∧
        (validSteps drillEnded [.ingest (drillStep 5)]).length = 1 := by
    decide +kernel
  refine ⟨hlength, (post_roll_exact_iff hended hrecorded ?_ hlength.ge ?_).mpr hlength⟩
  · simp [Meets]
  · intro index hindex
    rw [hcapacity, List.length_cons, List.length_cons, List.length_cons, List.length_nil]
    omega

/-- Two steps behind an episode that was ended with one step to come are both
in it. -/
theorem post_roll_overruns :
    (run SessionManager.call (drillManager 2 5) (drillCalls.take 6)).endEpisode 1 =
        (.ok (), drillEnded) ∧
      drillEnded.active.map (·.steps) = some [drillStep 2, drillStep 3, drillStep 4] ∧
      validSteps drillEnded [.ingest (drillStep 5), .ingest (drillStep 6)] =
        [drillStep 5, drillStep 6] ∧
      (run SessionManager.call drillEnded
        [.ingest (drillStep 5), .ingest (drillStep 6)]).takeFinalized.1 =
        .ok { drillEpisode with
          steps := [drillStep 2, drillStep 3, drillStep 4, drillStep 5, drillStep 6] } := by
  decide +kernel

/-! ## The bound -/

/-- No episode is longer than the limit. -/
def EpisodeWithin (limit : Nat) (manager : SessionManager) : Prop :=
  ∀ episode ∈ manager.active, episode.steps.length ≤ limit

/-- A call keeps the bound, unless it begins an episode with a pre-roll that
is longer. -/
theorem EpisodeWithin.call (h : EpisodeWithin manager.episodeCapacity manager) {call : SessionCall}
    (hbegin : ∀ freshId, call = .beginEpisode freshId → manager.active = none →
      manager.preRoll.length ≤ manager.episodeCapacity) :
    EpisodeWithin manager.episodeCapacity (manager.call call) := by
  obtain ⟨result, hstep⟩ := manager.call_step call
  generalize manager.call call = next at hstep ⊢
  cases hstep with
  | refused call error => exact h
  | updated manifestRevision schemaFingerprint hidle => exact h
  | buffered step hvalid hidle => exact h
  | recorded step episode hvalid hactive hroom =>
    have hlength := h episode hactive
    simp only [EpisodeWithin, Option.mem_def, Option.some.injEq, forall_eq', Episode.push_steps,
      List.length_append, List.length_singleton]
    omega
  | overflowed step episode hvalid hactive hfull => simpa [EpisodeWithin] using h episode hactive
  | begun freshId hidle => simpa [EpisodeWithin] using hbegin freshId rfl hidle
  | ended postRollSteps episode hactive hrecording =>
    simpa [EpisodeWithin] using h episode hactive
  | taken episode hactive hclosed => simp [EpisodeWithin]

section Bound

variable {sessionId : Uuid} {manifestRevision : UInt64} {schemaFingerprint : Vector UInt8 32}
  {preRollCapacity episodeCapacity : Nat} {start : SessionManager}
  (hnew : SessionManager.new sessionId manifestRevision schemaFingerprint preRollCapacity
    episodeCapacity = .ok start)

include hnew

/-- Episodes that begin within the capacity stay within it. -/
theorem episodeWithin_run {calls : List SessionCall}
    (hbegin : ∀ before freshId after, calls = before ++ .beginEpisode freshId :: after →
      (run SessionManager.call start before).active = none →
      (run SessionManager.call start before).preRoll.length ≤ episodeCapacity) :
    EpisodeWithin episodeCapacity (run SessionManager.call start calls) := by
  induction calls using List.reverseRecOn with
  | nil =>
    obtain ⟨_, rfl⟩ := new_eq_ok.mp hnew
    simp [EpisodeWithin]
  | append_singleton calls call ih =>
    have hcapacity := (configured_run hnew calls).episode
    have hbefore := ih fun before freshId after hcalls =>
      hbegin before freshId (after ++ [call]) (by simp [hcalls])
    rw [run_append, run_cons, run_nil]
    rw [← hcapacity] at hbefore ⊢
    refine hbefore.call fun freshId hcall hidle => ?_
    rw [hcapacity]
    exact hbegin calls freshId [] (by rw [hcall]) hidle

/-- A pre-roll capacity within the episode capacity is enough. -/
theorem episodeWithin_of_le (hle : preRollCapacity ≤ episodeCapacity) (calls : List SessionCall) :
    EpisodeWithin episodeCapacity (run SessionManager.call start calls) := by
  refine episodeWithin_run hnew fun before _ _ _ _ => ?_
  exact (length_preRoll_run hnew before).trans hle

/-- In every run, no episode ever holds more than `episode_capacity` steps if
and only if every episode that begins finds at most that many in the
pre-roll. -/
theorem episodes_bounded_iff (calls : List SessionCall) :
    (∀ before after, calls = before ++ after →
      EpisodeWithin episodeCapacity (run SessionManager.call start before)) ↔
    ∀ before freshId after, calls = before ++ .beginEpisode freshId :: after →
      (run SessionManager.call start before).active = none →
      (run SessionManager.call start before).preRoll.length ≤ episodeCapacity := by
  constructor
  · intro hwithin before freshId after hcalls hidle
    have hbegun := hwithin (before ++ [.beginEpisode freshId]) after (by simp [hcalls])
    rw [run_append] at hbegun
    simpa [EpisodeWithin, SessionManager.call, SessionManager.perform,
      beginEpisode, hidle] using hbegun
  · intro hbegin moment later hcalls
    refine episodeWithin_run hnew fun before freshId after hmoment => ?_
    exact hbegin before freshId (after ++ later) (by simp [hcalls, hmoment])

end Bound

/-- The small session begins its episode with two steps and room for five. -/
theorem episodes_bounded_drill :
    EpisodeWithin 5 (run SessionManager.call (drillManager 2 5) drillCalls) := by
  have hnew : SessionManager.new drillSession 1 (Vector.replicate 32 1) 2 5 =
      .ok (drillManager 2 5) := rfl
  refine (episodes_bounded_iff hnew drillCalls).mpr ?_ drillCalls [] (by simp)
  intro before freshId after hcalls hidle
  have hbounded := length_preRoll_run hnew before
  omega

/-- With a pre-roll of three and an episode capacity of one, an episode begins
with three steps and takes a fourth. -/
theorem episode_beyond_capacity :
    SessionManager.new drillSession 1 (Vector.replicate 32 1) 3 1 = .ok (drillManager 3 1) ∧
      (run SessionManager.call (drillManager 3 1)
        [.ingest (drillStep 1), .ingest (drillStep 2), .ingest (drillStep 3),
          .beginEpisode (Uuid.ofNat 3), .ingest (drillStep 4)]).active.map (·.steps.length) =
        some 4 := by
  decide +kernel

/-! ## The order of acceptance -/

/-- The step of a call, if the manager accepts it. -/
def SessionManager.accepted (self : SessionManager) : SessionCall → List SynchronizedDatasetStep
  | .ingest step => if (self.ingest step).1 = .ok () then [step] else []
  | _ => []

/-- All steps a run accepts, in order. -/
def acceptedSteps (start : SessionManager) (calls : List SessionCall) :
    List SynchronizedDatasetStep :=
  outputs SessionManager.call accepted start calls

theorem acceptedSteps_concat (start : SessionManager) (calls : List SessionCall)
    (call : SessionCall) :
    acceptedSteps start (calls ++ [call]) =
      acceptedSteps start calls ++ (run SessionManager.call start calls).accepted call := by
  simp [acceptedSteps, outputs_append, outputs]

theorem SessionManager.accepted_ingest (self : SessionManager) (step : SynchronizedDatasetStep) :
    self.accepted (.ingest step) =
      if (self.perform (.ingest step)).1 = .ok .done then [step] else [] := by
  unfold accepted perform
  cases h : (self.ingest step).1 <;> simp [h, Except.map]

/-- What a call does to the latest step: an accepted one becomes it, and
otherwise it stays or is gone. -/
theorem SessionManager.Coherent.latest_call (h : self.Coherent) (call : SessionCall) :
    (∃ step, call = .ingest step ∧ self.accepted call = [step] ∧
      (∀ last ∈ self.latest, last.captureTimeEdgeNs < step.captureTimeEdgeNs) ∧
      (self.call call).latest = some step) ∨
    self.accepted call = [] ∧
      ((self.call call).latest = self.latest ∨ (self.call call).latest = none) := by
  have hstep := self.perform_step call
  have haccepted : ∀ step, call = .ingest step →
      self.accepted call = if (self.perform call).1 = .ok .done then [step] else [] := by
    rintro step rfl
    exact self.accepted_ingest step
  have hother : (∀ step, call ≠ .ingest step) → self.accepted call = [] := by
    cases call with
    | ingest step => exact fun hne => absurd rfl (hne step)
    | _ => exact fun _ => rfl
  unfold SessionManager.call
  generalize (self.perform call).1 = result at hstep haccepted
  generalize (self.perform call).2 = next at hstep ⊢
  cases hstep with
  | refused call error hinvalid =>
    refine Or.inr ⟨?_, Or.inl rfl⟩
    by_cases hingest : ∃ step, call = .ingest step
    · obtain ⟨step, rfl⟩ := hingest
      simpa using haccepted step rfl
    · exact hother fun step hcall => hingest ⟨step, hcall⟩
  | updated manifestRevision schemaFingerprint hidle =>
    exact Or.inr ⟨rfl, Or.inr (by simp [latest, hidle])⟩
  | buffered step hvalid hidle =>
    refine Or.inl ⟨step, rfl, by simpa using haccepted step rfl,
      (validateStep_eq_ok.mp hvalid).2.2.2, ?_⟩
    simp [latest, buffered, hidle]
  | recorded step episode hvalid hactive hroom =>
    refine Or.inl ⟨step, rfl, by simpa using haccepted step rfl,
      (validateStep_eq_ok.mp hvalid).2.2.2, ?_⟩
    simp [latest]
  | overflowed step episode hvalid hactive hfull =>
    -- valid but refused; the invalid episode keeps its last step
    refine Or.inr ⟨by simpa using haccepted step rfl, Or.inl ?_⟩
    simp [latest, hactive]
  | begun freshId hidle =>
    -- the latest step moves from the pre-roll to the episode
    refine Or.inr ⟨rfl, Or.inl ?_⟩
    simp [latest, hidle]
  | ended postRollSteps episode hactive hrecording =>
    refine Or.inr ⟨rfl, Or.inl ?_⟩
    simp [latest, hactive]
  | taken episode hactive hclosed =>
    refine Or.inr ⟨rfl, Or.inr ?_⟩
    simp [latest, h.idle (by simp [hactive])]

section Order

variable {sessionId : Uuid} {manifestRevision : UInt64} {schemaFingerprint : Vector UInt8 32}
  {preRollCapacity episodeCapacity : Nat} {start : SessionManager}
  (hnew : SessionManager.new sessionId manifestRevision schemaFingerprint preRollCapacity
    episodeCapacity = .ok start)

include hnew

/-- The step a manager compares with is the last one it accepted, if there is
one at all. -/
theorem latest_mem_accepted (calls : List SessionCall) :
    ∀ last ∈ (run SessionManager.call start calls).latest,
      last ∈ (acceptedSteps start calls).getLast? := by
  induction calls using List.reverseRecOn with
  | nil =>
    obtain ⟨_, rfl⟩ := new_eq_ok.mp hnew
    simp [latest]
  | append_singleton calls call ih =>
    rw [acceptedSteps_concat, run_append, run_cons, run_nil]
    rcases (coherent_run hnew calls).latest_call call with
      ⟨step, _, haccepted, _, hlatest⟩ | ⟨haccepted, hlatest | hlatest⟩
    · simp [haccepted, hlatest]
    · rw [haccepted, hlatest, List.append_nil]
      exact ih
    · simp [hlatest]

/-- In every run, the capture times of the accepted steps increase in the
order of acceptance if and only if every step that is accepted while nothing
is stored is newer than all accepted before. -/
theorem capture_times_increase_iff (calls : List SessionCall) :
    Chronological (acceptedSteps start calls) ↔
    ∀ before step after, calls = before ++ .ingest step :: after →
      ((run SessionManager.call start before).ingest step).1 = .ok () →
      (run SessionManager.call start before).latest = none →
      ∀ earlier ∈ acceptedSteps start before,
        earlier.captureTimeEdgeNs < step.captureTimeEdgeNs := by
  constructor
  · intro hordered before step after hcalls haccepted _ earlier hearlier
    have hsplit : calls = (before ++ [.ingest step]) ++ after := by simp [hcalls]
    rw [hsplit, acceptedSteps, outputs_append] at hordered
    have hprefix := (List.pairwise_append.mp hordered).1
    rw [← acceptedSteps, acceptedSteps_concat] at hprefix
    refine (List.pairwise_append.mp hprefix).2.2 earlier hearlier step ?_
    simp [accepted, haccepted]
  · intro hnewer
    induction calls using List.reverseRecOn with
    | nil => exact List.Pairwise.nil
    | append_singleton calls call ih =>
      have hbefore := ih fun before step after hcalls =>
        hnewer before step (after ++ [call]) (by simp [hcalls])
      rw [acceptedSteps_concat]
      rcases (coherent_run hnew calls).latest_call call with
        ⟨step, rfl, haccepted, hlast, _⟩ | ⟨haccepted, _⟩
      · rw [haccepted]
        refine pairwise_concat (fun _ _ _ => UInt64.lt_trans) hbefore ?_
        intro newest hnewest
        -- the manager compared with the last accepted step, or with none at all
        cases hlatest : (run SessionManager.call start calls).latest with
        | none =>
          refine hnewer calls step [] rfl ?_ hlatest newest (List.mem_of_getLast? hnewest)
          by_contra hrefused
          simp [accepted, hrefused] at haccepted
        | some last =>
          have hmem := latest_mem_accepted hnew calls last hlatest
          obtain rfl : newest = last := Option.some.inj (hnewest.symm.trans hmem)
          exact hlast newest hlatest
      · rw [haccepted, List.append_nil]
        exact hbefore

end Order

/-- The small session accepts its five steps in order, so the one it accepts
while nothing is stored has none before it. -/
theorem capture_times_increase_drill :
    Chronological (acceptedSteps (drillManager 2 5) drillCalls) ∧
      ∀ before step after, drillCalls = before ++ .ingest step :: after →
        ((run SessionManager.call (drillManager 2 5) before).ingest step).1 = .ok () →
        (run SessionManager.call (drillManager 2 5) before).latest = none →
        ∀ earlier ∈ acceptedSteps (drillManager 2 5) before,
          earlier.captureTimeEdgeNs < step.captureTimeEdgeNs := by
  have hnew : SessionManager.new drillSession 1 (Vector.replicate 32 1) 2 5 =
      .ok (drillManager 2 5) := rfl
  have hordered : Chronological (acceptedSteps (drillManager 2 5) drillCalls) := by
    decide +kernel
  exact ⟨hordered, (capture_times_increase_iff hnew drillCalls).mp hordered⟩

/-- A step that was taken with its episode is accepted again, because nothing
is stored then. -/
theorem capture_time_accepted_twice :
    SessionManager.new drillSession 1 (Vector.replicate 32 1) 2 5 = .ok (drillManager 2 5) ∧
      acceptedSteps (drillManager 2 5)
        [.beginEpisode (Uuid.ofNat 3), .ingest (drillStep 7), .endEpisode 0, .takeFinalized,
          .ingest (drillStep 7)] = [drillStep 7, drillStep 7] := by
  decide +kernel

end RobotMulticam.Receiver
