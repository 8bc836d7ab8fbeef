import RobotMulticam.Lib.Ring
import RobotMulticam.Lib.Run
import RobotMulticam.Protocol.Messages

/-!
# Sessions and episodes

A `SessionManager` buffers the latest steps of a session (the pre-roll) until
an episode begins, which takes them over; from then on steps go to the
episode, until it was ended, its post-roll has arrived and it is taken.

The manager does not keep the time of the last step it accepted: it looks it
up in the active episode or the pre-roll (`latest`). `SessionStep` says once
what a call can do; the invariants of a manager are read off it.

* `Coherent`: what is stored belongs to the session and its current schema,
  in the order of the capture times, and the pre-roll is empty while an
  episode is active.
* `episodes_schema_pure`: so does every episode that is taken, in every run.
-/

namespace RobotMulticam.Receiver

open RobotMulticam.Lib
open RobotMulticam.Protocol

inductive EpisodeState where
  | recording
  | postRoll
  | finalized
  | invalid
  deriving DecidableEq, Repr

structure Episode where
  episodeId : Uuid
  sessionId : Uuid
  manifestRevision : UInt64
  state : EpisodeState
  steps : List SynchronizedDatasetStep
  postRollRemaining : Nat
  deriving DecidableEq

inductive SessionError where
  | schemaFrozen
  | episodeState
  | invalidStep
  | capacity
  deriving DecidableEq, Repr

structure SessionManager where
  sessionId : Uuid
  manifestRevision : UInt64
  schemaFingerprint : Vector UInt8 32
  preRoll : List SynchronizedDatasetStep
  preRollCapacity : Nat
  episodeCapacity : Nat
  active : Option Episode
  deriving DecidableEq

/-- A step is appended; the last one of the post-roll finalizes the episode. -/
def Episode.push (self : Episode) (step : SynchronizedDatasetStep) : Episode :=
  if self.state = .postRoll then
    { self with
      steps := self.steps ++ [step]
      postRollRemaining := self.postRollRemaining - 1
      state := if self.postRollRemaining - 1 = 0 then .finalized else .postRoll }
  -- an episode that is already finalized or invalid takes the step as well
  else { self with steps := self.steps ++ [step] }

namespace SessionManager

def new (sessionId : Uuid) (manifestRevision : UInt64) (schemaFingerprint : Vector UInt8 32)
    (preRollCapacity episodeCapacity : Nat) : Except SessionError SessionManager :=
  if manifestRevision = 0 ∨ preRollCapacity = 0 ∨ episodeCapacity = 0 then .error .capacity
  else .ok {
    sessionId
    manifestRevision
    schemaFingerprint
    preRoll := []
    preRollCapacity
    episodeCapacity
    active := none }

variable (self : SessionManager)

def updateSchema (manifestRevision : UInt64) (schemaFingerprint : Vector UInt8 32) :
    Except SessionError Unit × SessionManager :=
  if self.active.isSome then (.error .schemaFrozen, self)
  else if manifestRevision = 0 then (.error .invalidStep, self)
  else (.ok (), { self with manifestRevision, schemaFingerprint, preRoll := [] })

/-- The step a new one has to be newer than. -/
def latest : Option SynchronizedDatasetStep :=
  (self.active.bind (·.steps.getLast?)).or self.preRoll.getLast?

def validateStep (step : SynchronizedDatasetStep) : Except SessionError Unit :=
  if step.sessionId ≠ self.sessionId.bytes ∨ step.manifestRevision ≠ self.manifestRevision ∨
      step.captureTimeEdgeNs = 0 then .error .invalidStep
  -- where nothing is stored there is nothing to compare with
  else if self.latest.any fun prior => step.captureTimeEdgeNs ≤ prior.captureTimeEdgeNs then
    .error .invalidStep
  else .ok ()

/-- The pre-roll with a step more; a full one loses its oldest step. -/
def buffered (step : SynchronizedDatasetStep) : List SynchronizedDatasetStep :=
  makeRoom self.preRollCapacity self.preRoll ++ [step]

def ingest (step : SynchronizedDatasetStep) : Except SessionError Unit × SessionManager :=
  match self.validateStep step with
  | .error error => (.error error, self)
  | .ok () =>
    match self.active with
    | some episode =>
      -- an equality: an episode that began longer never meets it
      if episode.steps.length = self.episodeCapacity then
        (.error .capacity, { self with active := some { episode with state := .invalid } })
      else (.ok (), { self with active := some (episode.push step) })
    | none => (.ok (), { self with preRoll := self.buffered step })

/-- `freshId` is what `Uuid::new_v4` returns. -/
def beginEpisode (freshId : Uuid) : Except SessionError Uuid × SessionManager :=
  if self.active.isSome then (.error .episodeState, self)
  else (.ok freshId, { self with
    active := some {
      episodeId := freshId
      sessionId := self.sessionId
      manifestRevision := self.manifestRevision
      state := .recording
      -- the whole pre-roll, however long an episode may become
      steps := self.preRoll
      postRollRemaining := 0 }
    preRoll := [] })

def endEpisode (postRollSteps : Nat) : Except SessionError Unit × SessionManager :=
  match self.active with
  | none => (.error .episodeState, self)
  | some episode =>
    if episode.state ≠ .recording then (.error .episodeState, self)
    else (.ok (), { self with active := some { episode with
      postRollRemaining := postRollSteps
      state := if postRollSteps = 0 then .finalized else .postRoll } })

def takeFinalized : Except SessionError Episode × SessionManager :=
  match self.active with
  | none => (.error .episodeState, self)
  | some episode =>
    if episode.state = .finalized ∨ episode.state = .invalid then
      (.ok episode, { self with active := none })
    else (.error .episodeState, self)

end SessionManager

/-! ## Calls -/

/-- A call on the manager. -/
inductive SessionCall where
  | updateSchema (manifestRevision : UInt64) (schemaFingerprint : Vector UInt8 32)
  | ingest (step : SynchronizedDatasetStep)
  | beginEpisode (freshId : Uuid)
  | endEpisode (postRollSteps : Nat)
  | takeFinalized
  deriving DecidableEq

/-- What a successful call returns. -/
inductive SessionReply where
  | done
  | begun (episodeId : Uuid)
  | taken (episode : Episode)
  deriving DecidableEq

namespace SessionManager

def perform (self : SessionManager) : SessionCall → Except SessionError SessionReply × SessionManager
  | .updateSchema manifestRevision schemaFingerprint =>
    (self.updateSchema manifestRevision schemaFingerprint).map (·.map fun _ => .done) id
  | .ingest step => (self.ingest step).map (·.map fun _ => .done) id
  | .beginEpisode freshId => (self.beginEpisode freshId).map (·.map .begun) id
  | .endEpisode postRollSteps => (self.endEpisode postRollSteps).map (·.map fun _ => .done) id
  | .takeFinalized => self.takeFinalized.map (·.map .taken) id

/-- The manager after a call, whatever the call returned. -/
def call (self : SessionManager) (call : SessionCall) : SessionManager := (self.perform call).2

end SessionManager

/-- What a call can do, with the reasons that decide it. -/
inductive SessionStep (self : SessionManager) :
    SessionCall → Except SessionError SessionReply → SessionManager → Prop
  | refused (call : SessionCall) (error : SessionError)
      (hinvalid : ∀ step, call = .ingest step → self.validateStep step ≠ .ok ()) :
      SessionStep self call (.error error) self
  | updated (manifestRevision : UInt64) (schemaFingerprint : Vector UInt8 32)
      (hidle : self.active = none) :
      SessionStep self (.updateSchema manifestRevision schemaFingerprint) (.ok .done)
        { self with manifestRevision, schemaFingerprint, preRoll := [] }
  | buffered (step : SynchronizedDatasetStep) (hvalid : self.validateStep step = .ok ())
      (hidle : self.active = none) :
      SessionStep self (.ingest step) (.ok .done) { self with preRoll := self.buffered step }
  | recorded (step : SynchronizedDatasetStep) (episode : Episode)
      (hvalid : self.validateStep step = .ok ()) (hactive : self.active = some episode)
      (hroom : episode.steps.length ≠ self.episodeCapacity) :
      SessionStep self (.ingest step) (.ok .done)
        { self with active := some (episode.push step) }
  | overflowed (step : SynchronizedDatasetStep) (episode : Episode)
      (hvalid : self.validateStep step = .ok ()) (hactive : self.active = some episode)
      (hfull : episode.steps.length = self.episodeCapacity) :
      SessionStep self (.ingest step) (.error .capacity)
        { self with active := some { episode with state := .invalid } }
  | begun (freshId : Uuid) (hidle : self.active = none) :
      SessionStep self (.beginEpisode freshId) (.ok (.begun freshId))
        { self with
          active := some ⟨freshId, self.sessionId, self.manifestRevision, .recording,
            self.preRoll, 0⟩
          preRoll := [] }
  | ended (postRollSteps : Nat) (episode : Episode) (hactive : self.active = some episode)
      (hrecording : episode.state = .recording) :
      SessionStep self (.endEpisode postRollSteps) (.ok .done)
        { self with active := some { episode with
          postRollRemaining := postRollSteps
          state := if postRollSteps = 0 then .finalized else .postRoll } }
  | taken (episode : Episode) (hactive : self.active = some episode)
      (hclosed : episode.state = .finalized ∨ episode.state = .invalid) :
      SessionStep self .takeFinalized (.ok (.taken episode)) { self with active := none }

namespace SessionManager

theorem step_of_eq {self next : SessionManager} {call : SessionCall}
    {result : Except SessionError SessionReply} (h : self.perform call = (result, next))
    (hstep : SessionStep self call result next) :
    SessionStep self call (self.perform call).1 (self.perform call).2 := by
  rw [h]
  exact hstep

theorem ingest_step (self : SessionManager) (step : SynchronizedDatasetStep) :
    SessionStep self (.ingest step) (self.perform (.ingest step)).1
      (self.perform (.ingest step)).2 := by
  cases hvalid : self.validateStep step with
  | error error =>
    refine step_of_eq (by simp [perform, ingest, hvalid, Except.map]) (.refused _ error ?_)
    rintro other ⟨⟩
    simp [hvalid]
  | ok valid =>
    cases hactive : self.active with
    | none =>
      exact step_of_eq (by simp [perform, ingest, hvalid, hactive, Except.map])
        (.buffered step hvalid hactive)
    | some episode =>
      by_cases hfull : episode.steps.length = self.episodeCapacity
      · exact step_of_eq (by simp [perform, ingest, hvalid, hactive, hfull, Except.map])
          (.overflowed step episode hvalid hactive hfull)
      · exact step_of_eq (by simp [perform, ingest, hvalid, hactive, hfull, Except.map])
          (.recorded step episode hvalid hactive hfull)

/-- Every call is one of the steps. -/
theorem perform_step (self : SessionManager) (call : SessionCall) :
    SessionStep self call (self.perform call).1 (self.perform call).2 := by
  cases call with
  | updateSchema manifestRevision schemaFingerprint =>
    cases hactive : self.active with
    | some episode =>
      exact step_of_eq (by simp [perform, updateSchema, hactive, Except.map])
        (.refused _ .schemaFrozen (by simp))
    | none =>
      by_cases hzero : manifestRevision = 0
      · exact step_of_eq (by simp [perform, updateSchema, hactive, hzero, Except.map])
          (.refused _ .invalidStep (by simp))
      · exact step_of_eq (by simp [perform, updateSchema, hactive, hzero, Except.map])
          (.updated manifestRevision schemaFingerprint hactive)
  | ingest step => exact self.ingest_step step
  | beginEpisode freshId =>
    cases hactive : self.active with
    | some episode =>
      exact step_of_eq (by simp [perform, beginEpisode, hactive, Except.map])
        (.refused _ .episodeState (by simp))
    | none =>
      exact step_of_eq (by simp [perform, beginEpisode, hactive, Except.map])
        (.begun freshId hactive)
  | endEpisode postRollSteps =>
    cases hactive : self.active with
    | none =>
      exact step_of_eq (by simp [perform, endEpisode, hactive, Except.map])
        (.refused _ .episodeState (by simp))
    | some episode =>
      by_cases hrecording : episode.state = .recording
      · exact step_of_eq (by simp [perform, endEpisode, hactive, hrecording, Except.map])
          (.ended postRollSteps episode hactive hrecording)
      · exact step_of_eq (by simp [perform, endEpisode, hactive, hrecording, Except.map])
          (.refused _ .episodeState (by simp))
  | takeFinalized =>
    cases hactive : self.active with
    | none =>
      exact step_of_eq (by simp [perform, takeFinalized, hactive, Except.map])
        (.refused _ .episodeState (by simp))
    | some episode =>
      by_cases hclosed : episode.state = .finalized ∨ episode.state = .invalid
      · exact step_of_eq (by simp [perform, takeFinalized, hactive, hclosed, Except.map])
          (.taken episode hactive hclosed)
      · exact step_of_eq (by simp [perform, takeFinalized, hactive, hclosed, Except.map])
          (.refused _ .episodeState (by simp))

theorem call_step (self : SessionManager) (call : SessionCall) :
    ∃ result, SessionStep self call result (self.call call) :=
  ⟨_, self.perform_step call⟩

end SessionManager

/-! ## What is stored -/

/-- The capture times increase. -/
def Chronological (steps : List SynchronizedDatasetStep) : Prop :=
  steps.Pairwise fun earlier later => earlier.captureTimeEdgeNs < later.captureTimeEdgeNs

instance (steps : List SynchronizedDatasetStep) : Decidable (Chronological steps) :=
  inferInstanceAs (Decidable (steps.Pairwise _))

/-- Steps of one session and one revision, in the order of their capture
times. -/
structure Recorded (sessionId : Uuid) (manifestRevision : UInt64)
    (steps : List SynchronizedDatasetStep) : Prop where
  session : ∀ step ∈ steps, step.sessionId = sessionId.bytes
  revision : ∀ step ∈ steps, step.manifestRevision = manifestRevision
  timed : ∀ step ∈ steps, step.captureTimeEdgeNs ≠ 0
  ordered : Chronological steps

namespace Recorded

variable {sessionId : Uuid} {manifestRevision : UInt64} {steps kept : List SynchronizedDatasetStep}
  {step : SynchronizedDatasetStep}

theorem nil : Recorded sessionId manifestRevision [] :=
  ⟨by simp, by simp, by simp, List.Pairwise.nil⟩

theorem sublist (h : Recorded sessionId manifestRevision steps) (hkept : kept.Sublist steps) :
    Recorded sessionId manifestRevision kept :=
  ⟨fun step hstep => h.session step (hkept.subset hstep),
    fun step hstep => h.revision step (hkept.subset hstep),
    fun step hstep => h.timed step (hkept.subset hstep),
    h.ordered.sublist hkept⟩

/-- A step of the same session and revision that is newer than the last one
can be appended. -/
theorem push (h : Recorded sessionId manifestRevision steps)
    (hsession : step.sessionId = sessionId.bytes)
    (hrevision : step.manifestRevision = manifestRevision) (htimed : step.captureTimeEdgeNs ≠ 0)
    (hnewer : ∀ last ∈ steps.getLast?, last.captureTimeEdgeNs < step.captureTimeEdgeNs) :
    Recorded sessionId manifestRevision (steps ++ [step]) := by
  refine ⟨?_, ?_, ?_, pairwise_concat (fun _ _ _ => UInt64.lt_trans) h.ordered hnewer⟩
  · simpa [or_imp, forall_and] using ⟨h.session, hsession⟩
  · simpa [or_imp, forall_and] using ⟨h.revision, hrevision⟩
  · simpa [or_imp, forall_and] using ⟨h.timed, htimed⟩

end Recorded

@[simp] theorem Episode.push_steps (self : Episode) (step : SynchronizedDatasetStep) :
    (self.push step).steps = self.steps ++ [step] := by
  unfold Episode.push
  split <;> rfl

@[simp] theorem Episode.push_manifestRevision (self : Episode) (step : SynchronizedDatasetStep) :
    (self.push step).manifestRevision = self.manifestRevision := by
  unfold Episode.push
  split <;> rfl

namespace SessionManager

variable {self : SessionManager} {episode : Episode}

/-- A valid step belongs to the session and is newer than what is stored. -/
theorem validateStep_eq_ok {step : SynchronizedDatasetStep} :
    self.validateStep step = .ok () ↔
      step.sessionId = self.sessionId.bytes ∧ step.manifestRevision = self.manifestRevision ∧
        step.captureTimeEdgeNs ≠ 0 ∧
        ∀ last ∈ self.latest, last.captureTimeEdgeNs < step.captureTimeEdgeNs := by
  have hany : (self.latest.any fun prior =>
      decide (step.captureTimeEdgeNs ≤ prior.captureTimeEdgeNs)) = false ↔
      ∀ last ∈ self.latest, last.captureTimeEdgeNs < step.captureTimeEdgeNs := by
    simp [Option.any_eq_false]
  unfold validateStep
  split
  · simp only [reduceCtorEq, false_iff]
    tauto
  · rename_i h
    push Not at h
    rw [← hany]
    split <;> simp_all

/-- What holds of a manager between calls. -/
structure Coherent (manager : SessionManager) : Prop where
  capacity : manager.preRollCapacity ≠ 0
  bounded : manager.preRoll.length ≤ manager.preRollCapacity
  preRoll : Recorded manager.sessionId manager.manifestRevision manager.preRoll
  idle : manager.active ≠ none → manager.preRoll = []
  revision : ∀ episode ∈ manager.active, episode.manifestRevision = manager.manifestRevision
  episode : ∀ episode ∈ manager.active,
    Recorded manager.sessionId manager.manifestRevision episode.steps

theorem latest_of_idle (h : self.active = none) : self.latest = self.preRoll.getLast? := by
  simp [latest, h]

theorem Coherent.latest_of_active (h : self.Coherent) (hactive : self.active = some episode) :
    self.latest = episode.steps.getLast? := by
  simp [latest, hactive, h.idle (by simp [hactive])]

variable {sessionId : Uuid} {preRollCapacity episodeCapacity : Nat}

/-- A new manager has nothing stored, and none of its numbers is zero. -/
theorem new_eq_ok {manifestRevision : UInt64} {schemaFingerprint : Vector UInt8 32}
    {manager : SessionManager} :
    new sessionId manifestRevision schemaFingerprint preRollCapacity episodeCapacity =
        .ok manager ↔
      (manifestRevision ≠ 0 ∧ preRollCapacity ≠ 0 ∧ episodeCapacity ≠ 0) ∧
        manager = ⟨sessionId, manifestRevision, schemaFingerprint, [], preRollCapacity,
          episodeCapacity, none⟩ := by
  unfold new
  split
  · rename_i hzero
    simp only [reduceCtorEq, false_iff]
    tauto
  · rename_i hnonzero
    push Not at hnonzero
    simp only [Except.ok.injEq, hnonzero, ne_eq, not_false_eq_true, and_self, true_and, eq_comm]

/-- The active episode can be replaced by one of the same revision. -/
theorem Coherent.replaced (h : self.Coherent) {next : Episode}
    (hactive : self.active = some episode)
    (hrevision : next.manifestRevision = episode.manifestRevision)
    (hsteps : Recorded self.sessionId self.manifestRevision next.steps) :
    Coherent { self with active := some next } := by
  refine ⟨h.capacity, h.bounded, h.preRoll, fun _ => h.idle (by simp [hactive]), ?_, ?_⟩
  · rintro _ ⟨⟩
    exact hrevision.trans (h.revision episode hactive)
  · rintro _ ⟨⟩
    exact hsteps

/-- Every call keeps a manager coherent. -/
theorem Coherent.call (h : self.Coherent) (call : SessionCall) : (self.call call).Coherent := by
  obtain ⟨result, hstep⟩ := self.call_step call
  generalize self.call call = next at hstep ⊢
  cases hstep with
  | refused call error => exact h
  | updated manifestRevision schemaFingerprint hidle =>
    exact ⟨h.capacity, Nat.zero_le _, .nil, fun _ => rfl, by simp [hidle], by simp [hidle]⟩
  | buffered step hvalid hidle =>
    obtain ⟨hsession, hrevision, htimed, hnewer⟩ := validateStep_eq_ok.mp hvalid
    rw [latest_of_idle hidle] at hnewer
    have hkept := (makeRoom_suffix self.preRollCapacity self.preRoll).sublist
    refine ⟨h.capacity, ?_, ?_, ?_, by simp [hidle], by simp [hidle]⟩
    · have hroom := length_makeRoom_lt h.capacity h.bounded
      simpa [SessionManager.buffered] using hroom
    · exact (h.preRoll.sublist hkept).push hsession hrevision htimed
        fun last hlast => hnewer last (getLast?_makeRoom hlast)
    · intro hactive
      exact absurd hidle hactive
  | recorded step episode hvalid hactive hroom =>
    obtain ⟨hsession, hrevision, htimed, hnewer⟩ := validateStep_eq_ok.mp hvalid
    rw [h.latest_of_active hactive] at hnewer
    refine h.replaced hactive (by simp) ?_
    rw [Episode.push_steps]
    exact (h.episode episode hactive).push hsession hrevision htimed hnewer
  | overflowed step episode hvalid hactive hfull =>
    exact h.replaced hactive rfl (h.episode episode hactive)
  | begun freshId hidle =>
    -- what the pre-roll recorded is now recorded in the episode
    refine ⟨h.capacity, Nat.zero_le _, .nil, fun _ => rfl, by simp, ?_⟩
    simpa using h.preRoll
  | ended postRollSteps episode hactive hrecording =>
    exact h.replaced hactive rfl (h.episode episode hactive)
  | taken episode hactive hclosed =>
    exact ⟨h.capacity, h.bounded, h.preRoll, fun hnone => absurd rfl hnone, by simp, by simp⟩

/-- What `new` was given and no call changes. -/
structure Configured (sessionId : Uuid) (preRollCapacity episodeCapacity : Nat)
    (manager : SessionManager) : Prop where
  session : manager.sessionId = sessionId
  preRoll : manager.preRollCapacity = preRollCapacity
  episode : manager.episodeCapacity = episodeCapacity

theorem Configured.call (h : Configured sessionId preRollCapacity episodeCapacity self)
    (call : SessionCall) :
    Configured sessionId preRollCapacity episodeCapacity (self.call call) := by
  obtain ⟨result, hstep⟩ := self.call_step call
  generalize self.call call = next at hstep ⊢
  cases hstep <;> exact ⟨h.session, h.preRoll, h.episode⟩

/-- A call that fails leaves the stored steps as they were; a full episode
still becomes invalid. -/
theorem perform_error {call : SessionCall} {error : SessionError}
    (h : (self.perform call).1 = .error error) :
    (self.perform call).2.preRoll = self.preRoll ∧
      (self.perform call).2.active.map (·.steps) = self.active.map (·.steps) := by
  have hstep := self.perform_step call
  rw [h] at hstep
  generalize (self.perform call).2 = next at hstep ⊢
  cases hstep with
  | refused call error => exact ⟨rfl, rfl⟩
  | overflowed step episode hvalid hactive hfull => exact ⟨rfl, by simp [hactive]⟩

section Reachable

variable {sessionId : Uuid} {manifestRevision : UInt64} {schemaFingerprint : Vector UInt8 32}
  {preRollCapacity episodeCapacity : Nat} {start : SessionManager}
  (hnew : new sessionId manifestRevision schemaFingerprint preRollCapacity episodeCapacity =
    .ok start)

include hnew

theorem configured_run (calls : List SessionCall) :
    Configured sessionId preRollCapacity episodeCapacity (run call start calls) := by
  obtain ⟨_, rfl⟩ := new_eq_ok.mp hnew
  exact run_invariant' (fun _ next h => h.call next) ⟨rfl, rfl, rfl⟩ calls

theorem coherent_run (calls : List SessionCall) :
    (run call start calls).Coherent := by
  obtain ⟨hnonzero, rfl⟩ := new_eq_ok.mp hnew
  refine run_invariant' (fun _ next h => h.call next) ?_ calls
  exact ⟨hnonzero.2.1, Nat.zero_le _, .nil, fun _ => rfl, by simp, by simp⟩

theorem length_preRoll_run (calls : List SessionCall) :
    (run call start calls).preRoll.length ≤ preRollCapacity := by
  rw [← (configured_run hnew calls).preRoll]
  exact (coherent_run hnew calls).bounded

end Reachable

/-- The episode that is taken is the active one, in a final state. -/
theorem takeFinalized_eq_ok :
    self.takeFinalized.1 = .ok episode ↔
      self.active = some episode ∧ (episode.state = .finalized ∨ episode.state = .invalid) := by
  unfold takeFinalized
  cases hactive : self.active with
  | none => simp
  | some found =>
    by_cases hclosed : found.state = .finalized ∨ found.state = .invalid
    · simp only [hclosed, if_true, Except.ok.injEq, Option.some.injEq]
      constructor
      · rintro rfl
        exact ⟨rfl, hclosed⟩
      · exact fun h => h.1
    · simp only [hclosed, if_false, reduceCtorEq, Option.some.injEq, false_iff, not_and]
      rintro rfl
      exact hclosed

end SessionManager

/-! ## Episodes of one schema -/

/-- In every run, an episode that is taken holds steps of the manager's
session and the episode's revision, with increasing capture times. At every
moment the pre-roll is within its capacity, of the current revision, ordered,
and empty while an episode is active; a call that fails leaves the stored
steps unchanged. -/
theorem episodes_schema_pure {sessionId : Uuid} {manifestRevision : UInt64}
    {schemaFingerprint : Vector UInt8 32} {preRollCapacity episodeCapacity : Nat}
    {start : SessionManager}
    (hnew : SessionManager.new sessionId manifestRevision schemaFingerprint preRollCapacity
      episodeCapacity = .ok start) (calls : List SessionCall) {manager : SessionManager}
    (hrun : run SessionManager.call start calls = manager) :
    (∀ episode, manager.takeFinalized.1 = .ok episode →
      (∀ step ∈ episode.steps, step.sessionId = sessionId.bytes ∧
        step.manifestRevision = episode.manifestRevision ∧ step.captureTimeEdgeNs ≠ 0) ∧
      Chronological episode.steps) ∧
    (manager.preRoll.length ≤ preRollCapacity ∧
      (∀ step ∈ manager.preRoll, step.manifestRevision = manager.manifestRevision) ∧
      Chronological manager.preRoll ∧ (manager.active.isSome → manager.preRoll = [])) ∧
    ∀ call error, (manager.perform call).1 = .error error →
      (manager.perform call).2.preRoll = manager.preRoll ∧
        (manager.perform call).2.active.map (·.steps) = manager.active.map (·.steps) := by
  have hconfigured := SessionManager.configured_run hnew calls
  have hcoherent := SessionManager.coherent_run hnew calls
  have hbounded := SessionManager.length_preRoll_run hnew calls
  rw [hrun] at hconfigured hcoherent hbounded
  refine ⟨?_, ⟨hbounded, hcoherent.preRoll.revision, hcoherent.preRoll.ordered, ?_⟩, ?_⟩
  · intro episode htaken
    have hactive := (SessionManager.takeFinalized_eq_ok.mp htaken).1
    have hrecorded := hcoherent.episode episode hactive
    refine ⟨fun step hstep => ⟨?_, ?_, hrecorded.timed step hstep⟩, hrecorded.ordered⟩
    · rw [← hconfigured.session]
      exact hrecorded.session step hstep
    · rw [hcoherent.revision episode hactive]
      exact hrecorded.revision step hstep
  · intro hactive
    exact hcoherent.idle (Option.isSome_iff_ne_none.mp hactive)
  · intro call error herror
    exact SessionManager.perform_error herror

/-! ## A small session -/

def drillSession : Uuid := Uuid.ofNat 9

/-- A step of the session with nothing in it but its time. -/
def drillStep (captureTimeEdgeNs : UInt64) : SynchronizedDatasetStep where
  sessionId := drillSession.bytes
  manifestRevision := 1
  captureTimeEdgeNs
  frames := []
  observationState := []
  action := []
  auxiliary := []
  valid := true
  invalidReason := ""
  anchorContext := none
  anchorContextPacket := none

def drillManager (preRollCapacity episodeCapacity : Nat) : SessionManager where
  sessionId := drillSession
  manifestRevision := 1
  schemaFingerprint := Vector.replicate 32 1
  preRoll := []
  preRollCapacity
  episodeCapacity
  active := none

/-- Three steps before an episode, one in it and one of its post-roll. -/
def drillCalls : List SessionCall :=
  [.ingest (drillStep 1), .ingest (drillStep 2), .ingest (drillStep 3), .beginEpisode (Uuid.ofNat 3),
    .updateSchema 2 (Vector.replicate 32 2), .ingest (drillStep 4), .endEpisode 1,
    .ingest (drillStep 5)]

/-- The oldest step had left the pre-roll when the episode began. -/
def drillEpisode : Episode where
  episodeId := Uuid.ofNat 3
  sessionId := drillSession
  manifestRevision := 1
  state := .finalized
  steps := [drillStep 2, drillStep 3, drillStep 4, drillStep 5]
  postRollRemaining := 0

theorem episodes_schema_pure_drill :
    (run SessionManager.call (drillManager 2 5) drillCalls).takeFinalized.1 = .ok drillEpisode ∧
      Chronological drillEpisode.steps := by
  have htaken : (run SessionManager.call (drillManager 2 5) drillCalls).takeFinalized.1 =
      .ok drillEpisode := by decide +kernel
  have hnew : SessionManager.new drillSession 1 (Vector.replicate 32 1) 2 5 =
      .ok (drillManager 2 5) := rfl
  exact ⟨htaken, ((episodes_schema_pure hnew drillCalls rfl).1 drillEpisode htaken).2⟩

end RobotMulticam.Receiver
