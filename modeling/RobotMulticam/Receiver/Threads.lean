import RobotMulticam.Lib.Run
import RobotMulticam.Receiver.Runtime

/-!
# Interleaved stream threads

Every listener has a streaming thread that ingests an access unit and calls
`process` with the envelope, while connections come and go. A thread is a
`Stage`: where in `process` it stands. One action lets one thread run one
section, or changes the registry, so a list of actions is an interleaving at
the granularity of the locks.

`run_process` says that a thread that is never interrupted computes
`process`. `Installed` is the rule for facts about the manifest and the
synchronizer of a session: they come into being when completed bytes are
validated, wait in a thread for the installation, and afterwards change only
when a frame is handled.
-/

namespace RobotMulticam.Receiver

open RobotMulticam.Lib
open RobotMulticam.Protocol
open RobotMulticam.Codec
open Std (ExtTreeMap)

/-- Where a thread stands in `process`. An idle thread keeps what the last
call returned. -/
inductive Stage where
  | idle (last : Except RuntimeError Unit)
  | chunks (envelope : EncodedFrameEnvelope) (remaining : List (List UInt8))
  | completed (envelope : EncodedFrameEnvelope) (remaining : List (List UInt8))
      (manifest : Completed)
  | prepared (envelope : EncodedFrameEnvelope) (remaining : List (List UInt8))
      (manifest : Prepared)
  | promoting (envelope : EncodedFrameEnvelope) (remaining : List (List UInt8))
      (promotions : List (StreamKey × BootstrapState))

/-- A thread starts with an envelope. -/
def Stage.start (envelope : EncodedFrameEnvelope) : Stage :=
  .chunks envelope (manifestPayloads envelope)

variable (externals : Externals) (runtime : ReceiverRuntime)

/-- The next section of a thread; `now` is the clock reading if the section
takes one. -/
def Stage.advance (now : Nat) :
    Stage → Stage × ReceiverRuntime
  | .idle last => (.idle last, runtime)
  | .chunks envelope [] =>
    match processFrame externals runtime envelope with
    | (.error error, runtime) => (.idle (.error error), runtime)
    | (.ok _, runtime) => (.idle (.ok ()), runtime)
  | .chunks envelope (payload :: remaining) =>
    match collectMessage externals runtime envelope.key.sessionId payload now with
    | (.error error, runtime) => (.idle (.error error), runtime)
    | (.ok none, runtime) => (.chunks envelope remaining, runtime)
    | (.ok (some found), runtime) => (.completed envelope remaining found, runtime)
  | .completed envelope remaining found =>
    match prepare externals runtime envelope.key.sessionId found with
    | .error error => (.idle (.error error), runtime)
    | .ok ready => (.prepared envelope remaining ready, runtime)
  | .prepared envelope remaining ready =>
    (.promoting envelope remaining (promotions ready.snapshots),
      install runtime envelope.key.sessionId ready)
  | .promoting envelope remaining [] => (.chunks envelope remaining, runtime)
  | .promoting envelope remaining (promotion :: rest) =>
    match promote runtime promotion with
    | (.error error, runtime) => (.idle (.error error), runtime)
    | (.ok (), runtime) => (.promoting envelope remaining rest, runtime)

/-- A prepared manifest comes from the completed bytes of the same thread. -/
theorem Stage.advance_eq_prepared {externals : Externals} {runtime : ReceiverRuntime} {now : Nat}
    {stage : Stage} {envelope : EncodedFrameEnvelope} {remaining : List (List UInt8)}
    {ready : Prepared}
    (h : (stage.advance externals runtime now).1 = .prepared envelope remaining ready) :
    ∃ found, stage = .completed envelope remaining found ∧
      prepare externals runtime envelope.key.sessionId found = .ok ready := by
  unfold advance at h
  split at h
  · cases h
  · split at h
    · cases h
    · cases h
  · split at h
    · cases h
    · cases h
    · cases h
  · split at h
    · cases h
    · rename_i hready
      cases h
      exact ⟨_, rfl, hready⟩
  · cases h
  · cases h
  · split at h
    · cases h
    · cases h

theorem Stage.advance_message_runtime (now : Nat) (envelope : EncodedFrameEnvelope)
    (payload : List UInt8) (remaining : List (List UInt8)) :
    (Stage.advance externals runtime now (.chunks envelope (payload :: remaining))).2 =
      (collectMessage externals runtime envelope.key.sessionId payload now).2 := by
  rw [advance]
  rcases collectMessage externals runtime envelope.key.sessionId payload now with
    ⟨error | _ | found, next⟩
  · rfl
  · rfl
  · rfl

/-- What a section can do to the runtime. -/
theorem Stage.advance_runtime (now : Nat) (stage : Stage) :
    (stage.advance externals runtime now).2 = runtime ∨
    (∃ envelope, stage = .chunks envelope [] ∧
      (stage.advance externals runtime now).2 = (processFrame externals runtime envelope).2) ∨
    (∃ envelope payload remaining, stage = .chunks envelope (payload :: remaining) ∧
      (stage.advance externals runtime now).2 =
        (collectMessage externals runtime envelope.key.sessionId payload now).2) ∨
    (∃ envelope remaining ready, stage = .prepared envelope remaining ready ∧
      (stage.advance externals runtime now).2 =
        install runtime envelope.key.sessionId ready) ∨
    ∃ promotion, (stage.advance externals runtime now).2 = (promote runtime promotion).2 := by
  cases stage with
  | idle last => exact Or.inl rfl
  | chunks envelope remaining =>
    cases remaining with
    | nil =>
      refine Or.inr (Or.inl ⟨envelope, rfl, ?_⟩)
      rw [advance]
      rcases processFrame externals runtime envelope with ⟨error | answer, next⟩
      · rfl
      · rfl
    | cons payload remaining =>
      exact Or.inr (Or.inr (Or.inl ⟨envelope, payload, remaining, rfl,
        advance_message_runtime externals runtime now envelope payload remaining⟩))
  | completed envelope remaining found =>
    refine Or.inl ?_
    rw [advance]
    split
    · rfl
    · rfl
  | prepared envelope remaining ready =>
    exact Or.inr (Or.inr (Or.inr (Or.inl ⟨envelope, remaining, ready, rfl, rfl⟩)))
  | promoting envelope remaining rest =>
    cases rest with
    | nil => exact Or.inl rfl
    | cons promotion rest =>
      refine Or.inr (Or.inr (Or.inr (Or.inr ⟨promotion, ?_⟩)))
      rw [advance]
      rcases promote runtime promotion with ⟨error | ⟨⟩, next⟩
      · rfl
      · rfl

/-- A section leaves the manifest of a session and its bytes alone, or
installs those that were prepared. -/
theorem Stage.advance_manifest (now : Nat) (stage : Stage) (id : Uuid) :
    (((stage.advance externals runtime now).2.session id).manifest =
        (runtime.session id).manifest ∧
      ((stage.advance externals runtime now).2.session id).manifestBytes =
        (runtime.session id).manifestBytes) ∨
    ∃ envelope remaining ready, stage = .prepared envelope remaining ready ∧
      envelope.key.sessionId = id ∧
      ((stage.advance externals runtime now).2.session id).manifest = some ready.manifest ∧
      ((stage.advance externals runtime now).2.session id).manifestBytes = some ready.bytes := by
  rcases stage.advance_runtime externals runtime now with
    hnext | ⟨envelope, _, hnext⟩ | ⟨envelope, payload, remaining, _, hnext⟩ |
    ⟨envelope, remaining, ready, hstage, hnext⟩ | ⟨promotion, hnext⟩
  · rw [hnext]
    exact Or.inl ⟨rfl, rfl⟩
  · rw [hnext]
    obtain ⟨hmanifest, hbytes, _⟩ := processFrame_session externals runtime envelope id
    exact Or.inl ⟨hmanifest, hbytes⟩
  · rw [hnext]
    exact Or.inl (collectMessage_manifest externals runtime _ payload now id)
  · rw [hnext, install]
    by_cases hid : envelope.key.sessionId = id
    · refine Or.inr ⟨envelope, remaining, ready, hstage, hid, ?_⟩
      rw [← hid, setSession_session_self]
      exact ⟨rfl, rfl⟩
    · rw [setSession_session_of_ne hid]
      exact Or.inl ⟨rfl, rfl⟩
  · rw [hnext, ReceiverRuntime.session, promote_sessions]
    exact Or.inl ⟨rfl, rfl⟩

/-- A section changes no identity in the registry. -/
theorem Stage.advance_registry (now : Nat) (stage : Stage) :
    runtime.registry.Keeps (stage.advance externals runtime now).2.registry := by
  rcases stage.advance_runtime externals runtime now with
    hnext | ⟨envelope, _, hnext⟩ | ⟨envelope, payload, remaining, _, hnext⟩ |
    ⟨envelope, remaining, ready, _, hnext⟩ | ⟨promotion, hnext⟩
  · rw [hnext]
    exact .refl _
  · rw [hnext, (processFrame_settings externals runtime envelope).1]
    exact .refl _
  · rw [hnext, collectMessage_registry]
    exact .refl _
  · rw [hnext]
    exact .refl _
  · rw [hnext]
    exact promote_keeps runtime promotion

structure World where
  runtime : ReceiverRuntime
  threads : Nat → Stage

inductive Action where
  | accept (listenPort : UInt16) (rawStreamId : String)
  | transition (key : StreamKey) (target : BootstrapState)
  | disconnect (key : StreamKey)
  | ingest (thread : Nat) (key : StreamKey) (ptsNs : Option UInt64) (accessUnit : List UInt8)
  | submit (thread : Nat) (envelope : EncodedFrameEnvelope)
  | advance (thread : Nat) (now : Nat)

namespace World

def setRegistry (world : World) (registry : ReceiverRegistry) : World :=
  { world with runtime := { world.runtime with registry } }

def setThread (world : World) (thread : Nat) (stage : Stage) : World :=
  { world with threads := Function.update world.threads thread stage }

/-- An idle thread takes the envelope; a busy one is not interrupted. -/
def begin (world : World) (thread : Nat) (envelope : EncodedFrameEnvelope) : World :=
  match world.threads thread with
  | .idle _ => world.setThread thread (.start envelope)
  | _ => world

variable (externals : Externals)

def step (world : World) : Action → World
  | .accept listenPort rawStreamId =>
    world.setRegistry (world.runtime.registry.accept listenPort rawStreamId).2
  | .transition key target =>
    match world.runtime.registry.transition key target with
    | .ok registry => world.setRegistry registry
    | .error _ => world
  | .disconnect key =>
    match world.runtime.registry.disconnect key with
    | .ok registry => world.setRegistry registry
    | .error _ => world
  | .ingest thread key ptsNs accessUnit =>
    match world.runtime.registry.ingestH264BeforeDecode externals.timestamp key ptsNs
        accessUnit with
    | .ok (envelope, registry) => (world.setRegistry registry).begin thread envelope
    | .error _ => world
  | .submit thread envelope => world.begin thread envelope
  | .advance thread now =>
    let (stage, runtime) := (world.threads thread).advance externals world.runtime now
    { runtime, threads := Function.update world.threads thread stage }

/-- The envelope an action hands to a thread. -/
def starting (world : World) : Action → Option EncodedFrameEnvelope
  | .ingest _ key ptsNs accessUnit =>
    (world.runtime.registry.ingestH264BeforeDecode externals.timestamp key ptsNs
      accessUnit).toOption.map Prod.fst
  | .submit _ envelope => some envelope
  | _ => none

/-- The envelope and the bytes an action is going to validate. -/
def completing (world : World) : Action → Option (EncodedFrameEnvelope × Completed)
  | .advance thread _ =>
    match world.threads thread with
    | .completed envelope _ found => some (envelope, found)
    | _ => none
  | _ => none

/-- The envelope and the manifest an action is going to install. -/
def installing (world : World) : Action → Option (EncodedFrameEnvelope × Prepared)
  | .advance thread _ =>
    match world.threads thread with
    | .prepared envelope _ ready => some (envelope, ready)
    | _ => none
  | _ => none

/-- The envelope whose frame an action is going to handle. -/
def framing (world : World) : Action → Option EncodedFrameEnvelope
  | .advance thread _ =>
    match world.threads thread with
    | .chunks envelope [] => some envelope
    | _ => none
  | _ => none

/-- The step an action broadcasts, with the envelope that is handled. -/
def broadcast (world : World) (action : Action) :
    Option (EncodedFrameEnvelope × SynchronizedDatasetStep) :=
  match world.framing action with
  | none => none
  | some envelope =>
    match (processFrame externals world.runtime envelope).1 with
    | .ok (some step) => some (envelope, step)
    | _ => none

/-- The manifest in force for a stream's session. -/
def manifestOf (world : World) (key : StreamKey) : Option SessionManifestV1 :=
  (world.runtime.session key.sessionId).manifest

/-- Nothing has been processed yet and every thread is idle. -/
def initial (runtime : ReceiverRuntime) : World := ⟨runtime, fun _ => .idle (.ok ())⟩

theorem step_advance (world : World) (thread now : Nat) :
    world.step externals (.advance thread now) =
      ⟨((world.threads thread).advance externals world.runtime now).2,
        Function.update world.threads thread
          ((world.threads thread).advance externals world.runtime now).1⟩ := rfl

@[simp] theorem begin_runtime (world : World) (thread : Nat)
    (envelope : EncodedFrameEnvelope) : (world.begin thread envelope).runtime = world.runtime := by
  unfold begin
  split <;> rfl

/-- Beginning an envelope leaves every thread where it is, except that the
chosen one may start. -/
theorem begin_threads (world : World) (thread other : Nat) (envelope : EncodedFrameEnvelope) :
    (world.begin thread envelope).threads other = world.threads other ∨
      (world.begin thread envelope).threads other = .start envelope := by
  unfold begin
  split
  · by_cases hsame : other = thread
    · rw [hsame]
      exact Or.inr (Function.update_self _ _ _)
    · exact Or.inl (Function.update_of_ne hsame _ _)
  · exact Or.inl rfl

/-- Every action but a thread's own leaves all sessions as they are and can
only make idle threads start. -/
theorem step_outside (world : World) (action : Action)
    (houtside : ∀ thread now, action ≠ .advance thread now) :
    (world.step externals action).runtime.sessions = world.runtime.sessions ∧
    ∀ thread, (world.step externals action).threads thread = world.threads thread ∨
      ∃ envelope ∈ world.starting externals action,
        (world.step externals action).threads thread = .start envelope := by
  cases action with
  | accept listenPort rawStreamId => exact ⟨rfl, fun _ => Or.inl rfl⟩
  | transition key target =>
    unfold step
    dsimp only
    split
    · exact ⟨rfl, fun _ => Or.inl rfl⟩
    · exact ⟨rfl, fun _ => Or.inl rfl⟩
  | disconnect key =>
    unfold step
    dsimp only
    split
    · exact ⟨rfl, fun _ => Or.inl rfl⟩
    · exact ⟨rfl, fun _ => Or.inl rfl⟩
  | ingest thread key ptsNs accessUnit =>
    unfold step
    dsimp only
    split
    · rename_i envelope registry hingest
      refine ⟨by rw [begin_runtime]; rfl, ?_⟩
      intro other
      rcases begin_threads (world.setRegistry registry) thread other envelope with
        hsame | hstart
      · exact Or.inl hsame
      · refine Or.inr ⟨envelope, ?_, hstart⟩
        rw [starting, hingest]
        rfl
    · exact ⟨rfl, fun _ => Or.inl rfl⟩
  | submit thread envelope =>
    refine ⟨by rw [step, begin_runtime], ?_⟩
    intro other
    rcases begin_threads world thread other envelope with hsame | hstart
    · exact Or.inl hsame
    · exact Or.inr ⟨envelope, rfl, hstart⟩
  | advance thread now => exact absurd rfl (houtside thread now)

end World

/-! ## A thread on its own -/

/-- One thread goes from `start` to `finish` with nothing happening in
between. -/
def Runs (start finish : Stage × ReceiverRuntime) : Prop :=
  ∃ readings : List Nat, run (fun here now => here.1.advance externals here.2 now) start readings =
    finish

namespace Runs

variable {externals : Externals} {runtime : ReceiverRuntime}

theorem refl (here : Stage × ReceiverRuntime) : Runs externals here here := ⟨[], rfl⟩

theorem head {stage : Stage} {finish : Stage × ReceiverRuntime} (now : Nat)
    (h : Runs externals (stage.advance externals runtime now) finish) :
    Runs externals (stage, runtime) finish := by
  obtain ⟨readings, hreadings⟩ := h
  exact ⟨now :: readings, hreadings⟩

theorem trans {start middle finish : Stage × ReceiverRuntime}
    (hfirst : Runs externals start middle) (hsecond : Runs externals middle finish) :
    Runs externals start finish := by
  obtain ⟨first, rfl⟩ := hfirst
  obtain ⟨second, rfl⟩ := hsecond
  exact ⟨first ++ second, run_append _ _ _ _⟩

/-- The stage and the state a call leaves behind that either fails, which
ends `process`, or goes on with `next`. -/
def settle (next : Stage) (outcome : Except RuntimeError Unit × ReceiverRuntime) :
    Stage × ReceiverRuntime :=
  match outcome with
  | (.error error, runtime) => (.idle (.error error), runtime)
  | (.ok (), runtime) => (next, runtime)

theorem promoting (envelope : EncodedFrameEnvelope) (remaining : List (List UInt8))
    (rest : List (StreamKey × BootstrapState)) :
    Runs externals (.promoting envelope remaining rest, runtime)
      (settle (.chunks envelope remaining) (promoteAll runtime rest)) := by
  induction rest generalizing runtime with
  | nil => exact head 0 (refl _)
  | cons promotion rest ih =>
    refine head 0 ?_
    rw [Stage.advance, promoteAll]
    rcases promote runtime promotion with ⟨error | ⟨⟩, next⟩
    · exact refl _
    · exact ih

theorem message (envelope : EncodedFrameEnvelope) (payload : List UInt8)
    (remaining : List (List UInt8)) (now : Nat) :
    Runs externals (.chunks envelope (payload :: remaining), runtime)
      (settle (.chunks envelope remaining)
        (processManifestChunk externals runtime envelope.key.sessionId payload now)) := by
  refine head now ?_
  rw [Stage.advance, processManifestChunk]
  rcases collectMessage externals runtime envelope.key.sessionId payload now with
    ⟨error | _ | found, next⟩
  · exact refl _
  · exact refl _
  · refine head 0 ?_
    dsimp only
    rw [Stage.advance]
    cases prepare externals next envelope.key.sessionId found with
    | error error => exact refl _
    | ok ready => exact head 0 (promoting envelope remaining (promotions ready.snapshots))

theorem messages (envelope : EncodedFrameEnvelope) (readings : List (List UInt8 × Nat)) :
    Runs externals (.chunks envelope (readings.map Prod.fst), runtime)
      (settle (.chunks envelope [])
        (processManifestChunks externals runtime envelope.key.sessionId readings)) := by
  induction readings generalizing runtime with
  | nil => exact refl _
  | cons reading readings ih =>
    obtain ⟨payload, now⟩ := reading
    refine (message envelope payload (readings.map Prod.fst) now).trans ?_
    rw [processManifestChunks]
    rcases processManifestChunk externals runtime envelope.key.sessionId payload now with
      ⟨error | ⟨⟩, next⟩
    · exact refl _
    · exact ih

/-- A thread that runs alone computes `process`. -/
theorem process (envelope : EncodedFrameEnvelope) (clock : Nat → Nat) :
    Runs externals (.start envelope, runtime)
      (.idle ((Receiver.process externals runtime envelope clock).1.map fun _ => ()),
        (Receiver.process externals runtime envelope clock).2) := by
  let readings := (manifestPayloads envelope).zipIdx.map fun message =>
    (message.1, clock message.2)
  have hpayloads : readings.map Prod.fst = manifestPayloads envelope := by
    rw [List.map_map]
    exact List.zipIdx_map_fst 0 (manifestPayloads envelope)
  have hmessages : Runs externals (.chunks envelope (manifestPayloads envelope), runtime)
      (settle (.chunks envelope [])
        (processManifestChunks externals runtime envelope.key.sessionId readings)) :=
    hpayloads ▸ messages envelope readings
  refine hmessages.trans ?_
  rcases hchunks : processManifestChunks externals runtime envelope.key.sessionId readings with
    ⟨error | ⟨⟩, next⟩
  · rw [process_of_error hchunks]
    exact refl _
  · rw [process_of_ok hchunks]
    refine head 0 ?_
    rw [Stage.advance]
    rcases processFrame externals next envelope with ⟨error | answer, last⟩
    · exact refl _
    · exact refl _

/-- In the world, a thread that runs alone changes its own stage and the
runtime. -/
theorem world {world : World} {thread : Nat} {finish : Stage × ReceiverRuntime}
    (h : Runs externals (world.threads thread, world.runtime) finish) :
    ∃ readings : List Nat,
      run (World.step externals) world (readings.map (.advance thread ·)) =
        ⟨finish.2, Function.update world.threads thread finish.1⟩ := by
  obtain ⟨readings, rfl⟩ := h
  refine ⟨readings, ?_⟩
  induction readings generalizing world with
  | nil => rw [List.map_nil, run_nil, run_nil, Function.update_eq_self]
  | cons now readings ih =>
    rw [List.map_cons, run_cons, World.step_advance, ih]
    simp only [run_cons, Function.update_self, Function.update_idem]

end Runs

/-- An idle thread that takes an envelope and is not interrupted computes
`process`. -/
theorem run_process (world : World) (thread : Nat) {last : Except RuntimeError Unit}
    (hidle : world.threads thread = .idle last) (envelope : EncodedFrameEnvelope)
    (clock : Nat → Nat) :
    ∃ readings : List Nat,
      run (World.step externals) world
          (.submit thread envelope :: readings.map (.advance thread ·)) =
        ⟨(process externals world.runtime envelope clock).2,
          Function.update world.threads thread
            (.idle ((process externals world.runtime envelope clock).1.map fun _ => ()))⟩ := by
  have hstart : (world.step externals (.submit thread envelope)) =
      world.setThread thread (.start envelope) := by
    rw [World.step, World.begin, hidle]
  have hthread : (world.setThread thread (.start envelope)).threads thread = .start envelope :=
    Function.update_self _ _ _
  have halone : Runs externals ((world.setThread thread (.start envelope)).threads thread,
      (world.setThread thread (.start envelope)).runtime) _ :=
    hthread ▸ Runs.process envelope clock
  obtain ⟨readings, hreadings⟩ := halone.world
  refine ⟨readings, ?_⟩
  rw [run_cons, hstart, hreadings]
  simp only [World.setThread, Function.update_idem]

/-! ## Facts about installed manifests -/

/-- `P` holds of the manifest and the synchronizer of every session, and of
those a thread is about to install. -/
structure Installed (P : Uuid → SessionManifestV1 → StepSynchronizer → Prop) (world : World) :
    Prop where
  inForce : ∀ (id : Uuid) (session : SessionRuntime) (manifest : SessionManifestV1)
    (synchronizer : StepSynchronizer), world.runtime.sessions[id]? = some session →
    session.manifest = some manifest → session.synchronizer = some synchronizer →
    P id manifest synchronizer
  waiting : ∀ (thread : Nat) (envelope : EncodedFrameEnvelope)
    (remaining : List (List UInt8)) (ready : Prepared),
    world.threads thread = .prepared envelope remaining ready →
    P envelope.key.sessionId ready.manifest ready.synchronizer

namespace Installed

variable {P : Uuid → SessionManifestV1 → StepSynchronizer → Prop} {world : World}

theorem initial {runtime : ReceiverRuntime} (hempty : runtime.sessions = ∅) :
    Installed P (World.initial runtime) := by
  refine ⟨?_, ?_⟩
  · intro id session manifest synchronizer hsession
    change runtime.sessions[id]? = some session at hsession
    simp [hempty] at hsession
  · intro thread envelope remaining ready hstage
    cases hstage

/-- A step that moves one thread: the sessions afterwards and the thread's
new stage have to satisfy `P`. -/
theorem of_parts (h : Installed P world) {runtime : ReceiverRuntime} {thread : Nat}
    {stage : Stage}
    (hinForce : ∀ (id : Uuid) (session : SessionRuntime) (manifest : SessionManifestV1)
      (synchronizer : StepSynchronizer), runtime.sessions[id]? = some session →
      session.manifest = some manifest → session.synchronizer = some synchronizer →
      P id manifest synchronizer)
    (hstage : ∀ envelope remaining ready, stage = .prepared envelope remaining ready →
      P envelope.key.sessionId ready.manifest ready.synchronizer) :
    Installed P ⟨runtime, Function.update world.threads thread stage⟩ := by
  refine ⟨hinForce, ?_⟩
  intro other envelope remaining ready hprepared
  change Function.update world.threads thread stage other = _ at hprepared
  by_cases hsame : other = thread
  · rw [hsame, Function.update_self] at hprepared
    exact hstage envelope remaining ready hprepared
  · rw [Function.update_of_ne hsame] at hprepared
    exact h.waiting other envelope remaining ready hprepared

/-- Replacing a session by one whose manifest and synchronizer satisfy `P`. -/
theorem inForce_setSession (h : Installed P world) {id : Uuid} {next : SessionRuntime}
    (hnext : ∀ manifest synchronizer, next.manifest = some manifest →
      next.synchronizer = some synchronizer → P id manifest synchronizer)
    (other : Uuid) (session : SessionRuntime) (manifest : SessionManifestV1)
    (synchronizer : StepSynchronizer)
    (hsession : (world.runtime.setSession id next).sessions[other]? = some session)
    (hmanifest : session.manifest = some manifest)
    (hsynchronizer : session.synchronizer = some synchronizer) :
    P other manifest synchronizer := by
  rw [setSession_sessions] at hsession
  split at hsession
  · -- the session that was replaced
    rename_i heq
    subst heq
    cases hsession
    exact hnext manifest synchronizer hmanifest hsynchronizer
  · exact h.inForce other session manifest synchronizer hsession hmanifest hsynchronizer

/-- Collecting a chunk keeps every session's manifest and synchronizer. -/
theorem inForce_collectMessage (h : Installed P world) (externals : Externals)
    (sessionId : Uuid) (payload : List UInt8) (now : Nat) (id : Uuid)
    (session : SessionRuntime) (manifest : SessionManifestV1) (synchronizer : StepSynchronizer)
    (hsession : (collectMessage externals world.runtime sessionId payload now).2.sessions[id]? =
      some session)
    (hmanifest : session.manifest = some manifest)
    (hsynchronizer : session.synchronizer = some synchronizer) :
    P id manifest synchronizer := by
  rcases collectMessage_cases externals world.runtime sessionId payload now with
    hrefused | ⟨chunk, _, _, hcollected⟩
  · rw [hrefused] at hsession
    exact h.inForce id session manifest synchronizer hsession hmanifest hsynchronizer
  · rw [hcollected] at hsession
    refine h.inForce_setSession ?_ id session manifest synchronizer hsession hmanifest
      hsynchronizer
    intro kept keptSynchronizer hkept hkeptSynchronizer
    obtain ⟨hsame, _, hsameSynchronizer⟩ := collectChunk_keeps externals
      (world.runtime.session sessionId) chunk now world.runtime.manifestTimeout
    rw [hsame] at hkept
    rw [hsameSynchronizer] at hkeptSynchronizer
    -- a session that is not there yet is the default one and has no manifest
    unfold ReceiverRuntime.session at hkept hkeptSynchronizer
    cases hthere : world.runtime.sessions[sessionId]? with
    | none =>
      rw [hthere] at hkept
      cases hkept
    | some before =>
      rw [hthere] at hkept hkeptSynchronizer
      exact h.inForce sessionId before kept keptSynchronizer hthere hkept hkeptSynchronizer

section Rule

variable {externals : Externals} {cond : World → Action → Prop}
  (hprepare : ∀ (world : World) (action : Action) (envelope : EncodedFrameEnvelope)
    (found : Completed) (ready : Prepared), cond world action →
    world.completing action = some (envelope, found) →
    prepare externals world.runtime envelope.key.sessionId found = .ok ready →
    P envelope.key.sessionId ready.manifest ready.synchronizer)
  (hframe : ∀ (world : World) (action : Action) (envelope : EncodedFrameEnvelope)
    (session : SessionRuntime) (manifest : SessionManifestV1)
    (synchronizer next : StepSynchronizer), cond world action →
    world.framing action = some envelope →
    world.runtime.sessions[envelope.key.sessionId]? = some session →
    session.manifest = some manifest →
    (synchronizer.pushSecondary (frameOf envelope) = .ok next ∨
      ∃ packet, next =
        (synchronizer.anchorStep externals (frameOf envelope) packet true).2) →
    P envelope.key.sessionId manifest synchronizer →
    P envelope.key.sessionId manifest next)

include hframe in
/-- The frame section keeps `P`. -/
theorem inForce_processFrame (h : Installed P world) {action : Action}
    (hcond : cond world action) {envelope : EncodedFrameEnvelope}
    (hframing : world.framing action = some envelope) (id : Uuid)
    (session : SessionRuntime) (manifest : SessionManifestV1) (synchronizer : StepSynchronizer)
    (hsession : (processFrame externals world.runtime envelope).2.sessions[id]? = some session)
    (hmanifest : session.manifest = some manifest)
    (hsynchronizer : session.synchronizer = some synchronizer) :
    P id manifest synchronizer := by
  rcases processFrame_cases externals world.runtime envelope with
    hnothing | ⟨before, current, held, hbefore, hcurrent, hheld, hframes⟩
  · rw [hnothing] at hsession
    exact h.inForce id session manifest synchronizer hsession hmanifest hsynchronizer
  · rw [hframes] at hsession
    refine h.inForce_setSession ?_ id session manifest synchronizer hsession hmanifest
      hsynchronizer
    intro kept next hkept hnext
    have hinForce := h.inForce _ before current held hbefore hcurrent hheld
    obtain ⟨hsame, _, _, _, hcases⟩ := session_processFrame_cases externals before current held
      envelope (Prod.eta _).symm
    obtain rfl : current = kept := by
      rw [hsame, hcurrent] at hkept
      exact Option.some.inj hkept
    rcases hcases with ⟨hunchanged, _⟩ | ⟨_, _, pushed, hpushed, hset⟩ |
      ⟨_, packet, hset, _⟩
    · rw [hunchanged, hheld] at hnext
      rw [← Option.some.inj hnext]
      exact hinForce
    · rw [hset] at hnext
      obtain rfl := Option.some.inj hnext
      exact hframe world action envelope before current held pushed hcond hframing hbefore
        hcurrent (Or.inl hpushed) hinForce
    · rw [hset] at hnext
      obtain rfl := Option.some.inj hnext
      exact hframe world action envelope before current held _ hcond hframing hbefore
        hcurrent (Or.inr ⟨packet, rfl⟩) hinForce

include hprepare hframe in
theorem advance (h : Installed P world) {thread now : Nat}
    (hcond : cond world (.advance thread now)) :
    Installed P (world.step externals (.advance thread now)) := by
  rw [World.step_advance]
  refine h.of_parts ?_ ?_
  · rcases (world.threads thread).advance_runtime externals world.runtime now with
      hnext | ⟨envelope, hstage, hnext⟩ | ⟨envelope, payload, remaining, _, hnext⟩ |
      ⟨envelope, remaining, ready, hstage, hnext⟩ | ⟨promotion, hnext⟩
    · rw [hnext]
      exact h.inForce
    · rw [hnext]
      exact h.inForce_processFrame hframe hcond (by rw [World.framing, hstage])
    · rw [hnext]
      exact h.inForce_collectMessage externals _ payload now
    · rw [hnext]
      refine h.inForce_setSession ?_
      intro manifest synchronizer hmanifest hsynchronizer
      cases hmanifest
      cases hsynchronizer
      exact h.waiting thread envelope remaining ready hstage
    · rw [hnext, promote_sessions]
      exact h.inForce
  · intro envelope remaining ready hprepared
    obtain ⟨found, hstage, hready⟩ := Stage.advance_eq_prepared hprepared
    exact hprepare world (.advance thread now) envelope found ready hcond
      (by rw [World.completing, hstage]) hready

include hprepare hframe in
/-- The rule for installed manifests. What is validated has to satisfy `P`,
and handling a frame has to keep it; nothing else can break it. -/
theorem step (world : World) (action : Action) (h : Installed P world)
    (hcond : cond world action) : Installed P (world.step externals action) := by
  by_cases hadvance : ∃ thread now, action = .advance thread now
  · obtain ⟨thread, now, rfl⟩ := hadvance
    exact h.advance hprepare hframe hcond
  · obtain ⟨hsessions, hthreads⟩ := World.step_outside externals world action
      (fun thread now heq => hadvance ⟨thread, now, heq⟩)
    refine ⟨?_, ?_⟩
    · rw [hsessions]
      exact h.inForce
    · intro thread envelope remaining ready hprepared
      rcases hthreads thread with hsame | ⟨started, _, hstart⟩
      · rw [hsame] at hprepared
        exact h.waiting thread envelope remaining ready hprepared
      · rw [hstart] at hprepared
        cases hprepared

end Rule

end Installed

end RobotMulticam.Receiver
