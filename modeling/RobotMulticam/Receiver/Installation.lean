import RobotMulticam.Receiver.Steps

/-!
# Installing manifests

A manifest is installed in three sections: its chunks complete, the bytes
are validated, and the session's manifest is replaced. Other threads run in
between, and each section looks at its own part of the data: the first
compares the revision in the chunk header with the manifest in force, the
second validates the manifest in the bytes, the third compares nothing.

The results say that the manifest in force still only moves to greater
revisions if the threads of a session take turns, and under which condition a
manifest is installed only by the stream of the anchor it names.
-/

namespace RobotMulticam.Receiver

open RobotMulticam.Lib
open RobotMulticam.Protocol
open RobotMulticam.Codec
open RobotMulticam.Identity

/-- The thread an action runs on. -/
def Action.thread : Action → Option Nat
  | .ingest thread _ _ _ | .submit thread _ | .advance thread _ => some thread
  | _ => none

namespace World

variable {world : World} {action : Action} {envelope : EncodedFrameEnvelope}

/-- A thread holds a prepared manifest because it did before, or because its
completed bytes were just validated. -/
theorem prepared_step {externals : Externals} {thread : Nat} {remaining : List (List UInt8)}
    {ready : Prepared}
    (h : (world.step externals action).threads thread = .prepared envelope remaining ready) :
    world.threads thread = .prepared envelope remaining ready ∨
    ∃ found, world.completing action = some (envelope, found) ∧
      prepare externals world.runtime envelope.key.sessionId found = .ok ready := by
  by_cases hadvance : ∃ other now, action = .advance other now
  · obtain ⟨other, now, rfl⟩ := hadvance
    rw [step_advance] at h
    change Function.update world.threads other _ thread = _ at h
    by_cases hsame : thread = other
    · subst hsame
      rw [Function.update_self] at h
      obtain ⟨found, hstage, hready⟩ := Stage.advance_eq_prepared h
      exact Or.inr ⟨found, by rw [completing, hstage], hready⟩
    · rw [Function.update_of_ne hsame] at h
      exact Or.inl h
  · obtain ⟨_, hthreads⟩ := step_outside externals world action
      (fun other now heq => hadvance ⟨other, now, heq⟩)
    rcases hthreads thread with hkept | ⟨started, _, hstart⟩
    · exact Or.inl (hkept ▸ h)
    · rw [hstart] at h
      cases h

theorem threads_step_of_ne {externals : Externals} {thread : Nat}
    (h : action.thread ≠ some thread) :
    (world.step externals action).threads thread = world.threads thread := by
  have hbegin : ∀ (start : World) (other : Nat) (envelope : EncodedFrameEnvelope),
      other ≠ thread → (start.begin other envelope).threads thread = start.threads thread := by
    intro start other envelope hne
    unfold begin
    split
    · exact Function.update_of_ne hne.symm _ _
    · rfl
  unfold step
  split
  · rfl
  · split
    · rfl
    · rfl
  · split
    · rfl
    · rfl
  · split
    · exact hbegin _ _ _ (fun heq => h (congrArg some heq))
    · rfl
  · exact hbegin _ _ _ (fun heq => h (congrArg some heq))
  · exact Function.update_of_ne (fun heq => h (congrArg some heq.symm)) _ _

theorem installing_eq_some {ready : Prepared}
    (h : world.installing action = some (envelope, ready)) :
    ∃ thread remaining, world.threads thread = .prepared envelope remaining ready := by
  unfold installing at h
  split at h
  · split at h
    · rename_i hstage
      cases h
      exact ⟨_, _, hstage⟩
    · cases h
  · cases h

/-- The manifest in force and its bytes change by an installation only. -/
theorem manifest_step (externals : Externals) (world : World) (action : Action) (id : Uuid) :
    (((world.step externals action).runtime.session id).manifest =
        (world.runtime.session id).manifest ∧
      ((world.step externals action).runtime.session id).manifestBytes =
        (world.runtime.session id).manifestBytes) ∨
    ∃ envelope ready, world.installing action = some (envelope, ready) ∧
      envelope.key.sessionId = id ∧
      ((world.step externals action).runtime.session id).manifest = some ready.manifest ∧
      ((world.step externals action).runtime.session id).manifestBytes = some ready.bytes := by
  by_cases hadvance : ∃ thread now, action = .advance thread now
  · obtain ⟨thread, now, rfl⟩ := hadvance
    rw [step_advance]
    rcases Stage.advance_manifest externals world.runtime now (world.threads thread) id with
      hkept | ⟨envelope, remaining, ready, hstage, hid, hinstalled⟩
    · exact Or.inl hkept
    · exact Or.inr ⟨envelope, ready, by rw [installing, hstage], hid, hinstalled⟩
  · obtain ⟨hsessions, _⟩ := step_outside externals world action
      (fun thread now heq => hadvance ⟨thread, now, heq⟩)
    refine Or.inl ?_
    rw [ReceiverRuntime.session, hsessions]
    exact ⟨rfl, rfl⟩

/-- Streams get their identity when they are accepted. -/
theorem registry_step (externals : Externals) (world : World) (action : Action) :
    world.runtime.registry.Keeps (world.step externals action).runtime.registry ∨
    ∃ listenPort rawStreamId, action = .accept listenPort rawStreamId ∧
      (world.step externals action).runtime.registry =
        (world.runtime.registry.accept listenPort rawStreamId).2 := by
  cases action with
  | accept listenPort rawStreamId => exact Or.inr ⟨listenPort, rawStreamId, rfl, rfl⟩
  | transition key target =>
    refine Or.inl ?_
    unfold step
    dsimp only
    split
    · rename_i registry hregistry
      exact ReceiverRegistry.transition_keeps hregistry
    · exact .refl _
  | disconnect key =>
    refine Or.inl ?_
    unfold step
    dsimp only
    split
    · rename_i registry hregistry
      exact ReceiverRegistry.disconnect_keeps hregistry
    · exact .refl _
  | ingest thread key ptsNs accessUnit =>
    refine Or.inl ?_
    unfold step
    dsimp only
    split
    · rename_i envelope registry hingest
      rw [begin_runtime]
      exact (ReceiverRegistry.ingestH264BeforeDecode_eq_ok hingest).2.1
    · exact .refl _
  | submit thread envelope =>
    refine Or.inl ?_
    rw [step, begin_runtime]
    exact .refl _
  | advance thread now =>
    exact Or.inl (Stage.advance_registry externals world.runtime now (world.threads thread))

end World

/-! ## Bytes -/

/-- The bytes of a manifest that is in force, or waits to be, decode to it. -/
structure BytesDecode (externals : Externals) (world : World) : Prop where
  inForce : ∀ (id : Uuid) (bytes : List UInt8) (manifest : SessionManifestV1),
    (world.runtime.session id).manifestBytes = some bytes →
    (world.runtime.session id).manifest = some manifest →
    externals.manifest.decode bytes = some manifest
  waiting : ∀ (thread : Nat) (envelope : EncodedFrameEnvelope) (remaining : List (List UInt8))
    (ready : Prepared), world.threads thread = .prepared envelope remaining ready →
    externals.manifest.decode ready.bytes = some ready.manifest

variable {runtime : ReceiverRuntime} {externals : Externals}

theorem BytesDecode.initial (externals : Externals) (hempty : runtime.sessions = ∅) :
    BytesDecode externals (World.initial runtime) where
  inForce id bytes manifest hbytes := by
    rw [World.initial, ReceiverRuntime.session, hempty] at hbytes
    cases hbytes
  waiting thread envelope remaining ready hprepared := by cases hprepared

theorem BytesDecode.step {world : World} (h : BytesDecode externals world) (action : Action) :
    BytesDecode externals (world.step externals action) where
  inForce id bytes manifest hbytes hmanifest := by
    rcases World.manifest_step externals world action id with
      ⟨hkept, hkeptBytes⟩ | ⟨envelope, ready, hinstalling, _, hinstalled, hinstalledBytes⟩
    · exact h.inForce id bytes manifest (hkeptBytes ▸ hbytes) (hkept ▸ hmanifest)
    · obtain ⟨thread, remaining, hstage⟩ := World.installing_eq_some hinstalling
      rw [hinstalledBytes] at hbytes
      rw [hinstalled] at hmanifest
      cases hbytes
      cases hmanifest
      exact h.waiting thread envelope remaining ready hstage
  waiting thread envelope remaining ready hprepared := by
    rcases World.prepared_step hprepared with hbefore | ⟨found, _, hready⟩
    · exact h.waiting thread envelope remaining ready hbefore
    · obtain ⟨hvalid, _, _, hbytes, _⟩ := prepare_eq_ok.mp hready
      rw [hbytes]
      exact (validateManifest_eq_ok hvalid).1

/-! ## Revisions -/

/-- The session for which a thread holds a manifest: its chunks are complete
and the manifest is not installed yet. -/
def Stage.heldFor : Stage → Option Uuid
  | .completed envelope _ _ | .prepared envelope _ _ => some envelope.key.sessionId
  | _ => none

/-- Completed bytes hold a manifest of at least the revision its chunks
announced. -/
def AsAnnounced (externals : Externals) (world : World) (action : Action) : Prop :=
  ∀ complete ∈ world.completing action, ∀ manifest ∈ externals.manifest.decode complete.2.bytes,
    complete.2.revision ≤ manifest.manifestRevision

/-- A thread installs its manifest while no other one holds one for the same
session. -/
def InstallsAlone (world : World) (action : Action) : Prop :=
  ∀ next ∈ world.installing action, ∀ other, action.thread ≠ some other →
    (world.threads other).heldFor ≠ some next.1.key.sessionId

/-- The threads of a session take turns: none installs between the time when
another one completes its chunks and the time when that one installs. -/
def TakesTurns (externals : Externals) (world : World) (action : Action) : Prop :=
  AsAnnounced externals world action ∧ InstallsAlone world action

/-- A manifest is replaced only by one of strictly greater revision. -/
def ReplacesOlder (world : World) (action : Action) : Prop :=
  ∀ next ∈ world.installing action, ∀ current ∈ world.manifestOf next.1.key,
    current.manifestRevision < next.2.manifest.manifestRevision

instance (externals : Externals) (world : World) (action : Action) :
    Decidable (AsAnnounced externals world action) :=
  inferInstanceAs (Decidable (∀ complete ∈ world.completing action,
    ∀ manifest ∈ externals.manifest.decode complete.2.bytes, _))

instance (world : World) (action : Action) : Decidable (ReplacesOlder world action) :=
  inferInstanceAs (Decidable (∀ next ∈ world.installing action,
    ∀ current ∈ world.manifestOf next.1.key, _))

/-- What a thread holds is newer than the manifest in force. -/
def HoldsNewer (runtime : ReceiverRuntime) : Stage → Prop
  | .completed envelope _ found =>
    ∀ current ∈ (runtime.session envelope.key.sessionId).manifest,
      current.manifestRevision < found.revision
  | .prepared envelope _ ready =>
    ∀ current ∈ (runtime.session envelope.key.sessionId).manifest,
      current.manifestRevision < ready.manifest.manifestRevision
  | _ => True

/-- It stays so as long as the manifest of its session does. -/
theorem HoldsNewer.of_manifest_eq {next : ReceiverRuntime} {stage : Stage}
    (h : HoldsNewer runtime stage)
    (hkept : ∀ id ∈ stage.heldFor, (next.session id).manifest = (runtime.session id).manifest) :
    HoldsNewer next stage := by
  cases stage with
  | completed envelope remaining found =>
    intro current hcurrent
    exact h current (hkept _ rfl ▸ hcurrent)
  | prepared envelope remaining ready =>
    intro current hcurrent
    exact h current (hkept _ rfl ▸ hcurrent)
  | _ => trivial

/-- A thread gets to hold something newer: chunks that are not newer than the
manifest in force are skipped, and the bytes are as new as their chunks. -/
theorem holdsNewer_advance {now : Nat} {stage : Stage} (h : HoldsNewer runtime stage)
    (hannounced : ∀ envelope remaining found, stage = .completed envelope remaining found →
      ∀ manifest ∈ externals.manifest.decode found.bytes,
        found.revision ≤ manifest.manifestRevision) :
    HoldsNewer (stage.advance externals runtime now).2 (stage.advance externals runtime now).1 := by
  unfold Stage.advance
  split
  · trivial
  · split
    · trivial
    · trivial
  · split
    · trivial
    · trivial
    · rename_i hfound
      exact collectMessage_newer hfound
  · split
    · trivial
    · rename_i envelope remaining found _ ready hready
      obtain ⟨hvalid, _⟩ := prepare_eq_ok.mp hready
      intro current hcurrent
      exact UInt64.lt_of_lt_of_le (h current hcurrent)
        (hannounced _ _ _ rfl _ (validateManifest_eq_ok hvalid).1)
  · trivial
  · trivial
  · split
    · trivial
    · trivial

/-- Other threads keep what they hold, because nothing is installed for their
session meanwhile. -/
theorem holdsNewer_step (world : World) (action : Action)
    (h : ∀ thread, HoldsNewer world.runtime (world.threads thread))
    (hcond : TakesTurns externals world action) (thread : Nat) :
    HoldsNewer (world.step externals action).runtime
      ((world.step externals action).threads thread) := by
  by_cases hadvance : ∃ other now, action = .advance other now
  · obtain ⟨other, now, rfl⟩ := hadvance
    rw [World.step_advance]
    by_cases hsame : thread = other
    · subst hsame
      dsimp only
      rw [Function.update_self]
      refine holdsNewer_advance (h thread) ?_
      intro envelope remaining found hstage
      exact hcond.1 (envelope, found) (by rw [World.completing, hstage]; rfl)
    · dsimp only
      rw [Function.update_of_ne hsame]
      refine (h thread).of_manifest_eq ?_
      intro id hid
      rcases Stage.advance_manifest externals world.runtime now (world.threads other) id with
        ⟨hkept, _⟩ | ⟨envelope, remaining, ready, hstage, rfl, _⟩
      · exact hkept
      · exact absurd hid (hcond.2 (envelope, ready) (by rw [World.installing, hstage]; rfl) thread
          (fun heq => hsame (Option.some_inj.mp heq).symm))
  · obtain ⟨hsessions, hthreads⟩ := World.step_outside externals world action
      (fun other now heq => hadvance ⟨other, now, heq⟩)
    rcases hthreads thread with hkept | ⟨started, _, hstart⟩
    · rw [hkept]
      refine (h thread).of_manifest_eq ?_
      intro id _
      rw [ReceiverRuntime.session, hsessions]
      rfl
    · rw [hstart]
      trivial

theorem replacesOlder_of_holdsNewer (world : World) (action : Action)
    (h : ∀ thread, HoldsNewer world.runtime (world.threads thread))
    (_ : TakesTurns externals world action) : ReplacesOlder world action := by
  intro next hnext current hcurrent
  obtain ⟨thread, remaining, hstage⟩ := World.installing_eq_some hnext
  have hnewer := h thread
  rw [hstage] at hnewer
  exact hnewer current hcurrent

/-- One step keeps a session's manifest at its revision or moves it up. -/
theorem revision_step {id : Uuid} {revision : UInt64} (world : World) (action : Action)
    (h : ∃ current ∈ (world.runtime.session id).manifest, revision ≤ current.manifestRevision)
    (hreplaces : ReplacesOlder world action) :
    ∃ current ∈ ((world.step externals action).runtime.session id).manifest,
      revision ≤ current.manifestRevision := by
  obtain ⟨current, hcurrent, hle⟩ := h
  rcases World.manifest_step externals world action id with
    ⟨hkept, _⟩ | ⟨envelope, ready, hinstalling, hid, hinstalled, _⟩
  · exact ⟨current, hkept ▸ hcurrent, hle⟩
  · refine ⟨ready.manifest, hinstalled, ?_⟩
    subst hid
    have hlt := hreplaces (envelope, ready) hinstalling current hcurrent
    exact UInt64.le_trans hle (UInt64.le_of_lt hlt)

/-- Installed revisions never go backwards, in every interleaving in which
the bytes are as new as their chunks announce and no thread installs a
manifest between another thread's collection and installation for the same
session. -/
theorem revisions_never_go_back (externals : Externals) (runtime : ReceiverRuntime)
    (before later : List Action)
    (hmeets : Meets (World.step externals) (TakesTurns externals) (World.initial runtime)
      (before ++ later)) :
    Meets (World.step externals) ReplacesOlder (World.initial runtime) (before ++ later) ∧
    ∀ id, ∀ old ∈ ((run (World.step externals) (World.initial runtime) before).runtime.session
        id).manifest,
      ∃ current ∈ ((run (World.step externals) (World.initial runtime)
          (before ++ later)).runtime.session id).manifest,
        old.manifestRevision ≤ current.manifestRevision := by
  have hinitial : ∀ thread, HoldsNewer (World.initial runtime).runtime
      ((World.initial runtime).threads thread) := fun _ => trivial
  have hreplaces := meets_of_invariant holdsNewer_step replacesOlder_of_holdsNewer hinitial hmeets
  refine ⟨hreplaces, ?_⟩
  intro id old hold
  rw [run_append]
  exact run_invariant revision_step ⟨old, hold, UInt64.le_refl _⟩ (meets_append.mp hreplaces).2

/-- The session's two cameras under a revision. -/
def revisedManifest (revision : UInt64) : SessionManifestV1 :=
  { cellManifest [anchorCamera, sideCamera] with manifestRevision := revision }

/-- Two streams that may carry manifests connect. Thread 0 completes and
validates revision `first`, thread 1 does the same with `second`, and then
they install in the given order. -/
def twoInstallers (first second : UInt64) (order : List Nat) : List Action :=
  ([.accept 10000 anchorStream, .accept 10001 sideStreamAsAnchor,
    .ingest 0 ⟨cellSession, "anchor", 1⟩ (some 100)
      (cellUnit 100 (manifestMessages (revisedManifest first))),
    .ingest 1 ⟨cellSession, "side", 1⟩ (some 100)
      (cellUnit 100 (manifestMessages (revisedManifest second))),
    .advance 0 1, .advance 0 1, .advance 1 2, .advance 1 2] : List Action) ++
  order.map (Action.advance · 3)

def twoInstallersExternals : Externals :=
  cellExternals [] [revisedManifest 1, revisedManifest 2]

def HoldNothingFrom (count : Nat) (world : World) : Prop :=
  ∀ thread, count ≤ thread → (world.threads thread).heldFor = none

/-- Threads that no action runs on hold nothing. -/
theorem takesTurns_of_lt {actions : List Action} (count : Nat)
    (hmeets : Meets (World.step externals) (fun world action =>
        (∀ thread ∈ action.thread, thread < count) ∧ AsAnnounced externals world action ∧
        ∀ next ∈ world.installing action, ∀ other < count, action.thread ≠ some other →
          (world.threads other).heldFor ≠ some next.1.key.sessionId)
      (World.initial runtime) actions) :
    Meets (World.step externals) (TakesTurns externals) (World.initial runtime) actions := by
  have hinitial : HoldNothingFrom count (World.initial runtime) := fun _ _ => rfl
  refine meets_of_invariant ?_ ?_ hinitial hmeets
  · intro world action hidle ⟨hcount, _⟩ thread hthread
    rw [World.threads_step_of_ne]
    · exact hidle thread hthread
    · intro hruns
      exact absurd (hcount thread hruns) (Nat.not_lt.mpr hthread)
  · intro world action hidle ⟨_, hannounced, halone⟩
    refine ⟨hannounced, ?_⟩
    intro next hnext other hother
    rcases Nat.lt_or_ge other count with hlt | hge
    · exact halone next hnext other hlt hother
    · rw [hidle other hge]
      exact (Option.some_ne_none _).symm

/-- Two streams that may carry manifests connect, and thread 0 installs
revision 1. Then thread 1 installs revision 2. -/
def firstRevision : List Action :=
  [.accept 10000 anchorStream, .accept 10001 sideStreamAsAnchor,
    .ingest 0 ⟨cellSession, "anchor", 1⟩ (some 100)
      (cellUnit 100 (manifestMessages (revisedManifest 1))),
    .advance 0 1, .advance 0 1, .advance 0 1]

def secondRevision : List Action :=
  [.ingest 1 ⟨cellSession, "side", 1⟩ (some 100)
      (cellUnit 100 (manifestMessages (revisedManifest 2))),
    .advance 1 2, .advance 1 2, .advance 1 2]

theorem revisions_never_go_back_in_order :
    ((run (World.step twoInstallersExternals) (World.initial cellRuntime)
        firstRevision).runtime.session cellSession).manifest = some (revisedManifest 1) ∧
    ((run (World.step twoInstallersExternals) (World.initial cellRuntime)
        (firstRevision ++ secondRevision)).runtime.session cellSession).manifest =
      some (revisedManifest 2) ∧
    Meets (World.step twoInstallersExternals) ReplacesOlder (World.initial cellRuntime)
        (firstRevision ++ secondRevision) ∧
    ∃ current ∈ ((run (World.step twoInstallersExternals) (World.initial cellRuntime)
        (firstRevision ++ secondRevision)).runtime.session cellSession).manifest,
      1 ≤ current.manifestRevision := by
  have hfirst : ((run (World.step twoInstallersExternals) (World.initial cellRuntime)
        firstRevision).runtime.session cellSession).manifest = some (revisedManifest 1) := by
    decide +kernel
  obtain ⟨hreplaces, hnever⟩ := revisions_never_go_back twoInstallersExternals cellRuntime
    firstRevision secondRevision (takesTurns_of_lt 2 (by decide +kernel))
  exact ⟨hfirst, by decide +kernel, hreplaces, hnever cellSession (revisedManifest 1) hfirst⟩

/-- The freshness of a manifest is checked when its chunks arrive, and not
again when it is installed. Thread 1 installs revision 2 while thread 0 holds
revision 1 ready, and then thread 0 puts revision 1 in its place. -/
theorem older_revision_installed_last :
    ¬ Meets (World.step twoInstallersExternals) ReplacesOlder (World.initial cellRuntime)
        (twoInstallers 1 2 [1, 0]) ∧
      ((run (World.step twoInstallersExternals) (World.initial cellRuntime)
        (twoInstallers 1 2 [1])).runtime.session cellSession).manifest =
          some (revisedManifest 2) ∧
      ((run (World.step twoInstallersExternals) (World.initial cellRuntime)
        (twoInstallers 1 2 [1, 0])).runtime.session cellSession).manifest =
          some (revisedManifest 1) := by
  decide +kernel

/-! ## Anchors -/

section Anchors

variable (anchorOf : Uuid → String) (externals : Externals)

/-- Each session has one anchor: only its stream signs in as an anchor or
brings manifest chunks, and every manifest that completes names it. -/
def OneAnchor (world : World) : Action → Prop
  | .accept _ rawStreamId =>
    ∀ identity ∈ (world.runtime.registry.verify rawStreamId).toOption,
      identity.role = .anchor → identity.cameraId = anchorOf identity.sessionId
  | .submit _ envelope =>
    manifestPayloads envelope ≠ [] → envelope.key.cameraId = anchorOf envelope.key.sessionId
  | .advance thread now =>
    ∀ complete ∈ world.completing (.advance thread now),
      ∀ manifest ∈ externals.manifest.decode complete.2.bytes,
        manifest.anchorCameraId = anchorOf complete.1.key.sessionId
  | _ => True

instance (world : World) : ∀ action, Decidable (OneAnchor anchorOf externals world action)
  | .accept _ rawStreamId =>
    inferInstanceAs (Decidable (∀ identity ∈ (world.runtime.registry.verify
      rawStreamId).toOption, _ → _))
  | .submit _ envelope => inferInstanceAs (Decidable (manifestPayloads envelope ≠ [] → _))
  | .advance thread now =>
    inferInstanceAs (Decidable (∀ complete ∈ world.completing (.advance thread now),
      ∀ manifest ∈ externals.manifest.decode complete.2.bytes, _))
  | .transition .. => isTrue trivial
  | .disconnect .. => isTrue trivial
  | .ingest .. => isTrue trivial

/-- A manifest is installed for an envelope of the anchor it names. -/
def InstallsOwnAnchor (world : World) (action : Action) : Prop :=
  ∀ next ∈ world.installing action, next.2.manifest.anchorCameraId = next.1.key.cameraId

instance (world : World) (action : Action) : Decidable (InstallsOwnAnchor world action) :=
  inferInstanceAs (Decidable (∀ next ∈ world.installing action, _))

/-- A thread that handles manifest chunks handles an envelope of the anchor,
and what it is about to install names the anchor. -/
def FromAnchor : Stage → Prop
  | .idle _ => True
  | .chunks envelope remaining =>
    remaining ≠ [] → envelope.key.cameraId = anchorOf envelope.key.sessionId
  | .completed envelope _ _ => envelope.key.cameraId = anchorOf envelope.key.sessionId
  | .prepared envelope _ ready =>
    envelope.key.cameraId = anchorOf envelope.key.sessionId ∧
      ready.manifest.anchorCameraId = anchorOf envelope.key.sessionId
  | .promoting envelope _ _ => envelope.key.cameraId = anchorOf envelope.key.sessionId

structure AnchorStreams (world : World) : Prop where
  streams : ∀ (key : StreamKey) (record : StreamRecord),
    world.runtime.registry.streams[key]? = some record →
    record.identity.role = .anchor → key.cameraId = anchorOf key.sessionId
  threads : ∀ thread, FromAnchor anchorOf (world.threads thread)

variable {anchorOf externals}

theorem fromAnchor_advance {runtime : ReceiverRuntime} {now : Nat} {stage : Stage}
    (h : FromAnchor anchorOf stage)
    (hcompleted : ∀ envelope remaining found, stage = .completed envelope remaining found →
      ∀ manifest ∈ externals.manifest.decode found.bytes,
        manifest.anchorCameraId = anchorOf envelope.key.sessionId) :
    FromAnchor anchorOf (stage.advance externals runtime now).1 := by
  unfold Stage.advance
  split
  · trivial
  · split
    · trivial
    · trivial
  · -- there is a chunk to collect, so the envelope is the anchor's
    have hanchor := h (List.cons_ne_nil _ _)
    split
    · trivial
    · exact fun _ => hanchor
    · exact hanchor
  · split
    · trivial
    · rename_i ready hready
      have hvalid := (prepare_eq_ok.mp hready).1
      exact ⟨h, hcompleted _ _ _ rfl ready.manifest (validateManifest_eq_ok hvalid).1⟩
  · exact h.1
  · exact fun _ => h
  · split
    · trivial
    · exact h

/-- An envelope that was ingested brings manifest chunks only from a stream
whose signed role is anchor. -/
theorem fromAnchor_ingest {registry next : ReceiverRegistry} {codec : Message SyncTimestampV1}
    {key : StreamKey} {ptsNs : Option UInt64} {accessUnit : List UInt8}
    {envelope : EncodedFrameEnvelope}
    (hstreams : ∀ (key : StreamKey) (record : StreamRecord),
      registry.streams[key]? = some record →
      record.identity.role = .anchor → key.cameraId = anchorOf key.sessionId)
    (h : registry.ingestH264BeforeDecode codec key ptsNs accessUnit = .ok (envelope, next)) :
    FromAnchor anchorOf (.start envelope) := by
  obtain ⟨rfl, _, record, inspected, hrecord, hinspected, hmessages⟩ :=
    ReceiverRegistry.ingestH264BeforeDecode_eq_ok h
  intro hpayloads
  refine hstreams envelope.key record hrecord ?_
  cases hrole : record.identity.role with
  | anchor => rfl
  | secondary =>
    -- the inspector has refused manifest messages
    refine absurd ?_ hpayloads
    rw [hrole] at hinspected
    have hclean := inspectH264AnnexB_secondary hinspected
    rw [manifestPayloads, hmessages, List.map_eq_nil_iff, List.filter_eq_nil_iff]
    intro message hmessage
    simpa using (hclean message hmessage).2

theorem anchorStreams_step (world : World) (action : Action)
    (h : AnchorStreams anchorOf world) (hcond : OneAnchor anchorOf externals world action) :
    AnchorStreams anchorOf (world.step externals action) := by
  refine ⟨?_, ?_⟩
  · intro key record hrecord hrole
    rcases World.registry_step externals world action with
      hkeeps | ⟨listenPort, rawStreamId, rfl, haccept⟩
    · -- no action but `accept` brings an identity into the registry
      obtain ⟨old, hold, hidentity⟩ := hkeeps.identity key record hrecord
      exact h.streams key old hold (hidentity ▸ hrole)
    · rw [haccept] at hrecord
      rcases (ReceiverRegistry.accept_streams world.runtime.registry listenPort
        rawStreamId).2 key record hrecord with hold | ⟨hverify, rfl⟩
      · exact h.streams key record hold hrole
      · refine hcond record.identity ?_ hrole
        rw [hverify]
        rfl
  · intro thread
    by_cases hadvance : ∃ other now, action = .advance other now
    · obtain ⟨other, now, rfl⟩ := hadvance
      rw [World.step_advance]
      show FromAnchor anchorOf (Function.update world.threads other _ thread)
      by_cases hsame : thread = other
      · subst hsame
        rw [Function.update_self]
        refine fromAnchor_advance (h.threads thread) ?_
        intro envelope remaining found hstage
        exact hcond (envelope, found) (by rw [World.completing, hstage]; rfl)
      · rw [Function.update_of_ne hsame]
        exact h.threads thread
    · obtain ⟨_, hthreads⟩ := World.step_outside externals world action
        (fun other now heq => hadvance ⟨other, now, heq⟩)
      rcases hthreads thread with hkept | ⟨envelope, hstarting, hstart⟩
      · rw [hkept]
        exact h.threads thread
      · rw [hstart]
        unfold World.starting at hstarting
        split at hstarting
        · rename_i key ptsNs accessUnit
          obtain ⟨⟨found, next⟩, hfound, rfl⟩ := Option.map_eq_some_iff.mp hstarting
          exact fromAnchor_ingest h.streams (toOption_eq_some.mp hfound)
        · cases hstarting
          exact hcond
        · cases hstarting

/-- Only the anchor's own stream establishes the anchor, in every run in
which each session has one anchor. -/
theorem only_the_anchor_installs (anchorOf : Uuid → String) (externals : Externals)
    (policy : ReceiverPolicy) (verify : String → Except IdentityError StreamIdentity)
    (basePort : UInt16) (manifestTimeout maxFramesPerCamera : Nat) (maxSkewNs : UInt64)
    (stepCapacity : Nat) (runtime : ReceiverRuntime)
    (hnew : ReceiverRuntime.new (.new policy verify) basePort manifestTimeout
      maxFramesPerCamera maxSkewNs stepCapacity = .ok runtime)
    (actions : List Action)
    (hmeets : Meets (World.step externals) (OneAnchor anchorOf externals)
      (World.initial runtime) actions) :
    Meets (World.step externals) InstallsOwnAnchor (World.initial runtime) actions := by
  refine meets_of_invariant anchorStreams_step ?_ ⟨?_, fun _ => trivial⟩ hmeets
  · intro world action h _ next hnext
    obtain ⟨thread, remaining, hstage⟩ := World.installing_eq_some hnext
    have hanchor := h.threads thread
    rw [hstage] at hanchor
    exact hanchor.2.trans hanchor.1.symm
  · intro key record hrecord
    change runtime.registry.streams[key]? = some record at hrecord
    rw [(ReceiverRuntime.new_eq_ok hnew).2] at hrecord
    simp [ReceiverRegistry.new] at hrecord

/-- Two cameras connect, and one of them brings a manifest. -/
def oneInstaller (thread : Nat) (cameraId sideStream : String) : List Action :=
  [.accept 10000 anchorStream, .accept 10001 sideStream,
    .ingest thread ⟨cellSession, cameraId, 1⟩ (some 100)
      (cellUnit 100 (manifestMessages (revisedManifest 1))),
    .advance thread 1, .advance thread 1, .advance thread 1]

theorem only_the_anchor_installs_anchor :
    Meets (World.step twoInstallersExternals) InstallsOwnAnchor (World.initial cellRuntime)
        (oneInstaller 0 "anchor" sideStream) ∧
      ((run (World.step twoInstallersExternals) (World.initial cellRuntime)
        (oneInstaller 0 "anchor" sideStream)).runtime.session cellSession).manifest =
          some (revisedManifest 1) :=
  And.imp_left
    (only_the_anchor_installs (fun _ => "anchor") _ _ _ _ _ _ _ _ _ cellRuntime_new _)
    (by decide +kernel)

/-- Nothing compares the camera of the stream with the anchor a manifest
names. The side camera signs in with the anchor's role, and the manifest it
brings, which names the other camera, is installed. -/
theorem anchor_established_by_side_camera :
    ReceiverRuntime.new cellRegistry 10000 1000000000 8 20 8 = .ok cellRuntime ∧
      ¬ Meets (World.step twoInstallersExternals) InstallsOwnAnchor (World.initial cellRuntime)
        (oneInstaller 1 "side" sideStreamAsAnchor) :=
  ⟨cellRuntime_new, by decide +kernel⟩

end Anchors

end RobotMulticam.Receiver
