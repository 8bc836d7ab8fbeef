import RobotMulticam.Receiver.Installation
import RobotMulticam.Receiver.Service
import RobotMulticam.Relay.Manager

/-!
# One connection to the Receiver

`connected_loop` picks a session, fetches its manifest, subscribes to its
steps and projects every step with the manifest it fetched, until another
session is picked or a call fails. Meanwhile the Receiver goes on: its
threads install manifests and broadcast steps.

A `RelaySystem` is the Receiver's world together with the loop. One action is
an action of the Receiver, the answer to one call of the loop, or one message
of the subscription; a list of actions is an interleaving of both sides.

The loop never asks for the manifest again. `projection_revision_iff` says
what follows: a step is projected with a manifest of its own revision exactly
if the Receiver had the same revision in force when it answered
`get_session_manifest` and when it formed the step.
-/

namespace RobotMulticam.Relay

open RobotMulticam.Lib
open RobotMulticam.Protocol
open RobotMulticam.Codec
open RobotMulticam.Receiver

/-! ## Choosing a session -/

/-- A session that can be followed. -/
def eligible (status : SessionStatus) : Bool :=
  status.authoritative && 0 < status.connectedCameras

/-- `max_by_key`: of equal ones the last. -/
def latestSession (sessions : List SessionStatus) : Option SessionStatus :=
  sessions.foldl (fun best status =>
    match best with
    | none => some status
    | some held =>
      if held.lastCaptureTimeEdgeNs ≤ status.lastCaptureTimeEdgeNs then some status
      else some held) none

def selectSession (sessions : List SessionStatus) (configured : Option Uuid) :
    Except ProjectionError (Option Uuid) :=
  match configured with
  | some configured =>
    .ok (((sessions.find? (·.sessionId = configured.bytes)).filter eligible).map
      fun _ => configured)
  | none =>
    match latestSession (sessions.filter eligible) with
    | none => .ok none
    | some status =>
      match Uuid.fromSlice status.sessionId with
      | none => .error .session
      | some sessionId => .ok (some sessionId)

/-! ## The loop -/

/-- A step on its way to the relay, together with the manifest that was in
force when it was formed. The relay gets the step only. -/
structure SentStep where
  step : SynchronizedDatasetStep
  formedUnder : Option SessionManifestV1

/-- Where `connected_loop` stands. -/
inductive LoopStage where
  | discovering
  | selected (sessionId : Uuid)
  | fetched (sessionId : Uuid) (manifest : SessionManifestV1)
  | following (sessionId : Uuid) (manifest : SessionManifestV1) (subscription : StepSubscription)
      (queued : List SentStep)
  | failed

/-- `askedUnder` is the manifest that the Receiver had in force for the
session of the loop when it was last asked for one. The loop does not read
it. -/
structure RelaySystem where
  receiver : World
  manager : RelayManager
  stage : LoopStage
  askedUnder : Option SessionManifestV1

/-- The answers to `list_sessions` are inputs: the Receiver puts them together
from several readings. `lag` is a step that the subscription loses, and
`interrupt` a call that fails or a stream that ends. -/
inductive RelayAction where
  | receiver (action : Action)
  | listSessions (statuses : List SessionStatus)
  | getSessionManifest (cleared : Bool)
  | subscribe
  | message (media : StepMedia)
  | lag
  | tick (statuses : List SessionStatus)
  | interrupt

namespace RelaySystem

/-- What the subscription queues of an action of the Receiver. -/
def queueing (externals : Externals) (world : World) (subscription : StepSubscription)
    (action : Action) : List SentStep :=
  match world.broadcast externals action with
  | none => []
  | some (envelope, step) =>
    ((subscription.forward step).map fun forwarded =>
      (⟨forwarded, world.manifestOf envelope.key⟩ : SentStep)).toList

/-- The loop after the next message. -/
def deliver (self : RelaySystem) (sessionId : Uuid) (manifest : SessionManifestV1)
    (subscription : StepSubscription) (media : StepMedia) : List SentStep → RelaySystem
  | [] => self
  | sent :: queued =>
    match self.manager.processStep sent.step manifest media with
    | (.error _, manager) => { self with manager, stage := .failed }
    | (.ok _, manager) =>
      { self with manager, stage := .following sessionId manifest subscription queued }

/-- The stage after `list_sessions` while no session is selected. -/
def discover (configured : Option Uuid) (self : RelaySystem) (statuses : List SessionStatus) :
    RelaySystem :=
  match selectSession statuses configured with
  | .error _ => { self with stage := .failed }
  | .ok (some sessionId) => { self with stage := .selected sessionId }
  | .ok none => { self with manager := self.manager.clearActiveSession }

/-- `get_session_manifest` with revision 0, and `reset_session`. -/
def fetch (externals : Externals) (self : RelaySystem) (sessionId : Uuid) (cleared : Bool) :
    RelaySystem :=
  match getSessionManifest self.receiver.runtime sessionId.bytes 0 with
  | .error _ => { self with stage := .failed }
  | .ok reply =>
    match externals.manifest.decode reply.serializedSessionManifest with
    | none => { self with stage := .failed }
    | some manifest =>
      match self.manager.resetSession sessionId cleared with
      | (.error _, manager) => { self with manager, stage := .failed }
      | (.ok (), manager) => { self with manager, stage := .fetched sessionId manifest }

def subscribe (self : RelaySystem) (sessionId : Uuid) (manifest : SessionManifestV1) :
    RelaySystem :=
  match subscribeSynchronizedSteps self.receiver.runtime sessionId.bytes true [] with
  | .error _ => { self with stage := .failed }
  | .ok subscription => { self with stage := .following sessionId manifest subscription [] }

/-- The loop goes back to discovery when another session is selected. -/
def refresh (configured : Option Uuid) (self : RelaySystem) (sessionId : Uuid)
    (statuses : List SessionStatus) : RelaySystem :=
  match selectSession statuses configured with
  | .error _ => { self with stage := .failed }
  | .ok selected => if selected = some sessionId then self else { self with stage := .discovering }

def step (externals : Externals) (configured : Option Uuid) (self : RelaySystem) :
    RelayAction → RelaySystem
  | .receiver action =>
    { self with
      receiver := self.receiver.step externals action
      stage :=
        match self.stage with
        | .following sessionId manifest subscription queued =>
          .following sessionId manifest subscription
            (queued ++ queueing externals self.receiver subscription action)
        | stage => stage }
  | .listSessions statuses =>
    match self.stage with
    | .discovering => self.discover configured statuses
    | _ => self
  | .getSessionManifest cleared =>
    match self.stage with
    | .selected sessionId =>
      { self.fetch externals sessionId cleared with
        askedUnder := (self.receiver.runtime.session sessionId).manifest }
    | _ => self
  | .subscribe =>
    match self.stage with
    | .fetched sessionId manifest => self.subscribe sessionId manifest
    | _ => self
  | .message media =>
    match self.stage with
    | .following sessionId manifest subscription queued =>
      self.deliver sessionId manifest subscription media queued
    | _ => self
  | .lag =>
    match self.stage with
    | .following sessionId manifest subscription queued =>
      { self with stage := .following sessionId manifest subscription queued.tail }
    | _ => self
  | .tick statuses =>
    match self.stage with
    | .following sessionId _ _ _ => self.refresh configured sessionId statuses
    | _ => self
  | .interrupt => { self with stage := .failed }

/-- The events of one step, with what they were computed from. -/
structure Publication where
  sent : SentStep
  manifest : SessionManifestV1
  events : List FrameMetadataEvent

/-- What an action publishes. -/
def publishing (self : RelaySystem) : RelayAction → Option Publication
  | .message media =>
    match self.stage with
    | .following _ manifest _ (sent :: _) =>
      match (self.manager.processStep sent.step manifest media).1 with
      | .error _ => none
      | .ok events => some ⟨sent, manifest, events⟩
    | _ => none
  | _ => none

/-- A connection begins. What the Receiver did before is part of the run, and
the manager may have followed sessions earlier. -/
def connected (runtime : ReceiverRuntime) (manager : RelayManager) : RelaySystem :=
  ⟨World.initial runtime, manager, .discovering, none⟩

/-! ## Steps on their way -/

end RelaySystem

/-- The steps that wait in the subscription. -/
def LoopStage.queued : LoopStage → List SentStep
  | .following _ _ _ queued => queued
  | _ => []

/-- The manifest the steps are projected with. -/
def LoopStage.manifest : LoopStage → Option SessionManifestV1
  | .fetched _ manifest | .following _ manifest _ _ => some manifest
  | _ => none

namespace RelaySystem

/-- The Receiver is as before, and the subscription at most loses steps. -/
structure LeavesReceiver (before after : RelaySystem) : Prop where
  receiver : after.receiver = before.receiver
  queued : after.stage.queued ⊆ before.stage.queued

namespace LeavesReceiver

variable (externals : Externals) (configured : Option Uuid) (self : RelaySystem)

theorem refl : LeavesReceiver self self := ⟨rfl, List.Subset.refl _⟩

/-- A stage without a subscription has nothing queued. -/
theorem of_nil {self next : RelaySystem} (hreceiver : next.receiver = self.receiver)
    (hqueued : next.stage.queued = []) : LeavesReceiver self next :=
  ⟨hreceiver, by simp [hqueued]⟩

theorem discover (statuses : List SessionStatus) :
    LeavesReceiver self (self.discover configured statuses) := by
  unfold RelaySystem.discover
  split
  · exact of_nil rfl rfl
  · exact of_nil rfl rfl
  · exact ⟨rfl, List.Subset.refl _⟩

theorem fetch (sessionId : Uuid) (cleared : Bool) :
    LeavesReceiver self (self.fetch externals sessionId cleared) := by
  unfold RelaySystem.fetch
  split
  · exact of_nil rfl rfl
  · split
    · exact of_nil rfl rfl
    · split
      · exact of_nil rfl rfl
      · exact of_nil rfl rfl

theorem subscribe (sessionId : Uuid) (manifest : SessionManifestV1) :
    LeavesReceiver self (self.subscribe sessionId manifest) := by
  unfold RelaySystem.subscribe
  split
  · exact of_nil rfl rfl
  · exact of_nil rfl rfl

theorem refresh (sessionId : Uuid) (statuses : List SessionStatus) :
    LeavesReceiver self (self.refresh configured sessionId statuses) := by
  unfold RelaySystem.refresh
  split
  · exact of_nil rfl rfl
  · split
    · exact refl self
    · exact of_nil rfl rfl

variable {self}

theorem deliver {sessionId : Uuid} {manifest : SessionManifestV1}
    {subscription : StepSubscription} {queued : List SentStep} (media : StepMedia)
    (hstage : self.stage = .following sessionId manifest subscription queued) :
    LeavesReceiver self (self.deliver sessionId manifest subscription media queued) := by
  unfold RelaySystem.deliver
  split
  · exact refl self
  · split
    · exact of_nil rfl rfl
    · refine ⟨rfl, ?_⟩
      rw [hstage]
      exact List.subset_cons_self _ _

/-- Every action of the loop itself. -/
theorem step {action : RelayAction} (h : ∀ inner, action ≠ .receiver inner) :
    LeavesReceiver self (self.step externals configured action) := by
  cases action with
  | receiver inner => exact absurd rfl (h inner)
  | listSessions statuses =>
    rw [RelaySystem.step]
    split
    · exact discover configured self statuses
    · exact refl self
  | getSessionManifest cleared =>
    rw [RelaySystem.step]
    split
    · obtain ⟨hreceiver, hqueued⟩ := fetch externals self _ cleared
      exact ⟨hreceiver, hqueued⟩
    · exact refl self
  | subscribe =>
    rw [RelaySystem.step]
    split
    · exact subscribe self _ _
    · exact refl self
  | message media =>
    rw [RelaySystem.step]
    split
    · rename_i hstage
      exact deliver media hstage
    · exact refl self
  | lag =>
    rw [RelaySystem.step]
    split
    · rename_i hstage
      refine ⟨rfl, ?_⟩
      rw [hstage]
      exact List.tail_subset _
    · exact refl self
  | tick statuses =>
    rw [RelaySystem.step]
    split
    · exact refresh configured self _ statuses
    · exact refl self
  | interrupt => exact of_nil rfl rfl

end LeavesReceiver

/-- An action of the Receiver queues at most the step it broadcasts. -/
theorem mem_queued_receiver {externals : Externals} {configured : Option Uuid}
    {self : RelaySystem} {inner : Action} {sent : SentStep}
    (h : sent ∈ (self.step externals configured (.receiver inner)).stage.queued) :
    sent ∈ self.stage.queued ∨
      ∃ subscription, sent ∈ queueing externals self.receiver subscription inner := by
  rw [step] at h
  dsimp only at h
  split at h
  · rename_i hstage
    rw [hstage]
    exact (List.mem_append.mp h).imp_right fun hmem => ⟨_, hmem⟩
  · exact Or.inl h

end RelaySystem

/-! ## The manifest of a projection -/

/-- The revision of a step is that of the manifest it was formed under. -/
def SentStep.Labelled (sent : SentStep) : Prop :=
  sent.formedUnder.map (·.manifestRevision) = some sent.step.manifestRevision

namespace RelaySystem

variable {externals : Externals} {configured : Option Uuid}

theorem labelled_of_queueing {world : World} (h : Installed (fun _ => SameManifest) world)
    {subscription : StepSubscription} {action : Action} {sent : SentStep}
    (hsent : sent ∈ queueing externals world subscription action) : sent.Labelled := by
  unfold queueing at hsent
  split at hsent
  · cases hsent
  · rename_i envelope step hbroadcast
    obtain ⟨forwarded, hforwarded, rfl⟩ := Option.map_eq_some_iff.mp (Option.mem_toList.mp hsent)
    show (world.manifestOf envelope.key).map _ = some forwarded.manifestRevision
    rw [World.broadcast_revision h hbroadcast, StepSubscription.forward_revision hforwarded]

/-- The loop holds the manifest that was in force when it asked. -/
def Fetched (system : RelaySystem) : Prop :=
  ∀ manifest ∈ system.stage.manifest, system.askedUnder = some manifest

theorem Fetched.of_none {system : RelaySystem} (h : system.stage.manifest = none) :
    Fetched system := by
  intro manifest hmanifest
  rw [h] at hmanifest
  cases hmanifest

variable {self : RelaySystem}

theorem Fetched.of_eq {next : RelaySystem} (h : Fetched self)
    (hmanifest : next.stage.manifest = self.stage.manifest)
    (hasked : next.askedUnder = self.askedUnder) : Fetched next := by
  rw [Fetched, hmanifest, hasked]
  exact h

/-- The answer of the Receiver decodes to the manifest in force. -/
theorem manifest_fetch (hserved : BytesDecode externals self.receiver) {sessionId : Uuid}
    {cleared : Bool} {manifest : SessionManifestV1}
    (h : (self.fetch externals sessionId cleared).stage.manifest = some manifest) :
    (self.receiver.runtime.session sessionId).manifest = some manifest := by
  unfold fetch at h
  split at h
  · cases h
  · rename_i reply hreply
    obtain ⟨current, hcurrent, hbytes⟩ := getSessionManifest_eq_ok hreply
    rw [hserved.inForce sessionId _ current hbytes hcurrent] at h
    dsimp only at h
    split at h
    · cases h
    · cases h
      exact hcurrent

/-- Afterwards the loop keeps it until it picks a session again or fails. -/
theorem Fetched.step (hserved : BytesDecode externals self.receiver) (h : Fetched self)
    (action : RelayAction) : Fetched (self.step externals configured action) := by
  cases action with
  | receiver inner =>
    refine h.of_eq ?_ rfl
    rw [RelaySystem.step]
    dsimp only
    split
    · rename_i hstage
      rw [hstage]
      rfl
    · rfl
  | listSessions statuses =>
    rw [RelaySystem.step]
    split
    · rename_i hstage
      unfold discover
      split
      · exact .of_none rfl
      · exact .of_none rfl
      · exact .of_none (by rw [hstage]; rfl)
    · exact h
  | getSessionManifest cleared =>
    rw [RelaySystem.step]
    split
    · intro manifest hmanifest
      exact manifest_fetch hserved hmanifest
    · exact h
  | subscribe =>
    rw [RelaySystem.step]
    split
    · rename_i hstage
      unfold subscribe
      split
      · exact .of_none rfl
      · exact h.of_eq (by rw [hstage]; rfl) rfl
    · exact h
  | message media =>
    rw [RelaySystem.step]
    split
    · rename_i hstage
      unfold deliver
      split
      · exact h
      · split
        · exact .of_none rfl
        · exact h.of_eq (by rw [hstage]; rfl) rfl
    · exact h
  | lag =>
    rw [RelaySystem.step]
    split
    · rename_i hstage
      exact h.of_eq (by rw [hstage]; rfl) rfl
    · exact h
  | tick statuses =>
    rw [RelaySystem.step]
    split
    · unfold refresh
      split
      · exact .of_none rfl
      · split
        · exact h
        · exact .of_none rfl
    · exact h
  | interrupt => exact .of_none rfl

/-- What holds along a connection. -/
structure Consistent (externals : Externals) (system : RelaySystem) : Prop where
  receiver : Installed (fun _ => SameManifest) system.receiver
  served : BytesDecode externals system.receiver
  queued : ∀ sent ∈ system.stage.queued, sent.Labelled
  fetched : Fetched system

theorem consistent_connected (externals : Externals) {runtime : ReceiverRuntime}
    (manager : RelayManager) (hempty : runtime.sessions = ∅) :
    Consistent externals (connected runtime manager) :=
  ⟨Installed.initial hempty, .initial externals hempty, List.forall_mem_nil _, .of_none rfl⟩

theorem Consistent.step (self : RelaySystem) (action : RelayAction)
    (h : Consistent externals self) : Consistent externals (self.step externals configured action) := by
  have hfetched : Fetched (self.step externals configured action) := h.fetched.step h.served action
  by_cases hinner : ∃ inner, action = .receiver inner
  · obtain ⟨inner, rfl⟩ := hinner
    refine ⟨sameManifest_step self.receiver inner h.receiver, h.served.step inner, ?_, hfetched⟩
    intro sent hsent
    rcases mem_queued_receiver hsent with hold | ⟨subscription, hnew⟩
    · exact h.queued sent hold
    · exact labelled_of_queueing h.receiver hnew
  · have hleaves : LeavesReceiver self (self.step externals configured action) :=
      .step externals configured fun inner heq => hinner ⟨inner, heq⟩
    refine ⟨?_, ?_, fun sent hsent => h.queued sent (hleaves.queued hsent), hfetched⟩
    · rw [hleaves.receiver]
      exact h.receiver
    · rw [hleaves.receiver]
      exact h.served

/-- What is published is the projection of a step of the subscription with
the manifest that was fetched. -/
theorem publishing_cases {action : RelayAction} {publication : Publication}
    (h : publication ∈ self.publishing action) :
    publication.sent ∈ self.stage.queued ∧ self.stage.manifest = some publication.manifest ∧
      projectMetadata self.manager.http.uuidText publication.sent.step publication.manifest =
        .ok publication.events := by
  unfold publishing at h
  split at h
  · split at h
    · rename_i hstage
      split at h
      · cases h
      · rename_i events hprocess
        cases h
        refine ⟨by rw [hstage]; exact List.mem_cons_self, by rw [hstage]; rfl, ?_⟩
        exact RelayManager.processStep_events hprocess
    · cases h
  · cases h

/-- Every event that is published was computed with a manifest of the
revision of its step. -/
def ProjectsOwnRevision (self : RelaySystem) (action : RelayAction) : Prop :=
  ∀ publication ∈ self.publishing action, ∀ _event ∈ publication.events,
    publication.manifest.manifestRevision = publication.sent.step.manifestRevision

/-- Every step of which an event is published was formed under the revision
that the Receiver had in force when it was asked for the manifest. -/
def RevisionUnchanged (self : RelaySystem) (action : RelayAction) : Prop :=
  ∀ publication ∈ self.publishing action, ∀ _event ∈ publication.events,
    publication.sent.formedUnder.map (·.manifestRevision) =
      self.askedUnder.map (·.manifestRevision)

instance (self : RelaySystem) (action : RelayAction) : Decidable (ProjectsOwnRevision self action) :=
  inferInstanceAs (Decidable (∀ publication ∈ self.publishing action,
    ∀ _event ∈ publication.events, _))

instance (self : RelaySystem) (action : RelayAction) : Decidable (RevisionUnchanged self action) :=
  inferInstanceAs (Decidable (∀ publication ∈ self.publishing action,
    ∀ _event ∈ publication.events, _))

theorem projectsOwnRevision_iff (h : Consistent externals self) (action : RelayAction) :
    ProjectsOwnRevision self action ↔ RevisionUnchanged self action := by
  refine forall₂_congr fun publication hpublication => forall₂_congr fun event _ => ?_
  obtain ⟨hqueued, hmanifest, _⟩ := publishing_cases hpublication
  have hlabel : publication.sent.formedUnder.map (·.manifestRevision) =
      some publication.sent.step.manifestRevision := h.queued publication.sent hqueued
  rw [hlabel, h.fetched publication.manifest hmanifest, Option.map_some, Option.some.injEq]
  exact eq_comm

/-- The relay projects every step with its own manifest exactly in the runs
in which every published step was formed under the revision that the Receiver
had in force when it answered `get_session_manifest`. -/
theorem projection_revision_iff (externals : Externals) (registry : ReceiverRegistry)
    (basePort : UInt16) (manifestTimeout maxFramesPerCamera : Nat) (maxSkewNs : UInt64)
    (stepCapacity : Nat) (runtime : ReceiverRuntime)
    (hnew : ReceiverRuntime.new registry basePort manifestTimeout maxFramesPerCamera maxSkewNs
      stepCapacity = .ok runtime)
    (configured : Option Uuid) (manager : RelayManager) (actions : List RelayAction) :
    Meets (step externals configured) ProjectsOwnRevision (connected runtime manager) actions ↔
      Meets (step externals configured) RevisionUnchanged (connected runtime manager) actions := by
  have hstart := consistent_connected externals manager (ReceiverRuntime.new_eq_ok hnew).1
  have hstep : ∀ {cond : RelaySystem → RelayAction → Prop} (self : RelaySystem)
      (action : RelayAction), Consistent externals self → cond self action →
      Consistent externals (self.step externals configured action) :=
    fun self action hself _ => hself.step self action
  constructor
  · refine meets_of_invariant hstep ?_ hstart
    intro self action hself
    exact (projectsOwnRevision_iff hself action).mp
  · refine meets_of_invariant hstep ?_ hstart
    intro self action hself
    exact (projectsOwnRevision_iff hself action).mpr

end RelaySystem

/-! ## A manifest that is replaced -/

/-- The manifest of the cell with a new name for its observation. -/
def renamedManifest : SessionManifestV1 :=
  { cellManifest [anchorCamera] with
    manifestRevision := 2
    featureSlices := [
      { featureId := 1, qualifiedName := "body.velocity", vectorKind := 1, length := 1 },
      { featureId := 2, qualifiedName := "body.target", vectorKind := 2, length := 1 }] }

def relayedExternals : Externals :=
  cellExternals [contextFor (cellManifest [anchorCamera]) 0,
    contextFor (cellManifest [anchorCamera]) 1, contextFor renamedManifest 1]
    [cellManifest [anchorCamera], renamedManifest]

/-- The anchor's second access unit, and the sections that process it. -/
def secondUnit (messages : List UserDataUnregistered) : List RelayAction :=
  (.ingest 0 ⟨cellSession, "anchor", 1⟩ (some 200) (cellUnit 200 messages) ::
    List.replicate 5 (.advance 0 2)).map .receiver

/-- The sessions the Receiver lists once the first unit is processed. -/
def listedSessions : List SessionStatus :=
  (run (World.step relayedExternals) (World.initial cellRuntime)
    (bootstrapActions (cellManifest [anchorCamera]))).runtime.sessionStatuses.toOption.getD []

/-- The Receiver installs revision 1, and the relay begins to follow. -/
def followingActions : List RelayAction :=
  (bootstrapActions (cellManifest [anchorCamera])).map .receiver ++
    [.listSessions listedSessions, .getSessionManifest true, .subscribe]

/-- A second unit of revision 1. -/
def sameRevision : List RelayAction :=
  followingActions ++ secondUnit [contextMessage (contextFor (cellManifest [anchorCamera]) 1)] ++
    [.message .working]

/-- A second unit that brings revision 2. -/
def newRevision : List RelayAction :=
  followingActions ++
    secondUnit (manifestMessages renamedManifest ++ [contextMessage (contextFor renamedManifest 1)]) ++
    [.message .working]

/-- A relay that just started. -/
def freshManager : RelayManager := .new Uuid.text 32 (by decide)

namespace RelaySystem

/-- The step of the second unit is published. -/
theorem projection_revision_iff_same_revision :
    ((run (step relayedExternals none) (connected cellRuntime freshManager)
        sameRevision.dropLast).publishing (.message .working)).map (fun publication =>
          publication.events.map fun event => (event.manifestRevision,
            event.namedFeatures.map (·.qualifiedName))) =
      some [(1, ["body.position", "body.target"])] ∧
    Meets (step relayedExternals none) ProjectsOwnRevision (connected cellRuntime freshManager)
      sameRevision :=
  ⟨by decide +kernel, (projection_revision_iff relayedExternals _ _ _ _ _ _ cellRuntime
    cellRuntime_new none freshManager sameRevision).mpr (by decide +kernel)⟩

/-- Revision 2 gives the observation another name while the relay follows the
session. The next step has revision 2, and its event, which says revision 2,
carries the old name. -/
theorem replaced_manifest_still_projects :
    ReceiverRuntime.new cellRegistry 10000 1000000000 8 20 8 = .ok cellRuntime ∧
    ¬ Meets (step relayedExternals none) ProjectsOwnRevision (connected cellRuntime freshManager)
      newRevision ∧
    ((run (step relayedExternals none) (connected cellRuntime freshManager)
        newRevision.dropLast).publishing (.message .working)).map (fun publication =>
          publication.events.map fun event => (event.manifestRevision,
            event.namedFeatures.map (·.qualifiedName))) =
      some [(2, ["body.position", "body.target"])] :=
  ⟨cellRuntime_new, by decide +kernel, by decide +kernel⟩

end RelaySystem
end RobotMulticam.Relay
