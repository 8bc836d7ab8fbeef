import RobotMulticam.Edge.Restarts
import RobotMulticam.Receiver.Connections

/-!
# The Receiver admits what the Edge starts

An edge that is restarted, loses cameras and finds them again starts every
stream under a new identity, and the Receiver checks the identity of whatever
dials it: the signature, the policy, the port, the number of streams, whether
the camera or the slot is taken and whether the epoch is stale. Each check has
its counterpart in what the edge keeps.

`Aligned` ties the two sides together. The part that runs can break is
`behind`: the highest epoch that the Receiver has seen of a camera is not above
the epoch that the edge counts for it. It holds after a restart because a new
process draws a new session id, and after a turn because epochs never fall.

`running_streams_admitted` is the result: in any interleaving of turns, crashes,
restarts, connections and other calls of the Receiver, a stream that runs is
accepted, once the connections of streams that no longer run are closed.
-/

namespace RobotMulticam.Link

open RobotMulticam.Lib
open RobotMulticam.Protocol
open RobotMulticam.Identity
open RobotMulticam.Edge
open RobotMulticam.Receiver
open ReceiverRegistry

/-- An edge and the registry of the Receiver that it dials. -/
structure Admission where
  host : Edge.Host
  journal : Journal

inductive AdmissionAction where
  | edge (action : HostAction)
  /-- The pipeline of a camera connects. -/
  | connect (id : String)
  | receiver (call : RegistryCall)

namespace Admission

variable {Regex : Type}

def step (deployment : Deployment Regex) (codec : Message SyncTimestampV1) (link : Admission) :
    AdmissionAction → Admission
  | .edge action => { link with host := link.host.step deployment action }
  | .connect id =>
    match link.host.streamOf id with
    | some stream =>
      { link with journal := link.journal.perform codec (.accept stream.port stream.streamId) }
    | none => link
  | .receiver call => { link with journal := link.journal.perform codec call }

/-- A Receiver that checks the signatures with the key of the deployment. -/
def first (deployment : Deployment Regex) (policy : ReceiverPolicy) (process : EdgeProcess) :
    Admission where
  host := .first process
  journal := .start policy fun raw =>
    StreamIdentity.parseAndVerify deployment.crates raw deployment.hmacKey

/-- A start draws a session id that the Receiver has not seen, only a process
that is alive dials, and nobody else uses its session. -/
def Proper (link : Admission) : AdmissionAction → Prop
  | .edge (.start process) =>
    ∀ camera : String, link.journal.registry.highestEpoch[(process.sessionId, camera)]? = none
  | .edge (.turn _) => True
  | .connect _ => link.host.alive = true
  | .receiver (.accept _ raw) => ∀ identity, link.journal.registry.verify raw = .ok identity →
      identity.sessionId ≠ link.host.process.sessionId
  | .receiver _ => True

/-- A policy that is set up for the deployment. -/
structure Admits (policy : ReceiverPolicy) (deployment : Deployment Regex) : Prop where
  embodimentId : policy.expectedEmbodimentId = deployment.config.embodimentId
  edgeInstanceId : ∀ expected ∈ policy.expectedEdgeInstanceId,
    expected = deployment.config.edgeInstanceId
  basePort : policy.basePort = deployment.config.basePort
  maxCameras : deployment.virtualPoolSize ≤ policy.maxCameras

/-- Every connection that is open is one of another stream that runs. -/
def OnlyOthers (link : Admission) (id : String) : Prop :=
  ∀ entry ∈ link.journal.registry.connectedStreams, ∃ other stream, other ≠ id ∧
    link.host.edge.running[other]? = some (.stream stream) ∧ entry.2.identity = stream.identity

/-! ## The invariant -/

structure Aligned (deployment : Deployment Regex) (policy : ReceiverPolicy) (link : Admission) :
    Prop where
  sound : link.host.Sound deployment
  consistent : link.journal.Consistent policy
  verify : link.journal.registry.verify = fun raw =>
    StreamIdentity.parseAndVerify deployment.crates raw deployment.hmacKey
  behind : link.host.alive = true → ∀ (camera : String) (highest : UInt32),
    link.journal.registry.highestEpoch[(link.host.process.sessionId, camera)]? = some highest →
      ∃ epoch, link.host.edge.streamEpochs[camera]? = some epoch ∧ highest ≤ epoch

/-- Only an accepted identity changes the epochs that the Receiver remembers. -/
theorem perform_epochs (codec : Message SyncTimestampV1) (journal : Journal) (call : RegistryCall) :
    (journal.perform codec call).registry.verify = journal.registry.verify ∧
      ((journal.perform codec call).registry.highestEpoch = journal.registry.highestEpoch ∨
        ∃ listenPort raw identity, call = .accept listenPort raw ∧
          journal.registry.verify raw = .ok identity ∧
          (journal.perform codec call).registry =
            journal.registry.withAccepted listenPort identity) := by
  have hupdated : ∀ {key old record next},
      ReceiverRegistry.Updates journal.registry key old record next →
        next.verify = journal.registry.verify ∧
          next.highestEpoch = journal.registry.highestEpoch := by
    intro key old record next hupdates
    rw [hupdates.next_eq]
    exact ⟨rfl, rfl⟩
  rw [Journal.perform]
  cases call with
  | accept listenPort raw =>
    rcases journal.registry.accept_cases listenPort raw with
      ⟨error, hrefused⟩ | ⟨identity, hverify, -, haccepted⟩
    · rw [perform, hrefused]
      exact ⟨rfl, Or.inl rfl⟩
    · rw [perform, haccepted]
      exact ⟨rfl, Or.inr ⟨listenPort, raw, identity, rfl, hverify, rfl⟩⟩
  | transition key target =>
    rw [perform, transitionInPlace_eq]
    cases htransition : journal.registry.transition key target with
    | error error => exact ⟨rfl, Or.inl rfl⟩
    | ok next =>
      obtain ⟨old, hupdates⟩ := transition_eq_ok htransition
      exact (hupdated hupdates).imp_right Or.inl
  | disconnect key =>
    rw [perform, disconnectInPlace_eq]
    cases hdisconnect : journal.registry.disconnect key with
    | error error => exact ⟨rfl, Or.inl rfl⟩
    | ok next =>
      obtain ⟨old, hupdates⟩ := disconnect_eq_ok hdisconnect
      exact (hupdated hupdates).imp_right Or.inl
  | ingest key ptsNs accessUnit =>
    rw [perform, ingestInPlace_eq]
    cases hingest : journal.registry.ingestH264BeforeDecode codec key ptsNs accessUnit with
    | error fault => exact ⟨rfl, Or.inl rfl⟩
    | ok result =>
      obtain ⟨envelope, next⟩ := result
      obtain ⟨old, inspected, ingest, -, -, -, -, hupdates⟩ :=
        ingestH264BeforeDecode_inv hingest
      exact (hupdated hupdates).imp_right Or.inl

section Runs

variable {deployment : Deployment Regex} {policy : ReceiverPolicy} {codec : Message SyncTimestampV1}
  {link : Admission} {id : String} {stream : StreamPipeline}

/-- The Receiver reads back the identity that the edge signed. -/
theorem Aligned.verifies (h : Aligned deployment policy link) (halive : link.host.alive = true)
    (hstream : link.host.edge.running[id]? = some (.stream stream)) :
    link.journal.registry.verify stream.streamId = .ok stream.identity := by
  rw [h.verify]
  refine Identity.parseAndVerify_eq_ok.mpr (Identity.encodeSigned_eq_ok.mp ?_)
  exact ((h.sound.settled halive).working.runs id stream hstream).signed

theorem Aligned.edge (hserde : deployment.codec.RoundTrips) (h : Aligned deployment policy link)
    (action : HostAction) (hproper : link.Proper (.edge action)) :
    Aligned deployment policy (link.step deployment codec (.edge action)) := by
  refine ⟨(h.sound.step hserde action).1, h.consistent, h.verify, ?_⟩
  cases action with
  | start process =>
    obtain ⟨saved, hsaved, -⟩ := h.sound.restored
    rw [step, Host.step_start process hsaved]
    intro _ camera highest hhighest
    rw [hproper camera] at hhighest
    cases hhighest
  | turn input =>
    cases halive : link.host.alive with
    | false =>
      have hdead : (link.host.step deployment (.turn input)).alive = false := by
        simp [Host.step, halive]
      rw [step, hdead]
      exact fun halive => absurd halive Bool.false_ne_true
    | true =>
      rcases Host.step_turn_cases hserde h.sound halive input with
        ⟨edge, hedge, hdone⟩ | ⟨edge, hedge, -⟩
      · rw [step, hedge]
        intro _ camera highest hhighest
        obtain ⟨old, hold, hle⟩ := h.behind halive camera highest hhighest
        obtain ⟨epoch, hepoch, hgrown⟩ := hdone.epochs camera old hold
        exact ⟨epoch, hepoch, UInt32.le_trans hle hgrown⟩
      · rw [step, hedge]
        exact fun halive => absurd halive Bool.false_ne_true

/-- A call of the Receiver keeps the invariant if what it accepts of the
process's session is no newer than the edge's count. -/
theorem Aligned.perform (h : Aligned deployment policy link) (call : RegistryCall)
    (hown : link.host.alive = true → ∀ listenPort raw identity, call = .accept listenPort raw →
      link.journal.registry.verify raw = .ok identity →
      identity.sessionId = link.host.process.sessionId →
        ∃ epoch, link.host.edge.streamEpochs[identity.cameraId]? = some epoch ∧
          identity.epoch ≤ epoch) :
    Aligned deployment policy ⟨link.host, link.journal.perform codec call⟩ := by
  obtain ⟨hverify, hepochs⟩ := perform_epochs codec link.journal call
  refine ⟨h.sound, Journal.consistent_perform _ _ h.consistent, hverify.trans h.verify, ?_⟩
  intro halive camera highest hhighest
  rcases hepochs with hsame | ⟨listenPort, raw, identity, hcall, hidentity, hnext⟩
  · rw [hsame] at hhighest
    exact h.behind halive camera highest hhighest
  · rw [hnext, withAccepted_highestEpoch] at hhighest
    split at hhighest
    · rename_i hsame
      obtain ⟨hsession, rfl⟩ := Prod.mk.inj hsame
      cases hhighest
      exact hown halive listenPort raw identity hcall hidentity hsession
    · exact h.behind halive camera highest hhighest

/-- The step lemma. -/
theorem Aligned.step (hserde : deployment.codec.RoundTrips) (link : Admission)
    (action : AdmissionAction) (h : Aligned deployment policy link) (hproper : link.Proper action) :
    Aligned deployment policy (link.step deployment codec action) := by
  cases action with
  | edge action => exact h.edge hserde action hproper
  | connect id =>
    rw [Admission.step]
    cases hstream : link.host.streamOf id with
    | none => exact h
    | some stream =>
      refine h.perform (.accept stream.port stream.streamId) ?_
      intro halive listenPort raw identity hcall hidentity _
      cases hcall
      have hrunning := Host.streamOf_eq_some hstream
      rw [h.verifies halive hrunning] at hidentity
      cases hidentity
      have hruns := (h.sound.settled halive).working.runs id stream hrunning
      exact ⟨stream.identity.epoch, hruns.cameraId ▸ hruns.epoch, UInt32.le_refl _⟩
  | receiver call =>
    refine h.perform call ?_
    rintro - listenPort raw identity rfl hidentity hsession
    exact absurd hsession (hproper identity hidentity)

theorem aligned_first (deployment : Deployment Regex) (policy : ReceiverPolicy)
    (process : EdgeProcess) : Aligned deployment policy (first deployment policy process) where
  sound := Host.sound_first process
  consistent := Journal.consistent_start policy _
  verify := rfl
  behind := by simp [first, Journal.start, ReceiverRegistry.new]

/-! ## Admission -/

theorem Admits.checkIdentity (hadmits : Admits policy deployment)
    (h : Aligned deployment policy link) (halive : link.host.alive = true)
    (hstream : link.host.edge.running[id]? = some (.stream stream)) :
    link.journal.registry.checkIdentity stream.port stream.identity = .ok () := by
  have hsettled := h.sound.settled halive
  have hruns := hsettled.working.runs id stream hstream
  have hbelow := ((Host.streamsApart_of_settled hsettled).runs id stream hstream).2
  have hpolicy := h.consistent.samePolicy
  have hslot : ¬ policy.maxCameras ≤ stream.identity.slot :=
    UInt16.not_le.mpr (UInt16.lt_of_lt_of_le hbelow hadmits.maxCameras)
  have hinstance : ¬ policy.expectedEdgeInstanceId.any (· ≠ stream.identity.edgeInstanceId) := by
    rw [hruns.edgeInstanceId]
    cases hexpected : policy.expectedEdgeInstanceId with
    | none => simp
    | some expected => simp [hadmits.edgeInstanceId expected hexpected]
  have hport : stream.identity.validateListenPort policy.basePort stream.port = .ok () := by
    have hfits := hruns.port
    have hbound := stream.port.toNat_lt
    rw [← hadmits.basePort] at hfits
    have hexpected : policy.basePort + stream.identity.slot = stream.port := by
      apply UInt16.toNat_inj.mp
      rw [UInt16.toNat_add, Nat.mod_eq_of_lt (by omega), hfits]
    rw [StreamIdentity.validateListenPort, StreamIdentity.expectedPort, if_pos (by omega), hexpected]
    simp [bind, Except.bind]
  rw [ReceiverRegistry.checkIdentity, hpolicy, if_neg, if_neg hinstance, if_neg hslot, hport]
  · rfl
  · rw [hruns.embodimentId, hadmits.embodimentId]
    exact not_not.mpr rfl

/-- Connections of other streams leave room: they have slots of their own. -/
theorem Admits.room (hadmits : Admits policy deployment) (h : Aligned deployment policy link)
    (halive : link.host.alive = true)
    (hstream : link.host.edge.running[id]? = some (.stream stream)) (hothers : link.OnlyOthers id) :
    link.journal.registry.connectedStreams.length < policy.maxCameras.toNat := by
  have hapart := Host.streamsApart_of_settled (h.sound.settled halive)
  -- the slots of the open connections, and the one of the stream
  have hnodup : (stream.identity.slot.toNat :: link.journal.registry.connectedStreams.map
      fun entry => entry.2.identity.slot.toNat).Nodup := by
    refine List.nodup_cons.mpr ⟨?_, ?_⟩
    · intro hmem
      obtain ⟨entry, hentry, hslot⟩ := List.mem_map.mp hmem
      obtain ⟨other, stream', hne, hother, hidentity⟩ := hothers entry hentry
      rw [hidentity] at hslot
      exact (hapart.apart other id stream' stream hother hstream hne).1 (UInt16.toNat_inj.mp hslot)
    · refine List.pairwise_map.mpr (List.Pairwise.imp_of_mem ?_
        (List.pairwise_map.mp link.journal.registry.nodup_connectedKeys))
      intro entry entry' hentry hentry' hkeys hslot
      obtain ⟨other, stream', -, hother, hidentity⟩ := hothers entry hentry
      obtain ⟨other', stream'', -, hother', hidentity'⟩ := hothers entry' hentry'
      rw [hidentity, hidentity'] at hslot
      have hsame : other = other' := by
        by_contra hne
        exact (hapart.apart other other' stream' stream'' hother hother' hne).1
          (UInt16.toNat_inj.mp hslot)
      rw [hsame, hother'] at hother
      cases hother
      have hkey := (h.consistent.records _ _ (mem_connectedStreams.mp hentry).1).1
      have hkey' := (h.consistent.records _ _ (mem_connectedStreams.mp hentry').1).1
      exact hkeys (by rw [← hkey, ← hkey', hidentity, hidentity'])
  have hbelow : ∀ (other : String) (stream' : StreamPipeline),
      link.host.edge.running[other]? = some (.stream stream') →
        stream'.identity.slot.toNat < policy.maxCameras.toNat := by
    intro other stream' hother
    exact UInt16.lt_iff_toNat_lt.mp
      (UInt16.lt_of_lt_of_le (hapart.runs other stream' hother).2 hadmits.maxCameras)
  have hsubset : (stream.identity.slot.toNat :: link.journal.registry.connectedStreams.map
      fun entry => entry.2.identity.slot.toNat) ⊆ List.range policy.maxCameras.toNat := by
    intro slot hslot
    rw [List.mem_range]
    rcases List.mem_cons.mp hslot with rfl | hslot
    · exact hbelow id stream hstream
    · obtain ⟨entry, hentry, rfl⟩ := List.mem_map.mp hslot
      obtain ⟨other, stream', -, hother, hidentity⟩ := hothers entry hentry
      rw [hidentity]
      exact hbelow other stream' hother
  have hlength := (hnodup.subperm hsubset).length_le
  simpa [Nat.succ_le_iff] using hlength

/-- A stream that runs is accepted, once the connections of streams that no
longer run are closed. -/
theorem running_streams_admitted (deployment : Deployment Regex)
    (hserde : deployment.codec.RoundTrips) (policy : ReceiverPolicy)
    (hadmits : Admits policy deployment) (codec : Message SyncTimestampV1) (process : EdgeProcess)
    (actions : List AdmissionAction)
    (hproper : Meets (step deployment codec) Proper (first deployment policy process) actions)
    (link : Admission)
    (hlink : link = run (step deployment codec) (first deployment policy process) actions)
    (halive : link.host.alive = true) (id : String) (stream : StreamPipeline)
    (hstream : link.host.edge.running[id]? = some (.stream stream))
    (hothers : link.OnlyOthers id) :
    link.journal.registry.accept stream.port stream.streamId =
      (.ok (keyOf stream.identity),
        link.journal.registry.withAccepted stream.port stream.identity) := by
  have h : Aligned deployment policy link :=
    hlink ▸ run_invariant (Aligned.step hserde) (aligned_first deployment policy process) hproper
  have hsettled := h.sound.settled halive
  have hruns := hsettled.working.runs id stream hstream
  have hapart := Host.streamsApart_of_settled hsettled
  refine accept_of_checks (h.verifies halive hstream)
    ⟨hadmits.checkIdentity h halive hstream, ?_, ?_, ?_⟩
  · rw [h.consistent.samePolicy]
    exact hadmits.room h halive hstream hothers
  · intro entry hentry _
    obtain ⟨other, stream', hne, hother, hidentity⟩ := hothers entry hentry
    have hruns' := hsettled.working.runs other stream' hother
    rw [hidentity, hruns'.cameraId, hruns.cameraId]
    exact ⟨hne, (hapart.apart other id stream' stream hother hstream hne).1⟩
  · intro highest hhighest
    rw [hruns.sessionId, hruns.cameraId] at hhighest
    obtain ⟨epoch, hepoch, hle⟩ := h.behind halive id highest hhighest
    rw [hruns.epoch] at hepoch
    cases hepoch
    exact hle

end Runs

def deskPolicy : ReceiverPolicy := ⟨"arms", some "edge", 10000, 4, 8, 64⟩

/-- Both cameras stream, and the first one connects. -/
def deskActions : List AdmissionAction :=
  [.edge (.turn (Host.deskInput [Host.frontCamera, Host.sideCamera])), .connect Host.frontId]

def deskLink : Admission :=
  run (step (Host.deskDeployment "") (wireExternals [] [] [] [] []).timestamp)
    (first (Host.deskDeployment "") deskPolicy (Host.deskProcess 1)) deskActions

theorem deskActions_proper :
    Meets (step (Host.deskDeployment "") (wireExternals [] [] [] [] []).timestamp) Proper
      (first (Host.deskDeployment "") deskPolicy (Host.deskProcess 1)) deskActions := by
  have hhost : (Host.first (Host.deskProcess 1)).step (Host.deskDeployment "")
      (.turn (Host.deskInput [Host.frontCamera, Host.sideCamera])) = Host.deskHost "" := by
    rw [Host.deskHost, run_cons, run_nil]
  have halive := Host.desk_facts.1.1
  rw [← hhost] at halive
  exact ⟨trivial, halive, trivial⟩

theorem running_streams_admitted_deskLink :
    ∃ stream, deskLink.host.edge.running[Host.sideId]? = some (.stream stream) ∧
      (deskLink.journal.registry.accept stream.port stream.streamId).1 =
        .ok (keyOf stream.identity) := by
  have hfacts : deskLink.host.alive = true ∧
      ((deskLink.host.streamOf Host.frontId).isSome = true ∧
        (deskLink.host.streamOf Host.sideId).isSome = true) ∧
      deskLink.journal.registry.connectedStreams.map (fun entry => entry.2.identity) =
        (deskLink.host.streamOf Host.frontId).toList.map (fun stream => stream.identity) := by
    decide +kernel
  obtain ⟨halive, ⟨hfront, hside⟩, hconnected⟩ := hfacts
  obtain ⟨front, hfront⟩ := Option.isSome_iff_exists.mp hfront
  obtain ⟨side, hside⟩ := Option.isSome_iff_exists.mp hside
  have hothers : deskLink.OnlyOthers Host.sideId := by
    intro entry hentry
    have hidentity : entry.2.identity ∈
        deskLink.journal.registry.connectedStreams.map fun entry => entry.2.identity :=
      List.mem_map.mpr ⟨entry, hentry, rfl⟩
    rw [hconnected, hfront] at hidentity
    exact ⟨Host.frontId, front, by decide, Host.streamOf_eq_some hfront, List.mem_singleton.mp hidentity⟩
  have haccepted := running_streams_admitted (Host.deskDeployment "")
    (Host.deskDeployment_roundTrips "") deskPolicy ⟨rfl, by simp [deskPolicy, Host.deskDeployment],
      rfl, by decide⟩ _ (Host.deskProcess 1) deskActions deskActions_proper deskLink rfl halive
    Host.sideId side (Host.streamOf_eq_some hside) hothers
  exact ⟨side, Host.streamOf_eq_some hside, congrArg Prod.fst haccepted⟩

end Admission

end RobotMulticam.Link
