import RobotMulticam.Lib.Pointwise
import RobotMulticam.Receiver.Bookkeeping
import RobotMulticam.Receiver.Catalog

/-!
# Replay of a recorded connection

`robot-replay-verify` reads the access units of one recorded connection back
and forms their steps again. It has a bootstrap of its own: one reassembler
for all chunks of the record, `validate_manifest` with the recorded stream as
the only transport, and a synchronizer that nothing is ever pushed into.

A context names its session and its revision, so a replayed step agrees with
the live one whenever there are both. What decides is whether the replay
returns at all: `replay_agrees_iff` says that the chunks of the record have
to pass one reassembler until a manifest is complete, that this manifest must
stream the recorded camera and no other, and that every context must fit it.
The chunks that bootstrapped the live session pass
(`Bootstraps.reassembles`). A second streamed camera does not, nor does a
manifest that was replaced in the middle of the record.
-/

namespace RobotMulticam.Receiver

open RobotMulticam.Lib
open RobotMulticam.Protocol
open RobotMulticam.Codec
open RobotMulticam.Identity
open StepSynchronizer (streamedCameras otherCameras)
open ManifestReassembler

inductive ReplayError where
  | codec (error : CodecError)
  | missingTimestamp
  | manifestChunk
  | reassembly (error : ManifestError)
  | missingManifest
  | identity (error : IdentityError)
  | synchronize (error : SynchronizeError)
  | missingContext
  deriving DecidableEq

/-- An access unit of the record, with the PTS the replay's demuxer gives it. -/
structure RecordedUnit where
  ptsNs : UInt64
  accessUnit : List UInt8

structure ReplayedAccessUnit where
  captureTimeEdgeNs : UInt64
  normalizedPtsNs : UInt64
  accessUnitOrdinal : UInt64
  contextPacket : Option (List UInt8)
  manifestChunks : List SessionManifestChunkV1

variable (externals : Externals) (identity : StreamIdentity)

/-- What `replay_segment` makes of one access unit. -/
def replayUnit (unit : RecordedUnit) (ordinal : Nat) :
    Outcome ReplayError ReplayedAccessUnit := do
  let inspected ← mapErr .codec
    (inspectH264AnnexB externals.timestamp unit.accessUnit (identity.role = .secondary))
  let inspected ← okOr .missingTimestamp inspected
  let manifestChunks ← (inspected.messages.filter (·.uuid = sessionManifestUuid)).mapM
    fun message => okOr .manifestChunk (externals.chunk.decode message.payload)
  pure {
    captureTimeEdgeNs := inspected.timestamp.captureTimeEdgeNs
    normalizedPtsNs := unit.ptsNs
    accessUnitOrdinal := UInt64.ofNat ordinal
    contextPacket := (inspected.messages.find? (·.uuid = anchorContextUuid)).map (·.payload)
    manifestChunks }

def replayUnits (units : List RecordedUnit) : Outcome ReplayError (List ReplayedAccessUnit) :=
  units.zipIdx.mapM fun entry => replayUnit externals identity entry.1 entry.2

/-! ## The manifest -/

/-- Ten seconds. -/
def replayTimeout : Nat := 10000000000

/-- The clock of the replay counts access units, one a nanosecond. -/
def replayDeliveries (units : List ReplayedAccessUnit) : List Delivery :=
  units.flatMap fun unit =>
    unit.manifestChunks.map (⟨·, unit.accessUnitOrdinal.toNat⟩)

/-- Both loops end with the first manifest that is complete, so they are one
loop over all chunks. -/
def replayManifest (externals : Externals) :
    List Delivery → Option ManifestReassembler → Except ManifestError (Option (List UInt8))
  | [], _ => .ok none
  | delivery :: rest, none =>
    match ManifestReassembler.new externals delivery.chunk delivery.now replayTimeout with
    | .error error => .error error
    | .ok value =>
      match value.insert externals delivery.chunk delivery.now with
      | (.error error, _) => .error error
      | (.ok (some bytes), _) => .ok (some bytes)
      | (.ok none, value) => replayManifest externals rest (some value)
  | delivery :: rest, some value =>
    match value.insert externals delivery.chunk delivery.now with
    | (.error error, _) => .error error
    | (.ok (some bytes), _) => .ok (some bytes)
    | (.ok none, value) => replayManifest externals rest (some value)

/-! ## The steps -/

def replayedFrame (unit : ReplayedAccessUnit) : StoredFrame where
  cameraId := identity.cameraId
  captureTimeEdgeNs := unit.captureTimeEdgeNs
  streamEpoch := identity.epoch
  normalizedPtsNs := unit.normalizedPtsNs
  accessUnitOrdinal := unit.accessUnitOrdinal
  storageUri := ""
  encodedImage := []

def replaySteps (externals : Externals) (identity : StreamIdentity) :
    List ReplayedAccessUnit → StepSynchronizer → Except ReplayError (List SynchronizedDatasetStep)
  | [], _ => .ok []
  | unit :: rest, synchronizer =>
    match unit.contextPacket with
    | none => .error .missingContext
    | some packet =>
      match synchronizer.anchorStep externals (replayedFrame identity unit) packet false with
      | (.error error, _) => .error (.synchronize error)
      | (.ok step, synchronizer) =>
        match replaySteps externals identity rest synchronizer with
        | .error error => .error error
        | .ok steps => .ok (step :: steps)

/-- The transport the replay validates with. -/
def replayTransport (listenPort : UInt16) : ConnectedCamera :=
  ⟨identity.cameraId, identity.slot.toUInt32, identity.epoch, listenPort⟩

/-- The steps are the ones the tool encodes, in order. -/
def reconstructSteps (accessUnits : List ReplayedAccessUnit) (basePort : UInt16) :
    Except ReplayError (List SynchronizedDatasetStep) := do
  let completed ← (replayManifest externals (replayDeliveries accessUnits) none).mapError
    .reassembly
  match completed with
  | none => .error .missingManifest
  | some manifestBytes =>
    let listenPort ← (identity.expectedPort basePort).mapError .identity
    let manifest ← (validateManifest externals manifestBytes
      [replayTransport identity listenPort] basePort).mapError .synchronize
    let synchronizer ← (StepSynchronizer.new manifest 64 1000000).mapError .synchronize
    replaySteps externals identity accessUnits synchronizer

/-- The record is read back, and its steps are formed. -/
def replay (units : List RecordedUnit) (basePort : UInt16) :
    Outcome ReplayError (List SynchronizedDatasetStep) := do
  let accessUnits ← replayUnits externals identity units
  (reconstructSteps externals identity accessUnits basePort).mapError .err

/-! ## What one reassembler takes -/

/-- The reassembler accepts the next chunks until these bytes are complete. -/
def Takes (reassembler : ManifestReassembler) (deliveries : List Delivery) (bytes : List UInt8) :
    Prop :=
  ∃ used rest, deliveries = used ++ rest ∧
    Meets (deliver externals)
      (fun reassembler delivery => reassembler.Accepts delivery.chunk delivery.now)
      reassembler used ∧
    (run (deliver externals) reassembler used).complete externals =
      .ok (some bytes)

/-- The first chunk of the record starts a reassembler that takes the next
ones until these bytes are complete. -/
def Reassembles (deliveries : List Delivery) (bytes : List UInt8) : Prop :=
  ∃ first rest value, deliveries = first :: rest ∧
    ManifestReassembler.new externals first.chunk first.now replayTimeout = .ok value ∧
    Takes externals value rest bytes

section Chunks

variable {externals : Externals} {self : ManifestReassembler} {delivery : Delivery}
  {deliveries used : List Delivery} {bytes : List UInt8}

/-- Chunks that are accepted by a full reassembler leave it as it is. -/
theorem run_deliver_of_full (hfilled : self.Filled)
    (hfull : self.chunks.any Option.isNone = false)
    (haccepts : Meets (deliver externals)
      (fun reassembler delivery => reassembler.Accepts delivery.chunk delivery.now) self used) :
    run (deliver externals) self used = self := by
  induction used with
  | nil => rfl
  | cons delivery used ih =>
    have hsame : self.deliver externals delivery = self := by
      rw [deliver,
        insert_of_accepts externals hfilled haccepts.1]
      exact store_of_full hfull haccepts.1
    have hrest := haccepts.2
    rw [hsame] at hrest
    rw [run_cons, hsame]
    exact ih hrest

/-- With a full reassembler the bytes are decided. -/
theorem takes_of_full (hfilled : self.Filled) (hfull : self.chunks.any Option.isNone = false) :
    Takes externals self deliveries bytes ↔ self.complete externals = .ok (some bytes) := by
  constructor
  · rintro ⟨used, rest, _, hused, hbytes⟩
    rwa [run_deliver_of_full hfilled hfull hused] at hbytes
  · intro hcomplete
    exact ⟨[], deliveries, rfl, trivial, hcomplete⟩

/-- With an empty slot the next chunk is needed. -/
theorem takes_cons (hfree : self.complete externals = .ok none) :
    Takes externals self (delivery :: deliveries) bytes ↔
      self.Accepts delivery.chunk delivery.now ∧
        Takes externals (self.deliver externals delivery) deliveries bytes := by
  constructor
  · rintro ⟨used, rest, hsplit, haccepts, hcomplete⟩
    cases used with
    | nil =>
      rw [run_nil, hfree] at hcomplete
      cases hcomplete
    | cons other used =>
      cases hsplit
      exact ⟨haccepts.1, used, rest, rfl, haccepts.2, hcomplete⟩
  · rintro ⟨haccepts, used, rest, rfl, hused, hcomplete⟩
    exact ⟨delivery :: used, rest, rfl, ⟨haccepts, hused⟩, hcomplete⟩

/-- The loop with a reassembler that has an empty slot. -/
theorem replayManifest_some_iff (hfilled : self.Filled)
    (hfree : self.complete externals = .ok none) :
    replayManifest externals deliveries (some self) = .ok (some bytes) ↔
      Takes externals self deliveries bytes := by
  induction deliveries generalizing self with
  | nil =>
    constructor
    · intro h
      cases h
    · rintro ⟨used, rest, hsplit, _, hcomplete⟩
      obtain ⟨rfl, rfl⟩ := List.append_eq_nil_iff.mp hsplit.symm
      rw [run_nil, hfree] at hcomplete
      cases hcomplete
  | cons delivery deliveries ih =>
    rw [takes_cons hfree, replayManifest]
    by_cases haccepts : self.Accepts delivery.chunk delivery.now
    · have hinsert := insert_of_accepts externals hfilled haccepts
      have hnext : (self.store delivery.chunk).Filled := hfilled.store haccepts
      rw [deliver, hinsert, and_iff_right haccepts]
      cases hcomplete : (self.store delivery.chunk).complete externals with
      | error error =>
        rw [takes_of_full hnext (full_of_complete_error hcomplete),
          hcomplete]
      | ok answer =>
        cases answer with
        | none => exact ih hnext hcomplete
        | some found =>
          rw [takes_of_full hnext (complete_eq_some hcomplete).1,
            hcomplete]
    · obtain ⟨error, hrefused⟩ := insert_of_not_accepts externals haccepts
      rw [hrefused]
      simp [haccepts]

/-- The replay finds a manifest exactly if one reassembler takes all chunks
until it is complete. -/
theorem replayManifest_iff :
    replayManifest externals deliveries none = .ok (some bytes) ↔
      Reassembles externals deliveries bytes := by
  cases deliveries with
  | nil => simp [replayManifest, Reassembles]
  | cons delivery deliveries =>
    rw [replayManifest]
    cases hnew : ManifestReassembler.new externals delivery.chunk delivery.now replayTimeout with
    | error error => simp [Reassembles, hnew]
    | ok value =>
      have hstarted : Reassembles externals (delivery :: deliveries) bytes ↔
          Takes externals value deliveries bytes := by
        simp [Reassembles, hnew]
      obtain ⟨hvalid, hvalue⟩ := new_eq_ok hnew
      have hfilled : value.Filled := by
        rw [hvalue]
        exact (filled_start hvalid _ _).store
          (accepts_start hvalid _ _)
      obtain ⟨answer, hcomplete, hinsert⟩ := insert_of_new hnew
      rw [hstarted]
      simp only [hinsert]
      cases answer with
      | none => exact replayManifest_some_iff hfilled hcomplete
      | some found =>
        rw [takes_of_full hfilled (complete_eq_some hcomplete).1,
          hcomplete]

end Chunks

/-! ## A live bootstrap -/

/-- The same slots on the clock of the replay. -/
def onReplayClock (live : ManifestReassembler) (startedAt : Nat) : ManifestReassembler :=
  { live with startedAt, timeout := replayTimeout }

/-- The chunk an action gives to the session, and the answer. -/
def World.answering (id : Uuid) (world : World) (action : Action) :
    List (SessionManifestChunkV1 × Except ManifestError (Option (List UInt8))) :=
  ((world.collecting externals action).filter (·.1 = id)).toList.map fun message =>
    (message.2.1, ((world.runtime.session id).collectChunk externals message.2.1 message.2.2
      world.runtime.manifestTimeout).1)

/-- Up to here the session has no manifest. It takes chunk after chunk of one
revision, and the last one completes the bytes. -/
structure Bootstraps (externals : Externals) (id : Uuid) (world : World) (actions : List Action)
    (chunks : List SessionManifestChunkV1) (last : SessionManifestChunkV1) (bytes : List UInt8) :
    Prop where
  waits : Meets (World.step externals)
    (fun world action => ((world.step externals action).runtime.session id).manifest = none)
    world actions
  collected : outputs (World.step externals) (World.answering externals id) world actions =
    chunks.map (·, .ok none) ++ [(last, .ok (some bytes))]
  revision : ∀ chunk ∈ chunks, chunk.manifestRevision = last.manifestRevision

/-- What the session has of a manifest, and what the replay has. -/
def Mirrors (revision : UInt64) (session : SessionRuntime) (replay : Option ManifestReassembler) :
    Prop :=
  session.manifest = none ∧
    ((session.reassembler = none ∧ replay = none) ∨
      ∃ live startedAt, session.reassembler = some live ∧ session.reassemblyRevision = revision ∧
        live.Filled ∧ replay = some (onReplayClock live startedAt))

section Bootstrap

variable {externals : Externals} {live next : ManifestReassembler}
  {chunk : SessionManifestChunkV1} {now timeout later : Nat} {answer : Option (List UInt8)}
  {session : SessionRuntime} {id : Uuid} {world : World} {chunks rest : List SessionManifestChunkV1}
  {last : SessionManifestChunkV1}

/-- A chunk that is taken live is taken on the clock of the replay. -/
theorem insert_onReplayClock (hfilled : live.Filled)
    (h : live.insert externals chunk now = (.ok answer, next)) (startedAt : Nat)
    (hlater : later ≤ replayTimeout) :
    next.Filled ∧ (onReplayClock live startedAt).insert externals chunk later =
      (.ok answer, onReplayClock next startedAt) := by
  by_cases haccepts : live.Accepts chunk now
  · rw [insert_of_accepts externals hfilled haccepts] at h
    obtain ⟨hanswer, rfl⟩ := Prod.mk.inj h
    have hagain : (onReplayClock live startedAt).Accepts chunk later :=
      ⟨(Nat.sub_le _ _).trans hlater, haccepts.valid, haccepts.header, haccepts.slot⟩
    have hfilledAgain : (onReplayClock live startedAt).Filled :=
      ⟨hfilled.few, hfilled.small, hfilled.received⟩
    refine ⟨hfilled.store haccepts, ?_⟩
    rw [insert_of_accepts externals hfilledAgain hagain]
    exact Prod.ext hanswer rfl
  · obtain ⟨error, hrefused⟩ := insert_of_not_accepts externals haccepts
    rw [hrefused] at h
    cases h

theorem new_onReplayClock (h : ManifestReassembler.new externals chunk now timeout = .ok live)
    (later : Nat) :
    live.Filled ∧ ManifestReassembler.new externals chunk later replayTimeout =
      .ok (onReplayClock live later) := by
  obtain ⟨hvalid, rfl⟩ := new_eq_ok h
  obtain ⟨answer, hcomplete, _⟩ := insert_of_new h
  refine ⟨(filled_start hvalid _ _).store
    (accepts_start hvalid _ _), ?_⟩
  rw [new_eq externals chunk later _ hvalid]
  exact congrArg (Except.map _) hcomplete

/-- A chunk that the session takes takes the replay as far. -/
theorem Mirrors.collect {replay : Option ManifestReassembler}
    (h : Mirrors chunk.manifestRevision session replay)
    (hanswer : (session.collectChunk externals chunk now timeout).1 = .ok answer)
    (hlater : later ≤ replayTimeout) (rest : List Delivery) :
    ∃ next, Mirrors chunk.manifestRevision
        (session.collectChunk externals chunk now timeout).2 (some next) ∧
      replayManifest externals (⟨chunk, later⟩ :: rest) replay =
        answer.elim (replayManifest externals rest (some next)) fun bytes => .ok (some bytes) := by
  obtain ⟨hmanifest, hparts⟩ := h
  rcases collectChunk_cases externals session chunk now timeout with
    ⟨hheld, _⟩ | ⟨_, hnone, ⟨error, _, hrefused⟩ | ⟨started, found, hnew, hsecond, hstarted⟩⟩ |
    ⟨_, hrevision, reassembler, hreassembler, hinserted⟩
  · rw [hmanifest] at hheld
    cases hheld
  · rw [hrefused] at hanswer
    cases hanswer
  · -- the first chunk starts both
    rw [hstarted] at hanswer ⊢
    cases hanswer
    obtain rfl : replay = none := by
      rcases hparts with ⟨_, hreplay⟩ | ⟨live, _, hlive, hsame, _⟩
      · exact hreplay
      · rcases hnone with hnone | hother
        · cases hnone.symm.trans hlive
        · exact absurd hsame hother
    obtain ⟨hfilled, hagain⟩ := new_onReplayClock hnew later
    obtain ⟨_, hinsert⟩ := insert_onReplayClock hfilled hsecond later hlater
    refine ⟨onReplayClock started later,
      ⟨hmanifest, Or.inr ⟨started, later, rfl, rfl, hfilled, rfl⟩⟩, ?_⟩
    simp only [replayManifest, hagain, hinsert]
    cases answer <;> rfl
  · rw [hinserted] at hanswer ⊢
    rcases hparts with ⟨hnone, _⟩ | ⟨live, startedAt, hlive, _, hfilled, rfl⟩
    · cases hnone.symm.trans hreassembler
    · cases hlive.symm.trans hreassembler
      obtain ⟨hnext, hinsert⟩ :=
        insert_onReplayClock hfilled (Prod.ext hanswer rfl) startedAt hlater
      refine ⟨_, ⟨hmanifest, Or.inr ⟨_, startedAt, rfl, hrevision, hnext, rfl⟩⟩, ?_⟩
      simp only [replayManifest, hinsert]
      cases answer <;> rfl

/-- An action gives the session no chunk and leaves what it has of a manifest
alone, or gives it one. -/
theorem answering_step {id : Uuid} {world : World} {action : Action}
    (hwaits : ((world.step externals action).runtime.session id).manifest = none) :
    (world.answering externals id action = [] ∧
      ∀ revision replay, Mirrors revision (world.runtime.session id) replay →
        Mirrors revision ((world.step externals action).runtime.session id) replay) ∨
    ∃ chunk now timeout,
      world.answering externals id action =
        [(chunk, ((world.runtime.session id).collectChunk externals chunk now timeout).1)] ∧
      (world.step externals action).runtime.session id =
        ((world.runtime.session id).collectChunk externals chunk now timeout).2 := by
  rcases world.step_reassembly externals action with
    ⟨other, chunk, now, hcollecting, hnext⟩ | ⟨hcollecting, hkept⟩
  · by_cases hid : other = id
    · subst hid
      refine Or.inr ⟨chunk, now, world.runtime.manifestTimeout, ?_, ?_⟩
      · simp [World.answering, hcollecting]
      · rw [hnext, setSession_session_self]
    · refine Or.inl ⟨by simp [World.answering, hcollecting, hid], fun _ _ h => ?_⟩
      rwa [hnext, setSession_session_of_ne hid]
  · refine Or.inl ⟨by simp [World.answering, hcollecting], fun _ _ h => ?_⟩
    rcases hkept id with ⟨_, hthere⟩ | ⟨hreassembler, hrevision⟩
    · rw [hwaits] at hthere
      cases hthere
    · rw [Mirrors, hreassembler, hrevision]
      exact ⟨hwaits, h.2⟩

/-- The replay's loop over the chunks a session has taken. -/
theorem replayManifest_of_live {actions : List Action} {bytes : List UInt8}
    {replay : Option ManifestReassembler} {deliveries : List Delivery}
    (h : Bootstraps externals id world actions chunks last bytes)
    (hmirrors : Mirrors last.manifestRevision (world.runtime.session id) replay)
    (hrecord : deliveries.map (·.chunk) = chunks ++ last :: rest)
    (hclock : ∀ delivery ∈ deliveries, delivery.now ≤ replayTimeout) :
    replayManifest externals deliveries replay = .ok (some bytes) := by
  induction actions generalizing world chunks deliveries replay with
  | nil => simpa [outputs] using h.collected
  | cons action actions ih =>
    obtain ⟨⟨hwaits, hrest⟩, hcollected, hrevision⟩ := h
    rw [outputs] at hcollected
    rcases answering_step hwaits with ⟨hnone, hkept⟩ | ⟨chunk, now, timeout, hone, hsession⟩
    · rw [hnone, List.nil_append] at hcollected
      exact ih ⟨hrest, hcollected, hrevision⟩ (hkept _ _ hmirrors) hrecord hclock
    · rw [hone] at hcollected
      cases deliveries with
      | nil => simp at hrecord
      | cons delivery deliveries =>
        obtain ⟨hnow, hlater⟩ := List.forall_mem_cons.mp hclock
        cases chunks with
        | nil =>
          obtain ⟨rfl, hanswer⟩ := Prod.mk.inj (List.cons.inj hcollected).1
          obtain ⟨rfl, -⟩ := List.cons.inj hrecord
          obtain ⟨next, -, hreplay⟩ := hmirrors.collect hanswer hnow deliveries
          exact hreplay
        | cons first chunks =>
          obtain ⟨hentry, hentries⟩ := List.cons.inj hcollected
          obtain ⟨rfl, hanswer⟩ := Prod.mk.inj hentry
          obtain ⟨rfl, hunits⟩ := List.cons.inj hrecord
          obtain ⟨hfirst, hothers⟩ := List.forall_mem_cons.mp hrevision
          rw [← hfirst] at hmirrors
          obtain ⟨next, hnext, hreplay⟩ := hmirrors.collect hanswer hnow deliveries
          rw [← hsession, hfirst] at hnext
          rw [hreplay]
          exact ih ⟨hrest, hentries, hothers⟩ hnext hunits hlater

/-- A record that starts with the chunks that bootstrapped the session makes
the same bytes: its units are counted in nanoseconds, so none is late. -/
theorem Bootstraps.reassembles {actions : List Action} {bytes : List UInt8}
    {replayed : List ReplayedAccessUnit}
    (h : Bootstraps externals id world actions chunks last bytes)
    (hfresh : world.runtime.session id = {})
    (hrecord : (replayDeliveries replayed).map (·.chunk) = chunks ++ last :: rest)
    (hclock : ∀ unit ∈ replayed, unit.accessUnitOrdinal.toNat ≤ replayTimeout) :
    Reassembles externals (replayDeliveries replayed) bytes := by
  have hmirrors : Mirrors last.manifestRevision (world.runtime.session id) none := by
    rw [hfresh]
    exact ⟨rfl, Or.inl ⟨rfl, rfl⟩⟩
  refine replayManifest_iff.mp (replayManifest_of_live h hmirrors hrecord ?_)
  intro delivery hdelivery
  obtain ⟨unit, hunit, hmem⟩ := List.mem_flatMap.mp hdelivery
  obtain ⟨chunk, _, rfl⟩ := List.mem_map.mp hmem
  exact hclock unit hunit

end Bootstrap

/-! ## The only camera -/

/-- The manifest streams one camera, the recorded one, under the slot, the
epoch and the port of the recorded stream. -/
structure OnlyCamera (identity : StreamIdentity) (basePort : UInt16)
    (manifest : SessionManifestV1) (camera : CameraDescriptorV1) : Prop where
  only : streamedCameras manifest = [camera]
  id : camera.stableCameraId = identity.cameraId
  slot : camera.streamSlot = identity.slot.toUInt32
  epoch : camera.streamEpoch = identity.epoch
  port : camera.transportPort.toNat = basePort.toNat + identity.slot.toNat
  fits : basePort.toNat + identity.slot.toNat < 2 ^ 16

section Camera

variable {externals : Externals} {identity : StreamIdentity} {basePort : UInt16}
  {bytes : List UInt8} {manifest : SessionManifestV1}

/-- The recorded stream passes as the only transport exactly if the manifest
is valid and streams only its camera. -/
theorem validateManifest_replay_iff :
    (∃ listenPort, identity.expectedPort basePort = .ok listenPort ∧
      validateManifest externals bytes [replayTransport identity listenPort] basePort =
        .ok manifest) ↔
      (∃ transports, validateManifest externals bytes transports basePort = .ok manifest) ∧
        ∃ camera, OnlyCamera identity basePort manifest camera := by
  have hslot : identity.slot.toUInt32.toNat = identity.slot.toNat := identity.slot.toNat_toUInt32
  constructor
  · rintro ⟨listenPort, hport, hvalid⟩
    obtain ⟨hsome, camera, honly, hid, hagrees⟩ := validateManifest_single_iff.mp hvalid
    refine ⟨hsome, camera, honly, hid, hagrees.slot.symm, hagrees.epoch.symm, ?_, ?_⟩
    · rw [hagrees.transportPort, ← hagrees.slot]
      exact congrArg (basePort.toNat + ·) hslot
    · unfold StreamIdentity.expectedPort at hport
      split at hport
      · assumption
      · cases hport
  · rintro ⟨hsome, camera, hcamera⟩
    have hlisten : (basePort + identity.slot).toNat = basePort.toNat + camera.streamSlot.toNat := by
      rw [UInt16.toNat_add, Nat.mod_eq_of_lt hcamera.fits, hcamera.slot, hslot]
    refine ⟨basePort + identity.slot, if_pos hcamera.fits, ?_⟩
    refine validateManifest_single_iff.mpr ⟨hsome, camera, hcamera.only, hcamera.id,
      hcamera.slot.symm, hcamera.epoch.symm, hlisten, ?_⟩
    rw [hcamera.port, hcamera.slot, hslot]

/-- The only streamed camera is the anchor, so a step needs no other. -/
theorem OnlyCamera.anchor {camera : CameraDescriptorV1}
    (h : OnlyCamera identity basePort manifest camera) {transports : List ConnectedCamera}
    (hvalid : validateManifest externals bytes transports basePort = .ok manifest) :
    identity.cameraId = manifest.anchorCameraId ∧ otherCameras manifest = [] := by
  obtain ⟨_, _, anchor, hanchor, hid, hstreamed⟩ := validateManifest_eq_ok hvalid
  have hmem : anchor ∈ streamedCameras manifest :=
    List.mem_filter.mpr ⟨hanchor, by simp [hstreamed]⟩
  rw [h.only, List.mem_singleton] at hmem
  subst hmem
  refine ⟨h.id.symm.trans hid, ?_⟩
  have hothers : otherCameras manifest =
      (streamedCameras manifest).filter (·.stableCameraId != manifest.anchorCameraId) := by
    simp [otherCameras, streamedCameras, List.filter_filter, Bool.and_comm]
  rw [hothers, h.only]
  simp [hid]

end Camera

/-! ## The contexts -/

/-- The unit has a context that fits the manifest. -/
def CarriesContext (manifest : SessionManifestV1) (unit : ReplayedAccessUnit) : Prop :=
  ∃ payload packet context, unit.contextPacket = some payload ∧
    decodeAnchorContextPacket externals payload = .ok (packet, context) ∧
    validateContext manifest (replayedFrame identity unit) context = true

instance (externals : Externals) (identity : StreamIdentity) (manifest : SessionManifestV1)
    (unit : ReplayedAccessUnit) : Decidable (CarriesContext externals identity manifest unit) :=
  decidable_of_iff ((unit.contextPacket.bind fun payload =>
      (decodeAnchorContextPacket externals payload).toOption).any
    (fun decoded => validateContext manifest (replayedFrame identity unit) decoded.2) = true) (by
    cases hpacket : unit.contextPacket <;>
      simp [CarriesContext, hpacket, Option.any_eq_true, toOption_eq_some])

/-- What a replayed step says. -/
def ReplaysContext (manifest : SessionManifestV1) (unit : ReplayedAccessUnit)
    (step : SynchronizedDatasetStep) :
    Prop :=
  ∃ payload packet context, unit.contextPacket = some payload ∧
    decodeAnchorContextPacket externals payload = .ok (packet, context) ∧
    validateContext manifest (replayedFrame identity unit) context = true ∧
    contentOf step = stepContent manifest unit.captureTimeEdgeNs packet context

section Steps

variable {externals : Externals} {identity : StreamIdentity} {manifest : SessionManifestV1}
  {units : List ReplayedAccessUnit}

theorem replaySteps_eq_ok {synchronizer : StepSynchronizer} {steps : List SynchronizedDatasetStep}
    (hmanifest : synchronizer.manifest = manifest)
    (h : replaySteps externals identity units synchronizer = .ok steps) :
    List.Forall₂ (ReplaysContext externals identity manifest) units steps := by
  induction units generalizing synchronizer steps with
  | nil =>
    cases h
    exact .nil
  | cons unit units ih =>
    rw [replaySteps] at h
    split at h
    · cases h
    · rename_i payload hpayload
      split at h
      · cases h
      · rename_i step next hstep
        split at h
        · cases h
        · rename_i later hlater
          cases h
          obtain ⟨packet, context, hdecode, hvalid, hcontent⟩ :=
            StepSynchronizer.anchorStep_content (congrArg Prod.fst hstep)
          have hkept := StepSynchronizer.anchorStep_manifest externals synchronizer
            (replayedFrame identity unit) payload false
          rw [hstep] at hkept
          rw [hmanifest] at hkept hvalid hcontent
          exact .cons ⟨payload, packet, context, hpayload, hdecode, hvalid, hcontent⟩
            (ih hkept hlater)

/-- Without other cameras the loop over the units needs nothing but contexts. -/
theorem exists_replaySteps {synchronizer : StepSynchronizer}
    (hmanifest : synchronizer.manifest = manifest)
    (hanchor : identity.cameraId = manifest.anchorCameraId)
    (hothers : otherCameras manifest = [])
    (h : ∀ unit ∈ units, CarriesContext externals identity manifest unit) :
    ∃ steps, replaySteps externals identity units synchronizer = .ok steps := by
  induction units generalizing synchronizer with
  | nil => exact ⟨[], rfl⟩
  | cons unit units ih =>
    obtain ⟨payload, packet, context, hpayload, hdecode, hvalid⟩ := h unit List.mem_cons_self
    have haccepted : StepSynchronizer.ContextAccepted externals synchronizer
        (replayedFrame identity unit) payload := by
      rw [StepSynchronizer.ContextAccepted, hmanifest]
      exact ⟨hanchor, packet, context, hdecode, hvalid⟩
    have hok : (synchronizer.anchorStep externals (replayedFrame identity unit) payload
        false).1.isOk = true :=
      (StepSynchronizer.anchorStep_isOk_iff (by rw [hmanifest]; exact hothers)).mpr haccepted
    have hkept := StepSynchronizer.anchorStep_manifest externals synchronizer
      (replayedFrame identity unit) payload false
    rw [replaySteps, hpayload]
    dsimp only
    rcases hstep : synchronizer.anchorStep externals (replayedFrame identity unit) payload false
      with ⟨error | step, next⟩
    · rw [hstep] at hok
      cases hok
    · rw [hstep, hmanifest] at hkept
      obtain ⟨steps, hsteps⟩ := ih hkept fun other hother =>
        h other (List.mem_cons_of_mem _ hother)
      simp only [hsteps]
      exact ⟨step :: steps, rfl⟩

end Steps

/-! ## The live steps -/

/-- The envelope an action ingests. -/
def World.ingesting (world : World) : Action → List EncodedFrameEnvelope
  | .ingest _ key ptsNs accessUnit =>
    ((world.runtime.registry.ingestH264BeforeDecode externals.timestamp key ptsNs
      accessUnit).toOption.map Prod.fst).toList
  | _ => []

/-- In the run, this access unit is ingested on the connection and the step is
broadcast for it. -/
def LiveStep (world : World) (actions : List Action) (key : StreamKey) (accessUnit : List UInt8)
    (live : SynchronizedDatasetStep) : Prop :=
  ∃ envelope ∈ outputs (World.step externals) (World.ingesting externals) world actions,
    envelope.key = key ∧ envelope.encodedAu = accessUnit ∧
      (envelope, live) ∈ outputs (World.step externals)
        (fun world action => (world.broadcast externals action).toList) world actions

instance (externals : Externals) (world : World) (actions : List Action) (key : StreamKey)
    (accessUnit : List UInt8) (live : SynchronizedDatasetStep) :
    Decidable (LiveStep externals world actions key accessUnit live) :=
  inferInstanceAs (Decidable (∃ envelope ∈ _, _))

section Live

variable {externals : Externals} {world : World} {actions : List Action}

/-- An envelope has what the inspector finds in its access unit. -/
theorem inspect_of_ingesting {action : Action} {envelope : EncodedFrameEnvelope}
    (h : envelope ∈ world.ingesting externals action) :
    ∃ inspected, inspectH264AnnexB externals.timestamp envelope.encodedAu false =
        .ok (some inspected) ∧
      envelope.captureTimeEdgeNs = inspected.timestamp.captureTimeEdgeNs ∧
      envelope.metadataMessages = inspected.messages := by
  cases action with
  | ingest thread key ptsNs accessUnit =>
    obtain ⟨⟨found, next⟩, hingest, rfl⟩ := Option.map_eq_some_iff.mp (Option.mem_toList.mp h)
    obtain ⟨record, inspected, _, hinspect, henvelope, _⟩ :=
      ReceiverRegistry.ingestH264BeforeDecode_inv (toOption_eq_some.mp hingest)
    refine ⟨inspected, ?_, ?_, ?_⟩
    · show inspectH264AnnexB _ found.encodedAu false = _
      rw [henvelope]
      exact inspectH264AnnexB_anchor hinspect
    · show found.captureTimeEdgeNs = _
      rw [henvelope]
    · show found.metadataMessages = _
      rw [henvelope]
  | _ => cases h

/-- What a live step says comes from its access unit and the manifest that
accepted the context. -/
theorem LiveStep.content {key : StreamKey} {accessUnit : List UInt8}
    {live : SynchronizedDatasetStep} (h : LiveStep externals world actions key accessUnit live) :
    ∃ inspected message packet context manifest anchor,
      inspectH264AnnexB externals.timestamp accessUnit false = .ok (some inspected) ∧
      inspected.messages.find? (·.uuid = anchorContextUuid) = some message ∧
      decodeAnchorContextPacket externals message.payload = .ok (packet, context) ∧
      validateContext manifest anchor context = true ∧
      contentOf live =
        stepContent manifest inspected.timestamp.captureTimeEdgeNs packet context := by
  obtain ⟨envelope, hingested, _, rfl, hbroadcast⟩ := h
  obtain ⟨_, _, _, _, hingesting⟩ := exists_of_mem_outputs hingested
  obtain ⟨inspected, hinspect, hcapture, hmessages⟩ := inspect_of_ingesting hingesting
  obtain ⟨_, _, _, _, hsent⟩ := exists_of_mem_outputs hbroadcast
  obtain ⟨_, _, synchronizer, payload, _, _, _, _, _, hpayload, hstep⟩ :=
    World.broadcast_cases (Option.mem_toList.mp hsent)
  obtain ⟨packet, context, hdecode, hvalid, hcontent⟩ :=
    StepSynchronizer.anchorStep_content hstep
  obtain ⟨message, hmessage, rfl⟩ := Option.map_eq_some_iff.mp hpayload
  rw [hmessages] at hmessage
  refine ⟨inspected, message, packet, context, synchronizer.manifest, frameOf envelope, hinspect,
    hmessage, hdecode, hvalid, ?_⟩
  rw [hcontent, ← hcapture]
  rfl

end Live

/-! ## Agreement -/

/-- The replay returns a step for every unit, and it agrees with the live step
of the unit if there was one. -/
def ReplayAgrees (world : World) (actions : List Action) (identity : StreamIdentity)
    (basePort : UInt16) (units : List RecordedUnit) : Prop :=
  ∃ steps, replay externals identity units basePort = .ok steps ∧
    List.Forall₂ (fun unit step => ∀ live,
      LiveStep externals world actions (ReceiverRegistry.keyOf identity) unit.accessUnit live →
        contentOf step = contentOf live) units steps

/-- What a record needs to be replayed: it can be read back, its chunks make a
valid manifest, this streams the recorded camera only, and every unit has a
context of it. -/
def Replayable (basePort : UInt16) (units : List RecordedUnit) : Prop :=
  ∃ replayed bytes manifest, replayUnits externals identity units = .ok replayed ∧
    Reassembles externals (replayDeliveries replayed) bytes ∧
    (∃ transports, validateManifest externals bytes transports basePort = .ok manifest) ∧
    (∃ camera, OnlyCamera identity basePort manifest camera) ∧
    ∀ unit ∈ replayed, CarriesContext externals identity manifest unit

section Agreement

variable {externals : Externals} {identity : StreamIdentity} {basePort : UInt16}
  {steps : List SynchronizedDatasetStep} {units : List RecordedUnit} {manifest : SessionManifestV1}
  {replayed : List ReplayedAccessUnit}

/-- The bootstrap of the replay. -/
theorem reconstructSteps_eq_ok {accessUnits : List ReplayedAccessUnit} :
    reconstructSteps externals identity accessUnits basePort = .ok steps ↔
      ∃ bytes manifest synchronizer,
        Reassembles externals (replayDeliveries accessUnits) bytes ∧
        (∃ transports, validateManifest externals bytes transports basePort = .ok manifest) ∧
        (∃ camera, OnlyCamera identity basePort manifest camera) ∧
        StepSynchronizer.new manifest 64 1000000 = .ok synchronizer ∧
        replaySteps externals identity accessUnits synchronizer = .ok steps := by
  unfold reconstructSteps
  simp only [bind_eq_ok, mapError_eq_ok]
  constructor
  · rintro ⟨completed, hcompleted, h⟩
    cases completed with
    | none => cases h
    | some bytes =>
      simp only [bind_eq_ok, mapError_eq_ok] at h
      obtain ⟨listenPort, hport, manifest, hvalid, synchronizer, hnew, hsteps⟩ := h
      obtain ⟨hsome, honly⟩ := validateManifest_replay_iff.mp ⟨listenPort, hport, hvalid⟩
      exact ⟨bytes, manifest, synchronizer, replayManifest_iff.mp hcompleted, hsome, honly,
        hnew, hsteps⟩
  · rintro ⟨bytes, manifest, synchronizer, hreassembles, hsome, honly, hnew, hsteps⟩
    obtain ⟨listenPort, hport, hvalid⟩ := validateManifest_replay_iff.mpr ⟨hsome, honly⟩
    refine ⟨some bytes, replayManifest_iff.mpr hreassembles, ?_⟩
    simp only [bind_eq_ok, mapError_eq_ok]
    exact ⟨listenPort, hport, manifest, hvalid, synchronizer, hnew, hsteps⟩

theorem replay_eq_ok :
    replay externals identity units basePort = .ok steps ↔
      ∃ accessUnits, replayUnits externals identity units = .ok accessUnits ∧
        reconstructSteps externals identity accessUnits basePort = .ok steps := by
  unfold replay
  simp only [bind_eq_ok, mapError_eq_ok]

variable {unit : RecordedUnit} {ordinal : Nat} {world : World} {actions : List Action}

/-- A unit that was read back has what the inspector finds. -/
theorem replayUnit_eq_ok {replayed : ReplayedAccessUnit}
    (h : replayUnit externals identity unit ordinal = .ok replayed) :
    ∃ inspected, inspectH264AnnexB externals.timestamp unit.accessUnit false =
        .ok (some inspected) ∧
      replayed.captureTimeEdgeNs = inspected.timestamp.captureTimeEdgeNs ∧
      replayed.contextPacket =
        (inspected.messages.find? (·.uuid = anchorContextUuid)).map (·.payload) := by
  unfold replayUnit at h
  simp only [bind_eq_ok, okOr_eq_ok, mapErr_eq_ok] at h
  obtain ⟨_, hinspect, inspected, rfl, chunks, _, hreplayed⟩ := h
  cases hreplayed
  exact ⟨inspected, inspectH264AnnexB_anchor hinspect, rfl, rfl⟩

/-- A replayed step agrees with the live step of its unit. -/
theorem ReplaysContext.agrees {replayed : ReplayedAccessUnit} {step live : SynchronizedDatasetStep}
    (h : ReplaysContext externals identity manifest replayed step)
    (hreplayed : replayUnit externals identity unit ordinal = .ok replayed) {key : StreamKey}
    (hlive : LiveStep externals world actions key unit.accessUnit live) :
    contentOf step = contentOf live := by
  obtain ⟨payload, packet, context, hpayload, hdecode, hvalid, hcontent⟩ := h
  obtain ⟨inspected, hinspect, hcapture, hcontext⟩ := replayUnit_eq_ok hreplayed
  obtain ⟨found, message, livePacket, liveContext, liveManifest, anchor, hfound, hmessage,
    hliveDecode, hliveValid, hliveContent⟩ := hlive.content
  -- both have inspected the same bytes
  cases hinspect.symm.trans hfound
  rw [hcontext, hmessage] at hpayload
  cases hpayload
  cases hdecode.symm.trans hliveDecode
  rw [hcontent, hliveContent, hcapture]
  exact stepContent_congr hvalid hliveValid _ _

theorem forall₂_agrees (hunits : replayUnits externals identity units = .ok replayed)
    (hsteps : List.Forall₂ (ReplaysContext externals identity manifest) replayed steps)
    (world : World) (actions : List Action) (key : StreamKey) :
    List.Forall₂ (fun unit step => ∀ live,
      LiveStep externals world actions key unit.accessUnit live →
        contentOf step = contentOf live) units steps := by
  have hall := forall₂_trans (mapM_eq_ok.mp hunits) hsteps
    fun entry replayed step hreplayed (hstep : ReplaysContext _ _ _ _ _) live
      (hlive : LiveStep externals world actions key entry.1.accessUnit live) =>
        hstep.agrees hreplayed hlive
  rw [← List.zipIdx_map_fst 0 units, List.forall₂_map_left_iff]
  exact hall

/-- For a record that starts with the chunks of a live bootstrap, and whose
contexts are of the manifest it made, only the cameras are left. -/
theorem replayable_iff_only_camera {bytes : List UInt8} {transports : List ConnectedCamera}
    {id : Uuid} {chunks rest : List SessionManifestChunkV1} {last : SessionManifestChunkV1}
    (hfresh : world.runtime.session id = {})
    (hbootstraps : Bootstraps externals id world actions chunks last bytes)
    (hunits : replayUnits externals identity units = .ok replayed)
    (hrecord : (replayDeliveries replayed).map (·.chunk) = chunks ++ last :: rest)
    (hclock : ∀ unit ∈ replayed, unit.accessUnitOrdinal.toNat ≤ replayTimeout)
    (hvalid : validateManifest externals bytes transports basePort = .ok manifest)
    (hcontexts : ∀ unit ∈ replayed, CarriesContext externals identity manifest unit) :
    Replayable externals identity basePort units ↔
      ∃ camera, OnlyCamera identity basePort manifest camera := by
  have hreassembles := hbootstraps.reassembles hfresh hrecord hclock
  constructor
  · rintro ⟨others, found, decoded, hothers, hfound, ⟨_, hdecoded⟩, honly, _⟩
    cases hunits.symm.trans hothers
    cases (replayManifest_iff.mpr hreassembles).symm.trans (replayManifest_iff.mpr hfound)
    cases (validateManifest_eq_ok hvalid).1.symm.trans (validateManifest_eq_ok hdecoded).1
    exact honly
  · intro honly
    exact ⟨replayed, bytes, manifest, hunits, hreassembles, ⟨transports, hvalid⟩, honly, hcontexts⟩

/-- The contexts of a record that is replayed name one revision. -/
theorem one_revision_of_replayable (h : Replayable externals identity basePort units)
    (hunits : replayUnits externals identity units = .ok replayed) :
    ∃ revision, ∀ unit ∈ replayed, ∃ payload packet context,
      unit.contextPacket = some payload ∧
      decodeAnchorContextPacket externals payload = .ok (packet, context) ∧
      context.manifestRevision = revision := by
  obtain ⟨others, _, manifest, hothers, _, _, _, hcontexts⟩ := h
  cases hunits.symm.trans hothers
  refine ⟨manifest.manifestRevision, fun unit hunit => ?_⟩
  obtain ⟨payload, packet, context, hpayload, hdecode, hvalid⟩ := hcontexts unit hunit
  exact ⟨payload, packet, context, hpayload, hdecode, (names_of_validateContext hvalid).2⟩

end Agreement

/-- The replay returns what the live Receiver accepted exactly for the records
that are `Replayable`, whatever happened in the live run. -/
theorem replay_agrees_iff (externals : Externals) (world : World) (actions : List Action)
    (identity : StreamIdentity) (basePort : UInt16) (units : List RecordedUnit) :
    ReplayAgrees externals world actions identity basePort units ↔
      Replayable externals identity basePort units := by
  constructor
  · rintro ⟨steps, hsteps, _⟩
    obtain ⟨replayed, hunits, hreconstructed⟩ := replay_eq_ok.mp hsteps
    obtain ⟨bytes, manifest, synchronizer, hreassembles, hsome, honly, hnew, hloop⟩ :=
      reconstructSteps_eq_ok.mp hreconstructed
    refine ⟨replayed, bytes, manifest, hunits, hreassembles, hsome, honly, ?_⟩
    intro unit hunit
    have hsame := (StepSynchronizer.new_eq_ok hnew).1
    obtain ⟨_, _, payload, packet, context, hpayload, hdecode, hvalid, _⟩ :=
      exists_mem_of_forall₂ (replaySteps_eq_ok hsame hloop) hunit
    exact ⟨payload, packet, context, hpayload, hdecode, hvalid⟩
  · rintro ⟨replayed, bytes, manifest, hunits, hreassembles, ⟨transports, hvalid⟩,
      ⟨camera, honly⟩, hcontexts⟩
    obtain ⟨hanchor, hothers⟩ := honly.anchor hvalid
    obtain ⟨synchronizer, hnew⟩ : ∃ synchronizer,
        StepSynchronizer.new manifest 64 1000000 = .ok synchronizer := ⟨_, rfl⟩
    have hsame := (StepSynchronizer.new_eq_ok hnew).1
    obtain ⟨steps, hloop⟩ := exists_replaySteps hsame hanchor hothers hcontexts
    refine ⟨steps, replay_eq_ok.mpr ⟨replayed, hunits, reconstructSteps_eq_ok.mpr
      ⟨bytes, manifest, synchronizer, hreassembles, ⟨transports, hvalid⟩, ⟨camera, honly⟩, hnew,
        hloop⟩⟩, ?_⟩
    exact forall₂_agrees hunits (replaySteps_eq_ok hsame hloop) world actions _

/-! ## A cell with one camera and with two -/

def replayExternals (manifest : SessionManifestV1) : Externals :=
  cellExternals [contextFor manifest 0, contextFor manifest 1] [manifest]

/-- The anchor's two access units: the first has the manifest, and both have a
context. -/
def anchorUnits (manifest : SessionManifestV1) : List RecordedUnit :=
  [⟨100, cellUnit 100 (manifestMessages manifest ++ [contextMessage (contextFor manifest 0)])⟩,
    ⟨200, cellUnit 200 [contextMessage (contextFor manifest 1)]⟩]

/-- The record of an anchor that is alone is replayed. -/
example :
    ((replay (replayExternals (cellManifest [anchorCamera])) (cellIdentity "anchor" 0 1 .anchor)
      (anchorUnits (cellManifest [anchorCamera])) 10000).toOption.map fun steps =>
        steps.map (·.captureTimeEdgeNs)) = some [100, 200] := by
  decide +kernel

def pairManifest : SessionManifestV1 := cellManifest [anchorCamera, sideCamera]

/-- Both cameras connect; the anchor's units are ingested and processed, with
a frame of the side camera in between. -/
def pairActions : List Action :=
  .accept 10000 anchorStream :: .accept 10001 sideStream ::
    (anchorUnits pairManifest).flatMap fun unit =>
      ([.ingest 0 ⟨cellSession, "anchor", 1⟩ (some unit.ptsNs) unit.accessUnit,
        .advance 0 1, .advance 0 1, .advance 0 1, .advance 0 1, .advance 0 1,
        .ingest 1 ⟨cellSession, "side", 1⟩ (some 205) (cellUnit 205 []), .advance 1 1])

/-- The Receiver has installed a manifest with two streamed cameras, both
units of the anchor have a context of it, and the second one gave a step. The
replay knows the anchor's transport only and refuses the manifest. -/
theorem two_cameras_not_replayed :
    ReceiverRuntime.new cellRegistry 10000 1000000000 8 20 8 = .ok cellRuntime ∧
    (run (World.step (replayExternals pairManifest)) (World.initial cellRuntime)
      pairActions).manifestOf ⟨cellSession, "anchor", 1⟩ = some pairManifest ∧
    (∃ replayed ∈ (replayUnits (replayExternals pairManifest) (cellIdentity "anchor" 0 1 .anchor)
        (anchorUnits pairManifest)).toOption, ∀ unit ∈ replayed,
      CarriesContext (replayExternals pairManifest) (cellIdentity "anchor" 0 1 .anchor)
        pairManifest unit) ∧
    (∃ sent ∈ outputs (World.step (replayExternals pairManifest))
        (fun world action => (world.broadcast (replayExternals pairManifest) action).toList)
        (World.initial cellRuntime) pairActions,
      LiveStep (replayExternals pairManifest) (World.initial cellRuntime) pairActions
        ⟨cellSession, "anchor", 1⟩ (cellUnit 200 [contextMessage (contextFor pairManifest 1)])
        sent.2) ∧
    replay (replayExternals pairManifest) (cellIdentity "anchor" 0 1 .anchor)
      (anchorUnits pairManifest) 10000 = fail (.synchronize .cameraCatalog) ∧
    ¬ ReplayAgrees (replayExternals pairManifest) (World.initial cellRuntime) pairActions
      (cellIdentity "anchor" 0 1 .anchor) 10000 (anchorUnits pairManifest) := by
  have hrefused : replay (replayExternals pairManifest) (cellIdentity "anchor" 0 1 .anchor)
      (anchorUnits pairManifest) 10000 = fail (.synchronize .cameraCatalog) := by
    decide +kernel
  refine ⟨cellRuntime_new, by decide +kernel, by decide +kernel, by decide +kernel, hrefused, ?_⟩
  rintro ⟨steps, hsteps, _⟩
  rw [hrefused] at hsteps
  cases hsteps

def laterManifest : SessionManifestV1 :=
  { cellManifest [anchorCamera] with manifestRevision := 2 }

def revisedExternals : Externals :=
  cellExternals [contextFor (cellManifest [anchorCamera]) 0, contextFor laterManifest 1]
    [cellManifest [anchorCamera], laterManifest]

/-- Each unit has a manifest and a context of it. -/
def revisedUnits : List RecordedUnit :=
  [⟨100, cellUnit 100 (manifestMessages (cellManifest [anchorCamera]) ++
      [contextMessage (contextFor (cellManifest [anchorCamera]) 0)])⟩,
    ⟨200, cellUnit 200 (manifestMessages laterManifest ++
      [contextMessage (contextFor laterManifest 1)])⟩]

def revisedActions : List Action :=
  .accept 10000 anchorStream :: revisedUnits.flatMap fun unit =>
    .ingest 0 ⟨cellSession, "anchor", 1⟩ (some unit.ptsNs) unit.accessUnit ::
      List.replicate 6 (.advance 0 1)

/-- One camera, and a revision that is replaced by the next one: the live
Receiver broadcasts a step of each, and the replay, which keeps the first
manifest, refuses the context of the second one. -/
theorem later_revision_not_replayed :
    (outputs (World.step revisedExternals)
      (fun world action => (world.broadcast revisedExternals action).toList)
      (World.initial cellRuntime) revisedActions).map (·.2.manifestRevision) = [1, 2] ∧
    replay revisedExternals (cellIdentity "anchor" 0 1 .anchor) revisedUnits 10000 =
      fail (.synchronize .context) := by
  decide +kernel

end RobotMulticam.Receiver
