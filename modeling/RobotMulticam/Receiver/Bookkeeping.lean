import RobotMulticam.Codec.Reassembly
import RobotMulticam.Receiver.Steps

/-!
# The bookkeeping of reassembly

A session holds at most one reassembler and records, next to it, the revision
that is being collected. The two are written at different places: the
revision before a reassembler is started, the reassembler after its first
chunk was accepted. `step_reassembly` says what any action of any thread can
do to them.

A first chunk that is refused leaves the new revision next to the old
reassembler. From then on the chunks of the new revision go into the
reassembler of the old one, which answers each of them with a conflict.
-/

namespace RobotMulticam.Receiver

open RobotMulticam.Lib
open RobotMulticam.Protocol
open RobotMulticam.Codec

/-- The session and the chunk of the manifest message a thread is about to
collect. A message that does not decode, or names another session, is refused
before the session is looked at. -/
def Stage.message (externals : Externals) : Stage → Option (Uuid × SessionManifestChunkV1)
  | .chunks envelope (payload :: _) =>
    match externals.chunk.decode payload with
    | some chunk =>
      if chunk.sessionId = envelope.key.sessionId.bytes then
        some (envelope.key.sessionId, chunk)
      else none
    | none => none
  | _ => none

/-- The message an action is going to collect, and its clock reading. -/
def World.collecting (externals : Externals) (world : World) :
    Action → Option (Uuid × SessionManifestChunkV1 × Nat)
  | .advance thread now =>
    ((world.threads thread).message externals).map fun message =>
      (message.1, message.2, now)
  | _ => none

/-- A session has a manifest and its reassembler is gone, or the reassembler
and its revision are what they were. -/
def KeepsReassembly (before after : SessionRuntime) : Prop :=
  (after.reassembler = none ∧ after.manifest.isSome) ∨
    (after.reassembler = before.reassembler ∧
      after.reassemblyRevision = before.reassemblyRevision)

theorem KeepsReassembly.refl (session : SessionRuntime) : KeepsReassembly session session :=
  Or.inr ⟨rfl, rfl⟩

variable {runtime : ReceiverRuntime} {externals : Externals}
  {P : UInt64 → ManifestReassembler → Prop} {session : SessionRuntime}

theorem keepsReassembly_of_sessions {next : ReceiverRuntime} (h : next.sessions = runtime.sessions)
    (id : Uuid) : KeepsReassembly (runtime.session id) (next.session id) := by
  rw [ReceiverRuntime.session, ReceiverRuntime.session, h]
  exact .refl _

theorem keepsReassembly_install (runtime : ReceiverRuntime) (sessionId : Uuid)
    (ready : Prepared) (id : Uuid) :
    KeepsReassembly (runtime.session id) ((install runtime sessionId ready).session id) := by
  rw [install]
  by_cases hid : sessionId = id
  · rw [← hid, setSession_session_self]
    exact Or.inl ⟨rfl, rfl⟩
  · rw [setSession_session_of_ne hid]
    exact .refl _

theorem Stage.message_eq_some {stage : Stage} {id : Uuid} {chunk : SessionManifestChunkV1} :
    stage.message externals = some (id, chunk) ↔
      ∃ envelope payload remaining, stage = .chunks envelope (payload :: remaining) ∧
        externals.chunk.decode payload = some chunk ∧
        chunk.sessionId = envelope.key.sessionId.bytes ∧ envelope.key.sessionId = id := by
  constructor
  · intro h
    unfold message at h
    split at h
    · rename_i envelope payload remaining
      split at h
      · rename_i decoded hdecode
        split at h
        · rename_i hsession
          cases h
          exact ⟨envelope, payload, remaining, rfl, hdecode, hsession, rfl⟩
        · cases h
      · cases h
    · cases h
  · rintro ⟨envelope, payload, remaining, rfl, hdecode, hsession, rfl⟩
    rw [message, hdecode]
    exact if_pos hsession

/-- What a section can do to the reassembly of the sessions. -/
theorem Stage.advance_reassembly (externals : Externals) (runtime : ReceiverRuntime) (now : Nat)
    (stage : Stage) :
    (∃ id chunk, stage.message externals = some (id, chunk) ∧
      (stage.advance externals runtime now).2 =
        runtime.setSession id
          ((runtime.session id).collectChunk externals chunk now runtime.manifestTimeout).2) ∨
    (stage.message externals = none ∧
      ∀ id, KeepsReassembly (runtime.session id)
        ((stage.advance externals runtime now).2.session id)) := by
  cases hmessage : stage.message externals with
  | some message =>
    obtain ⟨id, chunk⟩ := message
    obtain ⟨envelope, payload, remaining, rfl, hdecode, hsession, rfl⟩ :=
      Stage.message_eq_some.mp hmessage
    refine Or.inl ⟨_, chunk, rfl, ?_⟩
    rw [advance_message_runtime, collectMessage, hdecode]
    dsimp only
    rw [if_neg (not_not.mpr hsession)]
  | none =>
    refine Or.inr ⟨rfl, ?_⟩
    intro id
    rcases stage.advance_runtime externals runtime now with
      hnext | ⟨envelope, _, hnext⟩ | ⟨envelope, payload, remaining, rfl, hnext⟩ |
      ⟨envelope, remaining, ready, _, hnext⟩ | ⟨promotion, hnext⟩
    · rw [hnext]
      exact .refl _
    · rw [hnext]
      obtain ⟨_, _, hreassembler, hrevision⟩ := processFrame_session externals runtime envelope id
      exact Or.inr ⟨hreassembler, hrevision⟩
    · -- the message is refused before the session is looked at
      rw [hnext]
      rcases collectMessage_cases externals runtime envelope.key.sessionId payload now with
        hrefused | ⟨chunk, hdecode, hsession, _⟩
      · rw [hrefused]
        exact .refl _
      · rw [Stage.message_eq_some.mpr
          ⟨envelope, payload, remaining, rfl, hdecode, hsession, rfl⟩] at hmessage
        cases hmessage
    · rw [hnext]
      exact keepsReassembly_install runtime _ ready id
    · rw [hnext]
      exact keepsReassembly_of_sessions (promote_sessions runtime promotion) id

/-- What an action can do to the reassembly of the sessions. -/
theorem World.step_reassembly (externals : Externals) (world : World) (action : Action) :
    (∃ id chunk now, world.collecting externals action = some (id, chunk, now) ∧
      (world.step externals action).runtime =
        world.runtime.setSession id ((world.runtime.session id).collectChunk externals chunk now
          world.runtime.manifestTimeout).2) ∨
    (world.collecting externals action = none ∧
      ∀ id, KeepsReassembly (world.runtime.session id)
        ((world.step externals action).runtime.session id)) := by
  by_cases hadvance : ∃ thread now, action = .advance thread now
  · obtain ⟨thread, now, rfl⟩ := hadvance
    rw [step_advance, collecting]
    rcases (world.threads thread).advance_reassembly externals world.runtime now with
      ⟨id, chunk, hmessage, hnext⟩ | ⟨hmessage, hkept⟩
    · exact Or.inl ⟨id, chunk, now, by rw [hmessage]; rfl, hnext⟩
    · exact Or.inr ⟨by rw [hmessage]; rfl, hkept⟩
  · have houtside := (World.step_outside externals world action
      (fun thread now heq => hadvance ⟨thread, now, heq⟩)).1
    refine Or.inr ⟨?_, keepsReassembly_of_sessions houtside⟩
    cases action with
    | advance thread now => exact absurd ⟨thread, now, rfl⟩ hadvance
    | _ => rfl

/-! ## Facts about reassemblers -/

/-- `P` holds of every reassembler and the revision recorded next to it. -/
def HoldsReassembly (P : UInt64 → ManifestReassembler → Prop) (runtime : ReceiverRuntime) :
    Prop :=
  ∀ id, ∀ reassembler ∈ (runtime.session id).reassembler,
    P (runtime.session id).reassemblyRevision reassembler

theorem holdsReassembly_initial (hempty : runtime.sessions = ∅) :
    HoldsReassembly P (World.initial runtime).runtime := by
  intro id reassembler hheld
  change reassembler ∈ (runtime.session id).reassembler at hheld
  rw [ReceiverRuntime.session, hempty] at hheld
  simp at hheld

/-- The rule for such facts: an action keeps them if collecting a chunk does. -/
theorem HoldsReassembly.step {world : World} {action : Action} (h : HoldsReassembly P world.runtime)
    (hcollect : ∀ id chunk now, world.collecting externals action = some (id, chunk, now) →
      ∀ session, session = ((world.runtime.session id).collectChunk externals chunk now
        world.runtime.manifestTimeout).2 →
      ∀ reassembler ∈ session.reassembler, P session.reassemblyRevision reassembler) :
    HoldsReassembly P (world.step externals action).runtime := by
  intro other reassembler hheld
  rcases world.step_reassembly externals action with
    ⟨id, chunk, now, hcollecting, hnext⟩ | ⟨_, hkept⟩
  · rw [hnext] at hheld ⊢
    by_cases hid : id = other
    · rw [← hid, setSession_session_self] at hheld ⊢
      exact hcollect id chunk now hcollecting _ rfl reassembler hheld
    · rw [setSession_session_of_ne hid] at hheld ⊢
      exact h other reassembler hheld
  · rcases hkept other with ⟨hnone, _⟩ | ⟨hsame, hrevision⟩
    · rw [hnone] at hheld
      cases hheld
    · rw [hsame] at hheld
      rw [hrevision]
      exact h other reassembler hheld

/-! ## Consistency -/

/-- A session's bookkeeping is consistent: the recorded revision is the one
its reassembler collects, so a chunk of another revision is answered as if
nothing had been in progress. -/
structure Bookkept (externals : Externals) (session : SessionRuntime) : Prop where
  revision : ∀ reassembler ∈ session.reassembler,
    session.reassemblyRevision = reassembler.header.revision
  undisturbed : ∀ reassembler ∈ session.reassembler, ∀ chunk now timeout,
    chunk.manifestRevision ≠ reassembler.header.revision →
    (session.collectChunk externals chunk now timeout).1 =
      ({ session with reassembler := none }.collectChunk externals chunk now timeout).1

/-- If the chunk replaces a reassembler of another revision, the new one can
be started. -/
def StartAccepted (externals : Externals) (session : SessionRuntime)
    (chunk : SessionManifestChunkV1) (now timeout : Nat) : Prop :=
  session.reassembler.isSome →
    (∀ current ∈ session.manifest, current.manifestRevision < chunk.manifestRevision) →
    session.reassemblyRevision ≠ chunk.manifestRevision →
    (ManifestReassembler.new externals chunk now timeout).isOk

/-- Every chunk that replaces a reassembler of another revision starts a new
one. -/
def StartsAccepted (externals : Externals) (world : World) (action : Action) : Prop :=
  ∀ message ∈ world.collecting externals action,
    StartAccepted externals (world.runtime.session message.1) message.2.1 message.2.2
      world.runtime.manifestTimeout

instance (externals : Externals) (session : SessionRuntime) (chunk : SessionManifestChunkV1)
    (now timeout : Nat) : Decidable (StartAccepted externals session chunk now timeout) :=
  inferInstanceAs (Decidable (_ → _ → _ → _))

instance (externals : Externals) (world : World) (action : Action) :
    Decidable (StartsAccepted externals world action) :=
  inferInstanceAs (Decidable (∀ message ∈ world.collecting externals action, _))

/-- Consistent records suffice for the answers. -/
theorem bookkept_of_revision
    (h : ∀ reassembler ∈ session.reassembler,
      session.reassemblyRevision = reassembler.header.revision) :
    Bookkept externals session := by
  refine ⟨h, ?_⟩
  intro reassembler hheld chunk now timeout hother
  have hrevision : session.reassemblyRevision ≠ chunk.manifestRevision := by
    rw [h reassembler hheld]
    exact hother.symm
  unfold SessionRuntime.collectChunk
  rw [if_neg hrevision]
  simp only [ite_self]
  split
  · rfl
  · split
    · rfl
    · split <;> rfl

/-- A chunk keeps a consistent session consistent exactly when it is not the
refused first chunk of another revision. -/
theorem collectChunk_revision
    (h : ∀ reassembler ∈ session.reassembler,
      session.reassemblyRevision = reassembler.header.revision)
    (chunk : SessionManifestChunkV1) (now timeout : Nat) :
    (∀ reassembler ∈ (session.collectChunk externals chunk now timeout).2.reassembler,
      (session.collectChunk externals chunk now timeout).2.reassemblyRevision =
        reassembler.header.revision) ↔
      StartAccepted externals session chunk now timeout := by
  have hfresh : ¬ session.manifest.any
      (fun current => chunk.manifestRevision ≤ current.manifestRevision) ↔
      ∀ current ∈ session.manifest, current.manifestRevision < chunk.manifestRevision := by
    simp [Option.any_eq_true]
  unfold StartAccepted
  rw [← hfresh]
  rcases collectChunk_cases externals session chunk now timeout with
    ⟨hheld, hskip⟩ | ⟨hnew, hreplaces, ⟨error, hrefused, hnext⟩ |
      ⟨started, answer, hstarted, _, hnext⟩⟩ | ⟨_, hsame, reassembler, hheld, hnext⟩
  · rw [hskip]
    exact ⟨fun _ _ hnew => absurd hheld hnew, fun _ => h⟩
  · -- the revision changes and the reassembler stays
    rw [hnext, hrefused]
    cases hreassembler : session.reassembler with
    | none => simp
    | some reassembler =>
      have hother : session.reassemblyRevision ≠ chunk.manifestRevision := by
        rcases hreplaces with hnone | hother
        · rw [hreassembler] at hnone
          cases hnone
        · exact hother
      have hrecorded := h reassembler hreassembler
      constructor
      · intro hconsistent
        have hwrong := hconsistent reassembler rfl
        exact absurd (hrecorded.trans hwrong.symm) hother
      · intro hstarts
        have hfalse := hstarts rfl hnew hother
        cases hfalse
  · rw [hnext, hstarted]
    refine iff_of_true ?_ (fun _ _ _ => rfl)
    intro reassembler hreassembler
    cases hreassembler
    obtain ⟨_, rfl⟩ := ManifestReassembler.new_eq_ok hstarted
    rfl
  · rw [hnext]
    refine iff_of_true ?_ (fun _ _ hother => absurd hsame hother)
    intro next hinserted
    cases hinserted
    rw [ManifestReassembler.insert_header]
    exact h reassembler hheld

/-- The bookkeeping of every session is consistent in all states of a run
exactly when every chunk that replaces a reassembler of another revision can
start a new one. -/
theorem bookkeeping_consistent_iff (externals : Externals) (registry : ReceiverRegistry)
    (basePort : UInt16) (manifestTimeout maxFramesPerCamera : Nat) (maxSkewNs : UInt64)
    (stepCapacity : Nat) (runtime : ReceiverRuntime)
    (hnew : ReceiverRuntime.new registry basePort manifestTimeout maxFramesPerCamera maxSkewNs
      stepCapacity = .ok runtime)
    (actions : List Action) :
    (∀ before after, actions = before ++ after → ∀ id, Bookkept externals
        ((run (World.step externals) (World.initial runtime) before).runtime.session id)) ↔
      Meets (World.step externals) (StartsAccepted externals) (World.initial runtime) actions := by
  constructor
  · intro hbookkept
    refine meets_of_forall_split ?_
    rintro before action after hactions ⟨id, chunk, now⟩ hcollecting
    have hhere := (hbookkept before (action :: after) hactions id).revision
    have hnext := (hbookkept (before ++ [action]) after (by simp [hactions]) id).revision
    rw [← collectChunk_revision hhere]
    rw [run_append, run_cons, run_nil] at hnext
    rcases World.step_reassembly externals _ action with
      ⟨other, found, reading, hfound, hruntime⟩ | ⟨hnone, _⟩
    · cases hcollecting.symm.trans hfound
      rw [hruntime, setSession_session_self] at hnext
      exact hnext
    · rw [hcollecting] at hnone
      cases hnone
  · rintro hmeets before after rfl id
    refine bookkept_of_revision ?_
    have hstep : ∀ (world : World) (action : Action),
        HoldsReassembly (fun revision reassembler => revision = reassembler.header.revision)
          world.runtime → StartsAccepted externals world action →
        HoldsReassembly (fun revision reassembler => revision = reassembler.header.revision)
          (world.step externals action).runtime := by
      intro world action hworld hstarts
      refine hworld.step ?_
      rintro other chunk now hcollecting session rfl
      exact (collectChunk_revision (hworld other) chunk now _).mpr
        (hstarts (other, chunk, now) hcollecting)
    exact run_invariant hstep (holdsReassembly_initial (ReceiverRuntime.new_eq_ok hnew).1)
      (meets_append.mp hmeets).1 id

/-- The first of two chunks of a manifest. -/
def firstOfTwo (revision : UInt64) (payload : List UInt8) : SessionManifestChunkV1 where
  schemaVersion := 1
  sessionId := cellSession.bytes
  manifestRevision := revision
  chunkIndex := 0
  chunkCount := 2
  compression := ManifestCompressionV1.none.toInt32
  uncompressedSize := 2
  fullPayloadCrc32c := 0
  chunkPayload := payload

/-- Three chunks: one of revision 1, then two of revision 2, the first of
them without a payload. -/
def threeChunks : List SessionManifestChunkV1 :=
  [firstOfTwo 1 [1], firstOfTwo 2 [], firstOfTwo 2 [1]]

def threeChunksExternals : Externals := wireExternals [] [] [] [] threeChunks

/-- The anchor's envelope with one manifest chunk. -/
def chunkEnvelope (chunk : SessionManifestChunkV1) : EncodedFrameEnvelope where
  key := ⟨cellSession, "anchor", 1⟩
  ptsNs := 0
  accessUnitOrdinal := 0
  captureTimeEdgeNs := 0
  encodedAu := []
  metadataMessages := [manifestChunkSei threeChunksExternals chunk]

/-- One thread processes the chunks one after the other. -/
def collectInTurn (chunks : List SessionManifestChunkV1) : List Action :=
  chunks.flatMap fun chunk => [.submit 0 (chunkEnvelope chunk), .advance 0 1, .advance 0 1]

/-- Without the chunk that has no payload, both revisions are collected. -/
theorem bookkeeping_consistent_iff_two_revisions :
    Bookkept threeChunksExternals
      ((run (World.step threeChunksExternals) (World.initial cellRuntime)
        (collectInTurn [firstOfTwo 1 [1], firstOfTwo 2 [1]])).runtime.session cellSession) := by
  refine (bookkeeping_consistent_iff threeChunksExternals _ _ _ _ _ _ cellRuntime
    cellRuntime_new _).mpr ?_ _ [] (List.append_nil _).symm cellSession
  decide +kernel

/-- A first chunk without a payload is refused after its revision was
recorded. Revision 1 stays in progress under the number 2, and the next
chunk of revision 2, which would have been accepted otherwise, conflicts
with it. -/
theorem refused_first_chunk_misfiles :
    ReceiverRuntime.new cellRegistry 10000 1000000000 8 20 8 = .ok cellRuntime ∧
    ValidChunk (firstOfTwo 2 [1]) ∧
    ∀ session, session = (run (World.step threeChunksExternals) (World.initial cellRuntime)
        (collectInTurn [firstOfTwo 1 [1], firstOfTwo 2 []])).runtime.session cellSession →
      session.reassemblyRevision = 2 ∧
      (session.reassembler.map fun reassembler => reassembler.header.revision) = some 1 ∧
      (session.collectChunk threeChunksExternals (firstOfTwo 2 [1]) 2 1000000000).1 =
        .error .conflict ∧
      ({ session with reassembler := none }.collectChunk threeChunksExternals
        (firstOfTwo 2 [1]) 2 1000000000).1 = .ok none := by
  refine ⟨cellRuntime_new, by decide, ?_⟩
  rintro session rfl
  decide +kernel

end RobotMulticam.Receiver
