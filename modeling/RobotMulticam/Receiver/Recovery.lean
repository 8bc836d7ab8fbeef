import RobotMulticam.Receiver.Bookkeeping
import RobotMulticam.Receiver.Installation

/-!
# Recovering a lost manifest

The anchor repeats its manifest, so that a receiver that lost chunks, or
that completed a manifest while cameras were missing, gets it with a later
repetition. Whether it does depends on the reassembler the session holds: a
reassembler of the same revision is kept until a manifest is installed,
however old it is and whatever it has collected.

`Awaiting` is what holds of a session in the middle of a repetition.
`awaiting_message` is the step lemma: one more chunk, and the session either
waits for the rest or has the manifest. Its consequences for envelopes with
several chunks and for a sequence of envelopes are run lemmas.
-/

namespace RobotMulticam.Receiver

open RobotMulticam.Lib
open RobotMulticam.Protocol
open RobotMulticam.Codec

/-! ## Reassemblers of reachable states -/

/-- Every session's reassembler counts what it holds. -/
def HoldsFilled (runtime : ReceiverRuntime) : Prop :=
  ∀ id, ∀ reassembler ∈ (runtime.session id).reassembler, reassembler.Filled

/-- Collecting a chunk starts a reassembler or inserts into the one there. -/
theorem collectChunk_filled (externals : Externals) {session : SessionRuntime}
    (h : ∀ reassembler ∈ session.reassembler, reassembler.Filled)
    (chunk : SessionManifestChunkV1) (now timeout : Nat) :
    ∀ reassembler ∈ (session.collectChunk externals chunk now timeout).2.reassembler,
      reassembler.Filled := by
  rcases collectChunk_cases externals session chunk now timeout with
    ⟨_, hskip⟩ | ⟨_, _, ⟨error, _, hrefused⟩ | ⟨started, answer, hnew, _, hstarted⟩⟩ |
    ⟨_, _, reassembler, hheld, hinserted⟩
  · rw [hskip]
    exact h
  · rw [hrefused]
    exact h
  · rw [hstarted]
    intro held hnext
    cases hnext
    obtain ⟨hvalid, rfl⟩ := ManifestReassembler.new_eq_ok hnew
    exact (ManifestReassembler.filled_start hvalid now timeout).store
      (ManifestReassembler.accepts_start hvalid now timeout)
  · rw [hinserted]
    intro held hnext
    cases hnext
    exact (h reassembler hheld).insert externals chunk now

theorem holdsFilled_step (externals : Externals) (world : World) (action : Action)
    (h : HoldsFilled world.runtime) : HoldsFilled (world.step externals action).runtime := by
  have hfilled : HoldsReassembly (fun _ reassembler => reassembler.Filled) world.runtime := h
  refine hfilled.step ?_
  rintro id chunk now _ session rfl
  exact collectChunk_filled externals (h id) chunk now _

variable {externals : Externals} {runtime : ReceiverRuntime} {id : Uuid}
  {manifest : SessionManifestV1}

/-- In every reachable state, every reassembler counts what it holds. -/
theorem holdsFilled_run (hempty : runtime.sessions = ∅) (actions : List Action) :
    HoldsFilled (run (World.step externals) (World.initial runtime) actions).runtime := by
  have hinitial : HoldsReassembly (fun _ reassembler => reassembler.Filled)
      (World.initial runtime).runtime := holdsReassembly_initial hempty
  exact run_invariant' (holdsFilled_step externals) hinitial actions

/-! ## Repetitions -/

/-- An envelope given to `process`, with the clock readings of its manifest
messages. -/
structure Arrival where
  envelope : EncodedFrameEnvelope
  clock : Nat → Nat

/-- The manifest messages of an arrival, as `process` goes through them. -/
def Arrival.messages (arrival : Arrival) : List (List UInt8 × Nat) :=
  (manifestPayloads arrival.envelope).zipIdx.map fun (payload, index) =>
    (payload, arrival.clock index)

/-- `process` on an arrival, whatever it returns. -/
def receive (externals : Externals) (runtime : ReceiverRuntime) (arrival : Arrival) :
    ReceiverRuntime :=
  (process externals runtime arrival.envelope arrival.clock).2

/-- The rule for what every manifest message of some envelopes of a session
keeps, and every frame: `process` keeps it, wherever it stops. -/
theorem run_receive_invariant (inv : ReceiverRuntime → Prop) {arrivals : List Arrival}
    (hsession : ∀ arrival ∈ arrivals, arrival.envelope.key.sessionId = id)
    (hmessage : ∀ runtime, ∀ message ∈ arrivals.flatMap Arrival.messages, inv runtime →
      inv (processManifestChunk externals runtime id message.1 message.2).2)
    (hframe : ∀ runtime envelope, inv runtime → inv (processFrame externals runtime envelope).2)
    (h : inv runtime) : inv (run (receive externals) runtime arrivals) := by
  have hmessages : ∀ (readings : List (List UInt8 × Nat)) (runtime : ReceiverRuntime),
      (∀ message ∈ readings, message ∈ arrivals.flatMap Arrival.messages) → inv runtime →
      inv (processManifestChunks externals runtime id readings).2 := by
    intro readings
    induction readings with
    | nil => exact fun _ _ h => h
    | cons reading readings ih =>
      intro runtime hall h
      obtain ⟨payload, now⟩ := reading
      have hnext := hmessage runtime _ (hall _ List.mem_cons_self) h
      rw [processManifestChunks]
      rcases hprocess : processManifestChunk externals runtime id payload now with
        ⟨error | ⟨⟩, next⟩
      · rw [hprocess] at hnext
        exact hnext
      · rw [hprocess] at hnext
        exact ih next (fun message hlater => hall message (List.mem_cons_of_mem _ hlater)) hnext
  clear hmessage
  induction arrivals generalizing runtime with
  | nil => exact h
  | cons arrival arrivals ih =>
    have hchunked := hmessages arrival.messages runtime
      (fun message hmessage => List.mem_flatMap_of_mem List.mem_cons_self hmessage) h
    rw [run_cons]
    refine ih (fun other hother => hsession other (List.mem_cons_of_mem _ hother)) ?_ ?_
    · rw [receive]
      obtain rfl := hsession arrival List.mem_cons_self
      rcases hchunks : processManifestChunks externals runtime arrival.envelope.key.sessionId
        arrival.messages with ⟨error | ⟨⟩, next⟩
      · rw [process_of_error hchunks]
        rw [hchunks] at hchunked
        exact hchunked
      · rw [process_of_ok hchunks]
        rw [hchunks] at hchunked
        exact hframe next arrival.envelope hchunked
    · intro readings runtime hall
      refine hmessages readings runtime ?_
      intro message hlater
      rw [List.flatMap_cons]
      exact List.mem_append_right _ (hall message hlater)

/-- Envelopes of a session that bring the chunks `sent` in order, in any
grouping, from the time `now` on and within one `timeout`. -/
structure Repeats (externals : Externals) (id : Uuid) (sent : List SessionManifestChunkV1)
    (timeout now : Nat) (arrivals : List Arrival) : Prop where
  session : ∀ arrival ∈ arrivals, arrival.envelope.key.sessionId = id
  chunks : (arrivals.flatMap Arrival.messages).map Prod.fst =
    sent.map externals.chunk.encodeToVec
  ordered : ((arrivals.flatMap Arrival.messages).map Prod.snd).Pairwise (· ≤ ·)
  since : ∀ message ∈ arrivals.flatMap Arrival.messages, now ≤ message.2
  within : ∀ first ∈ (arrivals.flatMap Arrival.messages).head?,
    ∀ message ∈ arrivals.flatMap Arrival.messages, message.2 ≤ first.2 + timeout

/-- The manifest is installed, with its exact bytes. -/
def Recovered (id : Uuid) (bytes : List UInt8) (manifest : SessionManifestV1)
    (runtime : ReceiverRuntime) : Prop :=
  (runtime.session id).manifest = some manifest ∧
    (runtime.session id).manifestBytes = some bytes

instance (id : Uuid) (bytes : List UInt8) (manifest : SessionManifestV1)
    (runtime : ReceiverRuntime) : Decidable (Recovered id bytes manifest runtime) :=
  inferInstanceAs (Decidable (_ ∧ _))

/-- The session holds no reassembler of this revision. -/
def HoldsNone (revision : UInt64) (session : SessionRuntime) : Prop :=
  session.reassembler = none ∨ session.reassemblyRevision ≠ revision

/-- A reassembler that takes up the chunks `sent` arriving as `messages`: it
was started for them, what it holds is theirs, and the first chunk and those
it misses arrive before it runs out of time. -/
structure Resumes (sent : List SessionManifestChunkV1) (messages : List (List UInt8 × Nat))
    (reassembler : ManifestReassembler) : Prop where
  headed : ∀ chunk ∈ sent, ManifestHeader.ofChunk chunk = reassembler.header
  agrees : ∀ chunk ∈ sent, ∀ payload,
    reassembler.chunks[chunk.chunkIndex.toNat]? = some (some payload) →
    payload = chunk.chunkPayload
  inTime : ∀ (place : Nat) (message : List UInt8 × Nat), messages[place]? = some message →
    place = 0 ∨ reassembler.chunks[place]? = some none →
    message.2 - reassembler.startedAt ≤ reassembler.timeout

/-- Bytes that are valid under the connected transports are prepared. -/
theorem prepare_of_valid {bytes : List UInt8}
    (hvalid : validateManifest externals bytes (transportsOf (runtime.registry.snapshots id))
      runtime.basePort = .ok manifest)
    (revision : UInt64) :
    ∃ ready, prepare externals runtime id ⟨revision, bytes⟩ = .ok ready ∧
      ready.manifest = manifest ∧ ready.bytes = bytes := by
  obtain ⟨synchronizer, hnew⟩ : ∃ synchronizer, StepSynchronizer.new manifest
      runtime.maxFramesPerCamera runtime.maxSkewNs = .ok synchronizer := by
    unfold StepSynchronizer.new
    rw [if_neg (not_or.mpr ⟨runtime.framesPositive, runtime.skewPositive⟩)]
    exact ⟨_, rfl⟩
  exact ⟨⟨revision, bytes, manifest, synchronizer, runtime.registry.snapshots id⟩,
    prepare_eq_ok.mpr ⟨hvalid, hnew, rfl, rfl, rfl⟩, rfl, rfl⟩

theorem promoteAll_sessions (runtime : ReceiverRuntime)
    (promotions : List (StreamKey × BootstrapState)) :
    (promoteAll runtime promotions).2.sessions = runtime.sessions := by
  induction promotions generalizing runtime with
  | nil => rfl
  | cons promotion promotions ih =>
    have hsessions := promote_sessions runtime promotion
    rw [promoteAll]
    rcases hpromote : promote runtime promotion with ⟨error | ⟨⟩, next⟩
    · rw [hpromote] at hsessions
      exact hsessions
    · rw [hpromote] at hsessions
      exact (ih next).trans hsessions

section Repetition

variable {externals : Externals} {id : Uuid} {bytes : List UInt8}
  {manifest : SessionManifestV1} {sent : List SessionManifestChunkV1}
  {header : ManifestHeader} {pieces : List (List UInt8)}
  {messages : List (List UInt8 × Nat)} {timeout : Nat} {runtime : ReceiverRuntime}

/-- The reassembler has the chunks before `place`, and the ones it misses
from there on arrive in time. -/
structure Holding (header : ManifestHeader) (pieces : List (List UInt8))
    (messages : List (List UInt8 × Nat)) (place : Nat)
    (delivered : List SessionManifestChunkV1) (reassembler : ManifestReassembler) : Prop where
  collected : Collected header pieces reassembler.startedAt reassembler.timeout delivered
    reassembler
  before : ∀ index < place, ∃ chunk ∈ delivered, chunk.chunkIndex.toNat = index
  inTime : ∀ (index : Nat) (message : List UInt8 × Nat), messages[index]? = some message →
    place ≤ index → (index = 0 ∨ ¬ ∃ chunk ∈ delivered, chunk.chunkIndex.toNat = index) →
    message.2 - reassembler.startedAt ≤ reassembler.timeout

/-- A session that has been given the first `place` chunks of a manifest it
does not have yet. -/
structure Awaiting (externals : Externals) (id : Uuid) (bytes : List UInt8)
    (manifest : SessionManifestV1) (sent : List SessionManifestChunkV1)
    (header : ManifestHeader) (pieces : List (List UInt8))
    (messages : List (List UInt8 × Nat)) (timeout place : Nat) (runtime : ReceiverRuntime) :
    Prop where
  fresh : ∀ current ∈ (runtime.session id).manifest,
    current.manifestRevision < manifest.manifestRevision
  matching : validateManifest externals bytes (transportsOf (runtime.registry.snapshots id))
    runtime.basePort = .ok manifest
  patience : runtime.manifestTimeout = timeout
  reassembly : (place = 0 ∧ HoldsNone manifest.manifestRevision (runtime.session id)) ∨
    ∃ reassembler delivered, (runtime.session id).reassembler = some reassembler ∧
      (runtime.session id).reassemblyRevision = manifest.manifestRevision ∧
      Holding header pieces messages place delivered reassembler ∧
      (place = 0 ∨ ¬ AllDelivered sent delivered)

/-- What the chunks and their messages have in common. -/
structure Sent (externals : Externals) (id : Uuid) (bytes : List UInt8)
    (manifest : SessionManifestV1) (sent : List SessionManifestChunkV1)
    (header : ManifestHeader) (pieces : List (List UInt8))
    (messages : List (List UInt8 × Nat)) (timeout : Nat) : Prop where
  carries : Carries externals bytes sent header pieces
  session : header.sessionId = id.bytes
  revision : header.revision = manifest.manifestRevision
  decodes : ∀ chunk ∈ sent, externals.chunk.decode (externals.chunk.encodeToVec chunk) =
    some chunk
  chunks : messages.map Prod.fst = sent.map externals.chunk.encodeToVec
  ordered : (messages.map Prod.snd).Pairwise (· ≤ ·)
  within : ∀ first ∈ messages.head?, ∀ message ∈ messages, message.2 ≤ first.2 + timeout

namespace Sent

variable (hsent : Sent externals id bytes manifest sent header pieces messages timeout)

include hsent

variable {place now : Nat} {payload : List UInt8} {chunk : SessionManifestChunkV1}
  {reassembler : ManifestReassembler} {before after : List (List UInt8 × Nat)}

/-- The message at a place is the chunk there. -/
theorem chunk_at (h : messages[place]? = some (payload, now)) :
    ∃ chunk, sent[place]? = some chunk ∧ chunk ∈ sent ∧ chunk.chunkIndex.toNat = place ∧
      externals.chunk.decode payload = some chunk := by
  have hpayload : (messages.map Prod.fst)[place]? = some payload := by
    rw [List.getElem?_map, h]
    rfl
  rw [hsent.chunks, List.getElem?_map, Option.map_eq_some_iff] at hpayload
  obtain ⟨chunk, hchunk, rfl⟩ := hpayload
  have hmem := List.mem_of_getElem? hchunk
  exact ⟨chunk, hchunk, hmem, hsent.carries.index place chunk hchunk, hsent.decodes chunk hmem⟩

theorem length_messages : messages.length = sent.length := by
  have hlength := congrArg List.length hsent.chunks
  simpa using hlength

theorem sessionId (h : chunk ∈ sent) : chunk.sessionId = id.bytes := by
  rw [← hsent.session, ← hsent.carries.headed chunk h]
  rfl

theorem manifestRevision (h : chunk ∈ sent) :
    chunk.manifestRevision = manifest.manifestRevision := by
  rw [← hsent.revision, ← hsent.carries.headed chunk h]
  rfl

theorem readings_le {before later : Nat} (hle : before ≤ later) {first second : List UInt8 × Nat}
    (hfirst : messages[before]? = some first) (hsecond : messages[later]? = some second) :
    first.2 ≤ second.2 := by
  rcases Nat.eq_or_lt_of_le hle with rfl | hlt
  · rw [hfirst] at hsecond
    rw [Option.some.inj hsecond]
  · obtain ⟨hbefore, rfl⟩ := List.getElem?_eq_some_iff.mp hfirst
    obtain ⟨hlater, rfl⟩ := List.getElem?_eq_some_iff.mp hsecond
    have hpairs := List.pairwise_iff_getElem.mp hsent.ordered before later (by simpa using hbefore)
      (by simpa using hlater) hlt
    simpa using hpairs

/-- The first chunk starts a reassembler if the session holds none of its
revision. -/
theorem holding_new (hchunk : chunk ∈ sent) (hplace : chunk.chunkIndex.toNat = 0)
    (hmessage : messages[0]? = some (payload, now)) :
    ∃ started, ManifestReassembler.new externals chunk now timeout = .ok started ∧
      ∃ reassembler delivered,
        started.insert externals chunk now = (reassembler.complete externals, reassembler) ∧
        Holding header pieces messages 1 delivered reassembler := by
  obtain ⟨started, hnew, hstarted⟩ := Collected.new hsent.carries hchunk now timeout
  obtain ⟨hinsert, hstored⟩ := hstarted.insert hsent.carries hchunk
    (by simp : now - now ≤ timeout)
  refine ⟨started, hnew, started.store chunk, [chunk] ++ [chunk], hinsert, ?_, ?_, ?_⟩
  · rw [hstored.started, hstored.patience]
    exact hstored
  · intro index hindex
    exact ⟨chunk, by simp, by omega⟩
  · intro index message hat _ _
    have hhead : messages.head? = some (payload, now) := by
      rw [List.head?_eq_getElem?, hmessage]
    have hwithin := hsent.within (payload, now) hhead message (List.mem_of_getElem? hat)
    rw [hstored.started, hstored.patience]
    simp only at hwithin
    omega

/-- Any later chunk goes into the reassembler that is held. -/
theorem holding_insert {delivered : List SessionManifestChunkV1}
    (h : Holding header pieces messages place delivered reassembler)
    (hmissing : place = 0 ∨ ¬ AllDelivered sent delivered) (hchunk : chunk ∈ sent)
    (hplace : chunk.chunkIndex.toNat = place) (hmessage : messages[place]? = some (payload, now)) :
    reassembler.insert externals chunk now =
        ((reassembler.store chunk).complete externals, reassembler.store chunk) ∧
      Holding header pieces messages (place + 1) (delivered ++ [chunk])
        (reassembler.store chunk) := by
  have htime : now - reassembler.startedAt ≤ reassembler.timeout := by
    rcases hmissing with hzero | hmissing
    · exact h.inTime place (payload, now) hmessage (Nat.le_refl _) (Or.inl hzero)
    · -- a chunk that is still missing comes no earlier than this one
      unfold AllDelivered at hmissing
      push Not at hmissing
      obtain ⟨index, hindex, hnever⟩ := hmissing
      have hnone : ¬ ∃ chunk ∈ delivered, chunk.chunkIndex.toNat = index := by
        rintro ⟨other, hother, hat⟩
        exact hnever other hother hat
      have hlater : place ≤ index := by
        by_contra hbefore
        exact hnone (h.before index (Nat.lt_of_not_le hbefore))
      obtain ⟨message, hat⟩ : ∃ message, messages[index]? = some message := by
        rw [← hsent.length_messages] at hindex
        exact ⟨_, List.getElem?_eq_getElem hindex⟩
      have hlast := h.inTime index message hat hlater (Or.inr hnone)
      have hle := hsent.readings_le hlater hmessage hat
      simp only at hle
      omega
  obtain ⟨hinsert, hstored⟩ := h.collected.insert hsent.carries hchunk htime
  refine ⟨hinsert, hstored, ?_, ?_⟩
  · intro index hindex
    by_cases hsame : index = place
    · exact ⟨chunk, by simp, by rw [hplace, hsame]⟩
    · obtain ⟨other, hother, hat⟩ := h.before index (by omega)
      exact ⟨other, List.mem_append_left _ hother, hat⟩
  · intro index message hat hlater hwhich
    refine h.inTime index message hat (by omega) ?_
    rcases hwhich with hzero | hnone
    · exact Or.inl hzero
    · refine Or.inr ?_
      rintro ⟨other, hother, hindex⟩
      exact hnone ⟨other, List.mem_append_left _ hother, hindex⟩

/-- A session with an older manifest does not skip the chunks. -/
theorem not_held
    (hfresh : ∀ current ∈ (runtime.session id).manifest,
      current.manifestRevision < manifest.manifestRevision)
    (hchunk : chunk ∈ sent) :
    (runtime.session id).manifest.any
      (fun current => decide (chunk.manifestRevision ≤ current.manifestRevision)) = false := by
  cases hheld : (runtime.session id).manifest with
  | none => rfl
  | some current =>
    have hlt := hfresh current hheld
    rw [hsent.manifestRevision hchunk]
    simpa [UInt64.not_le] using hlt

/-- One more chunk is collected, and the session holds everything so far. -/
theorem collectChunk_eq
    (h : Awaiting externals id bytes manifest sent header pieces messages timeout place runtime)
    (hchunk : chunk ∈ sent) (hplace : chunk.chunkIndex.toNat = place)
    (hmessage : messages[place]? = some (payload, now)) :
    ∃ reassembler delivered,
      (runtime.session id).collectChunk externals chunk now runtime.manifestTimeout =
        (reassembler.complete externals, {
          runtime.session id with
          reassemblyRevision := manifest.manifestRevision
          reassembler := some reassembler }) ∧
      Holding header pieces messages (place + 1) delivered reassembler := by
  have hrevision := hsent.manifestRevision hchunk
  unfold SessionRuntime.collectChunk
  rw [if_neg (by rw [hsent.not_held h.fresh hchunk]; simp), h.patience, hrevision]
  rcases h.reassembly with ⟨rfl, hnone⟩ | ⟨reassembler, delivered, hheld, hsame, hholding, hmissing⟩
  · obtain ⟨started, hnew, reassembler, delivered, hinsert, hholding⟩ :=
      hsent.holding_new hchunk hplace hmessage
    refine ⟨reassembler, delivered, ?_, hholding⟩
    have hfree : (if (runtime.session id).reassemblyRevision = manifest.manifestRevision then
        (runtime.session id).reassembler else none) = none := by
      rcases hnone with hnone | hother
      · rw [hnone, ite_self]
      · rw [if_neg hother]
    -- the reassembler is kept because completing it does not fail
    obtain ⟨answer, hanswer⟩ : ∃ answer, reassembler.complete externals = .ok answer := by
      by_cases hall : AllDelivered sent delivered
      · exact ⟨_, (hholding.collected.complete hsent.carries).1 hall⟩
      · exact ⟨_, (hholding.collected.complete hsent.carries).2 hall⟩
    rw [hanswer] at hinsert
    simp only [hfree, hnew, hinsert, hanswer]
  · obtain ⟨hinsert, hnext⟩ := hsent.holding_insert hholding hmissing hchunk hplace hmessage
    refine ⟨reassembler.store chunk, delivered ++ [chunk], ?_, hnext⟩
    rw [if_pos hsame, hheld]
    simp only [hinsert, ← hsame]

/-- One more message of the manifest: the session goes on waiting, or it has
the manifest. -/
theorem awaiting_message
    (h : Awaiting externals id bytes manifest sent header pieces messages timeout place runtime)
    (hmessage : messages[place]? = some (payload, now)) :
    (∃ next, processManifestChunk externals runtime id payload now = (.ok (), next) ∧
      Awaiting externals id bytes manifest sent header pieces messages timeout (place + 1)
        next) ∨
    Recovered id bytes manifest (processManifestChunk externals runtime id payload now).2 := by
  obtain ⟨chunk, _, hchunk, hplace, hdecode⟩ := hsent.chunk_at hmessage
  obtain ⟨reassembler, delivered, hcollect, hholding⟩ :=
    hsent.collectChunk_eq h hchunk hplace hmessage
  let next := runtime.setSession id {
    runtime.session id with
    reassemblyRevision := manifest.manifestRevision
    reassembler := some reassembler }
  have hcollects : collectMessage externals runtime id payload now =
      (((reassembler.complete externals).mapError fun error =>
        RuntimeError.reassembly error.text).map fun bytes =>
          bytes.map (⟨chunk.manifestRevision, ·⟩), next) := by
    unfold collectMessage
    rw [hdecode]
    simp only [hsent.sessionId hchunk, ne_eq, not_true_eq_false, if_false, hcollect]
    rfl
  by_cases hall : AllDelivered sent delivered
  · -- the last missing chunk: the bytes are validated and installed
    refine Or.inr ?_
    rw [(hholding.collected.complete hsent.carries).1 hall] at hcollects
    have hmatching : validateManifest externals bytes
        (transportsOf (next.registry.snapshots id)) next.basePort = .ok manifest := h.matching
    obtain ⟨ready, hready, hmanifest, hbytes⟩ :=
      prepare_of_valid hmatching chunk.manifestRevision
    rw [processManifestChunk_of_prepared hcollects hready]
    unfold Recovered ReceiverRuntime.session
    rw [promoteAll_sessions]
    show ((install next id ready).session id).manifest = _ ∧
      ((install next id ready).session id).manifestBytes = _
    rw [install, setSession_session_self]
    exact ⟨congrArg some hmanifest, congrArg some hbytes⟩
  · refine Or.inl ?_
    rw [(hholding.collected.complete hsent.carries).2 hall] at hcollects
    refine ⟨next, processManifestChunk_of_incomplete hcollects, ?_, h.matching, h.patience,
      Or.inr ⟨reassembler, delivered, ?_, ?_, hholding, Or.inr hall⟩⟩
    · rw [setSession_session_self]
      exact h.fresh
    · rw [setSession_session_self]
    · rw [setSession_session_self]

/-- A session with this revision or a later one skips the chunks. -/
theorem message_skipped
    (h : ∃ current ∈ (runtime.session id).manifest,
      manifest.manifestRevision ≤ current.manifestRevision)
    (hmessage : (payload, now) ∈ messages) :
    processManifestChunk externals runtime id payload now =
      (.ok (), runtime.setSession id (runtime.session id)) := by
  obtain ⟨place, hplace⟩ := List.mem_iff_getElem?.mp hmessage
  obtain ⟨chunk, _, hchunk, _, hdecode⟩ := hsent.chunk_at hplace
  obtain ⟨current, hcurrent, hle⟩ := h
  have hskip : (runtime.session id).collectChunk externals chunk now runtime.manifestTimeout =
      (.ok none, runtime.session id) := by
    unfold SessionRuntime.collectChunk
    rw [if_pos]
    rw [hcurrent, hsent.manifestRevision hchunk]
    simpa using hle
  refine processManifestChunk_of_incomplete ?_
  unfold collectMessage
  rw [hdecode]
  simp only [hsent.sessionId hchunk, ne_eq, not_true_eq_false, if_false, hskip]
  rfl

/-- A session that has the manifest keeps it. -/
theorem recovered_message (h : Recovered id bytes manifest runtime)
    (hmessage : (payload, now) ∈ messages) :
    Recovered id bytes manifest (processManifestChunk externals runtime id payload now).2 := by
  rw [hsent.message_skipped ⟨manifest, h.1, UInt64.le_refl _⟩ hmessage]
  unfold Recovered
  rw [setSession_session_self]
  exact h

/-- The state in the middle of a repetition. -/
def Progress (externals : Externals) (id : Uuid) (bytes : List UInt8)
    (manifest : SessionManifestV1) (sent : List SessionManifestChunkV1)
    (header : ManifestHeader) (pieces : List (List UInt8))
    (messages : List (List UInt8 × Nat)) (timeout place : Nat) (runtime : ReceiverRuntime) :
    Prop :=
  Recovered id bytes manifest runtime ∨
    Awaiting externals id bytes manifest sent header pieces messages timeout place runtime

/-- The messages of one envelope. `process` stops at an error, but then the
manifest is there. -/
theorem progress_messages {now : List (List UInt8 × Nat)}
    (hsplit : messages = before ++ now ++ after)
    (h : Progress externals id bytes manifest sent header pieces messages timeout before.length
      runtime) :
    Progress externals id bytes manifest sent header pieces messages timeout
      (before.length + now.length) (processManifestChunks externals runtime id now).2 := by
  induction now generalizing before runtime with
  | nil => exact h
  | cons message now ih =>
    obtain ⟨payload, reading⟩ := message
    have hmessage : messages[before.length]? = some (payload, reading) := by
      rw [hsplit]
      simp
    have hrest : messages = (before ++ [(payload, reading)]) ++ now ++ after := by
      rw [hsplit]
      simp
    have hlength : (before ++ [(payload, reading)]).length = before.length + 1 := by simp
    have hnext : ∀ next, Progress externals id bytes manifest sent header pieces messages
        timeout (before.length + 1) next →
        Progress externals id bytes manifest sent header pieces messages timeout
          (before.length + (now.length + 1)) (processManifestChunks externals next id now).2 := by
      intro next hprogress
      have hlater := ih hrest (hlength ▸ hprogress)
      rw [hlength, Nat.add_assoc, Nat.add_comm 1] at hlater
      exact hlater
    have hdone : Recovered id bytes manifest
          (processManifestChunk externals runtime id payload reading).2 →
        Progress externals id bytes manifest sent header pieces messages timeout
          (before.length + (now.length + 1))
          (processManifestChunks externals runtime id ((payload, reading) :: now)).2 := by
      intro hstill
      rw [processManifestChunks]
      rcases hprocess : processManifestChunk externals runtime id payload reading with
        ⟨error | ⟨⟩, next⟩
      · rw [hprocess] at hstill
        exact Or.inl hstill
      · rw [hprocess] at hstill
        exact hnext next (Or.inl hstill)
    rcases h with hrecovered | hawaiting
    · exact hdone (hsent.recovered_message hrecovered (List.mem_of_getElem? hmessage))
    · rcases hsent.awaiting_message hawaiting hmessage with ⟨next, hprocess, hwaiting⟩ | hstill
      · rw [processManifestChunks, hprocess]
        exact hnext next (Or.inr hwaiting)
      · exact hdone hstill

omit hsent in
/-- Handling a frame changes nothing a repetition depends on. -/
theorem progress_processFrame
    (h : Progress externals id bytes manifest sent header pieces messages timeout place runtime)
    (envelope : EncodedFrameEnvelope) :
    Progress externals id bytes manifest sent header pieces messages timeout place
      (processFrame externals runtime envelope).2 := by
  obtain ⟨hmanifest, hbytes, hreassembler, hrevision⟩ :=
    processFrame_session externals runtime envelope id
  obtain ⟨hregistry, hport, hpatience⟩ := processFrame_settings externals runtime envelope
  rcases h with hrecovered | hawaiting
  · exact Or.inl ⟨hmanifest.trans hrecovered.1, hbytes.trans hrecovered.2⟩
  · refine Or.inr ⟨?_, ?_, hpatience.trans hawaiting.patience, ?_⟩
    · rw [hmanifest]
      exact hawaiting.fresh
    · rw [hregistry, hport]
      exact hawaiting.matching
    · unfold HoldsNone
      rw [hreassembler, hrevision]
      exact hawaiting.reassembly

/-- One envelope of the repetition. -/
theorem progress_receive {arrival : Arrival} (hsession : arrival.envelope.key.sessionId = id)
    (hsplit : messages = before ++ arrival.messages ++ after)
    (h : Progress externals id bytes manifest sent header pieces messages timeout before.length
      runtime) :
    Progress externals id bytes manifest sent header pieces messages timeout
      (before.length + arrival.messages.length) (receive externals runtime arrival) := by
  have hmessages := hsent.progress_messages hsplit h
  subst hsession
  rcases hchunks : processManifestChunks externals runtime arrival.envelope.key.sessionId
    arrival.messages with ⟨error | ⟨⟩, next⟩
  · rw [hchunks] at hmessages
    rw [receive, process_of_error hchunks]
    exact hmessages
  · rw [hchunks] at hmessages
    rw [receive, process_of_ok hchunks]
    exact progress_processFrame hmessages arrival.envelope

/-- The run lemma: all envelopes of the repetition. -/
theorem progress_run {arrivals : List Arrival}
    (hsession : ∀ arrival ∈ arrivals, arrival.envelope.key.sessionId = id)
    (hsplit : messages = before ++ arrivals.flatMap Arrival.messages)
    (h : Progress externals id bytes manifest sent header pieces messages timeout before.length
      runtime) :
    Progress externals id bytes manifest sent header pieces messages timeout messages.length
      (run (receive externals) runtime arrivals) := by
  induction arrivals generalizing before runtime with
  | nil =>
    rw [List.flatMap_nil, List.append_nil] at hsplit
    rw [hsplit] at h ⊢
    exact h
  | cons arrival arrivals ih =>
    rw [List.flatMap_cons, ← List.append_assoc] at hsplit
    have hnext := hsent.progress_receive (hsession arrival List.mem_cons_self) hsplit h
    rw [← List.length_append] at hnext
    exact ih (fun other hother => hsession other (List.mem_cons_of_mem _ hother)) hsplit hnext

/-- After the last chunk nothing can be missing. -/
theorem recovered_of_progress
    (h : Progress externals id bytes manifest sent header pieces messages timeout
      messages.length runtime) : Recovered id bytes manifest runtime := by
  rcases h with hrecovered | hawaiting
  · exact hrecovered
  · have hlength := hsent.length_messages
    have hpositive := List.length_pos_of_ne_nil hsent.carries.nonempty
    rcases hawaiting.reassembly with ⟨hzero, _⟩ | ⟨_, _, _, _, hholding, hzero | hmissing⟩
    · omega
    · omega
    · refine absurd ?_ hmissing
      intro index hindex
      exact hholding.before index (by omega)

/-- A reassembler that resumes has collected some of the chunks. -/
theorem holding_of_resumes (hfilled : reassembler.Filled) (h : Resumes sent messages reassembler) :
    ∃ delivered, Holding header pieces messages 0 delivered reassembler := by
  obtain ⟨member, hmember⟩ := List.exists_mem_of_ne_nil sent hsent.carries.nonempty
  have hheader : reassembler.header = header := by
    rw [← h.headed member hmember, hsent.carries.headed member hmember]
  have hlength : reassembler.chunks.length = pieces.length := by
    rw [reassembler.sized, hheader, hsent.carries.count]
  have hchunkAt : ∀ index < pieces.length, ∃ chunk ∈ sent, chunk.chunkIndex.toNat = index := by
    intro index hindex
    rw [← hsent.carries.length] at hindex
    have hat := List.getElem?_eq_getElem hindex
    exact ⟨_, List.mem_of_getElem? hat, hsent.carries.index index _ hat⟩
  -- the chunks whose slots are taken
  let delivered := sent.filter fun chunk =>
    reassembler.chunks[chunk.chunkIndex.toNat]? ≠ some none
  have hempty : ∀ index < pieces.length, reassembler.chunks[index]? = some none ↔
      ¬ ∃ chunk ∈ delivered, chunk.chunkIndex.toNat = index := by
    intro index hindex
    constructor
    · intro hnone hdelivered
      obtain ⟨chunk, hchunk, rfl⟩ := hdelivered
      have htaken := (List.mem_filter.mp hchunk).2
      simp [hnone] at htaken
    · intro hnever
      by_contra htaken
      obtain ⟨chunk, hchunk, rfl⟩ := hchunkAt index hindex
      exact hnever ⟨chunk, List.mem_filter.mpr ⟨hchunk, by simpa using htaken⟩, rfl⟩
  refine ⟨delivered, ⟨hfilled, hheader, rfl, rfl, ⟨hlength, ?_⟩, hempty⟩, ?_, ?_⟩
  · intro index payload hpayload
    have hindex : index < pieces.length := by
      rw [← hlength]
      exact (List.getElem?_eq_some_iff.mp hpayload).1
    obtain ⟨chunk, hchunk, rfl⟩ := hchunkAt index hindex
    rw [h.agrees chunk hchunk payload hpayload]
    exact hsent.carries.piece hchunk
  · intro index hindex
    exact absurd hindex (Nat.not_lt_zero index)
  · intro index message hat _ hwhich
    refine h.inTime index message hat ?_
    rcases hwhich with hzero | hnone
    · exact Or.inl hzero
    · refine Or.inr ((hempty index ?_).mpr hnone)
      rw [← hsent.carries.length, ← hsent.length_messages]
      exact (List.getElem?_eq_some_iff.mp hat).1

/-- A reassembler of the same revision that has run out of time refuses the
first chunk, and with it the envelope. -/
theorem late_envelope_refused (hheld : (runtime.session id).reassembler = some reassembler)
    (hrevision : (runtime.session id).reassemblyRevision = manifest.manifestRevision)
    (hfresh : ∀ current ∈ (runtime.session id).manifest,
      current.manifestRevision < manifest.manifestRevision)
    (hmessage : messages[0]? = some (payload, now))
    (hlate : reassembler.timeout < now - reassembler.startedAt) :
    ∃ error next, processManifestChunks externals runtime id messages = (.error error, next) ∧
      (next.session id).manifest = (runtime.session id).manifest ∧
      next.registry = runtime.registry := by
  obtain ⟨chunk, _, hchunk, _, hdecode⟩ := hsent.chunk_at hmessage
  have hrefused : reassembler.insert externals chunk now = (.error .timeout, reassembler) := by
    unfold ManifestReassembler.insert
    rw [if_pos hlate]
  have hcollect : (runtime.session id).collectChunk externals chunk now
      runtime.manifestTimeout = (.error .timeout, {
        runtime.session id with reassembler := some reassembler }) := by
    unfold SessionRuntime.collectChunk
    rw [if_neg (by rw [hsent.not_held hfresh hchunk]; simp), hsent.manifestRevision hchunk,
      if_pos hrevision, hheld]
    simp only [hrefused]
  have hmessages : processManifestChunks externals runtime id messages =
      (.error (.reassembly ManifestError.timeout.text), runtime.setSession id {
        runtime.session id with reassembler := some reassembler }) := by
    obtain ⟨rest, hrest⟩ : ∃ rest, messages = (payload, now) :: rest := by
      cases messages with
      | nil => cases hmessage
      | cons first rest =>
        cases hmessage
        exact ⟨rest, rfl⟩
    rw [hrest, processManifestChunks, processManifestChunk, collectMessage, hdecode]
    simp only [hsent.sessionId hchunk, ne_eq, not_true_eq_false, if_false, hcollect]
    rfl
  refine ⟨_, _, hmessages, ?_, rfl⟩
  rw [setSession_session_self]

end Sent

end Repetition

/-! ## Recovery -/

/-- All chunks in one envelope, at one clock reading. -/
def oneArrival (externals : Externals) (key : StreamKey) (sent : List SessionManifestChunkV1)
    (reading : Nat) : Arrival where
  envelope := {
    key
    ptsNs := 0
    accessUnitOrdinal := 0
    captureTimeEdgeNs := 0
    encodedAu := []
    metadataMessages := sent.map (manifestChunkSei externals) }
  clock _ := reading

theorem oneArrival_messages (externals : Externals) (key : StreamKey)
    (sent : List SessionManifestChunkV1) (reading : Nat) :
    (oneArrival externals key sent reading).messages =
      sent.map fun chunk => (externals.chunk.encodeToVec chunk, reading) := by
  have hpayloads : manifestPayloads (oneArrival externals key sent reading).envelope =
      sent.map externals.chunk.encodeToVec := by
    have hall : (sent.map (manifestChunkSei externals)).filter
        (fun message => message.uuid = sessionManifestUuid) =
          sent.map (manifestChunkSei externals) := by
      rw [List.filter_eq_self]
      intro message hmessage
      obtain ⟨chunk, _, rfl⟩ := List.mem_map.mp hmessage
      simp [manifestChunkSei]
    show ((sent.map (manifestChunkSei externals)).filter _).map _ = _
    rw [hall, List.map_map]
    rfl
  have hreadings : (fun (message : List UInt8 × Nat) => (message.1, reading)) =
      (fun payload => (payload, reading)) ∘ Prod.fst := rfl
  show (manifestPayloads _).zipIdx.map (fun message => (message.1, reading)) = _
  rw [hpayloads, hreadings, ← List.map_map, List.zipIdx_map_fst, List.map_map]
  rfl

theorem repeats_oneArrival (externals : Externals) (key : StreamKey)
    (sent : List SessionManifestChunkV1) {timeout now reading : Nat} (hsince : now ≤ reading) :
    Repeats externals key.sessionId sent timeout now [oneArrival externals key sent reading] := by
  have hmessages : [oneArrival externals key sent reading].flatMap Arrival.messages =
      sent.map fun chunk => (externals.chunk.encodeToVec chunk, reading) := by
    rw [List.flatMap_singleton, oneArrival_messages]
  have hreading : ∀ message ∈ [oneArrival externals key sent reading].flatMap Arrival.messages,
      message.2 = reading := by
    intro message hmessage
    rw [hmessages] at hmessage
    obtain ⟨chunk, _, rfl⟩ := List.mem_map.mp hmessage
    rfl
  refine ⟨?_, ?_, ?_, ?_, ?_⟩
  · intro arrival harrival
    rw [List.mem_singleton.mp harrival]
    rfl
  · rw [hmessages, List.map_map]
    rfl
  · rw [List.pairwise_iff_forall_sublist]
    intro first second hpair
    obtain ⟨left, hleft, rfl⟩ := List.mem_map.mp (hpair.subset List.mem_cons_self)
    obtain ⟨right, hright, rfl⟩ := List.mem_map.mp
      (hpair.subset (List.mem_cons_of_mem _ List.mem_cons_self))
    rw [hreading left hleft, hreading right hright]
  · intro message hmessage
    rw [hreading message hmessage]
    exact hsince
  · intro first hfirst message hmessage
    rw [hreading message hmessage, hreading first (List.mem_of_mem_head? hfirst)]
    exact Nat.le_add_right _ _

/-- A held reassembler of the manifest's revision makes some repetition fail:
one that comes after the reassembler has run out of time installs nothing and
leaves the registry alone. -/
theorem exists_late_repetition {bytes : List UInt8} {sent : List SessionManifestChunkV1}
    {header : ManifestHeader} {pieces : List (List UInt8)} (now : Nat)
    (hsent : ∀ {arrivals}, Repeats externals id sent runtime.manifestTimeout now arrivals →
      Sent externals id bytes manifest sent header pieces (arrivals.flatMap Arrival.messages)
        runtime.manifestTimeout)
    (hcarries : Carries externals bytes sent header pieces)
    (hfresh : ∀ current ∈ (runtime.session id).manifest,
      current.manifestRevision < manifest.manifestRevision)
    (hholds : ¬ HoldsNone manifest.manifestRevision (runtime.session id)) :
    ∃ arrivals, Repeats externals id sent runtime.manifestTimeout now arrivals ∧
      ((run (receive externals) runtime arrivals).session id).manifest =
        (runtime.session id).manifest ∧
      (run (receive externals) runtime arrivals).registry = runtime.registry := by
  unfold HoldsNone at hholds
  push Not at hholds
  obtain ⟨hsome, hsame⟩ := hholds
  obtain ⟨reassembler, hheld⟩ := Option.ne_none_iff_exists'.mp hsome
  let reading := now + (reassembler.startedAt + reassembler.timeout + 1)
  let late := oneArrival externals ⟨id, "", 0⟩ sent reading
  have hrepeats : Repeats externals id sent runtime.manifestTimeout now [late] :=
    repeats_oneArrival externals ⟨id, "", 0⟩ sent (Nat.le_add_right _ _)
  have hlate := hsent hrepeats
  rw [List.flatMap_singleton] at hlate
  obtain ⟨chunk, rest, rfl⟩ := List.exists_cons_of_ne_nil hcarries.nonempty
  have hfirst : late.messages[0]? = some (externals.chunk.encodeToVec chunk, reading) := by
    rw [oneArrival_messages]
    rfl
  have htime : reassembler.timeout < reading - reassembler.startedAt := by
    show reassembler.timeout <
      now + (reassembler.startedAt + reassembler.timeout + 1) - reassembler.startedAt
    omega
  obtain ⟨error, next, hrefused, hkept⟩ :=
    hlate.late_envelope_refused hheld hsame hfresh hfirst htime
  refine ⟨[late], hrepeats, ?_⟩
  rw [run_cons, run_nil, receive, process_of_error hrefused]
  exact hkept

/-- Repeating a manifest recovers it. In every reachable state in which a
session has no manifest of this revision or a later one, and the connected
transports match the manifest:

* every repetition from some time on installs it exactly when the session
  holds no reassembler of its revision;
* a session that holds one still gets the manifest from a repetition that
  this reassembler resumes. -/
theorem repetition_recovers_iff (externals : Externals) (hzstd : externals.zstd.RoundTrips)
    (registry : ReceiverRegistry) (basePort : UInt16) (manifestTimeout maxFramesPerCamera : Nat)
    (maxSkewNs : UInt64) (stepCapacity : Nat) (runtime : ReceiverRuntime)
    (hnew : ReceiverRuntime.new registry basePort manifestTimeout maxFramesPerCamera maxSkewNs
      stepCapacity = .ok runtime)
    (actions : List Action) (world : World)
    (hreached : world = run (World.step externals) (World.initial runtime) actions)
    (id : Uuid) (bytes : List UInt8) (manifest : SessionManifestV1)
    (compression : ManifestCompression) (sent : List SessionManifestChunkV1)
    (hchunks : chunkManifest externals bytes id.bytes manifest.manifestRevision compression =
      .ok sent)
    (hdecodes : ∀ chunk ∈ sent,
      externals.chunk.decode (externals.chunk.encodeToVec chunk) = some chunk)
    (hfresh : ∀ current ∈ (world.runtime.session id).manifest,
      current.manifestRevision < manifest.manifestRevision)
    (hmatching : validateManifest externals bytes
      (transportsOf (world.runtime.registry.snapshots id)) world.runtime.basePort = .ok manifest)
    (now : Nat) :
    ((∀ arrivals, Repeats externals id sent world.runtime.manifestTimeout now arrivals →
        Recovered id bytes manifest (run (receive externals) world.runtime arrivals)) ↔
      HoldsNone manifest.manifestRevision (world.runtime.session id)) ∧
    ∀ arrivals, Repeats externals id sent world.runtime.manifestTimeout now arrivals →
      ∀ reassembler ∈ (world.runtime.session id).reassembler,
        Resumes sent (arrivals.flatMap Arrival.messages) reassembler →
        Recovered id bytes manifest (run (receive externals) world.runtime arrivals) := by
  obtain ⟨header, pieces, hcarries, hsession, hrevision⟩ :=
    carries_of_chunkManifest hzstd hchunks
  have hsent : ∀ {arrivals}, Repeats externals id sent world.runtime.manifestTimeout now arrivals →
      Sent externals id bytes manifest sent header pieces (arrivals.flatMap Arrival.messages)
        world.runtime.manifestTimeout := fun hrepeats =>
    ⟨hcarries, hsession, hrevision, hdecodes, hrepeats.chunks, hrepeats.ordered, hrepeats.within⟩
  have hfree : ∀ arrivals, Repeats externals id sent world.runtime.manifestTimeout now arrivals →
      HoldsNone manifest.manifestRevision (world.runtime.session id) →
      Recovered id bytes manifest (run (receive externals) world.runtime arrivals) := by
    intro arrivals hrepeats hnone
    refine (hsent hrepeats).recovered_of_progress ?_
    exact (hsent hrepeats).progress_run hrepeats.session (List.nil_append _).symm
      (Or.inr ⟨hfresh, hmatching, rfl, Or.inl ⟨rfl, hnone⟩⟩)
  refine ⟨⟨?_, fun hnone arrivals hrepeats => hfree arrivals hrepeats hnone⟩, ?_⟩
  · intro hall
    by_contra hholds
    obtain ⟨arrivals, hrepeats, hkept, _⟩ :=
      exists_late_repetition now hsent hcarries hfresh hholds
    -- the manifest in force is still the older one
    exact UInt64.lt_irrefl _ (hfresh manifest (hkept ▸ (hall arrivals hrepeats).1))
  · intro arrivals hrepeats reassembler hheld hresumes
    by_cases hsame : (world.runtime.session id).reassemblyRevision = manifest.manifestRevision
    · have hfilled : HoldsFilled world.runtime :=
        hreached ▸ holdsFilled_run (ReceiverRuntime.new_eq_ok hnew).1 actions
      obtain ⟨delivered, hholding⟩ :=
        (hsent hrepeats).holding_of_resumes (hfilled id reassembler hheld) hresumes
      refine (hsent hrepeats).recovered_of_progress ?_
      exact (hsent hrepeats).progress_run hrepeats.session (List.nil_append _).symm
        (Or.inr ⟨hfresh, hmatching, rfl,
          Or.inr ⟨reassembler, delivered, hheld, hsame, hholding, Or.inl rfl⟩⟩)
    · exact hfree arrivals hrepeats (Or.inr hsame)

/-- Both cameras are connected and nothing was sent. -/
def connectedWorld : World :=
  run (World.step twoInstallersExternals) (World.initial cellRuntime)
    [.accept 10000 anchorStream, .accept 10001 sideStream]

/-- The manifest completed at time 1 while the side camera was missing, and
the side camera connected afterwards. -/
def rejectedWorld : World :=
  run (World.step twoInstallersExternals) (World.initial cellRuntime)
    [.accept 10000 anchorStream,
      .ingest 0 ⟨cellSession, "anchor", 1⟩ (some 100)
        (cellUnit 100 (manifestMessages (revisedManifest 1))),
      .advance 0 1, .advance 0 1, .accept 10001 sideStream]

/-- A repetition of the manifest by the anchor. -/
def cellRepetition (reading : Nat) : Arrival :=
  oneArrival twoInstallersExternals ⟨cellSession, "anchor", 1⟩ (chunksOf (revisedManifest 1))
    reading

theorem chunksOf_revisedManifest :
    chunkManifest twoInstallersExternals (revisedManifest 1).encode cellSession.bytes
      (revisedManifest 1).manifestRevision .none = .ok (chunksOf (revisedManifest 1)) := by
  decide +kernel

theorem chunksOf_decodes : ∀ chunk ∈ chunksOf (revisedManifest 1),
    twoInstallersExternals.chunk.decode (twoInstallersExternals.chunk.encodeToVec chunk) =
      some chunk := by
  decide +kernel

/-- No manifest is in force, and the one of revision 1 would be accepted. -/
def AwaitsManifest (world : World) : Prop :=
  (world.runtime.session cellSession).manifest = none ∧
    validateManifest twoInstallersExternals (revisedManifest 1).encode
      (transportsOf (world.runtime.registry.snapshots cellSession)) world.runtime.basePort =
        .ok (revisedManifest 1)

instance (world : World) : Decidable (AwaitsManifest world) :=
  inferInstanceAs (Decidable (_ ∧ _))

theorem AwaitsManifest.fresh {world : World} (h : AwaitsManifest world) :
    ∀ current ∈ (world.runtime.session cellSession).manifest,
      current.manifestRevision < (revisedManifest 1).manifestRevision := by
  intro current hcurrent
  rw [h.1] at hcurrent
  cases hcurrent

theorem connectedWorld_awaits :
    AwaitsManifest connectedWorld ∧
      (connectedWorld.runtime.session cellSession).reassembler.isNone = true := by
  decide +kernel

/-- The reassembler of the rejected manifest holds what was sent. -/
theorem rejectedWorld_awaits :
    AwaitsManifest rejectedWorld ∧
      (rejectedWorld.runtime.session cellSession).reassembler.isSome = true ∧
      ∀ reassembler ∈ (rejectedWorld.runtime.session cellSession).reassembler,
        (∀ chunk ∈ chunksOf (revisedManifest 1),
          ManifestHeader.ofChunk chunk = reassembler.header ∧
          ∀ slot ∈ reassembler.chunks[chunk.chunkIndex.toNat]?, ∀ payload ∈ slot,
            payload = chunk.chunkPayload) ∧
        5 - reassembler.startedAt ≤ reassembler.timeout := by
  decide +kernel

/-- The manifest arrives in the connected world, and again in the other one
while the reassembler there still has time. -/
theorem repetition_recovers_iff_cell :
    Recovered cellSession (revisedManifest 1).encode (revisedManifest 1)
        (run (receive twoInstallersExternals) connectedWorld.runtime [cellRepetition 5]) ∧
      Recovered cellSession (revisedManifest 1).encode (revisedManifest 1)
        (run (receive twoInstallersExternals) rejectedWorld.runtime [cellRepetition 5]) := by
  have hrepeats : ∀ timeout, Repeats twoInstallersExternals cellSession
      (chunksOf (revisedManifest 1)) timeout 2 [cellRepetition 5] := fun timeout =>
    repeats_oneArrival twoInstallersExternals ⟨cellSession, "anchor", 1⟩ _ (by decide)
  refine ⟨?_, ?_⟩
  · obtain ⟨hawaits, hnone⟩ := connectedWorld_awaits
    exact (repetition_recovers_iff twoInstallersExternals Zstd.stored_roundTrips _ _ _ _ _ _ _
      cellRuntime_new _ connectedWorld rfl cellSession _ (revisedManifest 1) .none _
      chunksOf_revisedManifest chunksOf_decodes hawaits.fresh hawaits.2 2).1.mpr
      (Or.inl (Option.isNone_iff_eq_none.mp hnone)) _ (hrepeats _)
  · obtain ⟨hawaits, hheld, hstate⟩ := rejectedWorld_awaits
    obtain ⟨reassembler, hreassembler⟩ := Option.isSome_iff_exists.mp hheld
    obtain ⟨hchunks, htime⟩ := hstate reassembler hreassembler
    refine (repetition_recovers_iff twoInstallersExternals Zstd.stored_roundTrips _ _ _ _ _ _ _
      cellRuntime_new _ rejectedWorld rfl cellSession _ (revisedManifest 1) .none _
      chunksOf_revisedManifest chunksOf_decodes hawaits.fresh hawaits.2 2).2
      _ (hrepeats _) reassembler hreassembler ⟨?_, ?_, ?_⟩
    · exact fun chunk hchunk => (hchunks chunk hchunk).1
    · exact fun chunk hchunk payload hslot =>
        (hchunks chunk hchunk).2 (some payload) hslot payload rfl
    · intro place message hmessage _
      have hmember := List.mem_of_getElem? hmessage
      rw [List.flatMap_singleton, cellRepetition, oneArrival_messages] at hmember
      obtain ⟨chunk, _, rfl⟩ := List.mem_map.mp hmember
      exact htime

/-- A reassembler is kept when its manifest is rejected, and never replaced
by one of the same revision. The manifest completed before the side camera
connected; two seconds later both cameras match it and it is repeated in
full, but the reassembler of time 1 answers every chunk with a timeout. -/
theorem rejected_manifest_not_recovered :
    ReceiverRuntime.new cellRegistry 10000 1000000000 8 20 8 = .ok cellRuntime ∧
      (rejectedWorld.runtime.session cellSession).manifest = none ∧
      validateManifest twoInstallersExternals (revisedManifest 1).encode
        (transportsOf (rejectedWorld.runtime.registry.snapshots cellSession))
        rejectedWorld.runtime.basePort = .ok (revisedManifest 1) ∧
      Repeats twoInstallersExternals cellSession (chunksOf (revisedManifest 1))
        rejectedWorld.runtime.manifestTimeout 2 [cellRepetition 2000000000] ∧
      ¬ Recovered cellSession (revisedManifest 1).encode (revisedManifest 1)
        (run (receive twoInstallersExternals) rejectedWorld.runtime
          [cellRepetition 2000000000]) := by
  obtain ⟨⟨hnone, hmatching⟩, _⟩ := rejectedWorld_awaits
  refine ⟨cellRuntime_new, hnone, hmatching, ?_, by decide +kernel⟩
  exact repeats_oneArrival twoInstallersExternals ⟨cellSession, "anchor", 1⟩ _ (by decide)

end RobotMulticam.Receiver
