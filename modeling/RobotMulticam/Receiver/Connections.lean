import RobotMulticam.Lib.Method
import RobotMulticam.Receiver.Steps

/-!
# The registry along its runs

The methods first, statement by statement on the locked state, each with the
theorem that it does what the function of the registry model says.

A run is a list of calls of `accept`, `transition`, `disconnect` and
`ingest_h264_before_decode`. A journal keeps what the calls returned: the
keys that were accepted and the envelopes that were ingested, in order.

The registry's own invariant does not need the journal, except to say what
`highest_epoch` remembers. Numbering of access units does: `accept` of a key
that was connected before starts its ordinals again.
-/

namespace RobotMulticam.Receiver

open RobotMulticam.Lib
open RobotMulticam.Protocol
open RobotMulticam.Codec
open RobotMulticam.Identity
open Std (ExtTreeMap)

/-! ## Methods in place -/

namespace IngestQueue

def pushInPlace (item : EncodedFrameEnvelope) : Method ReceiverError IngestQueue Unit := do
  let queue ← get
  if queue.maxBytes < item.encodedAu.length then throw (.err (.ingest .accessUnitTooLarge))
  let (items, bytes, dropped) := dropOldest queue.maxFrames queue.maxBytes
    item.encodedAu.length queue.items queue.bytes queue.dropped
  set { queue with items, bytes, dropped }
  modify fun queue => { queue with bytes := queue.bytes + item.encodedAu.length }
  modify fun queue => { queue with items := queue.items ++ [item] }

theorem pushInPlace_of_error {queue : IngestQueue} {item : EncodedFrameEnvelope}
    {error : IngestError} (h : queue.push item = .error error) :
    pushInPlace item queue = (fail (.ingest error), queue) := by
  unfold push at h
  dsimp only at h
  split at h
  · rename_i hlarge
    cases h
    simp [pushInPlace, hlarge, fail]
  · cases h

theorem pushInPlace_of_ok {queue next : IngestQueue} {item : EncodedFrameEnvelope}
    (h : queue.push item = .ok next) : pushInPlace item queue = (.ok (), next) := by
  unfold push at h
  dsimp only at h
  split at h
  · cases h
  · rename_i hfits
    cases h
    simp [pushInPlace, hfits]

end IngestQueue

namespace ReceiverRegistry

/-- `streams.get_mut(key)` and the writes of `body` to the record. -/
def onRecord {α : Type} (key : StreamKey) (body : Method ReceiverError StreamRecord α) :
    Method ReceiverError ReceiverRegistry α :=
  fun registry =>
    match registry.streams[key]? with
    | none => (fail .unknown, registry)
    | some record =>
      ((body record).1, { registry with streams := registry.streams.insert key (body record).2 })

def transitionInPlace (key : StreamKey) (target : BootstrapState) :
    Method ReceiverError ReceiverRegistry Unit :=
  onRecord key do
    let record ← get
    if ¬ validTransition record.state target then
      throw (.err (.transition record.state target))
    set { record with state := target }

def disconnectInPlace (key : StreamKey) : Method ReceiverError ReceiverRegistry Unit :=
  onRecord key do
    modify fun record => { record with connected := false }
    modify fun record => { record with state := .listening }

def ingestInPlace (codec : Message SyncTimestampV1) (key : StreamKey) (ptsNs : Option UInt64)
    (accessUnit : List UInt8) : Method ReceiverError ReceiverRegistry EncodedFrameEnvelope := do
  let ptsNs ← .attempt (okOr (.ingest .missingPts) ptsNs)
  onRecord key do
    let record ← get
    let inspected ← .attempt (mapErr (fun error => .ingest (.codec error))
      (inspectH264AnnexB codec accessUnit (record.identity.role = .secondary)))
    let inspected ← .attempt (okOr (.ingest .missingTimestamp) inspected)
    let capture := inspected.timestamp.captureTimeEdgeNs
    if record.lastPtsNs.any (ptsNs ≤ ·) ∨ record.lastCaptureTimeEdgeNs.any (capture ≤ ·) then
      throw (.err (.ingest .nonMonotonic))
    let envelope : EncodedFrameEnvelope := {
      key
      ptsNs
      accessUnitOrdinal := record.nextOrdinal
      captureTimeEdgeNs := capture
      encodedAu := accessUnit
      metadataMessages := inspected.messages }
    .within StreamRecord.ingest (fun record ingest => { record with ingest })
      (IngestQueue.pushInPlace envelope)
    modify fun record => { record with lastPtsNs := some ptsNs }
    modify fun record => { record with lastCaptureTimeEdgeNs := some capture }
    modify fun record => { record with nextOrdinal := saturatingAdd64 record.nextOrdinal 1 }
    return envelope

section OnRecord

variable {α : Type} {key : StreamKey} {body : Method ReceiverError StreamRecord α}
  {registry : ReceiverRegistry} {record next : StreamRecord} {result : Outcome ReceiverError α}

theorem onRecord_of_none (h : registry.streams[key]? = none) :
    onRecord key body registry = (fail .unknown, registry) := by
  rw [onRecord, h]

theorem onRecord_of_some (h : registry.streams[key]? = some record)
    (hbody : body record = (result, next)) :
    onRecord key body registry =
      (result, { registry with streams := registry.streams.insert key next }) := by
  rw [onRecord, h]
  dsimp only
  rw [hbody]

theorem onRecord_of_unchanged (h : registry.streams[key]? = some record)
    (hbody : body record = (result, record)) :
    onRecord key body registry = (result, registry) := by
  have hsame : registry.streams.insert key record = registry.streams := by
    refine ExtTreeMap.ext_getElem? fun other => ?_
    rw [getElem?_insert_stream]
    split
    · rename_i heq
      rw [← heq, h]
    · rfl
  rw [onRecord_of_some h hbody, hsame]

end OnRecord

/-- A function that returns nothing but the next registry, as a method. -/
def asMethod (result : Except ReceiverError ReceiverRegistry) :
    Outcome ReceiverError (Unit × ReceiverRegistry) :=
  (result.mapError .err).map ((), ·)

theorem transitionInPlace_eq (registry : ReceiverRegistry) (key : StreamKey)
    (target : BootstrapState) :
    transitionInPlace key target registry =
      Method.settled registry (asMethod (registry.transition key target)) := by
  cases hrecord : registry.streams[key]? with
  | none =>
    rw [transition, hrecord]
    exact onRecord_of_none hrecord
  | some record =>
    rw [transition, hrecord]
    dsimp only
    split
    · rename_i hvalid
      exact onRecord_of_some hrecord (by simp [hvalid])
    · rename_i hvalid
      exact onRecord_of_unchanged hrecord (by simp [hvalid])

theorem disconnectInPlace_eq (registry : ReceiverRegistry) (key : StreamKey) :
    disconnectInPlace key registry =
      Method.settled registry (asMethod (registry.disconnect key)) := by
  cases hrecord : registry.streams[key]? with
  | none =>
    rw [disconnect, hrecord]
    exact onRecord_of_none hrecord
  | some record =>
    rw [disconnect, hrecord]
    exact onRecord_of_some hrecord (by simp)

/-- Every check of `ingest_h264_before_decode`, the queue's included, comes
before its first write. -/
theorem ingestInPlace_eq (codec : Message SyncTimestampV1) (registry : ReceiverRegistry)
    (key : StreamKey) (ptsNs : Option UInt64) (accessUnit : List UInt8) :
    ingestInPlace codec key ptsNs accessUnit registry =
      Method.settled registry (registry.ingestH264BeforeDecode codec key ptsNs accessUnit) := by
  unfold ingestInPlace ingestH264BeforeDecode
  cases ptsNs with
  | none => rfl
  | some ptsNs =>
    simp only [okOr_some, ok_bind, Method.bind_attempt_ok]
    cases hrecord : registry.streams[key]? with
    | none =>
      rw [onRecord_of_none hrecord]
      rfl
    | some record =>
      simp only [okOr_some, ok_bind]
      cases hinspect : mapErr (fun error => ReceiverError.ingest (.codec error))
          (inspectH264AnnexB codec accessUnit (record.identity.role = .secondary)) with
      | error fault => exact onRecord_of_unchanged hrecord (by simp [hinspect])
      | ok inspected =>
        cases inspected with
        | none => exact onRecord_of_unchanged hrecord (by simp [hinspect, fail])
        | some inspected =>
          simp only [okOr_some, ok_bind]
          split
          · rename_i hstale
            refine onRecord_of_unchanged hrecord ?_
            simp only [Method.bind_get, hinspect, Method.bind_attempt_ok, okOr_some,
              if_pos hstale, Method.bind_throw]
          · rename_i hfresh
            cases hpush : record.ingest.push _ with
            | error error =>
              refine onRecord_of_unchanged hrecord ?_
              simp only [Method.bind_get, hinspect, Method.bind_attempt_ok, okOr_some,
                if_neg hfresh]
              exact Method.bind_of_error
                (Method.within_eq (IngestQueue.pushInPlace_of_error hpush))
            | ok ingest =>
              refine onRecord_of_some hrecord ?_
              simp only [Method.bind_get, hinspect, Method.bind_attempt_ok, okOr_some,
                if_neg hfresh]
              exact Method.bind_of_ok (Method.within_eq (IngestQueue.pushInPlace_of_ok hpush))

end ReceiverRegistry

/-! ## Calls -/

inductive RegistryCall where
  | accept (listenPort : UInt16) (rawStreamId : String)
  | transition (key : StreamKey) (target : BootstrapState)
  | disconnect (key : StreamKey)
  | ingest (key : StreamKey) (ptsNs : Option UInt64) (accessUnit : List UInt8)

/-- What a successful call adds to the journal. -/
inductive RegistryEvent where
  | accepted (key : StreamKey)
  | ingested (envelope : EncodedFrameEnvelope)
  deriving DecidableEq

namespace ReceiverRegistry

/-- A method's exit, with what it returned as an event. -/
def answer {α : Type} (event : α → Option RegistryEvent)
    (exit : Outcome ReceiverError α × ReceiverRegistry) :
    Outcome ReceiverError (Option RegistryEvent) × ReceiverRegistry :=
  (exit.1.map event, exit.2)

/-- The result of a call: whether it failed or what it returned, and the
registry after it. -/
def perform (codec : Message SyncTimestampV1) (registry : ReceiverRegistry) :
    RegistryCall → Outcome ReceiverError (Option RegistryEvent) × ReceiverRegistry
  | .accept listenPort rawStreamId =>
    let (result, next) := registry.accept listenPort rawStreamId
    answer (fun key => some (.accepted key)) (result.mapError .err, next)
  | .transition key target => answer (fun _ => none) (transitionInPlace key target registry)
  | .disconnect key => answer (fun _ => none) (disconnectInPlace key registry)
  | .ingest key ptsNs accessUnit =>
    answer (fun envelope => some (.ingested envelope))
      (ingestInPlace codec key ptsNs accessUnit registry)

/-- Everything a call can do. -/
theorem perform_cases (codec : Message SyncTimestampV1) (registry : ReceiverRegistry)
    (call : RegistryCall) :
    (∃ fault, registry.perform codec call = (.error fault, registry)) ∨
    (∃ listenPort identity, registry.Admissible listenPort identity ∧
      registry.perform codec call = (.ok (some (.accepted (keyOf identity))),
        registry.withAccepted listenPort identity)) ∨
    (∃ key old record next, Updates registry key old record next ∧
      record.nextOrdinal = old.nextOrdinal ∧
      registry.perform codec call = (.ok none, next)) ∨
    ∃ key old envelope ingest next,
      Updates registry key old (ingestedRecord old envelope ingest) next ∧
      envelope.key = key ∧ envelope.accessUnitOrdinal = old.nextOrdinal ∧
      registry.perform codec call = (.ok (some (.ingested envelope)), next) := by
  cases call with
  | accept listenPort rawStreamId =>
    rcases accept_cases registry listenPort rawStreamId with
      ⟨error, hrefused⟩ | ⟨identity, _, hadmissible, haccepted⟩
    · refine Or.inl ⟨.err error, ?_⟩
      rw [perform, hrefused]
      rfl
    · refine Or.inr (Or.inl ⟨listenPort, identity, hadmissible, ?_⟩)
      rw [perform, haccepted]
      rfl
  | transition key target =>
    rw [perform, transitionInPlace_eq]
    cases htransition : registry.transition key target with
    | error error => exact Or.inl ⟨.err error, rfl⟩
    | ok next =>
      obtain ⟨old, hupdates⟩ := transition_eq_ok htransition
      exact Or.inr (Or.inr (Or.inl ⟨key, old, _, next, hupdates, rfl, rfl⟩))
  | disconnect key =>
    rw [perform, disconnectInPlace_eq]
    cases hdisconnect : registry.disconnect key with
    | error error => exact Or.inl ⟨.err error, rfl⟩
    | ok next =>
      obtain ⟨old, hupdates⟩ := disconnect_eq_ok hdisconnect
      exact Or.inr (Or.inr (Or.inl ⟨key, old, _, next, hupdates, rfl, rfl⟩))
  | ingest key ptsNs accessUnit =>
    rw [perform, ingestInPlace_eq]
    cases hingest : registry.ingestH264BeforeDecode codec key ptsNs accessUnit with
    | error fault => exact Or.inl ⟨fault, rfl⟩
    | ok result =>
      obtain ⟨envelope, next⟩ := result
      obtain ⟨old, inspected, ingest, _, henvelope, _, _, hupdates⟩ :=
        ingestH264BeforeDecode_inv hingest
      refine Or.inr (Or.inr (Or.inr ⟨key, old, envelope, ingest, next, hupdates, ?_, ?_, rfl⟩))
      · rw [henvelope]
      · rw [henvelope]

end ReceiverRegistry

/-- A registry and what its calls have returned so far. -/
structure Journal where
  registry : ReceiverRegistry
  events : List RegistryEvent

namespace Journal

def start (policy : ReceiverPolicy) (verify : String → Except IdentityError StreamIdentity) :
    Journal := ⟨.new policy verify, []⟩

/-- What a call adds to the events. -/
def returned (codec : Message SyncTimestampV1) (journal : Journal) (call : RegistryCall) :
    Option RegistryEvent :=
  (journal.registry.perform codec call).1.toOption.join

def perform (codec : Message SyncTimestampV1) (journal : Journal) (call : RegistryCall) :
    Journal :=
  ⟨(journal.registry.perform codec call).2,
    journal.events ++ (journal.returned codec call).toList⟩

/-- The call returned an error (or panicked). -/
def Fails (codec : Message SyncTimestampV1) (journal : Journal) (call : RegistryCall) : Prop :=
  ∃ fault, (journal.registry.perform codec call).1 = .error fault

/-- The registry's invariant: records sit under their own key and on the port
of their slot, connected streams fit the policy and do not share a camera or
a slot within a session, and `highest_epoch` is the greatest epoch accepted,
which is the epoch of the camera's connected stream. -/
structure Consistent (policy : ReceiverPolicy) (journal : Journal) : Prop where
  samePolicy : journal.registry.policy = policy
  records : ∀ (key : StreamKey) (record : StreamRecord),
    journal.registry.streams[key]? = some record →
      ReceiverRegistry.keyOf record.identity = key ∧
      record.identity.slot < policy.maxCameras ∧
      record.listenPort.toNat = policy.basePort.toNat + record.identity.slot.toNat
  capacity : journal.registry.connectedStreams.length ≤ policy.maxCameras.toNat
  exclusive : ∀ entry ∈ journal.registry.connectedStreams,
    ∀ other ∈ journal.registry.connectedStreams, entry.1.sessionId = other.1.sessionId →
      entry.1.cameraId = other.1.cameraId ∨ entry.2.identity.slot = other.2.identity.slot →
        entry.1 = other.1
  highest : ∀ (session : Uuid) (camera : String) (epoch : UInt32),
    journal.registry.highestEpoch[(session, camera)]? = some epoch →
      IsGreatest { accepted | .accepted ⟨session, camera, accepted⟩ ∈ journal.events } epoch
  unseen : ∀ (session : Uuid) (camera : String),
    journal.registry.highestEpoch[(session, camera)]? = none →
      ∀ epoch, .accepted ⟨session, camera, epoch⟩ ∉ journal.events
  current : ∀ entry ∈ journal.registry.connectedStreams,
    journal.registry.highestEpoch[(entry.1.sessionId, entry.1.cameraId)]? = some entry.1.epoch

end Journal

namespace ReceiverRegistry

/-- A connected stream stands once in the list. -/
theorem nodup_connectedKeys (registry : ReceiverRegistry) :
    (registry.connectedStreams.map Prod.fst).Nodup := by
  have hdistinct := ExtTreeMap.distinct_keys_toList (t := registry.streams)
  refine List.pairwise_map.mpr ((hdistinct.sublist List.filter_sublist).imp ?_)
  intro entry other hne heq
  exact hne (by rw [heq]; exact Std.ReflCmp.compare_self)

variable {next registry : ReceiverRegistry}

theorem length_connectedStreams_le (registry : ReceiverRegistry) (keys : List StreamKey)
    (h : ∀ entry ∈ next.connectedStreams,
      entry.1 ∈ keys ++ registry.connectedStreams.map Prod.fst) :
    next.connectedStreams.length ≤ keys.length + registry.connectedStreams.length := by
  have hsubset : next.connectedStreams.map Prod.fst ⊆
      keys ++ registry.connectedStreams.map Prod.fst := by
    intro key hkey
    obtain ⟨entry, hentry, rfl⟩ := List.mem_map.mp hkey
    exact h entry hentry
  simpa using (next.nodup_connectedKeys.subperm hsubset).length_le

/-- Connected streams of an updated registry were connected before, under the
same identity. -/
theorem Updates.connectedStreams {key : StreamKey} {old record : StreamRecord}
    (h : Updates registry key old record next) :
    ∀ entry ∈ next.connectedStreams, ∃ before : StreamRecord,
      (entry.1, before) ∈ registry.connectedStreams ∧ before.identity = entry.2.identity := by
  rintro ⟨other, found⟩ hentry
  obtain ⟨hfound, hconnected⟩ := mem_connectedStreams.mp hentry
  rw [h.next_eq, getElem?_insert_stream] at hfound
  split at hfound
  · rename_i hsame
    cases hfound
    exact ⟨old, mem_connectedStreams.mpr ⟨hsame ▸ h.found, h.connected hconnected⟩,
      h.identity.symm⟩
  · exact ⟨found, mem_connectedStreams.mpr ⟨hfound, hconnected⟩, rfl⟩

/-- Connected streams after an `accept`: the new one, and those before. -/
theorem withAccepted_connectedStreams {listenPort : UInt16} {identity : StreamIdentity} :
    ∀ entry ∈ (registry.withAccepted listenPort identity).connectedStreams,
      entry = (keyOf identity, freshRecord registry.policy identity listenPort) ∨
      entry ∈ registry.connectedStreams := by
  rintro ⟨key, record⟩ hentry
  obtain ⟨hfound, hconnected⟩ := mem_connectedStreams.mp hentry
  rw [withAccepted, getElem?_insert_stream] at hfound
  split at hfound
  · rename_i hsame
    cases hfound
    exact Or.inl (Prod.ext hsame.symm rfl)
  · exact Or.inr (mem_connectedStreams.mpr ⟨hfound, hconnected⟩)

theorem withAccepted_highestEpoch (registry : ReceiverRegistry) (listenPort : UInt16)
    (identity : StreamIdentity) (session : Uuid) (camera : String) :
    (registry.withAccepted listenPort identity).highestEpoch[(session, camera)]? =
      if (identity.sessionId, identity.cameraId) = (session, camera) then some identity.epoch
      else registry.highestEpoch[(session, camera)]? := by
  rw [withAccepted, ExtTreeMap.getElem?_insert]
  simp only [Std.LawfulEqCmp.compare_eq_iff_eq]

end ReceiverRegistry

namespace Journal

open ReceiverRegistry

variable {policy : ReceiverPolicy} {journal : Journal} {codec : Message SyncTimestampV1}

/-- Updates of a record keep the invariant. -/
theorem Consistent.update {key : StreamKey} {old record : StreamRecord} {next : ReceiverRegistry}
    {events : List RegistryEvent} (h : Consistent policy journal)
    (hupdates : Updates journal.registry key old record next)
    (hevents : ∀ accepted, .accepted accepted ∉ events) :
    Consistent policy ⟨next, journal.events ++ events⟩ := by
  have hconnected := hupdates.connectedStreams
  have hepochs : next.highestEpoch = journal.registry.highestEpoch := by rw [hupdates.next_eq]
  refine ⟨?_, ?_, ?_, ?_, ?_, ?_, ?_⟩
  · rw [hupdates.next_eq]
    exact h.samePolicy
  · intro other found hfound
    change next.streams[other]? = some found at hfound
    rw [hupdates.next_eq, getElem?_insert_stream] at hfound
    split at hfound
    · rename_i hsame
      cases hfound
      rw [hupdates.identity, hupdates.listenPort]
      exact hsame ▸ h.records key old hupdates.found
    · exact h.records other found hfound
  · have hfewer := length_connectedStreams_le journal.registry [] fun entry hentry => by
      obtain ⟨before, hbefore, _⟩ := hconnected entry hentry
      exact List.mem_map.mpr ⟨_, hbefore, rfl⟩
    exact hfewer.trans (by simpa using h.capacity)
  · intro entry hentry other hother hsession hshared
    obtain ⟨before, hbefore, hidentity⟩ := hconnected entry hentry
    obtain ⟨before', hbefore', hidentity'⟩ := hconnected other hother
    rw [← hidentity, ← hidentity'] at hshared
    exact h.exclusive (entry.1, before) hbefore (other.1, before') hbefore' hsession hshared
  · intro session camera epoch hepoch
    change next.highestEpoch[(session, camera)]? = some epoch at hepoch
    rw [hepochs] at hepoch
    simpa [hevents] using h.highest session camera epoch hepoch
  · intro session camera hnone
    change next.highestEpoch[(session, camera)]? = none at hnone
    rw [hepochs] at hnone
    simpa [hevents] using h.unseen session camera hnone
  · intro entry hentry
    obtain ⟨before, hbefore, _⟩ := hconnected entry hentry
    show next.highestEpoch[(entry.1.sessionId, entry.1.cameraId)]? = _
    rw [hepochs]
    exact h.current (entry.1, before) hbefore

/-- No epoch of a camera that was accepted is above the one remembered. -/
theorem Consistent.accepted_le (h : Consistent policy journal) {session : Uuid} {camera : String}
    {bound epoch : UInt32}
    (hbound : ∀ highest, journal.registry.highestEpoch[(session, camera)]? = some highest →
      highest ≤ bound)
    (haccepted : .accepted ⟨session, camera, epoch⟩ ∈ journal.events) : epoch ≤ bound := by
  cases hhighest : journal.registry.highestEpoch[(session, camera)]? with
  | none => exact absurd haccepted (h.unseen session camera hhighest epoch)
  | some highest =>
    exact UInt32.le_trans ((h.highest session camera highest hhighest).2 haccepted)
      (hbound highest hhighest)

/-- Accepting a stream keeps the invariant. -/
theorem Consistent.accept {listenPort : UInt16} {identity : StreamIdentity}
    (h : Consistent policy journal)
    (hadmissible : journal.registry.Admissible listenPort identity) :
    Consistent policy ⟨journal.registry.withAccepted listenPort identity,
      journal.events ++ [.accepted (keyOf identity)]⟩ := by
  have hpolicy := h.samePolicy
  obtain ⟨hchecked, hroom, hothers, hepoch⟩ := hadmissible
  obtain ⟨hslot, hport⟩ := checkIdentity_eq_ok hchecked
  rw [hpolicy] at hslot hport hroom
  -- no connected stream of the session has the new camera or the new slot
  have hclash : ∀ entry ∈ journal.registry.connectedStreams,
      entry.1.sessionId = identity.sessionId → entry.1.cameraId ≠ identity.cameraId ∧
        entry.2.identity.slot ≠ identity.slot := by
    intro entry hentry hsession
    obtain ⟨hkey, _⟩ := h.records entry.1 entry.2 (mem_connectedStreams.mp hentry).1
    rw [← hkey] at hsession ⊢
    exact hothers entry hentry hsession
  have hfresh : ∀ session camera, (identity.sessionId, identity.cameraId) ≠ (session, camera) →
      ∀ epoch, StreamKey.mk session camera epoch ≠ keyOf identity := by
    intro session camera hother epoch heq
    cases heq
    exact hother rfl
  refine ⟨hpolicy, ?_, ?_, ?_, ?_, ?_, ?_⟩
  · intro key record hrecord
    change (journal.registry.withAccepted listenPort identity).streams[key]? = _ at hrecord
    rw [withAccepted, getElem?_insert_stream] at hrecord
    split at hrecord
    · rename_i hsame
      cases hrecord
      exact ⟨hsame, hslot, hport⟩
    · exact h.records key record hrecord
  · have hmore := length_connectedStreams_le journal.registry [keyOf identity]
      fun entry (hentry : entry ∈
        (journal.registry.withAccepted listenPort identity).connectedStreams) => by
        rcases withAccepted_connectedStreams entry hentry with rfl | hbefore
        · exact List.mem_cons_self
        · exact List.mem_cons_of_mem _ (List.mem_map_of_mem hbefore)
    exact hmore.trans (by rw [List.length_singleton]; omega)
  · intro entry hentry other hother hsession hshared
    rcases withAccepted_connectedStreams entry hentry with rfl | hentry
    · rcases withAccepted_connectedStreams other hother with rfl | hother
      · rfl
      · have hne := hclash other hother hsession.symm
        exact absurd hshared (not_or.mpr ⟨Ne.symm hne.1, Ne.symm hne.2⟩)
    · rcases withAccepted_connectedStreams other hother with rfl | hother
      · exact absurd hshared (not_or.mpr (hclash entry hentry hsession))
      · exact h.exclusive entry hentry other hother hsession hshared
  · intro session camera epoch hfound
    rw [withAccepted_highestEpoch] at hfound
    split at hfound
    · rename_i hsame
      obtain ⟨rfl, rfl⟩ := Prod.mk.inj hsame
      cases hfound
      refine ⟨by simp [keyOf], ?_⟩
      intro other hother
      rcases List.mem_append.mp hother with hold | hnew
      · exact h.accepted_le hepoch hold
      · simp only [List.mem_singleton, RegistryEvent.accepted.injEq, keyOf,
          StreamKey.mk.injEq] at hnew
        exact hnew.2.2 ▸ UInt32.le_refl _
    · rename_i hother
      have hnew := hfresh session camera hother
      simpa [hnew] using h.highest session camera epoch hfound
  · intro session camera hnone
    rw [withAccepted_highestEpoch] at hnone
    split at hnone
    · cases hnone
    · rename_i hother
      have hnew := hfresh session camera hother
      simpa [hnew] using h.unseen session camera hnone
  · intro entry hentry
    rw [withAccepted_highestEpoch]
    rcases withAccepted_connectedStreams entry hentry with rfl | hentry
    · exact if_pos rfl
    · rw [if_neg]
      · exact h.current entry hentry
      · intro hsame
        obtain ⟨hsession, hcamera⟩ := Prod.mk.inj hsame
        exact (hclash entry hentry hsession.symm).1 hcamera.symm

/-- Everything a call can do to a journal. -/
theorem perform_cases (codec : Message SyncTimestampV1) (journal : Journal) (call : RegistryCall) :
    (journal.returned codec call = none ∧ journal.perform codec call = journal) ∨
    (∃ listenPort identity, journal.registry.Admissible listenPort identity ∧
      journal.returned codec call = some (.accepted (keyOf identity)) ∧
      journal.perform codec call = ⟨journal.registry.withAccepted listenPort identity,
        journal.events ++ [.accepted (keyOf identity)]⟩) ∨
    (∃ key old record next, Updates journal.registry key old record next ∧
      record.nextOrdinal = old.nextOrdinal ∧
      journal.returned codec call = none ∧
      journal.perform codec call = ⟨next, journal.events⟩) ∨
    ∃ key old envelope ingest next,
      Updates journal.registry key old (ingestedRecord old envelope ingest) next ∧
      envelope.key = key ∧ envelope.accessUnitOrdinal = old.nextOrdinal ∧
      journal.returned codec call = some (.ingested envelope) ∧
      journal.perform codec call = ⟨next, journal.events ++ [.ingested envelope]⟩ := by
  rcases ReceiverRegistry.perform_cases codec journal.registry call with ⟨fault, hfailed⟩ |
    ⟨listenPort, identity, hadmissible, haccepted⟩ |
    ⟨key, old, record, next, hupdates, hordinal, hdone⟩ |
    ⟨key, old, envelope, ingest, next, hupdates, hkey, hordinal, hingested⟩
  · have hnone : journal.returned codec call = none := by rw [returned, hfailed]; rfl
    refine Or.inl ⟨hnone, ?_⟩
    rw [perform, hnone, hfailed, Option.toList_none, List.append_nil]
  · have hsome : journal.returned codec call = some (.accepted (keyOf identity)) := by
      rw [returned, haccepted]; rfl
    refine Or.inr (Or.inl ⟨listenPort, identity, hadmissible, hsome, ?_⟩)
    rw [perform, hsome, haccepted, Option.toList_some]
  · have hnone : journal.returned codec call = none := by rw [returned, hdone]; rfl
    refine Or.inr (Or.inr (Or.inl ⟨key, old, record, next, hupdates, hordinal, hnone, ?_⟩))
    rw [perform, hnone, hdone, Option.toList_none, List.append_nil]
  · have hsome : journal.returned codec call = some (.ingested envelope) := by
      rw [returned, hingested]; rfl
    refine Or.inr (Or.inr (Or.inr
      ⟨key, old, envelope, ingest, next, hupdates, hkey, hordinal, hsome, ?_⟩))
    rw [perform, hsome, hingested, Option.toList_some]

theorem join_answer_eq_some {α : Type} {event : α → Option RegistryEvent}
    {exit : Outcome ReceiverError α × ReceiverRegistry} {found : RegistryEvent}
    (h : (answer event exit).1.toOption.join = some found) :
    ∃ value, exit.1 = .ok value ∧ event value = some found := by
  cases hexit : exit.1 with
  | error fault => simp [answer, hexit, Except.map, Except.toOption] at h
  | ok value =>
    refine ⟨value, rfl, ?_⟩
    simpa [answer, hexit, Except.map, Except.toOption] using h

/-- Only a call of `ingest_h264_before_decode` returns an envelope, and it is
one of the stream it was called for. -/
theorem returned_ingested {call : RegistryCall} {envelope : EncodedFrameEnvelope}
    (h : journal.returned codec call = some (.ingested envelope)) :
    ∃ ptsNs accessUnit, call = .ingest envelope.key ptsNs accessUnit := by
  rw [returned] at h
  cases call with
  | accept listenPort rawStreamId =>
    obtain ⟨key, _, hevent⟩ := join_answer_eq_some h
    cases hevent
  | transition key target =>
    obtain ⟨_, _, hevent⟩ := join_answer_eq_some h
    cases hevent
  | disconnect key =>
    obtain ⟨_, _, hevent⟩ := join_answer_eq_some h
    cases hevent
  | ingest key ptsNs accessUnit =>
    obtain ⟨found, hfound, hevent⟩ := join_answer_eq_some h
    cases hevent
    rw [ingestInPlace_eq] at hfound
    cases hingest : journal.registry.ingestH264BeforeDecode codec key ptsNs accessUnit with
    | error fault =>
      rw [hingest] at hfound
      cases hfound
    | ok result =>
      obtain ⟨_, next⟩ := result
      rw [hingest] at hfound
      cases hfound
      exact ⟨ptsNs, accessUnit, by rw [(ingestH264BeforeDecode_eq_ok hingest).1]⟩

/-- One call keeps the invariant. -/
theorem consistent_perform (journal : Journal) (call : RegistryCall)
    (h : Consistent policy journal) :
    Consistent policy (journal.perform codec call) := by
  rcases perform_cases codec journal call with ⟨_, hsame⟩ |
    ⟨listenPort, identity, hadmissible, _, hnext⟩ |
    ⟨key, old, record, next, hupdates, _, _, hnext⟩ |
    ⟨key, old, envelope, ingest, next, hupdates, _, _, _, hnext⟩
  · rw [hsame]
    exact h
  · rw [hnext]
    exact h.accept hadmissible
  · rw [hnext, ← List.append_nil journal.events]
    exact h.update hupdates (by simp)
  · rw [hnext]
    exact h.update hupdates (by simp)

theorem consistent_start (policy : ReceiverPolicy)
    (verify : String → Except IdentityError StreamIdentity) :
    Consistent policy (start policy verify) := by
  have hnone : ∀ entry, entry ∉ (start policy verify).registry.connectedStreams := by
    intro entry hentry
    exact absurd (mem_connectedStreams.mp hentry).1 (by simp [start, ReceiverRegistry.new])
  refine ⟨rfl, ?_, ?_, ?_, ?_, ?_, ?_⟩
  · intro key record hrecord
    simp [start, ReceiverRegistry.new] at hrecord
  · simp [List.eq_nil_iff_forall_not_mem.mpr hnone]
  · intro entry hentry
    exact absurd hentry (hnone entry)
  · intro session camera epoch hepoch
    simp [start, ReceiverRegistry.new] at hepoch
  · intro session camera _ epoch
    simp [start]
  · intro entry hentry
    exact absurd hentry (hnone entry)

/-- The registry's invariant holds in every reachable state, and a call that
fails there changes nothing. -/
theorem registry_invariant (codec : Message SyncTimestampV1) (policy : ReceiverPolicy)
    (verify : String → Except IdentityError StreamIdentity) (calls : List RegistryCall) :
    let journal := run (perform codec) (start policy verify) calls
    Consistent policy journal ∧
      ∀ call, journal.Fails codec call →
        (journal.registry.perform codec call).2 = journal.registry := by
  intro journal
  refine ⟨run_invariant' consistent_perform (consistent_start policy verify) calls, ?_⟩
  rintro call ⟨fault, hfault⟩
  rcases ReceiverRegistry.perform_cases codec journal.registry call with ⟨_, hfailed⟩ |
    ⟨_, _, _, hdone⟩ | ⟨_, _, _, _, _, _, hdone⟩ | ⟨_, _, _, _, _, _, _, _, hdone⟩
  · rw [hfailed]
  all_goals
    rw [hdone] at hfault
    cases hfault

end Journal

end RobotMulticam.Receiver
