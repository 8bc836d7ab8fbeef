import RobotMulticam.Codec.AccessUnit
import RobotMulticam.Identity.StreamIdentity

/-!
# The receiver registry

Authenticated streams, their bootstrap state, and bounded ingest of access
units before decoding. A record stays in the registry when its stream
disconnects, and is replaced when the same key is accepted again.

`verify` stands for parsing and verifying a stream ID under the registry's
key. Methods that can fail after they changed the state return the state
together with their result.
-/

namespace RobotMulticam.Receiver

open RobotMulticam.Lib
open RobotMulticam.Protocol
open RobotMulticam.Codec
open RobotMulticam.Identity
open Std (ExtTreeMap)

inductive BootstrapState where
  | listening
  | transportIdentified
  | mediaProbing
  | provisionalStream
  | manifestValidated
  | datasetReady
  | quarantined
  deriving DecidableEq, Repr

structure StreamKey where
  sessionId : Uuid
  cameraId : String
  epoch : UInt32
  deriving DecidableEq

namespace StreamKey

/-- The derived order: session, then camera, then epoch. -/
instance : Ord StreamKey :=
  ⟨compareLex (compareOn sessionId) (compareLex (compareOn cameraId) (compareOn epoch))⟩

instance : Std.TransOrd StreamKey :=
  inferInstanceAs (Std.TransCmp
    (compareLex (compareOn sessionId) (compareLex (compareOn cameraId) (compareOn epoch))))

instance : Std.LawfulEqOrd StreamKey where
  eq_of_compare := by
    rintro ⟨session, camera, epoch⟩ ⟨session', camera', epoch'⟩ h
    change compareLex _ _ _ _ = .eq at h
    rw [compareLex_eq_eq, compareLex_eq_eq] at h
    obtain ⟨hsession, hcamera, hepoch⟩ := h
    simp only [compareOn, Std.LawfulEqOrd.compare_eq_iff_eq] at hsession hcamera hepoch
    rw [hsession, hcamera, hepoch]

end StreamKey

structure ReceiverPolicy where
  expectedEmbodimentId : String
  expectedEdgeInstanceId : Option String
  basePort : UInt16
  maxCameras : UInt16
  maxIngestFrames : Nat
  maxIngestBytes : Nat

inductive IngestError where
  | codec (error : CodecError)
  | missingPts
  | missingTimestamp
  | nonMonotonic
  | accessUnitTooLarge
  deriving DecidableEq

inductive ReceiverError where
  | identity (error : IdentityError)
  | embodiment
  | edgeInstance
  | slot
  | duplicate
  | staleEpoch
  | capacity
  | unknown
  | transition (source target : BootstrapState)
  | ingest (error : IngestError)
  deriving DecidableEq

structure EncodedFrameEnvelope where
  key : StreamKey
  ptsNs : UInt64
  accessUnitOrdinal : UInt64
  captureTimeEdgeNs : UInt64
  encodedAu : List UInt8
  metadataMessages : List UserDataUnregistered
  deriving DecidableEq

/-- The fields of a snapshot the runtime reads. -/
structure StreamSnapshot where
  key : StreamKey
  slot : UInt16
  listenPort : UInt16
  state : BootstrapState
  connected : Bool
  deriving DecidableEq

/-! ## Ingest queues -/

structure IngestQueue where
  items : List EncodedFrameEnvelope
  bytes : Nat
  maxFrames : Nat
  maxBytes : Nat
  dropped : UInt64

namespace IngestQueue

def new (maxFrames maxBytes : Nat) : IngestQueue := ⟨[], 0, maxFrames, maxBytes, 0⟩

/-- The `while` loop of `push`: drops from the front while the new item does
not fit; an empty queue ends it. -/
def dropOldest (maxFrames maxBytes itemBytes : Nat) :
    List EncodedFrameEnvelope → Nat → UInt64 → List EncodedFrameEnvelope × Nat × UInt64
  | [], bytes, dropped => ([], bytes, dropped)
  | removed :: items, bytes, dropped =>
    if maxFrames ≤ (removed :: items).length ∨ maxBytes < saturatingAdd bytes itemBytes then
      dropOldest maxFrames maxBytes itemBytes items
        (bytes - removed.encodedAu.length) (saturatingAdd64 dropped 1)
    else (removed :: items, bytes, dropped)

def push (queue : IngestQueue) (item : EncodedFrameEnvelope) :
    Except IngestError IngestQueue :=
  let itemBytes := item.encodedAu.length
  if queue.maxBytes < itemBytes then .error .accessUnitTooLarge
  else
    let (items, bytes, dropped) :=
      dropOldest queue.maxFrames queue.maxBytes itemBytes queue.items queue.bytes queue.dropped
    .ok { queue with items := items ++ [item], bytes := bytes + itemBytes, dropped }

end IngestQueue

/-! ## Streams -/

structure StreamRecord where
  identity : StreamIdentity
  listenPort : UInt16
  state : BootstrapState
  connected : Bool
  lastPtsNs : Option UInt64
  lastCaptureTimeEdgeNs : Option UInt64
  nextOrdinal : UInt64
  ingest : IngestQueue

/-- Orders the keys of `highest_epoch`: session, then camera. -/
def compareCamera : Uuid × String → Uuid × String → Ordering :=
  compareLex (compareOn Prod.fst) (compareOn Prod.snd)

instance : Std.TransCmp compareCamera :=
  inferInstanceAs (Std.TransCmp (compareLex (compareOn Prod.fst) (compareOn Prod.snd)))

instance : Std.LawfulEqCmp compareCamera where
  eq_of_compare := by
    rintro ⟨session, camera⟩ ⟨session', camera'⟩ h
    rw [compareCamera, compareLex_eq_eq] at h
    simp only [compareOn, Std.LawfulEqOrd.compare_eq_iff_eq] at h
    rw [h.1, h.2]

structure ReceiverRegistry where
  policy : ReceiverPolicy
  verify : String → Except IdentityError StreamIdentity
  streams : ExtTreeMap StreamKey StreamRecord
  highestEpoch : ExtTreeMap (Uuid × String) UInt32 compareCamera

namespace ReceiverRegistry

def new (policy : ReceiverPolicy) (verify : String → Except IdentityError StreamIdentity) :
    ReceiverRegistry := ⟨policy, verify, ∅, ∅⟩

def keyOf (identity : StreamIdentity) : StreamKey :=
  ⟨identity.sessionId, identity.cameraId, identity.epoch⟩

/-- The checks of `accept` that look at the identity and the policy. -/
def checkIdentity (registry : ReceiverRegistry) (listenPort : UInt16) (identity : StreamIdentity) :
    Except ReceiverError Unit :=
  if identity.embodimentId ≠ registry.policy.expectedEmbodimentId then .error .embodiment
  else if registry.policy.expectedEdgeInstanceId.any (· ≠ identity.edgeInstanceId) then
    .error .edgeInstance
  else if registry.policy.maxCameras ≤ identity.slot then .error .slot
  else (identity.validateListenPort registry.policy.basePort listenPort).mapError .identity

def accept (registry : ReceiverRegistry) (listenPort : UInt16) (rawStreamId : String) :
    Except ReceiverError StreamKey × ReceiverRegistry :=
  match registry.verify rawStreamId with
  | .error error => (.error (.identity error), registry)
  | .ok identity =>
    match registry.checkIdentity listenPort identity with
    | .error error => (.error error, registry)
    | .ok () =>
      let connected := registry.streams.toList.filter fun (_, record) => record.connected
      if registry.policy.maxCameras.toNat ≤ connected.length then (.error .capacity, registry)
      else if connected.any fun (_, record) =>
          record.identity.sessionId == identity.sessionId &&
            (record.identity.cameraId == identity.cameraId ||
              record.identity.slot == identity.slot) then
        (.error .duplicate, registry)
      else if registry.highestEpoch[(identity.sessionId, identity.cameraId)]?.any
          (identity.epoch < ·) then
        (.error .staleEpoch, registry)
      else
        (.ok (keyOf identity), {
          registry with
          highestEpoch :=
            registry.highestEpoch.insert (identity.sessionId, identity.cameraId) identity.epoch
          streams := registry.streams.insert (keyOf identity) {
            identity
            listenPort
            state := .transportIdentified
            connected := true
            lastPtsNs := none
            lastCaptureTimeEdgeNs := none
            nextOrdinal := 0
            ingest := .new registry.policy.maxIngestFrames registry.policy.maxIngestBytes } })

/-- The transitions the bootstrap state machine allows. -/
def validTransition : BootstrapState → BootstrapState → Bool
  | .transportIdentified, .mediaProbing => true
  | .mediaProbing, .provisionalStream => true
  | .provisionalStream, .manifestValidated => true
  | .manifestValidated, .datasetReady => true
  | _, .quarantined => true
  | _, _ => false

def transition (registry : ReceiverRegistry) (key : StreamKey) (target : BootstrapState) :
    Except ReceiverError ReceiverRegistry :=
  match registry.streams[key]? with
  | none => .error .unknown
  | some record =>
    if validTransition record.state target then
      .ok { registry with
        streams := registry.streams.insert key { record with state := target } }
    else .error (.transition record.state target)

def disconnect (registry : ReceiverRegistry) (key : StreamKey) :
    Except ReceiverError ReceiverRegistry :=
  match registry.streams[key]? with
  | none => .error .unknown
  | some record =>
    .ok { registry with
      streams := registry.streams.insert key
        { record with connected := false, state := .listening } }

/-- A failed ingest leaves the registry as it was. -/
def ingestH264BeforeDecode (codec : Message SyncTimestampV1) (registry : ReceiverRegistry)
    (key : StreamKey) (ptsNs : Option UInt64) (accessUnit : List UInt8) :
    Outcome ReceiverError (EncodedFrameEnvelope × ReceiverRegistry) := do
  let ptsNs ← okOr (.ingest .missingPts) ptsNs
  let record ← okOr .unknown registry.streams[key]?
  let inspected ← mapErr (fun error => .ingest (.codec error))
    (inspectH264AnnexB codec accessUnit (record.identity.role = .secondary))
  let inspected ← okOr (.ingest .missingTimestamp) inspected
  let capture := inspected.timestamp.captureTimeEdgeNs
  if record.lastPtsNs.any (ptsNs ≤ ·) ∨ record.lastCaptureTimeEdgeNs.any (capture ≤ ·) then
    fail (.ingest .nonMonotonic)
  else
    let envelope : EncodedFrameEnvelope := {
      key
      ptsNs
      accessUnitOrdinal := record.nextOrdinal
      captureTimeEdgeNs := capture
      encodedAu := accessUnit
      metadataMessages := inspected.messages }
    match record.ingest.push envelope with
    | .error error => fail (.ingest error)
    | .ok ingest =>
      pure (envelope, { registry with
        streams := registry.streams.insert key {
          record with
          ingest
          lastPtsNs := some ptsNs
          lastCaptureTimeEdgeNs := some capture
          nextOrdinal := saturatingAdd64 record.nextOrdinal 1 } })

/-- The snapshots of one session's streams, in key order. -/
def snapshots (registry : ReceiverRegistry) (sessionId : Uuid) : List StreamSnapshot :=
  (registry.streams.toList.filter fun (key, _) => key.sessionId == sessionId).map
    fun (key, record) =>
      ⟨key, record.identity.slot, record.listenPort, record.state, record.connected⟩

/-! ## What each operation does -/

/-- The record of a stream that was just accepted. -/
def freshRecord (policy : ReceiverPolicy) (identity : StreamIdentity) (listenPort : UInt16) :
    StreamRecord where
  identity
  listenPort
  state := .transportIdentified
  connected := true
  lastPtsNs := none
  lastCaptureTimeEdgeNs := none
  nextOrdinal := 0
  ingest := .new policy.maxIngestFrames policy.maxIngestBytes

/-- The registry after an identity was accepted. -/
def withAccepted (registry : ReceiverRegistry) (listenPort : UInt16)
    (identity : StreamIdentity) : ReceiverRegistry :=
  { registry with
    highestEpoch :=
      registry.highestEpoch.insert (identity.sessionId, identity.cameraId) identity.epoch
    streams := registry.streams.insert (keyOf identity)
      (freshRecord registry.policy identity listenPort) }

/-- The connected streams, as `accept` counts them. -/
def connectedStreams (registry : ReceiverRegistry) : List (StreamKey × StreamRecord) :=
  registry.streams.toList.filter fun entry => entry.2.connected

variable {registry next : ReceiverRegistry} {key : StreamKey} {identity : StreamIdentity}
  {target : BootstrapState} {codec : Message SyncTimestampV1} {accessUnit : List UInt8}
  {envelope : EncodedFrameEnvelope}

theorem mem_connectedStreams {record : StreamRecord} :
    (key, record) ∈ registry.connectedStreams ↔
      registry.streams[key]? = some record ∧ record.connected = true := by
  rw [connectedStreams, List.mem_filter, ExtTreeMap.mem_toList_iff_getElem?_eq_some]

theorem getElem?_insert_stream (streams : ExtTreeMap StreamKey StreamRecord)
    (key other : StreamKey) (record : StreamRecord) :
    (streams.insert key record)[other]? = if key = other then some record else streams[other]? := by
  rw [ExtTreeMap.getElem?_insert]
  simp

/-- What `accept` checks of a verified identity. -/
structure Admissible (registry : ReceiverRegistry) (listenPort : UInt16)
    (identity : StreamIdentity) : Prop where
  checked : registry.checkIdentity listenPort identity = .ok ()
  room : registry.connectedStreams.length < registry.policy.maxCameras.toNat
  others : ∀ entry ∈ registry.connectedStreams, entry.2.identity.sessionId = identity.sessionId →
    entry.2.identity.cameraId ≠ identity.cameraId ∧ entry.2.identity.slot ≠ identity.slot
  epoch : ∀ epoch, registry.highestEpoch[(identity.sessionId, identity.cameraId)]? = some epoch →
    epoch ≤ identity.epoch

/-- Every refusal of `accept` leaves the registry as it was. -/
theorem accept_cases (registry : ReceiverRegistry) (listenPort : UInt16) (rawStreamId : String) :
    (∃ error, registry.accept listenPort rawStreamId = (.error error, registry)) ∨
    ∃ identity, registry.verify rawStreamId = .ok identity ∧
      registry.Admissible listenPort identity ∧
      registry.accept listenPort rawStreamId =
        (.ok (keyOf identity), registry.withAccepted listenPort identity) := by
  generalize houtcome : registry.accept listenPort rawStreamId = outcome
  unfold accept at houtcome
  split at houtcome
  · exact Or.inl ⟨_, houtcome.symm⟩
  · rename_i identity hverify
    split at houtcome
    · exact Or.inl ⟨_, houtcome.symm⟩
    · rename_i hchecked
      dsimp only at houtcome
      split at houtcome
      · exact Or.inl ⟨_, houtcome.symm⟩
      · rename_i hroom
        split at houtcome
        · exact Or.inl ⟨_, houtcome.symm⟩
        · rename_i hduplicate
          split at houtcome
          · exact Or.inl ⟨_, houtcome.symm⟩
          · rename_i hepoch
            refine Or.inr ⟨identity, hverify, ⟨hchecked, Nat.lt_of_not_le hroom, ?_, ?_⟩,
              houtcome.symm⟩
            · intro entry hentry hsession
              simp only [List.any_eq_true, not_exists, not_and] at hduplicate
              have hother := hduplicate entry hentry
              simpa [hsession] using hother
            · intro epoch hfound
              rw [hfound] at hepoch
              simpa using hepoch

/-- What passes the checks is accepted. -/
theorem accept_of_checks {listenPort : UInt16} {rawStreamId : String}
    (hverify : registry.verify rawStreamId = .ok identity)
    (h : registry.Admissible listenPort identity) :
    registry.accept listenPort rawStreamId =
      (.ok (keyOf identity), registry.withAccepted listenPort identity) := by
  have hduplicate : ¬ registry.connectedStreams.any fun entry =>
      entry.2.identity.sessionId == identity.sessionId &&
        (entry.2.identity.cameraId == identity.cameraId ||
          entry.2.identity.slot == identity.slot) := by
    simpa using fun key record hentry => h.others (key, record) hentry
  have hstale : ¬ registry.highestEpoch[(identity.sessionId, identity.cameraId)]?.any
      (identity.epoch < ·) := by
    cases hhighest : registry.highestEpoch[(identity.sessionId, identity.cameraId)]? with
    | none => simp
    | some epoch => simpa using h.epoch epoch hhighest
  have hroom := h.room
  rw [connectedStreams] at hroom hduplicate
  rw [accept, hverify]
  dsimp only
  rw [h.checked]
  dsimp only
  rw [if_neg (Nat.not_le.mpr hroom), if_neg hduplicate, if_neg hstale]
  rfl

theorem checkIdentity_eq_ok {listenPort : UInt16}
    (h : registry.checkIdentity listenPort identity = .ok ()) :
    identity.slot < registry.policy.maxCameras ∧
      listenPort.toNat = registry.policy.basePort.toNat + identity.slot.toNat := by
  unfold checkIdentity at h
  split at h
  · cases h
  · split at h
    · cases h
    · split at h
      · cases h
      · rename_i hslot
        rw [mapError_eq_ok, StreamIdentity.validateListenPort, bind_eq_ok] at h
        obtain ⟨expected, hexpected, hport⟩ := h
        split at hport
        · cases hport
        · rename_i hsame
          unfold StreamIdentity.expectedPort at hexpected
          split at hexpected
          · rename_i hfits
            cases hexpected
            refine ⟨by simpa using hslot, ?_⟩
            rw [← not_not.mp hsame, UInt16.toNat_add, Nat.mod_eq_of_lt hfits]
          · cases hexpected

/-- A record was replaced by one of the same stream that is connected only if
the old one was. -/
structure Updates (registry : ReceiverRegistry) (key : StreamKey) (old record : StreamRecord)
    (next : ReceiverRegistry) : Prop where
  found : registry.streams[key]? = some old
  next_eq : next = { registry with streams := registry.streams.insert key record }
  identity : record.identity = old.identity
  listenPort : record.listenPort = old.listenPort
  connected : record.connected = true → old.connected = true

theorem transition_eq_ok (h : registry.transition key target = .ok next) :
    ∃ old, Updates registry key old { old with state := target } next := by
  unfold transition at h
  split at h
  · cases h
  · rename_i old hold
    split at h
    · cases h
      exact ⟨old, hold, rfl, rfl, rfl, id⟩
    · cases h

theorem disconnect_eq_ok (h : registry.disconnect key = .ok next) :
    ∃ old, Updates registry key old { old with connected := false, state := .listening } next := by
  unfold disconnect at h
  split at h
  · cases h
  · rename_i old hold
    cases h
    exact ⟨old, hold, rfl, rfl, rfl, nofun⟩

/-- What an accepted access unit leaves behind in its record. -/
def ingestedRecord (record : StreamRecord) (envelope : EncodedFrameEnvelope)
    (ingest : IngestQueue) : StreamRecord :=
  { record with
    ingest
    lastPtsNs := some envelope.ptsNs
    lastCaptureTimeEdgeNs := some envelope.captureTimeEdgeNs
    nextOrdinal := saturatingAdd64 record.nextOrdinal 1 }

/-- An accepted access unit: its envelope is numbered by the record, and the
record's counters move on. -/
theorem ingestH264BeforeDecode_inv {ptsNs : Option UInt64}
    (h : registry.ingestH264BeforeDecode codec key ptsNs accessUnit = .ok (envelope, next)) :
    ∃ record inspected ingest,
      inspectH264AnnexB codec accessUnit (record.identity.role = .secondary) =
        .ok (some inspected) ∧
      envelope = ⟨key, envelope.ptsNs, record.nextOrdinal,
        inspected.timestamp.captureTimeEdgeNs, accessUnit, inspected.messages⟩ ∧
      ptsNs = some envelope.ptsNs ∧
      record.ingest.push envelope = .ok ingest ∧
      Updates registry key record (ingestedRecord record envelope ingest) next := by
  unfold ingestH264BeforeDecode at h
  simp only [bind_eq_ok, okOr_eq_ok, mapErr_eq_ok] at h
  obtain ⟨pts, hpts, record, hrecord, verdict, hverdict, inspected, hinspected, h⟩ := h
  subst hinspected
  split at h
  · simp at h
  · split at h
    · simp at h
    · rename_i ingest hpush
      cases h
      exact ⟨record, inspected, ingest, hverdict, rfl, hpts, hpush, hrecord, rfl, rfl, rfl, id⟩

/-! ## Where identities come from -/

/-- Every record of `next` is an update of a record with the same identity. -/
structure Keeps (registry next : ReceiverRegistry) : Prop where
  verify : next.verify = registry.verify
  identity : ∀ (key : StreamKey) (record : StreamRecord), next.streams[key]? = some record →
    ∃ old : StreamRecord, registry.streams[key]? = some old ∧ old.identity = record.identity

theorem Keeps.refl (registry : ReceiverRegistry) : Keeps registry registry :=
  ⟨rfl, fun _ record h => ⟨record, h, rfl⟩⟩

theorem Updates.keeps {old record : StreamRecord} (h : Updates registry key old record next) :
    Keeps registry next := by
  obtain ⟨hold, rfl, hidentity, _, _⟩ := h
  refine ⟨rfl, ?_⟩
  intro other found hfound
  rw [getElem?_insert_stream] at hfound
  split at hfound
  · rename_i hsame
    cases hfound
    exact ⟨old, hsame ▸ hold, hidentity.symm⟩
  · exact ⟨found, hfound, rfl⟩

theorem transition_keeps (h : registry.transition key target = .ok next) : Keeps registry next := by
  obtain ⟨old, hupdates⟩ := transition_eq_ok h
  exact hupdates.keeps

theorem disconnect_keeps (h : registry.disconnect key = .ok next) : Keeps registry next := by
  obtain ⟨old, hupdates⟩ := disconnect_eq_ok h
  exact hupdates.keeps

/-- A new record has an identity that was verified, under its own key. -/
theorem accept_streams (registry : ReceiverRegistry) (listenPort : UInt16)
    (rawStreamId : String) :
    (registry.accept listenPort rawStreamId).2.verify = registry.verify ∧
    ∀ (key : StreamKey) (record : StreamRecord),
      (registry.accept listenPort rawStreamId).2.streams[key]? = some record →
      registry.streams[key]? = some record ∨
      (registry.verify rawStreamId = .ok record.identity ∧ key = keyOf record.identity) := by
  rcases accept_cases registry listenPort rawStreamId with
    ⟨error, hrefused⟩ | ⟨identity, hverify, _, haccepted⟩
  · rw [hrefused]
    exact ⟨rfl, fun _ _ h => Or.inl h⟩
  · rw [haccepted]
    refine ⟨rfl, ?_⟩
    intro key record hrecord
    rw [withAccepted, getElem?_insert_stream] at hrecord
    split at hrecord
    · rename_i hsame
      cases hrecord
      exact Or.inr ⟨hverify, hsame.symm⟩
    · exact Or.inl hrecord

/-- An envelope carries the messages of its access unit as the inspector
found them for the role of the stream. -/
theorem ingestH264BeforeDecode_eq_ok {ptsNs : Option UInt64}
    (h : registry.ingestH264BeforeDecode codec key ptsNs accessUnit = .ok (envelope, next)) :
    envelope.key = key ∧ Keeps registry next ∧
      ∃ record inspected, registry.streams[key]? = some record ∧
        inspectH264AnnexB codec accessUnit (record.identity.role = .secondary) =
          .ok (some inspected) ∧
        envelope.metadataMessages = inspected.messages := by
  obtain ⟨record, inspected, ingest, hinspect, henvelope, _, _, hupdates⟩ :=
    ingestH264BeforeDecode_inv h
  refine ⟨by rw [henvelope], hupdates.keeps, record, inspected, hupdates.found, hinspect, ?_⟩
  rw [henvelope]

end ReceiverRegistry

end RobotMulticam.Receiver
