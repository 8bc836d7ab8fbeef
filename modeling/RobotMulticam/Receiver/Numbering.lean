import RobotMulticam.Receiver.Connections

/-!
# Access-unit ordinals

A record counts the access units of its connection: `accept` starts at zero
and every ingested unit takes the next number. `Numbered` says so for every
reachable registry, and is what the synchronizer's sequence check meets on
the other side.

Ordinals are documented as part of the key of an access unit within a
camera's epoch. A camera that reconnects under the same epoch has one key
and two counts, so the key is unique exactly as long as nothing was ingested
before the connection that ingests now.
-/

namespace RobotMulticam.Receiver.Journal

open RobotMulticam.Lib
open RobotMulticam.Protocol
open RobotMulticam.Codec
open RobotMulticam.Identity
open ReceiverRegistry

/-! ## Ordinals of a key -/

variable (key : StreamKey)

/-- The ordinal an event gives to a key. -/
def ordinalOf : RegistryEvent → Option UInt64
  | .accepted _ => none
  | .ingested envelope => if envelope.key = key then some envelope.accessUnitOrdinal else none

/-- What identifies an accepted envelope. -/
def identityOf : RegistryEvent → Option (StreamKey × UInt64)
  | .accepted _ => none
  | .ingested envelope => some (envelope.key, envelope.accessUnitOrdinal)

variable (events : List RegistryEvent)

/-- The events since the key was last accepted. -/
def connection : List RegistryEvent :=
  (events.reverse.takeWhile (· ≠ .accepted key)).reverse

/-- The ordinals of all units of a key, in order. -/
def units : List UInt64 :=
  events.filterMap (ordinalOf key)

/-- The ordinals of the current connection's units. -/
def currentUnits : List UInt64 :=
  units key (connection key events)

@[simp] theorem units_append (events later : List RegistryEvent) :
    units key (events ++ later) = units key events ++ units key later :=
  List.filterMap_append

theorem currentUnits_accepted : currentUnits key (events ++ [.accepted key]) = [] := by
  simp [currentUnits, connection, units]

/-- Any other event continues the connection. -/
theorem currentUnits_append {key : StreamKey} {event : RegistryEvent} (h : event ≠ .accepted key) :
    currentUnits key (events ++ [event]) = currentUnits key events ++ units key [event] := by
  have hconnection : connection key (events ++ [event]) = connection key events ++ [event] := by
    simp [connection, h]
  rw [currentUnits, hconnection, units_append, currentUnits]

@[simp] theorem units_accepted (key accepted : StreamKey) :
    units key [.accepted accepted] = [] := rfl

theorem units_ingested_self (envelope : EncodedFrameEnvelope) :
    units envelope.key [.ingested envelope] = [envelope.accessUnitOrdinal] := by
  simp [units, ordinalOf]

theorem units_ingested_of_ne {key : StreamKey} {envelope : EncodedFrameEnvelope}
    (h : envelope.key ≠ key) : units key [.ingested envelope] = [] := by
  simp [units, ordinalOf, h]

/-- The units of earlier connections come first. -/
theorem units_eq_append : ∃ earlier, units key events = earlier ++ currentUnits key events := by
  refine ⟨units key (events.reverse.dropWhile (· ≠ .accepted key)).reverse, ?_⟩
  rw [currentUnits, connection, ← units_append, ← List.reverse_append,
    List.takeWhile_append_dropWhile, List.reverse_reverse]

/-! ## What the counter counts -/

/-- Units of a connection are numbered from zero, and the record holds the
next number. -/
def Numbered (journal : Journal) : Prop :=
  ∀ key : StreamKey, ∃ count,
    currentUnits key journal.events = (List.range count).map counted64 ∧
    ∀ record, journal.registry.streams[key]? = some record → record.nextOrdinal = counted64 count

theorem numbered_start (policy : ReceiverPolicy)
    (verify : String → Except IdentityError StreamIdentity) :
    Numbered (start policy verify) := by
  intro key
  refine ⟨0, rfl, ?_⟩
  intro record hrecord
  simp [start, ReceiverRegistry.new] at hrecord

variable {codec : Message SyncTimestampV1} {journal : Journal}

/-- One call keeps the numbering. -/
theorem numbered_perform (journal : Journal) (call : RegistryCall) (h : Numbered journal) :
    Numbered (journal.perform codec call) := by
  rcases perform_cases codec journal call with ⟨_, hsame⟩ |
    ⟨listenPort, identity, _, _, hnext⟩ |
    ⟨key, old, record, next, hupdates, hordinal, _, hnext⟩ |
    ⟨key, old, envelope, ingest, next, hupdates, hkey, hordinal, _, hnext⟩
  · rw [hsame]
    exact h
  · intro other
    rw [hnext]
    show ∃ count, _ ∧ ∀ record,
      (journal.registry.withAccepted listenPort identity).streams[other]? = some record → _
    simp only [withAccepted, getElem?_insert_stream]
    by_cases haccepted : keyOf identity = other
    · subst haccepted
      refine ⟨0, currentUnits_accepted _ _, ?_⟩
      intro found hfound
      rw [if_pos rfl] at hfound
      cases hfound
      rfl
    · simp only [if_neg haccepted]
      rw [currentUnits_append journal.events (by simpa using haccepted), units_accepted,
        List.append_nil]
      exact h other
  · intro other
    rw [hnext]
    obtain ⟨count, hcurrent, hcount⟩ := h other
    refine ⟨count, hcurrent, ?_⟩
    intro found hfound
    change next.streams[other]? = _ at hfound
    rw [hupdates.next_eq, getElem?_insert_stream] at hfound
    split at hfound
    · rename_i hsame
      cases hfound
      rw [hordinal]
      exact hcount old (hsame ▸ hupdates.found)
    · exact hcount found hfound
  · intro other
    rw [hnext]
    obtain ⟨count, hcurrent, hcount⟩ := h other
    show ∃ count, _ ∧ ∀ record, next.streams[other]? = some record → _
    rw [hupdates.next_eq, currentUnits_append journal.events (by simp), hcurrent]
    simp only [getElem?_insert_stream]
    by_cases hsame : key = other
    · have hnumber := hcount old (hsame ▸ hupdates.found)
      refine ⟨count + 1, ?_, ?_⟩
      · rw [← hsame, ← hkey, units_ingested_self, hordinal, hnumber, List.range_succ,
          List.map_append, List.map_singleton]
      · intro found hfound
        rw [if_pos hsame] at hfound
        cases hfound
        show saturatingAdd64 old.nextOrdinal 1 = _
        rw [hnumber, counted64_succ]
    · refine ⟨count, ?_, ?_⟩
      · rw [units_ingested_of_ne (by rw [hkey]; exact hsame), List.append_nil]
      · simpa only [if_neg hsame] using hcount

/-- **Ordinals of a connection.** In every run, the units ingested since a
key was last accepted have the ordinals 0, 1, 2 and so on. -/
theorem currentUnits_run (codec : Message SyncTimestampV1) (policy : ReceiverPolicy)
    (verify : String → Except IdentityError StreamIdentity) (calls : List RegistryCall)
    (key : StreamKey) :
    ∃ count, currentUnits key (run (perform codec) (start policy verify) calls).events =
      (List.range count).map counted64 := by
  obtain ⟨count, hcurrent, _⟩ :=
    run_invariant' numbered_perform (numbered_start policy verify) calls key
  exact ⟨count, hcurrent⟩

/-! ## Unique ordinals -/

/-- A call that ingests a unit does so in the first connection of the key
that has units, and before the counter saturates. -/
def ContinuesCount (codec : Message SyncTimestampV1) (journal : Journal) :
    RegistryCall → Prop
  | .ingest key ptsNs accessUnit =>
    (journal.returned codec (.ingest key ptsNs accessUnit)).isSome →
      units key journal.events = currentUnits key journal.events ∧
      (currentUnits key journal.events).length < 2 ^ 64
  | _ => True

/-- The ordinals of every key strictly increase along the events. -/
def Increasing : Prop :=
  ∀ key, (units key events).Pairwise (· < ·)

/-- Increasing ordinals identify envelopes. -/
theorem Increasing.nodup {events : List RegistryEvent} (h : Increasing events) :
    (events.filterMap identityOf).Nodup := by
  refine List.pairwise_filterMap.mpr (List.pairwise_iff_forall_sublist.mpr ?_)
  intro first second hsub identity hfirst identity' hsecond heq
  subst heq
  cases first with
  | accepted key => cases hfirst
  | ingested envelope =>
    cases second with
    | accepted key => cases hsecond
    | ingested later =>
      cases hfirst
      obtain ⟨hkey, hordinal⟩ := Prod.mk.inj (Option.some.inj hsecond)
      have hpair := List.pairwise_iff_forall_sublist.mp
        (List.pairwise_filterMap.mp (h envelope.key)) hsub
        envelope.accessUnitOrdinal (by simp [ordinalOf])
        later.accessUnitOrdinal (by simp [ordinalOf, hkey])
      rw [hordinal] at hpair
      exact absurd hpair (UInt64.lt_irrefl _)

/-- A call that returns no envelope meets the condition. -/
theorem continuesCount_of_returned {call : RegistryCall}
    (h : ∀ envelope, journal.returned codec call ≠ some (.ingested envelope)) :
    ContinuesCount codec journal call := by
  cases call with
  | ingest key ptsNs accessUnit =>
    intro hsome
    obtain ⟨event, hevent⟩ := Option.isSome_iff_exists.mp hsome
    obtain ⟨envelope, _, hingested⟩ := join_answer_eq_some hevent
    exact absurd (hevent.trans hingested.symm) (h envelope)
  | _ => trivial

/-- One call keeps ordinals increasing exactly when it continues the count. -/
theorem increasing_perform_iff {call : RegistryCall} (h : Numbered journal) :
    Increasing (journal.perform codec call).events ↔
      Increasing journal.events ∧ ContinuesCount codec journal call := by
  rcases perform_cases codec journal call with ⟨hnone, hsame⟩ |
    ⟨listenPort, identity, _, haccepted, hnext⟩ |
    ⟨key, old, record, next, _, _, hnone, hnext⟩ |
    ⟨key, old, envelope, ingest, next, hupdates, hkey, hordinal, hingested, hnext⟩
  · rw [hsame]
    exact (and_iff_left (continuesCount_of_returned (by simp [hnone]))).symm
  · rw [hnext, and_iff_left (continuesCount_of_returned (by simp [haccepted]))]
    simp [Increasing]
  · rw [hnext]
    exact (and_iff_left (continuesCount_of_returned (by simp [hnone]))).symm
  · obtain ⟨ptsNs, accessUnit, rfl⟩ := returned_ingested hingested
    rw [hkey] at hingested
    obtain ⟨count, hcurrent, hnumber⟩ := h key
    have hcount := hnumber old hupdates.found
    obtain ⟨earlier, hearlier⟩ := units_eq_append key journal.events
    have hlength : (currentUnits key journal.events).length = count := by simp [hcurrent]
    have hunits : units key (journal.events ++ [.ingested envelope]) =
        earlier ++ (List.range (count + 1)).map counted64 := by
      rw [units_append, hearlier, hcurrent, ← hkey, units_ingested_self, hordinal, hcount,
        List.range_succ, List.map_append, List.map_singleton, List.append_assoc]
    rw [hnext, hkey]
    constructor
    · intro hafter
      refine ⟨fun other => ?_, ?_⟩
      · have hpair := hafter other
        rw [units_append] at hpair
        exact (List.pairwise_append.mp hpair).1
      · have hpair := hafter key
        rw [hunits, List.pairwise_append] at hpair
        obtain ⟨_, hcounting, hcross⟩ := hpair
        -- nothing is smaller than the first ordinal of the connection
        have hnone : earlier = [] := by
          refine List.eq_nil_iff_forall_not_mem.mpr fun unit hunit => ?_
          have hfirst := hcross unit hunit (counted64 0)
            (List.mem_map_of_mem (List.mem_range.mpr (Nat.succ_pos count)))
          exact absurd hfirst (by simp [UInt64.lt_iff_toNat_lt, toNat_counted64])
        intro _
        refine ⟨by rw [hearlier, hnone, List.nil_append], ?_⟩
        rw [hlength]
        exact (pairwise_counted64 (count + 1)).mp hcounting
    · rintro ⟨hbefore, hcontinues⟩ other
      by_cases hother : key = other
      · subst hother
        obtain ⟨hall, hroom⟩ := hcontinues (by rw [hingested]; rfl)
        rw [hlength] at hroom
        have hnone : earlier = [] := by simpa [hearlier] using hall
        rw [hunits, hnone, List.nil_append]
        exact (pairwise_counted64 (count + 1)).mpr hroom
      · rw [units_append, units_ingested_of_ne (by rw [hkey]; exact hother), List.append_nil]
        exact hbefore other

/-- Ordinals increase along a run exactly when every call continues the count. -/
theorem increasing_run_iff (calls : List RegistryCall) (h : Numbered journal) :
    Increasing (run (perform codec) journal calls).events ↔
      Increasing journal.events ∧
        Meets (perform codec) (ContinuesCount codec) journal calls := by
  induction calls generalizing journal with
  | nil => simp [Meets]
  | cons call calls ih =>
    rw [run_cons, ih (numbered_perform journal call h), increasing_perform_iff h, Meets,
      and_assoc]

/-- **Unique access units.** No two envelopes of a run share key and ordinal,
and the ordinals of a key strictly increase, exactly when every ingested unit
continues the first count of its key. -/
theorem access_units_unique_iff (codec : Message SyncTimestampV1) (policy : ReceiverPolicy)
    (verify : String → Except IdentityError StreamIdentity) (calls : List RegistryCall) :
    let journal := run (perform codec) (start policy verify) calls
    (journal.events.filterMap identityOf).Nodup ∧ Increasing journal.events ↔
      Meets (perform codec) (ContinuesCount codec) (start policy verify) calls := by
  intro journal
  have hstart : Increasing (start policy verify).events := fun _ => List.Pairwise.nil
  have hiff : Increasing journal.events ↔ _ :=
    increasing_run_iff calls (numbered_start policy verify)
  rw [and_iff_right hstart] at hiff
  exact (and_iff_right_of_imp Increasing.nodup).trans hiff

/-- The anchor camera sends a unit, reconnects with the same stream ID and
sends the next one. -/
def reconnectCalls : List RegistryCall :=
  [.accept 10000 anchorStream,
    .ingest ⟨cellSession, "anchor", 1⟩ (some 100) (cellUnit 100 []),
    .disconnect ⟨cellSession, "anchor", 1⟩,
    .accept 10000 anchorStream,
    .ingest ⟨cellSession, "anchor", 1⟩ (some 200) (cellUnit 200 [])]

/-- Both units are number 0 of the same camera and epoch. -/
theorem reconnect_repeats_ordinal :
    let journal := run (perform (cellExternals [] []).timestamp)
      (start cellRegistry.policy cellVerify) reconnectCalls
    units ⟨cellSession, "anchor", 1⟩ journal.events = [0, 0] ∧
      ¬ ((journal.events.filterMap identityOf).Nodup ∧ Increasing journal.events) := by
  intro journal
  have hunits : units ⟨cellSession, "anchor", 1⟩ journal.events = [0, 0] := by decide +kernel
  refine ⟨hunits, ?_⟩
  rintro ⟨_, hincreasing⟩
  have hpair := hincreasing ⟨cellSession, "anchor", 1⟩
  rw [hunits] at hpair
  exact absurd hpair (by decide)

end RobotMulticam.Receiver.Journal
