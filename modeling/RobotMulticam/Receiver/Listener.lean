import RobotMulticam.Receiver.Connections

/-!
# Listener callbacks

Every listener serves one port and remembers one caller, `current_key`.
`caller-connecting` accepts a stream and overwrites it; `caller-removed`
disconnects the stream it finds there. Callbacks of one listener run one
after the other, in any order; the runtime and the `appsink` move and ingest
streams in between.

The registry does not know ports: it refuses a second caller of a camera or
a slot only within one session. A caller of another session takes over
`current_key`, and the stream that was there stays connected for good.
-/

namespace RobotMulticam.Receiver

open RobotMulticam.Lib
open RobotMulticam.Protocol
open RobotMulticam.Identity
open ReceiverRegistry

/-! ## Connected streams of a port -/

namespace ReceiverRegistry

/-- A stream accepted on the port is connected. -/
def ConnectedOn (registry : ReceiverRegistry) (port : UInt16) (key : StreamKey) : Prop :=
  ∃ record, registry.streams[key]? = some record ∧ record.connected = true ∧
    record.listenPort = port

/-- Records sit under their own key. -/
def Keyed (registry : ReceiverRegistry) : Prop :=
  ∀ (key : StreamKey) (record : StreamRecord),
    registry.streams[key]? = some record → keyOf record.identity = key

variable {registry next : ReceiverRegistry} {key : StreamKey} {record : StreamRecord}

/-- A stream is connected on one port. -/
theorem ConnectedOn.port_eq {port other : UInt16} (h : registry.ConnectedOn port key)
    (hother : registry.ConnectedOn other key) : port = other := by
  obtain ⟨record, hrecord, _, rfl⟩ := h
  obtain ⟨found, hfound, _, rfl⟩ := hother
  rw [hrecord] at hfound
  cases hfound
  rfl

/-- Replacing the record of a key decides whether that stream is connected. -/
theorem connectedOn_insert (h : next.streams = registry.streams.insert key record) (port : UInt16)
    (found : StreamKey) :
    next.ConnectedOn port found ↔
      (found = key ∧ record.connected = true ∧ record.listenPort = port) ∨
      (found ≠ key ∧ registry.ConnectedOn port found) := by
  unfold ConnectedOn
  rw [h, getElem?_insert_stream]
  by_cases hsame : key = found
  · simp [hsame]
  · simp [hsame, Ne.symm hsame]

theorem Keyed.insert (hkeyed : registry.Keyed)
    (h : next.streams = registry.streams.insert key record) (hkey : keyOf record.identity = key) :
    next.Keyed := by
  intro found other hother
  rw [h, getElem?_insert_stream] at hother
  split at hother
  · rename_i hsame
    cases hother
    rw [hkey, hsame]
  · exact hkeyed found other hother

section Updates

variable {registry next : ReceiverRegistry} {key : StreamKey} {old record : StreamRecord}

theorem Updates.keyed (h : Updates registry key old record next) (hkeyed : registry.Keyed) :
    next.Keyed := by
  refine hkeyed.insert (by rw [h.next_eq]) ?_
  rw [h.identity]
  exact hkeyed key old h.found

theorem Updates.getElem?_self (h : Updates registry key old record next) :
    next.streams[key]? = some record := by
  rw [h.next_eq, getElem?_insert_stream, if_pos rfl]

/-- An update that does not disconnect changes no connection. -/
theorem Updates.connectedOn (h : Updates registry key old record next)
    (hconnected : record.connected = old.connected) (port : UInt16) (found : StreamKey) :
    next.ConnectedOn port found ↔ registry.ConnectedOn port found := by
  rw [connectedOn_insert (by rw [h.next_eq]), hconnected, h.listenPort]
  constructor
  · rintro (⟨rfl, holds⟩ | ⟨_, hfound⟩)
    · exact ⟨old, h.found, holds⟩
    · exact hfound
  · rintro ⟨found', hfound, holds⟩
    by_cases hsame : found = key
    · subst hsame
      rw [h.found] at hfound
      cases hfound
      exact Or.inl ⟨rfl, holds⟩
    · exact Or.inr ⟨hsame, found', hfound, holds⟩

end Updates

theorem transition_of_valid {target : BootstrapState} (h : registry.streams[key]? = some record)
    (hvalid : validTransition record.state target = true) :
    ∃ next, registry.transition key target = .ok next := by
  rw [transition, h]
  exact ⟨_, if_pos hvalid⟩

end ReceiverRegistry

/-! ## Callbacks -/

/-- The registry and the `current_key` of the listener on every port. -/
structure Listeners where
  registry : ReceiverRegistry
  current : UInt16 → Option StreamKey

inductive ListenerAction where
  | callerConnecting (port : UInt16) (streamId : String)
  | callerRemoved (port : UInt16)
  | transition (key : StreamKey) (target : BootstrapState)
  | ingest (key : StreamKey) (ptsNs : Option UInt64) (accessUnit : List UInt8)

namespace Listeners

/-- The `caller-connecting` callback and its answer to the caller. -/
def callerConnecting (self : Listeners) (port : UInt16) (streamId : String) : Bool × Listeners :=
  match self.registry.accept port streamId with
  | (.error _, registry) => (false, { self with registry })
  | (.ok key, registry) =>
    match registry.transition key .mediaProbing with
    | .error _ => (false, { self with registry })
    | .ok registry =>
      match registry.transition key .provisionalStream with
      | .error _ => (false, { self with registry })
      | .ok registry => (true, ⟨registry, Function.update self.current port (some key)⟩)

/-- The `caller-removed` callback; a failed `disconnect` is ignored. -/
def callerRemoved (self : Listeners) (port : UInt16) : Listeners :=
  match self.current port with
  | none => self
  | some key =>
    ⟨(self.registry.disconnect key).toOption.getD self.registry,
      Function.update self.current port none⟩

/-- The only connected stream of the port is the listener's current one. -/
def OnlyCurrent (self : Listeners) (port : UInt16) : Prop :=
  ∀ key, self.registry.ConnectedOn port key → self.current port = some key

/-- A listener's current stream is connected on its port. -/
structure Tracks (listeners : Listeners) : Prop where
  keyed : listeners.registry.Keyed
  tracked : ∀ (port : UInt16) (key : StreamKey),
    listeners.current port = some key → listeners.registry.ConnectedOn port key

/-- A refused caller changes nothing. An accepted one was not connected
before, and is now, as the listener's current stream. -/
theorem callerConnecting_cases {self : Listeners} (hkeyed : self.registry.Keyed) (port : UInt16)
    (streamId : String) :
    self.callerConnecting port streamId = (false, self) ∨
    ∃ key next, self.callerConnecting port streamId = (true, next) ∧
      next.current = Function.update self.current port (some key) ∧
      (∀ other, ¬ self.registry.ConnectedOn other key) ∧ next.registry.Keyed ∧
      ∀ other found, next.registry.ConnectedOn other found ↔
        (other = port ∧ found = key) ∨ self.registry.ConnectedOn other found := by
  rcases accept_cases self.registry port streamId with
    ⟨error, hrefused⟩ | ⟨identity, _, hadmissible, haccepted⟩
  · left
    rw [callerConnecting, hrefused]
  · right
    have hfound : (self.registry.withAccepted port identity).streams[keyOf identity]? =
        some (freshRecord self.registry.policy identity port) := by
      rw [withAccepted, getElem?_insert_stream, if_pos rfl]
    -- the two transitions of a stream that was just accepted cannot fail
    obtain ⟨probing, hprobing⟩ := transition_of_valid hfound
      (show validTransition _ .mediaProbing = true from rfl)
    obtain ⟨fresh, hprobed⟩ := transition_eq_ok hprobing
    obtain ⟨streaming, hstreaming⟩ := transition_of_valid hprobed.getElem?_self
      (show validTransition _ .provisionalStream = true from rfl)
    obtain ⟨probed, hstreamed⟩ := transition_eq_ok hstreaming
    have hfree : ∀ other, ¬ self.registry.ConnectedOn other (keyOf identity) := by
      rintro other ⟨record, hrecord, hconnected, _⟩
      have hkey := hkeyed _ record hrecord
      have hclash := hadmissible.others (keyOf identity, record)
        (mem_connectedStreams.mpr ⟨hrecord, hconnected⟩) (congrArg StreamKey.sessionId hkey)
      exact hclash.1 (congrArg StreamKey.cameraId hkey)
    refine ⟨keyOf identity,
      ⟨streaming, Function.update self.current port (some (keyOf identity))⟩, ?_, rfl, hfree,
      hstreamed.keyed (hprobed.keyed (hkeyed.insert rfl rfl)), ?_⟩
    · rw [callerConnecting, haccepted]
      simp only [hprobing, hstreaming]
    · intro other found
      rw [hstreamed.connectedOn rfl, hprobed.connectedOn rfl, connectedOn_insert rfl]
      constructor
      · rintro (⟨rfl, _, rfl⟩ | ⟨_, hconnected⟩)
        · exact Or.inl ⟨rfl, rfl⟩
        · exact Or.inr hconnected
      · rintro (⟨rfl, rfl⟩ | hconnected)
        · exact Or.inl ⟨rfl, rfl, rfl⟩
        · exact Or.inr ⟨fun hsame => hfree other (hsame ▸ hconnected), hconnected⟩

/-- A removed caller was the current one, and is no longer connected. -/
theorem callerRemoved_cases {self : Listeners} (htracks : self.Tracks) (port : UInt16) :
    (self.current port = none ∧ self.callerRemoved port = self) ∨
    ∃ key, self.current port = some key ∧
      (self.callerRemoved port).current = Function.update self.current port none ∧
      (self.callerRemoved port).registry.Keyed ∧
      ∀ other found, (self.callerRemoved port).registry.ConnectedOn other found ↔
        self.registry.ConnectedOn other found ∧ found ≠ key := by
  cases hcurrent : self.current port with
  | none =>
    left
    rw [callerRemoved, hcurrent]
    exact ⟨rfl, rfl⟩
  | some key =>
    right
    obtain ⟨record, hrecord, _, _⟩ := htracks.tracked port key hcurrent
    obtain ⟨next, hdisconnect⟩ : ∃ next, self.registry.disconnect key = .ok next := by
      rw [disconnect, hrecord]
      exact ⟨_, rfl⟩
    obtain ⟨old, hupdates⟩ := disconnect_eq_ok hdisconnect
    have hnext : self.callerRemoved port =
        ⟨next, Function.update self.current port none⟩ := by
      rw [callerRemoved, hcurrent]
      dsimp only
      rw [hdisconnect]
      rfl
    rw [hnext]
    refine ⟨key, rfl, rfl, hupdates.keyed htracks.keyed, ?_⟩
    intro other found
    rw [connectedOn_insert (by rw [hupdates.next_eq])]
    simp [and_comm]

end Listeners

/-! ## Runs -/

/-- The listeners, and for every port whether a caller was removed and none
has connected successfully since. -/
structure Watched where
  listeners : Listeners
  vacated : UInt16 → Bool

namespace Watched

def initial (policy : ReceiverPolicy) (verify : String → Except IdentityError StreamIdentity) :
    Watched := ⟨⟨.new policy verify, fun _ => none⟩, fun _ => false⟩

/-- A transition or an ingest that fails leaves the registry as it was. -/
def withRegistry (watched : Watched) (registry : Option ReceiverRegistry) : Watched :=
  { watched with
    listeners := { watched.listeners with
      registry := registry.getD watched.listeners.registry } }

def step (codec : Message SyncTimestampV1) (watched : Watched) : ListenerAction → Watched
  | .callerConnecting port streamId =>
    let (accepted, listeners) := watched.listeners.callerConnecting port streamId
    ⟨listeners, if accepted then Function.update watched.vacated port false else watched.vacated⟩
  | .callerRemoved port =>
    ⟨watched.listeners.callerRemoved port, Function.update watched.vacated port true⟩
  | .transition key target =>
    watched.withRegistry (watched.listeners.registry.transition key target).toOption
  | .ingest key ptsNs accessUnit =>
    watched.withRegistry ((watched.listeners.registry.ingestH264BeforeDecode codec key ptsNs
      accessUnit).toOption.map Prod.snd)

/-- A current stream is connected, and a vacated port has none. -/
structure Tracks (watched : Watched) : Prop where
  listeners : watched.listeners.Tracks
  vacated : ∀ port, watched.vacated port = true → watched.listeners.current port = none

/-- A caller that is accepted on the port finds no other one there. -/
def FindsPortFree (port : UInt16) (watched : Watched) : ListenerAction → Prop
  | .callerConnecting other streamId =>
    other = port → (watched.listeners.callerConnecting port streamId).1 = true →
      watched.listeners.current port = none
  | _ => True

/-- The only connected stream of the port is the current one, and there is
none after the last caller was removed. -/
structure OneStream (port : UInt16) (watched : Watched) : Prop where
  onlyCurrent : watched.listeners.OnlyCurrent port
  vacated : watched.vacated port = true → ∀ key, ¬ watched.listeners.registry.ConnectedOn port key

/-- Moving and ingesting streams changes no connection. -/
theorem withRegistry_spec (watched : Watched) (registry : Option ReceiverRegistry)
    (h : ∀ next ∈ registry, ∃ key old record,
      Updates watched.listeners.registry key old record next ∧
        record.connected = old.connected) :
    (watched.withRegistry registry).listeners.current = watched.listeners.current ∧
    (watched.listeners.registry.Keyed → (watched.withRegistry registry).listeners.registry.Keyed) ∧
    ∀ port key, (watched.withRegistry registry).listeners.registry.ConnectedOn port key ↔
      watched.listeners.registry.ConnectedOn port key := by
  cases registry with
  | none => exact ⟨rfl, id, fun _ _ => Iff.rfl⟩
  | some next =>
    obtain ⟨key, old, record, hupdates, hconnected⟩ := h next rfl
    exact ⟨rfl, hupdates.keyed, hupdates.connectedOn hconnected⟩

variable {watched : Watched} {codec : Message SyncTimestampV1} {port : UInt16}

/-- Everything a step can do. -/
theorem step_cases (codec : Message SyncTimestampV1) (h : watched.Tracks)
    (action : ListenerAction) :
    let next := watched.step codec action
    (next.vacated = watched.vacated ∧ next.listeners.current = watched.listeners.current ∧
      next.listeners.registry.Keyed ∧
      (∀ port key, next.listeners.registry.ConnectedOn port key ↔
        watched.listeners.registry.ConnectedOn port key) ∧
      ∀ port, watched.FindsPortFree port action) ∨
    (∃ port streamId key, action = .callerConnecting port streamId ∧
      (watched.listeners.callerConnecting port streamId).1 = true ∧
      next.vacated = Function.update watched.vacated port false ∧
      next.listeners.current = Function.update watched.listeners.current port (some key) ∧
      (∀ other, ¬ watched.listeners.registry.ConnectedOn other key) ∧
      next.listeners.registry.Keyed ∧
      ∀ other found, next.listeners.registry.ConnectedOn other found ↔
        (other = port ∧ found = key) ∨ watched.listeners.registry.ConnectedOn other found) ∨
    (∃ port, action = .callerRemoved port ∧ watched.listeners.current port = none ∧
      next.vacated = Function.update watched.vacated port true ∧
      next.listeners = watched.listeners) ∨
    ∃ port key, action = .callerRemoved port ∧ watched.listeners.current port = some key ∧
      next.vacated = Function.update watched.vacated port true ∧
      next.listeners.current = Function.update watched.listeners.current port none ∧
      next.listeners.registry.Keyed ∧
      ∀ other found, next.listeners.registry.ConnectedOn other found ↔
        watched.listeners.registry.ConnectedOn other found ∧ found ≠ key := by
  intro next
  cases action with
  | callerConnecting port streamId =>
    rcases Listeners.callerConnecting_cases h.listeners.keyed port streamId with hrefused |
      ⟨key, listeners, haccepted, hcurrent, hfree, hkeyed, hconnected⟩
    · left
      have hnext : next = watched := by
        show step codec watched _ = watched
        rw [step, hrefused]
        rfl
      rw [hnext]
      refine ⟨rfl, rfl, h.listeners.keyed, fun _ _ => Iff.rfl, ?_⟩
      rintro other rfl haccepted
      rw [hrefused] at haccepted
      cases haccepted
    · right; left
      have hnext : next = ⟨listeners, Function.update watched.vacated port false⟩ := by
        show step codec watched _ = _
        rw [step, haccepted]
        rfl
      rw [hnext]
      exact ⟨port, streamId, key, rfl, by rw [haccepted], rfl, hcurrent, hfree, hkeyed,
        hconnected⟩
  | callerRemoved port =>
    rcases Listeners.callerRemoved_cases h.listeners port with ⟨hnone, hsame⟩ |
      ⟨key, hsome, hcurrent, hkeyed, hconnected⟩
    · exact Or.inr (Or.inr (Or.inl ⟨port, rfl, hnone, rfl, hsame⟩))
    · exact Or.inr (Or.inr (Or.inr ⟨port, key, rfl, hsome, rfl, hcurrent, hkeyed, hconnected⟩))
  | transition key target =>
    obtain ⟨hcurrent, hkeyed, hconnected⟩ := withRegistry_spec watched
      (watched.listeners.registry.transition key target).toOption (by
        intro found hfound
        obtain ⟨old, hupdates⟩ := transition_eq_ok (toOption_eq_some.mp hfound)
        exact ⟨key, old, _, hupdates, rfl⟩)
    exact Or.inl ⟨rfl, hcurrent, hkeyed h.listeners.keyed, hconnected, fun _ => trivial⟩
  | ingest key ptsNs accessUnit =>
    obtain ⟨hcurrent, hkeyed, hconnected⟩ := withRegistry_spec watched
      ((watched.listeners.registry.ingestH264BeforeDecode codec key ptsNs
        accessUnit).toOption.map Prod.snd) (by
        intro found hfound
        obtain ⟨⟨envelope, _⟩, hingest, rfl⟩ := Option.map_eq_some_iff.mp hfound
        obtain ⟨old, _, ingest, _, _, _, _, hupdates⟩ :=
          ingestH264BeforeDecode_inv (toOption_eq_some.mp hingest)
        exact ⟨key, old, _, hupdates, rfl⟩)
    exact Or.inl ⟨rfl, hcurrent, hkeyed h.listeners.keyed, hconnected, fun _ => trivial⟩

theorem tracks_step (watched : Watched) (action : ListenerAction) (h : watched.Tracks) :
    (watched.step codec action).Tracks := by
  rcases step_cases codec h action with ⟨hvacated, hcurrent, hkeyed, hconnected, _⟩ |
    ⟨port, streamId, key, _, _, hvacated, hcurrent, _, hkeyed, hconnected⟩ |
    ⟨port, _, hnone, hvacated, hsame⟩ |
    ⟨port, key, _, hsome, hvacated, hcurrent, hkeyed, hconnected⟩
  · refine ⟨⟨hkeyed, ?_⟩, ?_⟩
    · intro port key hkey
      rw [hcurrent] at hkey
      exact (hconnected port key).mpr (h.listeners.tracked port key hkey)
    · rw [hvacated, hcurrent]
      exact h.vacated
  · refine ⟨⟨hkeyed, ?_⟩, ?_⟩
    · intro other found hfound
      rw [hcurrent] at hfound
      rw [hconnected]
      by_cases hother : other = port
      · subst hother
        rw [Function.update_self] at hfound
        exact Or.inl ⟨rfl, (Option.some.inj hfound).symm⟩
      · rw [Function.update_of_ne hother] at hfound
        exact Or.inr (h.listeners.tracked other found hfound)
    · intro other hother
      rw [hvacated] at hother
      rw [hcurrent]
      by_cases hsame : other = port
      · subst hsame
        simp at hother
      · rw [Function.update_of_ne hsame] at hother ⊢
        exact h.vacated other hother
  · refine ⟨by rw [hsame]; exact h.listeners, ?_⟩
    intro other hother
    rw [hvacated] at hother
    rw [hsame]
    by_cases hport : other = port
    · rw [hport, hnone]
    · rw [Function.update_of_ne hport] at hother
      exact h.vacated other hother
  · refine ⟨⟨hkeyed, ?_⟩, ?_⟩
    · intro other found hfound
      rw [hcurrent] at hfound
      by_cases hother : other = port
      · subst hother
        simp at hfound
      · rw [Function.update_of_ne hother] at hfound
        have hconnectedOn := h.listeners.tracked other found hfound
        refine (hconnected other found).mpr ⟨hconnectedOn, ?_⟩
        rintro rfl
        exact hother (hconnectedOn.port_eq (h.listeners.tracked port found hsome))
    · intro other hother
      rw [hvacated] at hother
      rw [hcurrent]
      by_cases hport : other = port
      · rw [hport, Function.update_self]
      · rw [Function.update_of_ne hport] at hother ⊢
        exact h.vacated other hother

theorem tracks_initial (policy : ReceiverPolicy)
    (verify : String → Except IdentityError StreamIdentity) : (initial policy verify).Tracks := by
  refine ⟨⟨?_, ?_⟩, ?_⟩
  · intro key record hrecord
    simp [initial, ReceiverRegistry.new] at hrecord
  · intro port key hkey
    cases hkey
  · intro port hport
    cases hport

/-- One step keeps the port to its current stream exactly when a caller that
is accepted on it finds it free. -/
theorem onlyCurrent_step_iff {action : ListenerAction} (h : watched.Tracks) :
    (watched.step codec action).listeners.OnlyCurrent port ↔
      watched.listeners.OnlyCurrent port ∧ watched.FindsPortFree port action := by
  have htracked := h.listeners.tracked
  unfold Listeners.OnlyCurrent
  rcases step_cases codec h action with ⟨_, hcurrent, _, hconnected, hfree⟩ |
    ⟨other, streamId, key, rfl, haccepted, _, hcurrent, hnew, _, hconnected⟩ |
    ⟨other, rfl, _, _, hsame⟩ |
    ⟨other, key, rfl, hsome, _, hcurrent, _, hconnected⟩
  · rw [hcurrent, and_iff_left (hfree port)]
    simp only [hconnected]
  · simp only [hconnected, hcurrent, FindsPortFree]
    by_cases hother : port = other
    · subst hother
      simp only [Function.update_self, haccepted, true_and, forall_const]
      constructor
      · intro honly
        -- whoever was connected on the port would have to be the new caller
        have hnone : ∀ found, ¬ watched.listeners.registry.ConnectedOn port found := by
          intro found hfound
          obtain rfl := Option.some.inj (honly found (Or.inr hfound))
          exact hnew port hfound
        refine ⟨fun found hfound => absurd hfound (hnone found), ?_⟩
        refine Option.eq_none_iff_forall_ne_some.mpr fun found hfound => ?_
        exact hnone found (htracked port found hfound)
      · rintro ⟨honly, hvacant⟩ found (rfl | hfound)
        · rfl
        · rw [honly found hfound] at hvacant
          cases hvacant
    · simp [hother, Ne.symm hother]
  · rw [hsame]
    exact (and_iff_left trivial).symm
  · have hfree : FindsPortFree port watched (.callerRemoved other) := trivial
    rw [hcurrent, and_iff_left hfree]
    simp only [hconnected]
    by_cases hother : port = other
    · subst hother
      rw [Function.update_self, hsome]
      constructor
      · intro honly found hfound
        by_contra hne
        have hgone := honly found ⟨hfound, fun heq => hne (by rw [heq])⟩
        cases hgone
      · rintro honly found ⟨hfound, hne⟩
        exact absurd (Option.some.inj (honly found hfound)).symm hne
    · rw [Function.update_of_ne hother]
      have hkept : ∀ found, watched.listeners.registry.ConnectedOn port found → found ≠ key := by
        rintro found hfound rfl
        exact hother (hfound.port_eq (htracked other found hsome))
      exact forall_congr' fun found =>
        ⟨fun honly hfound => honly ⟨hfound, hkept found hfound⟩,
          fun honly hfound => honly hfound.1⟩

theorem onlyCurrent_run_iff (actions : List ListenerAction) (h : watched.Tracks) :
    (run (step codec) watched actions).listeners.OnlyCurrent port ↔
      watched.listeners.OnlyCurrent port ∧
        Meets (step codec) (FindsPortFree port) watched actions := by
  induction actions generalizing watched with
  | nil => simp [Meets]
  | cons action actions ih =>
    rw [run_cons, ih (tracks_step watched action h), onlyCurrent_step_iff h, Meets, and_assoc]

/-- A vacated port has no current stream, so that nothing is connected. -/
theorem oneStream_iff (h : watched.Tracks) :
    OneStream port watched ↔ watched.listeners.OnlyCurrent port := by
  refine ⟨OneStream.onlyCurrent, fun honly => ⟨honly, ?_⟩⟩
  intro hvacated key hkey
  have hnone := h.vacated port hvacated
  rw [honly key hkey] at hnone
  cases hnone

/-- **One stream a port.** A port keeps to its current stream, and to none
once its caller was removed, exactly when every caller that is accepted there
finds it free. -/
theorem one_stream_per_port_iff (codec : Message SyncTimestampV1) (policy : ReceiverPolicy)
    (verify : String → Except IdentityError StreamIdentity) (port : UInt16)
    (actions : List ListenerAction) :
    OneStream port (run (step codec) (initial policy verify) actions) ↔
      Meets (step codec) (FindsPortFree port) (initial policy verify) actions := by
  have hstart := tracks_initial policy verify
  have hnone : (initial policy verify).listeners.OnlyCurrent port := by
    rintro key ⟨record, hrecord, _⟩
    simp [initial, ReceiverRegistry.new] at hrecord
  rw [oneStream_iff (run_invariant' tracks_step hstart actions),
    onlyCurrent_run_iff actions hstart, and_iff_right hnone]

/-- The anchor camera of the next session, under the key of the cell. -/
def nextSessionStream : String :=
  "rmc1;emb=cell;edge=edge;boot=02020202-0202-0202-0202-020202020202;" ++
  "sid=03030303-0303-0303-0303-030303030303;cid=anchor;slot=0;epoch=1;role=anchor;codec=h264;" ++
  "sig=YxqVp_53KrBfw395MwCiZA"

def nextSession : Uuid := ⟨List.replicate 16 3, rfl⟩

def twoSessionVerify (raw : String) : Except IdentityError StreamIdentity :=
  if raw = nextSessionStream then
    .ok { cellIdentity "anchor" 0 1 .anchor with sessionId := nextSession }
  else cellVerify raw

/-- The caller of the next session connects before the old one is removed;
then both are. -/
def takeover : List ListenerAction :=
  [.callerConnecting 10000 anchorStream, .callerConnecting 10000 nextSessionStream,
    .callerRemoved 10000, .callerRemoved 10000]

/-- Nobody is connected to the port any more, but the stream of the first
session stays connected. -/
theorem takeover_leaks_stream :
    let watched := run (step (cellExternals [] []).timestamp)
      (initial cellRegistry.policy twoSessionVerify) takeover
    watched.vacated 10000 = true ∧
      watched.listeners.registry.ConnectedOn 10000 ⟨cellSession, "anchor", 1⟩ ∧
      ¬ OneStream 10000 watched := by
  intro watched
  have hvacated : watched.vacated 10000 = true := by decide +kernel
  have hrecord : (watched.listeners.registry.streams[StreamKey.mk cellSession "anchor" 1]?).map
      (fun record => (record.connected, record.listenPort)) = some (true, 10000) := by
    decide +kernel
  obtain ⟨record, hfound, hfields⟩ := Option.map_eq_some_iff.mp hrecord
  obtain ⟨hconnected, hport⟩ := Prod.mk.inj hfields
  have hleaked : watched.listeners.registry.ConnectedOn 10000 ⟨cellSession, "anchor", 1⟩ :=
    ⟨record, hfound, hconnected, hport⟩
  exact ⟨hvacated, hleaked, fun hone => hone.vacated hvacated _ hleaked⟩

end Watched

end RobotMulticam.Receiver
