import RobotMulticam.Edge.Leases

/-!
# The network control gateway

Any number of `handle_command` tasks share one `ControlGateway` behind a
mutex. A task validates its command under the mutex, lets the mutex go, and
calls the Adapter router later; in between, other tasks and lease requests
take the mutex. `Service` keeps the validated commands that still wait for
their router call, and an action is one critical section or one router call,
so a list of actions is an interleaving.

A command that waits is not protected: its lease can be released, or can
expire, before the router is called. The last section says that this is the
only way a command reaches the router under a lost lease.
-/

namespace RobotMulticam.Edge

open RobotMulticam.Lib
open Std (ExtTreeMap ExtTreeSet)

/-- The gRPC status of a refused request, with its message. -/
inductive Status where
  | invalidArgument (message : String)
  | failedPrecondition (message : String)
  | unavailable (message : String)
  | internal (message : String)
  deriving DecidableEq, Repr

structure TimelineCommand where
  commandId : List UInt8
  leaseId : List UInt8
  deviceId : String
  commandMode : String
  actionSchemaId : UInt64
  values : List F32
  clientTimeNs : UInt64

structure CommandEnvelope where
  commandId : List UInt8
  leaseId : List UInt8
  deviceId : String
  commandMode : String
  actionSchemaId : UInt64
  values : List F32
  clientTimeNs : UInt64
  deriving DecidableEq

/-- The Adapter's answer; its source clock fields are not read. -/
structure CommandFeedback where
  commandId : List UInt8
  deviceId : String
  status : Int
  effectiveValues : List F32
  reason : String

structure TimelineFeedback where
  commandId : List UInt8
  deviceId : String
  status : Int
  observedEdgeNs : UInt64
  effectiveValues : List F32
  reason : String

structure AcquireLeaseRequest where
  clientId : String
  deviceIds : List String
  ttlMs : UInt32

structure AcquireLeaseResponse where
  granted : Bool
  leaseId : List UInt8
  expiresAtEdgeNs : UInt64
  reason : String
  deriving DecidableEq

inductive CommandStatus where
  | unspecified
  | received
  | validated
  | accepted
  | active
  | completed
  | rejected
  | failed
  deriving DecidableEq, Repr

def CommandStatus.tryFrom : Int → Option CommandStatus
  | 0 => some .unspecified
  | 1 => some .received
  | 2 => some .validated
  | 3 => some .accepted
  | 4 => some .active
  | 5 => some .completed
  | 6 => some .rejected
  | 7 => some .failed
  | _ => none

inductive TimelineFeedbackStatus where
  | routed
  | accepted
  | active
  | completed
  | rejected
  | failed
  deriving DecidableEq, Repr

/-- The wire number of a status; 0 is the unspecified one. -/
def TimelineFeedbackStatus.toInt : TimelineFeedbackStatus → Int
  | .routed => 1
  | .accepted => 2
  | .active => 3
  | .completed => 4
  | .rejected => 5
  | .failed => 6

def mapStatus (status : Int) : Int :=
  TimelineFeedbackStatus.toInt <|
    match CommandStatus.tryFrom status with
    | some .received | some .validated => .routed
    | some .accepted => .accepted
    | some .active => .active
    | some .completed => .completed
    | some .rejected => .rejected
    | some .failed | some .unspecified | none => .failed

def parseUuid (bytes : List UInt8) (field : String) : Except Status Uuid :=
  match Uuid.fromSlice bytes with
  | some id => .ok id
  | none => .error (.invalidArgument (field ++ " must be 16 bytes"))

/-- A reading of the edge clock, or the text of the clock's error. -/
abbrev Clock := Except String UInt64

def now (clock : Clock) : Except Status UInt64 := clock.mapError .internal

def controlStatus (error : ControlError) : Status := .failedPrecondition error.text

/-! ## The requests -/

variable (control : ControlGateway)

def acquireLease (request : AcquireLeaseRequest) (clock : Clock) (freshId : Uuid) :
    Except Status AcquireLeaseResponse × ControlGateway :=
  match now clock with
  | .error status => (.error status, control)
  | .ok nowNs =>
    -- a 32-bit count of milliseconds never overflows as nanoseconds
    let ttlNs := request.ttlMs.toUInt64 * 1000000
    let devices := ExtTreeSet.ofList request.deviceIds
    match control.acquire request.clientId devices ttlNs nowNs freshId with
    | (.ok lease, control) =>
      (.ok ⟨true, lease.leaseId.bytes, lease.expiresAtEdgeNs, ""⟩, control)
    | (.error error, control) => (.ok ⟨false, [], 0, error.text⟩, control)

def releaseLease (leaseId : List UInt8) : Except Status Bool × ControlGateway :=
  match parseUuid leaseId "lease_id" with
  | .error status => (.error status, control)
  | .ok id =>
    let (released, control) := control.release id
    (.ok released, control)

/-- `handle_command` up to the router call: parse the ids, validate under the
mutex, build the envelope. -/
def validateAndBuild (command : TimelineCommand) (clock : Clock) :
    Except Status CommandEnvelope × ControlGateway :=
  match parseUuid command.commandId "command_id" with
  | .error status => (.error status, control)
  | .ok commandId =>
    match parseUuid command.leaseId "lease_id" with
    | .error status => (.error status, control)
    | .ok leaseId =>
      match now clock with
      | .error status => (.error status, control)
      | .ok nowNs =>
        match control.validateCommand ⟨commandId, leaseId, command.deviceId,
            command.commandMode, command.actionSchemaId, command.values⟩ nowNs with
        | (.error error, control) => (.error (controlStatus error), control)
        | (.ok validated, control) =>
          (.ok {
            commandId := validated.commandId.bytes
            leaseId := validated.leaseId.bytes
            deviceId := validated.deviceId
            commandMode := validated.commandMode
            actionSchemaId := validated.actionSchemaId
            values := validated.values
            clientTimeNs := command.clientTimeNs }, control)

/-- `handle_command` from the router's answer on. -/
def finishCommand (answer : Except String CommandFeedback) (clock : Clock) :
    Except Status TimelineFeedback := do
  let feedback ← answer.mapError .unavailable
  let observedEdgeNs ← now clock
  pure {
    commandId := feedback.commandId
    deviceId := feedback.deviceId
    status := mapStatus feedback.status
    observedEdgeNs
    effectiveValues := feedback.effectiveValues
    reason := feedback.reason }

/-! ## Interleavings -/

/-- The shared gateway, the envelopes whose task has not called the router
yet, and what the tasks have answered. -/
structure Service where
  control : ControlGateway
  waiting : List CommandEnvelope
  answers : List (Except Status TimelineFeedback)

/-- One critical section of a request, or one router call. The router call of
the task at `index` happens at edge time `nowNs`. -/
inductive ServiceAction where
  | acquireLease (request : AcquireLeaseRequest) (clock : Clock) (freshId : Uuid)
  | releaseLease (leaseId : List UInt8)
  | validate (command : TimelineCommand) (clock : Clock)
  | route (index : Nat) (nowNs : UInt64) (answer : Except String CommandFeedback)
      (clock : Clock)

def Service.step (service : Service) : ServiceAction → Service
  | .acquireLease request clock freshId =>
    { service with control := (acquireLease service.control request clock freshId).2 }
  | .releaseLease leaseId =>
    { service with control := (releaseLease service.control leaseId).2 }
  | .validate command clock =>
    match validateAndBuild service.control command clock with
    | (.ok envelope, control) =>
      { service with control, waiting := service.waiting ++ [envelope] }
    | (.error status, control) =>
      { service with control, answers := service.answers ++ [.error status] }
  | .route index _ answer clock =>
    if index < service.waiting.length then
      { service with
        waiting := service.waiting.eraseIdx index
        answers := service.answers ++ [finishCommand answer clock] }
    else service

/-- The lease the envelope was validated under is in the table, covers the
envelope's device, and no other lease does. -/
def HeldFor (envelope : CommandEnvelope) (lease : Lease) : Prop :=
  control.leases[lease.leaseId]? = some lease ∧
  envelope.leaseId = lease.leaseId.bytes ∧
  envelope.deviceId ∈ lease.devices ∧
  ∀ id, control.Owns id envelope.deviceId → id = lease.leaseId

/-- If the action is a router call, the command's lease is still held, has
not reached its expiry, and is the one that owns the device. -/
def RoutesUnderHeldLease (service : Service) : ServiceAction → Prop
  | .route index nowNs _ _ =>
    ∀ envelope, service.waiting[index]? = some envelope →
      ∃ lease, HeldFor service.control envelope lease ∧ nowNs < lease.expiresAtEdgeNs
  | _ => True

/-- The lease the envelope was validated under, if still held, ends after
`nowNs`. -/
def Outlasts (envelope : CommandEnvelope) (nowNs : UInt64) : Prop :=
  ∀ lease : Lease, control.leases[lease.leaseId]? = some lease →
    envelope.leaseId = lease.leaseId.bytes → nowNs < lease.expiresAtEdgeNs

/-- The action takes no lease away from a waiting command: it does not
release one, its clock reading is before the expiry of each, a new lease
gets an id that is not in use, and a command is routed before its own lease
ends. -/
def SparesWaiting (service : Service) : ServiceAction → Prop
  | .acquireLease _ clock freshId =>
    freshId ∉ service.control.leases ∧
      ∀ nowNs, clock = .ok nowNs →
        ∀ envelope ∈ service.waiting, Outlasts service.control envelope nowNs
  | .releaseLease leaseId => ∀ envelope ∈ service.waiting, envelope.leaseId ≠ leaseId
  | .validate _ clock =>
    ∀ nowNs, clock = .ok nowNs →
      ∀ envelope ∈ service.waiting, Outlasts service.control envelope nowNs
  | .route index nowNs _ _ =>
    ∀ envelope, service.waiting[index]? = some envelope →
      Outlasts service.control envelope nowNs

/-! ## What one action does -/

/-- The lease request runs `acquire` at the clock reading, if there is one. -/
theorem acquireLease_control (request : AcquireLeaseRequest) (clock : Clock) (freshId : Uuid) :
    (∃ text, clock = .error text ∧
      (acquireLease control request clock freshId).2 = control) ∨
    (∃ nowNs devices ttlNs, clock = .ok nowNs ∧
      (acquireLease control request clock freshId).2 =
        (control.acquire request.clientId devices ttlNs nowNs freshId).2) := by
  cases clock with
  | error text => exact Or.inl ⟨text, rfl, rfl⟩
  | ok nowNs =>
    refine Or.inr ⟨nowNs, ExtTreeSet.ofList request.deviceIds,
      request.ttlMs.toUInt64 * 1000000, rfl, ?_⟩
    simp only [acquireLease, now, Except.mapError]
    split
    · rename_i lease next hgranted
      rw [hgranted]
    · rename_i error next hrefused
      rw [hrefused]

theorem releaseLease_control (leaseId : List UInt8) :
    (releaseLease control leaseId).2 = control ∨
    (∃ id : Uuid, leaseId = id.bytes ∧
      (releaseLease control leaseId).2 = (control.release id).2) := by
  unfold releaseLease parseUuid
  cases hparse : Uuid.fromSlice leaseId with
  | none => exact Or.inl rfl
  | some id => exact Or.inr ⟨id, Uuid.fromSlice_eq_some.mp hparse, rfl⟩

/-- Validation leaves the gateway alone, or expires leases at the clock
reading and refuses, or admits the command and hands out its envelope. -/
theorem validateAndBuild_cases (command : TimelineCommand) (clock : Clock) :
    (∃ status, validateAndBuild control command clock = (.error status, control)) ∨
    (∃ status nowNs, clock = .ok nowNs ∧
      validateAndBuild control command clock = (.error status, (control.expire nowNs).2)) ∨
    (∃ request nowNs envelope, clock = .ok nowNs ∧ control.Admits request nowNs ∧
      validateAndBuild control command clock =
        (.ok envelope, (control.expire nowNs).2.record request) ∧
      envelope.leaseId = request.leaseId.bytes ∧ envelope.deviceId = request.deviceId) := by
  generalize houtcome : validateAndBuild control command clock = outcome
  unfold validateAndBuild at houtcome
  split at houtcome
  · exact Or.inl ⟨_, houtcome.symm⟩
  · rename_i commandId _
    split at houtcome
    · exact Or.inl ⟨_, houtcome.symm⟩
    · rename_i leaseId _
      cases clock with
      | error text => exact Or.inl ⟨_, houtcome.symm⟩
      | ok nowNs =>
        simp only [now, Except.mapError] at houtcome
        rcases control.validateCommand_cases ⟨commandId, leaseId, command.deviceId,
            command.commandMode, command.actionSchemaId, command.values⟩ nowNs with
          ⟨hadmits, haccepted⟩ | ⟨_, error, hrefused⟩
        · rw [haccepted] at houtcome
          exact Or.inr (Or.inr ⟨_, nowNs, _, rfl, hadmits, houtcome.symm, rfl, rfl⟩)
        · rw [hrefused] at houtcome
          exact Or.inr (Or.inl ⟨_, nowNs, rfl, houtcome.symm⟩)

/-! ## Commands that wait keep their lease -/

/-- Leases are exclusive and every waiting command still has its own. -/
structure WaitingHeld (service : Service) : Prop where
  exclusive : LeasesExclusive service.control
  held : ∀ envelope ∈ service.waiting, ∃ lease : Lease,
    service.control.leases[lease.leaseId]? = some lease ∧
    envelope.leaseId = lease.leaseId.bytes ∧ envelope.deviceId ∈ lease.devices

theorem WaitingHeld.heldFor {service : Service} (h : WaitingHeld service)
    {envelope : CommandEnvelope} (hwaiting : envelope ∈ service.waiting) :
    ∃ lease, HeldFor service.control envelope lease := by
  obtain ⟨lease, hlease, hid, hdevice⟩ := h.held envelope hwaiting
  refine ⟨lease, hlease, hid, hdevice, ?_⟩
  intro id howns
  exact h.exclusive.unique id lease.leaseId envelope.deviceId howns ⟨lease, hlease, hdevice⟩

/-- A change of the gateway that keeps the leases of the waiting commands. -/
theorem WaitingHeld.of_kept {service : Service} (h : WaitingHeld service)
    {control : ControlGateway} (hexclusive : LeasesExclusive control)
    (hkept : ∀ envelope ∈ service.waiting, ∀ lease : Lease,
      service.control.leases[lease.leaseId]? = some lease →
      envelope.leaseId = lease.leaseId.bytes →
      control.leases[lease.leaseId]? = some lease) :
    WaitingHeld { service with control } := by
  refine ⟨hexclusive, ?_⟩
  intro envelope hwaiting
  obtain ⟨lease, hlease, hid, hdevice⟩ := h.held envelope hwaiting
  exact ⟨lease, hkept envelope hwaiting lease hlease hid, hid, hdevice⟩

theorem WaitingHeld.expire {service : Service} (h : WaitingHeld service) {nowNs : UInt64}
    (houtlast : ∀ envelope ∈ service.waiting, Outlasts service.control envelope nowNs) :
    WaitingHeld { service with control := (service.control.expire nowNs).2 } := by
  refine h.of_kept (h.exclusive.expire nowNs) ?_
  intro envelope hwaiting lease hlease hid
  exact ControlGateway.expire_leases.mpr
    ⟨hlease, houtlast envelope hwaiting lease hlease hid⟩

/-- An action that spares the waiting commands leaves each its lease, and a
newly validated command has one. -/
theorem waitingHeld_step (service : Service) (action : ServiceAction)
    (h : WaitingHeld service) (hspares : SparesWaiting service action) :
    WaitingHeld (service.step action) := by
  cases action with
  | acquireLease request clock freshId =>
    obtain ⟨hfresh, houtlast⟩ := hspares
    rcases acquireLease_control service.control request clock freshId with
      ⟨text, _, hnext⟩ | ⟨nowNs, devices, ttlNs, hclock, hnext⟩
    · simp only [Service.step, hnext]
      exact h
    · simp only [Service.step, hnext]
      refine h.of_kept (leasesExclusive_call service.control
        (.acquire request.clientId devices ttlNs nowNs freshId) h.exclusive) ?_
      intro envelope hwaiting lease hlease hid
      have hlive := ControlGateway.expire_leases.mpr
        ⟨hlease, houtlast nowNs hclock envelope hwaiting lease hlease hid⟩
      rcases service.control.acquire_cases request.clientId devices ttlNs nowNs freshId with
        ⟨error, hrefused⟩ | ⟨granted, hgranted, _⟩
      · rw [hrefused]
        exact hlive
      · -- the new lease has another id, so it overwrites nothing
        have hne : freshId ≠ lease.leaseId := by
          rintro rfl
          exact hfresh (ExtTreeMap.mem_iff_isSome_getElem?.mpr (by rw [hlease]; rfl))
        rw [hgranted]
        dsimp only
        rw [ExtTreeMap.getElem?_insert, if_neg (by simpa using hne)]
        exact hlive
  | releaseLease leaseId =>
    rcases releaseLease_control service.control leaseId with
      hnext | ⟨released, hreleased, hnext⟩
    · simp only [Service.step, hnext]
      exact h
    · simp only [Service.step, hnext]
      refine h.of_kept (leasesExclusive_call service.control (.release released)
        h.exclusive) ?_
      intro envelope hwaiting lease hlease hid
      have hne : released ≠ lease.leaseId := by
        rintro rfl
        exact hspares envelope hwaiting (hid.trans hreleased.symm)
      show (service.control.leases.erase released)[lease.leaseId]? = some lease
      rw [ExtTreeMap.getElem?_erase, if_neg (by simpa using hne)]
      exact hlease
  | validate command clock =>
    rcases validateAndBuild_cases service.control command clock with
      ⟨status, hnext⟩ | ⟨status, nowNs, hclock, hnext⟩ |
      ⟨request, nowNs, envelope, hclock, hadmits, hnext, hid, hdevice⟩
    · simp only [Service.step, hnext]
      exact ⟨h.exclusive, h.held⟩
    · simp only [Service.step, hnext]
      have hexpired := h.expire (hspares nowNs hclock)
      exact ⟨hexpired.exclusive, hexpired.held⟩
    · simp only [Service.step, hnext]
      have hexpired := h.expire (hspares nowNs hclock)
      refine ⟨hexpired.exclusive.of_kept rfl fun _ _ hlease => hlease, ?_⟩
      intro waiting hwaiting
      rcases List.mem_append.mp hwaiting with hold | hnew
      · exact hexpired.held waiting hold
      · obtain ⟨lease, policy, hadmissible⟩ := hadmits
        rw [List.mem_singleton.mp hnew]
        have hkey := h.exclusive.keyed _ _ hadmissible.held
        refine ⟨lease, ?_, ?_, ?_⟩
        · rw [hkey]
          exact ControlGateway.expire_leases.mpr ⟨hadmissible.held, hadmissible.live⟩
        · rw [hkey]
          exact hid
        · rw [hdevice]
          exact hadmissible.owns
  | route index nowNs answer clock =>
    simp only [Service.step]
    split
    · refine ⟨h.exclusive, ?_⟩
      intro envelope hwaiting
      exact h.held envelope (List.mem_of_mem_eraseIdx hwaiting)
    · exact h

/-! ## Whole interleavings -/

/-- In every interleaving whose actions spare the waiting commands, each
router call is made under a lease that is still held and owns the device. -/
theorem routed_under_held_lease (policies : List DeviceCommandPolicy)
    (minimumTtl maximumTtl : UInt64) (history : Nat) (gateway : ControlGateway)
    (hnew : ControlGateway.new policies minimumTtl maximumTtl history = .ok gateway)
    (actions : List ServiceAction)
    (hspares : Meets Service.step SparesWaiting ⟨gateway, [], []⟩ actions) :
    Meets Service.step RoutesUnderHeldLease ⟨gateway, [], []⟩ actions := by
  refine meets_of_invariant waitingHeld_step ?_ ?_ hspares
  · intro service action hheld hspared
    cases action with
    | acquireLease _ _ _ => trivial
    | releaseLease _ => trivial
    | validate _ _ => trivial
    | route index nowNs answer clock =>
      intro envelope henvelope
      obtain ⟨lease, hlease⟩ := hheld.heldFor (List.mem_of_getElem? henvelope)
      exact ⟨lease, hlease, hspared envelope henvelope lease hlease.1 hlease.2.1⟩
  · exact ⟨leasesExclusive_run hnew [], by simp⟩

/-- A gateway for the body that grants leases of whole milliseconds. -/
def serviceGateway : ControlGateway :=
  (ControlGateway.new [bodyPolicy] 10 9223372036854775807 8).toOption.get (by decide +kernel)

theorem new_serviceGateway :
    ControlGateway.new [bodyPolicy] 10 9223372036854775807 8 = .ok serviceGateway :=
  eq_ok_of_isSome _

/-- The client leases the body for a millisecond. -/
def leaseBody (clientId : String) (nowNs : UInt64) (freshId : Nat) : ServiceAction :=
  .acquireLease ⟨clientId, ["body"], 1⟩ (.ok nowNs) (.ofNat freshId)

/-- A position command for the body under the lease. -/
def commandBody (leaseId : Nat) (nowNs : UInt64) : ServiceAction :=
  .validate ⟨(Uuid.ofNat 9).bytes, (Uuid.ofNat leaseId).bytes, "body", "position", 7,
    [⟨0x3f000000⟩, ⟨0xbf000000⟩], 0⟩ (.ok nowNs)

def routeFirst (nowNs : UInt64) : ServiceAction :=
  .route 0 nowNs (.error "device has no Adapter route") (.ok nowNs)

theorem routed_under_held_lease_body :
    (run Service.step ⟨serviceGateway, [], []⟩
      [leaseBody "a" 1 7, commandBody 7 2]).waiting.length = 1 ∧
    Meets Service.step RoutesUnderHeldLease ⟨serviceGateway, [], []⟩
      ([leaseBody "a" 1 7, commandBody 7 2] ++ [routeFirst 3]) := by
  refine ⟨by decide +kernel, ?_⟩
  apply routed_under_held_lease [bodyPolicy] 10 9223372036854775807 8 serviceGateway
    new_serviceGateway
  refine meets_append.mpr ⟨⟨⟨?_, ?_⟩, ?_, trivial⟩, ?_, trivial⟩
  · rw [← ExtTreeMap.contains_iff_mem]
    decide +kernel
  · intro nowNs _ envelope hwaiting
    cases hwaiting
  · intro nowNs _ envelope hwaiting
    cases hwaiting
  · generalize hservice : run Service.step ⟨serviceGateway, [], []⟩
      [leaseBody "a" 1 7, commandBody 7 2] = service
    intro envelope henvelope lease hlease hid
    have hfirst : service.waiting[0]?.map CommandEnvelope.leaseId =
        some (Uuid.ofNat 7).bytes := by
      rw [← hservice]
      decide +kernel
    have hexpiry : service.control.leases[Uuid.ofNat 7]?.map Lease.expiresAtEdgeNs =
        some 1000001 := by
      rw [← hservice]
      decide +kernel
    rw [henvelope] at hfirst
    have hkey : lease.leaseId = .ofNat 7 :=
      Uuid.ext_bytes (hid.symm.trans (Option.some.inj hfirst))
    rw [hkey] at hlease
    rw [hlease] at hexpiry
    rw [Option.some.inj hexpiry]
    decide

/-- Client `a` leases the body and has a command validated. Before the
command is routed `a` releases the lease and client `b` leases the body. -/
def takeover : List ServiceAction :=
  [leaseBody "a" 1 7, commandBody 7 2, .releaseLease (Uuid.ofNat 7).bytes, leaseBody "b" 3 8]

/-- The command of `a` is still routed, although the body belongs to `b`. -/
theorem routed_under_lost_lease :
    (run Service.step ⟨serviceGateway, [], []⟩ takeover).control.leases.toList.map
      (fun (id, lease) => (id, lease.clientId, lease.devices.toList)) =
        [(.ofNat 8, "b", ["body"])] ∧
    ¬ Meets Service.step RoutesUnderHeldLease ⟨serviceGateway, [], []⟩
      (takeover ++ [routeFirst 4]) := by
  refine ⟨by decide +kernel, ?_⟩
  intro hmeets
  have hroute := (meets_append.mp hmeets).2.1
  generalize hservice : run Service.step ⟨serviceGateway, [], []⟩ takeover = service at hroute
  have hfirst : service.waiting[0]?.map CommandEnvelope.leaseId =
      some (Uuid.ofNat 7).bytes := by
    rw [← hservice]
    decide +kernel
  have hgone : service.control.leases[Uuid.ofNat 7]?.isSome = false := by
    rw [← hservice]
    decide +kernel
  obtain ⟨envelope, henvelope, henvelopeId⟩ := Option.map_eq_some_iff.mp hfirst
  obtain ⟨lease, ⟨hlease, hid, _⟩, _⟩ := hroute envelope henvelope
  have hkey : lease.leaseId = .ofNat 7 := Uuid.ext_bytes (hid.symm.trans henvelopeId)
  rw [hkey] at hlease
  rw [hlease] at hgone
  cases hgone

end RobotMulticam.Edge
