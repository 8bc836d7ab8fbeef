import RobotMulticam.Lib.Binary32
import RobotMulticam.Lib.Outcome
import RobotMulticam.Lib.Run
import RobotMulticam.Lib.Uuid

/-!
# Control leases and command validation

Model of the vendor-neutral control gateway: clients lease devices for a
bounded time and send commands under a lease. A command is admitted when its
lease is live and owns the device, its id is not in the command history, and
its schema, mode, shape and values satisfy the device policy.

Every method takes the edge clock reading it was called with; nothing makes
these readings monotone. Methods that can fail return their result together
with the gateway, because leases expire also when the call is refused.
-/

namespace RobotMulticam.Edge

open RobotMulticam.Lib
open Std (ExtTreeMap ExtTreeSet)

inductive ControlError where
  | identifier
  | ttl
  | deviceUnavailable
  | lease
  | duplicateCommand
  | unsafeCommand
  deriving DecidableEq, Repr

/-- The text the gateway reports for an error. -/
def ControlError.text : ControlError → String
  | .identifier => "client and device identifiers must be nonempty and bounded"
  | .ttl => "lease TTL is outside configured bounds"
  | .deviceUnavailable => "one or more devices are unknown or already leased"
  | .lease => "lease is unknown, expired, or does not own the device"
  | .duplicateCommand => "command ID was already used"
  | .unsafeCommand => "command mode, schema, shape, or value is unsafe"

/-! ## Policies -/

structure DeviceCommandPolicy where
  deviceId : String
  actionSchemaId : UInt64
  vectorLength : Nat
  commandModes : ExtTreeSet String
  minimum : List F32
  maximum : List F32

/-- The checks a policy passes before it enters the table, apart from the
one that its device is new there. -/
def DeviceCommandPolicy.malformed (policy : DeviceCommandPolicy) : Bool :=
  policy.deviceId.isEmpty
    || decide (128 < policy.deviceId.utf8ByteSize)
    || policy.actionSchemaId == 0
    || policy.vectorLength == 0
    || policy.minimum.length != policy.vectorLength
    || policy.maximum.length != policy.vectorLength
    || policy.commandModes.isEmpty
    || (policy.minimum.zip policy.maximum).any fun (minimum, maximum) =>
      !minimum.isFinite || !maximum.isFinite || maximum.lt minimum

/-- What a policy of the table satisfies. -/
structure DeviceCommandPolicy.Admitted (policy : DeviceCommandPolicy) : Prop where
  minimumLength : policy.minimum.length = policy.vectorLength
  maximumLength : policy.maximum.length = policy.vectorLength
  finite : ∀ bounds ∈ policy.minimum.zip policy.maximum,
    bounds.1.isFinite = true ∧ bounds.2.isFinite = true

theorem DeviceCommandPolicy.admitted_of_not_malformed {policy : DeviceCommandPolicy}
    (h : policy.malformed = false) : policy.Admitted := by
  simp only [malformed, Bool.or_eq_false_iff, bne_eq_false_iff_eq, List.any_eq_false] at h
  obtain ⟨⟨⟨⟨_, hminimum⟩, hmaximum⟩, _⟩, hbounds⟩ := h
  refine ⟨hminimum, hmaximum, ?_⟩
  intro bounds hmem
  have hbound := hbounds bounds hmem
  simp only [Bool.or_eq_true, Bool.not_eq_true', not_or, Bool.not_eq_false] at hbound
  exact hbound.1

/-- Policies indexed by their device, every one of them admitted. -/
structure PolicyTable where
  indexed : ExtTreeMap String DeviceCommandPolicy
  admitted : ∀ (device : String) (policy : DeviceCommandPolicy),
    indexed[device]? = some policy → policy.Admitted

def PolicyTable.empty : PolicyTable where
  indexed := ∅
  admitted := by
    intro device policy h
    simp at h

/-- One turn of the loop of `ControlGateway::new`. -/
def PolicyTable.index (table : PolicyTable) (policy : DeviceCommandPolicy) :
    Except ControlError PolicyTable :=
  if h : policy.malformed = true then .error .unsafeCommand
  else if table.indexed.contains policy.deviceId then .error .unsafeCommand
  else .ok {
    indexed := table.indexed.insert policy.deviceId policy
    admitted := by
      intro device found hfound
      rw [ExtTreeMap.getElem?_insert] at hfound
      split at hfound
      · cases hfound
        exact DeviceCommandPolicy.admitted_of_not_malformed (by simpa using h)
      · exact table.admitted device found hfound }

/-! ## The gateway -/

structure Lease where
  leaseId : Uuid
  clientId : String
  devices : ExtTreeSet String
  expiresAtEdgeNs : UInt64

structure ValidatedCommand where
  commandId : Uuid
  leaseId : Uuid
  deviceId : String
  commandMode : String
  actionSchemaId : UInt64
  values : List F32
  acceptedAtEdgeNs : UInt64
  deriving DecidableEq

structure CommandRequest where
  commandId : Uuid
  leaseId : Uuid
  deviceId : String
  commandMode : String
  actionSchemaId : UInt64
  values : List F32
  deriving DecidableEq

structure ControlGateway where
  policies : PolicyTable
  leases : ExtTreeMap Uuid Lease
  commandIds : ExtTreeSet Uuid
  effectiveActions : ExtTreeMap String (List F32)
  minimumTtlNs : UInt64
  maximumTtlNs : UInt64
  maxCommandHistory : Nat
  historyPositive : 0 < maxCommandHistory

namespace ControlGateway

def new (policies : List DeviceCommandPolicy) (minimumTtlNs maximumTtlNs : UInt64)
    (maxCommandHistory : Nat) : Except ControlError ControlGateway :=
  if h : minimumTtlNs = 0 ∨ maximumTtlNs < minimumTtlNs ∨ maxCommandHistory = 0 then
    .error .ttl
  else do
    let indexed ← policies.foldlM PolicyTable.index PolicyTable.empty
    pure {
      policies := indexed
      leases := ∅
      commandIds := ∅
      effectiveActions := ∅
      minimumTtlNs
      maximumTtlNs
      maxCommandHistory
      historyPositive := by
        rw [not_or, not_or] at h
        exact Nat.pos_of_ne_zero h.2.2 }

variable (gateway : ControlGateway)

def effectiveAction (deviceId : String) : Option (List F32) :=
  gateway.effectiveActions[deviceId]?

/-- Drops the leases that have expired; returns how many there were. -/
def expire (nowEdgeNs : UInt64) : Nat × ControlGateway :=
  let kept := gateway.leases.filter fun _ lease => decide (nowEdgeNs < lease.expiresAtEdgeNs)
  (gateway.leases.size - kept.size, { gateway with leases := kept })

/-- Some lease holds the device. -/
def leased (device : String) : Bool :=
  gateway.leases.toList.any fun (_, lease) => lease.devices.contains device

/-- `freshId` is the value `Uuid::new_v4` returns in this call. -/
def acquire (clientId : String) (devices : ExtTreeSet String) (ttlNs nowEdgeNs : UInt64)
    (freshId : Uuid) :
    Except ControlError Lease × ControlGateway :=
  let gateway := (gateway.expire nowEdgeNs).2
  if clientId.isEmpty || decide (128 < clientId.utf8ByteSize) || devices.isEmpty then
    (.error .identifier, gateway)
  else if ¬ (gateway.minimumTtlNs ≤ ttlNs ∧ ttlNs ≤ gateway.maximumTtlNs) then
    (.error .ttl, gateway)
  else if devices.toList.any fun device =>
      !gateway.policies.indexed.contains device || gateway.leased device then
    (.error .deviceUnavailable, gateway)
  else
    let lease : Lease := {
      leaseId := freshId
      clientId
      devices
      expiresAtEdgeNs := saturatingAdd64 nowEdgeNs ttlNs }
    (.ok lease, { gateway with leases := gateway.leases.insert lease.leaseId lease })

def release (leaseId : Uuid) : Bool × ControlGateway :=
  (gateway.leases.contains leaseId, { gateway with leases := gateway.leases.erase leaseId })

end ControlGateway

/-- The command does not fit the policy of its device. -/
def DeviceCommandPolicy.refuses (policy : DeviceCommandPolicy) (command : CommandRequest) :
    Bool :=
  command.actionSchemaId != policy.actionSchemaId
    || command.values.length != policy.vectorLength
    || !policy.commandModes.contains command.commandMode
    || (command.values.zip (policy.minimum.zip policy.maximum)).any
      fun (value, minimum, maximum) =>
        !value.isFinite || value.lt minimum || maximum.lt value

namespace ControlGateway

/-- The history with room for one more id: a full one gives up the id that
`first()` finds, which is the smallest. -/
def makeRoom (commandIds : ExtTreeSet Uuid) (maxCommandHistory : Nat) : ExtTreeSet Uuid :=
  if commandIds.size = maxCommandHistory then
    match commandIds.toList.head? with
    | some oldest => commandIds.erase oldest
    | none => commandIds
  else commandIds

variable (gateway : ControlGateway) (command : CommandRequest)

/-- Remembers an admitted command and its effective action. -/
def record : ControlGateway :=
  { gateway with
    commandIds :=
      (makeRoom gateway.commandIds gateway.maxCommandHistory).insert command.commandId
    effectiveActions := gateway.effectiveActions.insert command.deviceId command.values }

def validateCommand (nowEdgeNs : UInt64) : Except ControlError ValidatedCommand × ControlGateway :=
  let gateway := (gateway.expire nowEdgeNs).2
  if gateway.commandIds.contains command.commandId then (.error .duplicateCommand, gateway)
  else match gateway.leases[command.leaseId]? with
  | none => (.error .lease, gateway)
  | some lease =>
    if !lease.devices.contains command.deviceId then (.error .lease, gateway)
    else match gateway.policies.indexed[command.deviceId]? with
    | none => (.error .deviceUnavailable, gateway)
    | some policy =>
      if policy.refuses command then (.error .unsafeCommand, gateway)
      else
        (.ok {
          commandId := command.commandId
          leaseId := command.leaseId
          deviceId := command.deviceId
          commandMode := command.commandMode
          actionSchemaId := command.actionSchemaId
          values := command.values
          acceptedAtEdgeNs := nowEdgeNs },
        gateway.record command)

/-! ## What each method does

One lemma for each method; later proofs use these and never look inside. -/

@[simp] theorem expire_policies (now : UInt64) :
    (gateway.expire now).2.policies = gateway.policies := rfl

@[simp] theorem expire_commandIds (now : UInt64) :
    (gateway.expire now).2.commandIds = gateway.commandIds := rfl

@[simp] theorem expire_effectiveActions (now : UInt64) :
    (gateway.expire now).2.effectiveActions = gateway.effectiveActions := rfl

@[simp] theorem expire_maxCommandHistory (now : UInt64) :
    (gateway.expire now).2.maxCommandHistory = gateway.maxCommandHistory := rfl

/-- A lease survives `expire` exactly when it ends strictly later. -/
theorem expire_leases {gateway : ControlGateway} {now : UInt64} {id : Uuid} {lease : Lease} :
    (gateway.expire now).2.leases[id]? = some lease ↔
      gateway.leases[id]? = some lease ∧ now < lease.expiresAtEdgeNs := by
  show (gateway.leases.filter _)[id]? = some lease ↔ _
  rw [ExtTreeMap.getElem?_filter]
  simp [Option.filter_eq_some_iff]

theorem leased_eq_false {gateway : ControlGateway} {device : String} :
    gateway.leased device = false ↔
      ∀ (id : Uuid) (lease : Lease), gateway.leases[id]? = some lease →
        device ∉ lease.devices := by
  rw [leased, List.any_eq_false]
  constructor
  · intro h id lease hlease
    have hfree := h (id, lease) (ExtTreeMap.mem_toList_iff_getElem?_eq_some.mpr hlease)
    simpa using hfree
  · rintro h ⟨id, lease⟩ hentry
    have hfree := h id lease (ExtTreeMap.mem_toList_iff_getElem?_eq_some.mp hentry)
    simpa using hfree

/-- A refused `acquire` only expires leases. A granted one adds a lease on
devices that have a policy and that no live lease holds. -/
theorem acquire_cases (clientId : String) (devices : ExtTreeSet String) (ttl now : UInt64)
    (freshId : Uuid) :
    (∃ error, gateway.acquire clientId devices ttl now freshId =
      (.error error, (gateway.expire now).2)) ∨
    (∃ lease : Lease, gateway.acquire clientId devices ttl now freshId =
        (.ok lease, { (gateway.expire now).2 with
          leases := (gateway.expire now).2.leases.insert freshId lease }) ∧
      lease.leaseId = freshId ∧ lease.devices = devices ∧
      lease.expiresAtEdgeNs = saturatingAdd64 now ttl ∧
      ∀ device ∈ devices, device ∈ gateway.policies.indexed ∧
        (gateway.expire now).2.leased device = false) := by
  unfold acquire
  simp only
  split
  · exact Or.inl ⟨_, rfl⟩
  · split
    · exact Or.inl ⟨_, rfl⟩
    · split
      · exact Or.inl ⟨_, rfl⟩
      · rename_i hfree
        refine Or.inr ⟨_, rfl, rfl, rfl, rfl, ?_⟩
        intro device hdevice
        rw [Bool.not_eq_true, List.any_eq_false] at hfree
        have hone := hfree device (ExtTreeSet.mem_toList.mpr hdevice)
        simpa using hone

/-- What `validate_command` asks of the gateway it is called on. -/
structure Admissible (gateway : ControlGateway) (command : CommandRequest) (now : UInt64)
    (lease : Lease) (policy : DeviceCommandPolicy) : Prop where
  unused : command.commandId ∉ gateway.commandIds
  held : gateway.leases[command.leaseId]? = some lease
  live : now < lease.expiresAtEdgeNs
  owns : command.deviceId ∈ lease.devices
  governed : gateway.policies.indexed[command.deviceId]? = some policy
  fits : policy.refuses command = false

/-- Some lease and some policy admit the command. -/
def Admits (now : UInt64) : Prop :=
  ∃ lease policy, gateway.Admissible command now lease policy

theorem validateCommand_cases (now : UInt64) :
    (gateway.Admits command now ∧ gateway.validateCommand command now =
      (.ok ⟨command.commandId, command.leaseId, command.deviceId, command.commandMode,
        command.actionSchemaId, command.values, now⟩, (gateway.expire now).2.record command)) ∨
    (¬ gateway.Admits command now ∧ ∃ error, gateway.validateCommand command now =
      (.error error, (gateway.expire now).2)) := by
  generalize houtcome : gateway.validateCommand command now = outcome
  unfold validateCommand at houtcome
  dsimp only at houtcome
  split at houtcome
  · rename_i hused
    refine Or.inr ⟨?_, _, houtcome.symm⟩
    rintro ⟨lease, policy, h⟩
    exact h.unused (ExtTreeSet.mem_iff_contains.mpr hused)
  · rename_i hunused
    split at houtcome
    · rename_i hnone
      refine Or.inr ⟨?_, _, houtcome.symm⟩
      rintro ⟨lease, policy, h⟩
      rw [expire_leases.mpr ⟨h.held, h.live⟩] at hnone
      cases hnone
    · rename_i lease hlease
      obtain ⟨hheld, hlive⟩ := expire_leases.mp hlease
      split at houtcome
      · rename_i howner
        refine Or.inr ⟨?_, _, houtcome.symm⟩
        rintro ⟨other, policy, h⟩
        obtain rfl : lease = other := Option.some.inj (hheld.symm.trans h.held)
        have howns := ExtTreeSet.mem_iff_contains.mp h.owns
        simp [howns] at howner
      · rename_i howns
        split at houtcome
        · rename_i hnone
          refine Or.inr ⟨?_, _, houtcome.symm⟩
          rintro ⟨other, policy, h⟩
          rw [expire_policies, h.governed] at hnone
          cases hnone
        · rename_i policy hpolicy
          split at houtcome
          · rename_i hrefused
            refine Or.inr ⟨?_, _, houtcome.symm⟩
            rintro ⟨other, found, h⟩
            obtain rfl : policy = found := Option.some.inj (hpolicy.symm.trans h.governed)
            exact absurd hrefused (by simp [h.fits])
          · rename_i hfits
            refine Or.inl ⟨⟨lease, policy, ?_⟩, houtcome.symm⟩
            exact {
              unused := fun hmem => hunused (ExtTreeSet.mem_iff_contains.mp hmem)
              held := hheld
              live := hlive
              owns := ExtTreeSet.mem_iff_contains.mpr (by simpa using howns)
              governed := hpolicy
              fits := by simpa using hfits }

/-- A used id is answered with the duplicate error before anything else is
looked at. -/
theorem validateCommand_duplicate {gateway : ControlGateway} {command : CommandRequest}
    {now : UInt64} :
    (gateway.validateCommand command now).1 = .error .duplicateCommand ↔
      command.commandId ∈ gateway.commandIds := by
  constructor
  · intro h
    by_contra hunused
    have hcontains : gateway.commandIds.contains command.commandId = false := by
      rw [← Bool.not_eq_true, ← ExtTreeSet.mem_iff_contains]
      exact hunused
    unfold validateCommand at h
    simp only [expire_commandIds, hcontains, Bool.false_eq_true, if_false] at h
    repeat' split at h
    all_goals cases h
  · intro hused
    unfold validateCommand
    simp [ExtTreeSet.mem_iff_contains.mp hused]

end ControlGateway

end RobotMulticam.Edge
