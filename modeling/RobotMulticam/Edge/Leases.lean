import RobotMulticam.Edge.Control

/-!
# Lease exclusivity and command admission

Over every run of the gateway's methods, with any clock readings, a device
belongs to at most one lease, and a command is accepted only under a live
lease on its device and within the device's policy.

The argument is one invariant, `LeasesExclusive`. Three of the four methods
only ever take leases away, so they keep it by one lemma
(`LeasesExclusive.of_kept`); `acquire` is the only method that has to prove
something about the lease it adds.
-/

namespace RobotMulticam.Edge

open RobotMulticam.Lib
open Std (ExtTreeMap ExtTreeSet)
open ControlGateway

/-- A call on the gateway. -/
inductive Call where
  | acquire (clientId : String) (devices : ExtTreeSet String) (ttlNs nowEdgeNs : UInt64)
      (freshId : Uuid)
  | release (leaseId : Uuid)
  | expire (nowEdgeNs : UInt64)
  | validateCommand (command : CommandRequest) (nowEdgeNs : UInt64)

/-- The gateway after a call, whatever the call returned. -/
def ControlGateway.call (gateway : ControlGateway) : Call → ControlGateway
  | .acquire clientId devices ttlNs nowEdgeNs freshId =>
    (gateway.acquire clientId devices ttlNs nowEdgeNs freshId).2
  | .release leaseId => (gateway.release leaseId).2
  | .expire nowEdgeNs => (gateway.expire nowEdgeNs).2
  | .validateCommand command nowEdgeNs => (gateway.validateCommand command nowEdgeNs).2

/-- The lease `id` is in the table and covers the device. -/
def ControlGateway.Owns (gateway : ControlGateway) (id : Uuid) (device : String) : Prop :=
  ∃ lease, gateway.leases[id]? = some lease ∧ device ∈ lease.devices

/-- No device has two owners, and only devices with a policy have one. -/
structure LeasesExclusive (gateway : ControlGateway) : Prop where
  keyed : ∀ (id : Uuid) (lease : Lease), gateway.leases[id]? = some lease → lease.leaseId = id
  unique : ∀ id other device, gateway.Owns id device → gateway.Owns other device → id = other
  governed : ∀ id device, gateway.Owns id device → device ∈ gateway.policies.indexed

/-! ## What a step preserves -/

variable {gateway : ControlGateway} {policies : List DeviceCommandPolicy}

/-- Taking leases away keeps exclusivity. -/
theorem LeasesExclusive.of_kept {next : ControlGateway} (h : LeasesExclusive gateway)
    (hpolicies : next.policies = gateway.policies)
    (hkept : ∀ (id : Uuid) (lease : Lease), next.leases[id]? = some lease →
      gateway.leases[id]? = some lease) :
    LeasesExclusive next := by
  have howned : ∀ id device, next.Owns id device → gateway.Owns id device := by
    rintro id device ⟨lease, hlease, hdevice⟩
    exact ⟨lease, hkept id lease hlease, hdevice⟩
  refine ⟨?_, ?_, ?_⟩
  · intro id lease hlease
    exact h.keyed id lease (hkept id lease hlease)
  · intro id other device hid hother
    exact h.unique id other device (howned id device hid) (howned other device hother)
  · intro id device hid
    rw [hpolicies]
    exact h.governed id device (howned id device hid)

theorem LeasesExclusive.expire (h : LeasesExclusive gateway) (now : UInt64) :
    LeasesExclusive (gateway.expire now).2 :=
  h.of_kept rfl fun _ _ hlease => (expire_leases.mp hlease).1

/-- Adding a lease on unowned devices with a policy keeps exclusivity, also
when its id was in use: the lease that had it is then gone. -/
theorem LeasesExclusive.insert (h : LeasesExclusive gateway) {lease : Lease}
    (hgoverned : ∀ device ∈ lease.devices, device ∈ gateway.policies.indexed)
    (hfree : ∀ device ∈ lease.devices, gateway.leased device = false) :
    LeasesExclusive
      { gateway with leases := gateway.leases.insert lease.leaseId lease } := by
  have howner : ∀ id device,
      ControlGateway.Owns
        { gateway with leases := gateway.leases.insert lease.leaseId lease } id device →
      (id = lease.leaseId ∧ device ∈ lease.devices) ∨ gateway.Owns id device := by
    rintro id device ⟨found, hfound, hdevice⟩
    dsimp only at hfound
    rw [ExtTreeMap.getElem?_insert] at hfound
    split at hfound
    · rename_i heq
      cases hfound
      exact Or.inl ⟨(Std.LawfulEqOrd.eq_of_compare heq).symm, hdevice⟩
    · exact Or.inr ⟨found, hfound, hdevice⟩
  have hunowned : ∀ id, ∀ device ∈ lease.devices, ¬ gateway.Owns id device := by
    rintro id device hdevice ⟨found, hfound, hmem⟩
    exact leased_eq_false.mp (hfree device hdevice) id found hfound hmem
  refine ⟨?_, ?_, ?_⟩
  · intro id found hfound
    dsimp only at hfound
    rw [ExtTreeMap.getElem?_insert] at hfound
    split at hfound
    · rename_i heq
      cases hfound
      exact Std.LawfulEqOrd.eq_of_compare heq
    · exact h.keyed id found hfound
  · intro id other device hid hother
    rcases howner id device hid with ⟨rfl, hdevice⟩ | hid
    · rcases howner other device hother with ⟨rfl, _⟩ | hother
      · rfl
      · exact absurd hother (hunowned other device hdevice)
    · rcases howner other device hother with ⟨rfl, hdevice⟩ | hother
      · exact absurd hid (hunowned id device hdevice)
      · exact h.unique id other device hid hother
  · intro id device hid
    rcases howner id device hid with ⟨_, hdevice⟩ | hid
    · exact hgoverned device hdevice
    · exact h.governed id device hid

/-- Every call keeps exclusivity. -/
theorem leasesExclusive_call (gateway : ControlGateway) (call : Call)
    (h : LeasesExclusive gateway) : LeasesExclusive (gateway.call call) := by
  cases call with
  | acquire clientId devices ttl now freshId =>
    rcases gateway.acquire_cases clientId devices ttl now freshId with
      ⟨error, hrefused⟩ | ⟨lease, hgranted, rfl, rfl, _, hdevices⟩
    · simp only [ControlGateway.call, hrefused]
      exact h.expire now
    · simp only [ControlGateway.call, hgranted]
      exact (h.expire now).insert (fun device hdevice => (hdevices device hdevice).1)
        (fun device hdevice => (hdevices device hdevice).2)
  | release leaseId =>
    refine h.of_kept rfl ?_
    intro id lease hlease
    change (gateway.leases.erase leaseId)[id]? = some lease at hlease
    rw [ExtTreeMap.getElem?_erase] at hlease
    split at hlease
    · cases hlease
    · exact hlease
  | expire now => exact h.expire now
  | validateCommand command now =>
    rcases gateway.validateCommand_cases command now with
      ⟨_, haccepted⟩ | ⟨_, error, hrefused⟩
    · simp only [ControlGateway.call, haccepted]
      exact (h.expire now).of_kept rfl fun _ _ hlease => hlease
    · simp only [ControlGateway.call, hrefused]
      exact h.expire now

/-! ## Admission -/

/-- The command satisfies the policy of its device: schema, mode, shape, and
each value a finite number between the bounds at its place. -/
structure WithinPolicy (policy : DeviceCommandPolicy) (command : CommandRequest) : Prop where
  schema : command.actionSchemaId = policy.actionSchemaId
  mode : command.commandMode ∈ policy.commandModes
  shape : command.values.length = policy.vectorLength
  range : ∀ (index : Nat) (value : F32), command.values[index]? = some value →
    ∃ minimum maximum, policy.minimum[index]? = some minimum ∧
      policy.maximum[index]? = some maximum ∧ value.isFinite = true ∧
      minimum.toRat ≤ value.toRat ∧ value.toRat ≤ maximum.toRat

/-- A command an admitted policy does not refuse is within the policy. The
lengths matter: `zip` stops at the shorter side, so a short bound vector
would leave values unchecked. -/
theorem withinPolicy_of_not_refuses {policy : DeviceCommandPolicy}
    {command : CommandRequest} (hadmitted : policy.Admitted)
    (h : policy.refuses command = false) : WithinPolicy policy command := by
  simp only [DeviceCommandPolicy.refuses, Bool.or_eq_false_iff, bne_eq_false_iff_eq,
    Bool.not_eq_false', List.any_eq_false] at h
  obtain ⟨⟨⟨hschema, hshape⟩, hmode⟩, hvalues⟩ := h
  refine ⟨hschema, ExtTreeSet.mem_iff_contains.mpr hmode, hshape, ?_⟩
  intro index value hvalue
  have hindex : index < policy.vectorLength := by
    rw [← hshape]
    exact (List.getElem?_eq_some_iff.mp hvalue).1
  have hmin : index < policy.minimum.length := by rw [hadmitted.minimumLength]; exact hindex
  have hmax : index < policy.maximum.length := by rw [hadmitted.maximumLength]; exact hindex
  have hbounds : (policy.minimum.zip policy.maximum)[index]? =
      some (policy.minimum[index], policy.maximum[index]) :=
    List.getElem?_zip_eq_some.mpr
      ⟨List.getElem?_eq_getElem hmin, List.getElem?_eq_getElem hmax⟩
  have hchecked := hvalues (value, policy.minimum[index], policy.maximum[index])
    (List.mem_of_getElem? (List.getElem?_zip_eq_some.mpr ⟨hvalue, hbounds⟩))
  obtain ⟨hminFinite, hmaxFinite⟩ := hadmitted.finite _ (List.mem_of_getElem? hbounds)
  simp only [Bool.or_eq_true, Bool.not_eq_true', not_or, Bool.not_eq_false,
    Bool.not_eq_true] at hchecked
  obtain ⟨⟨hfinite, habove⟩, hbelow⟩ := hchecked
  exact ⟨_, _, List.getElem?_eq_getElem hmin, List.getElem?_eq_getElem hmax, hfinite,
    F32.toRat_le_of_not_lt hfinite hminFinite habove,
    F32.toRat_le_of_not_lt hmaxFinite hfinite hbelow⟩

/-! ## Whole runs -/

/-- A new gateway has no leases at all. -/
theorem leases_new {minimumTtl maximumTtl : UInt64} {history : Nat}
    (h : ControlGateway.new policies minimumTtl maximumTtl history = .ok gateway) :
    gateway.leases = ∅ ∧ gateway.commandIds = ∅ ∧ gateway.maxCommandHistory = history := by
  unfold ControlGateway.new at h
  split at h
  · cases h
  · obtain ⟨table, _, hgateway⟩ := bind_eq_ok.mp h
    cases hgateway
    exact ⟨rfl, rfl, rfl⟩

theorem leasesExclusive_run {minimumTtl maximumTtl : UInt64} {history : Nat}
    (h : ControlGateway.new policies minimumTtl maximumTtl history = .ok gateway)
    (calls : List Call) : LeasesExclusive (run ControlGateway.call gateway calls) := by
  refine run_invariant' leasesExclusive_call ?_ calls
  have hnone : ∀ (id : Uuid) (lease : Lease), gateway.leases[id]? ≠ some lease := by
    simp [(leases_new h).1]
  refine ⟨?_, ?_, ?_⟩
  · intro id lease hlease
    exact absurd hlease (hnone id lease)
  · rintro id other device ⟨lease, hlease, _⟩ _
    exact absurd hlease (hnone id lease)
  · rintro id device ⟨lease, hlease, _⟩
    exact absurd hlease (hnone id lease)

/-- In every state a run reaches, leases with different ids share no device
and cover only devices with a policy. There, `validate_command` accepts only
an unused command under a live lease on its device and within its policy,
and sets that device's effective action and no other; when it refuses, the
history and all effective actions stay as they are. -/
theorem leases_exclusive_and_commands_admitted (policies : List DeviceCommandPolicy)
    (minimumTtl maximumTtl : UInt64) (history : Nat) (gateway : ControlGateway)
    (hnew : ControlGateway.new policies minimumTtl maximumTtl history = .ok gateway)
    (calls : List Call) (reached : ControlGateway)
    (hreached : reached = run ControlGateway.call gateway calls) :
    (∀ (id other : Uuid) (lease otherLease : Lease),
      reached.leases[id]? = some lease → reached.leases[other]? = some otherLease →
      lease.leaseId ≠ otherLease.leaseId →
      ∀ device, ¬ (device ∈ lease.devices ∧ device ∈ otherLease.devices)) ∧
    (∀ (id : Uuid) (lease : Lease), reached.leases[id]? = some lease →
      ∀ device ∈ lease.devices, device ∈ reached.policies.indexed) ∧
    (∀ (command : CommandRequest) (now : UInt64) (result : Except ControlError ValidatedCommand)
        (next : ControlGateway), reached.validateCommand command now = (result, next) →
      (∀ validated, result = .ok validated →
        (∃ lease policy, reached.leases[command.leaseId]? = some lease ∧
          lease.leaseId = command.leaseId ∧ now < lease.expiresAtEdgeNs ∧
          command.deviceId ∈ lease.devices ∧
          command.commandId ∉ reached.commandIds ∧
          reached.policies.indexed[command.deviceId]? = some policy ∧
          WithinPolicy policy command) ∧
        next.effectiveAction command.deviceId = some command.values ∧
        ∀ device, device ≠ command.deviceId →
          next.effectiveAction device = reached.effectiveAction device) ∧
      (∀ error, result = .error error →
        next.commandIds = reached.commandIds ∧
        ∀ device, next.effectiveAction device = reached.effectiveAction device)) := by
  have hexclusive : LeasesExclusive reached := by
    rw [hreached]
    exact leasesExclusive_run hnew calls
  refine ⟨?_, ?_, ?_⟩
  · rintro id other lease otherLease hid hother hne device ⟨hdevice, hotherDevice⟩
    have hsame := hexclusive.unique id other device ⟨lease, hid, hdevice⟩
      ⟨otherLease, hother, hotherDevice⟩
    apply hne
    rw [hexclusive.keyed id lease hid, hexclusive.keyed other otherLease hother, hsame]
  · intro id lease hlease device hdevice
    exact hexclusive.governed id device ⟨lease, hlease, hdevice⟩
  · intro command now result next hcall
    rcases reached.validateCommand_cases command now with
      ⟨⟨lease, policy, hadmissible⟩, haccepted⟩ | ⟨_, error, hrefused⟩
    · rw [haccepted] at hcall
      cases hcall
      refine ⟨?_, fun error hresult => (by cases hresult)⟩
      intro validated _
      refine ⟨⟨lease, policy, hadmissible.held,
        hexclusive.keyed _ _ hadmissible.held, hadmissible.live, hadmissible.owns,
        hadmissible.unused, hadmissible.governed, ?_⟩, ?_, ?_⟩
      · exact withinPolicy_of_not_refuses
          (reached.policies.admitted _ _ hadmissible.governed) hadmissible.fits
      · simp [effectiveAction, record]
      · intro device hdevice
        simp [effectiveAction, record,
          ExtTreeMap.getElem?_insert, Ne.symm hdevice]
    · rw [hrefused] at hcall
      cases hcall
      refine ⟨fun validated hresult => (by cases hresult), ?_⟩
      intro _ _
      exact ⟨rfl, fun _ => rfl⟩

/-- A two-valued position device, each value between -1 and 1. -/
def bodyPolicy : DeviceCommandPolicy where
  deviceId := "body"
  actionSchemaId := 7
  vectorLength := 2
  commandModes := {"position"}
  minimum := [⟨0xbf800000⟩, ⟨0xbf800000⟩]
  maximum := [⟨0x3f800000⟩, ⟨0x3f800000⟩]

/-- A gateway for that device which remembers two commands. -/
def bodyGateway : ControlGateway :=
  (ControlGateway.new [bodyPolicy] 10 1000 2).toOption.get (by decide +kernel)

theorem new_bodyGateway : ControlGateway.new [bodyPolicy] 10 1000 2 = .ok bodyGateway :=
  eq_ok_of_isSome _

/-- A position command for the body, with values 0.5 and -0.5. -/
def bodyCommand (commandId leaseId : Uuid) : CommandRequest where
  commandId
  leaseId
  deviceId := "body"
  commandMode := "position"
  actionSchemaId := 7
  values := [⟨0x3f000000⟩, ⟨0xbf000000⟩]

theorem leases_exclusive_and_commands_admitted_body :
    ∃ next, (run ControlGateway.call bodyGateway
        [.acquire "client" {"body"} 100 1 (.ofNat 5)]).validateCommand
          (bodyCommand (.ofNat 9) (.ofNat 5)) 2 =
        (.ok ⟨.ofNat 9, .ofNat 5, "body", "position", 7, [⟨0x3f000000⟩, ⟨0xbf000000⟩], 2⟩,
          next) ∧
      next.effectiveAction "body" = some [⟨0x3f000000⟩, ⟨0xbf000000⟩] := by
  have hresult : ((run ControlGateway.call bodyGateway
      [.acquire "client" {"body"} 100 1 (.ofNat 5)]).validateCommand
        (bodyCommand (.ofNat 9) (.ofNat 5)) 2).1 =
      .ok ⟨.ofNat 9, .ofNat 5, "body", "position", 7, [⟨0x3f000000⟩, ⟨0xbf000000⟩], 2⟩ := by
    decide +kernel
  obtain ⟨_, _, hcommand⟩ := leases_exclusive_and_commands_admitted [bodyPolicy] 10 1000 2
    bodyGateway new_bodyGateway _ _ rfl
  refine ⟨_, Prod.ext hresult rfl, ?_⟩
  exact ((hcommand _ _ _ _ (Prod.ext hresult rfl)).1 _ rfl).2.1

end RobotMulticam.Edge
