import RobotMulticam.Adapter.Commands
import RobotMulticam.Edge.ReplayWindow
import RobotMulticam.Edge.Startup

/-!
# Commands from the gateway to the backends

A command passes three programs: the gateway validates it under its lock, the
router connects to the adapter of its device and opens a command stream for
this one command, and the adapter runtime checks it again and asks the backend.
The link between router and adapter can fail at any point, also after the
backend was asked.

`CommandPath` puts the three together. A list of actions is an interleaving of
any number of clients; what the outside does to a routed command is part of the
action.

* `executed_within_policy`: a backend is only asked for commands that were
  validated, unchanged and at most once for each validation; as long as the
  history has not filled up, at most once for each command id.
* `validated_commands_execute`: behind the gateway no command is refused any
  more. If the link works, the backend is asked exactly once, and the answer
  names the command and the device.
-/

namespace RobotMulticam.Link

open RobotMulticam.Lib
open RobotMulticam.Protocol
open RobotMulticam.Edge
open RobotMulticam.Adapter (Abort Execution CommandTurn commandStream admitCommand feedbackOf)
open Std (ExtTreeMap ExtTreeSet)

/-! ## The router -/

/-- How a call of the adapter's `CommandStream` ends at the router: with a
fault, which the command may have got past, or with what the adapter sends. -/
inductive CallEnd where
  | failed (fault : LinkFault) (delivered : Bool)
  | answered

/-- What happens outside while a command is routed. -/
structure RouterRun where
  reached : Except LinkFault AdapterDescriptor
  delivery : CallEnd
  /-- What `backend.command` makes of the command, if it is asked. -/
  backend : Except String (List F32)
  sourceTimeNs : ℕ

/-- The number of a status in a message. -/
def statusNumber : CommandStatus → Int
  | .unspecified => 0
  | .received => 1
  | .validated => 2
  | .accepted => 3
  | .active => 4
  | .completed => 5
  | .rejected => 6
  | .failed => 7

/-- The feedback as the router receives it. -/
def received (feedback : Adapter.CommandFeedback) : Edge.CommandFeedback where
  commandId := feedback.commandId
  deviceId := feedback.deviceId
  status := statusNumber feedback.status
  effectiveValues := feedback.effectiveValues
  reason := feedback.reason

/-- `descriptor.source_clock.source_clock_id` -/
def clockIdOf (descriptor : AdapterDescriptor) : String :=
  (descriptor.sourceClock.map (·.sourceClockId)).getD ""

/-- `execute_command`: what the router gets, and what the adapter executed. The
text of an abort is the one of its status. -/
def executeCommand (statusText : Abort → String) (descriptor : AdapterDescriptor)
    (command : CommandEnvelope) (outside : RouterRun) :
    Except String Edge.CommandFeedback × List Execution :=
  -- every command has a stream of its own, which has seen no id yet
  let stream := commandStream (clockIdOf descriptor) ∅
    [⟨command, outside.backend, outside.sourceTimeNs⟩]
  match outside.delivery with
  | .failed fault delivered => (.error fault.text, if delivered then stream.1 else [])
  | .answered =>
    match stream.1.head?, stream.2 with
    | some execution, _ => (.ok (received execution.feedback), stream.1)
    | none, some abort => (.error (LinkFault.status (statusText abort)).text, stream.1)
    | none, none => (.error (LinkFault.status "command feedback closed").text, stream.1)

/-- `UnixAdapterRouter::route` -/
def routeCommand (statusText : Abort → String) (routes : CommandRoutes)
    (command : CommandEnvelope) (outside : RouterRun) :
    Except String Edge.CommandFeedback × List Execution :=
  match routes[command.deviceId]? with
  | none => (.error "device has no Adapter route", [])
  | some socket =>
    match connectSocket socket outside.reached with
    | .error error => (.error error.text, [])
    | .ok connection => executeCommand statusText connection.descriptor command outside

/-! ## Interleavings -/

/-- The gateway's service, the envelopes of the commands it has validated, and
all calls of backends. -/
structure CommandPath where
  service : Service
  validated : List CommandEnvelope
  executed : List Execution

inductive PathAction where
  | acquireLease (request : AcquireLeaseRequest) (clock : Clock) (freshId : Uuid)
  | releaseLease (leaseId : List UInt8)
  | validate (command : TimelineCommand) (clock : Clock)
  | route (index : Nat) (nowNs : UInt64) (outside : RouterRun) (clock : Clock)

namespace CommandPath

def start (gateway : ControlGateway) : CommandPath := ⟨⟨gateway, [], []⟩, [], []⟩

def step (statusText : Abort → String) (routes : CommandRoutes) (path : CommandPath) :
    PathAction → CommandPath
  | .acquireLease request clock freshId =>
    { path with service := path.service.step (.acquireLease request clock freshId) }
  | .releaseLease leaseId => { path with service := path.service.step (.releaseLease leaseId) }
  | .validate command clock =>
    { path with
      service := path.service.step (.validate command clock)
      validated := path.validated ++
        (validateAndBuild path.service.control command clock).1.toOption.toList }
  | .route index nowNs outside clock =>
    match path.service.waiting[index]? with
    | none => path
    | some envelope =>
      let outcome := routeCommand statusText routes envelope outside
      { path with
        service := path.service.step (.route index nowNs outcome.1 clock)
        executed := path.executed ++ outcome.2 }

end CommandPath

/-! ## One command -/

section Command

variable {statusText : Abort → String} {routes : CommandRoutes} {command : CommandEnvelope}
  {outside : RouterRun}

/-- An envelope that was built from an admitted request. -/
structure BuiltFrom (envelope : CommandEnvelope) (request : CommandRequest) : Prop where
  commandId : envelope.commandId = request.commandId.bytes
  leaseId : envelope.leaseId = request.leaseId.bytes
  deviceId : envelope.deviceId = request.deviceId
  commandMode : envelope.commandMode = request.commandMode
  actionSchemaId : envelope.actionSchemaId = request.actionSchemaId
  values : envelope.values = request.values

/-- What the gateway has made sure of. -/
def Validated (policies : PolicyTable) (envelope : CommandEnvelope) : Prop :=
  ∃ policy request, policies.indexed[envelope.deviceId]? = some policy ∧
    WithinPolicy policy request ∧ BuiltFrom envelope request

variable {sourceClockId : String} {turn : CommandTurn} {seen : Finset (List UInt8)}

theorem commandStream_of_error {abort : Abort} (h : admitCommand ∅ turn.command = .error abort) :
    commandStream sourceClockId ∅ [turn] = ([], some abort) := by
  rw [commandStream, h]

theorem commandStream_of_ok (h : admitCommand ∅ turn.command = .ok seen) :
    commandStream sourceClockId ∅ [turn] =
      ([⟨turn.command, feedbackOf sourceClockId turn⟩], none) := by
  rw [commandStream, h]
  rfl

/-- At most one call, for the command itself, and its feedback names it. -/
theorem executed_of_routeCommand (statusText : Abort → String) (routes : CommandRoutes)
    (command : CommandEnvelope) (outside : RouterRun) :
    (routeCommand statusText routes command outside).2 = [] ∨
      ∃ execution, (routeCommand statusText routes command outside).2 = [execution] ∧
        execution.command = command ∧ execution.feedback.commandId = command.commandId ∧
        execution.feedback.deviceId = command.deviceId := by
  have hstream : ∀ sourceClockId,
      (commandStream sourceClockId ∅ [⟨command, outside.backend, outside.sourceTimeNs⟩]).1 = [] ∨
      ∃ execution, (commandStream sourceClockId ∅
          [⟨command, outside.backend, outside.sourceTimeNs⟩]).1 = [execution] ∧
        execution.command = command ∧ execution.feedback.commandId = command.commandId ∧
        execution.feedback.deviceId = command.deviceId := by
    intro sourceClockId
    cases hrun : admitCommand ∅ command with
    | error abort =>
      rw [commandStream_of_error hrun]
      exact Or.inl rfl
    | ok seen =>
      rw [commandStream_of_ok hrun]
      exact Or.inr ⟨_, rfl, rfl, rfl, rfl⟩
  unfold routeCommand
  split
  · exact Or.inl rfl
  · split
    · exact Or.inl rfl
    · unfold executeCommand
      dsimp only
      split
      · split
        · exact hstream _
        · exact Or.inl rfl
      · split
        · exact hstream _
        · exact hstream _
        · exact hstream _

/-- The adapter runtime refuses no command that the gateway has validated. -/
theorem admitCommand_of_validated {policies : PolicyTable} (h : Validated policies command)
    (hnonempty : ∀ (device : String) (policy : DeviceCommandPolicy),
      policies.indexed[device]? = some policy → policy.vectorLength ≠ 0) :
    ∃ seen, admitCommand ∅ command = .ok seen := by
  obtain ⟨policy, request, hpolicy, hwithin, hbuilt⟩ := h
  have hids : ¬ (command.commandId.length ≠ 16 ∨ command.leaseId.length ≠ 16) := by
    rw [hbuilt.commandId, hbuilt.leaseId]
    simp [Uuid.size]
  have hvalues : ¬ (command.values = [] ∨ command.values.any fun value => !value.isFinite) := by
    rintro (hnil | hinfinite)
    · refine hnonempty _ policy hpolicy ?_
      rw [← hwithin.shape, ← hbuilt.values, hnil]
      rfl
    · obtain ⟨value, hmem, hvalue⟩ := List.any_eq_true.mp hinfinite
      rw [hbuilt.values] at hmem
      obtain ⟨index, hindex⟩ := List.mem_iff_getElem?.mp hmem
      obtain ⟨-, -, -, -, hfinite, -⟩ := hwithin.range index value hindex
      simp [hfinite] at hvalue
  refine ⟨renew 4096 ∅ command.commandId, ?_⟩
  rw [admitCommand, if_neg hids, if_neg (by simp)]
  dsimp only
  rw [if_neg hvalues]

/-- Over a link that works, a command that the runtime admits is answered with
what its backend made of it. -/
theorem routeCommand_of_admitted {socket : List Char} {descriptor : AdapterDescriptor}
    (hroute : routes[command.deviceId]? = some socket) (haccepted : socketRefused socket = false)
    (hreached : outside.reached = .ok descriptor)
    (hdescriptor : validateDescriptor descriptor = .ok ())
    (hanswered : outside.delivery = .answered) (hrun : admitCommand ∅ command = .ok seen) :
    ∃ execution, routeCommand statusText routes command outside =
        (.ok (received execution.feedback), [execution]) ∧ execution.command = command ∧
      execution.feedback.commandId = command.commandId ∧
      execution.feedback.deviceId = command.deviceId ∧
      execution.feedback.status = if outside.backend.isOk then .accepted else .rejected := by
  have hclient : ∃ connection, AdapterConnection.connect descriptor = .ok connection := by
    rw [AdapterConnection.connect, hdescriptor]
    exact ⟨_, rfl⟩
  obtain ⟨connection, hclient⟩ := hclient
  have hconnect : connectSocket socket outside.reached = .ok connection := by
    rw [connectSocket, haccepted, hreached]
    exact mapError_eq_ok.mpr hclient
  refine ⟨⟨command, feedbackOf (clockIdOf connection.descriptor)
    ⟨command, outside.backend, outside.sourceTimeNs⟩⟩, ?_, rfl, rfl, rfl, rfl⟩
  unfold routeCommand
  rw [hroute]
  dsimp only
  rw [hconnect]
  dsimp only
  rw [executeCommand, hanswered, commandStream_of_ok hrun]
  rfl

end Command

/-! ## The invariant -/

/-- A validated command leaves the gateway as `validate_command` does, and its
envelope has everything of the request. -/
theorem validateAndBuild_eq_ok {control next : ControlGateway} {command : TimelineCommand}
    {clock : Clock} {envelope : CommandEnvelope}
    (h : validateAndBuild control command clock = (.ok envelope, next)) :
    ∃ request nowNs, control.Admits request nowNs ∧ BuiltFrom envelope request ∧
      next = (control.expire nowNs).2.record request := by
  unfold validateAndBuild at h
  split at h
  · cases h
  · rename_i commandId _
    split at h
    · cases h
    · rename_i leaseId _
      split at h
      · cases h
      · rename_i nowNs _
        rcases control.validateCommand_cases ⟨commandId, leaseId, command.deviceId,
            command.commandMode, command.actionSchemaId, command.values⟩ nowNs with
          ⟨hadmits, haccepted⟩ | ⟨-, error, hrefused⟩
        · rw [haccepted] at h
          cases h
          exact ⟨_, nowNs, hadmits, ⟨rfl, rfl, rfl, rfl, rfl, rfl⟩, rfl⟩
        · rw [hrefused] at h
          cases h

namespace CommandPath

/-- Every execution and every command that waits is one validation, and the
history has the ids of all validations until it is full. -/
structure Traced (gateway : ControlGateway) (path : CommandPath) : Prop where
  policies : path.service.control.policies = gateway.policies
  history : path.service.control.maxCommandHistory = gateway.maxCommandHistory
  validated : ∀ envelope ∈ path.validated, Validated gateway.policies envelope
  accounted : (path.executed.map (·.command) ++ path.service.waiting).Subperm path.validated
  named : ∀ execution ∈ path.executed, execution.feedback.commandId = execution.command.commandId ∧
    execution.feedback.deviceId = execution.command.deviceId
  recent : ∃ ids : List Uuid, path.validated.map (·.commandId) = ids.map (·.bytes) ∧
    (ids.length ≤ gateway.maxCommandHistory →
      Recent gateway.maxCommandHistory ids path.service.control.commandIds)

variable {gateway : ControlGateway} {path : CommandPath}

/-- Nothing but the leases differs. -/
def OnlyLeases (before after : ControlGateway) : Prop :=
  after = { before with leases := after.leases }

theorem Traced.of_leases (h : Traced gateway path) {service : Service}
    (hwaiting : service.waiting = path.service.waiting)
    (hleases : OnlyLeases path.service.control service.control) :
    Traced gateway { path with service } := by
  refine ⟨?_, ?_, h.validated, ?_, h.named, ?_⟩
  · rw [hleases]
    exact h.policies
  · rw [hleases]
    exact h.history
  · rw [hwaiting]
    exact h.accounted
  · rw [hleases]
    exact h.recent

theorem onlyLeases_acquireLease (control : ControlGateway) (request : AcquireLeaseRequest)
    (clock : Clock) (freshId : Uuid) :
    OnlyLeases control (acquireLease control request clock freshId).2 := by
  rcases acquireLease_control control request clock freshId with
    ⟨_, -, hnext⟩ | ⟨nowNs, devices, ttlNs, -, hnext⟩
  · rw [hnext]
    rfl
  · rw [hnext]
    rcases control.acquire_cases request.clientId devices ttlNs nowNs freshId with
      ⟨error, hrefused⟩ | ⟨lease, hgranted, -⟩
    · rw [hrefused]
      rfl
    · rw [hgranted]
      rfl

theorem onlyLeases_releaseLease (control : ControlGateway) (leaseId : List UInt8) :
    OnlyLeases control (releaseLease control leaseId).2 := by
  rcases releaseLease_control control leaseId with hnext | ⟨id, -, hnext⟩
  · rw [hnext]
    rfl
  · rw [hnext]
    rfl

/-- One more validation. -/
theorem Traced.append (h : Traced gateway path) {request : CommandRequest} {nowNs : UInt64}
    {envelope : CommandEnvelope} (hadmits : path.service.control.Admits request nowNs)
    (hbuilt : BuiltFrom envelope request) :
    Traced gateway { path with
      service := { path.service with
        control := (path.service.control.expire nowNs).2.record request
        waiting := path.service.waiting ++ [envelope] }
      validated := path.validated ++ [envelope] } := by
  obtain ⟨lease, policy, hadmissible⟩ := hadmits
  refine ⟨h.policies, h.history, ?_, ?_, h.named, ?_⟩
  · refine List.forall_mem_append.mpr ⟨h.validated, ?_⟩
    rintro _ (_ | ⟨_, ⟨⟩⟩)
    have hgoverned := hadmissible.governed
    have hadmitted := path.service.control.policies.admitted _ _ hgoverned
    rw [h.policies, ← hbuilt.deviceId] at hgoverned
    exact ⟨policy, request, hgoverned, withinPolicy_of_not_refuses hadmitted hadmissible.fits,
      hbuilt⟩
  · rw [← List.append_assoc]
    exact (List.subperm_append_right [envelope]).mpr h.accounted
  · obtain ⟨ids, hids, hrecent⟩ := h.recent
    refine ⟨ids ++ [request.commandId], by simp [hids, hbuilt.commandId], ?_⟩
    intro hlength
    rw [List.length_append, List.length_singleton] at hlength
    have hbefore := hrecent (by omega)
    have hroom : path.service.control.commandIds.size ≠ gateway.maxCommandHistory := by
      rw [hbefore.size_eq]
      omega
    have hinserted := hbefore.insert_of_room hroom hadmissible.unused
    rw [← h.history] at hroom
    have hmakeRoom : ControlGateway.makeRoom path.service.control.commandIds
        path.service.control.maxCommandHistory = path.service.control.commandIds := if_neg hroom
    show Recent _ _ ((ControlGateway.makeRoom path.service.control.commandIds
      path.service.control.maxCommandHistory).insert request.commandId)
    rw [hmakeRoom]
    exact hinserted

variable {statusText : Abort → String} {routes : CommandRoutes}

theorem Traced.validate (h : Traced gateway path) (command : TimelineCommand) (clock : Clock) :
    Traced gateway (path.step statusText routes (.validate command clock)) := by
  rcases hbuild : validateAndBuild path.service.control command clock with ⟨result, control⟩
  cases result with
  | error status =>
    have hleases : OnlyLeases path.service.control control := by
      rcases validateAndBuild_cases path.service.control command clock with
        ⟨_, hsame⟩ | ⟨_, nowNs, -, hexpired⟩ | ⟨_, _, _, -, -, haccepted, -⟩
      · rw [hbuild] at hsame
        cases hsame
        rfl
      · rw [hbuild] at hexpired
        cases hexpired
        rfl
      · rw [hbuild] at haccepted
        cases haccepted
    have hstep : path.step statusText routes (.validate command clock) = { path with
        service := { path.service with
          control, answers := path.service.answers ++ [.error status] } } := by
      simp [step, Service.step, hbuild, Except.toOption]
    rw [hstep]
    exact h.of_leases rfl hleases
  | ok envelope =>
    obtain ⟨request, nowNs, hadmits, hbuilt, rfl⟩ := validateAndBuild_eq_ok hbuild
    have hstep : path.step statusText routes (.validate command clock) = { path with
        service := { path.service with
          control := (path.service.control.expire nowNs).2.record request
          waiting := path.service.waiting ++ [envelope] }
        validated := path.validated ++ [envelope] } := by
      simp [step, Service.step, hbuild, Except.toOption]
    rw [hstep]
    exact h.append hadmits hbuilt

theorem Traced.route (h : Traced gateway path) (index : Nat) (nowNs : UInt64) (outside : RouterRun)
    (clock : Clock) :
    Traced gateway (path.step statusText routes (.route index nowNs outside clock)) := by
  rw [step]
  cases hwaiting : path.service.waiting[index]? with
  | none => exact h
  | some envelope =>
    obtain ⟨hindex, henvelope⟩ := List.getElem?_eq_some_iff.mp hwaiting
    have hservice : ∀ answer, path.service.step (.route index nowNs answer clock) =
        { path.service with
          waiting := path.service.waiting.eraseIdx index
          answers := path.service.answers ++ [finishCommand answer clock] } := by
      intro answer
      rw [Service.step, if_pos hindex]
    dsimp only
    rw [hservice]
    refine ⟨h.policies, h.history, h.validated, ?_, ?_, h.recent⟩
    · rcases executed_of_routeCommand statusText routes envelope outside with
        hnone | ⟨execution, hone, hcommand, -⟩
      · rw [hnone, List.append_nil]
        refine .trans ?_ h.accounted
        exact (List.subperm_append_left _).mpr (List.eraseIdx_sublist _ _).subperm
      · -- the envelope moves from those that wait to those that were executed
        rw [hone, List.map_append, List.map_singleton, hcommand, List.append_assoc]
        refine .trans (List.Perm.subperm ?_) h.accounted
        refine List.Perm.append_left _ ?_
        rw [← henvelope]
        exact List.getElem_cons_eraseIdx_perm hindex
    · refine List.forall_mem_append.mpr ⟨h.named, ?_⟩
      rcases executed_of_routeCommand statusText routes envelope outside with
        hnone | ⟨execution, hone, hcommand, hid, hdevice⟩
      · simp [hnone]
      · simp [hone, hcommand, hid, hdevice]

/-- The step lemma. -/
theorem Traced.step (path : CommandPath) (action : PathAction) (h : Traced gateway path) :
    Traced gateway (path.step statusText routes action) := by
  cases action with
  | acquireLease request clock freshId =>
    exact h.of_leases rfl (onlyLeases_acquireLease _ request clock freshId)
  | releaseLease leaseId => exact h.of_leases rfl (onlyLeases_releaseLease _ leaseId)
  | validate command clock => exact h.validate command clock
  | route index nowNs outside clock => exact h.route index nowNs outside clock

theorem traced_start {policies : List DeviceCommandPolicy} {minimumTtl maximumTtl : UInt64}
    {history : Nat} (h : ControlGateway.new policies minimumTtl maximumTtl history = .ok gateway) :
    Traced gateway (start gateway) := by
  refine ⟨rfl, rfl, by simp [start], by simp [start], by simp [start], [], rfl, fun _ => ?_⟩
  show Recent _ _ gateway.commandIds
  rw [(leases_new h).2.1]
  exact Recent.empty _

/-! ## Whole interleavings -/

/-- Whatever the clients send and however the links fail, a backend is asked for
validated commands only, with what was validated, and not more often than a
command was validated. As long as the history has not filled up, it is asked at
most once for each command id. -/
theorem executed_within_policy (statusText : Abort → String) (routes : CommandRoutes)
    (policies : List DeviceCommandPolicy) (minimumTtl maximumTtl : UInt64) (history : Nat)
    (gateway : ControlGateway)
    (hnew : ControlGateway.new policies minimumTtl maximumTtl history = .ok gateway)
    (actions : List PathAction) (path : CommandPath)
    (hpath : path = run (step statusText routes) (start gateway) actions) :
    (∀ execution ∈ path.executed, Validated gateway.policies execution.command ∧
      execution.feedback.commandId = execution.command.commandId ∧
      execution.feedback.deviceId = execution.command.deviceId) ∧
    (path.executed.map (·.command)).Subperm path.validated ∧
    (path.validated.length ≤ history →
      (path.executed.map (·.command.commandId)).Nodup) := by
  have h : Traced gateway path := hpath ▸ run_invariant' Traced.step (traced_start hnew) actions
  have hexecuted : (path.executed.map (·.command)).Subperm path.validated :=
    (List.sublist_append_left _ _).subperm.trans h.accounted
  refine ⟨?_, hexecuted, ?_⟩
  · intro execution hexecution
    exact ⟨h.validated _ (hexecuted.subset (List.mem_map_of_mem hexecution)),
      h.named execution hexecution⟩
  · intro hlength
    obtain ⟨ids, hids, hrecent⟩ := h.recent
    rw [(leases_new hnew).2.2] at hrecent
    have hcount : ids.length ≤ history := by
      have hsame := congrArg List.length hids
      rw [List.length_map, List.length_map] at hsame
      omega
    have hnodup := (hrecent hcount).nodup
    rw [rtake_of_length_le hcount] at hnodup
    have hbytes : (path.validated.map (·.commandId)).Nodup := by
      rw [hids]
      exact hnodup.map fun _ _ => Uuid.ext_bytes
    obtain ⟨part, hperm, hpart⟩ := hexecuted
    have hnodupPart := (hpart.map (·.commandId)).nodup hbytes
    rw [(hperm.map (·.commandId)).nodup_iff, List.map_map] at hnodupPart
    exact hnodupPart

/-- The outside when a link works: the adapter is reached, it describes itself
well, and its answer comes back. -/
structure Works (outside : RouterRun) : Prop where
  reached : ∃ descriptor, outside.reached = .ok descriptor ∧
    validateDescriptor descriptor = .ok ()
  answered : outside.delivery = .answered

/-- With an edge that was started, a command that waits for its router call is
not refused any more: it has a route, the client accepts the path, and the
adapter runtime admits it. If the link works, its backend is asked once, and the
answer is the backend's, under the ids of the command. -/
theorem validated_commands_execute (crates : SchemaCrates) (config : ControlConfig)
    (embodiment : EmbodimentConfig) (attempts : AdapterRef → AdapterAttempts) (control : ControlPath)
    (hstart : startControl crates config embodiment attempts = .ok control)
    (statusText : Abort → String) (actions : List PathAction) (path : CommandPath)
    (hpath : path = run (step statusText control.routes) (start control.gateway) actions)
    (envelope : CommandEnvelope) (hwaiting : envelope ∈ path.service.waiting)
    (outside : RouterRun) (hworks : Works outside) :
    ∃ execution, routeCommand statusText control.routes envelope outside =
        (.ok (received execution.feedback), [execution]) ∧ execution.command = envelope ∧
      execution.feedback.commandId = envelope.commandId ∧
      execution.feedback.deviceId = envelope.deviceId ∧
      execution.feedback.status = if outside.backend.isOk then .accepted else .rejected := by
  have hstarted := startControl_eq_ok hstart
  obtain ⟨policies, minimumTtl, maximumTtl, hnew⟩ := hstarted.fresh
  have h : Traced control.gateway path :=
    hpath ▸ run_invariant' Traced.step (traced_start hnew) actions
  have hvalidated : Validated control.gateway.policies envelope :=
    h.validated envelope (h.accounted.subset (List.mem_append_right _ hwaiting))
  obtain ⟨seen, hrun⟩ := admitCommand_of_validated hvalidated hstarted.nonempty
  obtain ⟨policy, request, hpolicy, -⟩ := hvalidated
  obtain ⟨adapter, hrouted⟩ := hstarted.routed _ policy hpolicy
  obtain ⟨descriptor, hreached, hdescriptor⟩ := hworks.reached
  exact routeCommand_of_admitted hrouted.route hrouted.accepted hreached hdescriptor
    hworks.answered hrun

/-! ## A run to evaluate -/

/-- A client leases the arm, and a command is validated. -/
def benchActions : List PathAction :=
  [.acquireLease ⟨"client", ["arm"], 5⟩ (.ok 1) (.ofNat 7),
    .validate ⟨(Uuid.ofNat 9).bytes, (Uuid.ofNat 7).bytes, "arm", "position",
      (benchPath.gateway.policies.indexed["arm"]?.map (·.actionSchemaId)).getD 0,
      [⟨0x3f000000⟩, ⟨0xbf000000⟩], 0⟩ (.ok 2)]

/-- The backend takes the command. -/
def benchRun : RouterRun := ⟨.ok benchDescriptor, .answered, .ok [⟨0x3f000000⟩, ⟨0⟩], 4⟩

/-- The command waits for the router. -/
def benchWaiting : CommandPath :=
  run (step (·.details) benchPath.routes) (start benchPath.gateway) benchActions

/-- The command was routed, but the answer was lost. -/
def benchRouted : CommandPath :=
  run (step (·.details) benchPath.routes) (start benchPath.gateway)
    (benchActions ++ [.route 0 3 { benchRun with delivery := .failed .timeout true } (.ok 3)])

theorem bench_facts :
    benchWaiting.service.waiting.length = 1 ∧
      benchRouted.executed.map (·.command.commandId) = [(Uuid.ofNat 9).bytes] ∧
      benchRouted.validated.length = 1 := by
  decide +kernel

theorem executed_within_policy_benchRouted :
    benchRouted.executed.map (·.command.commandId) = [(Uuid.ofNat 9).bytes] ∧
      (benchRouted.executed.map (·.command.commandId)).Nodup := by
  obtain ⟨policies, minimumTtl, maximumTtl, hnew⟩ := (startControl_eq_ok benchStart_eq).fresh
  refine ⟨bench_facts.2.1, ?_⟩
  refine (executed_within_policy _ benchPath.routes policies minimumTtl maximumTtl _
    benchPath.gateway hnew _ benchRouted rfl).2.2 ?_
  rw [bench_facts.2.2]
  decide

theorem validated_commands_execute_benchWaiting :
    ∃ envelope ∈ benchWaiting.service.waiting, ∃ execution,
      (routeCommand (·.details) benchPath.routes envelope benchRun).2 = [execution] ∧
        execution.feedback.status = .accepted := by
  obtain ⟨envelope, hwaiting⟩ := List.exists_mem_of_length_pos
    (show 0 < benchWaiting.service.waiting.length by rw [bench_facts.1]; decide)
  obtain ⟨execution, hroute, -, -, -, hstatus⟩ := validated_commands_execute _ benchConfig
    benchEmbodiment _ benchPath benchStart_eq (·.details) benchActions benchWaiting rfl envelope
    hwaiting benchRun ⟨⟨benchDescriptor, rfl, by decide +kernel⟩, rfl⟩
  exact ⟨envelope, hwaiting, execution, congrArg Prod.snd hroute, hstatus⟩

end CommandPath

end RobotMulticam.Link
