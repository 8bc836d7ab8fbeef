import RobotMulticam.Edge.Embodiment
import RobotMulticam.Edge.Leases
import RobotMulticam.Edge.Samples
import RobotMulticam.Edge.SessionManifest
import RobotMulticam.Lib.Path

/-!
# Starting the control path

Before the edge serves anything, `initialize_adapters` connects to the adapters
of the embodiment, compiles it against their descriptors and notes, for each
device, the socket that its commands go to. `build_control_gateway` then makes a
policy for each device that an adapter describes with command modes and that
has values in the action vector.

The two tables are made from different sides: the routes from the devices of
the embodiment, the policies from the devices of the descriptors. What ties
them together is the compiler: a device has action values only if the
embodiment lists it. So every device with a policy has a route, to the adapter
that the embodiment names, over a path that the client accepts (`Started`).
-/

namespace RobotMulticam.Edge

open RobotMulticam.Lib
open RobotMulticam.Lib.Text
open RobotMulticam.Protocol
open Std (ExtTreeMap ExtTreeSet)

/-! ## Connecting -/

/-- What can go wrong between the edge and an adapter. -/
inductive LinkFault where
  | transport (text : String)
  | status (text : String)
  | timeout
  deriving DecidableEq

inductive ConnectError where
  | socketPath
  | link (fault : LinkFault)
  | client (error : AdapterClientError)
  deriving DecidableEq

def DescriptorError.text : DescriptorError → String
  | .apiVersion version => "unsupported Adapter API version " ++ toString version.toNat
  | .emptyAdapterId => "adapter instance ID is empty"
  | .emptyClockId => "source clock ID is empty"
  | .duplicateDevice deviceId => "duplicate device ID " ++ deviceId
  | .duplicateFeature featureId => "duplicate feature ID " ++ toString featureId.toNat
  | .zeroFeatureId => "feature ID zero is reserved"

def LinkFault.text : LinkFault → String
  | .transport text => "adapter transport failed: " ++ text
  | .status text => "adapter RPC failed: " ++ text
  | .timeout => "adapter RPC timed out"

def ConnectError.text : ConnectError → String
  | .socketPath => "adapter socket path is not an absolute normalized path"
  | .link fault => fault.text
  | .client (.descriptor error) => "adapter descriptor is invalid: " ++ error.text
  | .client .sample => "adapter sample violates identity, revision, shape, or clock invariants"

/-- `path.is_absolute()` -/
def isAbsolute (path : List Char) : Bool := (components (utf8 path)).head? = some .rootDir

/-- The check in front of a connection. Its timeouts are constants above zero. -/
def socketRefused (path : List Char) : Bool :=
  !isAbsolute path || (components (utf8 path)).any fun component =>
    component = .parentDir || component = .curDir

/-- `AdapterConnection::connect`, with the descriptor that the adapter sends if
it is reached. -/
def connectSocket (socket : List Char) (reached : Except LinkFault AdapterDescriptor) :
    Except ConnectError AdapterConnection :=
  if socketRefused socket then .error .socketPath
  else do
    let descriptor ← reached.mapError .link
    (AdapterConnection.connect descriptor).mapError .client

/-! ## The adapters -/

inductive StartupError where
  | embodimentConflict
  | endpoint
  | instanceMismatch
  | unavailable (error : ConnectError)
  | embodiment (error : EmbodimentError)
  | context (error : ContextError)
  | vectorLength
  | ttl
  | control (error : ControlError)
  | router
  deriving DecidableEq

/-- How an adapter answers: the attempts before the deadline and the one that
comes back after it; and whether the edge can do without it. -/
structure AdapterAttempts where
  required : Bool
  early : List (Except LinkFault AdapterDescriptor)
  last : Except LinkFault AdapterDescriptor

/-- The settings that the control path is made with. -/
structure ControlConfig where
  embodimentId : String
  stateBufferSamples : Nat
  stateMaxGapNs : UInt64
  contextBudgetBytes : Nat
  controlMinTtlMs : UInt64
  controlMaxTtlMs : UInt64
  commandHistory : Nat

/-- `endpoint.strip_prefix("unix://")` -/
def unixSocket (endpoint : String) : Except StartupError (List Char) :=
  if "unix://".toList.isPrefixOf endpoint.toList then .ok (endpoint.toList.drop 7)
  else .error .endpoint

def keepDescriptor (adapter : AdapterRef) (connection : AdapterConnection) :
    Except StartupError (Option AdapterDescriptor) :=
  if connection.descriptor.adapterInstanceId ≠ adapter.adapterInstanceId then
    .error .instanceMismatch
  else .ok (some connection.descriptor)

/-- The loop that waits for an adapter: it tries again as long as the deadline
has not passed. -/
def awaitAdapter (adapter : AdapterRef) (socket : List Char) (required : Bool)
    (last : Except LinkFault AdapterDescriptor) :
    List (Except LinkFault AdapterDescriptor) → Except StartupError (Option AdapterDescriptor)
  | [] =>
    match connectSocket socket last with
    | .ok connection => keepDescriptor adapter connection
    | .error error => if required then .error (.unavailable error) else .ok none
  | attempt :: early =>
    match connectSocket socket attempt with
    | .ok connection => keepDescriptor adapter connection
    | .error _ => awaitAdapter adapter socket required last early

/-- One turn of the loop over the adapters. -/
def describeAdapter (attempts : AdapterRef → AdapterAttempts)
    (descriptors : ExtTreeMap String AdapterDescriptor) (adapter : AdapterRef) :
    Except StartupError (ExtTreeMap String AdapterDescriptor) := do
  let socket ← unixSocket adapter.endpoint
  let found ← awaitAdapter adapter socket (attempts adapter).required (attempts adapter).last
    (attempts adapter).early
  pure (match found with
    | some descriptor => descriptors.insert adapter.adapterInstanceId descriptor
    | none => descriptors)

abbrev CommandRoutes := ExtTreeMap String (List Char)

/-- One turn of the loop that notes the routes: all devices of an adapter that
was described go to its socket. -/
def routeAdapter (devices : List DeviceRef) (descriptors : ExtTreeMap String AdapterDescriptor)
    (routes : CommandRoutes) (adapter : AdapterRef) : Except StartupError CommandRoutes :=
  match descriptors[adapter.adapterInstanceId]? with
  | none => .ok routes
  | some _ => do
    let socket ← unixSocket adapter.endpoint
    let own := devices.filter (·.adapterInstanceId = adapter.adapterInstanceId)
    pure (own.foldl (fun routes device => routes.insert device.deviceId socket) routes)

/-- What `initialize_adapters` returns, without the tasks. -/
structure InitializedAdapters extends AdapterRuntime where
  assembler : ContextAssembler
  commandRoutes : CommandRoutes

def initializeAdapters (crates : SchemaCrates) (config : ControlConfig)
    (embodiment : EmbodimentConfig) (attempts : AdapterRef → AdapterAttempts) :
    Except StartupError InitializedAdapters :=
  if embodiment.embodimentId ≠ config.embodimentId then .error .embodimentConflict
  else do
    let descriptors ← embodiment.adapters.foldlM (describeAdapter attempts) ∅
    let compiled ← (embodiment.compile crates descriptors).mapError .embodiment
    let assembler ← (ContextAssembler.new compiled config.stateBufferSamples config.stateMaxGapNs
      config.contextBudgetBytes).mapError .context
    let commandRoutes ← embodiment.adapters.foldlM
      (routeAdapter embodiment.devices descriptors) ∅
    pure { descriptors, compiled, assembler, commandRoutes }

/-! ## The gateway -/

/-- The lengths of a device's features in the action vector. -/
def actionLengths (features : List CompiledFeature) (deviceId : String) : List Nat :=
  (features.filter fun feature => feature.kind = .action && feature.deviceId = deviceId).map
    fun feature => feature.length.toNat

/-- The `f32` values -3.2 and 3.2. -/
def lowestCommand : F32 := ⟨0xc04ccccd⟩

def highestCommand : F32 := ⟨0x404ccccd⟩

/-- One turn of the loop over the devices of the descriptors. -/
def addPolicy (compiled : CompiledEmbodiment) (policies : List DeviceCommandPolicy)
    (device : DeviceDescriptor) : Except StartupError (List DeviceCommandPolicy) :=
  let vectorLength := (actionLengths compiled.features device.deviceId).sum
  if 2 ^ 64 ≤ vectorLength then .error .vectorLength
  else if vectorLength = 0 ∨ device.commandModes = [] then .ok policies
  else .ok (policies ++ [{
    deviceId := device.deviceId
    actionSchemaId := compiled.actionSchemaId
    vectorLength
    commandModes := ExtTreeSet.ofList device.commandModes
    minimum := List.replicate vectorLength lowestCommand
    maximum := List.replicate vectorLength highestCommand }])

/-- `checked_mul(1_000_000)` -/
def ttlNs (ttlMs : UInt64) : Except StartupError UInt64 :=
  if ttlMs.toNat * 1000000 < 2 ^ 64 then .ok (ttlMs * 1000000) else .error .ttl

def buildControlGateway (config : ControlConfig) (runtime : AdapterRuntime) :
    Except StartupError ControlGateway := do
  let devices := runtime.descriptors.toList.flatMap fun entry => entry.2.devices
  let policies ← devices.foldlM (addPolicy runtime.compiled) []
  let minimumTtlNs ← ttlNs config.controlMinTtlMs
  let maximumTtlNs ← ttlNs config.controlMaxTtlMs
  (ControlGateway.new policies minimumTtlNs maximumTtlNs config.commandHistory).mapError .control

/-- `UnixAdapterRouter::new`; the timeout is a constant above zero. -/
def newRouter (routes : CommandRoutes) : Except StartupError CommandRoutes :=
  if routes.toList.any fun entry => !isAbsolute entry.2 then .error .router else .ok routes

/-- The gateway and the routes that the edge serves commands with. -/
structure ControlPath where
  gateway : ControlGateway
  routes : CommandRoutes

def startControl (crates : SchemaCrates) (config : ControlConfig)
    (embodiment : EmbodimentConfig) (attempts : AdapterRef → AdapterAttempts) :
    Except StartupError ControlPath := do
  let runtime ← initializeAdapters crates config embodiment attempts
  let gateway ← buildControlGateway config runtime.toAdapterRuntime
  let routes ← newRouter runtime.commandRoutes
  pure ⟨gateway, routes⟩

/-! ## What has a policy -/

section Policies

/-- The table has the policies of the list, under their devices. -/
theorem mem_of_indexed {policies : List DeviceCommandPolicy} {table : PolicyTable}
    (h : policies.foldlM PolicyTable.index PolicyTable.empty = .ok table) (device : String)
    (policy : DeviceCommandPolicy) (hpolicy : table.indexed[device]? = some policy) :
    policy ∈ policies ∧ policy.deviceId = device := by
  refine loop_invariant (fun done (table : PolicyTable) => ∀ (device : String)
    (policy : DeviceCommandPolicy), table.indexed[device]? = some policy →
      policy ∈ done ∧ policy.deviceId = device) ?_ ?_ h device policy hpolicy
  · intro done item before after hbefore hafter device policy hpolicy
    unfold PolicyTable.index at hafter
    split at hafter
    · cases hafter
    · split at hafter
      · cases hafter
      · cases hafter
        rw [ExtTreeMap.getElem?_insert] at hpolicy
        split at hpolicy
        · rename_i hsame
          cases hpolicy
          exact ⟨by simp, Std.LawfulEqOrd.eq_of_compare hsame⟩
        · obtain ⟨hmem, hdevice⟩ := hbefore device policy hpolicy
          exact ⟨List.mem_append_left _ hmem, hdevice⟩
  · intro device policy hpolicy
    simp [PolicyTable.empty] at hpolicy

/-- A policy is made for a device that has values in the action vector. -/
theorem mem_of_addPolicy {compiled : CompiledEmbodiment} {devices : List DeviceDescriptor}
    {policies : List DeviceCommandPolicy}
    (h : devices.foldlM (addPolicy compiled) [] = .ok policies) :
    ∀ policy ∈ policies, policy.vectorLength ≠ 0 ∧
      policy.vectorLength = (actionLengths compiled.features policy.deviceId).sum := by
  refine loop_invariant (fun _ policies => ∀ policy ∈ policies, policy.vectorLength ≠ 0 ∧
    policy.vectorLength = (actionLengths compiled.features policy.deviceId).sum)
    ?_ (by simp) h
  intro done device before after hbefore hafter
  unfold addPolicy at hafter
  dsimp only at hafter
  split at hafter
  · cases hafter
  · split at hafter
    · cases hafter
      exact hbefore
    · rename_i hneeded
      cases hafter
      intro policy hpolicy
      rcases List.mem_append.mp hpolicy with hold | hnew
      · exact hbefore policy hold
      · rw [List.mem_singleton.mp hnew]
        exact ⟨fun hzero => hneeded (Or.inl hzero), rfl⟩

theorem buildControlGateway_eq_ok {config : ControlConfig} {runtime : AdapterRuntime}
    {gateway : ControlGateway} (h : buildControlGateway config runtime = .ok gateway) :
    (∃ policies minimumTtlNs maximumTtlNs,
      ControlGateway.new policies minimumTtlNs maximumTtlNs config.commandHistory = .ok gateway) ∧
    ∀ (device : String) (policy : DeviceCommandPolicy),
      gateway.policies.indexed[device]? = some policy → policy.vectorLength ≠ 0 ∧
        ∃ feature ∈ runtime.compiled.features, feature.deviceId = device := by
  obtain ⟨policies, hpolicies, h⟩ := bind_eq_ok.mp h
  obtain ⟨minimumTtlNs, -, h⟩ := bind_eq_ok.mp h
  obtain ⟨maximumTtlNs, -, h⟩ := bind_eq_ok.mp h
  rw [mapError_eq_ok] at h
  refine ⟨⟨policies, minimumTtlNs, maximumTtlNs, h⟩, ?_⟩
  intro device policy hpolicy
  rw [ControlGateway.new] at h
  split at h
  · cases h
  · obtain ⟨table, htable, h⟩ := bind_eq_ok.mp h
    cases h
    obtain ⟨hmem, rfl⟩ := mem_of_indexed htable device policy hpolicy
    obtain ⟨hne, hlength⟩ := mem_of_addPolicy hpolicies policy hmem
    refine ⟨hne, ?_⟩
    rw [hlength] at hne
    -- an empty sum is zero
    have hsome : actionLengths runtime.compiled.features policy.deviceId ≠ [] := by
      intro hnil
      rw [hnil] at hne
      exact hne rfl
    obtain ⟨length, hlengths⟩ := List.exists_mem_of_ne_nil _ hsome
    obtain ⟨feature, hfeature, -⟩ := List.mem_map.mp hlengths
    obtain ⟨hfeature, hown⟩ := List.mem_filter.mp hfeature
    simp only [Bool.and_eq_true, decide_eq_true_eq] at hown
    exact ⟨feature, hfeature, hown.2⟩

end Policies

/-! ## What has a route -/

section Routes

variable {crates : SchemaCrates} {embodiment : EmbodimentConfig}
  {descriptors : ExtTreeMap String AdapterDescriptor}

/-- The features of a vector are features that some device is described with. -/
theorem mem_of_compileVector {kind : VectorKind} {requested : List FeatureRef}
    {available : FeatureTable} {seen : ExtTreeSet String} {output : List CompiledFeature}
    {after : VectorState} (h : compileVector kind requested available seen output = .ok after)
    (houtput : ∀ feature ∈ output, ∃ name, (available.get (feature.deviceId, name)).isSome) :
    ∀ feature ∈ after.output, ∃ name, (available.get (feature.deviceId, name)).isSome := by
  refine loop_invariant (fun _ (state : VectorState) => ∀ feature ∈ state.output,
    ∃ name, (available.get (feature.deviceId, name)).isSome) ?_ houtput h
  intro done reference before next hbefore hnext
  unfold compileFeature at hnext
  split at hnext
  · cases hnext
  · split at hnext
    · cases hnext
    · split at hnext
      · cases hnext
      · rename_i deviceId _ _ descriptor hdescriptor
        split at hnext
        · cases hnext
        · split at hnext
          · cases hnext
          · cases hnext
            intro feature hfeature
            rcases List.mem_append.mp hfeature with hold | hnew
            · exact hbefore feature hold
            · rw [List.mem_singleton.mp hnew]
              exact ⟨reference.feature, by rw [hdescriptor]; rfl⟩

/-- Every compiled feature belongs to a device of the embodiment, and the
adapter of every device is described. -/
theorem devices_of_compile {layout : CompiledEmbodiment}
    (h : embodiment.compile crates descriptors = .ok layout) :
    embodiment.validateStructure = .ok () ∧
      (∀ feature ∈ layout.features, ∃ device ∈ embodiment.devices,
        device.deviceId = feature.deviceId) ∧
      ∀ device ∈ embodiment.devices, ∃ descriptor,
        descriptors[device.adapterInstanceId]? = some descriptor ∧
          ∃ described ∈ descriptor.devices, described.deviceId = device.deviceId := by
  unfold EmbodimentConfig.compile at h
  obtain ⟨_, hstructure, h⟩ := bind_eq_ok.mp h
  obtain ⟨available, htable, h⟩ := bind_eq_ok.mp h
  obtain ⟨observation, hobservation, h⟩ := bind_eq_ok.mp h
  obtain ⟨action, haction, h⟩ := bind_eq_ok.mp h
  obtain ⟨auxiliary, hauxiliary, h⟩ := bind_eq_ok.mp h
  obtain ⟨observationSchemaId, -, h⟩ := bind_eq_ok.mp h
  obtain ⟨actionSchemaId, -, h⟩ := bind_eq_ok.mp h
  cases h
  refine ⟨hstructure, ?_, ?_⟩
  · intro feature hfeature
    have hnamed := mem_of_compileVector hauxiliary (mem_of_compileVector haction
      (mem_of_compileVector hobservation (by simp))) feature hfeature
    obtain ⟨name, hname⟩ := hnamed
    rw [get_of_foldlM_insertFeatures (validateStructure_eq_ok hstructure) htable] at hname
    cases hfound : embodiment.devices.find? (·.deviceId = feature.deviceId) with
    | none =>
      rw [hfound] at hname
      cases hname
    | some device =>
      exact ⟨device, List.mem_of_find?_eq_some hfound, by simpa using List.find?_some hfound⟩
  · refine loop_invariant (fun done (_ : FeatureTable) => ∀ device ∈ done, ∃ descriptor,
      descriptors[device.adapterInstanceId]? = some descriptor ∧
        ∃ described ∈ descriptor.devices, described.deviceId = device.deviceId)
      ?_ (by simp) htable
    intro done last before after hbefore hafter device hdevice
    rcases List.mem_append.mp hdevice with hold | hnew
    · exact hbefore device hold
    · obtain rfl := List.mem_singleton.mp hnew
      unfold insertFeatures at hafter
      split at hafter
      · cases hafter
      · rename_i descriptor hdescriptor
        split at hafter
        · cases hafter
        · rename_i described hdescribed
          exact ⟨descriptor, hdescriptor, described, List.mem_of_find?_eq_some hdescribed,
            by simpa using List.find?_some hdescribed⟩

/-- The adapters of a valid embodiment: ids of their own, absolute endpoints. -/
structure AdaptersValid (embodiment : EmbodimentConfig) : Prop where
  ids : (embodiment.adapters.map (·.adapterInstanceId)).Nodup
  endpoint : ∀ adapter ∈ embodiment.adapters, (socketPath adapter.endpoint).head? = some '/' ∧
    ¬ ['.', '.'] <:+: socketPath adapter.endpoint
  named : ∀ device ∈ embodiment.devices, ∃ adapter ∈ embodiment.adapters,
    adapter.adapterInstanceId = device.adapterInstanceId

theorem adaptersValid_of_validateStructure (h : embodiment.validateStructure = .ok ()) :
    AdaptersValid embodiment := by
  unfold EmbodimentConfig.validateStructure at h
  split at h
  · cases h
  split at h
  · cases h
  obtain ⟨adapters, hadapters, h⟩ := bind_eq_ok.mp h
  obtain ⟨devices, hdevices, -⟩ := bind_eq_ok.mp h
  have hchecked : Holds adapters (embodiment.adapters.map (·.adapterInstanceId)) ∧
      ∀ adapter ∈ embodiment.adapters, (socketPath adapter.endpoint).head? = some '/' ∧
        ¬ ['.', '.'] <:+: socketPath adapter.endpoint := by
    refine loop_invariant (fun done (seen : ExtTreeSet String) =>
      Holds seen (done.map (·.adapterInstanceId)) ∧
      ∀ adapter ∈ done, (socketPath adapter.endpoint).head? = some '/' ∧
        ¬ ['.', '.'] <:+: socketPath adapter.endpoint) ?_ ?_ hadapters
    rotate_left
    · exact ⟨.empty, by simp⟩
    rintro done adapter before after ⟨hholds, hendpoints⟩ hafter
    unfold checkAdapter at hafter
    dsimp only at hafter
    split at hafter
    · cases hafter
    · rename_i hnew
      split at hafter
      · cases hafter
      · rename_i hendpoint
        cases hafter
        simp only [Bool.or_eq_true, not_or, Bool.not_eq_true] at hnew
        rw [not_or, not_not] at hendpoint
        refine ⟨?_, ?_⟩
        · simpa using hholds.insert (hholds.contains_eq_false.mp hnew.2)
        · exact List.forall_mem_append.mpr ⟨hendpoints, by simpa using hendpoint⟩
  refine ⟨hchecked.1.nodup, hchecked.2, ?_⟩
  have hnamed : ∀ device ∈ embodiment.devices, device.adapterInstanceId ∈ adapters := by
    refine loop_invariant (fun done (_ : ExtTreeSet String) => ∀ device ∈ done,
      device.adapterInstanceId ∈ adapters) ?_ (by simp) hdevices
    intro done device before after hbefore hafter
    unfold checkDevice at hafter
    split at hafter
    · cases hafter
    · split at hafter
      · cases hafter
      · rename_i hknown
        refine List.forall_mem_append.mpr ⟨hbefore, ?_⟩
        simpa [ExtTreeSet.contains_iff_mem] using hknown
  intro device hdevice
  exact List.mem_map.mp ((hchecked.1.mem_iff _).mp (hnamed device hdevice))

/-- The socket of an endpoint that was accepted. -/
theorem unixSocket_of_head {endpoint : String} (h : (socketPath endpoint).head? = some '/') :
    unixSocket endpoint = .ok (socketPath endpoint) := by
  unfold socketPath at h ⊢
  unfold unixSocket
  split at h
  · rename_i hunix
    rw [if_pos hunix, if_pos hunix]
  · cases h

/-- The client takes the path of every such socket. -/
theorem not_socketRefused {socket : List Char} (hroot : socket.head? = some '/')
    (hdots : ¬ ['.', '.'] <:+: socket) : socketRefused socket = false ∧ isAbsolute socket = true := by
  have hbytes : (utf8 socket).head? = some 0x2f := by
    cases socket with
    | nil => cases hroot
    | cons char socket =>
      obtain rfl := Option.some.inj hroot
      rfl
  have hnone : ¬ [0x2e, 0x2e] <:+: utf8 socket := by
    intro h
    have hascii := ascii_isInfix (by simp) h
    exact hdots hascii
  obtain ⟨habsolute, hcomponents⟩ := components_of_absolute hbytes hnone
  have hsocket : isAbsolute socket = true := by simp [isAbsolute, habsolute]
  refine ⟨?_, hsocket⟩
  rw [socketRefused, hsocket, Bool.not_true, Bool.false_or, List.any_eq_false]
  intro component hcomponent
  simp [hcomponents component hcomponent]

theorem getElem?_insertAll {devices : List DeviceRef} {socket : List Char} (routes : CommandRoutes)
    (id : String) :
    (devices.foldl (fun routes device => routes.insert device.deviceId socket) routes)[id]? =
      if id ∈ devices.map (·.deviceId) then some socket else routes[id]? := by
  induction devices generalizing routes with
  | nil => simp
  | cons device devices ih =>
    rw [List.foldl_cons, ih, ExtTreeMap.getElem?_insert]
    simp only [Std.LawfulEqCmp.compare_eq_iff_eq, List.map_cons, List.mem_cons]
    by_cases hlater : id ∈ devices.map (·.deviceId)
    · simp [hlater]
    · by_cases hsame : device.deviceId = id
      · simp [hsame]
      · simp [hlater, hsame, Ne.symm hsame]

/-- Every device whose adapter was described is routed to it. -/
theorem routes_of_routeAdapter {routes : CommandRoutes} (hvalid : AdaptersValid embodiment)
    (hdevices : (embodiment.devices.map (·.deviceId)).Nodup)
    (h : embodiment.adapters.foldlM (routeAdapter embodiment.devices descriptors) ∅ = .ok routes) :
    ∀ adapter ∈ embodiment.adapters, adapter.adapterInstanceId ∈ descriptors →
      ∀ device ∈ embodiment.devices, device.adapterInstanceId = adapter.adapterInstanceId →
        routes[device.deviceId]? = some (socketPath adapter.endpoint) := by
  refine loop_invariant (fun done (routes : CommandRoutes) =>
    (done.map (·.adapterInstanceId)).Nodup →
    (∀ adapter ∈ done, (socketPath adapter.endpoint).head? = some '/') →
    ∀ adapter ∈ done, adapter.adapterInstanceId ∈ descriptors →
      ∀ device ∈ embodiment.devices, device.adapterInstanceId = adapter.adapterInstanceId →
        routes[device.deviceId]? = some (socketPath adapter.endpoint)) ?_ (by simp) h hvalid.ids
    (fun adapter hadapter => (hvalid.endpoint adapter hadapter).1)
  intro done last before after hbefore hafter hids hroots adapter hadapter hdescribed device hdevice
    hown
  rw [List.map_append, List.map_singleton] at hids
  have hkept := hbefore hids.of_append_left fun adapter hadapter =>
    hroots adapter (List.mem_append_left _ hadapter)
  unfold routeAdapter at hafter
  rcases List.mem_append.mp hadapter with hold | hnew
  · -- the device of an earlier adapter is not one of the last adapter
    have hother : device.adapterInstanceId ≠ last.adapterInstanceId := by
      intro hsame
      exact not_mem_of_nodup hids (List.mem_map.mpr ⟨adapter, hold, hown.symm.trans hsame⟩)
    have hroute := hkept adapter hold hdescribed device hdevice hown
    split at hafter
    · cases hafter
      exact hroute
    · obtain ⟨socket, -, hafter⟩ := bind_eq_ok.mp hafter
      cases hafter
      rw [getElem?_insertAll, if_neg, hroute]
      intro hmem
      obtain ⟨other, hfiltered, hid⟩ := List.mem_map.mp hmem
      obtain ⟨hlisted, hlast⟩ := List.mem_filter.mp hfiltered
      have hsame := List.inj_on_of_nodup_map hdevices hlisted hdevice hid
      exact hother (by simpa [hsame] using hlast)
  · obtain rfl := List.mem_singleton.mp hnew
    split at hafter
    · rename_i hnone
      rw [ExtTreeMap.mem_iff_isSome_getElem?, hnone] at hdescribed
      cases hdescribed
    · obtain ⟨socket, hsocket, hafter⟩ := bind_eq_ok.mp hafter
      rw [unixSocket_of_head (hroots adapter hadapter)] at hsocket
      cases hsocket
      cases hafter
      rw [getElem?_insertAll, if_pos]
      exact List.mem_map.mpr ⟨device, List.mem_filter.mpr ⟨hdevice, by simpa using hown⟩, rfl⟩

end Routes

/-! ## The control path -/

/-- Where the commands of a device go. -/
structure Routed (embodiment : EmbodimentConfig) (path : ControlPath) (deviceId : String)
    (adapter : AdapterRef) : Prop where
  listed : adapter ∈ embodiment.adapters
  named : ∃ device ∈ embodiment.devices,
    device.deviceId = deviceId ∧ device.adapterInstanceId = adapter.adapterInstanceId
  route : path.routes[deviceId]? = some (socketPath adapter.endpoint)
  accepted : socketRefused (socketPath adapter.endpoint) = false

/-- What a start makes sure of: the gateway is new, and every device that it has
a policy for takes values and has a route to the adapter that the embodiment
names for it. -/
structure Started (config : ControlConfig) (embodiment : EmbodimentConfig) (path : ControlPath) :
    Prop where
  fresh : ∃ policies minimumTtlNs maximumTtlNs,
    ControlGateway.new policies minimumTtlNs maximumTtlNs config.commandHistory = .ok path.gateway
  nonempty : ∀ (device : String) (policy : DeviceCommandPolicy),
    path.gateway.policies.indexed[device]? = some policy → policy.vectorLength ≠ 0
  routed : ∀ (device : String) (policy : DeviceCommandPolicy),
    path.gateway.policies.indexed[device]? = some policy →
      ∃ adapter, Routed embodiment path device adapter

variable {socket : List Char} {crates : SchemaCrates} {config : ControlConfig}

theorem connectSocket_eq_ok {reached : Except LinkFault AdapterDescriptor}
    {connection : AdapterConnection} (h : connectSocket socket reached = .ok connection) :
    AdapterConnection.connect connection.descriptor = .ok connection := by
  unfold connectSocket at h
  split at h
  · cases h
  · obtain ⟨descriptor, -, h⟩ := bind_eq_ok.mp h
    have hconnect := mapError_eq_ok.mp h
    rwa [(connect_eq_ok hconnect).1.descriptor_eq]

/-- The descriptor that is waited for comes over a connection. -/
theorem awaitAdapter_eq_ok {adapter : AdapterRef} {required : Bool}
    {last : Except LinkFault AdapterDescriptor} {early : List (Except LinkFault AdapterDescriptor)}
    {descriptor : AdapterDescriptor}
    (h : awaitAdapter adapter socket required last early = .ok (some descriptor)) :
    ∃ connection, AdapterConnection.connect descriptor = .ok connection := by
  have hkept : ∀ {attempt connection}, connectSocket socket attempt = .ok connection →
      keepDescriptor adapter connection = .ok (some descriptor) →
      ∃ connection, AdapterConnection.connect descriptor = .ok connection := by
    intro attempt connection hconnection hkeep
    unfold keepDescriptor at hkeep
    split at hkeep
    · cases hkeep
    · cases hkeep
      exact ⟨connection, connectSocket_eq_ok hconnection⟩
  induction early with
  | nil =>
    unfold awaitAdapter at h
    split at h
    · rename_i connection hconnection
      exact hkept hconnection h
    · split at h <;> cases h
  | cons attempt early ih =>
    unfold awaitAdapter at h
    split at h
    · rename_i connection hconnection
      exact hkept hconnection h
    · exact ih h

/-- What is made from the descriptors of the adapters. -/
structure Initialized (crates : SchemaCrates) (config : ControlConfig)
    (embodiment : EmbodimentConfig) (runtime : InitializedAdapters) : Prop where
  described : ∀ (id : String) (descriptor : AdapterDescriptor),
    runtime.descriptors[id]? = some descriptor →
      ∃ connection, AdapterConnection.connect descriptor = .ok connection
  compiles : embodiment.compile crates runtime.descriptors = .ok runtime.compiled
  assembles : ContextAssembler.new runtime.compiled config.stateBufferSamples config.stateMaxGapNs
    config.contextBudgetBytes = .ok runtime.assembler
  routes : embodiment.adapters.foldlM (routeAdapter embodiment.devices runtime.descriptors) ∅ =
    .ok runtime.commandRoutes

variable {embodiment : EmbodimentConfig} {attempts : AdapterRef → AdapterAttempts}

theorem initializeAdapters_eq_ok {runtime : InitializedAdapters}
    (h : initializeAdapters crates config embodiment attempts = .ok runtime) :
    Initialized crates config embodiment runtime := by
  unfold initializeAdapters at h
  split at h
  · cases h
  obtain ⟨descriptors, hdescriptors, h⟩ := bind_eq_ok.mp h
  obtain ⟨compiled, hcompiled, h⟩ := bind_eq_ok.mp h
  obtain ⟨assembler, hassembler, h⟩ := bind_eq_ok.mp h
  obtain ⟨commandRoutes, hcommandRoutes, h⟩ := bind_eq_ok.mp h
  cases h
  refine ⟨?_, mapError_eq_ok.mp hcompiled, mapError_eq_ok.mp hassembler, hcommandRoutes⟩
  refine loop_invariant (fun _ (described : ExtTreeMap String AdapterDescriptor) =>
    ∀ (id : String) (descriptor : AdapterDescriptor), described[id]? = some descriptor →
      ∃ connection, AdapterConnection.connect descriptor = .ok connection) ?_ (by simp)
    hdescriptors
  intro done adapter before after hbefore hafter id descriptor hdescriptor
  obtain ⟨socket, -, hafter⟩ := bind_eq_ok.mp hafter
  obtain ⟨found, hfound, hafter⟩ := bind_eq_ok.mp hafter
  cases found with
  | none =>
    cases hafter
    exact hbefore id descriptor hdescriptor
  | some described =>
    cases hafter
    rw [ExtTreeMap.getElem?_insert] at hdescriptor
    split at hdescriptor
    · cases hdescriptor
      exact awaitAdapter_eq_ok hfound
    · exact hbefore id descriptor hdescriptor

theorem startControl_eq_ok {path : ControlPath}
    (h : startControl crates config embodiment attempts = .ok path) :
    Started config embodiment path := by
  obtain ⟨runtime, hruntime, h⟩ := bind_eq_ok.mp h
  obtain ⟨gateway, hgateway, h⟩ := bind_eq_ok.mp h
  obtain ⟨routes, hrouter, h⟩ := bind_eq_ok.mp h
  cases h
  have hroutes : routes = runtime.commandRoutes := by
    unfold newRouter at hrouter
    split at hrouter
    · cases hrouter
    · exact (Except.ok.inj hrouter).symm
  obtain ⟨-, hcompiled, -, hcommandRoutes⟩ := initializeAdapters_eq_ok hruntime
  obtain ⟨hstructure, hfeatures, hdescribed⟩ := devices_of_compile hcompiled
  have hvalid := adaptersValid_of_validateStructure hstructure
  obtain ⟨hfresh, hpolicies⟩ := buildControlGateway_eq_ok hgateway
  refine ⟨hfresh, fun device policy hpolicy => (hpolicies device policy hpolicy).1, ?_⟩
  intro deviceId policy hpolicy
  obtain ⟨-, feature, hfeature, hown⟩ := hpolicies deviceId policy hpolicy
  obtain ⟨device, hdevice, hid⟩ := hfeatures feature hfeature
  obtain ⟨adapter, hadapter, hnamed⟩ := hvalid.named device hdevice
  obtain ⟨descriptor, hdescriptor, -⟩ := hdescribed device hdevice
  have hmem : adapter.adapterInstanceId ∈ runtime.descriptors := by
    rw [hnamed, ExtTreeMap.mem_iff_isSome_getElem?, hdescriptor]
    rfl
  have hroute := routes_of_routeAdapter hvalid (validateStructure_eq_ok hstructure) hcommandRoutes
    adapter hadapter hmem device hdevice hnamed.symm
  obtain ⟨hroot, hdots⟩ := hvalid.endpoint adapter hadapter
  rw [hid, hown] at hroute
  exact ⟨adapter, hadapter, ⟨device, hdevice, hid.trans hown, hnamed.symm⟩, hroutes ▸ hroute,
    (not_socketRefused hroot hdots).1⟩

/-- An arm with two joints, behind one adapter. -/
def benchEmbodiment : EmbodimentConfig where
  schemaVersion := 1
  embodimentId := "bench"
  adapters := [⟨"arm-adapter", "unix:///run/arm.sock"⟩]
  devices := [⟨"arm", "arm-adapter"⟩]
  vectorLayout := ⟨[⟨"arm.position", true⟩], [⟨"arm.target", true⟩], []⟩

def benchDescriptor : AdapterDescriptor where
  apiVersion := 1
  adapterInstanceId := "arm-adapter"
  sourceClock := some { sourceClockId := "edge" }
  devices := [{
    deviceId := "arm"
    features := [{ featureId := 1, qualifiedName := "arm.position", shape := [2] },
      { featureId := 2, qualifiedName := "arm.target", shape := [2] }]
    commandModes := ["position"] }]
  descriptorRevision := 1

def benchConfig : ControlConfig := ⟨"bench", 8, 1000, 2048, 1, 1000, 8⟩

/-- The adapter is there at the second attempt. -/
def benchStart : Except StartupError ControlPath :=
  startControl namesAndPlaces benchConfig benchEmbodiment
    fun _ => ⟨true, [.error .timeout], .ok benchDescriptor⟩

def benchPath : ControlPath := benchStart.toOption.get (by decide +kernel)

theorem benchStart_eq : benchStart = .ok benchPath := eq_ok_of_isSome _

end RobotMulticam.Edge
