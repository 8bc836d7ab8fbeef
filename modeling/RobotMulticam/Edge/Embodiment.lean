import RobotMulticam.Edge.Adapters
import RobotMulticam.Edge.Context
import RobotMulticam.Lib.Intervals
import RobotMulticam.Lib.Loop
import RobotMulticam.Lib.Pointwise
import RobotMulticam.Lib.Sha256
import RobotMulticam.Lib.Text

/-!
# Compiling an embodiment

An embodiment names the adapters and devices of a robot and lists, for each
kind of vector, the features it is made of. `compile` looks the features up
in the adapters' descriptors and gives each its place: the features of a kind
follow each other from offset zero.

The compiler refuses repeated names, unknown features and lengths beyond 32
bits. It takes feature ids and shapes as the descriptors have them.
-/

namespace RobotMulticam.Edge

open RobotMulticam.Lib
open RobotMulticam.Protocol
open Std (ExtTreeMap ExtTreeSet)

structure AdapterRef where
  adapterInstanceId : String
  endpoint : String
  deriving DecidableEq

structure DeviceRef where
  deviceId : String
  adapterInstanceId : String
  deriving DecidableEq

structure FeatureRef where
  feature : String
  required : Bool
  deriving DecidableEq

structure VectorLayout where
  observation : List FeatureRef
  action : List FeatureRef
  auxiliary : List FeatureRef := []
  deriving DecidableEq

structure EmbodimentConfig where
  schemaVersion : UInt32
  embodimentId : String
  adapters : List AdapterRef
  devices : List DeviceRef
  vectorLayout : VectorLayout
  deriving DecidableEq

inductive EmbodimentError where
  | schemaVersion (version : UInt32)
  | identifier (id : String)
  | endpoint (endpoint : String)
  | missingAdapter (adapterId : String)
  | missingDevice (adapter device : String)
  | feature (name : String)
  | lengthOverflow
  | zeroSchemaId
  | canonicalJson (error : String)
  deriving DecidableEq, Repr

/-! ## The structure -/

/-- `endpoint.strip_prefix("unix://").unwrap_or("")` -/
def socketPath (endpoint : String) : List Char :=
  if "unix://".toList.isPrefixOf endpoint.toList then endpoint.toList.drop 7 else []

/-- One turn of the loop over the adapters. -/
def checkAdapter (adapters : ExtTreeSet String) (adapter : AdapterRef) :
    Except EmbodimentError (ExtTreeSet String) :=
  let endpoint := socketPath adapter.endpoint
  if adapter.adapterInstanceId.isEmpty || adapters.contains adapter.adapterInstanceId then
    .error (.identifier adapter.adapterInstanceId)
  else if endpoint.head? ≠ some '/' ∨ ['.', '.'] <:+: endpoint then
    .error (.endpoint adapter.endpoint)
  else .ok (adapters.insert adapter.adapterInstanceId)

/-- One turn of the loop over the devices. -/
def checkDevice (adapters : ExtTreeSet String) (devices : ExtTreeSet String)
    (device : DeviceRef) : Except EmbodimentError (ExtTreeSet String) :=
  if device.deviceId.isEmpty || devices.contains device.deviceId then
    .error (.identifier device.deviceId)
  else if !adapters.contains device.adapterInstanceId then
    .error (.missingAdapter device.adapterInstanceId)
  else .ok (devices.insert device.deviceId)

def EmbodimentConfig.validateStructure (self : EmbodimentConfig) : Except EmbodimentError Unit :=
  if self.schemaVersion ≠ 1 then .error (.schemaVersion self.schemaVersion)
  else if self.embodimentId.isEmpty ∨ 64 < self.embodimentId.utf8ByteSize then
    .error (.identifier self.embodimentId)
  else do
    let adapters ← self.adapters.foldlM checkAdapter ∅
    let _ ← self.devices.foldlM (checkDevice adapters) ∅
    .ok ()

/-! ## The vectors -/

/-- The available features by device and name, in the order of their
insertion: of two with one key, the later counts. -/
abbrev FeatureTable := List ((String × String) × FeatureDescriptor)

def FeatureTable.get (self : FeatureTable) (key : String × String) : Option FeatureDescriptor :=
  (self.reverse.find? (·.1 = key)).map Prod.snd

/-- One turn of the loop that collects the features of the devices. -/
def insertFeatures (descriptors : ExtTreeMap String AdapterDescriptor) (table : FeatureTable)
    (device : DeviceRef) : Except EmbodimentError FeatureTable :=
  match descriptors[device.adapterInstanceId]? with
  | none => .error (.missingAdapter device.adapterInstanceId)
  | some descriptor =>
    match descriptor.devices.find? (·.deviceId = device.deviceId) with
    | none => .error (.missingDevice device.adapterInstanceId device.deviceId)
    | some described => .ok (table ++ described.features.map fun feature =>
      ((device.deviceId, feature.qualifiedName), feature))

/-- `u32::checked_mul`. -/
def checkedMul32 (left right : UInt32) : Option UInt32 :=
  if left.toNat * right.toNat < 2 ^ 32 then some (left * right) else none

/-- The number of values of a shape; an empty shape is a single value. -/
def shapeLength (shape : List UInt32) : Option UInt32 :=
  if shape.isEmpty then some 1 else shape.foldlM checkedMul32 1

/-- The device a feature name begins with, if there is a dot behind it. -/
def devicePart (feature : String) : Option String :=
  if '.' ∈ feature.toList then some (String.ofList (feature.toList.takeWhile (· ≠ '.')))
  else none

/-- The local variables of `compile_vector`, and what it is given to change. -/
structure VectorState where
  seen : ExtTreeSet String
  output : List CompiledFeature
  offset : UInt32

/-- One turn of the loop over the requested features. -/
def compileFeature (kind : VectorKind) (available : FeatureTable) (state : VectorState)
    (reference : FeatureRef) : Except EmbodimentError VectorState :=
  -- names are compared across the three vectors; feature ids are not compared
  if state.seen.contains reference.feature then .error (.feature reference.feature)
  else match devicePart reference.feature with
  | none => .error (.feature reference.feature)
  | some deviceId =>
    match available.get (deviceId, reference.feature) with
    | none => .error (.feature reference.feature)
    | some descriptor =>
      match shapeLength descriptor.shape with
      | none => .error .lengthOverflow
      | some length =>
        if 2 ^ 32 ≤ state.offset.toNat + length.toNat then .error .lengthOverflow
        else .ok {
          seen := state.seen.insert reference.feature
          output := state.output ++ [{
            featureId := descriptor.featureId
            qualifiedName := descriptor.qualifiedName
            deviceId
            kind
            offset := state.offset
            length
            shape := descriptor.shape
            required := reference.required
            interpolation := descriptor.interpolation
            unit := descriptor.unit }]
          offset := state.offset + length }

/-- `compile_vector` returns the length of the vector. -/
def compileVector (kind : VectorKind) (requested : List FeatureRef) (available : FeatureTable)
    (seen : ExtTreeSet String) (output : List CompiledFeature) :
    Except EmbodimentError VectorState :=
  requested.foldlM (compileFeature kind available) ⟨seen, output, 0⟩

/-- `serde_jcs::to_vec` of a list of compiled features, and `Sha256::digest`. -/
structure SchemaCrates where
  toVec : List CompiledFeature → Except String (List UInt8)
  sha256 : List UInt8 → Vector UInt8 32

def schemaId (crates : SchemaCrates) (features : List CompiledFeature) :
    Except EmbodimentError UInt64 :=
  match crates.toVec features with
  | .error error => .error (.canonicalJson error)
  | .ok canonical =>
    let id := UInt64.ofNat (((crates.sha256 canonical).toList.take 8).foldl
      (fun value byte => 256 * value + byte.toNat) 0)
    if id = 0 then .error .zeroSchemaId else .ok id

def EmbodimentConfig.compile (crates : SchemaCrates) (self : EmbodimentConfig)
    (descriptors : ExtTreeMap String AdapterDescriptor) :
    Except EmbodimentError CompiledEmbodiment := do
  self.validateStructure
  let available ← self.devices.foldlM (insertFeatures descriptors) []
  let observation ← compileVector .observation self.vectorLayout.observation available ∅ []
  let action ← compileVector .action self.vectorLayout.action available observation.seen
    observation.output
  let auxiliary ← compileVector .auxiliary self.vectorLayout.auxiliary available action.seen
    action.output
  let observationSchemaId ← schemaId crates
    (auxiliary.output.filter (·.kind = .observation))
  let actionSchemaId ← schemaId crates (auxiliary.output.filter (·.kind = .action))
  .ok {
    embodimentId := self.embodimentId
    observationSchemaId
    actionSchemaId
    observationLength := observation.offset
    actionLength := action.offset
    auxiliaryLength := auxiliary.offset
    features := auxiliary.output }

/-! ## What is selected -/

/-- The requested features, vector by vector. -/
def EmbodimentConfig.references (config : EmbodimentConfig) : List FeatureRef :=
  config.vectorLayout.observation ++ config.vectorLayout.action ++ config.vectorLayout.auxiliary

/-- The last feature of a name that a device is described with. -/
def describedBy (descriptors : ExtTreeMap String AdapterDescriptor) (name : String)
    (device : DeviceRef) : Option FeatureDescriptor := do
  let descriptor ← descriptors[device.adapterInstanceId]?
  let described ← descriptor.devices.find? (·.deviceId = device.deviceId)
  described.features.reverse.find? (·.qualifiedName = name)

/-- The feature a name stands for: the device is the one the name begins
with. -/
def EmbodimentConfig.describedFeature (config : EmbodimentConfig)
    (descriptors : ExtTreeMap String AdapterDescriptor) (name : String) :
    Option FeatureDescriptor := do
  let deviceId ← devicePart name
  let device ← config.devices.find? (·.deviceId = deviceId)
  describedBy descriptors name device

/-- The features the embodiment asks for, as the adapters describe them. -/
def EmbodimentConfig.selected (config : EmbodimentConfig)
    (descriptors : ExtTreeMap String AdapterDescriptor) : List FeatureDescriptor :=
  config.references.filterMap fun reference => config.describedFeature descriptors reference.feature

section Selected

variable {config : EmbodimentConfig} {descriptors : ExtTreeMap String AdapterDescriptor}
  {name : String} {feature : FeatureDescriptor}

theorem describedBy_eq_some {device : DeviceRef}
    (h : describedBy descriptors name device = some feature) :
    feature.qualifiedName = name ∧ ∃ descriptor : AdapterDescriptor,
      descriptors[device.adapterInstanceId]? = some descriptor ∧
        feature ∈ descriptor.features := by
  unfold describedBy at h
  simp only [Option.bind_eq_bind, Option.bind_eq_some_iff] at h
  obtain ⟨descriptor, hdescriptor, described, hdescribed, h⟩ := h
  refine ⟨by simpa using List.find?_some h, descriptor, hdescriptor, ?_⟩
  refine List.mem_flatMap.mpr ⟨described, List.mem_of_find?_eq_some hdescribed, ?_⟩
  exact List.mem_reverse.mp (List.mem_of_find?_eq_some h)

theorem devicePart_ne_empty {deviceId : String} (h : devicePart name = some deviceId) :
    name ≠ "" := by
  rintro rfl
  simp [devicePart] at h

/-- A feature is described under its own name, by some adapter. -/
theorem describedFeature_eq_some
    (h : config.describedFeature descriptors name = some feature) :
    feature.qualifiedName = name ∧ name ≠ "" ∧ ∃ (id : String) (descriptor : AdapterDescriptor),
      descriptors[id]? = some descriptor ∧ feature ∈ descriptor.features := by
  unfold EmbodimentConfig.describedFeature at h
  simp only [Option.bind_eq_bind, Option.bind_eq_some_iff] at h
  obtain ⟨deviceId, hpart, device, _, hdescribed⟩ := h
  obtain ⟨hname, descriptor, hdescriptor, hmem⟩ := describedBy_eq_some hdescribed
  exact ⟨hname, devicePart_ne_empty hpart, _, descriptor, hdescriptor, hmem⟩

theorem of_mem_selected (h : feature ∈ config.selected descriptors) :
    feature.qualifiedName ≠ "" ∧ ∃ (id : String) (descriptor : AdapterDescriptor),
      descriptors[id]? = some descriptor ∧ feature ∈ descriptor.features := by
  obtain ⟨reference, _, hfeature⟩ := List.mem_filterMap.mp h
  obtain ⟨hname, hnonempty, hadapter⟩ := describedFeature_eq_some hfeature
  exact ⟨hname ▸ hnonempty, hadapter⟩

/-- References that all stand for a feature select these features, which have
the names asked for. -/
theorem selected_of_forall₂ {references : List FeatureRef} {features : List FeatureDescriptor}
    (h : List.Forall₂ (fun reference feature =>
      config.describedFeature descriptors reference.feature = some feature)
      references features) :
    references.filterMap (fun reference =>
        config.describedFeature descriptors reference.feature) = features ∧
      features.map (·.qualifiedName) = references.map (·.feature) := by
  refine ⟨?_, map_eq_of_forall₂ h fun _ _ hfeature => (describedFeature_eq_some hfeature).1⟩
  induction h with
  | nil => rfl
  | cons hfeature _ ih => simp [hfeature, ih]

end Selected

/-! ## The table of features -/

theorem FeatureTable.get_append (earlier later : FeatureTable) (key : String × String) :
    FeatureTable.get (earlier ++ later) key = (later.get key).or (earlier.get key) := by
  unfold FeatureTable.get
  rw [List.reverse_append, List.find?_append, Option.map_or]

/-- The features of one device, under its id. -/
theorem FeatureTable.get_map (deviceId : String) (features : List FeatureDescriptor)
    (key : String × String) :
    FeatureTable.get (features.map fun feature => ((deviceId, feature.qualifiedName), feature))
        key =
      if key.1 = deviceId then features.reverse.find? (·.qualifiedName = key.2) else none := by
  unfold FeatureTable.get
  rw [← List.map_reverse, List.find?_map, Option.map_map]
  split
  · rename_i hkey
    have hsame : ((fun entry : (String × String) × FeatureDescriptor => decide (entry.1 = key)) ∘
        fun feature => ((deviceId, feature.qualifiedName), feature)) =
        fun feature => decide (feature.qualifiedName = key.2) := by
      funext feature
      simp [Prod.ext_iff, hkey]
    rw [hsame]
    exact Option.map_id_apply
  · rename_i hkey
    rw [Option.map_eq_none_iff, List.find?_eq_none]
    intro feature _ heq
    simp only [Function.comp_apply, decide_eq_true_eq] at heq
    exact hkey (by rw [← heq])

variable {descriptors : ExtTreeMap String AdapterDescriptor} {config : EmbodimentConfig}
  {layout : CompiledEmbodiment} {device : DeviceRef} {shape : List UInt32} {length : UInt32}

theorem insertFeatures_eq_ok {before after : FeatureTable}
    (h : insertFeatures descriptors before device = .ok after) (deviceId name : String) :
    after.get (deviceId, name) =
      (if deviceId = device.deviceId then describedBy descriptors name device else none).or
        (before.get (deviceId, name)) := by
  unfold insertFeatures at h
  split at h
  · cases h
  · rename_i descriptor hdescriptor
    split at h
    · cases h
    · rename_i described hdescribed
      cases h
      rw [FeatureTable.get_append, FeatureTable.get_map]
      simp [describedBy, hdescriptor, hdescribed]

/-- The table the loop collects answers like the descriptors. -/
theorem get_of_foldlM_insertFeatures {devices : List DeviceRef}
    (hdistinct : (devices.map (·.deviceId)).Nodup) {available : FeatureTable}
    (h : devices.foldlM (insertFeatures descriptors) [] = .ok available) (deviceId name : String) :
    available.get (deviceId, name) =
      (devices.find? (·.deviceId = deviceId)).bind (describedBy descriptors name) := by
  refine loop_invariant (fun done table => (done.map (·.deviceId)).Nodup →
    ∀ deviceId name, FeatureTable.get table (deviceId, name) =
      (done.find? (·.deviceId = deviceId)).bind (describedBy descriptors name))
    ?_ (fun _ _ _ => rfl) h hdistinct deviceId name
  intro done device before after hbefore hafter hdistinct deviceId name
  rw [List.map_append, List.map_singleton] at hdistinct
  rw [insertFeatures_eq_ok hafter, hbefore hdistinct.of_append_left, List.find?_append]
  by_cases hsame : deviceId = device.deviceId
  · -- no earlier device has this id
    obtain rfl := hsame
    have hnone : done.find? (·.deviceId = device.deviceId) = none := by
      rw [List.find?_eq_none]
      intro other hother heq
      exact not_mem_of_nodup hdistinct
        (List.mem_map.mpr ⟨other, hother, of_decide_eq_true heq⟩)
    simp [hnone]
  · have hother : [device].find? (·.deviceId = deviceId) = none := by
      simp [Ne.symm hsame]
    rw [if_neg hsame, Option.none_or, hother, Option.or_none]

/-! ## What the compiler makes of a feature -/

/-- What a compiled feature takes over from its descriptor. -/
structure CompiledAs (descriptor : FeatureDescriptor) (feature : CompiledFeature) : Prop where
  featureId : feature.featureId = descriptor.featureId
  qualifiedName : feature.qualifiedName = descriptor.qualifiedName
  length : shapeLength descriptor.shape = some feature.length

/-- Offset and length of the features of a kind, in order. -/
def placesOf (kind : VectorKind) (features : List CompiledFeature) : List (Nat × Nat) :=
  (features.filter (·.kind = kind)).map fun feature =>
    (feature.offset.toNat, feature.length.toNat)

theorem placesOf_append (kind : VectorKind) (earlier later : List CompiledFeature) :
    placesOf kind (earlier ++ later) = placesOf kind earlier ++ placesOf kind later := by
  simp [placesOf]

theorem foldlM_checkedMul32_eq_zero {start : UInt32}
    (h : shape.foldlM checkedMul32 start = some length) : length = 0 ↔ start = 0 ∨ 0 ∈ shape := by
  induction shape generalizing start with
  | nil =>
    cases h
    simp
  | cons size shape ih =>
    rw [List.foldlM_cons] at h
    obtain ⟨next, hnext, hrest⟩ := Option.bind_eq_some_iff.mp h
    unfold checkedMul32 at hnext
    split at hnext
    · rename_i hsmall
      cases hnext
      -- a product that does not wrap is zero only through a factor
      have hzero : start * size = 0 ↔ start = 0 ∨ size = 0 := by
        rw [← UInt32.toNat_inj, ← UInt32.toNat_inj, ← UInt32.toNat_inj, UInt32.toNat_mul,
          Nat.mod_eq_of_lt hsmall]
        exact Nat.mul_eq_zero
      rw [ih hrest, hzero, List.mem_cons, or_assoc, eq_comm (a := size)]
    · cases hnext

/-- A feature has no values exactly if a zero is in its shape. -/
theorem shapeLength_eq_zero (h : shapeLength shape = some length) : length = 0 ↔ 0 ∈ shape := by
  unfold shapeLength at h
  split at h
  · rename_i hempty
    cases h
    simp [List.isEmpty_iff.mp hempty]
  · simpa using foldlM_checkedMul32_eq_zero h

section Loop

variable {kind : VectorKind} {available : FeatureTable}

/-- The feature a name stands for in the table. -/
def FeatureTable.named (available : FeatureTable) (name : String) : Option FeatureDescriptor :=
  (devicePart name).bind fun deviceId => available.get (deviceId, name)

variable {after : VectorState} {reference : FeatureRef} {requested : List FeatureRef}

/-- One turn of the loop places one feature behind the others. -/
theorem compileFeature_eq_ok {before : VectorState}
    (h : compileFeature kind available before reference = .ok after) :
    ∃ descriptor feature, available.named reference.feature = some descriptor ∧
      CompiledAs descriptor feature ∧ feature.kind = kind ∧
      before.seen.contains reference.feature = false ∧
      after.seen = before.seen.insert reference.feature ∧
      after.output = before.output ++ [feature] ∧
      feature.offset = before.offset ∧
      after.offset.toNat = before.offset.toNat + feature.length.toNat := by
  unfold compileFeature at h
  split at h
  · cases h
  · rename_i hseen
    split at h
    · cases h
    · rename_i deviceId hpart
      split at h
      · cases h
      · rename_i descriptor hdescriptor
        split at h
        · cases h
        · rename_i length hlength
          split at h
          · cases h
          · rename_i hsmall
            cases h
            refine ⟨descriptor, _, ?_, ⟨rfl, rfl, hlength⟩, rfl, Bool.not_eq_true _ ▸ hseen, rfl,
              rfl, rfl, ?_⟩
            · simp [FeatureTable.named, hpart, hdescriptor]
            · show (before.offset + length).toNat = before.offset.toNat + length.toNat
              rw [UInt32.toNat_add]
              omega

/-- The features of one vector between two offsets, with the references they
were made from and the descriptors these stand for. -/
structure Placed (available : FeatureTable) (kind : VectorKind) (start stop : UInt32)
    (requested : List FeatureRef) (descriptors : List FeatureDescriptor)
    (features : List CompiledFeature) : Prop where
  named : List.Forall₂ (fun reference descriptor =>
    available.named reference.feature = some descriptor) requested descriptors
  compiled : List.Forall₂ CompiledAs descriptors features
  kinds : ∀ feature ∈ features, feature.kind = kind
  consecutive : Consecutive start.toNat stop.toNat
    (features.map fun feature => (feature.offset.toNat, feature.length.toNat))

/-- One more feature behind those that are placed. -/
theorem Placed.concat {start stop next : UInt32} {descriptors : List FeatureDescriptor}
    {features : List CompiledFeature}
    (h : Placed available kind start stop requested descriptors features)
    {descriptor : FeatureDescriptor} {feature : CompiledFeature}
    (hnamed : available.named reference.feature = some descriptor)
    (hcompiled : CompiledAs descriptor feature) (hkind : feature.kind = kind)
    (hoffset : feature.offset = stop) (hnext : next.toNat = stop.toNat + feature.length.toNat) :
    Placed available kind start next (requested ++ [reference]) (descriptors ++ [descriptor])
      (features ++ [feature]) := by
  refine ⟨List.rel_append h.named (.cons hnamed .nil),
    List.rel_append h.compiled (.cons hcompiled .nil), ?_, ?_⟩
  · exact List.forall_mem_append.mpr ⟨h.kinds, by simpa using hkind⟩
  · rw [List.map_append, Consecutive.append_iff]
    exact ⟨stop.toNat, h.consecutive, congrArg UInt32.toNat hoffset, hnext.symm⟩

/-- The vector grows by one feature for each reference. -/
theorem compileVector_eq_ok {seen : ExtTreeSet String} {output : List CompiledFeature}
    {names : List String} (hnames : Holds seen names)
    (h : compileVector kind requested available seen output = .ok after) :
    ∃ descriptors features,
      Placed available kind 0 after.offset requested descriptors features ∧
      Holds after.seen (names ++ requested.map (·.feature)) ∧
      after.output = output ++ features := by
  refine loop_invariant (fun done state => ∃ descriptors features,
    Placed available kind 0 state.offset done descriptors features ∧
    Holds state.seen (names ++ done.map (·.feature)) ∧
    state.output = output ++ features) ?_ ?_ h
  · rintro done reference before next ⟨descriptors, features, hplaced, hholds, houtput⟩ hnext
    obtain ⟨descriptor, feature, hnamed, hcompiled, hkind, hnew, hseen, hadded, hoffset,
      hstop⟩ := compileFeature_eq_ok hnext
    refine ⟨_, _, hplaced.concat hnamed hcompiled hkind hoffset (hoffset ▸ hstop), ?_, ?_⟩
    · rw [hseen]
      simpa using hholds.insert (hholds.contains_eq_false.mp hnew)
    · rw [hadded, houtput, List.append_assoc]
  · exact ⟨[], [], ⟨.nil, .nil, by simp, rfl⟩, by simpa using hnames, by simp⟩

end Loop

/-! ## What the compiler returns -/

/-- The length of the vector of a kind. -/
def CompiledEmbodiment.vectorLength (layout : CompiledEmbodiment) : VectorKind → UInt32
  | .observation => layout.observationLength
  | .action => layout.actionLength
  | .auxiliary => layout.auxiliaryLength

/-- A layout of the given features: they keep their order and are named
apart, and those of a kind fill its vector from the front. -/
structure Lays (layout : CompiledEmbodiment) (descriptors : List FeatureDescriptor) : Prop where
  features : List.Forall₂ CompiledAs descriptors layout.features
  names : (descriptors.map (·.qualifiedName)).Nodup
  consecutive : ∀ kind,
    Consecutive 0 (layout.vectorLength kind).toNat (placesOf kind layout.features)

/-- A device passes if its id is new. -/
theorem checkDevice_eq_ok {adapters before after : ExtTreeSet String} {ids : List String}
    (hids : Holds before ids) (h : checkDevice adapters before device = .ok after) :
    Holds after (ids ++ [device.deviceId]) := by
  unfold checkDevice at h
  split at h
  · cases h
  · rename_i hnew
    split at h
    · cases h
    · cases h
      simp only [Bool.or_eq_true, not_or, Bool.not_eq_true] at hnew
      exact hids.insert (hids.contains_eq_false.mp hnew.2)

theorem validateStructure_eq_ok (h : config.validateStructure = .ok ()) :
    (config.devices.map (·.deviceId)).Nodup := by
  unfold EmbodimentConfig.validateStructure at h
  split at h
  · cases h
  · split at h
    · cases h
    · obtain ⟨adapters, _, h⟩ := bind_eq_ok.mp h
      obtain ⟨devices, hdevices, _⟩ := bind_eq_ok.mp h
      refine (loop_invariant (fun done seen => Holds seen (done.map (·.deviceId))) ?_ .empty
        hdevices).nodup
      intro done device before after hbefore hafter
      simpa using checkDevice_eq_ok hbefore hafter

/-- The places of the features of one kind, among others of other kinds. -/
theorem placesOf_of_kind {kind : VectorKind} {features : List CompiledFeature}
    (h : ∀ feature ∈ features, feature.kind = kind) (other : VectorKind) :
    placesOf other features = if kind = other then
      features.map fun feature => (feature.offset.toNat, feature.length.toNat) else [] := by
  unfold placesOf
  split
  · rename_i hkind
    rw [List.filter_eq_self.mpr fun feature hmem => by simp [h feature hmem, hkind]]
  · rename_i hkind
    rw [List.filter_eq_nil_iff.mpr fun feature hmem => by simp [h feature hmem, hkind]]
    rfl

/-- A compiled embodiment lays out the selected features. -/
theorem compile_eq_ok {crates : SchemaCrates} (h : config.compile crates descriptors = .ok layout) :
    Lays layout (config.selected descriptors) := by
  unfold EmbodimentConfig.compile at h
  obtain ⟨_, hstructure, h⟩ := bind_eq_ok.mp h
  obtain ⟨available, htable, h⟩ := bind_eq_ok.mp h
  obtain ⟨observation, hobservation, h⟩ := bind_eq_ok.mp h
  obtain ⟨action, haction, h⟩ := bind_eq_ok.mp h
  obtain ⟨auxiliary, hauxiliary, h⟩ := bind_eq_ok.mp h
  obtain ⟨observationSchemaId, _, h⟩ := bind_eq_ok.mp h
  obtain ⟨actionSchemaId, _, h⟩ := bind_eq_ok.mp h
  cases h
  obtain ⟨firstDescribed, first, hfirst, hfirstSeen, hfirstOutput⟩ :=
    compileVector_eq_ok .empty hobservation
  obtain ⟨secondDescribed, second, hsecond, hsecondSeen, hsecondOutput⟩ :=
    compileVector_eq_ok hfirstSeen haction
  obtain ⟨thirdDescribed, third, hthird, hthirdSeen, hthirdOutput⟩ :=
    compileVector_eq_ok hsecondSeen hauxiliary
  -- the three vectors share the names seen and the list of features
  have houtput : auxiliary.output = first ++ second ++ third := by
    rw [hthirdOutput, hsecondOutput, hfirstOutput, List.nil_append]
  have hnamed : ∀ name, available.named name = config.describedFeature descriptors name := by
    intro name
    unfold FeatureTable.named EmbodimentConfig.describedFeature
    cases devicePart name with
    | none => rfl
    | some deviceId =>
      exact get_of_foldlM_insertFeatures (validateStructure_eq_ok hstructure) htable deviceId name
  have hselected : List.Forall₂ (fun reference descriptor =>
      config.describedFeature descriptors reference.feature = some descriptor) config.references
      (firstDescribed ++ secondDescribed ++ thirdDescribed) := by
    simp only [← hnamed]
    exact List.rel_append (List.rel_append hfirst.named hsecond.named) hthird.named
  obtain ⟨hfeatures, hnames⟩ := selected_of_forall₂ hselected
  rw [EmbodimentConfig.selected, hfeatures]
  refine ⟨?_, ?_, ?_⟩
  · show List.Forall₂ CompiledAs _ auxiliary.output
    rw [houtput]
    exact List.rel_append (List.rel_append hfirst.compiled hsecond.compiled) hthird.compiled
  · rw [hnames]
    simpa [EmbodimentConfig.references] using hthirdSeen.nodup
  · intro kind
    show Consecutive 0 _ (placesOf kind auxiliary.output)
    rw [houtput, placesOf_append, placesOf_append, placesOf_of_kind hfirst.kinds,
      placesOf_of_kind hsecond.kinds, placesOf_of_kind hthird.kinds]
    cases kind with
    | observation => simpa [CompiledEmbodiment.vectorLength] using hfirst.consecutive
    | action => simpa [CompiledEmbodiment.vectorLength] using hsecond.consecutive
    | auxiliary => simpa [CompiledEmbodiment.vectorLength] using hthird.consecutive

/-! ## Sound layouts -/

/-- What the other parts of the system expect of a layout: features have ids
and names of their own and are not empty, and those of a kind fill its
vector. -/
structure LayoutSound (layout : CompiledEmbodiment) : Prop where
  id_ne : ∀ feature ∈ layout.features, feature.featureId ≠ 0
  name_ne : ∀ feature ∈ layout.features, feature.qualifiedName ≠ ""
  length_ne : ∀ feature ∈ layout.features, feature.length ≠ 0
  names : (layout.features.map (·.qualifiedName)).Nodup
  ids : (layout.features.map (·.featureId)).Nodup
  consecutive : ∀ kind,
    Consecutive 0 (layout.vectorLength kind).toNat (placesOf kind layout.features)

/-- A layout is sound exactly if its features are not empty and have distinct
ids; the compiler takes care of everything else. -/
theorem Lays.sound_iff {descriptors : List FeatureDescriptor} (h : Lays layout descriptors)
    (hids : ∀ descriptor ∈ descriptors, descriptor.featureId ≠ 0)
    (hnames : ∀ descriptor ∈ descriptors, descriptor.qualifiedName ≠ "") :
    LayoutSound layout ↔
      (∀ descriptor ∈ descriptors, 0 ∉ descriptor.shape) ∧
        (descriptors.map (·.featureId)).Nodup := by
  have hlengths : (∀ descriptor ∈ descriptors, 0 ∉ descriptor.shape) ↔
      ∀ feature ∈ layout.features, feature.length ≠ 0 :=
    forall_mem_iff_of_forall₂ h.features fun descriptor feature hcompiled =>
      (not_congr (shapeLength_eq_zero hcompiled.length)).symm
  have hfeatureIds : layout.features.map (·.featureId) = descriptors.map (·.featureId) :=
    map_eq_of_forall₂ h.features fun _ _ hcompiled => hcompiled.featureId
  have hfeatureNames :
      layout.features.map (·.qualifiedName) = descriptors.map (·.qualifiedName) :=
    map_eq_of_forall₂ h.features fun _ _ hcompiled => hcompiled.qualifiedName
  rw [hlengths, ← hfeatureIds]
  constructor
  · intro hsound
    exact ⟨hsound.length_ne, hsound.ids⟩
  · rintro ⟨hlength, hdistinct⟩
    refine ⟨?_, ?_, hlength, hfeatureNames ▸ h.names, hdistinct, h.consecutive⟩
    · refine (forall_mem_iff_of_forall₂ h.features ?_).mp hids
      intro descriptor feature hcompiled
      rw [hcompiled.featureId]
    · refine (forall_mem_iff_of_forall₂ h.features ?_).mp hnames
      intro descriptor feature hcompiled
      rw [hcompiled.qualifiedName]

/-- The names of the features and their places in brackets, for evaluation. -/
def namesAndPlaces : SchemaCrates where
  toVec features :=
    let texts := features.flatMap fun feature =>
      Text.utf8 feature.qualifiedName.toList ++ [feature.offset.toUInt8, feature.length.toUInt8]
    .ok (91 :: texts ++ [93])
  sha256 := Sha256.digest

end RobotMulticam.Edge
