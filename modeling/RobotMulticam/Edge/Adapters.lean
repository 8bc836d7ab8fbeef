import RobotMulticam.Lib.KeySet
import RobotMulticam.Lib.Loop
import RobotMulticam.Lib.Run
import RobotMulticam.Protocol.Messages

/-!
# Adapter descriptors and their registry

Every adapter describes its devices and features. `validate_descriptor`
checks one descriptor on its own: ids are distinct within it, and nothing is
known about the descriptors of other adapters or about shapes.

The registry keeps one descriptor for each adapter id. While an episode is
active it refuses to replace a descriptor, but it lets an adapter go, and
then the id is free: the schema stays frozen exactly as long as nobody comes
back in an episode under an id it had, with another descriptor
(`schema_frozen_iff`).
-/

namespace RobotMulticam.Edge

open RobotMulticam.Lib
open RobotMulticam.Protocol
open Std (ExtTreeMap ExtTreeSet)

inductive DescriptorError where
  | apiVersion (version : UInt32)
  | emptyAdapterId
  | emptyClockId
  | duplicateDevice (deviceId : String)
  | duplicateFeature (featureId : UInt64)
  | zeroFeatureId
  deriving DecidableEq, Repr

/-- One turn of the loop over the features of a device. -/
def describeFeature (features : ExtTreeSet UInt64) (feature : FeatureDescriptor) :
    Except DescriptorError (ExtTreeSet UInt64) :=
  if feature.featureId = 0 then .error .zeroFeatureId
  else if features.contains feature.featureId then
    .error (.duplicateFeature feature.featureId)
  else .ok (features.insert feature.featureId)

/-- One turn of the loop over the devices, with the device and feature ids
seen so far. -/
def describeDevice (seen : ExtTreeSet String × ExtTreeSet UInt64) (device : DeviceDescriptor) :
    Except DescriptorError (ExtTreeSet String × ExtTreeSet UInt64) :=
  if seen.1.contains device.deviceId then .error (.duplicateDevice device.deviceId)
  else do
    let features ← device.features.foldlM describeFeature seen.2
    .ok (seen.1.insert device.deviceId, features)

def validateDescriptor (descriptor : AdapterDescriptor) : Except DescriptorError Unit :=
  if descriptor.apiVersion ≠ 1 then .error (.apiVersion descriptor.apiVersion)
  else if descriptor.adapterInstanceId.isEmpty then .error .emptyAdapterId
  -- a descriptor without a clock is refused like one without a clock id
  else if descriptor.sourceClock.all (·.sourceClockId.isEmpty) then .error .emptyClockId
  else do
    let _ ← descriptor.devices.foldlM describeDevice (∅, ∅)
    .ok ()

/-! ## What a valid descriptor says -/

variable {before after : ExtTreeSet UInt64} {start : AdapterRegistry} {calls : List AdapterCall}

theorem describeFeature_eq_ok {feature : FeatureDescriptor} {ids : List UInt64}
    (hids : Holds before ids) (h : describeFeature before feature = .ok after) :
    feature.featureId ≠ 0 ∧ Holds after (ids ++ [feature.featureId]) := by
  unfold describeFeature at h
  split at h
  · cases h
  · rename_i hzero
    split at h
    · cases h
    · rename_i hseen
      cases h
      exact ⟨hzero, hids.insert (hids.contains_eq_false.mp (Bool.not_eq_true _ ▸ hseen))⟩

theorem foldlM_describeFeature {features : List FeatureDescriptor} {ids : List UInt64}
    (hids : Holds before ids) (h : features.foldlM describeFeature before = .ok after) :
    (∀ feature ∈ features, feature.featureId ≠ 0) ∧
      Holds after (ids ++ features.map (·.featureId)) := by
  refine loop_invariant (fun done seen => (∀ feature ∈ done, feature.featureId ≠ 0) ∧
    Holds seen (ids ++ done.map (·.featureId))) ?_ (by simpa using hids) h
  rintro done feature seen next ⟨hzero, hseen⟩ hnext
  obtain ⟨hid, hholds⟩ := describeFeature_eq_ok hseen hnext
  exact ⟨List.forall_mem_append.mpr ⟨hzero, by simpa using hid⟩, by simpa using hholds⟩

/-- What the loop over the devices knows: the ids of the devices and of all
their features. -/
structure Describes (devices : List DeviceDescriptor)
    (seen : ExtTreeSet String × ExtTreeSet UInt64) : Prop where
  zero : ∀ feature ∈ devices.flatMap (·.features), feature.featureId ≠ 0
  names : Holds seen.1 (devices.map (·.deviceId))
  ids : Holds seen.2 ((devices.flatMap (·.features)).map (·.featureId))

theorem Describes.describeDevice {devices : List DeviceDescriptor}
    {seen next : ExtTreeSet String × ExtTreeSet UInt64} (h : Describes devices seen)
    {device : DeviceDescriptor} (hdevice : describeDevice seen device = .ok next) :
    Describes (devices ++ [device]) next := by
  unfold Edge.describeDevice at hdevice
  split at hdevice
  · cases hdevice
  · rename_i hseen
    obtain ⟨features, hfeatures, hdevice⟩ := bind_eq_ok.mp hdevice
    cases hdevice
    have hnew := h.names.contains_eq_false.mp (Bool.not_eq_true _ ▸ hseen)
    obtain ⟨hzero, hids⟩ := foldlM_describeFeature h.ids hfeatures
    have hall : (devices ++ [device]).flatMap (·.features) =
        devices.flatMap (·.features) ++ device.features := by simp
    refine ⟨?_, by simpa using h.names.insert hnew, ?_⟩
    · rw [hall]
      exact List.forall_mem_append.mpr ⟨h.zero, hzero⟩
    · rw [hall, List.map_append]
      exact hids

/-- The device and feature ids of a valid descriptor are distinct, and the
feature ids are not zero. -/
theorem validateDescriptor_eq_ok {descriptor : AdapterDescriptor}
    (h : validateDescriptor descriptor = .ok ()) :
    (descriptor.devices.map (·.deviceId)).Nodup ∧
      (descriptor.features.map (·.featureId)).Nodup ∧
      ∀ feature ∈ descriptor.features, feature.featureId ≠ 0 := by
  unfold validateDescriptor at h
  split at h
  · cases h
  · split at h
    · cases h
    · split at h
      · cases h
      · obtain ⟨after, hdevices, _⟩ := bind_eq_ok.mp h
        have hall := loop_invariant Describes (fun _ _ _ _ hseen => hseen.describeDevice)
          ⟨by simp, .empty, .empty⟩ hdevices
        exact ⟨hall.names.nodup, hall.ids.nodup, hall.zero⟩

/-! ## The registry -/

inductive RegistryError where
  | descriptor (error : DescriptorError)
  | capacity
  | duplicate (adapterId : String)
  | activeEpisodeSchemaChange
  | unknown (adapterId : String)
  deriving DecidableEq, Repr

structure AdapterRegistry where
  maxAdapters : Nat
  descriptors : ExtTreeMap String AdapterDescriptor
  episodeActive : Bool

namespace AdapterRegistry

def new (maxAdapters : Nat) : Except RegistryError AdapterRegistry :=
  if maxAdapters = 0 then .error .capacity else .ok ⟨maxAdapters, ∅, false⟩

def register (self : AdapterRegistry) (descriptor : AdapterDescriptor) :
    Except RegistryError Unit × AdapterRegistry :=
  let id := descriptor.adapterInstanceId
  let registered : AdapterRegistry :=
    { self with descriptors := self.descriptors.insert id descriptor }
  match validateDescriptor descriptor with
  | .error error => (.error (.descriptor error), self)
  | .ok () =>
    -- an id that was disconnected has no previous descriptor, also in an episode
    match self.descriptors[id]? with
    | some previous =>
      if previous.descriptorRevision = descriptor.descriptorRevision then
        (.error (.duplicate id), self)
      else if self.episodeActive then (.error .activeEpisodeSchemaChange, self)
      else (.ok (), registered)
    | none =>
      if self.descriptors.size = self.maxAdapters then (.error .capacity, self)
      else (.ok (), registered)

def disconnect (self : AdapterRegistry) (adapterId : String) :
    Except RegistryError AdapterDescriptor × AdapterRegistry :=
  match self.descriptors[adapterId]? with
  | some descriptor =>
    (.ok descriptor, { self with descriptors := self.descriptors.erase adapterId })
  | none => (.error (.unknown adapterId), self)

def setEpisodeActive (self : AdapterRegistry) (active : Bool) : AdapterRegistry :=
  { self with episodeActive := active }

end AdapterRegistry

/-- A call on the registry. -/
inductive AdapterCall where
  | register (descriptor : AdapterDescriptor)
  | disconnect (adapterId : String)
  | setEpisodeActive (active : Bool)
  deriving DecidableEq

/-- The registry after a call, whatever the call returned. -/
def AdapterRegistry.call (self : AdapterRegistry) : AdapterCall → AdapterRegistry
  | .register descriptor => (self.register descriptor).2
  | .disconnect adapterId => (self.disconnect adapterId).2
  | .setEpisodeActive active => self.setEpisodeActive active

/-- What a call can do. -/
inductive AdapterStep (self : AdapterRegistry) : AdapterCall → AdapterRegistry → Prop
  | refused (call : AdapterCall) : AdapterStep self call self
  | registered (descriptor : AdapterDescriptor)
      (hok : (self.register descriptor).1 = .ok ())
      (hroom : descriptor.adapterInstanceId ∉ self.descriptors →
        self.descriptors.size ≠ self.maxAdapters) :
      AdapterStep self (.register descriptor)
        { self with
          descriptors := self.descriptors.insert descriptor.adapterInstanceId descriptor }
  | disconnected (adapterId : String) :
      AdapterStep self (.disconnect adapterId)
        { self with descriptors := self.descriptors.erase adapterId }
  | switched (active : Bool) :
      AdapterStep self (.setEpisodeActive active) { self with episodeActive := active }

namespace AdapterRegistry

variable (self : AdapterRegistry)

/-- A valid descriptor is accepted under a free id if there is room, and under
a taken one if it has another revision and no episode is active. -/
theorem register_ok_iff (descriptor : AdapterDescriptor) :
    (self.register descriptor).1 = .ok () ↔ validateDescriptor descriptor = .ok () ∧
      (descriptor.adapterInstanceId ∉ self.descriptors ∧
          self.descriptors.size ≠ self.maxAdapters ∨
        self.episodeActive = false ∧
          ∃ previous, self.descriptors[descriptor.adapterInstanceId]? = some previous ∧
            previous.descriptorRevision ≠ descriptor.descriptorRevision) := by
  rw [ExtTreeMap.mem_iff_isSome_getElem?]
  unfold register
  dsimp only
  cases validateDescriptor descriptor with
  | error error => simp
  | ok valid =>
    cases hprevious : self.descriptors[descriptor.adapterInstanceId]? with
    | none => by_cases hroom : self.descriptors.size = self.maxAdapters <;> simp [hroom]
    | some previous =>
      by_cases hrevision : previous.descriptorRevision = descriptor.descriptorRevision <;>
        cases hactive : self.episodeActive <;> simp [hrevision]

/-- A register call either succeeds and stores the descriptor, or changes
nothing. -/
theorem register_cases (descriptor : AdapterDescriptor) :
    (self.register descriptor).2 = self ∧ (self.register descriptor).1 ≠ .ok () ∨
    (self.register descriptor).1 = .ok () ∧
      (descriptor.adapterInstanceId ∉ self.descriptors →
        self.descriptors.size ≠ self.maxAdapters) ∧
      (self.register descriptor).2 = { self with
        descriptors := self.descriptors.insert descriptor.adapterInstanceId descriptor } := by
  unfold register
  dsimp only
  split
  · exact Or.inl ⟨rfl, by simp⟩
  · split
    · rename_i previous hprevious
      split
      · exact Or.inl ⟨rfl, by simp⟩
      · split
        · exact Or.inl ⟨rfl, by simp⟩
        · refine Or.inr ⟨rfl, fun habsent => ?_, rfl⟩
          rw [ExtTreeMap.mem_iff_isSome_getElem?, hprevious] at habsent
          exact absurd rfl habsent
    · split
      · exact Or.inl ⟨rfl, by simp⟩
      · rename_i hroom
        exact Or.inr ⟨rfl, fun _ => hroom, rfl⟩

/-- Every call is one of the steps. -/
theorem call_step (call : AdapterCall) : AdapterStep self call (self.call call) := by
  cases call with
  | register descriptor =>
    unfold AdapterRegistry.call
    rcases self.register_cases descriptor with ⟨hsame, _⟩ | ⟨hok, hroom, hnext⟩
    · dsimp only
      rw [hsame]
      exact .refused _
    · dsimp only
      rw [hnext]
      exact .registered descriptor hok hroom
  | disconnect adapterId =>
    unfold AdapterRegistry.call disconnect
    dsimp only
    split
    · exact .disconnected adapterId
    · exact .refused _
  | setEpisodeActive active => exact .switched active

/-- The registry is within its bound. -/
structure Within (maxAdapters : Nat) (registry : AdapterRegistry) : Prop where
  bound : registry.maxAdapters = maxAdapters
  size : registry.descriptors.size ≤ maxAdapters

variable {maxAdapters : Nat} {start : AdapterRegistry}

theorem Within.call {self : AdapterRegistry} (h : Within maxAdapters self) (call : AdapterCall) :
    Within maxAdapters (self.call call) := by
  have hstep := self.call_step call
  generalize self.call call = next at hstep ⊢
  cases hstep with
  | refused call => exact h
  | registered descriptor hok hroom =>
    refine ⟨h.bound, ?_⟩
    have hsize := h.size
    rw [ExtTreeMap.size_insert]
    split
    · exact hsize
    · rename_i habsent
      have hne := hroom habsent
      rw [h.bound] at hne
      omega
  | disconnected adapterId => exact ⟨h.bound, ExtTreeMap.size_erase_le.trans h.size⟩
  | switched active => exact ⟨h.bound, h.size⟩

theorem new_eq_ok (h : new maxAdapters = .ok start) : start = ⟨maxAdapters, ∅, false⟩ := by
  unfold new at h
  split at h
  · cases h
  · cases h
    rfl

theorem within_run (hnew : new maxAdapters = .ok start) (calls : List AdapterCall) :
    Within maxAdapters (run call start calls) := by
  obtain rfl := new_eq_ok hnew
  exact run_invariant' (fun _ next h => h.call next) ⟨rfl, by simp⟩ calls

/-- What a call does to the descriptor of an id: it stays, is removed, or
becomes the one that is registered. -/
theorem getElem?_call (call : AdapterCall) (id : String) :
    (self.call call).descriptors[id]? = self.descriptors[id]? ∨
      (self.call call).descriptors[id]? = none ∨
      ∃ descriptor, call = .register descriptor ∧ descriptor.adapterInstanceId = id ∧
        (self.register descriptor).1 = .ok () ∧
        (self.call call).descriptors[id]? = some descriptor := by
  have hstep := self.call_step call
  generalize self.call call = next at hstep ⊢
  cases hstep with
  | refused call => exact Or.inl rfl
  | registered descriptor hok hroom =>
    dsimp only
    rw [ExtTreeMap.getElem?_insert]
    split
    · rename_i hid
      exact Or.inr (Or.inr ⟨descriptor, rfl, Std.LawfulEqOrd.eq_of_compare hid, hok, rfl⟩)
    · exact Or.inl rfl
  | disconnected adapterId =>
    dsimp only
    rw [ExtTreeMap.getElem?_erase]
    split
    · exact Or.inr (Or.inl rfl)
    · exact Or.inl rfl
  | switched active => exact Or.inl rfl

end AdapterRegistry

/-! ## The schema of an episode -/

/-- At two moments of one episode an adapter id has the same descriptor, if
it has one at both. -/
def SchemaFrozen (start : AdapterRegistry) (calls : List AdapterCall) : Prop :=
  ∀ before during after, calls = before ++ during ++ after →
    (run AdapterRegistry.call start before).episodeActive = true →
    .setEpisodeActive false ∉ during →
    ∀ (id : String) (earlier later : AdapterDescriptor),
      (run AdapterRegistry.call start before).descriptors[id]? = some earlier →
      (run AdapterRegistry.call start (before ++ during)).descriptors[id]? = some later →
      earlier = later

/-- An adapter that comes back in an episode comes back unchanged: a valid
descriptor that is registered under a free id, with room left, is the one the
id had at any earlier moment of the episode. -/
def ReturnsUnchanged (start : AdapterRegistry) (calls : List AdapterCall) : Prop :=
  ∀ before during descriptor after, calls = before ++ during ++ .register descriptor :: after →
    (run AdapterRegistry.call start before).episodeActive = true →
    .setEpisodeActive false ∉ during →
    descriptor.adapterInstanceId ∉
      (run AdapterRegistry.call start (before ++ during)).descriptors →
    validateDescriptor descriptor = .ok () →
    (run AdapterRegistry.call start (before ++ during)).descriptors.size < start.maxAdapters →
    ∀ earlier, (run AdapterRegistry.call start before).descriptors[
        descriptor.adapterInstanceId]? = some earlier → earlier = descriptor

/-- An episode goes on until it is switched off. -/
theorem episodeActive_run (hactive : start.episodeActive = true)
    (hcalls : .setEpisodeActive false ∉ calls) :
    (run AdapterRegistry.call start calls).episodeActive = true := by
  induction calls generalizing start with
  | nil => exact hactive
  | cons call calls ih =>
    obtain ⟨hcall, hrest⟩ := not_or.mp (List.mem_cons.not.mp hcalls)
    refine ih ?_ hrest
    have hstep := start.call_step call
    generalize start.call call = next at hstep ⊢
    cases hstep with
    | refused call => exact hactive
    | registered descriptor hok hroom => exact hactive
    | disconnected adapterId => exact hactive
    | switched active =>
      cases active with
      | true => rfl
      | false => exact absurd rfl hcall

section Episode

variable {maxAdapters : Nat} {start : AdapterRegistry}
  (hnew : AdapterRegistry.new maxAdapters = .ok start) {calls : List AdapterCall}
include hnew

theorem returnsUnchanged_of_frozen (h : SchemaFrozen start calls) :
    ReturnsUnchanged start calls := by
  intro before during descriptor after hcalls hactive hduring hfree hvalid hroom earlier hearlier
  refine h before (during ++ [.register descriptor]) after (by simp [hcalls]) hactive
    (by simpa using hduring) descriptor.adapterInstanceId earlier descriptor hearlier ?_
  have hbound : (run AdapterRegistry.call start (before ++ during)).maxAdapters =
      start.maxAdapters := by
    obtain rfl := AdapterRegistry.new_eq_ok hnew
    exact (AdapterRegistry.within_run hnew (before ++ during)).bound
  have hok := (AdapterRegistry.register_ok_iff
    (run AdapterRegistry.call start (before ++ during)) descriptor).mpr
      ⟨hvalid, Or.inl ⟨hfree, by rw [hbound]; exact hroom.ne⟩⟩
  rw [← List.append_assoc, run_append, run_cons, run_nil]
  rcases AdapterRegistry.register_cases (run AdapterRegistry.call start (before ++ during))
    descriptor with ⟨_, hrefused⟩ | ⟨_, _, hnext⟩
  · exact absurd hok hrefused
  · rw [AdapterRegistry.call, hnext]
    exact ExtTreeMap.getElem?_insert_self

/-- What is accepted in an episode is accepted under a free id: the registry
does not replace a descriptor then. -/
theorem free_of_registered {before during : List AdapterCall}
    (hactive : (run AdapterRegistry.call start before).episodeActive = true)
    (hduring : .setEpisodeActive false ∉ during) {descriptor : AdapterDescriptor}
    (hok : ((run AdapterRegistry.call start (before ++ during)).register descriptor).1 = .ok ()) :
    descriptor.adapterInstanceId ∉
        (run AdapterRegistry.call start (before ++ during)).descriptors ∧
      validateDescriptor descriptor = .ok () ∧
      (run AdapterRegistry.call start (before ++ during)).descriptors.size < start.maxAdapters := by
  have hstill : (run AdapterRegistry.call start (before ++ during)).episodeActive = true := by
    rw [run_append]
    exact episodeActive_run hactive hduring
  have hwithin := AdapterRegistry.within_run hnew (before ++ during)
  obtain rfl := AdapterRegistry.new_eq_ok hnew
  obtain ⟨hvalid, ⟨hfree, hroom⟩ | ⟨hidle, _⟩⟩ := (AdapterRegistry.register_ok_iff _ _).mp hok
  · refine ⟨hfree, hvalid, ?_⟩
    rw [hwithin.bound] at hroom
    exact lt_of_le_of_ne hwithin.size hroom
  · rw [hstill] at hidle
    cases hidle

theorem frozen_of_returnsUnchanged (h : ReturnsUnchanged start calls) :
    SchemaFrozen start calls := by
  intro before during after hcalls hactive hduring id earlier later hearlier
  -- along the episode: the calls of `during` one after the other
  induction during using List.reverseRecOn generalizing after with
  | nil =>
    intro hlater
    rw [List.append_nil, hearlier] at hlater
    exact Option.some.inj hlater
  | append_singleton during call ih =>
    have hprefix : .setEpisodeActive false ∉ during := fun hmem =>
      hduring (List.mem_append_left _ hmem)
    have hbefore := ih (call :: after) (by simp [hcalls]) hprefix
    rw [← List.append_assoc, run_append, run_cons, run_nil]
    rcases AdapterRegistry.getElem?_call
      (run AdapterRegistry.call start (before ++ during)) call id with
      hsame | hnone | ⟨descriptor, rfl, rfl, hok, hregistered⟩
    · rwa [hsame]
    · rw [hnone]
      rintro ⟨⟩
    · rw [hregistered, Option.some.injEq]
      rintro rfl
      obtain ⟨hfree, hvalid, hroom⟩ := free_of_registered hnew hactive hprefix hok
      exact h before during descriptor after (by simp [hcalls]) hactive hprefix hfree hvalid
        hroom earlier hearlier

end Episode

/-- Adapters that describe themselves in the same way whenever they register
may come and go. -/
theorem returnsUnchanged_of_fixed {maxAdapters : Nat}
    (hnew : AdapterRegistry.new maxAdapters = .ok start) (describes : String → AdapterDescriptor)
    (hfixed : ∀ descriptor, .register descriptor ∈ calls →
      descriptor = describes descriptor.adapterInstanceId) :
    ReturnsUnchanged start calls := by
  have hdescribed : ∀ before after, calls = before ++ after →
      ∀ (id : String) (descriptor : AdapterDescriptor),
        (run AdapterRegistry.call start before).descriptors[id]? = some descriptor →
          descriptor = describes id := by
    intro before
    induction before using List.reverseRecOn with
    | nil =>
      obtain rfl := AdapterRegistry.new_eq_ok hnew
      simp
    | append_singleton before call ih =>
      intro after hcalls id descriptor
      have hbefore := ih (call :: after) (by simp [hcalls]) id descriptor
      rw [run_append, run_cons, run_nil]
      rcases AdapterRegistry.getElem?_call (run AdapterRegistry.call start before) call id with
        hsame | hnone | ⟨registered, rfl, hid, _, hregistered⟩
      · rwa [hsame]
      · simp [hnone]
      · rw [hregistered, Option.some.injEq, ← hid]
        rintro rfl
        exact hfixed registered (by simp [hcalls])
  intro before during descriptor after hcalls _ _ _ _ _ earlier hearlier
  rw [hdescribed before (during ++ .register descriptor :: after) (by simp [hcalls]) _ _ hearlier]
  exact (hfixed descriptor (by simp [hcalls])).symm

/-- In every run the number of adapters stays within `max_adapters`, and the
schema is frozen during every episode if and only if an adapter that comes
back in an episode comes back with the descriptor it had. -/
theorem schema_frozen_iff {maxAdapters : Nat} {start : AdapterRegistry}
    (hnew : AdapterRegistry.new maxAdapters = .ok start) (calls : List AdapterCall) :
    (SchemaFrozen start calls ∧ ∀ before after, calls = before ++ after →
      (run AdapterRegistry.call start before).descriptors.size ≤ maxAdapters) ↔
    ReturnsUnchanged start calls := by
  constructor
  · rintro ⟨hfrozen, _⟩
    exact returnsUnchanged_of_frozen hnew hfrozen
  · intro hreturns
    exact ⟨frozen_of_returnsUnchanged hnew hreturns,
      fun before _ _ => (AdapterRegistry.within_run hnew before).size⟩

/-- An arm with one feature, in the given revision. -/
def armDescriptor (revision : UInt64) (shape : List UInt32) : AdapterDescriptor where
  apiVersion := 1
  adapterInstanceId := "arm"
  sourceClock := some { sourceClockId := "edge" }
  devices := [{
    deviceId := "arm"
    features := [{ featureId := 1, qualifiedName := "arm.position", shape }] }]
  descriptorRevision := revision

/-- The arm leaves in the middle of an episode and comes back as it was. -/
theorem schema_frozen_iff_arm :
    SchemaFrozen ⟨2, ∅, false⟩
      [.register (armDescriptor 1 [6]), .setEpisodeActive true, .disconnect "arm",
        .register (armDescriptor 1 [6])] := by
  have hnew : AdapterRegistry.new 2 = .ok ⟨2, ∅, false⟩ := rfl
  refine ((schema_frozen_iff hnew _).mpr ?_).1
  exact returnsUnchanged_of_fixed hnew (fun _ => armDescriptor 1 [6]) (by simp)

/-- The arm leaves in the middle of an episode and comes back with another
shape. -/
theorem schema_changes_in_episode :
    AdapterRegistry.new 2 = .ok ⟨2, ∅, false⟩ ∧
      ¬ SchemaFrozen ⟨2, ∅, false⟩
        [.register (armDescriptor 1 [6]), .setEpisodeActive true, .disconnect "arm",
          .register (armDescriptor 2 [7])] := by
  refine ⟨rfl, fun hfrozen => ?_⟩
  have hsame := hfrozen [.register (armDescriptor 1 [6]), .setEpisodeActive true]
    [.disconnect "arm", .register (armDescriptor 2 [7])] [] rfl (by decide +kernel) (by decide)
    "arm" (armDescriptor 1 [6]) (armDescriptor 2 [7]) (by decide +kernel) (by decide +kernel)
  exact absurd hsame (by decide)

end RobotMulticam.Edge
