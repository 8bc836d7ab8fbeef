import RobotMulticam.Discovery.Cameras
import RobotMulticam.Lib.Directory
import RobotMulticam.Lib.Pointwise
import RobotMulticam.Lib.Run

/-!
# The camera map

The edge gives every camera a stream slot and a virtual device number and
keeps both for as long as it remembers the camera. An entry of a camera that
is gone becomes a tombstone, and only an operator's reclaim removes it.

* `step_keeps` says what an operation does to the entry of a camera that it
  knows: the slot, the number and the identity stay, unless a reclaim removes
  a tombstone.
* `Distinct` is the invariant of the entries: no two have one id or one slot.
* A number is computed from the configuration when the entry is made, and
  compared with no other number. `numbers_distinct_iff` says when this is
  enough.
-/

namespace RobotMulticam.Discovery

open RobotMulticam.Lib

inductive MappingState where
  | active
  | tombstone
  deriving DecidableEq, Repr

structure CameraMapping where
  stableCameraId : String
  canonicalIdentity : String
  streamSlot : UInt16
  virtualDeviceNumber : UInt32
  state : MappingState
  deriving DecidableEq

inductive MappingError where
  | io (error : IoError)
  | json
  | checksum
  | collision (stableCameraId : String)
  | slotExhausted
  | generationOverflow
  deriving DecidableEq

structure CameraMap where
  generation : UInt64 := 0
  entries : List CameraMapping := []
  deriving DecidableEq

namespace CameraMap

variable (map : CameraMap)

/-- The slots that are held. -/
def occupied : List UInt16 := map.entries.map CameraMapping.streamSlot

/-- `(0..max_slots).find(|slot| !occupied.contains(slot))`. -/
def freeSlot (maxSlots : UInt16) : Option UInt16 :=
  ((List.range maxSlots.toNat).find? fun slot => UInt16.ofNat slot ∉ map.occupied).map
    UInt16.ofNat

/-- The entry of a camera that gets a slot. The addition of slot and start
wraps, as it does in a release build. -/
def newEntry (camera : LogicalCamera) (slot : UInt16) (virtualStart : UInt32) :
    CameraMapping where
  stableCameraId := camera.stableCameraId
  canonicalIdentity := camera.canonicalIdentity
  streamSlot := slot
  virtualDeviceNumber := virtualStart + slot.toUInt32
  state := .active

def allocateOrReuse (camera : LogicalCamera) (maxSlots : UInt16) (virtualStart : UInt32) :
    Except MappingError CameraMapping × CameraMap :=
  match map.entries.findFinIdx? fun entry => entry.stableCameraId = camera.stableCameraId with
  | some index =>
    if (map.entries.get index).canonicalIdentity ≠ camera.canonicalIdentity then
      (.error (.collision camera.stableCameraId), map)
    else
      let entry := { map.entries.get index with state := .active }
      (.ok entry, { map with entries := map.entries.set index entry })
  | none =>
    match map.freeSlot maxSlots with
    | none => (.error .slotExhausted, map)
    | some slot =>
      let entry := newEntry camera slot virtualStart
      (.ok entry, { map with entries := map.entries ++ [entry] })

def tombstoneMissing (activeIds : List String) : CameraMap :=
  { map with
    entries := map.entries.map fun entry =>
      if entry.stableCameraId ∈ activeIds then entry else { entry with state := .tombstone } }

/-- Returns whether an entry was removed. -/
def reclaimTombstone (stableCameraId : String) : Bool × CameraMap :=
  let entries := map.entries.filter fun entry =>
    entry.stableCameraId ≠ stableCameraId || entry.state ≠ .tombstone
  (map.entries.length ≠ entries.length, { map with entries })

end CameraMap

/-- A call of one of the operations. -/
inductive MapOperation where
  | allocateOrReuse (camera : LogicalCamera) (maxSlots : UInt16) (virtualStart : UInt32)
  | tombstoneMissing (activeIds : List String)
  | reclaimTombstone (stableCameraId : String)

namespace CameraMap

/-- The map after a call. -/
def step (map : CameraMap) : MapOperation → CameraMap
  | .allocateOrReuse camera maxSlots virtualStart =>
    (map.allocateOrReuse camera maxSlots virtualStart).2
  | .tombstoneMissing activeIds => map.tombstoneMissing activeIds
  | .reclaimTombstone stableCameraId => (map.reclaimTombstone stableCameraId).2

/-! ## What each operation does -/

/-- The camera has no entry. -/
def Unknown (map : CameraMap) (stableCameraId : String) : Prop :=
  ∀ entry ∈ map.entries, entry.stableCameraId ≠ stableCameraId

instance (map : CameraMap) (stableCameraId : String) : Decidable (map.Unknown stableCameraId) :=
  inferInstanceAs (Decidable (∀ entry ∈ map.entries, _))

/-- The least slot below the limit that no entry holds. -/
structure LeastFree (map : CameraMap) (maxSlots slot : UInt16) : Prop where
  below : slot < maxSlots
  free : ∀ entry ∈ map.entries, entry.streamSlot ≠ slot
  least : ∀ other < slot, ∃ entry ∈ map.entries, entry.streamSlot = other

variable {map : CameraMap} {maxSlots : UInt16} {entry : CameraMapping}

theorem mem_occupied {slot : UInt16} :
    slot ∈ map.occupied ↔ ∃ entry ∈ map.entries, entry.streamSlot = slot := by
  simp [occupied]

/-- Slots are the numbers below the limit. -/
theorem toNat_ofNat_slot {number : Nat} (h : number < maxSlots.toNat) :
    (UInt16.ofNat number).toNat = number := by
  rw [UInt16.toNat_ofNat', Nat.mod_eq_of_lt]
  exact h.trans maxSlots.toNat_lt

theorem freeSlot_eq_some {slot : UInt16} (h : map.freeSlot maxSlots = some slot) :
    map.LeastFree maxSlots slot := by
  obtain ⟨number, hnumber, rfl⟩ := Option.map_eq_some_iff.mp h
  obtain ⟨hfree, hbelow, hleast⟩ := List.find?_range_eq_some.mp hnumber
  rw [List.mem_range] at hbelow
  have hslot := toNat_ofNat_slot hbelow
  refine ⟨?_, ?_, ?_⟩
  · rw [UInt16.lt_iff_toNat_lt, hslot]
    exact hbelow
  · intro entry hentry hsame
    simp only [decide_eq_true_eq] at hfree
    exact hfree (mem_occupied.mpr ⟨entry, hentry, hsame⟩)
  · intro other hother
    rw [UInt16.lt_iff_toNat_lt, hslot] at hother
    have htaken := hleast other.toNat hother
    rw [UInt16.ofNat_toNat] at htaken
    simpa [mem_occupied] using htaken

theorem freeSlot_eq_none :
    map.freeSlot maxSlots = none ↔
      ∀ slot < maxSlots, ∃ entry ∈ map.entries, entry.streamSlot = slot := by
  unfold freeSlot
  rw [Option.map_eq_none_iff, List.find?_range_eq_none]
  constructor
  · intro hall slot hslot
    have htaken := hall slot.toNat (UInt16.lt_iff_toNat_lt.mp hslot)
    rw [UInt16.ofNat_toNat] at htaken
    simpa [mem_occupied] using htaken
  · intro hall number hnumber
    have hslot : UInt16.ofNat number < maxSlots := by
      rw [UInt16.lt_iff_toNat_lt, toNat_ofNat_slot hnumber]
      exact hnumber
    simpa [mem_occupied] using hall _ hslot

/-- The entries are of one camera, in the same place: only the state may
differ. -/
structure SameCamera (before after : CameraMapping) : Prop where
  stableCameraId : after.stableCameraId = before.stableCameraId
  canonicalIdentity : after.canonicalIdentity = before.canonicalIdentity
  streamSlot : after.streamSlot = before.streamSlot
  virtualDeviceNumber : after.virtualDeviceNumber = before.virtualDeviceNumber

theorem SameCamera.refl (entry : CameraMapping) : SameCamera entry entry := ⟨rfl, rfl, rfl, rfl⟩

theorem SameCamera.trans {first second third : CameraMapping} (h : SameCamera first second)
    (hnext : SameCamera second third) : SameCamera first third :=
  ⟨hnext.stableCameraId.trans h.stableCameraId,
    hnext.canonicalIdentity.trans h.canonicalIdentity, hnext.streamSlot.trans h.streamSlot,
    hnext.virtualDeviceNumber.trans h.virtualDeviceNumber⟩

theorem sameCamera_set {entries : List CameraMapping} (index : Fin entries.length)
    (h : SameCamera (entries.get index) entry) :
    List.Forall₂ SameCamera entries (entries.set index entry) := by
  rw [List.forall₂_iff_get]
  refine ⟨List.length_set.symm, ?_⟩
  intro place hplace hset
  rw [List.get_eq_getElem, List.get_eq_getElem, List.getElem_set]
  split
  · rename_i hsame
    have hindex : index = ⟨place, hplace⟩ := Fin.ext hsame
    rw [hindex] at h
    exact h
  · exact .refl _

/-- A known camera is refused or activated; an unknown one gets the least
free slot, if there is one. -/
theorem allocateOrReuse_cases (map : CameraMap) (camera : LogicalCamera) (maxSlots : UInt16)
    (virtualStart : UInt32) :
    (¬ map.Unknown camera.stableCameraId ∧
      map.allocateOrReuse camera maxSlots virtualStart =
        (.error (.collision camera.stableCameraId), map)) ∨
    (¬ map.Unknown camera.stableCameraId ∧
      ∃ entry next, map.allocateOrReuse camera maxSlots virtualStart = (.ok entry, next) ∧
        List.Forall₂ SameCamera map.entries next.entries) ∨
    (map.Unknown camera.stableCameraId ∧ map.freeSlot maxSlots = none ∧
      map.allocateOrReuse camera maxSlots virtualStart = (.error .slotExhausted, map)) ∨
    ∃ slot, map.Unknown camera.stableCameraId ∧ map.freeSlot maxSlots = some slot ∧
      map.allocateOrReuse camera maxSlots virtualStart =
        (.ok (newEntry camera slot virtualStart),
          { map with entries := map.entries ++ [newEntry camera slot virtualStart] }) := by
  unfold allocateOrReuse
  split
  · rename_i index hindex
    have hfound : (map.entries.get index).stableCameraId = camera.stableCameraId := by
      simpa using (List.findFinIdx?_eq_some_iff.mp hindex).1
    have hknown : ¬ map.Unknown camera.stableCameraId := fun hunknown =>
      hunknown _ (List.get_mem _ _) hfound
    split
    · exact Or.inl ⟨hknown, rfl⟩
    · exact Or.inr (Or.inl ⟨hknown, _, _, rfl, sameCamera_set index ⟨rfl, rfl, rfl, rfl⟩⟩)
  · rename_i hnone
    have hunknown : map.Unknown camera.stableCameraId := by
      intro entry hentry
      simpa using List.findFinIdx?_eq_none_iff.mp hnone entry hentry
    split
    · rename_i hfull
      exact Or.inr (Or.inr (Or.inl ⟨hunknown, hfull, rfl⟩))
    · rename_i slot hslot
      exact Or.inr (Or.inr (Or.inr ⟨slot, hunknown, hslot, rfl⟩))

/-- What a camera that gets its entry finds: the entry is in the map and
active, the other entries are there as before, and a camera that was active
changes nothing. -/
structure Allocates (map : CameraMap) (camera : LogicalCamera) (maxSlots : UInt16)
    (entry : CameraMapping) (next : CameraMap) : Prop where
  mem : entry ∈ next.entries
  stableCameraId : entry.stableCameraId = camera.stableCameraId
  active : entry.state = .active
  kept : ∀ other ∈ map.entries, ∃ same ∈ next.entries, SameCamera other same ∧
    (other.state = .active → same.state = .active)
  slots : ∀ other ∈ next.entries, other.streamSlot < maxSlots ∨
    ∃ same ∈ map.entries, same.streamSlot = other.streamSlot
  unchanged : (map.entries.map CameraMapping.stableCameraId).Nodup →
    (∃ other ∈ map.entries, other.stableCameraId = camera.stableCameraId ∧
      other.state = .active) → next = map

theorem allocateOrReuse_eq_ok {next : CameraMap} {camera : LogicalCamera} {virtualStart : UInt32}
    (h : map.allocateOrReuse camera maxSlots virtualStart = (.ok entry, next)) :
    map.Allocates camera maxSlots entry next := by
  unfold allocateOrReuse at h
  split at h
  · rename_i index hindex
    have hfound : (map.entries.get index).stableCameraId = camera.stableCameraId := by
      simpa using (List.findFinIdx?_eq_some_iff.mp hindex).1
    split at h
    · cases h
    · cases h
      have hsame : List.Forall₂ (fun before after => SameCamera before after ∧
          (before.state = .active → after.state = .active)) map.entries
          (map.entries.set index { map.entries.get index with state := .active }) := by
        rw [List.forall₂_iff_get]
        refine ⟨List.length_set.symm, ?_⟩
        intro place hplace hset
        rw [List.get_eq_getElem, List.get_eq_getElem, List.getElem_set]
        split
        · rename_i hthere
          subst hthere
          exact ⟨⟨rfl, rfl, rfl, rfl⟩, fun _ => rfl⟩
        · exact ⟨.refl _, id⟩
      refine ⟨?_, hfound, rfl, ?_, ?_, ?_⟩
      · exact List.mem_set index.isLt _
      · intro other hother
        exact exists_mem_of_forall₂ hsame hother
      · intro other hother
        obtain ⟨before, hbefore, hkept⟩ := exists_mem_of_forall₂ hsame.flip hother
        exact Or.inr ⟨before, hbefore, hkept.1.streamSlot.symm⟩
      · rintro hnodup ⟨other, hother, hid, hactive⟩
        have hone := List.inj_on_of_nodup_map hnodup hother (List.get_mem map.entries index)
          (hid.trans hfound.symm)
        have hentry : { map.entries.get index with state := .active } = map.entries.get index := by
          rw [← hone, ← hactive]
        simp only [hentry]
        rw [List.get_eq_getElem, List.set_getElem_self]
  · rename_i hnone
    split at h
    · cases h
    · rename_i slot hslot
      cases h
      refine ⟨List.mem_append_right _ List.mem_cons_self, rfl, rfl, ?_, ?_, ?_⟩
      · intro other hother
        exact ⟨other, List.mem_append_left _ hother, .refl other, id⟩
      · intro other hother
        rcases List.mem_append.mp hother with hold | hnew
        · exact Or.inr ⟨other, hold, rfl⟩
        · rw [List.mem_singleton] at hnew
          rw [hnew]
          exact Or.inl (freeSlot_eq_some hslot).below
      · rintro - ⟨other, hother, hid, -⟩
        have hunknown := List.findFinIdx?_eq_none_iff.mp hnone other hother
        simp [hid] at hunknown

/-- The inversion lemma: what a call can do to the entries. -/
theorem step_cases (map : CameraMap) (operation : MapOperation) :
    List.Forall₂ SameCamera map.entries (map.step operation).entries ∨
    (∃ camera maxSlots virtualStart slot,
      operation = .allocateOrReuse camera maxSlots virtualStart ∧
      map.Unknown camera.stableCameraId ∧ map.freeSlot maxSlots = some slot ∧
      (map.step operation).entries = map.entries ++ [newEntry camera slot virtualStart]) ∨
    ∃ stableCameraId, operation = .reclaimTombstone stableCameraId ∧
      (map.step operation).entries = map.entries.filter fun entry =>
        entry.stableCameraId ≠ stableCameraId || entry.state ≠ .tombstone := by
  have hunchanged : List.Forall₂ SameCamera map.entries map.entries :=
    List.forall₂_same.mpr fun entry _ => .refl entry
  cases operation with
  | allocateOrReuse camera maxSlots virtualStart =>
    rw [step]
    rcases map.allocateOrReuse_cases camera maxSlots virtualStart with
      ⟨_, hcollision⟩ | ⟨_, entry, next, hreused, hsame⟩ | ⟨_, _, hexhausted⟩ |
      ⟨slot, hunknown, hslot, hallocated⟩
    · rw [hcollision]
      exact Or.inl hunchanged
    · rw [hreused]
      exact Or.inl hsame
    · rw [hexhausted]
      exact Or.inl hunchanged
    · rw [hallocated]
      exact Or.inr (Or.inl ⟨camera, maxSlots, virtualStart, slot, rfl, hunknown, hslot, rfl⟩)
  | tombstoneMissing activeIds =>
    refine Or.inl ?_
    show List.Forall₂ SameCamera map.entries (map.entries.map _)
    rw [List.forall₂_map_right_iff, List.forall₂_same]
    intro entry _
    split
    · exact .refl entry
    · exact ⟨rfl, rfl, rfl, rfl⟩
  | reclaimTombstone stableCameraId => exact Or.inr (Or.inr ⟨stableCameraId, rfl, rfl⟩)

/-! ## Slots -/

/-- No two entries have one id or one slot. -/
structure Distinct (map : CameraMap) : Prop where
  ids : (map.entries.map CameraMapping.stableCameraId).Nodup
  slots : (map.entries.map CameraMapping.streamSlot).Nodup

/-- A field that updates keep is distinct over the entries if a new entry's
value is. -/
theorem nodup_step {α : Type} {field : CameraMapping → α}
    (hsame : ∀ before after, SameCamera before after → field after = field before)
    (operation : MapOperation) (hdistinct : (map.entries.map field).Nodup)
    (hnew : ∀ camera maxSlots virtualStart slot,
      operation = .allocateOrReuse camera maxSlots virtualStart →
      map.Unknown camera.stableCameraId → map.freeSlot maxSlots = some slot →
      ∀ entry ∈ map.entries, field entry ≠ field (newEntry camera slot virtualStart)) :
    ((map.step operation).entries.map field).Nodup := by
  rcases map.step_cases operation with
    hupdated | ⟨camera, maxSlots, virtualStart, slot, hoperation, hunknown, hslot, hentries⟩ |
    ⟨stableCameraId, _, hentries⟩
  · rw [map_eq_of_forall₂ hupdated hsame]
    exact hdistinct
  · rw [hentries, List.map_append, List.map_singleton, List.nodup_append]
    refine ⟨hdistinct, List.nodup_singleton _, ?_⟩
    intro value hvalue other hother hsame
    obtain ⟨entry, hentry, rfl⟩ := List.mem_map.mp hvalue
    rw [List.mem_singleton.mp hother] at hsame
    exact hnew camera maxSlots virtualStart slot hoperation hunknown hslot entry hentry hsame
  · rw [hentries]
    exact hdistinct.sublist (List.filter_sublist.map field)

theorem Distinct.step (h : map.Distinct) (operation : MapOperation) :
    (map.step operation).Distinct := by
  refine ⟨?_, ?_⟩
  · refine nodup_step (fun _ _ hsame => hsame.stableCameraId) operation h.ids ?_
    intro camera maxSlots virtualStart slot _ hunknown _
    exact hunknown
  · refine nodup_step (fun _ _ hsame => hsame.streamSlot) operation h.slots ?_
    intro camera maxSlots virtualStart slot _ _ hslot
    exact (freeSlot_eq_some hslot).free

/-- An entry stays, up to its state, unless it is a tombstone that is
reclaimed. -/
theorem step_keeps (operation : MapOperation) (h : entry ∈ map.entries) :
    (∃ kept ∈ (map.step operation).entries, SameCamera entry kept) ∨
    (operation = .reclaimTombstone entry.stableCameraId ∧ entry.state = .tombstone) := by
  rcases map.step_cases operation with
    hupdated | ⟨camera, maxSlots, virtualStart, slot, _, _, _, hentries⟩ |
    ⟨stableCameraId, rfl, hentries⟩
  · exact Or.inl (exists_mem_of_forall₂ hupdated h)
  · refine Or.inl ⟨entry, ?_, .refl entry⟩
    rw [hentries]
    exact List.mem_append_left _ h
  · by_cases hreclaimed : entry.stableCameraId = stableCameraId ∧ entry.state = .tombstone
    · exact Or.inr ⟨by rw [hreclaimed.1], hreclaimed.2⟩
    · refine Or.inl ⟨entry, ?_, .refl entry⟩
      rw [hentries, List.mem_filter]
      refine ⟨h, ?_⟩
      simpa [or_iff_not_imp_left] using hreclaimed

/-- The run lemma: an entry stays, or at some point it is a tombstone that is
reclaimed. -/
theorem run_keeps (later : List MapOperation) (h : entry ∈ map.entries) :
    (∃ kept ∈ (run step map later).entries, SameCamera entry kept) ∨
    ∃ before after, later = before ++ .reclaimTombstone entry.stableCameraId :: after ∧
      ∃ last ∈ (run step map before).entries, SameCamera entry last ∧ last.state = .tombstone := by
  induction later generalizing map entry with
  | nil => exact Or.inl ⟨entry, h, .refl entry⟩
  | cons operation later ih =>
    rcases step_keeps operation h with ⟨kept, hkept, hsame⟩ | ⟨rfl, hstate⟩
    · rcases ih hkept with ⟨last, hlast, hstill⟩ | ⟨before, after, rfl, last, hlast, hstill, hstate⟩
      · exact Or.inl ⟨last, hlast, hsame.trans hstill⟩
      · refine Or.inr ⟨operation :: before, after, ?_, last, hlast, hsame.trans hstill, hstate⟩
        rw [hsame.stableCameraId, List.cons_append]
    · exact Or.inr ⟨[], later, rfl, entry, h, .refl entry, hstate⟩

/-- While a camera has an entry, only the state of the entry changes. -/
theorem Distinct.sameCamera (h : map.Distinct) (operation : MapOperation) {found : CameraMapping}
    (hentry : entry ∈ map.entries) (hfound : found ∈ (map.step operation).entries)
    (hid : found.stableCameraId = entry.stableCameraId) : SameCamera entry found := by
  rcases step_keeps operation hentry with ⟨kept, hkept, hsame⟩ | ⟨rfl, hstate⟩
  · have hone := List.inj_on_of_nodup_map (h.step operation).ids hfound hkept
      (hid.trans hsame.stableCameraId.symm)
    rw [hone]
    exact hsame
  · -- the reclaim would have removed it
    obtain ⟨hbefore, hkept⟩ := List.mem_filter.mp hfound
    have hone := List.inj_on_of_nodup_map h.ids hbefore hentry hid
    rw [hone] at hkept
    simp [hstate] at hkept

/-- What the edge relies on in a map. -/
structure StableSlots (map : CameraMap) : Prop where
  /-- Entries have distinct ids and distinct slots. -/
  distinct : map.Distinct
  /-- Nothing but the state of an entry changes while it exists. -/
  fixed : ∀ operation, ∀ entry ∈ map.entries, ∀ found ∈ (map.step operation).entries,
    found.stableCameraId = entry.stableCameraId → SameCamera entry found
  /-- Another camera gets a slot only after the entry of the former one was a
  tombstone and was reclaimed. -/
  reclaimed : ∀ later, ∀ entry ∈ map.entries, ∀ holder ∈ (run step map later).entries,
    holder.streamSlot = entry.streamSlot → holder.stableCameraId ≠ entry.stableCameraId →
    ∃ before after, later = before ++ .reclaimTombstone entry.stableCameraId :: after ∧
      ∃ last ∈ (run step map before).entries, SameCamera entry last ∧ last.state = .tombstone
  /-- A camera that gets a slot gets the least free one. -/
  least : ∀ camera maxSlots virtualStart entry next,
    map.allocateOrReuse camera maxSlots virtualStart = (.ok entry, next) →
    map.Unknown camera.stableCameraId →
    map.LeastFree maxSlots entry.streamSlot ∧ next.entries = map.entries ++ [entry]
  /-- Slots run out exactly for an unknown camera when all are held. -/
  exhausted : ∀ camera maxSlots virtualStart,
    (map.allocateOrReuse camera maxSlots virtualStart).1 = .error .slotExhausted ↔
      map.Unknown camera.stableCameraId ∧
        ∀ slot < maxSlots, ∃ entry ∈ map.entries, entry.streamSlot = slot
  /-- A call that fails changes nothing. -/
  failed : ∀ camera maxSlots virtualStart error next,
    map.allocateOrReuse camera maxSlots virtualStart = (.error error, next) → next = map

theorem Distinct.run (h : map.Distinct) (operations : List MapOperation) :
    (Lib.run CameraMap.step map operations).Distinct :=
  run_invariant' (fun _ operation hdistinct => hdistinct.step operation) h operations

/-- Camera slots are stable and never silently reused, whatever is called
with whatever limits. -/
theorem slots_stable (operations : List MapOperation) :
    StableSlots (run step {} operations) := by
  have hempty : Distinct {} := ⟨List.nodup_nil, List.nodup_nil⟩
  have hdistinct := hempty.run operations
  generalize run step {} operations = map at hdistinct
  refine ⟨hdistinct, ?_, ?_, ?_, ?_, ?_⟩
  · intro operation entry hentry found hfound hid
    exact hdistinct.sameCamera operation hentry hfound hid
  · intro later entry hentry holder hholder hslot hother
    rcases run_keeps later hentry with ⟨kept, hkept, hsame⟩ | hreclaimed
    · -- the entry that is still there holds the slot alone
      have hone := List.inj_on_of_nodup_map (hdistinct.run later).slots hholder hkept
        (hslot.trans hsame.streamSlot.symm)
      exact absurd (hone ▸ hsame.stableCameraId) hother
    · exact hreclaimed
  · intro camera maxSlots virtualStart entry next hallocate hunknown
    rcases map.allocateOrReuse_cases camera maxSlots virtualStart with
      ⟨hknown, _⟩ | ⟨hknown, _⟩ | ⟨_, _, hexhausted⟩ | ⟨slot, _, hslot, hallocated⟩
    · exact absurd hunknown hknown
    · exact absurd hunknown hknown
    · rw [hexhausted] at hallocate
      cases hallocate
    · rw [hallocated] at hallocate
      cases hallocate
      exact ⟨freeSlot_eq_some hslot, rfl⟩
  · intro camera maxSlots virtualStart
    rw [← freeSlot_eq_none]
    rcases map.allocateOrReuse_cases camera maxSlots virtualStart with
      ⟨hknown, hcollision⟩ | ⟨hknown, entry, next, hreused, _⟩ | ⟨hunknown, hfull, hexhausted⟩ |
      ⟨slot, hunknown, hslot, hallocated⟩
    · rw [hcollision]
      simp [hknown]
    · rw [hreused]
      simp [hknown]
    · rw [hexhausted]
      simp [hunknown, hfull]
    · rw [hallocated]
      simp [hslot]
  · intro camera maxSlots virtualStart error next hallocate
    rcases map.allocateOrReuse_cases camera maxSlots virtualStart with
      ⟨_, hcollision⟩ | ⟨_, entry, other, hreused, _⟩ | ⟨_, _, hexhausted⟩ |
      ⟨slot, _, _, hallocated⟩
    · rw [hcollision] at hallocate
      cases hallocate
      rfl
    · rw [hreused] at hallocate
      cases hallocate
    · rw [hexhausted] at hallocate
      cases hallocate
      rfl
    · rw [hallocated] at hallocate
      cases hallocate

-- the slot of a tombstone is not given away, and a second limit below the
-- first takes no slot back
example : (run step {} [.allocateOrReuse ⟨"a", "A", anonymousCamera "" ""⟩ 4 40,
    .allocateOrReuse ⟨"b", "B", anonymousCamera "" ""⟩ 4 40, .tombstoneMissing ["b"],
    .allocateOrReuse ⟨"c", "C", anonymousCamera "" ""⟩ 2 40,
    .allocateOrReuse ⟨"c", "C", anonymousCamera "" ""⟩ 3 40]).entries.map
      (fun entry => (entry.stableCameraId, entry.streamSlot, entry.state)) =
    [("a", 0, .tombstone), ("b", 1, .active), ("c", 2, .active)] := by
  decide

/-! ## Virtual devices -/

/-- The virtual device numbers of the entries. -/
def numbers (map : CameraMap) : List UInt32 :=
  map.entries.map CameraMapping.virtualDeviceNumber

end CameraMap

/-- The map in memory and the one on disk, across restarts of the edge. -/
structure PersistedMap where
  current : CameraMap := {}
  saved : CameraMap := {}

/-- What happens to them: a call, with the limits that are configured at the
time; a save; a restart, which loads what was saved. -/
inductive MapAction where
  | operate (operation : MapOperation)
  | save
  | restart

namespace PersistedMap

def step (state : PersistedMap) : MapAction → PersistedMap
  | .operate operation => { state with current := state.current.step operation }
  | .save => { state with saved := state.current }
  | .restart => { state with current := state.saved }

/-- The call for a slot that an action makes. -/
def allocating : MapAction → Option (LogicalCamera × UInt16 × UInt32)
  | .operate (.allocateOrReuse camera maxSlots virtualStart) => some (camera, maxSlots, virtualStart)
  | _ => none

variable {virtualStart : UInt32} {actions : List MapAction}

theorem allocating_eq_some {action : MapAction} {camera : LogicalCamera} {maxSlots : UInt16} :
    allocating action = some (camera, maxSlots, virtualStart) ↔
      action = .operate (.allocateOrReuse camera maxSlots virtualStart) := by
  unfold allocating
  split
  · simp
  · rename_i hother
    refine iff_of_false nofun ?_
    exact hother camera maxSlots virtualStart

/-- An entry has the number of its slot under another start. -/
def OtherStart (virtualStart : UInt32) (entry : CameraMapping) : Prop :=
  entry.virtualDeviceNumber ≠ virtualStart + entry.streamSlot.toUInt32

/-- A camera that gets a slot gets a number that no entry from another start
has. -/
def FreshNumber (state : PersistedMap) (action : MapAction) : Prop :=
  ∀ call ∈ allocating action, state.current.Unknown call.1.stableCameraId →
    ∀ slot ∈ state.current.freeSlot call.2.1, ∀ entry ∈ state.current.entries,
      OtherStart call.2.2 entry → entry.virtualDeviceNumber ≠ call.2.2 + slot.toUInt32

/-- The map in memory and the one on disk satisfy `P`. -/
structure Both (P : CameraMap → Prop) (state : PersistedMap) : Prop where
  current : P state.current
  saved : P state.saved

theorem Both.step {P : CameraMap → Prop} {state : PersistedMap} (h : Both P state)
    {action : MapAction}
    (hoperate : ∀ operation, action = .operate operation → P (state.current.step operation)) :
    Both P (state.step action) := by
  cases action with
  | save => exact ⟨h.current, h.current⟩
  | restart => exact ⟨h.saved, h.saved⟩
  | operate operation => exact ⟨hoperate operation rfl, h.saved⟩

/-- An entry from the same start has another slot, and so another number. -/
theorem distinctNumbers_step (state : PersistedMap) (action : MapAction)
    (h : Both (fun map => map.numbers.Nodup) state) (hfresh : FreshNumber state action) :
    Both (fun map => map.numbers.Nodup) (state.step action) := by
  refine h.step ?_
  rintro operation rfl
  refine CameraMap.nodup_step (fun _ _ hsame => hsame.virtualDeviceNumber) operation h.current ?_
  rintro camera maxSlots virtualStart slot rfl hunknown hslot entry hentry hsame
  by_cases hother : OtherStart virtualStart entry
  · exact hfresh _ rfl hunknown slot hslot entry hentry hother hsame
  · rw [OtherStart, not_not] at hother
    rw [hother] at hsame
    exact (CameraMap.freeSlot_eq_some hslot).free entry hentry
      (UInt16.toUInt32_inj.mp ((UInt32.add_right_inj virtualStart).mp hsame))

theorem distinctNumbers_run (h : Meets step FreshNumber {} actions) :
    (run step {} actions).current.numbers.Nodup := by
  have hempty : Both (fun map => map.numbers.Nodup) {} := ⟨List.nodup_nil, List.nodup_nil⟩
  exact (run_invariant distinctNumbers_step hempty h).current

/-- Virtual devices are shared in no state of a run, across restarts and
changes of the configuration, exactly when no camera gets a number that was
given away under another start. -/
theorem numbers_distinct_iff (actions : List MapAction) :
    (∀ before after, actions = before ++ after →
        (run step {} before).current.numbers.Nodup) ↔
      Meets step FreshNumber {} actions := by
  constructor
  · intro hdistinct
    refine meets_of_forall_split ?_
    rintro before action after hactions ⟨camera, maxSlots, virtualStart⟩ hcall hunknown slot hslot
      entry hentry _ hsame
    obtain rfl := allocating_eq_some.mp hcall
    have hnext := hdistinct (before ++ [.operate (.allocateOrReuse camera maxSlots virtualStart)])
      after (by simp [hactions])
    rw [run_append, run_cons, run_nil] at hnext
    rcases (run step {} before).current.allocateOrReuse_cases camera maxSlots virtualStart with
      ⟨hknown, _⟩ | ⟨hknown, _⟩ | ⟨_, hfull, _⟩ | ⟨found, _, hfound, hallocated⟩
    · exact hknown hunknown
    · exact hknown hunknown
    · rw [hfull] at hslot
      cases hslot
    · -- the new entry repeats the number
      cases hfound.symm.trans hslot
      have hentries : ((run step {} before).step
          (.operate (.allocateOrReuse camera maxSlots virtualStart))).current.numbers =
          (run step {} before).current.numbers ++ [virtualStart + slot.toUInt32] := by
        show (((run step {} before).current.allocateOrReuse camera maxSlots
          virtualStart).2.entries.map _) = _
        rw [hallocated, List.map_append]
        rfl
      rw [hentries] at hnext
      exact (List.nodup_append.mp hnext).2.2 _ (List.mem_map_of_mem hentry) _
        List.mem_cons_self hsame
  · rintro hmeets before after rfl
    exact distinctNumbers_run (meets_append.mp hmeets).1

/-- Camera `a` gets slot 0 and number 41. The edge restarts with a start that
is one lower, and camera `b` gets slot 1 and number 41 too. -/
theorem restart_shares_number :
    (run step {} [
      .operate (.allocateOrReuse ⟨"a", "A", anonymousCamera "" ""⟩ 4 41), .save, .restart,
      .operate (.allocateOrReuse ⟨"b", "B", anonymousCamera "" ""⟩ 4 40)]).current.numbers =
        [41, 41] := by
  decide

/-! A start that never changes leaves no entry from another one. -/

/-- The configured start of an action is `virtualStart`. -/
def StartsAt (virtualStart : UInt32) (_ : PersistedMap) (action : MapAction) : Prop :=
  ∀ call ∈ allocating action, call.2.2 = virtualStart

theorem sameStart_step (state : PersistedMap) (action : MapAction)
    (h : Both (fun map => ∀ entry ∈ map.entries, ¬ OtherStart virtualStart entry) state)
    (hstart : StartsAt virtualStart state action) :
    Both (fun map => ∀ entry ∈ map.entries, ¬ OtherStart virtualStart entry)
      (state.step action) := by
  refine h.step ?_
  rintro operation rfl
  rcases state.current.step_cases operation with
    hupdated | ⟨camera, maxSlots, other, slot, rfl, _, _, hentries⟩ | ⟨_, _, hentries⟩
  · refine (forall_mem_iff_of_forall₂ hupdated ?_).mp h.current
    intro before after hsame
    rw [OtherStart, OtherStart, hsame.virtualDeviceNumber, hsame.streamSlot]
  · rw [hentries]
    intro entry hentry
    rcases List.mem_append.mp hentry with hold | hnew
    · exact h.current entry hold
    · rw [List.mem_singleton.mp hnew, ← hstart _ rfl, OtherStart, not_not]
      rfl
  · rw [hentries]
    exact fun entry hentry => h.current entry (List.mem_of_mem_filter hentry)

/-- The condition then asks for nothing. -/
theorem freshNumber_of_constant_start (h : Meets step (StartsAt virtualStart) {} actions) :
    Meets step FreshNumber {} actions := by
  refine meets_of_invariant sameStart_step ?_ ⟨List.forall_mem_nil _, List.forall_mem_nil _⟩ h
  intro state action hstate hstart call hcall _ slot _ entry hentry hother
  rw [hstart call hcall] at hother
  exact absurd hother (hstate.current entry hentry)

end PersistedMap

end RobotMulticam.Discovery
