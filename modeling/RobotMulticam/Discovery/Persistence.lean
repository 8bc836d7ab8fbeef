import RobotMulticam.Discovery.CameraMap

/-!
# The camera map on disk

`save_atomic` writes the map to a temporary file, named after the process,
and renames it. `load` checks a hash of what it reads. A crash leaves what a
prefix of the steps did, so the map that a restarted process loads is the old
one or the new one.

The temporary file is created with `create_new` and never removed. A crash
between its creation and the renaming leaves it behind, and a process with
the same id then cannot save: `crash_recovery_iff`.

Apart from that, the files do what `PersistedMap` says: `represents_run` is a
simulation, over all calls, saves, crashes and restarts.
-/

namespace RobotMulticam.Discovery

open RobotMulticam.Lib
open RobotMulticam.Lib.Text (beforeLast beforeLast_eq_some)
open Std (ExtTreeMap)

structure MapPayload where
  generation : UInt64
  entries : List CameraMapping

structure MapFile where
  generation : UInt64
  entries : List CameraMapping
  checksumBlake3 : String

/-- `serde_json` and `blake3`. -/
structure MapCodec where
  toWriterPretty : MapFile → List UInt8
  fromSlice : List UInt8 → Option MapFile
  toVec : MapPayload → List UInt8
  blake3Hex : List UInt8 → String

/-- What is written, with the newline after it, is read back. -/
def MapCodec.RoundTrips (codec : MapCodec) : Prop :=
  ∀ file, codec.fromSlice (codec.toWriterPretty file ++ [10]) = some file

def checksum (codec : MapCodec) (payload : MapPayload) : String :=
  codec.blake3Hex (codec.toVec payload)

/-- `Path::file_stem` of a file name: the name up to its last dot, if that is
not the first character. -/
def fileStem (name : List Char) : List Char :=
  match beforeLast ['.'] name with
  | none | some [] => name
  | some before => before

/-- `path.with_extension(format!("json.{}.tmp", pid))`. -/
def temporaryName (name : String) (pid : Nat) : String :=
  String.ofList (fileStem name.toList) ++ ".json." ++ pid.repr ++ ".tmp"

namespace CameraMap

variable (codec : MapCodec)

def load (directory : Directory) (name : String) : Except MappingError CameraMap :=
  match directory[name]? with
  | none => .error (.io .notFound)
  | some bytes =>
    match codec.fromSlice bytes with
    | none => .error .json
    | some file =>
      if checksum codec ⟨file.generation, file.entries⟩ ≠ file.checksumBlake3 then
        .error .checksum
      else .ok ⟨file.generation, file.entries⟩

/-- How the edge starts: without a file, with an empty map. -/
def restore (directory : Directory) (name : String) : Except MappingError CameraMap :=
  match load codec directory name with
  | .error (.io .notFound) => .ok {}
  | result => result

variable (map : CameraMap)

/-- The map with its generation counted up, unless the counter is full. -/
def advance : Option CameraMap :=
  if map.generation.toNat + 1 < 2 ^ 64 then some { map with generation := map.generation + 1 }
  else none

/-- The contents of a map's file. -/
def fileContents : List UInt8 :=
  codec.toWriterPretty
    ⟨map.generation, map.entries, checksum codec ⟨map.generation, map.entries⟩⟩ ++ [10]

/-- The steps of `save_atomic` that change the directory. -/
def saveSteps (name : String) (pid : Nat) : List FileStep :=
  replaceSteps (temporaryName name pid) name (map.fileContents codec)

/-- The generation stays counted up when a file operation fails. -/
def saveAtomic (directory : Directory) (name : String) (pid : Nat) :
    Except MappingError Unit × CameraMap × Directory :=
  match map.advance with
  | none => (.error .generationOverflow, map, directory)
  | some map =>
    match execute directory (map.saveSteps codec name pid) with
    | (.error error, directory) => (.error (.io error), map, directory)
    | (.ok (), directory) => (.ok (), map, directory)

/-- What a crash in `save_atomic` leaves after `count` steps. -/
def crashedDirectory (directory : Directory) (name : String) (pid count : Nat) : Directory :=
  (execute directory ((map.saveSteps codec name pid).take count)).2

/-! ## Names -/

theorem temporaryName_toList (name : String) (pid : Nat) :
    (temporaryName name pid).toList =
      fileStem name.toList ++ ".json.".toList ++ pid.repr.toList ++ ".tmp".toList := by
  simp [temporaryName]

/-- The temporary file is another file: the name has no dot after its stem
and one more, or it is its own stem. -/
theorem temporaryName_ne (name : String) (pid : Nat) : temporaryName name pid ≠ name := by
  intro hsame
  have hlist := congrArg String.toList hsame
  rw [temporaryName_toList] at hlist
  have hlonger : ∀ {stem rest : List Char}, stem ++ '.' :: rest ≠ stem := by
    intro stem rest hstem
    have hlength := congrArg List.length hstem
    simp at hlength
  unfold fileStem at hlist
  split at hlist
  · simp only [List.append_assoc] at hlist
    exact hlonger hlist
  · simp only [List.append_assoc] at hlist
    exact hlonger hlist
  · rename_i before hbefore
    obtain ⟨after, hname, hnodot⟩ := beforeLast_eq_some hbefore
    rw [hname] at hlist
    simp only [List.append_assoc, List.append_cancel_left_eq] at hlist
    have hafter : after = "json.".toList ++ (pid.repr.toList ++ ".tmp".toList) :=
      (List.cons.inj hlist).2.symm
    exact hnodot (hafter ▸ by simp)

theorem temporaryName_inj {name : String} {pid other : Nat} :
    temporaryName name pid = temporaryName name other ↔ pid = other := by
  refine ⟨?_, congrArg _⟩
  intro hsame
  have hlist := congrArg String.toList hsame
  rw [temporaryName_toList, temporaryName_toList] at hlist
  have hdigits := List.append_cancel_left (List.append_cancel_right hlist)
  exact Nat.repr_injective (String.toList_inj.mp hdigits)

/-! ## Loading -/

section Crash

variable {codec : MapCodec} {directory : Directory} {name : String}

/-- Loading looks at the map's own file only. -/
theorem restore_congr {other : Directory} (h : other[name]? = directory[name]?) :
    restore codec other name = restore codec directory name := by
  unfold restore load
  rw [h]

/-- A map's file loads as the map. -/
theorem load_fileContents (hserde : codec.RoundTrips) (map : CameraMap) :
    load codec (directory.insert name (map.fileContents codec)) name = .ok map := by
  unfold load fileContents
  rw [ExtTreeMap.getElem?_insert_self]
  simp only [hserde _]
  rw [if_neg (by simp)]

theorem restore_of_load {map : CameraMap} (h : load codec directory name = .ok map) :
    restore codec directory name = .ok map := by
  unfold restore
  rw [h]

/-! ## Crashes -/

/-- What a crash can leave: the directory as it was, the temporary file with
a part of the contents, or the new map. -/
theorem crashedDirectory_cases (codec : MapCodec) (map : CameraMap) (directory : Directory)
    (name : String) (pid count : Nat) :
    (crashedDirectory codec map directory name pid count = directory ∧
      (temporaryName name pid ∈ directory ∨ count = 0)) ∨
    (∃ part, crashedDirectory codec map directory name pid count =
        directory.insert (temporaryName name pid) part ∧
      0 < count ∧ count ≤ (map.fileContents codec).length + 1) ∨
    (crashedDirectory codec map directory name pid count =
        directory.insert name (map.fileContents codec) ∧
      (map.fileContents codec).length + 1 < count) := by
  unfold crashedDirectory saveSteps
  by_cases hthere : temporaryName name pid ∈ directory
  · -- `create_new` fails, and nothing happens
    refine Or.inl ⟨?_, Or.inl hthere⟩
    cases count with
    | zero => rfl
    | succ count =>
      rw [replaceSteps, List.cons_append, List.take_succ_cons, execute, FileStep.apply,
        if_pos hthere]
  · rcases execute_replaceSteps_take hthere name (map.fileContents codec) count with
      ⟨hzero, hnothing⟩ | ⟨hpos, hfew, hwritten⟩ | ⟨hall, hrenamed⟩
    · rw [hnothing]
      exact Or.inl ⟨rfl, Or.inr hzero⟩
    · rw [hwritten]
      exact Or.inr (Or.inl ⟨_, rfl, hpos, hfew⟩)
    · rw [hrenamed]
      exact Or.inr (Or.inr ⟨rfl, hall⟩)

/-- A save succeeds exactly when no temporary file is in its way. -/
theorem saveAtomic_eq {map advanced : CameraMap} (h : map.advance = some advanced) (pid : Nat) :
    saveAtomic codec map directory name pid =
      if temporaryName name pid ∈ directory then
        (.error (.io .alreadyExists), advanced, directory)
      else (.ok (), advanced, directory.insert name (advanced.fileContents codec)) := by
  unfold saveAtomic
  rw [h]
  dsimp only
  rw [saveSteps, execute_replaceSteps]
  by_cases hthere : temporaryName name pid ∈ directory
  · simp only [if_pos hthere]
  · simp only [if_neg hthere]

/-- After a crash, the edge starts with the map as it was or with the new one. -/
theorem restore_crashedDirectory (hserde : codec.RoundTrips) (saved : CameraMap)
    (directory : Directory) (name : String) (pid count : Nat) :
    restore codec (crashedDirectory codec saved directory name pid count) name =
        restore codec directory name ∨
      restore codec (crashedDirectory codec saved directory name pid count) name = .ok saved := by
  rcases crashedDirectory_cases codec saved directory name pid count with
    ⟨hsame, _⟩ | ⟨part, hpart, _⟩ | ⟨hnew, _⟩
  · rw [hsame]
    exact Or.inl rfl
  · refine Or.inl ?_
    rw [hpart]
    apply restore_congr
    rw [ExtTreeMap.getElem?_insert, if_neg]
    rw [Std.LawfulEqOrd.compare_eq_iff_eq]
    exact temporaryName_ne name pid
  · rw [hnew]
    exact Or.inr (restore_of_load (load_fileContents hserde saved))

end Crash

/-- A crash after any number of steps of a save of `saved`, by the process
`crashed`:

* what the restarted process loads is the committed map or the new one;
* every save of the restarted process succeeds, and is what is loaded then,
  exactly when the directory has no temporary file of its process id;
* if there was none before, there is one exactly when the id is that of the
  crashed process, and the crash came after the creation of the temporary file
  and before the renaming. -/
theorem crash_recovery_iff (codec : MapCodec) (hserde : codec.RoundTrips) (name : String)
    (directory : Directory) (committed saved : CameraMap)
    (hcommitted : restore codec directory name = .ok committed)
    (crashed pid count : Nat) (after : Directory)
    (hafter : after = crashedDirectory codec saved directory name crashed count) :
    (restore codec after name = .ok committed ∨ restore codec after name = .ok saved) ∧
    ((∀ next advanced, next.advance = some advanced →
        ∃ final, saveAtomic codec next after name pid = (.ok (), advanced, final) ∧
          load codec final name = .ok advanced) ↔
      temporaryName name pid ∉ after) ∧
    (temporaryName name crashed ∉ directory → temporaryName name pid ∉ directory →
      (temporaryName name pid ∈ after ↔
        pid = crashed ∧ 0 < count ∧ count ≤ (saved.fileContents codec).length + 1)) := by
  refine ⟨?_, ⟨?_, ?_⟩, ?_⟩
  · rw [hafter, ← hcommitted]
    exact restore_crashedDirectory hserde saved directory name crashed count
  · intro hsaves hthere
    obtain ⟨final, hfinal, _⟩ := hsaves {} { generation := 1 } rfl
    rw [saveAtomic_eq rfl, if_pos hthere] at hfinal
    cases hfinal
  · intro hfree next advanced hadvance
    refine ⟨after.insert name (advanced.fileContents codec), ?_,
      load_fileContents hserde advanced⟩
    rw [saveAtomic_eq hadvance, if_neg hfree]
  · intro hclean hfree
    rcases crashedDirectory_cases codec saved directory name crashed count with
      ⟨hsame, hwhy⟩ | ⟨part, hpart, hpos, hfew⟩ | ⟨hnew, hall⟩
    · rw [hafter, hsame]
      refine iff_of_false hfree ?_
      rintro ⟨_, hpos, _⟩
      rcases hwhy with hthere | hzero
      · exact hclean hthere
      · omega
    · rw [hafter, hpart, ExtTreeMap.mem_insert, Std.LawfulEqOrd.compare_eq_iff_eq,
        temporaryName_inj]
      constructor
      · rintro (hsame | hthere)
        · exact ⟨hsame.symm, hpos, hfew⟩
        · exact absurd hthere hfree
      · rintro ⟨hsame, _⟩
        exact Or.inl hsame.symm
    · rw [hafter, hnew, ExtTreeMap.mem_insert, Std.LawfulEqOrd.compare_eq_iff_eq]
      refine iff_of_false ?_ ?_
      · rintro (hsame | hthere)
        · exact temporaryName_ne name pid hsame.symm
        · exact hfree hthere
      · rintro ⟨_, _, hfew⟩
        omega

/-! A codec to evaluate with: a file as one number, written in base 256. -/

def textCodes (text : String) : List Nat := text.toList.map Char.toNat

def ofTextCodes (codes : List Nat) : String := String.ofList (codes.map Char.ofNat)

theorem ofTextCodes_textCodes (text : String) : ofTextCodes (textCodes text) = text := by
  simp [ofTextCodes, textCodes, Function.comp_def]

def entryCodes (entry : CameraMapping) : List Nat × List Nat × Nat × Nat × Bool :=
  (textCodes entry.stableCameraId, textCodes entry.canonicalIdentity, entry.streamSlot.toNat,
    entry.virtualDeviceNumber.toNat, entry.state = .active)

def ofEntryCodes (codes : List Nat × List Nat × Nat × Nat × Bool) : CameraMapping :=
  ⟨ofTextCodes codes.1, ofTextCodes codes.2.1, UInt16.ofNat codes.2.2.1,
    UInt32.ofNat codes.2.2.2.1, if codes.2.2.2.2 then .active else .tombstone⟩

theorem ofEntryCodes_entryCodes (entry : CameraMapping) :
    ofEntryCodes (entryCodes entry) = entry := by
  obtain ⟨stableCameraId, canonicalIdentity, slot, number, state⟩ := entry
  cases state with
  | active => simp [ofEntryCodes, entryCodes, ofTextCodes_textCodes]
  | tombstone => simp [ofEntryCodes, entryCodes, ofTextCodes_textCodes]

instance : Encodable MapFile :=
  Encodable.ofLeftInverse
    (fun file : MapFile => (file.generation.toNat, file.entries.map entryCodes,
      textCodes file.checksumBlake3))
    (fun codes => ⟨UInt64.ofNat codes.1, codes.2.1.map ofEntryCodes, ofTextCodes codes.2.2⟩)
    fun file => by
      obtain ⟨generation, entries, checksum⟩ := file
      simp [ofTextCodes_textCodes, Function.comp_def, ofEntryCodes_entryCodes]

def numberCodec : MapCodec where
  toWriterPretty file := (Nat.digits 256 (Encodable.encode file)).map UInt8.ofNat
  fromSlice bytes := Encodable.decode (Nat.ofDigits 256 (bytes.dropLast.map UInt8.toNat))
  toVec payload := [UInt8.ofNat payload.entries.length]
  blake3Hex bytes := toString bytes

theorem numberCodec_roundTrips : numberCodec.RoundTrips := by
  intro file
  have hdigits : ((Nat.digits 256 (Encodable.encode file)).map UInt8.ofNat).map UInt8.toNat =
      Nat.digits 256 (Encodable.encode file) := by
    rw [List.map_map]
    refine (List.map_congr_left ?_).trans (List.map_id _)
    intro digit hdigit
    have hsmall := Nat.digits_lt_base (by decide) hdigit
    show (UInt8.ofNat digit).toNat = digit
    rw [UInt8.toNat_ofNat', Nat.mod_eq_of_lt hsmall]
  simp only [numberCodec, List.dropLast_concat, hdigits, Nat.ofDigits_digits]
  exact Encodable.encodek file

/-- A crash right after the creation of the temporary file: another process
saves without trouble. -/
theorem crash_recovery_iff_other_process :
    ∃ final, saveAtomic numberCodec {}
        (crashedDirectory numberCodec { generation := 1 } ∅ "camera-map.json" 7 1)
        "camera-map.json" 8 = (.ok (), { generation := 1 }, final) ∧
      load numberCodec final "camera-map.json" = .ok { generation := 1 } := by
  have hrecovery := crash_recovery_iff numberCodec numberCodec_roundTrips "camera-map.json" ∅ {}
    { generation := 1 } rfl 7 8 1 _ rfl
  have hmissing : ∀ pid, temporaryName "camera-map.json" pid ∉ (∅ : Directory) := by simp
  refine hrecovery.2.1.mpr ?_ {} { generation := 1 } rfl
  intro hthere
  have hsame := (hrecovery.2.2 (hmissing 7) (hmissing 8)).mp hthere
  exact absurd hsame.1 (by decide)

/-- A crash right after the creation of the temporary file: the process that
comes after it with the same id can load, but not save. -/
theorem same_process_id_cannot_save :
    restore numberCodec (crashedDirectory numberCodec { generation := 1 } ∅ "camera-map.json" 7 1)
        "camera-map.json" = .ok {} ∧
      (saveAtomic numberCodec {}
        (crashedDirectory numberCodec { generation := 1 } ∅ "camera-map.json" 7 1)
        "camera-map.json" 7).1 = .error (.io .alreadyExists) := by
  decide +kernel

end CameraMap

/-! ## Runs over the files

`PersistedMap` says that a save is all or nothing and that a restart has what
was saved last. The edge does this with files. -/

/-- The map in memory and the state directory. -/
structure StoredMap where
  current : CameraMap := {}
  directory : Directory := ∅

inductive StoredAction where
  | operate (operation : MapOperation)
  | save (pid : Nat)
  /-- The process dies in a save, and another one starts. -/
  | crash (pid count : Nat)
  | restart

namespace StoredMap

variable {codec : MapCodec} {name : String}

/-- The edge does not start with a file that it cannot load. -/
def restart (codec : MapCodec) (name : String) (state : StoredMap) : StoredMap :=
  match CameraMap.restore codec state.directory name with
  | .ok map => { state with current := map }
  | .error _ => state

def step (codec : MapCodec) (name : String) (state : StoredMap) : StoredAction → StoredMap
  | .operate operation => { state with current := state.current.step operation }
  | .save pid =>
    let (_, current, directory) := state.current.saveAtomic codec state.directory name pid
    { current, directory }
  | .crash pid count =>
    match state.current.advance with
    | none => state.restart codec name
    | some map =>
      { state with
        directory := map.crashedDirectory codec state.directory name pid count }.restart codec name
  | .restart => state.restart codec name

/-- The generation aside, both have the same maps. -/
structure Represents (codec : MapCodec) (name : String) (state : StoredMap)
    (image : PersistedMap) : Prop where
  current : state.current.entries = image.current.entries
  saved : ∃ map, CameraMap.restore codec state.directory name = .ok map ∧
    map.entries = image.saved.entries

/-- How the maps answer an action: calls are the same, a save counts or not,
and so does a save in which the process dies. -/
inductive Answers : StoredAction → List MapAction → Prop where
  | operate (operation : MapOperation) : Answers (.operate operation) [.operate operation]
  | saved (pid : Nat) : Answers (.save pid) [.save]
  | refused (pid : Nat) : Answers (.save pid) []
  | lost (pid count : Nat) : Answers (.crash pid count) [.restart]
  | kept (pid count : Nat) : Answers (.crash pid count) [.save, .restart]
  | restart : Answers .restart [.restart]

/-- The operations do not look at the generation. -/
theorem entries_step {map other : CameraMap} (h : map.entries = other.entries)
    (operation : MapOperation) : (map.step operation).entries = (other.step operation).entries := by
  obtain ⟨generation, entries⟩ := map
  obtain ⟨otherGeneration, otherEntries⟩ := other
  obtain rfl : entries = otherEntries := h
  cases operation with
  | tombstoneMissing activeIds => rfl
  | reclaimTombstone stableCameraId => rfl
  | allocateOrReuse camera maxSlots virtualStart =>
    have hslot : CameraMap.freeSlot ⟨generation, entries⟩ maxSlots =
        CameraMap.freeSlot ⟨otherGeneration, entries⟩ maxSlots := rfl
    simp only [CameraMap.step, CameraMap.allocateOrReuse, hslot]
    split
    · split
      · rfl
      · rfl
    · cases CameraMap.freeSlot ⟨otherGeneration, entries⟩ maxSlots with
      | none => rfl
      | some slot => rfl

theorem entries_advance {map advanced : CameraMap} (h : map.advance = some advanced) :
    advanced.entries = map.entries := by
  unfold CameraMap.advance at h
  split at h
  · cases h
    rfl
  · cases h

variable {state : StoredMap} {image : PersistedMap}

theorem Represents.restart (h : Represents codec name state image) :
    Represents codec name (state.restart codec name) (image.step .restart) := by
  obtain ⟨map, hmap, hentries⟩ := h.saved
  have hrestart : state.restart codec name = { state with current := map } := by
    rw [StoredMap.restart, hmap]
  rw [hrestart]
  exact ⟨hentries, map, hmap, hentries⟩

theorem Represents.save (h : Represents codec name state image) (hserde : codec.RoundTrips)
    (pid : Nat) :
    ∃ part, Answers (.save pid) part ∧
      Represents codec name (state.step codec name (.save pid))
        (run PersistedMap.step image part) := by
  simp only [step]
  cases hadvance : state.current.advance with
  | none =>
    refine ⟨[], .refused pid, ?_⟩
    simp only [CameraMap.saveAtomic, hadvance]
    exact h
  | some advanced =>
    have hentries := (entries_advance hadvance).trans h.current
    rw [CameraMap.saveAtomic_eq hadvance]
    split
    · exact ⟨[], .refused pid, hentries, h.saved⟩
    · exact ⟨[.save], .saved pid, hentries, advanced,
        CameraMap.restore_of_load (CameraMap.load_fileContents hserde advanced), hentries⟩

theorem Represents.crash (h : Represents codec name state image) (hserde : codec.RoundTrips)
    (pid count : Nat) :
    ∃ part, Answers (.crash pid count) part ∧
      Represents codec name (state.step codec name (.crash pid count))
        (run PersistedMap.step image part) := by
  simp only [step]
  cases hadvance : state.current.advance with
  | none => exact ⟨[.restart], .lost pid count, h.restart⟩
  | some advanced =>
    obtain ⟨map, hmap, hsaved⟩ := h.saved
    rcases CameraMap.restore_crashedDirectory hserde advanced state.directory name pid count with
      hlost | hkept
    · exact ⟨[.restart], .lost pid count,
        Represents.restart ⟨h.current, map, hlost.trans hmap, hsaved⟩⟩
    · have hentries := (entries_advance hadvance).trans h.current
      exact ⟨[.save, .restart], .kept pid count,
        Represents.restart ⟨h.current, advanced, hkept, hentries⟩⟩

/-- The files do what `PersistedMap` says, whatever processes save, die and
start. -/
theorem represents_run (hserde : codec.RoundTrips) (name : String) (actions : List StoredAction) :
    ∃ parts, List.Forall₂ Answers actions parts ∧
      Represents codec name (run (step codec name) {} actions)
        (run PersistedMap.step {} parts.flatten) := by
  have hempty : Represents codec name {} {} := ⟨rfl, {}, rfl, rfl⟩
  refine run_simulates ?_ hempty actions
  intro state image action h
  cases action with
  | operate operation =>
    exact ⟨[.operate operation], .operate operation, entries_step h.current operation, h.saved⟩
  | save pid => exact h.save hserde pid
  | crash pid count => exact h.crash hserde pid count
  | restart => exact ⟨[.restart], .restart, h.restart⟩

end StoredMap

end RobotMulticam.Discovery
