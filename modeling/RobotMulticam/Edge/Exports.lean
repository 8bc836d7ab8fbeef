import RobotMulticam.Discovery.Persistence

/-!
# The files that other programs read

When the set of cameras changes, the edge writes the cameras to two files, a
JSON list and a snippet for the configuration of the recorder. Each is
replaced by renaming, and the second only after the first: whatever stops the
edge, both files are complete, and the snippet is never newer than the list
(`exportsReplaced_take`).

The temporary files have names of their own. Writing the exports leaves the
camera map alone, which lies in the same directory.
-/

namespace RobotMulticam.Edge

open RobotMulticam.Lib
open RobotMulticam.Lib.Text (utf8)
open RobotMulticam.Discovery (fileStem)
open Std (ExtTreeMap)

structure CameraExport where
  stableCameraId : String
  physicalDevice : String
  virtualDevice : String
  streamSlot : UInt16
  streamEnabled : Bool
  anchor : Bool
  deriving DecidableEq

/-- `path.with_extension(format!("tmp.{}", pid))`. -/
def exportTemporaryName (name : String) (pid : Nat) : String :=
  String.ofList (fileStem name.toList) ++ ".tmp." ++ pid.repr

/-- The file operations of `write_atomic`. -/
def writeAtomicSteps (name : String) (pid : Nat) (bytes : List UInt8) : List FileStep :=
  replaceSteps (exportTemporaryName name pid) name (bytes ++ [10])

def snippet (exports : List CameraExport) : String :=
  exports.foldl
    (fun text camera =>
      text ++ ("  " ++ camera.stableCameraId ++ ":\n    path: " ++ camera.virtualDevice ++ "\n"))
    "cameras:\n"

/-- `cameras.json` and the snippet in the state directory. -/
def exportsName : String := "cameras.json"

def snippetName : String := "lerobot-camera-snippet.yaml"

/-- `camera-map.json`, which lies in the same directory. -/
def mapName : String := "camera-map.json"

/-- `serde_json::to_vec_pretty` for the list. -/
abbrev ExportsJson := List CameraExport → List UInt8

/-- What the files are to contain. -/
def exportsFile (json : ExportsJson) (exports : List CameraExport) : List UInt8 :=
  json exports ++ [10]

def snippetFile (exports : List CameraExport) : List UInt8 :=
  utf8 (snippet exports).toList ++ [10]

/-- The file operations of `write_exports`. -/
def exportSteps (json : ExportsJson) (pid : Nat) (exports : List CameraExport) : List FileStep :=
  writeAtomicSteps exportsName pid (json exports) ++
    writeAtomicSteps snippetName pid (utf8 (snippet exports).toList)

/-! ## Names -/

theorem exportTemporaryName_exports (pid : Nat) :
    (exportTemporaryName exportsName pid).toList = "cameras.tmp.".toList ++ pid.repr.toList := by
  have hstem : fileStem exportsName.toList = "cameras".toList := by decide
  simp [exportTemporaryName, hstem]

theorem exportTemporaryName_snippet (pid : Nat) :
    (exportTemporaryName snippetName pid).toList =
      "lerobot-camera-snippet.tmp.".toList ++ pid.repr.toList := by
  have hstem : fileStem snippetName.toList = "lerobot-camera-snippet".toList := by decide
  simp [exportTemporaryName, hstem]

/-- Names that differ within the fixed part of one of them. -/
theorem ne_of_take_ne {name other : String} {fixed rest : List Char}
    (hname : name.toList = fixed ++ rest) (count : Nat) (hcount : count ≤ fixed.length)
    (h : fixed.take count ≠ other.toList.take count) : name ≠ other := by
  rintro rfl
  rw [hname, List.take_append_of_le_length hcount] at h
  exact h rfl

theorem exportTemporaryName_exports_ne (pid : Nat) :
    exportTemporaryName exportsName pid ∉ [mapName, exportsName, snippetName] := by
  have hname := exportTemporaryName_exports pid
  simp only [List.mem_cons, List.not_mem_nil, or_false, not_or]
  exact ⟨ne_of_take_ne hname 9 (by decide) (by decide),
    ne_of_take_ne hname 9 (by decide) (by decide), ne_of_take_ne hname 9 (by decide) (by decide)⟩

theorem exportTemporaryName_snippet_ne (pid : Nat) :
    exportTemporaryName snippetName pid ∉ [mapName, exportsName, snippetName] := by
  have hname := exportTemporaryName_snippet pid
  simp only [List.mem_cons, List.not_mem_nil, or_false, not_or]
  exact ⟨ne_of_take_ne hname 24 (by decide) (by decide),
    ne_of_take_ne hname 24 (by decide) (by decide), ne_of_take_ne hname 24 (by decide) (by decide)⟩

/-- The temporary file of the map is none of the exports. -/
theorem temporaryName_map_ne (pid : Nat) :
    Discovery.temporaryName mapName pid ∉ [exportsName, snippetName] := by
  have hname : (Discovery.temporaryName mapName pid).toList =
      "camera-map.json.".toList ++ (pid.repr.toList ++ ".tmp".toList) := by
    have hstem : fileStem mapName.toList = "camera-map".toList := by decide
    simp [Discovery.temporaryName, hstem]
  simp only [List.mem_cons, List.not_mem_nil, or_false, not_or]
  exact ⟨ne_of_take_ne hname 7 (by decide) (by decide), ne_of_take_ne hname 7 (by decide) (by decide)⟩

/-! ## What is written -/

variable {directory : Directory} {json : ExportsJson} {exports : List CameraExport}
  {exported : List (List CameraExport)}

/-- A file that `write_atomic` does not replace stays as it is. -/
theorem getElem?_writeAtomicSteps {written : String} {pid : Nat} {bytes : List UInt8} {count : Nat}
    {name : String} (hname : name ≠ written) (htemporary : name ≠ exportTemporaryName written pid) :
    (execute directory ((writeAtomicSteps written pid bytes).take count)).2[name]? =
      directory[name]? := by
  refine getElem?_execute fun step hstep hmem => ?_
  rcases names_replaceSteps (List.mem_of_mem_take hstep) hmem with hsame | hsame
  · exact htemporary hsame
  · exact hname hsame

/-- The exports as they were, or the list replaced, or both files replaced. -/
inductive ExportsReplaced (json : ExportsJson) (exports : List CameraExport)
    (before after : Directory) : Prop where
  | neither (list : after[exportsName]? = before[exportsName]?)
      (snippet : after[snippetName]? = before[snippetName]?)
  | list (list : after[exportsName]? = some (exportsFile json exports))
      (snippet : after[snippetName]? = before[snippetName]?)
  | both (list : after[exportsName]? = some (exportsFile json exports))
      (snippet : after[snippetName]? = some (snippetFile exports))

/-- What is there after any number of the operations of `write_exports`. -/
theorem exportsReplaced_take (json : ExportsJson) (pid : Nat) (exports : List CameraExport)
    (directory : Directory) (count : Nat) :
    ExportsReplaced json exports directory
        (execute directory ((exportSteps json pid exports).take count)).2 ∧
      (execute directory ((exportSteps json pid exports).take count)).2[mapName]? =
        directory[mapName]? := by
  have hlist := exportTemporaryName_exports_ne pid
  have hsnippet := exportTemporaryName_snippet_ne pid
  simp only [List.mem_cons, List.not_mem_nil, or_false, not_or] at hlist hsnippet
  rcases execute_append_take directory (writeAtomicSteps exportsName pid (json exports))
    (writeAtomicSteps snippetName pid (utf8 (snippet exports).toList)) count with
    hfirst | ⟨next, hnext, hsecond⟩
  · rw [exportSteps, hfirst]
    refine ⟨?_, getElem?_writeAtomicSteps (by decide) (Ne.symm hlist.1)⟩
    have hother : (execute directory ((writeAtomicSteps exportsName pid (json exports)).take
        count)).2[snippetName]? = directory[snippetName]? :=
      getElem?_writeAtomicSteps (by decide) (Ne.symm hlist.2.2)
    rcases getElem?_execute_replaceSteps_take hlist.2.1 directory (json exports ++ [10]) count with
      hold | hnew
    · exact .neither hold hother
    · exact .list hnew hother
  · rw [exportSteps, hsecond]
    generalize count - (writeAtomicSteps exportsName pid (json exports)).length = left
    -- the list is replaced, and nothing else so far
    have hlisted : ∀ name, next[name]? =
        if exportsName = name then some (exportsFile json exports) else directory[name]? := by
      intro name
      rw [execute_replaceSteps_eq_ok hnext, ExtTreeMap.getElem?_insert]
      simp [exportsFile]
    refine ⟨?_, ?_⟩
    · have hlist' : (execute next ((writeAtomicSteps snippetName pid
          (utf8 (snippet exports).toList)).take left)).2[exportsName]? =
            some (exportsFile json exports) :=
        (getElem?_writeAtomicSteps (by decide) (Ne.symm hsnippet.2.1)).trans
          ((hlisted _).trans (if_pos rfl))
      rcases getElem?_execute_replaceSteps_take hsnippet.2.2 next
        (utf8 (snippet exports).toList ++ [10]) left with hold | hnew
      · exact .list hlist' (hold.trans ((hlisted _).trans (if_neg (by decide))))
      · exact .both hlist' hnew
    · exact (getElem?_writeAtomicSteps (by decide) (Ne.symm hsnippet.1)).trans
        ((hlisted _).trans (if_neg (by decide)))

/-- `write_exports` that succeeds replaces both files. -/
theorem execute_exportSteps_eq_ok {pid : Nat} {next : Directory}
    (h : execute directory (exportSteps json pid exports) = (.ok (), next)) :
    next = (directory.insert exportsName (exportsFile json exports)).insert snippetName
      (snippetFile exports) := by
  rcases hfirst : execute directory (writeAtomicSteps exportsName pid (json exports)) with
    ⟨result, middle⟩
  cases result with
  | error error =>
    rw [exportSteps, execute_append_error hfirst] at h
    cases h
  | ok result =>
    rw [exportSteps, execute_append_ok hfirst] at h
    rw [execute_replaceSteps_eq_ok h, execute_replaceSteps_eq_ok hfirst]
    rfl

/-- The files are those of lists that were exported, the snippet not of a
later one. Before the first export there are none. -/
def ExportsOnDisk (json : ExportsJson) (exported : List (List CameraExport))
    (directory : Directory) : Prop :=
  ∃ newer older, older ≤ newer ∧ newer ≤ exported.length ∧
    directory[exportsName]? = (exported.take newer).getLast?.map (exportsFile json) ∧
    directory[snippetName]? = (exported.take older).getLast?.map snippetFile

/-- The files are those of the last list. -/
def ExportsCurrent (json : ExportsJson) (exported : List (List CameraExport))
    (directory : Directory) : Prop :=
  directory[exportsName]? = exported.getLast?.map (exportsFile json) ∧
    directory[snippetName]? = exported.getLast?.map snippetFile

theorem ExportsCurrent.onDisk (h : ExportsCurrent json exported directory) :
    ExportsOnDisk json exported directory :=
  ⟨exported.length, exported.length, le_rfl, le_rfl, by simpa using h.1, by simpa using h.2⟩

/-- An export that is stopped anywhere leaves files of lists. -/
theorem ExportsOnDisk.replaced {before after : Directory} (h : ExportsOnDisk json exported before)
    (hreplaced : ExportsReplaced json exports before after) :
    ExportsOnDisk json (exported ++ [exports]) after := by
  obtain ⟨newer, older, holder, hnewer, hlist, hsnippet⟩ := h
  have hkeep : ∀ count ≤ exported.length, (exported ++ [exports]).take count = exported.take count :=
    fun count hcount => List.take_append_of_le_length hcount
  have hlast : ((exported ++ [exports]).take (exported.length + 1)).getLast? = some exports := by
    rw [List.take_of_length_le (by simp)]
    simp
  cases hreplaced with
  | neither hlist' hsnippet' =>
    refine ⟨newer, older, holder, by simp; omega, ?_, ?_⟩
    · rw [hlist', hkeep newer hnewer, hlist]
    · rw [hsnippet', hkeep older (by omega), hsnippet]
  | list hlist' hsnippet' =>
    refine ⟨exported.length + 1, older, by omega, by simp, ?_, ?_⟩
    · rw [hlist', hlast, Option.map_some]
    · rw [hsnippet', hkeep older (by omega), hsnippet]
  | both hlist' hsnippet' =>
    refine ⟨exported.length + 1, exported.length + 1, le_rfl, by simp, ?_, ?_⟩
    · rw [hlist', hlast, Option.map_some]
    · rw [hsnippet', hlast, Option.map_some]

end RobotMulticam.Edge
