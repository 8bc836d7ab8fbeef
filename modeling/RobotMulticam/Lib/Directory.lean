import Mathlib

/-!
# Files that are replaced by renaming

A directory maps names to contents. A program changes it in atomic steps and
may stop after any of them, so a crash in the middle of a call leaves what a
prefix of the call's steps did.

`replaceSteps` is the usual way to replace a file: write the new contents to a
temporary file and rename it. `execute_replaceSteps_take` says what is there
after any prefix. The target has its old contents or all of the new ones; the
temporary file is there from the first step up to the renaming.
-/

namespace RobotMulticam.Lib

open Std (ExtTreeMap)

inductive IoError where
  | notFound
  | alreadyExists
  deriving DecidableEq, Repr

abbrev Directory := ExtTreeMap String (List UInt8)

inductive FileStep where
  | createNew (name : String)
  | append (name : String) (bytes : List UInt8)
  | rename (source target : String)

def FileStep.apply (directory : Directory) : FileStep → Except IoError Directory
  | .createNew name =>
    if name ∈ directory then .error .alreadyExists else .ok (directory.insert name [])
  | .append name bytes =>
    match directory[name]? with
    | none => .error .notFound
    | some contents => .ok (directory.insert name (contents ++ bytes))
  | .rename source target =>
    match directory[source]? with
    | none => .error .notFound
    | some contents => .ok ((directory.erase source).insert target contents)

/-- Runs the steps up to the first that fails. -/
def execute (directory : Directory) : List FileStep → Except IoError Unit × Directory
  | [] => (.ok (), directory)
  | step :: steps =>
    match step.apply directory with
    | .error error => (.error error, directory)
    | .ok next => execute next steps

/-- Writes the contents byte by byte to a new file and renames it. -/
def replaceSteps (temporary target : String) (contents : List UInt8) : List FileStep :=
  .createNew temporary :: (contents.map fun byte => .append temporary [byte]) ++
    [.rename temporary target]

section Replace

variable {directory : Directory} {temporary target : String} {contents : List UInt8}

theorem execute_append_ok {before after : List FileStep} {next : Directory}
    (h : execute directory before = (.ok (), next)) :
    execute directory (before ++ after) = execute next after := by
  induction before generalizing directory with
  | nil =>
    cases h
    rfl
  | cons step before ih =>
    rw [execute] at h
    rw [List.cons_append, execute]
    cases happly : step.apply directory with
    | error error =>
      rw [happly] at h
      cases h
    | ok middle =>
      rw [happly] at h
      exact ih h

/-- Bytes are appended to the temporary file. -/
theorem execute_writes (written : List UInt8) :
    execute (directory.insert temporary written)
        (contents.map fun byte => .append temporary [byte]) =
      (.ok (), directory.insert temporary (written ++ contents)) := by
  induction contents generalizing written with
  | nil => simp [execute]
  | cons byte contents ih =>
    have happly : (FileStep.append temporary [byte]).apply
        (directory.insert temporary written) =
          .ok (directory.insert temporary (written ++ [byte])) := by
      rw [FileStep.apply]
      simp only [ExtTreeMap.getElem?_insert_self]
      congr 1
      apply ExtTreeMap.ext_getElem?
      intro name
      simp only [ExtTreeMap.getElem?_insert]
      split <;> rfl
    rw [List.map_cons, execute, happly]
    dsimp only
    rw [ih]
    simp

/-- Renaming the temporary file, which was not there before. -/
theorem apply_rename (h : temporary ∉ directory) :
    (FileStep.rename temporary target).apply (directory.insert temporary contents) =
      .ok (directory.insert target contents) := by
  rw [FileStep.apply]
  simp only [ExtTreeMap.getElem?_insert_self]
  congr 1
  apply ExtTreeMap.ext_getElem?
  intro name
  rw [ExtTreeMap.getElem?_insert, ExtTreeMap.getElem?_insert]
  split
  · rfl
  · rw [ExtTreeMap.getElem?_erase, ExtTreeMap.getElem?_insert]
    split
    · rename_i hname
      rw [← Std.LawfulEqOrd.compare_eq_iff_eq.mp hname, ExtTreeMap.getElem?_eq_none h]
    · rfl

/-- What a crash after `count` steps leaves. -/
theorem execute_replaceSteps_take (h : temporary ∉ directory) (target : String)
    (contents : List UInt8) (count : Nat) :
    (count = 0 ∧ execute directory ((replaceSteps temporary target contents).take count) =
      (.ok (), directory)) ∨
    (0 < count ∧ count ≤ contents.length + 1 ∧
      execute directory ((replaceSteps temporary target contents).take count) =
        (.ok (), directory.insert temporary (contents.take (count - 1)))) ∨
    (contents.length + 1 < count ∧
      execute directory ((replaceSteps temporary target contents).take count) =
        (.ok (), directory.insert target contents)) := by
  have hcreate : (FileStep.createNew temporary).apply directory =
      .ok (directory.insert temporary []) := if_neg h
  rcases count with _ | count
  · exact Or.inl ⟨rfl, rfl⟩
  · refine Or.inr ?_
    rw [replaceSteps, List.cons_append, List.take_succ_cons, execute, hcreate]
    dsimp only
    by_cases hcount : count ≤ contents.length
    · refine Or.inl ⟨by omega, by omega, ?_⟩
      rw [List.take_append_of_le_length (by simpa using hcount), ← List.map_take]
      exact execute_writes []
    · refine Or.inr ⟨by omega, ?_⟩
      have hall : ((contents.map fun byte => FileStep.append temporary [byte]) ++
          [FileStep.rename temporary target]).take count =
            (contents.map fun byte => FileStep.append temporary [byte]) ++
              [FileStep.rename temporary target] := by
        refine List.take_of_length_le ?_
        simp
        omega
      rw [hall, execute_append_ok (execute_writes []), execute, List.nil_append,
        apply_rename h]
      rfl

/-- The whole replacement: it succeeds exactly when the temporary file is not
there. -/
theorem execute_replaceSteps (directory : Directory) (temporary target : String)
    (contents : List UInt8) :
    execute directory (replaceSteps temporary target contents) =
      if temporary ∈ directory then (.error .alreadyExists, directory)
      else (.ok (), directory.insert target contents) := by
  split
  · rename_i hthere
    rw [replaceSteps, List.cons_append, execute, FileStep.apply, if_pos hthere]
  · rename_i hfree
    have hlength : (replaceSteps temporary target contents).length = contents.length + 2 := by
      simp [replaceSteps]
    rcases execute_replaceSteps_take hfree target contents (contents.length + 2) with
      ⟨hzero, _⟩ | ⟨_, hfew, _⟩ | ⟨_, hall⟩
    · omega
    · omega
    · rw [List.take_of_length_le (by omega)] at hall
      exact hall

/-- A replacement that succeeds leaves the new contents, and nothing else. -/
theorem execute_replaceSteps_eq_ok {next : Directory}
    (h : execute directory (replaceSteps temporary target contents) = (.ok (), next)) :
    next = directory.insert target contents := by
  rw [execute_replaceSteps] at h
  split at h
  · cases h
  · cases h
    rfl

/-- The target after any number of steps: as it was, or with all of the new
contents. -/
theorem getElem?_execute_replaceSteps_take (h : temporary ≠ target) (directory : Directory)
    (contents : List UInt8) (count : Nat) :
    (execute directory ((replaceSteps temporary target contents).take count)).2[target]? =
        directory[target]? ∨
      (execute directory ((replaceSteps temporary target contents).take count)).2[target]? =
        some contents := by
  by_cases hthere : temporary ∈ directory
  · -- `create_new` fails, and nothing happens
    refine Or.inl ?_
    cases count with
    | zero => rfl
    | succ count =>
      rw [replaceSteps, List.cons_append, List.take_succ_cons, execute, FileStep.apply,
        if_pos hthere]
  · rcases execute_replaceSteps_take hthere target contents count with
      ⟨_, hnothing⟩ | ⟨_, _, hwritten⟩ | ⟨_, hrenamed⟩
    · rw [hnothing]
      exact Or.inl rfl
    · rw [hwritten, ExtTreeMap.getElem?_insert,
        if_neg (by simpa [Std.LawfulEqOrd.compare_eq_iff_eq] using h)]
      exact Or.inl rfl
    · rw [hrenamed, ExtTreeMap.getElem?_insert_self]
      exact Or.inr rfl

end Replace

/-! ## Other files -/

/-- The files that a step reads or writes. -/
def FileStep.names : FileStep → List String
  | .createNew name => [name]
  | .append name _ => [name]
  | .rename source target => [source, target]

variable {directory next : Directory} {step : FileStep} {name : String}

theorem FileStep.getElem?_apply (h : step.apply directory = .ok next) (hother : name ∉ step.names) :
    next[name]? = directory[name]? := by
  cases step with
  | createNew created =>
    rw [FileStep.names, List.mem_singleton] at hother
    rw [FileStep.apply] at h
    split at h
    · cases h
    · cases h
      rw [ExtTreeMap.getElem?_insert, if_neg]
      simpa [Std.LawfulEqOrd.compare_eq_iff_eq] using Ne.symm hother
  | append written bytes =>
    rw [FileStep.names, List.mem_singleton] at hother
    rw [FileStep.apply] at h
    split at h
    · cases h
    · cases h
      rw [ExtTreeMap.getElem?_insert, if_neg]
      simpa [Std.LawfulEqOrd.compare_eq_iff_eq] using Ne.symm hother
  | rename source target =>
    rw [FileStep.names, List.mem_cons, List.mem_singleton, not_or] at hother
    rw [FileStep.apply] at h
    split at h
    · cases h
    · cases h
      rw [ExtTreeMap.getElem?_insert, if_neg, ExtTreeMap.getElem?_erase, if_neg]
      · simpa [Std.LawfulEqOrd.compare_eq_iff_eq] using Ne.symm hother.1
      · simpa [Std.LawfulEqOrd.compare_eq_iff_eq] using Ne.symm hother.2

/-- A file that no step names stays as it is. -/
theorem getElem?_execute {steps : List FileStep} (hother : ∀ step ∈ steps, name ∉ step.names) :
    (execute directory steps).2[name]? = directory[name]? := by
  induction steps generalizing directory with
  | nil => rfl
  | cons step steps ih =>
    rw [execute]
    cases happly : step.apply directory with
    | error error => rfl
    | ok next =>
      have hrest : (execute next steps).2[name]? = next[name]? :=
        ih fun later hlater => hother later (List.mem_cons_of_mem _ hlater)
      exact hrest.trans (step.getElem?_apply happly (hother step List.mem_cons_self))

theorem names_replaceSteps {temporary target : String} {contents : List UInt8}
    (h : step ∈ replaceSteps temporary target contents) (hname : name ∈ step.names) :
    name = temporary ∨ name = target := by
  rw [replaceSteps, List.cons_append, List.mem_cons, List.mem_append, List.mem_map,
    List.mem_singleton] at h
  rcases h with rfl | ⟨byte, -, rfl⟩ | rfl
  · exact Or.inl (List.mem_singleton.mp hname)
  · exact Or.inl (List.mem_singleton.mp hname)
  · simpa [FileStep.names] using hname

/-- A step that fails ends the run. -/
theorem execute_append_error {before after : List FileStep} {error : IoError}
    (h : execute directory before = (.error error, next)) :
    execute directory (before ++ after) = (.error error, next) := by
  induction before generalizing directory with
  | nil => cases h
  | cons step before ih =>
    rw [execute] at h
    rw [List.cons_append, execute]
    cases happly : step.apply directory with
    | error failed =>
      rw [happly] at h
      exact h
    | ok middle =>
      rw [happly] at h
      exact ih h

/-- What a crash leaves of two groups of steps, one behind the other. -/
theorem execute_append_take (directory : Directory) (first second : List FileStep) (count : Nat) :
    (execute directory ((first ++ second).take count)).2 =
        (execute directory (first.take count)).2 ∨
      ∃ next, execute directory first = (.ok (), next) ∧
        (execute directory ((first ++ second).take count)).2 =
          (execute next (second.take (count - first.length))).2 := by
  rw [List.take_append]
  rcases hfirst : execute directory (first.take count) with ⟨result, next⟩
  cases result with
  | error error =>
    rw [execute_append_error hfirst]
    exact Or.inl rfl
  | ok result =>
    rw [execute_append_ok hfirst]
    by_cases hcount : count ≤ first.length
    · rw [Nat.sub_eq_zero_of_le hcount]
      exact Or.inl rfl
    · rw [List.take_of_length_le (by omega)] at hfirst
      exact Or.inr ⟨next, hfirst, rfl⟩

end RobotMulticam.Lib
