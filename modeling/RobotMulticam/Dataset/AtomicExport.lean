import RobotMulticam.Lib.Script
import RobotMulticam.Lib.Text

/-!
# Exports that are committed by a rename

`AtomicExport.run` builds a dataset in a temporary directory and renames it to
its final path. A run that raises is meant to have committed nothing; callers
take every exception as that.

The run is cut into the steps below, and for each there is a lemma on what it
does to the final path: `build` and `validate` apart, nothing in front of the
rename touches it, and what is committed is what `build` left and `validate`
accepted, with the provenance. The paths are those of a tree without links,
and nobody else works on it meanwhile.
-/

namespace RobotMulticam.Dataset

open RobotMulticam.Lib
open RobotMulticam.Lib.Script
open RobotMulticam.Lib.Text (hexDigits)

inductive ExportFailure where
  | exportError (message : String)
  /-- Raised by `build` or `validate`. -/
  | callback (text : String)
  /-- Raised by `json.dumps`. -/
  | serialization (text : String)
  deriving DecidableEq

/-- The arguments of a run. `build` and `validate` may do anything to the tree. -/
structure ExportJob where
  build : List String → Script String ExportFailure Unit
  validate : List String → Script String ExportFailure Unit
  /-- The text of the provenance with its checksums. -/
  dumps : List (String × List UInt8) → Except String (List UInt8)

structure AtomicExport where
  temporaryRoot : List String
  finalPath : List String

/-- The name that a run draws for its directory. It is random, and no part of
the final path, which was chosen before. -/
structure ExportName (plan : AtomicExport) where
  uuid : String
  fresh : "export-" ++ uuid ∉ plan.finalPath

/-- The host of a run: the calls that raise, the device of a path, and
`hashlib`. -/
structure ExportHost where
  faults : Faults
  device : List String → ℕ
  sha256 : List UInt8 → Vector UInt8 32

/-! ## The checksums -/

def isFile (tree : FileTree String) (path : List String) : Bool :=
  (tree.node path).any (· ≠ .directory)

/-- The files below a directory. -/
def filesBelow (tree : FileTree String) (root : List String) : List (List String) :=
  (tree.below root).filter (isFile tree)

def directoriesBelow (tree : FileTree String) (root : List String) : List (List String) :=
  (tree.below root).filter fun path => decide (tree.node path = some .directory)

/-- The entry of a file: its path below the root, and its digest. -/
def checksumEntry (host : ExportHost) (root path : List String) (bytes : List UInt8) :
    String × List UInt8 :=
  ("/".intercalate (path.drop root.length), hexDigits (host.sha256 bytes).toList)

/-- The checksums of a tree. -/
def checksums (host : ExportHost) (tree : FileTree String) (root : List String) :
    List (String × List UInt8) :=
  (filesBelow tree root).map fun path =>
    checksumEntry host root path ((tree.read path).toOption.getD [])

def checksumTree (host : ExportHost) (root : List String) :
    Script String ExportFailure (List (String × List UInt8)) := do
  let files ← look host.faults fun tree => .ok (filesBelow tree root)
  files.mapM fun path => do
    let bytes ← Script.read host.faults path
    pure (checksumEntry host root path bytes)

def fsyncTree (faults : Faults) (root : List String) : Script String ExportFailure Unit := do
  let files ← look faults fun tree => .ok (filesBelow tree root)
  files.forM (fsync faults)
  let directories ← look faults fun tree => .ok (directoriesBelow tree root)
  directories.reverse.forM (fsync faults)
  fsync faults root

/-! ## The transaction -/

namespace AtomicExport

variable (self : AtomicExport) (host : ExportHost) (job : ExportJob) (name : ExportName self)

def temporary : List String := self.temporaryRoot ++ ["export-" ++ name.uuid]

def failedDirectory : List String := self.temporaryRoot ++ ["failed"]

def createTemporaryRoot : Script String ExportFailure Unit :=
  mkdirParents host.faults self.temporaryRoot self.temporaryRoot.length

def stat (path : List String) : Script String ExportFailure ℕ :=
  look host.faults fun tree =>
    if (tree.node path).isSome then .ok (host.device path) else .error (tree.missing path)

/-- Makes the temporary directory, if it is on the device of the final path. -/
def createTemporary : Script String ExportFailure Unit := do
  let temporaryDevice ← stat host self.temporaryRoot
  let finalDevice ← stat host self.finalPath.dropLast
  if temporaryDevice ≠ finalDevice then
    raise (.exportError "atomic export requires temporary and final paths on one filesystem")
  else mkdir host.faults (self.temporary name)

/-- From the parent of the final path to the temporary directory. -/
def reserve : Script String ExportFailure Unit := do
  mkdirParents host.faults self.finalPath.dropLast self.finalPath.dropLast.length
  if ← pathExists host.faults self.finalPath then
    raise (.exportError "committed dataset already exists")
  else self.createTemporary host name

/-- Everything in front of the `try`. -/
def prepare : Script String ExportFailure Unit := do
  self.createTemporaryRoot host
  self.reserve host name

def work : Script String ExportFailure Unit := do
  job.build (self.temporary name)
  job.validate (self.temporary name)

/-- Writes the provenance and flushes the temporary directory. -/
def addProvenance : Script String ExportFailure Unit := do
  let checksums ← checksumTree host (self.temporary name)
  match job.dumps checksums with
  | .error text => raise (.serialization text)
  | .ok payload =>
    Script.write host.faults (self.temporary name ++ ["export-provenance.json"]) payload
    fsyncTree host.faults (self.temporary name)

/-- The `try` block up to the rename. -/
def commit : Script String ExportFailure Unit := do
  self.work job name
  self.addProvenance host job name
  replace host.faults (self.temporary name) self.finalPath

/-- Moves what is left of the export to the failed ones. -/
def moveAside : Script String ExportFailure Unit := do
  if ← pathExists host.faults (self.temporary name) then
    replace host.faults (self.temporary name)
      (self.failedDirectory ++ ["export-" ++ name.uuid])

/-- The `except` block. -/
def quarantine : Script String ExportFailure Unit := do
  mkdirExisting host.faults self.failedDirectory
  self.moveAside host name

def run : Script String ExportFailure (List String) := do
  self.prepare host name
  tryCatch
    (do
      self.commit host job name
      fsync host.faults self.finalPath.dropLast
      pure self.finalPath)
    fun fault => do
      self.quarantine host name
      throw fault

end AtomicExport

/-! ## What the steps do -/

/-- A path keeps what it has. -/
def Stays (path : List String) (before after : FileTree String) : Prop :=
  ∀ node, before.node path = some node → after.node path = some node

instance (path : List String) : Std.Refl (Stays path) where
  refl _ _ h := h

instance (path : List String) : IsTrans (FileTree String) (Stays path) where
  trans _ _ _ hfirst hsecond node h := hsecond node (hfirst node h)

variable {α : Type} {after : Host String} {rel : FileTree String → FileTree String → Prop}
  {entries : List (String × List UInt8)} {script : Script String ExportFailure α}
  {host : ExportHost} {root : List String} {start : Host String}

theorem stays_of_grows (h : Keeps Grows script) (path : List String) : Keeps (Stays path) script :=
  fun host => h host path

theorem stays_of_outside {touched : List String → Prop} {path : List String}
    (h : Keeps (Outside touched) script) (hpath : ¬touched path) :
    Keeps (Stays path) script := fun host node hnode => by
  rw [h host path hpath, hnode]

/-- Calls that only look leave the tree alone. -/
theorem tree_eq_of_keeps (h : Keeps (Outside fun _ => False) script) {host : Host String}
    {result : Outcome (Raised ExportFailure) α} (hrun : script host = (result, after)) :
    after.tree = host.tree := by
  ext1 path
  exact h.of_eq hrun path id

theorem keeps_checksumTree [Std.Refl rel] [IsTrans (FileTree String) rel] (host : ExportHost)
    (root : List String) : Keeps rel (checksumTree host root) :=
  keeps_bind (keeps_look _) fun _ => keeps_mapM fun _ =>
    keeps_bind (keeps_look _) fun _ => keeps_pure _

theorem keeps_fsyncTree [Std.Refl rel] [IsTrans (FileTree String) rel] (faults : Faults)
    (root : List String) : Keeps rel (fsyncTree faults root) :=
  keeps_bind (keeps_look _) fun _ => keeps_bind (keeps_forM fun _ => keeps_fsync _) fun _ =>
    keeps_bind (keeps_look _) fun _ => keeps_bind (keeps_forM fun _ => keeps_fsync _) fun _ =>
      keeps_fsync _

/-- Reading file after file gives the contents of the tree at the start. -/
theorem mapM_read_eq_ok {files : List (List String)}
    (h : (files.mapM fun path => (do
      let bytes ← Script.read host.faults path
      pure (checksumEntry host root path bytes) : Script String ExportFailure _)) start =
        (.ok entries, after)) :
    entries = files.map fun path =>
      checksumEntry host root path ((start.tree.read path).toOption.getD []) := by
  induction files generalizing start entries with
  | nil =>
    cases h
    rfl
  | cons path files ih =>
    rw [List.mapM_cons] at h
    obtain ⟨entry, middle, hentry, h⟩ := Method.bind_eq_ok.mp h
    obtain ⟨others, last, hothers, hpure⟩ := Method.bind_eq_ok.mp h
    obtain ⟨bytes, opened, hread, hbytes⟩ := Method.bind_eq_ok.mp hentry
    obtain ⟨-, hcontents, rfl⟩ := look_eq_ok.mp hread
    cases hbytes
    cases hpure
    rw [ih hothers, List.map_cons, hcontents]
    rfl

theorem checksumTree_eq_ok (h : checksumTree host root start = (.ok entries, after)) :
    entries = checksums host start.tree root ∧ after.tree = start.tree := by
  refine ⟨?_, tree_eq_of_keeps (keeps_checksumTree host root) h⟩
  obtain ⟨files, listed, hlist, hread⟩ := Method.bind_eq_ok.mp h
  obtain ⟨-, hfiles, rfl⟩ := look_eq_ok.mp hlist
  cases hfiles
  have hentries := mapM_read_eq_ok hread
  exact hentries

namespace AtomicExport

variable {self : AtomicExport} {host : ExportHost} {job : ExportJob} {name : ExportName self}

theorem not_temporary_isPrefix : ¬self.temporary name <+: self.finalPath := by
  intro h
  exact name.fresh (h.mem (by simp [temporary]))

theorem finalPath_ne_temporary : self.finalPath ≠ self.temporary name := by
  intro h
  apply name.fresh
  rw [h]
  simp [temporary]

theorem not_quarantine_isPrefix :
    ¬self.failedDirectory ++ ["export-" ++ name.uuid] <+: self.finalPath := by
  intro h
  exact name.fresh (h.mem (by simp))

/-! ### In front of the `try` -/

theorem finalPath_ne_nil {tree : FileTree String} (h : tree.node self.finalPath = none) :
    self.finalPath ≠ [] := by
  intro hnil
  rw [hnil, tree.root] at h
  cases h

variable {start after : Host String}

/-- With a dataset at the final path, nothing is reserved, and it is left as it
is. -/
theorem reserve_of_there (hthere : (start.tree.node self.finalPath).isSome = true) :
    ∃ fault after, self.reserve host name start = (.error fault, after) ∧
      ∀ path, self.finalPath <+: path → after.tree.node path = start.tree.node path := by
  rcases hmkdir : (mkdirParents host.faults self.finalPath.dropLast
    self.finalPath.dropLast.length : Script String ExportFailure Unit) start with ⟨result, made⟩
  have hsame : ∀ path, self.finalPath <+: path → made.tree.node path = start.tree.node path := by
    intro path hpath
    by_cases habove : path <+: self.finalPath.dropLast
    · -- the path is the final path itself, and is there already
      have hpath : path = self.finalPath :=
        (habove.trans ( List.dropLast_prefix _)).eq_of_length_le hpath.length_le
      obtain ⟨node, hnode⟩ := Option.isSome_iff_exists.mp hthere
      rw [hpath, hnode]
      exact (keeps_mkdirParents_grows _ _).of_eq hmkdir _ _ hnode
    · exact (keeps_mkdirParents_outside _ _).of_eq hmkdir path habove
  cases result with
  | error fault => exact ⟨fault, made, Method.bind_of_error hmkdir, hsame⟩
  | ok value =>
    unfold reserve
    rw [Method.bind_of_ok hmkdir]
    rcases hexists : (pathExists host.faults self.finalPath : Script String ExportFailure Bool)
      made with ⟨found, looked⟩
    have hlooked : looked.tree = made.tree := tree_eq_of_keeps (keeps_look _) hexists
    cases found with
    | error fault =>
      refine ⟨fault, looked, Method.bind_of_error hexists, ?_⟩
      rw [hlooked]
      exact hsame
    | ok found =>
      have hfound : found = true := by
        obtain ⟨-, hfound, -⟩ := look_eq_ok.mp hexists
        rw [← Except.ok.inj hfound, hsame _ List.prefix_rfl]
        exact hthere
      subst hfound
      rw [Method.bind_of_ok hexists]
      refine ⟨_, looked, rfl, ?_⟩
      rw [hlooked]
      exact hsame

theorem keeps_reserve :
    Keeps (Outside fun path => path <+: self.finalPath.dropLast ∨ path = self.temporary name)
      (self.reserve host name) := by
  refine keeps_bind ((keeps_mkdirParents_outside _ _).widen fun _ h => Or.inl h) fun _ => ?_
  refine keeps_bind (keeps_look _) fun found => ?_
  split
  · exact keeps_throw _
  · refine keeps_bind (keeps_look _) fun _ => keeps_bind (keeps_look _) fun _ => ?_
    split
    · exact keeps_throw _
    · exact (keeps_mkdir_outside _).widen fun _ h => Or.inr h

/-- The final path is not made by what comes in front of it. -/
theorem reserve_of_absent (habsent : start.tree.node self.finalPath = none) :
    (self.reserve host name start).2.tree.node self.finalPath = none := by
  rw [keeps_reserve start self.finalPath, habsent]
  rintro (habove | htemporary)
  · have hlength := habove.length_le
    have hpositive := List.length_pos_of_ne_nil (finalPath_ne_nil habsent)
    rw [List.length_dropLast] at hlength
    omega
  · exact finalPath_ne_temporary htemporary

/-! ### The `try` block -/

theorem keeps_addProvenance :
    Keeps (Outside (self.temporary name <+: ·)) (self.addProvenance host job name) := by
  refine keeps_bind (keeps_checksumTree _ _) fun entries => ?_
  cases job.dumps entries with
  | error text => exact keeps_throw _
  | ok payload =>
    refine keeps_bind ((keeps_write_outside _ _).widen ?_) fun _ => keeps_fsyncTree _ _
    rintro path rfl
    exact List.prefix_append _ _

theorem addProvenance_eq_ok (h : self.addProvenance host job name start = (.ok (), after)) :
    ∃ payload, job.dumps (checksums host start.tree (self.temporary name)) = .ok payload ∧
      ∀ path, after.tree.node path =
        if path = self.temporary name ++ ["export-provenance.json"] then some (.file payload)
        else start.tree.node path := by
  unfold addProvenance at h
  obtain ⟨entries, summed, hsummed, h⟩ := Method.bind_eq_ok.mp h
  obtain ⟨rfl, htree⟩ := checksumTree_eq_ok hsummed
  cases hdumps : job.dumps (checksums host start.tree (self.temporary name)) with
  | error text =>
    rw [hdumps] at h
    cases h
  | ok payload =>
    rw [hdumps] at h
    obtain ⟨_, written, hwritten, hflushed⟩ := Method.bind_eq_ok.mp h
    refine ⟨payload, rfl, ?_⟩
    intro path
    rw [tree_eq_of_keeps (keeps_fsyncTree _ _) hflushed, write_eq_ok hwritten, htree]

/-- A rename that raises has not happened: the final path is as `build` and
`validate` left it. -/
theorem commit_eq_error {fault : Fault (Raised ExportFailure)}
    (h : self.commit host job name start = (.error fault, after)) :
    after.tree.node self.finalPath = (self.work job name start).2.tree.node self.finalPath := by
  unfold commit at h
  rcases hwork : self.work job name start with ⟨result, worked⟩
  cases result with
  | error raised =>
    rw [Method.bind_of_error hwork] at h
    cases h
    rfl
  | ok value =>
    rw [Method.bind_of_ok hwork] at h
    rcases hadd : self.addProvenance host job name worked with ⟨result, filled⟩
    have hadded : filled.tree.node self.finalPath = worked.tree.node self.finalPath :=
      keeps_addProvenance.of_eq hadd _ not_temporary_isPrefix
    cases result with
    | error raised =>
      rw [Method.bind_of_error hadd] at h
      cases h
      exact hadded
    | ok value =>
      rw [Method.bind_of_ok hadd] at h
      rw [tree_eq_of_call_error h]
      exact hadded

/-- What is at the final path after the rename. -/
theorem commit_eq_ok (h : self.commit host job name start = (.ok (), after)) :
    (after.tree.node self.finalPath).isSome = true ∧ ∃ validated payload,
      self.work job name start = (.ok (), validated) ∧
      job.dumps (checksums host validated.tree (self.temporary name)) = .ok payload ∧
      ∀ rest, after.tree.node (self.finalPath ++ rest) =
        if rest = ["export-provenance.json"] then some (.file payload)
        else validated.tree.node (self.temporary name ++ rest) := by
  obtain ⟨_, validated, hvalidated, h⟩ := Method.bind_eq_ok.mp h
  obtain ⟨_, filled, hfilled, hreplace⟩ := Method.bind_eq_ok.mp h
  obtain ⟨payload, hdumps, hnode⟩ := addProvenance_eq_ok hfilled
  obtain ⟨-, hrename, -⟩ := change_eq_ok.mp hreplace
  have hmoved : ∀ rest, after.tree.node (self.finalPath ++ rest) =
      filled.tree.node (self.temporary name ++ rest) := by
    intro rest
    rw [(FileTree.rename_eq_ok hrename finalPath_ne_temporary.symm).2.2,
      if_pos (List.prefix_append _ _), List.drop_left]
  refine ⟨?_, validated, payload, hvalidated, hdumps, ?_⟩
  · have hroot := hmoved []
    rw [List.append_nil, List.append_nil] at hroot
    rw [hroot]
    exact FileTree.isSome_of_rename hrename
  · intro rest
    rw [hmoved, hnode]
    simp only [List.append_cancel_left_eq]

/-! ### The `except` block -/

theorem keeps_moveAside :
    Keeps (Outside fun path => self.temporary name <+: path ∨
      self.failedDirectory ++ ["export-" ++ name.uuid] <+: path) (self.moveAside host name) := by
  refine keeps_bind (keeps_look _) fun found => ?_
  split
  · exact keeps_replace_outside _ _
  · exact keeps_pure _

/-- The final path is not among the paths that are moved. -/
theorem not_moved : ¬(self.temporary name <+: self.finalPath ∨
    self.failedDirectory ++ ["export-" ++ name.uuid] <+: self.finalPath) := by
  rintro (htemporary | hquarantine)
  · exact not_temporary_isPrefix htemporary
  · exact not_quarantine_isPrefix hquarantine

/-- A committed dataset is not moved aside. -/
theorem keeps_quarantine : Keeps (Stays self.finalPath) (self.quarantine host name) :=
  keeps_bind (keeps_mkdirExisting (stays_of_grows (keeps_mkdir_grows _) _))
    fun _ => stays_of_outside keeps_moveAside not_moved

/-- Moving a failed export aside makes the final path exactly if that is the
directory for failed exports and can be made. -/
theorem quarantine_absent_iff :
    (self.quarantine host name start).2.tree.node self.finalPath = none ↔
      start.tree.node self.finalPath = none ∧
      (self.finalPath = self.failedDirectory →
        start.tree.node self.temporaryRoot = some .directory →
        host.faults.raises start.calls = true) := by
  cases hthere : start.tree.node self.finalPath with
  | some node => simp [keeps_quarantine start node hthere]
  | none =>
    rcases hmkdir : (mkdirExisting host.faults self.failedDirectory :
      Script String ExportFailure Unit) start with ⟨result, made⟩
    have hend : (self.quarantine host name start).2.tree.node self.finalPath =
        made.tree.node self.finalPath := by
      unfold quarantine
      cases result with
      | error fault => rw [Method.bind_of_error hmkdir]
      | ok value =>
        rw [Method.bind_of_ok hmkdir]
        exact keeps_moveAside made self.finalPath not_moved
    rw [hend]
    by_cases hfailed : self.finalPath = self.failedDirectory
    · rw [hfailed] at hthere ⊢
      have hparent : self.failedDirectory.dropLast = self.temporaryRoot := List.dropLast_concat
      have habsent : ((mkdirExisting host.faults self.failedDirectory :
          Script String ExportFailure Unit) start).2.tree.node self.failedDirectory = none ↔ _ :=
        mkdirExisting_absent_iff hthere
      rw [hmkdir, hparent] at habsent
      simpa using habsent
    · rw [(keeps_mkdirExisting (keeps_mkdir_outside _)).of_eq hmkdir self.finalPath hfailed]
      simp [hfailed, hthere]

end AtomicExport

end RobotMulticam.Dataset
