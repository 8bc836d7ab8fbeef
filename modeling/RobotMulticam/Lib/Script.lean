import RobotMulticam.Lib.FileTree
import RobotMulticam.Lib.Method

/-!
# Scripts that work on files

A script makes calls to the operating system, and each call may raise. Which
ones do is given by `Faults`: the calls are numbered as they are made. What a
script did before it raised stays, so a statement about a failed run is a
statement about the tree it left.

`Keeps rel script` says what a script does to the tree whatever happens: `rel`
holds between the tree before and the tree after. For a reflexive and
transitive `rel` this composes along the script. Two such relations are used:
nothing changes outside some paths (`Outside`), and nothing that is there goes
away or changes (`Grows`).
-/

namespace RobotMulticam.Lib

/-- The calls that raise, and how many bytes a write that raises has written. -/
structure Faults where
  raises : ℕ → Bool
  written : ℕ → ℕ

structure Host (Name : Type) [LinearOrder Name] where
  tree : FileTree Name
  /-- The number of calls so far. -/
  calls : ℕ

inductive Raised (ε : Type) where
  | os (error : FileError)
  | other (error : ε)
  deriving DecidableEq

abbrev Script (Name ε α : Type) [LinearOrder Name] := Method (Raised ε) (Host Name) α

namespace Script

variable {Name ε α β : Type} [LinearOrder Name]

def raise (error : ε) : Script Name ε α := throw (.err (.other error))

/-- One call. If it raises, nothing happens to the tree. -/
def call (faults : Faults) (operation : FileTree Name → Except FileError (α × FileTree Name)) :
    Script Name ε α := fun host =>
  if faults.raises host.calls then (.error (.err (.os .other)), ⟨host.tree, host.calls + 1⟩)
  else
    match operation host.tree with
    | .error error => (.error (.err (.os error)), ⟨host.tree, host.calls + 1⟩)
    | .ok (value, tree) => (.ok value, ⟨tree, host.calls + 1⟩)

variable (faults : Faults)

/-- A call that only looks at the tree. -/
def look (operation : FileTree Name → Except FileError α) : Script Name ε α :=
  call faults fun tree => (operation tree).map (·, tree)

def mkdir (path : List Name) : Script Name ε Unit :=
  call faults fun tree => (tree.mkdir path).map ((), ·)

def replace (source target : List Name) : Script Name ε Unit :=
  call faults fun tree => (tree.rename source target).map ((), ·)

def pathExists (path : List Name) : Script Name ε Bool :=
  look faults fun tree => .ok (tree.node path).isSome

def isDirectory (path : List Name) : Script Name ε Bool :=
  look faults fun tree => .ok (decide (tree.node path = some .directory))

def read (path : List Name) : Script Name ε (List UInt8) := look faults (·.read path)

/-- Writes to an open file. A call that raises may have written a part. -/
def writeBytes (path : List Name) (contents : List UInt8) : Script Name ε Unit := fun host =>
  if faults.raises host.calls then
    match host.tree.write path (contents.take (faults.written host.calls)) with
    | .error error => (.error (.err (.os error)), ⟨host.tree, host.calls + 1⟩)
    | .ok tree => (.error (.err (.os .other)), ⟨tree, host.calls + 1⟩)
  else call faults (fun tree => (tree.write path contents).map ((), ·)) host

/-- Opens a file, which empties it, writes and closes it. -/
def write (path : List Name) (contents : List UInt8) : Script Name ε Unit := do
  call faults fun tree => (tree.write path []).map ((), ·)
  writeBytes faults path contents
  look faults fun _ => .ok ()

/-- Opens a path, lets the kernel put it on the disk and closes it. -/
def fsync (path : List Name) : Script Name ε Unit := do
  look faults fun tree => if (tree.node path).isSome then .ok () else .error (tree.missing path)
  tryCatch (look faults fun _ => .ok ()) fun fault => do
    look faults fun _ => .ok ()
    throw fault
  look faults fun _ => .ok ()

def isNotFound : Fault (Raised ε) → Bool
  | .err (.os .notFound) => true
  | _ => false

/-- The end of a `mkdir` of a directory that may be there already. -/
def acceptExisting (path : List Name) (fault : Fault (Raised ε)) : Script Name ε Unit := do
  if ← isDirectory faults path then pure () else throw fault

/-- `path.mkdir(exist_ok=True)` -/
def mkdirExisting (path : List Name) : Script Name ε Unit :=
  tryCatch (mkdir faults path) fun fault =>
    if isNotFound fault then throw fault else acceptExisting faults path fault

/-- `mkdir(parents=True, exist_ok=True)` of the first `depth` names of a path. -/
def mkdirParents (path : List Name) : ℕ → Script Name ε Unit
  | 0 => mkdirExisting faults []
  | depth + 1 =>
    tryCatch (mkdir faults (path.take (depth + 1))) fun fault =>
      if isNotFound fault then do
        mkdirParents path depth
        mkdirExisting faults (path.take (depth + 1))
      else acceptExisting faults (path.take (depth + 1)) fault

/-! ## Calls that succeed -/

variable {faults}

theorem map_eq_ok {ε α β : Type} {f : α → β} {result : Except ε α} {value : β} :
    result.map f = .ok value ↔ ∃ found, result = .ok found ∧ f found = value := by
  cases result with
  | error error => simp [Except.map]
  | ok found => simp [Except.map]

variable {host after : Host Name} {path : List Name}

theorem call_eq_ok {operation : FileTree Name → Except FileError (α × FileTree Name)} {value : α} :
    (call faults operation : Script Name ε α) host = (.ok value, after) ↔
      faults.raises host.calls = false ∧ operation host.tree = .ok (value, after.tree) ∧
        after.calls = host.calls + 1 := by
  unfold call
  obtain ⟨tree, calls⟩ := after
  split
  · rename_i hraises
    constructor
    · intro h
      cases h
    · rintro ⟨hcalm, -⟩
      rw [hraises] at hcalm
      cases hcalm
  · rename_i hcalm
    rw [Bool.not_eq_true] at hcalm
    split
    · rename_i error herror
      constructor
      · intro h
        cases h
      · rintro ⟨-, hok, -⟩
        rw [herror] at hok
        cases hok
    · rename_i found next hok
      constructor
      · intro h
        cases h
        exact ⟨hcalm, hok, rfl⟩
      · rintro ⟨-, hsame, rfl⟩
        rw [hok] at hsame
        cases hsame
        rfl

/-- A call that raises leaves the tree alone. -/
theorem tree_eq_of_call_error {operation : FileTree Name → Except FileError (α × FileTree Name)}
    {fault : Fault (Raised ε)}
    (h : (call faults operation : Script Name ε α) host = (.error fault, after)) :
    after.tree = host.tree := by
  unfold call at h
  split at h
  · cases h
    rfl
  · split at h
    · cases h
      rfl
    · cases h

theorem look_eq_ok {operation : FileTree Name → Except FileError α} {value : α} :
    (look faults operation : Script Name ε α) host = (.ok value, after) ↔
      faults.raises host.calls = false ∧ operation host.tree = .ok value ∧
        after = ⟨host.tree, host.calls + 1⟩ := by
  obtain ⟨tree, calls⟩ := after
  rw [look, call_eq_ok, map_eq_ok]
  constructor
  · rintro ⟨hcalm, ⟨found, hfound, hsame⟩, hcalls⟩
    cases hsame
    exact ⟨hcalm, hfound, congrArg _ hcalls⟩
  · rintro ⟨hcalm, hfound, hafter⟩
    cases hafter
    exact ⟨hcalm, ⟨value, hfound, rfl⟩, rfl⟩

/-- A call that changes the tree and returns nothing. -/
theorem change_eq_ok {operation : FileTree Name → Except FileError (FileTree Name)} :
    (call faults (fun tree => (operation tree).map ((), ·)) : Script Name ε Unit) host =
        (.ok (), after) ↔
      faults.raises host.calls = false ∧ operation host.tree = .ok after.tree ∧
        after.calls = host.calls + 1 := by
  rw [call_eq_ok, map_eq_ok]
  simp

theorem write_eq_ok {contents : List UInt8}
    (h : (write faults path contents : Script Name ε Unit) host = (.ok (), after))
    (here : List Name) :
    after.tree.node here = if here = path then some (.file contents) else host.tree.node here := by
  obtain ⟨_, opened, hopen, h⟩ := Method.bind_eq_ok.mp h
  obtain ⟨_, written, hwrite, hclose⟩ := Method.bind_eq_ok.mp h
  obtain ⟨-, hopened, -⟩ := change_eq_ok.mp hopen
  obtain ⟨-, -, rfl⟩ := look_eq_ok.mp hclose
  unfold writeBytes at hwrite
  split at hwrite
  · split at hwrite
    · cases hwrite
    · cases hwrite
  · obtain ⟨-, hwritten, -⟩ := change_eq_ok.mp hwrite
    rw [(FileTree.write_eq_ok.mp hwritten).2.2, (FileTree.write_eq_ok.mp hopened).2.2]
    split
    · rfl
    · rfl

/-- Flushing what is there takes three calls. -/
theorem fsync_eq_ok_iff (hthere : (host.tree.node path).isSome = true) :
    (∃ after, (fsync faults path : Script Name ε Unit) host = (.ok (), after)) ↔
      ∀ k < 3, faults.raises (host.calls + k) = false := by
  constructor
  · rintro ⟨after, h⟩
    obtain ⟨_, opened, hopen, h⟩ := Method.bind_eq_ok.mp h
    obtain ⟨_, flushed, hflush, hclose⟩ := Method.bind_eq_ok.mp h
    obtain ⟨hfirst, -, rfl⟩ := look_eq_ok.mp hopen
    have hlast := (look_eq_ok.mp hclose).1
    rcases hlook : (look faults fun _ => .ok () : Script Name ε Unit) ⟨host.tree, host.calls + 1⟩
      with ⟨result, middle⟩
    cases result with
    | error fault =>
      -- the file is closed, but the error is raised again
      rw [Method.tryCatch_of_error hlook] at hflush
      obtain ⟨_, _, _, hthrow⟩ := Method.bind_eq_ok.mp hflush
      cases hthrow
    | ok value =>
      rw [Method.tryCatch_of_ok hlook] at hflush
      cases hflush
      obtain ⟨hsecond, -, rfl⟩ := look_eq_ok.mp hlook
      intro k hk
      interval_cases k
      · exact hfirst
      · exact hsecond
      · exact hlast
  · intro hcalm
    have hopen : (look faults fun tree => if (tree.node path).isSome then .ok ()
        else .error (tree.missing path) : Script Name ε Unit) host =
          (.ok (), ⟨host.tree, host.calls + 1⟩) :=
      look_eq_ok.mpr ⟨hcalm 0 (by decide), if_pos hthere, rfl⟩
    have hflush : (look faults fun _ => .ok () : Script Name ε Unit) ⟨host.tree, host.calls + 1⟩ =
        (.ok (), ⟨host.tree, host.calls + 2⟩) :=
      look_eq_ok.mpr ⟨hcalm 1 (by decide), rfl, rfl⟩
    have hclose : (look faults fun _ => .ok () : Script Name ε Unit) ⟨host.tree, host.calls + 2⟩ =
        (.ok (), ⟨host.tree, host.calls + 3⟩) :=
      look_eq_ok.mpr ⟨hcalm 2 (by decide), rfl, rfl⟩
    refine ⟨⟨host.tree, host.calls + 3⟩, ?_⟩
    rw [fsync, Method.bind_of_ok hopen, Method.bind_of_ok (Method.tryCatch_of_ok hflush), hclose]

/-! ## What a script keeps -/

def Keeps (rel : FileTree Name → FileTree Name → Prop) (script : Script Name ε α) : Prop :=
  ∀ host, rel host.tree (script host).2.tree

/-- Nothing changes outside the paths that are touched. -/
def Outside (touched : List Name → Prop) (before after : FileTree Name) : Prop :=
  ∀ path, ¬touched path → after.node path = before.node path

/-- What is there stays as it is. -/
def Grows (before after : FileTree Name) : Prop :=
  ∀ path node, before.node path = some node → after.node path = some node

instance (touched : List Name → Prop) : Std.Refl (Outside touched) where
  refl _ _ _ := rfl

instance (touched : List Name → Prop) : IsTrans (FileTree Name) (Outside touched) where
  trans _ _ _ hfirst hsecond path hpath := (hsecond path hpath).trans (hfirst path hpath)

instance : Std.Refl (@Grows Name _) where
  refl _ _ _ h := h

instance : IsTrans (FileTree Name) Grows where
  trans _ _ _ hfirst hsecond path node h := hsecond path node (hfirst path node h)

section
variable {rel : FileTree Name → FileTree Name → Prop}

theorem Keeps.of_eq {script : Script Name ε α} (h : Keeps rel script) {host after : Host Name}
    {result : Outcome (Raised ε) α} (hrun : script host = (result, after)) :
    rel host.tree after.tree := by
  have hkeeps := h host
  rw [hrun] at hkeeps
  exact hkeeps

theorem Keeps.widen {touched more : List Name → Prop} {script : Script Name ε α}
    (h : Keeps (Outside touched) script) (hmore : ∀ path, touched path → more path) :
    Keeps (Outside more) script := fun host path hpath =>
  h host path fun htouched => hpath (hmore path htouched)

theorem keeps_bind [IsTrans (FileTree Name) rel] {first : Script Name ε α}
    {next : α → Script Name ε β} (hfirst : Keeps rel first)
    (hnext : ∀ value, Keeps rel (next value)) : Keeps rel (first >>= next) := by
  intro host
  rcases hrun : first host with ⟨result, middle⟩
  cases result with
  | error fault =>
    rw [Method.bind_of_error hrun]
    exact hfirst.of_eq hrun
  | ok value =>
    rw [Method.bind_of_ok hrun]
    exact IsTrans.trans _ _ _ (hfirst.of_eq hrun) (hnext value middle)

theorem keeps_tryCatch [IsTrans (FileTree Name) rel] {body : Script Name ε α}
    {handler : Fault (Raised ε) → Script Name ε α} (hbody : Keeps rel body)
    (hhandler : ∀ fault, Keeps rel (handler fault)) : Keeps rel (tryCatch body handler) := by
  intro host
  rcases hrun : body host with ⟨result, middle⟩
  cases result with
  | error fault =>
    rw [Method.tryCatch_of_error hrun]
    exact IsTrans.trans _ _ _ (hbody.of_eq hrun) (hhandler fault middle)
  | ok value =>
    rw [Method.tryCatch_of_ok hrun]
    exact hbody.of_eq hrun

variable [Std.Refl rel]

theorem keeps_pure (value : α) : Keeps rel (pure value : Script Name ε α) := fun host =>
  Std.Refl.refl host.tree

theorem keeps_throw (fault : Fault (Raised ε)) : Keeps rel (throw fault : Script Name ε α) :=
  fun host => Std.Refl.refl host.tree

theorem keeps_call {operation : FileTree Name → Except FileError (α × FileTree Name)}
    (h : ∀ tree value after, operation tree = .ok (value, after) → rel tree after) :
    Keeps rel (call faults operation : Script Name ε α) := by
  intro host
  unfold call
  split
  · exact Std.Refl.refl host.tree
  · split
    · exact Std.Refl.refl host.tree
    · rename_i value after hoperation
      exact h _ _ _ hoperation

theorem keeps_look (operation : FileTree Name → Except FileError α) :
    Keeps rel (look faults operation : Script Name ε α) := by
  refine keeps_call ?_
  intro tree value after hlook
  obtain ⟨found, -, hsame⟩ := map_eq_ok.mp hlook
  cases hsame
  exact Std.Refl.refl tree

variable [IsTrans (FileTree Name) rel]

theorem keeps_forM {items : List β} {script : β → Script Name ε PUnit}
    (h : ∀ item, Keeps rel (script item)) : Keeps rel (items.forM script) := by
  induction items with
  | nil => exact keeps_pure _
  | cons item items ih => exact keeps_bind (h item) fun _ => ih

theorem keeps_mapM {items : List β} {script : β → Script Name ε α}
    (h : ∀ item, Keeps rel (script item)) : Keeps rel (items.mapM script) := by
  induction items with
  | nil => exact keeps_pure _
  | cons item items ih =>
    rw [List.mapM_cons]
    exact keeps_bind (h item) fun _ => keeps_bind ih fun _ => keeps_pure _

theorem keeps_fsync (path : List Name) : Keeps rel (fsync faults path : Script Name ε Unit) := by
  refine keeps_bind (keeps_look _) fun _ => keeps_bind ?_ fun _ => keeps_look _
  exact keeps_tryCatch (keeps_look _) fun fault =>
    keeps_bind (keeps_look _) fun _ => keeps_throw fault

theorem keeps_acceptExisting (path : List Name) (fault : Fault (Raised ε)) :
    Keeps rel (acceptExisting faults path fault) := by
  refine keeps_bind (keeps_look _) fun found => ?_
  split
  · exact keeps_pure _
  · exact keeps_throw fault

theorem keeps_mkdirExisting {path : List Name}
    (h : Keeps rel (mkdir faults path : Script Name ε Unit)) :
    Keeps rel (mkdirExisting faults path : Script Name ε Unit) := by
  refine keeps_tryCatch h fun fault => ?_
  split
  · exact keeps_throw fault
  · exact keeps_acceptExisting path fault

/-- Making directories keeps what making each of them keeps. -/
theorem keeps_mkdirParents {path : List Name} (depth : ℕ)
    (h : ∀ above, above <+: path → Keeps rel (mkdir faults above : Script Name ε Unit)) :
    Keeps rel (mkdirParents faults path depth : Script Name ε Unit) := by
  induction depth with
  | zero => exact keeps_mkdirExisting (h [] List.nil_prefix)
  | succ depth ih =>
    have hmkdir := h (path.take (depth + 1)) ( List.take_prefix _ _)
    refine keeps_tryCatch hmkdir fun fault => ?_
    split
    · exact keeps_bind ih fun _ => keeps_mkdirExisting hmkdir
    · exact keeps_acceptExisting _ fault

end

theorem keeps_mkdir_outside (path : List Name) :
    Keeps (Outside (· = path)) (mkdir faults path : Script Name ε Unit) := by
  refine keeps_call ?_
  intro tree value after hmkdir here hhere
  obtain ⟨next, hnext, hsame⟩ := map_eq_ok.mp hmkdir
  cases hsame
  rw [(FileTree.mkdir_eq_ok.mp hnext).2.2, if_neg hhere]

theorem keeps_mkdir_grows (path : List Name) :
    Keeps Grows (mkdir faults path : Script Name ε Unit) := by
  refine keeps_call ?_
  intro tree value after hmkdir here node hnode
  obtain ⟨next, hnext, hsame⟩ := map_eq_ok.mp hmkdir
  cases hsame
  obtain ⟨hfree, -, hafter⟩ := FileTree.mkdir_eq_ok.mp hnext
  rw [hafter, if_neg, hnode]
  rintro rfl
  rw [hfree] at hnode
  cases hnode

/-- A directory that is missing is made exactly if its parent is there and the
call does not raise. -/
theorem mkdirExisting_absent_iff (hfree : host.tree.node path = none) :
    ((mkdirExisting faults path : Script Name ε Unit) host).2.tree.node path = none ↔
      (host.tree.node path.dropLast = some .directory → faults.raises host.calls = true) := by
  rcases hmkdir : (mkdir faults path : Script Name ε Unit) host with ⟨result, made⟩
  cases result with
  | ok value =>
    obtain ⟨hcalm, hmade, -⟩ := change_eq_ok.mp hmkdir
    obtain ⟨-, hparent, hnode⟩ := FileTree.mkdir_eq_ok.mp hmade
    rw [mkdirExisting, Method.tryCatch_of_ok hmkdir, hnode, if_pos rfl]
    simp [hparent, hcalm]
  | error fault =>
    refine iff_of_true ?_ ?_
    · have hhandler : Keeps (Outside fun _ => False) (if isNotFound fault then throw fault
          else acceptExisting faults path fault : Script Name ε Unit) := by
        split
        · exact keeps_throw fault
        · exact keeps_acceptExisting path fault
      rw [mkdirExisting, Method.tryCatch_of_error hmkdir, hhandler made path id,
        tree_eq_of_call_error hmkdir, hfree]
    · intro hparent
      by_contra hcalm
      rw [Bool.not_eq_true] at hcalm
      have hplace : host.tree.mkdir path = .ok (host.tree.place path .directory
          (by rw [hfree]; simp) hparent) :=
        FileTree.mkdir_eq_ok.mpr ⟨hfree, hparent, fun here => rfl⟩
      have hmade : (mkdir faults path : Script Name ε Unit) host =
          (.ok (), ⟨_, host.calls + 1⟩) := change_eq_ok.mpr ⟨hcalm, hplace, rfl⟩
      cases hmkdir.symm.trans hmade

theorem keeps_mkdirParents_outside (path : List Name) (depth : ℕ) :
    Keeps (Outside (· <+: path)) (mkdirParents faults path depth : Script Name ε Unit) :=
  keeps_mkdirParents depth fun above habove =>
    (keeps_mkdir_outside above).widen fun _ hhere => hhere ▸ habove

theorem keeps_mkdirParents_grows (path : List Name) (depth : ℕ) :
    Keeps Grows (mkdirParents faults path depth : Script Name ε Unit) :=
  keeps_mkdirParents depth fun above _ => keeps_mkdir_grows above

theorem keeps_replace_outside (source target : List Name) :
    Keeps (Outside fun path => source <+: path ∨ target <+: path)
      (replace faults source target : Script Name ε Unit) := by
  refine keeps_call ?_
  intro tree value after hrename path hpath
  obtain ⟨next, hnext, hsame⟩ := map_eq_ok.mp hrename
  cases hsame
  by_cases hne : source = target
  · subst hne
    rw [FileTree.rename_self hnext]
  · rw [not_or] at hpath
    rw [(FileTree.rename_eq_ok hnext hne).2.2, if_neg hpath.2, if_neg hpath.1]

theorem keeps_write_outside (path : List Name) (contents : List UInt8) :
    Keeps (Outside (· = path)) (write faults path contents : Script Name ε Unit) := by
  have hwrite : ∀ (tree after : FileTree Name) bytes, tree.write path bytes = .ok after →
      Outside (· = path) tree after := by
    intro tree after bytes h here hhere
    rw [(FileTree.write_eq_ok.mp h).2.2, if_neg hhere]
  have hcall : ∀ bytes, Keeps (Outside (· = path))
      (call faults fun tree => (tree.write path bytes).map ((), ·) : Script Name ε Unit) := by
    intro bytes
    refine keeps_call ?_
    intro tree value after hmap
    obtain ⟨next, hnext, hsame⟩ := map_eq_ok.mp hmap
    cases hsame
    exact hwrite _ _ _ hnext
  refine keeps_bind (hcall []) fun _ => keeps_bind ?_ fun _ => keeps_look _
  intro host
  unfold writeBytes
  split
  · split
    · exact Std.Refl.refl host.tree
    · rename_i tree htree
      exact hwrite _ _ _ htree
  · exact hcall contents host

end Script

end RobotMulticam.Lib
