import Mathlib

/-!
# File trees

A file tree says which node is at a path, for finitely many paths. What is at
a path has a directory above it, so nothing is below a file or a path that is
not there. The operations are those of a Unix kernel on trees without links:
each one succeeds and changes the tree, or fails with its error and changes
nothing.
-/

namespace RobotMulticam.Lib

inductive FileError where
  | notFound
  | alreadyExists
  | notADirectory
  | isADirectory
  | notEmpty
  | invalidInput
  /-- Any other reason: permissions, a full or a broken disk. -/
  | other
  deriving DecidableEq

inductive Node where
  | directory
  | file (contents : List UInt8)
  deriving DecidableEq

structure FileTree (Name : Type) [LinearOrder Name] where
  node : List Name → Option Node
  paths : Finset (List Name)
  mem_paths : ∀ path, path ∈ paths ↔ (node path).isSome = true
  root : node [] = some .directory
  parent : ∀ path name, (node (path ++ [name])).isSome = true → node path = some .directory

namespace FileTree

variable {Name : Type} [LinearOrder Name] {tree : FileTree Name} {path : List Name}

@[ext] theorem ext {left right : FileTree Name} (h : ∀ path, left.node path = right.node path) :
    left = right := by
  obtain ⟨node, paths, hpaths, _, _⟩ := left
  obtain ⟨node', paths', hpaths', _, _⟩ := right
  obtain rfl : node = node' := funext h
  obtain rfl : paths = paths' := by
    ext path
    rw [hpaths, hpaths']
  rfl

/-- The tree of nothing but the root. -/
def empty : FileTree Name where
  node path := if path = [] then some .directory else none
  paths := {[]}
  mem_paths path := by
    by_cases hroot : path = []
    · simp [hroot]
    · simp [hroot]
  root := rfl
  parent path name hthere := by
    rw [if_neg (by simp)] at hthere
    cases hthere

variable {above : List Name} {next : FileTree Name}

/-- What is above something that is there is a directory. -/
theorem directory_above (hthere : (tree.node path).isSome = true) (habove : above <+: path)
    (hne : above ≠ path) : tree.node above = some .directory := by
  obtain ⟨below, rfl⟩ := habove
  induction below using List.reverseRecOn with
  | nil => exact absurd (List.append_nil above).symm hne
  | append_singleton below name ih =>
    rw [← List.append_assoc] at hthere
    have hparent := tree.parent _ _ hthere
    by_cases hempty : below = []
    · rw [hempty, List.append_nil] at hparent
      exact hparent
    · refine ih (by rw [hparent]; rfl) ?_
      simpa using hempty

theorem isSome_of_isSome_below (hthere : (tree.node path).isSome = true) (habove : above <+: path) :
    (tree.node above).isSome = true := by
  by_cases hsame : above = path
  · rw [hsame]
    exact hthere
  · rw [directory_above hthere habove hsame]
    rfl

theorem node_eq_none_below (hnone : tree.node above = none) (habove : above <+: path) :
    tree.node path = none := by
  by_contra hsome
  have hthere := isSome_of_isSome_below (Option.isSome_iff_ne_none.mpr hsome) habove
  rw [hnone] at hthere
  cases hthere

/-- The error for a path of which nothing is there: the way to it may end at
a file. -/
def missing (tree : FileTree Name) (path : List Name) : FileError :=
  if path.inits.any fun above => (tree.node above).any (· ≠ .directory) then .notADirectory
  else .notFound

/-! ## Directories and files -/

/-- A tree with a new node in a directory, in the place of a file or of
nothing. -/
def place (tree : FileTree Name) (path : List Name) (new : Node)
    (hfree : tree.node path ≠ some .directory)
    (hparent : tree.node path.dropLast = some .directory) : FileTree Name where
  node here := if here = path then some new else tree.node here
  paths := insert path tree.paths
  mem_paths here := by
    rw [Finset.mem_insert, tree.mem_paths]
    split
    · rename_i hat
      simp [hat]
    · rename_i hat
      simp [hat]
  root := by
    rw [if_neg, tree.root]
    rintro rfl
    exact hfree tree.root
  parent above name hthere := by
    have hne : above ≠ path := by
      rintro rfl
      rw [if_neg (by simp)] at hthere
      exact hfree (tree.parent _ _ hthere)
    rw [if_neg hne]
    split at hthere
    · rename_i hat
      rw [← hat, List.dropLast_concat] at hparent
      exact hparent
    · exact tree.parent above name hthere

def mkdir (tree : FileTree Name) (path : List Name) : Except FileError (FileTree Name) :=
  if hthere : (tree.node path).isSome = true then .error .alreadyExists
  else if hparent : tree.node path.dropLast = some .directory then
    .ok (tree.place path .directory (by rintro h; simp [h] at hthere) hparent)
  else .error (tree.missing path)

theorem mkdir_eq_ok :
    tree.mkdir path = .ok next ↔
      tree.node path = none ∧ tree.node path.dropLast = some .directory ∧
        ∀ here, next.node here = if here = path then some .directory else tree.node here := by
  unfold mkdir
  split
  · rename_i hthere
    simp [Option.isSome_iff_ne_none.mp hthere]
  · rename_i hfree
    rw [Option.isSome_iff_ne_none, not_not] at hfree
    split
    · rename_i hparent
      simp only [hfree, hparent, true_and, Except.ok.injEq]
      constructor
      · rintro rfl here
        rfl
      · intro hnext
        ext here
        rw [hnext]
        rfl
    · rename_i hparent
      simp [hparent]

/-- Opens a file for writing and puts `contents` into it. -/
def write (tree : FileTree Name) (path : List Name) (contents : List UInt8) :
    Except FileError (FileTree Name) :=
  if hdirectory : tree.node path = some .directory then .error .isADirectory
  else if hparent : tree.node path.dropLast = some .directory then
    .ok (tree.place path (.file contents) hdirectory hparent)
  else .error (tree.missing path)

theorem write_eq_ok {contents : List UInt8} :
    tree.write path contents = .ok next ↔
      tree.node path ≠ some .directory ∧ tree.node path.dropLast = some .directory ∧
        ∀ here, next.node here = if here = path then some (.file contents) else tree.node here := by
  unfold write
  split
  · rename_i hdirectory
    simp [hdirectory]
  · rename_i hfree
    split
    · rename_i hparent
      simp only [hparent, ne_eq, hfree, not_false_eq_true, true_and, Except.ok.injEq]
      constructor
      · rintro rfl here
        rfl
      · intro hnext
        ext here
        rw [hnext]
        rfl
    · rename_i hparent
      simp [hparent]

def read (tree : FileTree Name) (path : List Name) : Except FileError (List UInt8) :=
  match tree.node path with
  | some (.file contents) => .ok contents
  | some .directory => .error .isADirectory
  | none => .error (tree.missing path)

/-- A tree without one of its files. -/
def erase (tree : FileTree Name) (path : List Name) (contents : List UInt8)
    (hfile : tree.node path = some (.file contents)) : FileTree Name where
  node here := if here = path then none else tree.node here
  paths := tree.paths.erase path
  mem_paths here := by
    rw [Finset.mem_erase, tree.mem_paths]
    split
    · rename_i hat
      simp [hat]
    · rename_i hat
      simp [hat]
  root := by
    rw [if_neg, tree.root]
    rintro rfl
    rw [tree.root] at hfile
    cases hfile
  parent above name hthere := by
    split at hthere
    · cases hthere
    · have habove := tree.parent above name hthere
      rw [if_neg, habove]
      rintro rfl
      rw [hfile] at habove
      cases habove

def removeFile (tree : FileTree Name) (path : List Name) : Except FileError (FileTree Name) :=
  match hnode : tree.node path with
  | some (.file contents) => .ok (tree.erase path contents hnode)
  | some .directory => .error .isADirectory
  | none => .error (tree.missing path)

theorem removeFile_eq_ok :
    tree.removeFile path = .ok next ↔
      (∃ contents, tree.node path = some (.file contents)) ∧
        ∀ here, next.node here = if here = path then none else tree.node here := by
  unfold removeFile
  split
  · rename_i contents hfile
    simp only [hfile, Except.ok.injEq, Option.some.injEq, Node.file.injEq, exists_eq',
      true_and]
    constructor
    · rintro rfl here
      rfl
    · intro hnext
      ext here
      rw [hnext]
      rfl
  · rename_i hdirectory
    simp [hdirectory]
  · rename_i hfree
    simp [hfree]

/-! ## Renaming -/

/-- A tree in which all of `source` is now at `target`. -/
def move (tree : FileTree Name) (source target : List Name)
    (hinside : ¬source <+: target) (houtside : ¬target <+: source)
    (hparent : tree.node target.dropLast = some .directory) : FileTree Name where
  node path :=
    if target <+: path then tree.node (source ++ path.drop target.length)
    else if source <+: path then none
    else tree.node path
  paths :=
    (tree.paths.filter (source <+: ·)).image (fun path => target ++ path.drop source.length) ∪
      tree.paths.filter fun path => ¬target <+: path ∧ ¬source <+: path
  mem_paths path := by
    rw [Finset.mem_union, Finset.mem_image, Finset.mem_filter]
    by_cases htarget : target <+: path
    · obtain ⟨rest, rfl⟩ := htarget
      rw [if_pos (List.prefix_append target rest), List.drop_left, ← tree.mem_paths]
      constructor
      · rintro (⟨old, hold, hrest⟩ | ⟨_, hnot, _⟩)
        · obtain ⟨hthere, below, rfl⟩ := Finset.mem_filter.mp hold
          rw [List.drop_left, List.append_cancel_left_eq] at hrest
          rw [← hrest]
          exact hthere
        · exact absurd (List.prefix_append target rest) hnot
      · intro hthere
        refine Or.inl ⟨source ++ rest, Finset.mem_filter.mpr ⟨hthere, ?_⟩, ?_⟩
        · exact List.prefix_append source rest
        · rw [List.drop_left]
    · rw [if_neg htarget]
      have himage : ¬∃ old ∈ tree.paths.filter (source <+: ·),
          target ++ old.drop source.length = path := by
        rintro ⟨old, _, rfl⟩
        exact htarget (List.prefix_append target _)
      rw [or_iff_right himage]
      by_cases hsource : source <+: path
      · simp [hsource]
      · simp [htarget, hsource, tree.mem_paths]
  root := by
    rw [if_neg, if_neg, tree.root]
    · rintro hnil
      rw [List.prefix_nil.mp hnil] at hinside
      exact hinside List.nil_prefix
    · rintro hnil
      rw [List.prefix_nil.mp hnil] at houtside
      exact houtside List.nil_prefix
  parent above name hthere := by
    by_cases htarget : target <+: above ++ [name]
    · rw [if_pos htarget] at hthere
      rcases List.prefix_concat_iff.mp htarget with hat | hbelow
      · -- the moved node itself: its parent has stayed where it was
        have hshort : ¬target <+: above := fun h => by
          have hle := h.length_le
          rw [hat, List.length_append, List.length_singleton] at hle
          omega
        have hstays : ¬source <+: above := fun h =>
          hinside (h.trans (hat ▸ List.prefix_append above [name]))
        rw [hat, List.dropLast_concat] at hparent
        rw [if_neg hshort, if_neg hstays]
        exact hparent
      · obtain ⟨rest, rfl⟩ := hbelow
        rw [List.append_assoc, List.drop_left, ← List.append_assoc] at hthere
        rw [if_pos (List.prefix_append target rest), List.drop_left]
        exact tree.parent _ _ hthere
    · rw [if_neg htarget] at hthere
      split at hthere
      · cases hthere
      · rename_i hsource
        rw [if_neg fun h => htarget (h.trans (List.prefix_append above [name])),
          if_neg fun h => hsource (h.trans (List.prefix_append above [name]))]
        exact tree.parent _ _ hthere

/-- Whether anything is below a path. -/
def hasEntries (tree : FileTree Name) (path : List Name) : Bool :=
  decide (∃ below ∈ tree.paths, path <+: below ∧ below ≠ path)

/-- `rename(2)`: a directory replaces only an empty directory, and a file only
a file. -/
def rename (tree : FileTree Name) (source target : List Name) :
    Except FileError (FileTree Name) :=
  match tree.node source with
  | none => .error (tree.missing source)
  | some node =>
    if source = target then .ok tree
    else if hinside : source <+: target then .error .invalidInput
    else if houtside : target <+: source then .error .notEmpty
    else if hparent : tree.node target.dropLast = some .directory then
      match node, tree.node target with
      | .directory, some (.file _) => .error .notADirectory
      | .file _, some .directory => .error .isADirectory
      | _, _ =>
        if tree.hasEntries target then .error .notEmpty
        else .ok (tree.move source target hinside houtside hparent)
    else .error (tree.missing target)

theorem rename_self (h : tree.rename path path = .ok next) : next = tree := by
  unfold rename at h
  split at h
  · cases h
  · rw [if_pos rfl] at h
    cases h
    rfl

theorem isSome_of_rename {source target : List Name} (h : tree.rename source target = .ok next) :
    (tree.node source).isSome = true := by
  unfold rename at h
  split at h
  · cases h
  · rename_i node hnode
    rw [hnode]
    rfl

theorem rename_eq_ok {source target : List Name} (h : tree.rename source target = .ok next)
    (hne : source ≠ target) :
    ¬source <+: target ∧ ¬target <+: source ∧
      ∀ path, next.node path =
        if target <+: path then tree.node (source ++ path.drop target.length)
        else if source <+: path then none
        else tree.node path := by
  unfold rename at h
  split at h
  · cases h
  · rw [if_neg hne] at h
    split at h
    · cases h
    · rename_i hinside
      split at h
      · cases h
      · rename_i houtside
        split at h
        · refine ⟨hinside, houtside, ?_⟩
          split at h
          · cases h
          · cases h
          · split at h
            · cases h
            · cases h
              intro path
              rfl
        · cases h

/-- What is below a path, in order. -/
def below (tree : FileTree Name) (path : List Name) : List (List Name) :=
  (tree.paths.filter fun other => path <+: other ∧ other ≠ path).sort (· ≤ ·)

end FileTree

end RobotMulticam.Lib
