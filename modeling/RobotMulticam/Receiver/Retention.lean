import RobotMulticam.Lib.FileTree
import RobotMulticam.Lib.Method
import RobotMulticam.Lib.Path
import RobotMulticam.Lib.Text

/-!
# Retention of recorded segments

When the spool is over its cap, the receiver deletes recorded segments,
oldest first, until it is not. Protected segments are passed over. The loop
deletes files as it goes, so what it did up to an error stays.

`ShortestCut` is what the loop is for: no entry is removed that need not be.
`sweep_eq_ok` says that the loop computes it when all files are there, and
`retention_removes_least` that the function does, and that a second run finds
nothing left to remove.
-/

namespace RobotMulticam.Receiver.Retention

open RobotMulticam.Lib
open RobotMulticam.Lib.Text (utf8)

/-- The fields of an index entry that retention reads. -/
structure SegmentIndexEntry where
  cameraId : String
  firstCaptureTimeEdgeNs : UInt64
  relativePath : List UInt8
  bytes : UInt64
  deriving DecidableEq

structure RetentionReport where
  bytesBefore : UInt64
  bytesAfter : UInt64
  removed : List (List UInt8)
  deriving DecidableEq

inductive ReplayError where
  | io (error : FileError)
  | invalidIndex
  | hashMismatch
  deriving DecidableEq

/-- The file system, with the files that the receiver may not remove. -/
structure Storage where
  tree : FileTree Component
  locked : List Component → Bool

/-- Where `session_root.join(path)` is. -/
def target (sessionRoot : List Component) (path : List UInt8) : List Component :=
  sessionRoot ++ components path

/-- `fs::remove_file(session_root.join(path))`. -/
def Storage.removeFile (storage : Storage) (sessionRoot : List Component) (path : List UInt8) :
    Except FileError Storage := do
  let tree ← storage.tree.removeFile (target sessionRoot path)
  -- a slash or a dot behind the name asks for a directory
  if ¬endsInName path then .error .notADirectory
  else if storage.locked (target sessionRoot path) then .error .other
  else .ok { storage with tree }

def removeSegment (sessionRoot : List Component) (path : List UInt8) :
    Method ReplayError Storage Unit := fun storage =>
  match storage.removeFile sessionRoot path with
  | .ok next => (.ok (), next)
  | .error .notFound => (fail .hashMismatch, storage)
  | .error error => (fail (.io error), storage)

namespace SegmentIndexEntry

/-- The key that the entries are sorted by. -/
def retentionKey (entry : SegmentIndexEntry) : ℕ ×ₗ String ×ₗ List Component :=
  toLex (entry.firstCaptureTimeEdgeNs.toNat, toLex (entry.cameraId, components entry.relativePath))

/-- Whether the path may lead out of the session. An absolute path begins with
the root, which is not a name. -/
def leavesRoot (entry : SegmentIndexEntry) : Bool :=
  (components entry.relativePath).any fun component => !component.isNormal

/-- `protected_paths.contains(&entry.relative_path)`. -/
def isProtected (protectedPaths : List (List UInt8)) (entry : SegmentIndexEntry) : Bool :=
  protectedPaths.any fun path => components path == components entry.relativePath

end SegmentIndexEntry

def addBytes (total : UInt64) (entry : SegmentIndexEntry) : Outcome ReplayError UInt64 :=
  if total.toNat + entry.bytes.toNat < 2 ^ 64 then .ok (total + entry.bytes)
  else fail .hashMismatch

/-- The loop over the sorted entries. -/
def sweep (sessionRoot : List Component) (spoolCapBytes : UInt64)
    (protectedPaths : List (List UInt8)) :
    List SegmentIndexEntry → UInt64 → List (List UInt8) →
      Method ReplayError Storage (UInt64 × List (List UInt8))
  | [], bytesAfter, removed => pure (bytesAfter, removed)
  | entry :: rest, bytesAfter, removed =>
    if bytesAfter ≤ spoolCapBytes then pure (bytesAfter, removed)
    else if entry.isProtected protectedPaths then
      sweep sessionRoot spoolCapBytes protectedPaths rest bytesAfter removed
    else do
      removeSegment sessionRoot entry.relativePath
      sweep sessionRoot spoolCapBytes protectedPaths rest (saturatingSub64 bytesAfter entry.bytes)
        (removed ++ [entry.relativePath])

def sorted (entries : List SegmentIndexEntry) : List SegmentIndexEntry :=
  entries.insertionSort fun left right => left.retentionKey ≤ right.retentionKey

def enforceRetention (sessionRoot : List Component) (entries : List SegmentIndexEntry)
    (spoolCapBytes : UInt64) (protectedPaths : List (List UInt8)) :
    Method ReplayError Storage RetentionReport := do
  if spoolCapBytes = 0 then throw (.err .invalidIndex)
  if entries.any (·.leavesRoot) then throw (.err .invalidIndex)
  let candidates := sorted entries
  let bytesBefore ← Method.attempt (candidates.foldlM addBytes 0)
  let swept ← sweep sessionRoot spoolCapBytes protectedPaths candidates bytesBefore []
  pure { bytesBefore, bytesAfter := swept.1, removed := swept.2 }

/-! ## What there is to remove -/

/-- The bytes of some entries. -/
def size (entries : List SegmentIndexEntry) : ℕ := (entries.map (·.bytes.toNat)).sum

/-- The first `count` entries are the shortest prefix without which `total` is
at most `cap`, or all entries if there is none. -/
structure ShortestCut (cap total : ℕ) (entries : List SegmentIndexEntry) (count : ℕ) : Prop where
  count_le : count ≤ entries.length
  needed : ∀ fewer < count, cap < total - size (entries.take fewer)
  enough : count < entries.length → total - size (entries.take count) ≤ cap

theorem shortestCut_nil (cap total : ℕ) : ShortestCut cap total [] 0 := by
  refine ⟨le_rfl, ?_, ?_⟩
  · intro fewer hfewer
    omega
  · intro hlt
    exact absurd hlt (Nat.lt_irrefl 0)

theorem shortestCut_zero {cap total : ℕ} (entries : List SegmentIndexEntry) (h : total ≤ cap) :
    ShortestCut cap total entries 0 := by
  refine ⟨Nat.zero_le _, ?_, ?_⟩
  · intro fewer hfewer
    omega
  · intro _
    exact (Nat.sub_le _ _).trans h

theorem ShortestCut.cons {cap total : ℕ} {entry : SegmentIndexEntry}
    {rest : List SegmentIndexEntry} {count : ℕ} (hover : cap < total)
    (h : ShortestCut cap (total - entry.bytes.toNat) rest count) :
    ShortestCut cap total (entry :: rest) (count + 1) := by
  refine ⟨Nat.succ_le_succ h.count_le, ?_, ?_⟩
  · intro fewer hfewer
    cases fewer with
    | zero => simpa [size] using hover
    | succ fewer =>
      have hneeded := h.needed fewer (Nat.lt_of_succ_lt_succ hfewer)
      rw [Nat.sub_sub] at hneeded
      simpa [size] using hneeded
  · intro hlt
    have henough := h.enough (Nat.lt_of_succ_lt_succ hlt)
    rw [Nat.sub_sub] at henough
    simpa [size] using henough

/-! ## Removing files -/

/-- A storage without some of its files, and otherwise the same. -/
structure Storage.Without (storage : Storage) (gone : List (List Component)) (next : Storage) :
    Prop where
  locked : next.locked = storage.locked
  node : ∀ path, next.tree.node path = if path ∈ gone then none else storage.tree.node path

theorem Storage.without_nil (storage : Storage) : storage.Without [] storage := by
  refine ⟨rfl, ?_⟩
  intro path
  rw [if_neg List.not_mem_nil]

variable {storage next : Storage} {sessionRoot : List Component}
  {entries left right : List SegmentIndexEntry} {protectedPaths : List (List UInt8)}

theorem Storage.Without.cons {middle : Storage} {first : List Component}
    {gone : List (List Component)} (hfirst : storage.Without [first] middle)
    (hgone : middle.Without gone next) : storage.Without (first :: gone) next := by
  refine ⟨hgone.locked.trans hfirst.locked, ?_⟩
  intro path
  rw [hgone.node, hfirst.node]
  by_cases hpath : path = first
  · simp [hpath]
  · simp [hpath]

section
variable {sessionRoot : List Component} {path : List UInt8} {storage next : Storage}

/-- The file of a path is there and can be removed. -/
def Storage.Removable (storage : Storage) (sessionRoot : List Component) (path : List UInt8) :
    Prop :=
  ∃ next, storage.removeFile sessionRoot path = .ok next

theorem Storage.removable_iff :
    storage.Removable sessionRoot path ↔
      (∃ contents, storage.tree.node (target sessionRoot path) = some (.file contents)) ∧
        endsInName path = true ∧ storage.locked (target sessionRoot path) = false := by
  unfold Storage.Removable Storage.removeFile
  constructor
  · rintro ⟨next, hnext⟩
    obtain ⟨tree, htree, hnext⟩ := bind_eq_ok.mp hnext
    refine ⟨(FileTree.removeFile_eq_ok.mp htree).1, ?_⟩
    split at hnext
    · cases hnext
    · rename_i hname
      split at hnext
      · cases hnext
      · rename_i hlocked
        exact ⟨by simpa using hname, by simpa using hlocked⟩
  · rintro ⟨⟨contents, hfile⟩, hname, hlocked⟩
    have htree : storage.tree.removeFile (target sessionRoot path) =
        .ok (storage.tree.erase _ contents hfile) :=
      FileTree.removeFile_eq_ok.mpr ⟨⟨contents, hfile⟩, fun here => rfl⟩
    refine ⟨⟨storage.tree.erase _ contents hfile, storage.locked⟩, ?_⟩
    simp [htree, hname, hlocked]

theorem Storage.without_of_removeFile
    (h : storage.removeFile sessionRoot path = .ok next) :
    storage.Without [target sessionRoot path] next := by
  obtain ⟨tree, htree, hnext⟩ := bind_eq_ok.mp h
  split at hnext
  · cases hnext
  · split at hnext
    · cases hnext
    · cases hnext
      refine ⟨rfl, ?_⟩
      intro here
      simp [(FileTree.removeFile_eq_ok.mp htree).2]

/-- Whether a file can be removed does not depend on other files. -/
theorem Storage.Without.removable {gone : List (List Component)}
    (h : storage.Without gone next) (hpath : storage.Removable sessionRoot path)
    (hkept : target sessionRoot path ∉ gone) : next.Removable sessionRoot path := by
  rw [Storage.removable_iff] at hpath ⊢
  rw [h.node, if_neg hkept, h.locked]
  exact hpath

end

theorem removeSegment_of_removable {path : List UInt8} (h : storage.Removable sessionRoot path) :
    ∃ next, removeSegment sessionRoot path storage = (.ok (), next) ∧
      storage.Without [target sessionRoot path] next := by
  obtain ⟨next, hnext⟩ := h
  refine ⟨next, ?_, Storage.without_of_removeFile hnext⟩
  rw [removeSegment, hnext]

/-! ## The loop -/

/-- The paths of the entries differ. -/
def DistinctPaths (entries : List SegmentIndexEntry) : Prop :=
  entries.Pairwise fun left right => components left.relativePath ≠ components right.relativePath

/-- The entries that may be removed. -/
def unprotected (protectedPaths : List (List UInt8)) (entries : List SegmentIndexEntry) :
    List SegmentIndexEntry :=
  entries.filter fun entry => !entry.isProtected protectedPaths

theorem sweep_eq_ok (sessionRoot : List Component) (cap : UInt64)
    (protectedPaths removed : List (List UInt8)) (bytesAfter : UInt64)
    (hdistinct : DistinctPaths entries)
    (hfiles : ∀ entry ∈ entries, storage.Removable sessionRoot entry.relativePath) :
    ∃ count after next,
      ShortestCut cap.toNat bytesAfter.toNat (unprotected protectedPaths entries) count ∧
      sweep sessionRoot cap protectedPaths entries bytesAfter removed storage =
        (.ok (after, removed ++
          ((unprotected protectedPaths entries).take count).map (·.relativePath)), next) ∧
      after.toNat =
        bytesAfter.toNat - size ((unprotected protectedPaths entries).take count) ∧
      storage.Without (((unprotected protectedPaths entries).take count).map
        fun entry => target sessionRoot entry.relativePath) next := by
  -- one turn for each entry; after a removal the other files are still there
  induction entries generalizing bytesAfter removed storage with
  | nil =>
    refine ⟨0, bytesAfter, storage, shortestCut_nil _ _, ?_, ?_, storage.without_nil⟩
    · simp [sweep, unprotected]
      rfl
    · simp [unprotected, size]
  | cons entry rest ih =>
    obtain ⟨hentry, hrest⟩ := List.pairwise_cons.mp hdistinct
    rw [sweep]
    split
    · rename_i hcap
      refine ⟨0, bytesAfter, storage, shortestCut_zero _ (UInt64.le_iff_toNat_le.mp hcap), ?_, ?_,
        storage.without_nil⟩
      · rw [List.take_zero, List.map_nil, List.append_nil]
        rfl
      · simp [size]
    · rename_i hcap
      rw [UInt64.le_iff_toNat_le, not_le] at hcap
      split
      · rename_i hprotected
        have hskip : unprotected protectedPaths (entry :: rest) =
            unprotected protectedPaths rest := by
          simp [unprotected, hprotected]
        rw [hskip]
        exact ih removed bytesAfter hrest fun other hother =>
          hfiles other (List.mem_cons_of_mem _ hother)
      · rename_i hprotected
        have hkeep : unprotected protectedPaths (entry :: rest) =
            entry :: unprotected protectedPaths rest := by
          simp [unprotected, hprotected]
        obtain ⟨middle, hremove, hwithout⟩ :=
          removeSegment_of_removable (hfiles entry List.mem_cons_self)
        have hothers : ∀ other ∈ rest, middle.Removable sessionRoot other.relativePath := by
          intro other hother
          refine hwithout.removable (hfiles other (List.mem_cons_of_mem _ hother)) ?_
          rw [List.mem_singleton, target, target, List.append_cancel_left_eq]
          exact (hentry other hother).symm
        obtain ⟨count, after, next, hcut, hsweep, hafter, hgone⟩ :=
          ih (removed ++ [entry.relativePath]) (saturatingSub64 bytesAfter entry.bytes) hrest
            hothers
        rw [toNat_saturatingSub64] at hcut hafter
        rw [hkeep]
        refine ⟨count + 1, after, next, hcut.cons hcap, ?_, ?_, hwithout.cons hgone⟩
        · rw [Method.bind_of_ok hremove, hsweep]
          simp
        · rw [hafter, Nat.sub_sub]
          simp [size]

/-! ## A run -/

theorem size_perm (h : left.Perm right) : size left = size right :=
  (h.map _).sum_eq

theorem foldlM_addBytes (entries : List SegmentIndexEntry) (total : UInt64)
    (h : total.toNat + size entries < 2 ^ 64) :
    ∃ sum, entries.foldlM addBytes total = .ok sum ∧ sum.toNat = total.toNat + size entries := by
  induction entries generalizing total with
  | nil => exact ⟨total, rfl, rfl⟩
  | cons entry rest ih =>
    have hsize : size (entry :: rest) = entry.bytes.toNat + size rest := by
      simp [size]
    have hfits : total.toNat + entry.bytes.toNat < 2 ^ 64 := by omega
    have hadd : (total + entry.bytes).toNat = total.toNat + entry.bytes.toNat := by
      rw [UInt64.toNat_add, Nat.mod_eq_of_lt hfits]
    obtain ⟨sum, hsum, htotal⟩ := ih (total + entry.bytes) (by omega)
    refine ⟨sum, ?_, by omega⟩
    rw [List.foldlM_cons, addBytes, if_pos hfits]
    exact hsum

theorem sorted_perm (entries : List SegmentIndexEntry) : (sorted entries).Perm entries :=
  List.perm_insertionSort _ entries

instance : Std.Total fun left right : SegmentIndexEntry =>
    left.retentionKey ≤ right.retentionKey where
  total left right := le_total left.retentionKey right.retentionKey

instance : IsTrans SegmentIndexEntry fun left right => left.retentionKey ≤ right.retentionKey where
  trans _ _ _ := le_trans

theorem DistinctPaths.of_perm (h : DistinctPaths left) (hperm : right.Perm left) :
    DistinctPaths right :=
  h.perm hperm.symm fun hne => hne.symm

theorem pairwise_sorted (h : DistinctPaths entries) :
    (sorted entries).Pairwise fun left right => left.retentionKey < right.retentionKey := by
  have hle : (sorted entries).Pairwise fun left right => left.retentionKey ≤ right.retentionKey :=
    List.pairwise_insertionSort _ entries
  refine (hle.and (h.of_perm (sorted_perm entries))).imp ?_
  rintro left right ⟨hkeys, hpaths⟩
  refine lt_of_le_of_ne hkeys ?_
  intro hsame
  exact hpaths (congrArg (fun key => (ofLex (ofLex key).2).2) hsame)

section
variable {sessionRoot : List Component} {entries : List SegmentIndexEntry} {cap : UInt64}
  {protectedPaths : List (List UInt8)} {storage : Storage}

theorem enforceRetention_eq_ok (hcap : 1 ≤ cap)
    (hnormal : ∀ entry ∈ entries, entry.leavesRoot = false) (hdistinct : DistinctPaths entries)
    (hfiles : ∀ entry ∈ entries, storage.Removable sessionRoot entry.relativePath)
    (hsize : size entries < 2 ^ 64) :
    ∃ count report next,
      ShortestCut cap.toNat (size entries) (unprotected protectedPaths (sorted entries)) count ∧
      enforceRetention sessionRoot entries cap protectedPaths storage = (.ok report, next) ∧
      report.removed =
        ((unprotected protectedPaths (sorted entries)).take count).map (·.relativePath) ∧
      report.bytesBefore.toNat = size entries ∧
      report.bytesAfter.toNat =
        size entries - size ((unprotected protectedPaths (sorted entries)).take count) ∧
      storage.Without (((unprotected protectedPaths (sorted entries)).take count).map
        fun entry => target sessionRoot entry.relativePath) next := by
  have hperm := sorted_perm entries
  have hzero : cap ≠ 0 := by
    rintro rfl
    exact absurd hcap (by decide)
  have hinside : entries.any (·.leavesRoot) = false := by
    simpa using hnormal
  obtain ⟨bytesBefore, hsum, hbefore⟩ :=
    foldlM_addBytes (sorted entries) 0 (by simpa [size_perm hperm] using hsize)
  have hbytes : bytesBefore.toNat = size entries := by
    simpa [size_perm hperm] using hbefore
  obtain ⟨count, after, next, hcut, hsweep, hafter, hwithout⟩ :=
    sweep_eq_ok sessionRoot cap protectedPaths [] bytesBefore (hdistinct.of_perm hperm)
      fun entry hentry => hfiles entry (hperm.mem_iff.mp hentry)
  rw [hbytes] at hcut hafter
  refine ⟨count, ⟨bytesBefore, after, _⟩, next, hcut, ?_, rfl, hbytes, hafter, hwithout⟩
  rw [enforceRetention, if_neg hzero, if_neg (by simp [hinside])]
  simp only [hsum, Method.bind_attempt_ok]
  rw [Method.bind_of_ok hsweep]
  rfl

end

theorem Storage.Without.eq_of_nil (h : storage.Without [] next) : next = storage := by
  obtain ⟨tree, locked⟩ := next
  obtain rfl : locked = storage.locked := h.locked
  obtain rfl : tree = storage.tree := by
    ext1 path
    exact (h.node path).trans (if_neg List.not_mem_nil)
  rfl

/-- The entries whose paths are not among the removed ones. -/
def surviving (removed : List (List UInt8)) (entries : List SegmentIndexEntry) :
    List SegmentIndexEntry :=
  entries.filter fun entry => decide (components entry.relativePath ∉ removed.map components)

section
variable {entries victims : List SegmentIndexEntry}

theorem DistinctPaths.nodup (h : DistinctPaths entries) : entries.Nodup :=
  h.imp fun hne heq => hne (by rw [heq])

/-- Distinct paths tell the entries apart. -/
theorem DistinctPaths.mem_iff (h : DistinctPaths entries)
    (hvictims : ∀ entry ∈ victims, entry ∈ entries) {entry : SegmentIndexEntry}
    (hentry : entry ∈ entries) :
    components entry.relativePath ∈ (victims.map (·.relativePath)).map components ↔
      entry ∈ victims := by
  have hinj : (entries.map fun entry => components entry.relativePath).Nodup :=
    List.pairwise_map.mpr h
  rw [List.map_map]
  constructor
  · intro hmem
    obtain ⟨other, hother, hsame⟩ := List.mem_map.mp hmem
    rw [← List.inj_on_of_nodup_map hinj (hvictims other hother) hentry hsame]
    exact hother
  · exact List.mem_map_of_mem

theorem size_surviving (h : DistinctPaths entries) (hvictims : ∀ entry ∈ victims, entry ∈ entries)
    (hnodup : victims.Nodup) :
    size (surviving (victims.map (·.relativePath)) entries) = size entries - size victims := by
  have hentries : entries.Nodup := h.nodup
  have hsplit := List.filter_append_perm
    (fun entry : SegmentIndexEntry =>
      decide (components entry.relativePath ∉ (victims.map (·.relativePath)).map components)) entries
  have hremoved : (entries.filter fun entry => !decide (components entry.relativePath ∉
      (victims.map (·.relativePath)).map components)).Perm victims := by
    refine (List.perm_ext_iff_of_nodup (hentries.filter _) hnodup).mpr ?_
    intro entry
    rw [List.mem_filter, ← decide_not, decide_eq_true_iff, not_not]
    constructor
    · rintro ⟨hentry, hmem⟩
      exact (h.mem_iff hvictims hentry).mp hmem
    · intro hvictim
      exact ⟨hvictims entry hvictim, (h.mem_iff hvictims (hvictims entry hvictim)).mpr hvictim⟩
  have hsum := size_perm hsplit
  rw [size, List.map_append, List.sum_append] at hsum
  have hvictim := size_perm hremoved
  unfold surviving
  simp only [size] at hsum hvictim ⊢
  omega

end

/-- Where there is nothing to remove, a run changes nothing. -/
theorem enforceRetention_idle {cap total : UInt64} (hcap : 1 ≤ cap)
    (hnormal : ∀ entry ∈ entries, entry.leavesRoot = false) (hdistinct : DistinctPaths entries)
    (hfiles : ∀ entry ∈ entries, storage.Removable sessionRoot entry.relativePath)
    (htotal : size entries = total.toNat)
    (hidle : total ≤ cap ∨ unprotected protectedPaths entries = []) :
    enforceRetention sessionRoot entries cap protectedPaths storage =
      (.ok ⟨total, total, []⟩, storage) := by
  have hsize : size entries < 2 ^ 64 := htotal ▸ total.toNat_lt
  obtain ⟨count, ⟨bytesBefore, bytesAfter, removed⟩, next, hcut, hrun, hremoved, hbefore, hafter,
    hwithout⟩ := enforceRetention_eq_ok hcap hnormal hdistinct hfiles hsize
  have hcount : count = 0 := by
    rcases hidle with hunder | hnone
    · by_contra hne
      have hneeded := hcut.needed 0 (Nat.pos_of_ne_zero hne)
      rw [htotal, List.take_zero] at hneeded
      exact absurd (UInt64.le_iff_toNat_le.mp hunder) (not_le.mpr (by simpa [size] using hneeded))
    · have hlength := ((sorted_perm entries).filter
        fun entry => !entry.isProtected protectedPaths).length_eq
      have hle := hcut.count_le
      unfold unprotected at hle hnone
      rw [hlength, hnone, List.length_nil] at hle
      exact Nat.le_zero.mp hle
  subst hcount
  rw [hrun, hwithout.eq_of_nil]
  have hbefore : bytesBefore = total := UInt64.toNat_inj.mp (hbefore.trans htotal)
  have hafter : bytesAfter = total := by
    rw [htotal, List.take_zero] at hafter
    exact UInt64.toNat_inj.mp hafter
  have hremoved : removed = [] := by simpa using hremoved
  rw [hbefore, hafter, hremoved]

/-- Once a shortest cut has been removed, nothing is left to remove. -/
theorem enforceRetention_surviving {oldest : List SegmentIndexEntry} {cap after : UInt64}
    {count : ℕ} (hcap : 1 ≤ cap) (hnormal : ∀ entry ∈ entries, entry.leavesRoot = false)
    (hdistinct : DistinctPaths entries)
    (hfiles : ∀ entry ∈ entries, storage.Removable sessionRoot entry.relativePath)
    (hperm : oldest.Perm (unprotected protectedPaths entries))
    (hcut : ShortestCut cap.toNat (size entries) oldest count)
    (hafter : after.toNat = size entries - size (oldest.take count))
    (hwithout : storage.Without
      (((oldest.take count).map (·.relativePath)).map (target sessionRoot)) next) :
    enforceRetention sessionRoot (surviving ((oldest.take count).map (·.relativePath)) entries)
        cap protectedPaths next = (.ok ⟨after, after, []⟩, next) := by
  have hvictims : ∀ entry ∈ oldest.take count, entry ∈ entries := fun entry hentry =>
    List.mem_of_mem_filter (hperm.mem_iff.mp (List.mem_of_mem_take hentry))
  have hnodup : (oldest.take count).Nodup :=
    (hperm.nodup_iff.mpr (hdistinct.nodup.filter _)).sublist (List.take_sublist _ _)
  have hsurvives : ∀ entry ∈ surviving ((oldest.take count).map (·.relativePath)) entries,
      entry ∈ entries ∧ entry ∉ oldest.take count := by
    intro entry hentry
    obtain ⟨hmember, hkept⟩ := List.mem_filter.mp hentry
    rw [decide_eq_true_iff, hdistinct.mem_iff hvictims hmember] at hkept
    exact ⟨hmember, hkept⟩
  refine enforceRetention_idle hcap (fun entry hentry => hnormal entry (hsurvives entry hentry).1)
    (hdistinct.sublist List.filter_sublist) ?_ ?_ ?_
  · intro entry hentry
    refine hwithout.removable (hfiles entry (hsurvives entry hentry).1) ?_
    intro hgone
    obtain ⟨path, hpath, hsame⟩ := List.mem_map.mp hgone
    have hkept := of_decide_eq_true (List.mem_filter.mp hentry).2
    exact hkept (List.append_cancel_left hsame ▸ List.mem_map_of_mem hpath)
  · rw [size_surviving hdistinct hvictims hnodup, hafter]
  · by_cases hall : count < oldest.length
    · refine Or.inl (UInt64.le_iff_toNat_le.mpr ?_)
      rw [hafter]
      exact hcut.enough hall
    · -- all that may be removed has been
      refine Or.inr (List.filter_eq_nil_iff.mpr ?_)
      intro entry hentry hunprotected
      refine (hsurvives entry hentry).2 ?_
      rw [List.take_of_length_le (not_lt.mp hall)]
      exact hperm.mem_iff.mpr (List.mem_filter.mpr ⟨(hsurvives entry hentry).1, hunprotected⟩)

/-- Retention removes the shortest prefix of the unprotected segments, oldest
first, that brings the spool under its cap, and deletes nothing else. A second
run on what is left removes nothing. -/
theorem retention_removes_least (sessionRoot : List Component)
    (entries : List SegmentIndexEntry) (cap : UInt64) (protectedPaths : List (List UInt8))
    (storage : Storage) (hcap : 1 ≤ cap)
    (hnormal : ∀ entry ∈ entries, entry.leavesRoot = false) (hdistinct : DistinctPaths entries)
    (hfiles : ∀ entry ∈ entries, storage.Removable sessionRoot entry.relativePath)
    (hsize : size entries < 2 ^ 64) :
    ∃ oldest count report next,
      enforceRetention sessionRoot entries cap protectedPaths storage = (.ok report, next) ∧
      oldest.Perm (entries.filter fun entry => !entry.isProtected protectedPaths) ∧
      oldest.Pairwise (fun left right => left.retentionKey < right.retentionKey) ∧
      ShortestCut cap.toNat (size entries) oldest count ∧
      report.removed = (oldest.take count).map (·.relativePath) ∧
      report.bytesBefore.toNat = size entries ∧
      report.bytesAfter.toNat = report.bytesBefore.toNat - size (oldest.take count) ∧
      next.locked = storage.locked ∧
      (∀ path, next.tree.node path =
        if path ∈ report.removed.map (target sessionRoot) then none else storage.tree.node path) ∧
      (∀ path ∈ protectedPaths,
        next.tree.node (target sessionRoot path) = storage.tree.node (target sessionRoot path)) ∧
      enforceRetention sessionRoot (surviving report.removed entries) cap protectedPaths next =
        (.ok ⟨report.bytesAfter, report.bytesAfter, []⟩, next) := by
  obtain ⟨count, report, next, hcut, hrun, hremoved, hbefore, hafter, hwithout⟩ :=
    enforceRetention_eq_ok hcap hnormal hdistinct hfiles hsize
  have hperm : (unprotected protectedPaths (sorted entries)).Perm
      (unprotected protectedPaths entries) := (sorted_perm entries).filter _
  have hordered : (unprotected protectedPaths (sorted entries)).Pairwise fun left right =>
      left.retentionKey < right.retentionKey := (pairwise_sorted hdistinct).filter _
  have htargets : ((unprotected protectedPaths (sorted entries)).take count).map
      (fun entry => target sessionRoot entry.relativePath) =
        report.removed.map (target sessionRoot) := by
    rw [hremoved, List.map_map]
    rfl
  rw [htargets] at hwithout
  refine ⟨_, count, report, next, hrun, hperm, hordered, hcut, hremoved, hbefore, ?_,
    hwithout.locked, hwithout.node, ?_, ?_⟩
  · rw [hafter, hbefore]
  · -- a removed entry with this path would be protected
    intro path hpath
    rw [hwithout.node, if_neg]
    rw [← htargets]
    intro hmem
    obtain ⟨entry, hentry, hsame⟩ := List.mem_map.mp hmem
    have hunprotected : entry.isProtected protectedPaths = false := by
      simpa using List.of_mem_filter (hperm.mem_iff.mp (List.mem_of_mem_take hentry))
    have hcomponents := List.append_cancel_left hsame
    simp only [SegmentIndexEntry.isProtected, List.any_eq_false, beq_iff_eq] at hunprotected
    exact hunprotected path hpath hcomponents.symm
  · rw [hremoved] at hwithout ⊢
    exact enforceRetention_surviving hcap hnormal hdistinct hfiles hperm hcut hafter hwithout

/-- `old.ts` and `active.ts`. -/
def oldAndActive : List SegmentIndexEntry :=
  [⟨"cam", 1, utf8 "old.ts".toList, 3⟩,
    ⟨"cam", 2, utf8 "active.ts".toList, 6⟩]

/-- The two files in the root directory. -/
def oldAndActiveStorage : Storage where
  tree := (FileTree.empty.place [.normal (utf8 "old.ts".toList)] (.file [])
    (by simp [FileTree.empty]) rfl).place
      [.normal (utf8 "active.ts".toList)] (.file [])
      (by decide +kernel) rfl
  locked _ := false

theorem retention_removes_least_old :
    ∃ report next,
      enforceRetention [] oldAndActive 6
          [utf8 "active.ts".toList] oldAndActiveStorage =
        (.ok report, next) ∧
      report.bytesBefore = 9 := by
  obtain ⟨oldest, count, report, next, hrun, -, -, -, -, hbefore, -⟩ :=
    retention_removes_least [] oldAndActive 6
      [utf8 "active.ts".toList] oldAndActiveStorage (by decide)
      (by decide +kernel) (by unfold DistinctPaths; decide +kernel)
      (by
        intro entry hentry
        rw [Storage.removable_iff]
        simp only [oldAndActive, List.mem_cons, List.not_mem_nil, or_false] at hentry
        rcases hentry with rfl | rfl
        · exact ⟨⟨[], by decide +kernel⟩, by decide +kernel, rfl⟩
        · exact ⟨⟨[], by decide +kernel⟩, by decide +kernel, rfl⟩)
      (by decide)
  exact ⟨report, next, hrun, UInt64.toNat_inj.mp hbefore⟩

end RobotMulticam.Receiver.Retention
