import RobotMulticam.Dataset.AtomicExport
import RobotMulticam.Lib.Sha256

/-!
# All or nothing

The rename is not the last step of an export: the directory it put the dataset
in is flushed afterwards. When that fails the run raises, and the dataset is
there all the same. `failed_export_commits_nothing_iff` says that this is the
only way for paths that are apart and callables that stay in the directory
they are given, and what else can go wrong otherwise: making the temporary
root may make the final path, so may moving a failed export aside, and so may
`build` or `validate`.
-/

namespace RobotMulticam.Dataset.AtomicExport

open RobotMulticam.Lib
open RobotMulticam.Lib.Script

variable {self : AtomicExport} {host : ExportHost} {job : ExportJob} {name : ExportName self}

/-- A tree with the whole dataset at the final path: what `build` left and
`validate` accepted, and the provenance with its checksums. -/
def CompleteExport (self : AtomicExport) (host : ExportHost) (job : ExportJob)
    (name : ExportName self) (start : Host String) (tree : FileTree String) : Prop :=
  ∃ validated payload,
    (do
      self.prepare host name
      self.work job name) start = (.ok (), validated) ∧
    job.dumps (checksums host validated.tree (self.temporary name)) = .ok payload ∧
    ∀ rest, tree.node (self.finalPath ++ rest) =
      if rest = ["export-provenance.json"] then some (.file payload)
      else validated.tree.node (self.temporary name ++ rest)

/-- A run commits everything or nothing, and does not touch a dataset that is
there. -/
structure AllOrNothing (plan : AtomicExport) (host : ExportHost) (job : ExportJob)
    (name : ExportName plan) (start : Host String) : Prop where
  raises : start.tree.node plan.finalPath = none → ∀ fault after,
    plan.run host job name start = (.error fault, after) → after.tree.node plan.finalPath = none
  returns : start.tree.node plan.finalPath = none → ∀ path after,
    plan.run host job name start = (.ok path, after) →
      plan.CompleteExport host job name start after.tree
  occupied : start.tree.node plan.finalPath ≠ none → ∃ fault after,
    plan.run host job name start = (.error fault, after) ∧
      ∀ path, plan.finalPath <+: path → after.tree.node path = start.tree.node path

section
variable {start prepared committed failed after : Host String}
  {fault : Fault (Raised ExportFailure)}

theorem prepare_of_there (name : ExportName self)
    (hthere : ((self.createTemporaryRoot host start).2.tree.node self.finalPath).isSome = true) :
    ∃ fault after, self.prepare host name start = (.error fault, after) ∧
      ∀ path, self.finalPath <+: path →
        after.tree.node path = (self.createTemporaryRoot host start).2.tree.node path := by
  rcases hroot : self.createTemporaryRoot host start with ⟨result, made⟩
  rw [hroot] at hthere
  cases result with
  | error fault => exact ⟨fault, made, Method.bind_of_error hroot, fun _ _ => rfl⟩
  | ok value =>
    obtain ⟨fault, after, hreserve, hsame⟩ := reserve_of_there hthere
    exact ⟨fault, after, (Method.bind_of_ok hroot).trans hreserve, hsame⟩

theorem prepare_of_absent
    (habsent : (self.createTemporaryRoot host start).2.tree.node self.finalPath = none) :
    (self.prepare host name start).2.tree.node self.finalPath = none := by
  unfold prepare
  rcases hroot : self.createTemporaryRoot host start with ⟨result, made⟩
  rw [hroot] at habsent
  cases result with
  | error fault =>
    rw [Method.bind_of_error hroot]
    exact habsent
  | ok value =>
    rw [Method.bind_of_ok hroot]
    exact reserve_of_absent habsent

theorem run_of_prepare_error (h : self.prepare host name start = (.error fault, after)) :
    self.run host job name start = (.error fault, after) := Method.bind_of_error h

/-- The `except` block raises in the end, with what it did to the tree. -/
theorem run_of_failure (hprepare : self.prepare host name start = (.ok (), prepared))
    (hbody : (do
      self.commit host job name
      fsync host.faults self.finalPath.dropLast
      pure self.finalPath) prepared = (.error fault, failed)) :
    ∃ raised, self.run host job name start =
      (.error raised, (self.quarantine host name failed).2) := by
  unfold run
  rw [Method.bind_of_ok hprepare, Method.tryCatch_of_error hbody]
  rcases hquarantine : self.quarantine host name failed with ⟨result, after⟩
  cases result with
  | error raised => exact ⟨raised, Method.bind_of_error hquarantine⟩
  | ok value => exact ⟨fault, Method.bind_of_ok hquarantine⟩

/-- With the final path there, a run raises. It has done nothing wrong if making
the temporary root has not. -/
theorem allOrNothing_of_there
    (hthere : ((self.createTemporaryRoot host start).2.tree.node self.finalPath).isSome = true) :
    self.AllOrNothing host job name start ↔
      ∀ path, self.finalPath <+: path →
        (self.createTemporaryRoot host start).2.tree.node path = start.tree.node path := by
  obtain ⟨fault, after, hprepare, hsame⟩ := prepare_of_there name hthere
  have hrun : self.run host job name start = (.error fault, after) :=
    run_of_prepare_error hprepare
  constructor
  · intro h
    have hoccupied : start.tree.node self.finalPath ≠ none := by
      intro hstart
      rw [← hsame _ List.prefix_rfl, h.raises hstart _ _ hrun] at hthere
      cases hthere
    obtain ⟨_, _, hother, hkept⟩ := h.occupied hoccupied
    cases hrun.symm.trans hother
    intro path hpath
    rw [← hsame path hpath, hkept path hpath]
  · intro hkept
    have hoccupied : start.tree.node self.finalPath ≠ none := by
      rw [← hkept _ List.prefix_rfl]
      exact Option.isSome_iff_ne_none.mp hthere
    refine ⟨fun hstart => absurd hstart hoccupied, fun hstart => absurd hstart hoccupied, ?_⟩
    intro _
    refine ⟨fault, after, hrun, ?_⟩
    intro path hpath
    rw [hsame path hpath, hkept path hpath]

/-- Making the temporary root only adds directories, so where the final path is
missing afterwards, it and all below it were missing before. -/
theorem createTemporaryRoot_of_absent
    (habsent : (self.createTemporaryRoot host start).2.tree.node self.finalPath = none) :
    start.tree.node self.finalPath = none ∧ ∀ path, self.finalPath <+: path →
      (self.createTemporaryRoot host start).2.tree.node path = start.tree.node path := by
  have hgrows : Grows start.tree (self.createTemporaryRoot host start).2.tree :=
    keeps_mkdirParents_grows _ _ start
  have hstart : start.tree.node self.finalPath = none := by
    cases hnode : start.tree.node self.finalPath with
    | none => rfl
    | some node =>
      rw [hgrows _ _ hnode] at habsent
      cases habsent
  refine ⟨hstart, ?_⟩
  intro path hpath
  rw [FileTree.node_eq_none_below habsent hpath, FileTree.node_eq_none_below hstart hpath]

theorem allOrNothing_of_prepare_error (hstart : start.tree.node self.finalPath = none)
    (habsent : after.tree.node self.finalPath = none)
    (hprepare : self.prepare host name start = (.error fault, after)) :
    self.AllOrNothing host job name start := by
  have hrun : self.run host job name start = (.error fault, after) :=
    run_of_prepare_error hprepare
  refine ⟨?_, ?_, fun hoccupied => absurd hstart hoccupied⟩
  · intro _ _ _ hother
    cases hrun.symm.trans hother
    exact habsent
  · intro _ _ _ hother
    cases hrun.symm.trans hother

/-- A run that fails before the rename leaves the final path as `build` and
`validate` did, unless it is the directory for failed exports. -/
theorem allOrNothing_of_commit_error (hstart : start.tree.node self.finalPath = none)
    (hprepare : self.prepare host name start = (.ok (), prepared))
    (hcommit : self.commit host job name prepared = (.error fault, failed)) :
    self.AllOrNothing host job name start ↔
      (self.work job name prepared).2.tree.node self.finalPath = none ∧
      (self.finalPath = self.failedDirectory →
        failed.tree.node self.temporaryRoot = some .directory →
        host.faults.raises failed.calls = true) := by
  obtain ⟨raised, hrun⟩ := run_of_failure hprepare (Method.bind_of_error hcommit)
  rw [← commit_eq_error hcommit, ← quarantine_absent_iff]
  constructor
  · intro h
    exact h.raises hstart _ _ hrun
  · intro hend
    refine ⟨?_, ?_, fun hthere => absurd hstart hthere⟩
    · intro _ _ _ hother
      cases hrun.symm.trans hother
      exact hend
    · intro _ _ _ hother
      cases hrun.symm.trans hother

/-- After the rename, the run is as good as the flush of the directory. -/
theorem allOrNothing_of_commit_ok (hstart : start.tree.node self.finalPath = none)
    (hprepare : self.prepare host name start = (.ok (), prepared))
    (hcommit : self.commit host job name prepared = (.ok (), committed)) :
    self.AllOrNothing host job name start ↔
      ∀ k < 3, host.faults.raises (committed.calls + k) = false := by
  obtain ⟨hfinal, validated, payload, hvalidated, hdumps, hnode⟩ := commit_eq_ok hcommit
  have hparent : (committed.tree.node self.finalPath.dropLast).isSome = true :=
    FileTree.isSome_of_isSome_below hfinal ( List.dropLast_prefix _)
  have hcalm : (∃ after, (fsync host.faults self.finalPath.dropLast :
      Script String ExportFailure Unit) committed = (.ok (), after)) ↔
        ∀ k < 3, host.faults.raises (committed.calls + k) = false := fsync_eq_ok_iff hparent
  rw [← hcalm]
  rcases hflush : (fsync host.faults self.finalPath.dropLast :
    Script String ExportFailure Unit) committed with ⟨result, flushed⟩
  have htree : flushed.tree = committed.tree := tree_eq_of_keeps (keeps_fsync _) hflush
  cases result with
  | error fault =>
    obtain ⟨raised, hrun⟩ := run_of_failure hprepare
      ((Method.bind_of_ok hcommit).trans (Method.bind_of_error hflush))
    refine iff_of_false ?_ ?_
    · intro h
      obtain ⟨node, hthere⟩ := Option.isSome_iff_exists.mp hfinal
      have hstays : (self.quarantine host name flushed).2.tree.node self.finalPath = some node :=
        keeps_quarantine flushed node (htree ▸ hthere)
      rw [h.raises hstart _ _ hrun] at hstays
      cases hstays
    · rintro ⟨after, hok⟩
      cases hok
  | ok value =>
    have hrun : self.run host job name start = (.ok self.finalPath, flushed) :=
      (Method.bind_of_ok hprepare).trans
        (Method.tryCatch_of_ok ((Method.bind_of_ok hcommit).trans (Method.bind_of_ok hflush)))
    refine iff_of_true ⟨?_, ?_, fun hthere => absurd hstart hthere⟩ ⟨flushed, rfl⟩
    · intro _ _ _ hother
      cases hrun.symm.trans hother
    · intro _ _ _ hother
      cases hrun.symm.trans hother
      refine ⟨validated, payload, (Method.bind_of_ok hprepare).trans hvalidated, hdumps, ?_⟩
      intro rest
      rw [htree, hnode]

/-- None of the three calls of the flush after the rename raises. -/
def FlushSucceeds (self : AtomicExport) (host : ExportHost) (job : ExportJob)
    (name : ExportName self) (start : Host String) : Prop :=
  ∀ committed,
    (do
      self.prepare host name
      self.commit host job name) start = (.ok (), committed) →
    ∀ k < 3, host.faults.raises (committed.calls + k) = false

/-- A run that fails before the rename finds nothing at the final path and
does not make it for the failed exports. -/
def FailsCleanly (self : AtomicExport) (host : ExportHost) (job : ExportJob)
    (name : ExportName self) (start : Host String) : Prop :=
  ∀ prepared fault failed, self.prepare host name start = (.ok (), prepared) →
    self.commit host job name prepared = (.error fault, failed) →
    (self.work job name prepared).2.tree.node self.finalPath = none ∧
    (self.finalPath = self.failedDirectory →
      failed.tree.node self.temporaryRoot = some .directory →
      host.faults.raises failed.calls = true)

theorem allOrNothing_iff :
    self.AllOrNothing host job name start ↔
      (∀ path, self.finalPath <+: path →
        (self.createTemporaryRoot host start).2.tree.node path = start.tree.node path) ∧
      self.FlushSucceeds host job name start ∧ self.FailsCleanly host job name start := by
  by_cases hthere :
      ((self.createTemporaryRoot host start).2.tree.node self.finalPath).isSome = true
  · -- the run stops before the `try`
    obtain ⟨fault, after, hprepare, -⟩ := prepare_of_there name hthere
    have hstops : ∀ prepared, self.prepare host name start ≠ (.ok (), prepared) := by
      intro prepared hok
      cases hprepare.symm.trans hok
    rw [allOrNothing_of_there hthere]
    constructor
    · intro hkept
      refine ⟨hkept, ?_, ?_⟩
      · intro committed hcommitted
        obtain ⟨_, prepared, hok, _⟩ := Method.bind_eq_ok.mp hcommitted
        exact absurd hok (hstops prepared)
      · intro prepared _ _ hok
        exact absurd hok (hstops prepared)
    · rintro ⟨hkept, -, -⟩
      exact hkept
  · rw [Option.isSome_iff_ne_none, not_not] at hthere
    obtain ⟨hstart, hkept⟩ := createTemporaryRoot_of_absent hthere
    have habsent : (self.prepare host name start).2.tree.node self.finalPath = none :=
      prepare_of_absent hthere
    rcases hprepare : self.prepare host name start with ⟨result, prepared⟩
    rw [hprepare] at habsent
    cases result with
    | error fault =>
      refine iff_of_true (allOrNothing_of_prepare_error hstart habsent hprepare) ⟨hkept, ?_, ?_⟩
      · intro committed hcommitted
        rw [Method.bind_of_error hprepare] at hcommitted
        cases hcommitted
      · intro _ _ _ hok
        cases hprepare.symm.trans hok
    | ok value =>
      rcases hcommit : self.commit host job name prepared with ⟨result, next⟩
      have hboth : (do
          self.prepare host name
          self.commit host job name) start = (result, next) :=
        (Method.bind_of_ok hprepare).trans hcommit
      cases result with
      | error fault =>
        rw [allOrNothing_of_commit_error hstart hprepare hcommit]
        constructor
        · intro hleft
          refine ⟨hkept, ?_, ?_⟩
          · intro committed hcommitted
            cases hboth.symm.trans hcommitted
          · intro _ _ _ hok hother
            cases hprepare.symm.trans hok
            cases hcommit.symm.trans hother
            exact hleft
        · rintro ⟨-, -, hleft⟩
          exact hleft _ _ _ hprepare hcommit
      | ok value =>
        rw [allOrNothing_of_commit_ok hstart hprepare hcommit]
        constructor
        · intro hcalm
          refine ⟨hkept, ?_, ?_⟩
          · intro committed hcommitted
            cases hboth.symm.trans hcommitted
            exact hcalm
          · intro _ _ _ hok hother
            cases hprepare.symm.trans hok
            cases hcommit.symm.trans hother
        · rintro ⟨-, hcalm, -⟩
          exact hcalm _ hboth

/-- Where a run gets as far as the `try`, nothing is at the final path. -/
theorem absent_of_prepare (h : self.prepare host name start = (.ok (), prepared)) :
    prepared.tree.node self.finalPath = none := by
  cases hnode : (self.createTemporaryRoot host start).2.tree.node self.finalPath with
  | none =>
    have habsent : (self.prepare host name start).2.tree.node self.finalPath = none :=
      prepare_of_absent hnode
    rwa [h] at habsent
  | some node =>
    obtain ⟨fault, after, hfails, -⟩ := prepare_of_there name (Option.isSome_of_eq_some hnode)
    cases h.symm.trans hfails

end

/-- A run commits everything or nothing exactly when creating the temporary
root leaves the final path and what is below it alone, the flush after the
rename does not raise, and a run that fails before it finds nothing that
`build` or `validate` put at the final path and does not make that path for
the failed exports. -/
theorem failed_export_commits_nothing_iff (self : AtomicExport) (host : ExportHost)
    (job : ExportJob) (name : ExportName self) (start : Host String) :
    self.AllOrNothing host job name start ↔
      (∀ path, self.finalPath <+: path →
        (self.createTemporaryRoot host start).2.tree.node path = start.tree.node path) ∧
      (∀ committed,
        (do
          self.prepare host name
          self.commit host job name) start = (.ok (), committed) →
        ∀ k < 3, host.faults.raises (committed.calls + k) = false) ∧
      (∀ prepared fault failed, self.prepare host name start = (.ok (), prepared) →
        self.commit host job name prepared = (.error fault, failed) →
        (self.work job name prepared).2.tree.node self.finalPath = none ∧
        (self.finalPath = self.failedDirectory →
          failed.tree.node self.temporaryRoot = some .directory →
          host.faults.raises failed.calls = true)) :=
  allOrNothing_iff

/-- The callables change nothing outside the directory they are given. -/
structure StaysIn (job : ExportJob) (directory : List String) : Prop where
  build : Keeps (Outside (directory <+: ·)) (job.build directory)
  validate : Keeps (Outside (directory <+: ·)) (job.validate directory)

/-- For such callables, and a final path that is neither the temporary root nor
above it nor the directory for failed exports, only the flush counts. -/
theorem apart_export_commits_nothing_iff {start : Host String}
    (hjob : StaysIn job (self.temporary name)) (hroot : ¬self.finalPath <+: self.temporaryRoot)
    (hfailed : self.finalPath ≠ self.failedDirectory) :
    self.AllOrNothing host job name start ↔ self.FlushSucceeds host job name start := by
  rw [allOrNothing_iff]
  constructor
  · exact fun h => h.2.1
  · intro hflush
    refine ⟨?_, hflush, ?_⟩
    · intro path hpath
      exact keeps_mkdirParents_outside _ _ start path fun habove => hroot (hpath.trans habove)
    · intro prepared fault failed hprepare _
      have hwork : Keeps (Outside (self.temporary name <+: ·)) (self.work job name) :=
        keeps_bind hjob.build fun _ => hjob.validate
      refine ⟨?_, fun hsame => absurd hsame hfailed⟩
      rw [hwork prepared _ not_temporary_isPrefix, absent_of_prepare hprepare]

/-! ## A flush that fails -/

/-- Callables that do nothing. -/
def idleJob : ExportJob := ⟨fun _ => pure (), fun _ => pure (), fun _ => .ok []⟩

/-- An export to `/data`, with `/tmp` for the temporary directory. -/
def toData : AtomicExport := ⟨["tmp"], ["data"]⟩

def toDataName : ExportName toData := ⟨"0", by decide⟩

/-- The call after the one that opens the directory raises. -/
def flushRaises : ExportHost := ⟨⟨fun call => call == 21, fun _ => 0⟩, fun _ => 0, Sha256.digest⟩

/-- The run raises, and the dataset is there. -/
theorem committed_and_raised :
    (⟨FileTree.empty, 0⟩ : Host String).tree.node toData.finalPath = none ∧
      (toData.run flushRaises idleJob toDataName ⟨FileTree.empty, 0⟩).1 =
        .error (.err (.os .other)) ∧
      (toData.run flushRaises idleJob toDataName ⟨FileTree.empty, 0⟩).2.tree.node
        toData.finalPath = some .directory := by
  decide +kernel

example : (toData.run ⟨⟨fun _ => false, fun _ => 0⟩, fun _ => 0, Sha256.digest⟩ idleJob toDataName
    ⟨FileTree.empty, 0⟩).1 = .ok ["data"] := by decide +kernel

end RobotMulticam.Dataset.AtomicExport
