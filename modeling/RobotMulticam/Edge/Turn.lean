import RobotMulticam.Edge.Reconcile

/-!
# What a turn does

The statements of the reconcile loop, one after the other, as triples: what
each leaves when it succeeds and what it leaves when it ends `serve`. The
argument that runs through them is `Working`: while pipelines are started,
whatever does not run yet has an epoch above all that its camera had, because
a restart drops every pipeline and counts up every epoch.

`Settled` is what holds between two turns, and `turn_triple` is the sum of
the stages. A turn that does not change the set of cameras changes nothing but
the published manifest; any other counts up the revision. A turn that fails
leaves a map on disk that has all the slots of the map before.
-/

namespace RobotMulticam.Edge

open RobotMulticam.Lib
open RobotMulticam.Protocol
open RobotMulticam.Discovery (CameraMap CameraMapping EvaluatedCamera MapCodec)
open Std (ExtTreeMap ExtTreeSet)

/-! ## Epochs and revisions -/

/-- A failed statement in front of the pipelines leaves files and logs. -/
structure SameLogs (before after : EdgeState) : Prop where
  directory : after.directory = before.directory
  started : after.started = before.started
  exported : after.exported = before.exported

/-- Epochs never fall, and those of the ids that are done have grown. -/
structure Advanced (before after : ExtTreeMap String UInt32) (done : List String) : Prop where
  grows : ∀ (id : String) (old : UInt32), before[id]? = some old →
    ∃ epoch, after[id]? = some epoch ∧ old ≤ epoch
  fresh : ∀ id ∈ done, ∃ epoch, after[id]? = some epoch ∧
    ∀ old, before[id]? = some old → old < epoch

variable {done : List String} {poolSize : UInt16} {map : CameraMap}

theorem Advanced.insert {before after : ExtTreeMap String UInt32} {id : String}
    (h : Advanced before after done) (hroom : (after.getD id 0).toNat + 1 < 2 ^ 32) :
    Advanced before (after.insert id (after.getD id 0 + 1)) (done ++ [id]) := by
  have hless : after.getD id 0 < after.getD id 0 + 1 := by
    rw [UInt32.lt_iff_toNat_lt, UInt32.toNat_add]
    have hone : (1 : UInt32).toNat = 1 := rfl
    omega
  have hself : ∀ old, before[id]? = some old → old < after.getD id 0 + 1 := by
    intro old hold
    obtain ⟨epoch, hepoch, hle⟩ := h.grows id old hold
    rw [ExtTreeMap.getD_eq_getD_getElem?, hepoch] at hless ⊢
    exact UInt32.lt_of_le_of_lt hle hless
  constructor
  · intro other old hold
    rw [ExtTreeMap.getElem?_insert]
    split
    · rename_i hsame
      obtain rfl := Std.LawfulEqOrd.compare_eq_iff_eq.mp hsame
      exact ⟨_, rfl, UInt32.le_of_lt (hself old hold)⟩
    · exact h.grows other old hold
  · intro other hother
    rw [ExtTreeMap.getElem?_insert]
    split
    · rename_i hsame
      obtain rfl := Std.LawfulEqOrd.compare_eq_iff_eq.mp hsame
      exact ⟨_, rfl, hself⟩
    · rename_i hother'
      rw [List.mem_append, List.mem_singleton] at hother
      refine h.fresh other (hother.resolve_right ?_)
      rintro rfl
      exact hother' Std.ReflCmp.compare_self

/-- What a restart leaves when the epochs of the ids in `done` are counted up. -/
structure Restarted (before : EdgeState) (done : List String) (after : EdgeState) : Prop where
  room : before.manifestRevision.toNat + 1 < 2 ^ 64
  epochs : Advanced before.streamEpochs after.streamEpochs done
  frame : after = { before with
    running := ∅
    manifestRevision := before.manifestRevision + 1
    streamEpochs := after.streamEpochs }

theorem Restarted.sameLogs {before after : EdgeState} (h : Restarted before done after) :
    SameLogs before after := by
  rw [h.frame]
  exact ⟨rfl, rfl, rfl⟩

theorem advanceEpoch_triple {start : EdgeState} {id : String} :
    Method.Triple (Restarted start done) (advanceEpoch id)
      (fun _ => Restarted start (done ++ [id])) (SameLogs start) := by
  refine .bind_get fun state hstate => ?_
  refine .ite (fun hless => .put ?_) fun _ => .throw ?_
  · rintro _ rfl
    refine ⟨hstate.room, hstate.epochs.insert hless, ?_⟩
    rw [hstate.frame]
  · rintro _ rfl
    exact hstate.sameLogs

theorem restartAll_triple (start : EdgeState) (active : ExtTreeSet String) :
    Method.Triple (· = start) (restartAll active) (fun _ => Restarted start active.toList)
      (SameLogs start) := by
  refine .bind (fun _ state => state = { start with running := ∅ }) (.write ?_) fun _ => ?_
  · rintro _ rfl
    rfl
  refine .bind (fun _ => Restarted start []) ?_ fun _ =>
    .forM (Restarted start) fun _ _ _ _ => advanceEpoch_triple
  refine .bind_get fun state hstate => ?_
  refine .ite (fun hless => .put ?_) fun _ => .throw ?_
  · rintro _ rfl
    subst hstate
    exact ⟨hless, ⟨fun _ old hold => ⟨old, hold, UInt32.le_refl old⟩, by simp⟩, rfl⟩
  · rintro _ rfl
    subst hstate
    exact ⟨rfl, rfl, rfl⟩

/-! ## Slots -/

/-- The map has the entries it had, and slots of the pool only. -/
structure Grown (poolSize : UInt16) (before after : CameraMap) : Prop where
  distinct : after.Distinct
  below : ∀ entry ∈ after.entries, entry.streamSlot < poolSize
  kept : ∀ entry ∈ before.entries, ∃ same ∈ after.entries, CameraMap.SameCamera entry same

theorem Grown.trans {first second third : CameraMap} (h : Grown poolSize first second)
    (hnext : Grown poolSize second third) : Grown poolSize first third := by
  refine ⟨hnext.distinct, hnext.below, ?_⟩
  intro entry hentry
  obtain ⟨middle, hmiddle, hsame⟩ := h.kept entry hentry
  obtain ⟨last, hlast, hstill⟩ := hnext.kept middle hmiddle
  exact ⟨last, hlast, hsame.trans hstill⟩

theorem Grown.refl (hdistinct : map.Distinct)
    (hbelow : ∀ entry ∈ map.entries, entry.streamSlot < poolSize) : Grown poolSize map map :=
  ⟨hdistinct, hbelow, fun entry hentry => ⟨entry, hentry, .refl entry⟩⟩

/-- The camera has an entry that is no tombstone. -/
def HasActive (map : CameraMap) (id : String) : Prop :=
  ∃ entry ∈ map.entries, entry.stableCameraId = id ∧ entry.state = .active

/-- The entry that was planned with is in the map, and active. -/
def Held (map : CameraMap) (planned : PlannedCamera) : Prop :=
  planned.allocation.stableCameraId = planned.id ∧
    ∃ entry ∈ map.entries, CameraMap.SameCamera planned.allocation entry ∧ entry.state = .active

theorem Held.hasActive {planned : PlannedCamera} (h : Held map planned) :
    HasActive map planned.id := by
  obtain ⟨hid, entry, hentry, hsame, hactive⟩ := h
  exact ⟨entry, hentry, hsame.stableCameraId.trans hid, hactive⟩

section Stages

variable {Regex : Type} {deployment : Deployment Regex} {process : EdgeProcess} {input : TurnInput}

/-- The cameras in `done` are planned. -/
structure Planned (deployment : Deployment Regex) (start : EdgeState)
    (done : List EvaluatedCamera) (planned : List PlannedCamera) (state : EdgeState) :
    Prop where
  frame : state = { start with mapping := state.mapping }
  grown : Grown deployment.virtualPoolSize start.mapping state.mapping
  items : planned.map PlannedCamera.item = done
  held : ∀ item ∈ planned, Held state.mapping item
  unchanged : (∀ item ∈ done, HasActive start.mapping item.camera.stableCameraId) →
    state.mapping = start.mapping

variable {start state next after : EdgeState} {done evaluated : List EvaluatedCamera}
  {planned : List PlannedCamera} {chunks : Option (List SessionManifestChunkV1)}
  {stream : StreamPipeline} {id : String} {active : ExtTreeSet String} {more : List StreamPipeline}
  {manifest : SessionManifestV1} {item : EvaluatedCamera} {pipeline : Running}
  {before restarted : EdgeState} {advanced : CameraMap}

theorem Planned.allocated {allocation : CameraMapping} {mapping : CameraMap}
    {virtualDevice : String} (h : Planned deployment start done planned state)
    (hallocated : state.mapping.allocateOrReuse item.camera
      deployment.virtualPoolSize deployment.virtualStart = (.ok allocation, mapping)) :
    Planned deployment start (done ++ [item]) (planned ++ [⟨item, allocation, virtualDevice⟩])
      { state with mapping } := by
  have hentry := CameraMap.allocateOrReuse_eq_ok hallocated
  have hdistinct : mapping.Distinct := by
    have hstep := h.grown.distinct.step (.allocateOrReuse item.camera
      deployment.virtualPoolSize deployment.virtualStart)
    rwa [CameraMap.step, hallocated] at hstep
  constructor
  · rw [h.frame]
  · refine h.grown.trans ⟨hdistinct, ?_, ?_⟩
    · intro entry hmem
      rcases hentry.slots entry hmem with hfree | ⟨same, hsame, hslot⟩
      · exact hfree
      · exact hslot ▸ h.grown.below same hsame
    · intro entry hmem
      obtain ⟨same, hsame, hkept, -⟩ := hentry.kept entry hmem
      exact ⟨same, hsame, hkept⟩
  · rw [List.map_append, h.items, List.map_singleton]
  · intro other hother
    rcases List.mem_append.mp hother with hold | hnew
    · obtain ⟨hid, entry, hmem, hsame, hactive⟩ := h.held other hold
      obtain ⟨kept, hkept, hstill, hstays⟩ := hentry.kept entry hmem
      exact ⟨hid, kept, hkept, hsame.trans hstill, hstays hactive⟩
    · rw [List.mem_singleton.mp hnew]
      exact ⟨hentry.stableCameraId, allocation, hentry.mem, .refl allocation, hentry.active⟩
  · intro hactive
    have hbefore := h.unchanged fun other hother => hactive other (List.mem_append_left _ hother)
    obtain hitem := hactive item (List.mem_append_right _ List.mem_cons_self)
    rw [← hbefore] at hitem
    exact (hentry.unchanged h.grown.distinct.ids hitem).trans hbefore

theorem planCamera_triple :
    Method.Triple (Planned deployment start done planned) (planCamera deployment input item)
      (fun result => Planned deployment start (done ++ [item]) (planned ++ [result]))
      (SameLogs start) := by
  refine .bind_get fun state hstate => ?_
  have hlogs : ∀ mapping, SameLogs start { state with mapping } := by
    intro mapping
    rw [hstate.frame]
    exact ⟨rfl, rfl, rfl⟩
  generalize hallocated : state.mapping.allocateOrReuse item.camera
    deployment.virtualPoolSize deployment.virtualStart = allocated
  obtain ⟨result, mapping⟩ := allocated
  refine .bind (fun _ after => after = { state with mapping }) (.put fun _ _ => rfl) fun _ => ?_
  refine .bind (fun allocation after => after = { state with mapping } ∧ result = .ok allocation)
    (.attempt ?_ ?_) fun allocation => ?_
  · rintro _ allocation rfl hok
    exact ⟨rfl, mapError_eq_ok.mp hok⟩
  · rintro _ rfl
    exact hlogs mapping
  refine .bind (fun _ after => after = { state with mapping } ∧ result = .ok allocation)
    (.attempt (fun _ _ h _ => h) ?_) fun _ => .pure ?_
  · rintro _ ⟨rfl, -⟩
    exact hlogs mapping
  · rintro _ ⟨rfl, rfl⟩
    exact hstate.allocated hallocated

theorem planCameras_triple (evaluated : List EvaluatedCamera) (hdistinct : start.mapping.Distinct)
    (hbelow : ∀ entry ∈ start.mapping.entries, entry.streamSlot < deployment.virtualPoolSize) :
    Method.Triple (· = start) (evaluated.mapM (planCamera deployment input))
      (Planned deployment start evaluated) (SameLogs start) := by
  refine (Method.Triple.mapM (Planned deployment start) fun _ _ _ _ _ =>
    planCamera_triple).consequence ?_ (fun _ _ h => h) fun _ h => h
  rintro _ rfl
  exact ⟨rfl, .refl hdistinct hbelow, rfl, by simp, fun _ => rfl⟩

/-- A manifest of the planned cameras is stored, or none. -/
structure Stored (deployment : Deployment Regex) (process : EdgeProcess) (input : TurnInput)
    (start : EdgeState) (planned : List PlannedCamera) (state : EdgeState) : Prop where
  frame : state = { start with manifestStore := state.manifestStore }
  manifest : state.manifestStore = [] ∨ ∃ manifest,
    buildManifest input.environment (manifestPlan deployment process start planned) = .ok manifest ∧
    state.manifestStore = deployment.externals.manifest.encodeToVec manifest

theorem publishManifest_triple (start : EdgeState) (planned : List PlannedCamera) :
    Method.Triple (· = start) (publishManifest deployment process input planned)
      (fun _ => Stored deployment process input start planned) (SameLogs start) := by
  refine .bind_get fun state hstate => ?_
  subst hstate
  refine .ite (fun _ => ?_) fun _ => ?_
  · refine .bind (fun built after => after = state ∧ buildManifestChunks deployment.externals
      input.environment (manifestPlan deployment process state planned) = .ok built)
      (.attempt ?_ ?_) fun built => ?_
    · rintro _ built rfl hbuilt
      exact ⟨rfl, mapError_eq_ok.mp hbuilt⟩
    · rintro _ rfl
      exact ⟨rfl, rfl, rfl⟩
    refine .bind (fun _ => Stored deployment process input state planned) (.put ?_) fun _ =>
      .pure fun _ h => h
    rintro _ ⟨rfl, hbuilt⟩
    obtain ⟨manifest, hmanifest, hbytes⟩ := buildManifestChunks_eq_ok hbuilt
    exact ⟨rfl, Or.inr ⟨manifest, hmanifest, hbytes⟩⟩
  · refine .bind (fun _ => Stored deployment process input state planned) (.put ?_) fun _ =>
      .pure fun _ h => h
    rintro _ rfl
    exact ⟨rfl, Or.inl rfl⟩

/-! ## Pipelines -/

/-- A running stream is signed for this process, and has the slot of its
camera and the epoch and revision of the last restart. -/
structure RunsAs (deployment : Deployment Regex) (process : EdgeProcess) (state : EdgeState)
    (id : String) (stream : StreamPipeline) : Prop where
  embodimentId : stream.identity.embodimentId = deployment.config.embodimentId
  edgeInstanceId : stream.identity.edgeInstanceId = deployment.config.edgeInstanceId
  edgeBootId : stream.identity.edgeBootId = process.edgeBootId
  sessionId : stream.identity.sessionId = process.sessionId
  cameraId : stream.identity.cameraId = id
  epoch : state.streamEpochs[id]? = some stream.identity.epoch
  slot : ∃ entry ∈ state.mapping.entries,
    entry.stableCameraId = id ∧ entry.streamSlot = stream.identity.slot
  port : stream.port.toNat = deployment.config.basePort.toNat + stream.identity.slot.toNat
  signed : stream.identity.encodeSigned deployment.crates deployment.hmacKey = .ok stream.streamId
  metadata : ∀ provider ∈ stream.metadata, provider.sessionId = process.sessionId ∧
    provider.manifestRevision = state.manifestRevision
  started : stream ∈ state.started

theorem streamMetadata_eq_ok {anchor : Bool} {metadata : Option AnchorMetadataProvider}
    (h : streamMetadata deployment process state chunks anchor = .ok metadata) :
    ∀ provider ∈ metadata, provider.sessionId = process.sessionId ∧
      provider.manifestRevision = state.manifestRevision := by
  unfold streamMetadata at h
  split at h
  · obtain ⟨cut, -, h⟩ := bind_eq_ok.mp h
    obtain ⟨schedule, -, h⟩ := bind_eq_ok.mp h
    cases h
    rintro _ ⟨⟩
    exact ⟨rfl, rfl⟩
  · cases h
    rintro _ ⟨⟩

theorem streamPipeline_eq_ok {planned : PlannedCamera} {epoch : UInt32}
    (h : streamPipeline deployment process state chunks planned = .ok stream)
    (hheld : Held state.mapping planned) (hepoch : state.streamEpochs[planned.id]? = some epoch) :
    stream.identity.epoch = epoch ∧
      RunsAs deployment process { state with started := state.started ++ [stream] }
        planned.id stream := by
  unfold streamPipeline at h
  obtain ⟨port, hport, h⟩ := bind_eq_ok.mp h
  obtain ⟨streamId, hsigned, h⟩ := bind_eq_ok.mp h
  obtain ⟨metadata, hmetadata, h⟩ := bind_eq_ok.mp h
  cases h
  have hidentity : ((manifestPlan deployment process state []).streamIdentity
      planned).epoch = epoch := by
    show streamEpoch state.streamEpochs planned.id = epoch
    rw [streamEpoch, hepoch, Option.getD_some]
  obtain ⟨hid, entry, hentry, hsame, -⟩ := hheld
  rw [okOr_eq_ok, checkedPort] at hport
  split at hport
  · rename_i hsmall
    cases hport
    refine ⟨hidentity, rfl, rfl, rfl, rfl, rfl, ?_, ?_, ?_, mapError_eq_ok.mp hsigned,
      streamMetadata_eq_ok hmetadata, List.mem_append_right _ List.mem_cons_self⟩
    · rw [hidentity]
      exact hepoch
    · exact ⟨entry, hentry, hsame.stableCameraId.trans hid, hsame.streamSlot⟩
    · rw [UInt16.toNat_add, Nat.mod_eq_of_lt hsmall]
      rfl
  · cases hport

theorem RunsAs.mono (h : RunsAs deployment process state id stream)
    (hepochs : next.streamEpochs = state.streamEpochs)
    (hrevision : next.manifestRevision = state.manifestRevision)
    (hkept : ∀ entry ∈ state.mapping.entries, ∃ same ∈ next.mapping.entries,
      CameraMap.SameCamera entry same)
    (hstarted : ∀ other ∈ state.started, other ∈ next.started) :
    RunsAs deployment process next id stream := by
  refine { h with epoch := ?_, slot := ?_, metadata := ?_, started := hstarted stream h.started }
  · rw [hepochs]
    exact h.epoch
  · obtain ⟨entry, hentry, hid, hslot⟩ := h.slot
    obtain ⟨same, hsame, hkept⟩ := hkept entry hentry
    exact ⟨same, hsame, hkept.stableCameraId.trans hid, hkept.streamSlot.trans hslot⟩
  · rw [hrevision]
    exact h.metadata

/-- The streams of a process are of one session, and those of a camera have
growing epochs. -/
structure OrderedStarts (process : EdgeProcess) (started : List StreamPipeline) : Prop where
  session : ∀ stream ∈ started, stream.identity.sessionId = process.sessionId
  growing : started.Pairwise fun earlier later =>
    earlier.identity.cameraId = later.identity.cameraId →
      earlier.identity.epoch < later.identity.epoch

/-- While pipelines are started: what runs is active, and what does not run
yet gets an epoch that no stream of its camera had. -/
structure Working (deployment : Deployment Regex) (process : EdgeProcess)
    (active : ExtTreeSet String) (state : EdgeState) : Prop where
  ordered : OrderedStarts process state.started
  bounded : ∀ stream ∈ state.started, ∃ epoch,
    state.streamEpochs[stream.identity.cameraId]? = some epoch ∧ stream.identity.epoch ≤ epoch
  epochs : ∀ id ∈ active, ∃ epoch, state.streamEpochs[id]? = some epoch
  fresh : ∀ id ∈ active, id ∉ state.running → ∀ stream ∈ state.started,
    stream.identity.cameraId = id → ∀ epoch, state.streamEpochs[id]? = some epoch →
      stream.identity.epoch < epoch
  subset : ∀ id, id ∈ state.running → id ∈ active
  runs : ∀ (id : String) (stream : StreamPipeline), state.running[id]? = some (.stream stream) →
    RunsAs deployment process state id stream

/-- The log with a stream that was not running. -/
theorem Working.ordered_append (h : Working deployment process active state) (hactive : id ∈ active)
    (hmissing : id ∉ state.running)
    (hruns : RunsAs deployment process { state with started := state.started ++ [stream] }
      id stream) :
    OrderedStarts process (state.started ++ [stream]) := by
  constructor
  · intro other hother
    rcases List.mem_append.mp hother with hold | hnew
    · exact h.ordered.session other hold
    · exact List.mem_singleton.mp hnew ▸ hruns.sessionId
  rw [List.pairwise_append]
  refine ⟨h.ordered.growing, List.pairwise_singleton _ _, ?_⟩
  intro earlier hearlier later hlater hsame
  rw [List.mem_singleton.mp hlater] at hsame ⊢
  exact h.fresh id hactive hmissing earlier hearlier (hsame.trans hruns.cameraId) _ hruns.epoch

/-- The pipeline of a camera is added. -/
theorem Working.insert (h : Working deployment process active state) (hactive : id ∈ active)
    (hordered : OrderedStarts process (state.started ++ more))
    (hmore : ∀ stream ∈ more, RunsAs deployment process
      { state with started := state.started ++ more } id stream)
    (hpipeline : ∀ stream, pipeline = .stream stream → stream ∈ more) :
    Working deployment process active
      { state with
        started := state.started ++ more
        running := state.running.insert id pipeline } := by
  have hothers : ∀ stream ∈ state.started ++ more, stream ∈ state.started ∨
      stream.identity.cameraId = id ∧ state.streamEpochs[id]? = some stream.identity.epoch := by
    intro stream hstream
    rcases List.mem_append.mp hstream with hold | hnew
    · exact Or.inl hold
    · exact Or.inr ⟨(hmore stream hnew).cameraId, (hmore stream hnew).epoch⟩
  refine ⟨hordered, ?_, h.epochs, ?_, ?_, ?_⟩
  · intro stream hstream
    rcases hothers stream hstream with hold | ⟨hid, hepoch⟩
    · exact h.bounded stream hold
    · exact ⟨_, hid ▸ hepoch, UInt32.le_refl _⟩
  · intro other hother hnot stream hstream hcamera epoch hepoch
    rw [ExtTreeMap.mem_insert, not_or, Std.LawfulEqOrd.compare_eq_iff_eq] at hnot
    rcases hothers stream hstream with hold | ⟨hid, -⟩
    · exact h.fresh other hother hnot.2 stream hold hcamera epoch hepoch
    · exact absurd (hid.symm.trans hcamera) hnot.1
  · intro other hother
    rw [ExtTreeMap.mem_insert, Std.LawfulEqOrd.compare_eq_iff_eq] at hother
    rcases hother with rfl | hold
    · exact hactive
    · exact h.subset other hold
  · intro other stream hother
    rw [ExtTreeMap.getElem?_insert] at hother
    split at hother
    · rename_i hsame
      obtain rfl := Std.LawfulEqOrd.compare_eq_iff_eq.mp hsame
      have hstream := hpipeline stream (Option.some.inj hother)
      exact (hmore stream hstream).mono rfl rfl (fun entry hentry => ⟨entry, hentry, .refl entry⟩)
        fun _ hmem => hmem
    · exact (h.runs other stream hother).mono rfl rfl
        (fun entry hentry => ⟨entry, hentry, .refl entry⟩) fun _ hmem => List.mem_append_left _ hmem

/-- The pipelines of the cameras in `done` run. -/
structure Ensured (deployment : Deployment Regex) (process : EdgeProcess)
    (active : ExtTreeSet String) (start : EdgeState) (done : List PlannedCamera)
    (state : EdgeState) : Prop where
  frame : state = { start with running := state.running, started := state.started }
  working : Working deployment process active state
  running : ∀ planned ∈ done, planned.id ∈ state.running
  unchanged : (∀ planned ∈ done, planned.id ∈ start.running) → state = start

/-- A failed start leaves the files. -/
structure StoppedStarting (process : EdgeProcess) (before after : EdgeState) : Prop where
  directory : after.directory = before.directory
  exported : after.exported = before.exported
  ordered : OrderedStarts process after.started

theorem Ensured.insert {done : List PlannedCamera} {planned : PlannedCamera}
    (h : Ensured deployment process active start done state) (hmissing : planned.id ∉ state.running)
    (hworking : Working deployment process active
      { state with
        started := state.started ++ more
        running := state.running.insert planned.id pipeline }) :
    Ensured deployment process active start (done ++ [planned])
      { state with
        started := state.started ++ more
        running := state.running.insert planned.id pipeline } := by
  refine ⟨?_, hworking, ?_, ?_⟩
  · rw [h.frame]
  · intro other hother
    rw [ExtTreeMap.mem_insert, Std.LawfulEqOrd.compare_eq_iff_eq]
    rcases List.mem_append.mp hother with hold | hnew
    · exact Or.inr (h.running other hold)
    · exact Or.inl (by rw [List.mem_singleton.mp hnew])
  · intro hall
    -- if all of them ran before, this one did as well
    have hsame := h.unchanged fun other hother => hall other (List.mem_append_left _ hother)
    rw [hsame] at hmissing
    exact absurd (hall planned (List.mem_append_right _ List.mem_cons_self)) hmissing

theorem ensureRunning_triple {done : List PlannedCamera} {planned : PlannedCamera}
    (hactive : planned.id ∈ active) (hheld : Held start.mapping planned) :
    Method.Triple (Ensured deployment process active start done)
      (ensureRunning deployment process input chunks planned)
      (fun _ => Ensured deployment process active start (done ++ [planned]))
      (StoppedStarting process start) := by
  refine .bind_get fun state hstate => ?_
  refine .ite (fun hruns => .pure ?_) fun hmissing => ?_
  · rintro _ rfl
    refine { hstate with running := ?_, unchanged := ?_ }
    · intro other hother
      rcases List.mem_append.mp hother with hold | hnew
      · exact hstate.running other hold
      · exact List.mem_singleton.mp hnew ▸ hruns
    · exact fun hall => hstate.unchanged fun other hother =>
        hall other (List.mem_append_left _ hother)
  have hstopped : ∀ more, OrderedStarts process (state.started ++ more) →
      StoppedStarting process start { state with started := state.started ++ more } := by
    intro more hordered
    refine ⟨?_, ?_, hordered⟩ <;> rw [hstate.frame]
  have hnone : OrderedStarts process (state.started ++ []) := by
    rw [List.append_nil]
    exact hstate.working.ordered
  refine .ite (fun _ => ?_) fun _ => ?_
  · obtain ⟨epoch, hepoch⟩ := hstate.working.epochs planned.id hactive
    have hheld' : Held state.mapping planned := by
      rw [hstate.frame]
      exact hheld
    refine .bind (fun stream after => after = state ∧
      RunsAs deployment process { state with started := state.started ++ [stream] }
        planned.id stream) (.attempt ?_ ?_) fun stream => ?_
    · rintro _ stream rfl hstream
      exact ⟨rfl, (streamPipeline_eq_ok hstream hheld' hepoch).2⟩
    · rintro _ rfl
      simpa using hstopped [] hnone
    refine .bind (fun _ after => after = { state with started := state.started ++ [stream] } ∧
      RunsAs deployment process after planned.id stream) (.write ?_) fun _ => ?_
    · rintro _ ⟨rfl, hruns⟩
      exact ⟨rfl, hruns⟩
    refine .bind (fun _ after => after = { state with started := state.started ++ [stream] } ∧
      RunsAs deployment process after planned.id stream) (.attempt (fun _ _ h _ => h) ?_)
      fun _ => .write ?_
    · rintro _ ⟨rfl, hruns⟩
      exact hstopped [stream] (hstate.working.ordered_append hactive hmissing hruns)
    · rintro _ ⟨rfl, hruns⟩
      have hordered := hstate.working.ordered_append hactive hmissing hruns
      refine hstate.insert hmissing (hstate.working.insert hactive hordered ?_ ?_)
      · intro other hother
        rw [List.mem_singleton.mp hother]
        exact hruns
      · rintro _ ⟨⟩
        exact List.mem_cons_self
  · refine .bind (fun _ after => after = state) (.attempt (fun _ _ h _ => h) ?_) fun _ => .write ?_
    · rintro _ rfl
      simpa using hstopped [] hnone
    · rintro state rfl
      have hworking : Working deployment process active
          { state with
            started := state.started ++ []
            running := state.running.insert planned.id .ui } :=
        hstate.working.insert hactive hnone (by simp) (by simp)
      simpa using hstate.insert hmissing hworking

/-! ## Files -/

/-- What is on disk after some of the operations. -/
theorem writeFiles_triple (start : EdgeState) (stops : Option Nat) (steps : List FileStep) :
    Method.Triple (· = start) (writeFiles stops steps)
      (fun _ state => ∃ directory, execute start.directory steps = (.ok (), directory) ∧
        state = { start with directory })
      (fun state => ∃ count,
        state = { start with directory := (execute start.directory (steps.take count)).2 }) := by
  refine .bind_get fun state hstate => ?_
  subst hstate
  cases stops with
  | some count =>
    refine .bind (fun _ after => after =
      { state with directory := (execute state.directory (steps.take count)).2 })
      (.put fun _ _ => rfl) fun _ => .throw fun _ h => ⟨count, h⟩
  | none =>
    refine .bind (fun _ after => after =
      { state with directory := (execute state.directory steps).2 })
      (.put fun _ _ => rfl) fun _ => .attempt ?_ ?_
    · rintro _ _ rfl hok
      exact ⟨_, Prod.ext (mapError_eq_ok.mp hok) rfl, rfl⟩
    · rintro _ rfl
      exact ⟨steps.length, by rw [List.take_length]⟩

/-- The map was saved, or saving it stopped somewhere. -/
structure SaveStopped (codec : MapCodec) (before after : EdgeState) : Prop where
  started : after.started = before.started
  exported : after.exported = before.exported
  restored : CameraMap.restore codec after.directory mapName =
      CameraMap.restore codec before.directory mapName ∨
    ∃ advanced, before.mapping.advance = some advanced ∧
      CameraMap.restore codec after.directory mapName = .ok advanced
  exports : ∀ name ∈ [exportsName, snippetName], after.directory[name]? = before.directory[name]?

theorem saveMap_triple (hserde : deployment.codec.RoundTrips) (start : EdgeState) :
    Method.Triple (· = start) (saveMap deployment process input)
      (fun _ state => ∃ advanced, start.mapping.advance = some advanced ∧
        state = { start with
          mapping := advanced
          directory := start.directory.insert mapName (advanced.fileContents deployment.codec) })
      (SaveStopped deployment.codec start) := by
  refine .bind_get fun state hstate => ?_
  subst hstate
  cases hadvance : state.mapping.advance with
  | none =>
    refine .throw ?_
    rintro _ rfl
    exact ⟨rfl, rfl, Or.inl rfl, fun _ _ => rfl⟩
  | some advanced =>
    refine .bind (fun _ after => after = { state with mapping := advanced }) (.put fun _ _ => rfl)
      fun _ => ?_
    refine (writeFiles_triple { state with mapping := advanced } input.saveStops
      (advanced.saveSteps deployment.codec mapName process.pid)).consequence (fun _ h => h) ?_ ?_
    · rintro _ _ ⟨directory, hdirectory, rfl⟩
      rw [execute_replaceSteps_eq_ok hdirectory]
      exact ⟨advanced, rfl, rfl⟩
    · rintro _ ⟨count, rfl⟩
      refine ⟨rfl, rfl, ?_, ?_⟩
      · rcases CameraMap.restore_crashedDirectory hserde advanced state.directory mapName
          process.pid count with hold | hnew
        · exact Or.inl hold
        · exact Or.inr ⟨advanced, hadvance, hnew⟩
      · intro name hname
        refine getElem?_execute fun step hstep hmem => ?_
        rcases names_replaceSteps (List.mem_of_mem_take hstep) hmem with rfl | rfl
        · exact temporaryName_map_ne process.pid hname
        · revert hname
          decide

theorem writeExports_triple (start : EdgeState) (exports : List CameraExport) :
    Method.Triple (· = start) (writeExports deployment process input exports)
      (fun _ state => state = { start with
        exported := start.exported ++ [exports]
        directory := (start.directory.insert exportsName
          (exportsFile deployment.json exports)).insert snippetName (snippetFile exports) })
      (fun state => ∃ directory, state = { start with
          exported := start.exported ++ [exports]
          directory } ∧
        ExportsReplaced deployment.json exports start.directory directory ∧
        directory[mapName]? = start.directory[mapName]?) := by
  refine .bind (fun _ state => state = { start with exported := start.exported ++ [exports] })
    (.write ?_) fun _ => ?_
  · rintro _ rfl
    rfl
  refine (writeFiles_triple { start with exported := start.exported ++ [exports] }
    input.exportStops (exportSteps deployment.json process.pid exports)).consequence
    (fun _ h => h) ?_ ?_
  · rintro _ _ ⟨directory, hdirectory, rfl⟩
    rw [execute_exportSteps_eq_ok hdirectory]
  · rintro _ ⟨count, rfl⟩
    obtain ⟨hreplaced, hmap⟩ := exportsReplaced_take deployment.json process.pid exports
      start.directory count
    exact ⟨_, rfl, hreplaced, hmap⟩

/-- A record that was stopped: the old map or the new one is on disk, and
exports of lists. -/
structure RecordStopped (deployment : Deployment Regex) (active : ExtTreeSet String)
    (before after : EdgeState) : Prop where
  started : after.started = before.started
  restored : CameraMap.restore deployment.codec after.directory mapName =
      CameraMap.restore deployment.codec before.directory mapName ∨
    ∃ advanced, (before.mapping.tombstoneMissing active.toList).advance = some advanced ∧
      CameraMap.restore deployment.codec after.directory mapName = .ok advanced
  exports : ExportsOnDisk deployment.json before.exported before.directory →
    ExportsOnDisk deployment.json after.exported after.directory

/-- Everything is recorded. -/
structure StateRecorded (deployment : Deployment Regex) (active : ExtTreeSet String)
    (before after : EdgeState) : Prop where
  frame : after = { before with
    mapping := after.mapping
    previousActive := active
    directory := after.directory
    exported := after.exported }
  mapping : (before.mapping.tombstoneMissing active.toList).advance = some after.mapping
  restored : CameraMap.restore deployment.codec after.directory mapName = .ok after.mapping
  exports : ExportsCurrent deployment.json after.exported after.directory

theorem record_triple (hserde : deployment.codec.RoundTrips) (start : EdgeState)
    (active : ExtTreeSet String) (exports : List CameraExport) :
    Method.Triple (· = start) (record deployment process input active exports)
      (fun _ => StateRecorded deployment active start) (RecordStopped deployment active start) := by
  refine .bind (fun _ state => state = { start with
    mapping := start.mapping.tombstoneMissing active.toList }) (.write ?_) fun _ => ?_
  · rintro _ rfl
    rfl
  refine .bind (fun _ state => ∃ advanced,
    (start.mapping.tombstoneMissing active.toList).advance = some advanced ∧
    state = { start with
      mapping := advanced
      directory := start.directory.insert mapName (advanced.fileContents deployment.codec) })
    ((saveMap_triple hserde _).consequence (fun _ h => h) (fun _ _ h => h) ?_) fun _ => ?_
  · intro state hstopped
    refine ⟨hstopped.started, hstopped.restored, ?_⟩
    rintro ⟨newer, older, holder, hnewer, hlist, hsnippet⟩
    have hexported : state.exported = start.exported := hstopped.exported
    rw [hexported]
    refine ⟨newer, older, holder, hnewer, ?_, ?_⟩
    · rw [hstopped.exports exportsName (by simp)]
      exact hlist
    · rw [hstopped.exports snippetName (by simp)]
      exact hsnippet
  refine .of_states fun saved hsaved => ?_
  obtain ⟨advanced, hadvance, rfl⟩ := hsaved
  have hrestored : CameraMap.restore deployment.codec
      (start.directory.insert mapName (advanced.fileContents deployment.codec)) mapName =
        .ok advanced :=
    CameraMap.restore_of_load (CameraMap.load_fileContents hserde advanced)
  have hothers : ∀ name ∈ [exportsName, snippetName],
      (start.directory.insert mapName (advanced.fileContents deployment.codec))[name]? =
        start.directory[name]? := by
    intro name hname
    rw [ExtTreeMap.getElem?_insert, if_neg]
    rw [Std.LawfulEqOrd.compare_eq_iff_eq]
    rintro rfl
    revert hname
    decide
  refine .bind _ ((writeExports_triple _ exports).consequence (fun _ h => h) (fun _ _ h => h) ?_)
    fun _ => .write ?_
  · rintro _ ⟨directory, rfl, hreplaced, hmap⟩
    refine ⟨rfl, Or.inr ⟨advanced, hadvance, ?_⟩, ?_⟩
    · exact (CameraMap.restore_congr hmap).trans hrestored
    · rintro ⟨newer, older, holder, hnewer, hlist, hsnippet⟩
      refine ExportsOnDisk.replaced ⟨newer, older, holder, hnewer, ?_, ?_⟩ hreplaced
      · exact (hothers exportsName (by simp)).trans hlist
      · exact (hothers snippetName (by simp)).trans hsnippet
  · rintro _ rfl
    refine ⟨rfl, hadvance, ?_, ?_, ?_⟩
    · refine Eq.trans (CameraMap.restore_congr ?_) hrestored
      rw [ExtTreeMap.getElem?_insert, if_neg (by decide), ExtTreeMap.getElem?_insert,
        if_neg (by decide)]
    · simp only [List.getLast?_append, List.getLast?_singleton, Option.some_or, Option.map_some]
      rw [ExtTreeMap.getElem?_insert, if_neg (by decide), ExtTreeMap.getElem?_insert_self]
    · simp only [List.getLast?_append, List.getLast?_singleton, Option.some_or, Option.map_some]
      rw [ExtTreeMap.getElem?_insert_self]

/-! ## Manifests -/

/-- The manifest has the active cameras, each with its slot, its port and its
epoch. -/
structure CatalogOf (deployment : Deployment Regex) (process : EdgeProcess)
    (active : ExtTreeSet String) (state : EdgeState) (manifest : SessionManifestV1) : Prop where
  sessionId : manifest.sessionId = process.sessionId.bytes
  revision : manifest.manifestRevision = state.manifestRevision
  camera : ∀ camera ∈ manifest.cameras, camera.stableCameraId ∈ active ∧
    state.streamEpochs[camera.stableCameraId]? = some camera.streamEpoch ∧
    ∃ entry ∈ state.mapping.entries, entry.stableCameraId = camera.stableCameraId ∧
      camera.streamSlot = entry.streamSlot.toUInt32 ∧
      camera.transportPort.toNat = deployment.config.basePort.toNat + entry.streamSlot.toNat
  complete : ∀ id ∈ active, ∃ camera ∈ manifest.cameras, camera.stableCameraId = id

theorem CatalogOf.mono (h : CatalogOf deployment process active state manifest)
    (hepochs : next.streamEpochs = state.streamEpochs)
    (hrevision : next.manifestRevision = state.manifestRevision)
    (hkept : ∀ entry ∈ state.mapping.entries, ∃ same ∈ next.mapping.entries,
      CameraMap.SameCamera entry same) :
    CatalogOf deployment process active next manifest := by
  refine { h with revision := h.revision.trans hrevision.symm, camera := ?_ }
  intro camera hcamera
  obtain ⟨hactive, hepoch, entry, hentry, hid, hslot, hport⟩ := h.camera camera hcamera
  obtain ⟨same, hsame, hkept⟩ := hkept entry hentry
  exact ⟨hactive, by rw [hepochs, hepoch], same, hsame, hkept.stableCameraId.trans hid,
    by rw [hkept.streamSlot, hslot], by rw [hkept.streamSlot, hport]⟩

/-- A manifest is published that describes the cameras, or none. -/
def Published (deployment : Deployment Regex) (process : EdgeProcess)
    (active : ExtTreeSet String) (state : EdgeState) : Prop :=
  state.manifestStore = [] ∨ ∃ manifest, CatalogOf deployment process active state manifest ∧
    state.manifestStore = deployment.externals.manifest.encodeToVec manifest

theorem catalogOf_of_buildManifest
    (h : buildManifest input.environment (manifestPlan deployment process state planned) =
      .ok manifest)
    (hids : ∀ id, id ∈ active ↔ ∃ item ∈ planned, item.id = id)
    (hepochs : ∀ id ∈ active, ∃ epoch, state.streamEpochs[id]? = some epoch)
    (hheld : ∀ item ∈ planned, Held state.mapping item) :
    CatalogOf deployment process active state manifest := by
  obtain ⟨anchor, time, -, hports, rfl⟩ := buildManifest_eq_ok h
  refine ⟨rfl, rfl, ?_, ?_⟩
  · intro camera hcamera
    obtain ⟨item, hitem, rfl⟩ := List.mem_map.mp hcamera
    have hactive : item.id ∈ active := (hids item.id).mpr ⟨item, hitem, rfl⟩
    obtain ⟨epoch, hepoch⟩ := hepochs item.id hactive
    obtain ⟨hid, entry, hentry, hsame, -⟩ := hheld item hitem
    refine ⟨hactive, ?_, entry, hentry, hsame.stableCameraId.trans hid, ?_, ?_⟩
    · show state.streamEpochs[item.id]? = some (streamEpoch state.streamEpochs item.id)
      rw [streamEpoch, hepoch, Option.getD_some]
    · rw [hsame.streamSlot]
      rfl
    · have hsmall := hports item hitem
      show (deployment.config.basePort + item.allocation.streamSlot).toUInt32.toNat = _
      rw [UInt16.toNat_toUInt32, UInt16.toNat_add, hsame.streamSlot]
      exact Nat.mod_eq_of_lt hsmall
  · intro id hid
    obtain ⟨item, hitem, rfl⟩ := (hids id).mp hid
    exact ⟨_, List.mem_map_of_mem hitem, rfl⟩

/-! ## One turn -/

theorem Working.mono (h : Working deployment process active state)
    (hepochs : next.streamEpochs = state.streamEpochs)
    (hrevision : next.manifestRevision = state.manifestRevision)
    (hrunning : next.running = state.running) (hstarted : next.started = state.started)
    (hkept : ∀ entry ∈ state.mapping.entries, ∃ same ∈ next.mapping.entries,
      CameraMap.SameCamera entry same) :
    Working deployment process active next := by
  constructor
  · rw [hstarted]
    exact h.ordered
  · rw [hstarted, hepochs]
    exact h.bounded
  · rw [hepochs]
    exact h.epochs
  · rw [hrunning, hstarted, hepochs]
    exact h.fresh
  · rw [hrunning]
    exact h.subset
  · intro id stream hstream
    rw [hrunning] at hstream
    refine (h.runs id stream hstream).mono hepochs hrevision hkept ?_
    rw [hstarted]
    exact fun _ hmem => hmem

/-- Everything that is active is planned, described and running. -/
structure BroughtUp (deployment : Deployment Regex) (process : EdgeProcess)
    (start : EdgeState) (evaluated : List EvaluatedCamera) (state : EdgeState) : Prop where
  frame : state = { start with
    mapping := state.mapping
    manifestStore := state.manifestStore
    running := state.running
    started := state.started }
  grown : Grown deployment.virtualPoolSize start.mapping state.mapping
  working : Working deployment process (activeIds evaluated) state
  running : ∀ id ∈ activeIds evaluated, id ∈ state.running
  active : ∀ id ∈ activeIds evaluated, HasActive state.mapping id
  published : Published deployment process (activeIds evaluated) state
  /-- What was there already stays. -/
  unchanged : (∀ id ∈ activeIds evaluated, HasActive start.mapping id ∧ id ∈ start.running) →
    state = { start with manifestStore := state.manifestStore }

theorem mem_activeIds :
    id ∈ activeIds evaluated ↔ ∃ item ∈ evaluated, item.camera.stableCameraId = id := by
  rw [activeIds, ExtTreeSet.mem_ofList, List.contains_iff_mem, List.mem_map]

theorem ensureAll_triple (hworking : Working deployment process active start)
    (hactive : ∀ item ∈ planned, item.id ∈ active)
    (hheld : ∀ item ∈ planned, Held start.mapping item) :
    Method.Triple (· = start) (planned.forM (ensureRunning deployment process input chunks))
      (fun _ => Ensured deployment process active start planned) (StoppedStarting process start) := by
  have hloop : Method.Triple (Ensured deployment process active start [])
      (planned.forM (ensureRunning deployment process input chunks))
      (fun _ => Ensured deployment process active start planned) (StoppedStarting process start) := by
    refine .forM _ fun done item rest hitems => ?_
    have hitem : item ∈ planned := by simp [hitems]
    exact ensureRunning_triple (hactive item hitem) (hheld item hitem)
  refine hloop.consequence ?_ (fun _ _ h => h) fun _ h => h
  rintro _ rfl
  exact ⟨rfl, hworking, by simp, fun _ => rfl⟩

section BroughtUp

variable {start mapped stored state : EdgeState} {evaluated : List EvaluatedCamera}
  {planned : List PlannedCamera} (hmapped : Planned deployment start evaluated planned mapped)
  (hstored : Stored deployment process input mapped planned stored)
include hmapped

theorem Planned.mem_activeIds {id : String} :
    id ∈ activeIds evaluated ↔ ∃ item ∈ planned, item.id = id := by
  rw [Edge.mem_activeIds, ← hmapped.items]
  simp [PlannedCamera.id]

include hstored

theorem Stored.frame_start : stored =
    { start with mapping := mapped.mapping, manifestStore := stored.manifestStore } := by
  rw [hstored.frame, hmapped.frame]

theorem broughtUp_of_stages
    (hensured : Ensured deployment process (activeIds evaluated) stored planned state) :
    BroughtUp deployment process start evaluated state := by
  have hstart := hstored.frame_start hmapped
  have hmapping : state.mapping = mapped.mapping := by rw [hensured.frame, hstart]
  have hheld : ∀ item ∈ planned, Held state.mapping item := by
    rw [hmapping]
    exact hmapped.held
  constructor
  · rw [hensured.frame, hstart]
  · rw [hmapping]
    exact hmapped.grown
  · exact hensured.working
  · intro id hid
    obtain ⟨item, hitem, rfl⟩ := hmapped.mem_activeIds.mp hid
    exact hensured.running item hitem
  · intro id hid
    obtain ⟨item, hitem, rfl⟩ := hmapped.mem_activeIds.mp hid
    exact (hheld item hitem).hasActive
  · have hstore : state.manifestStore = stored.manifestStore := by rw [hensured.frame]
    rw [Published, hstore]
    refine hstored.manifest.imp_right ?_
    rintro ⟨manifest, hmanifest, hbytes⟩
    refine ⟨manifest, ?_, hbytes⟩
    have hcatalog : CatalogOf deployment process (activeIds evaluated) mapped manifest := by
      refine catalogOf_of_buildManifest hmanifest (fun id => hmapped.mem_activeIds) ?_ hmapped.held
      have hepochs : mapped.streamEpochs = state.streamEpochs := by
        rw [hensured.frame, hstored.frame]
      rw [hepochs]
      exact hensured.working.epochs
    refine hcatalog.mono ?_ ?_ ?_
    · rw [hensured.frame, hstored.frame]
    · rw [hensured.frame, hstored.frame]
    · rw [hmapping]
      exact fun entry hentry => ⟨entry, hentry, .refl entry⟩
  · intro hthere
    have hsame : mapped.mapping = start.mapping := hmapped.unchanged fun item hitem =>
      (hthere item.camera.stableCameraId (Edge.mem_activeIds.mpr ⟨item, hitem, rfl⟩)).1
    have hrunning : ∀ item ∈ planned, item.id ∈ stored.running := by
      intro item hitem
      rw [hstart]
      exact (hthere item.id (hmapped.mem_activeIds.mpr ⟨item, hitem, rfl⟩)).2
    rw [hensured.unchanged hrunning, hstart, hsame]

end BroughtUp

theorem bringUp_triple (hworking : Working deployment process (activeIds evaluated) start)
    (hdistinct : start.mapping.Distinct)
    (hbelow : ∀ entry ∈ start.mapping.entries, entry.streamSlot < deployment.virtualPoolSize) :
    Method.Triple (· = start) (bringUp deployment process input evaluated)
      (fun _ => BroughtUp deployment process start evaluated) (StoppedStarting process start) := by
  refine .bind _ ((planCameras_triple evaluated hdistinct hbelow).consequence (fun _ h => h)
    (fun _ _ h => h) ?_) fun planned => ?_
  · intro state hsame
    exact ⟨hsame.directory, hsame.exported, hsame.started ▸ hworking.ordered⟩
  refine .of_states fun mapped hmapped => ?_
  refine .bind _ ((publishManifest_triple mapped planned).consequence (fun _ h => h)
    (fun _ _ h => h) ?_) fun chunks => ?_
  · intro state hsame
    rw [hmapped.frame] at hsame
    exact ⟨hsame.directory, hsame.exported, hsame.started ▸ hworking.ordered⟩
  refine .of_states fun stored hstored => ?_
  have hstart := hstored.frame_start hmapped
  have hready : Working deployment process (activeIds evaluated) stored := by
    rw [hstart]
    exact hworking.mono rfl rfl rfl rfl hmapped.grown.kept
  refine .bind _ ((ensureAll_triple hready ?_ ?_).consequence (fun _ h => h) (fun _ _ h => h) ?_)
    fun _ => .pure fun state hensured => broughtUp_of_stages hmapped hstored hensured
  · exact fun item hitem => hmapped.mem_activeIds.mpr ⟨item, hitem, rfl⟩
  · rw [hstart]
    exact hmapped.held
  · intro state hstopped
    rw [hstart] at hstopped
    exact ⟨hstopped.directory, hstopped.exported, hstopped.ordered⟩

/-! ## The whole turn -/

/-- What holds between turns: all active cameras run, the map in use is the
one on disk, and what was published is up to date. -/
structure Settled (deployment : Deployment Regex) (process : EdgeProcess) (state : EdgeState) :
    Prop where
  working : Working deployment process state.previousActive state
  running : ∀ id ∈ state.previousActive, id ∈ state.running
  distinct : state.mapping.Distinct
  below : ∀ entry ∈ state.mapping.entries, entry.streamSlot < deployment.virtualPoolSize
  active : ∀ id ∈ state.previousActive, HasActive state.mapping id
  restored : CameraMap.restore deployment.codec state.directory mapName = .ok state.mapping
  published : Published deployment process state.previousActive state
  onDisk : ExportsOnDisk deployment.json state.exported state.directory
  /-- Once the set of cameras has changed. -/
  current : state.manifestRevision ≠ 0 →
    ExportsCurrent deployment.json state.exported state.directory

/-- A turn leaves everything but the manifest, or counts up the revision. -/
structure TurnDone (deployment : Deployment Regex) (process : EdgeProcess)
    (before after : EdgeState) : Prop where
  settled : Settled deployment process after
  grown : Grown deployment.virtualPoolSize before.mapping after.mapping
  step : after = { before with manifestStore := after.manifestStore } ∨
    before.manifestRevision < after.manifestRevision
  epochs : ∀ (id : String) (old : UInt32), before.streamEpochs[id]? = some old →
    ∃ epoch, after.streamEpochs[id]? = some epoch ∧ old ≤ epoch

/-- A turn that failed, whatever the reason. -/
structure TurnStopped (deployment : Deployment Regex) (process : EdgeProcess)
    (before after : EdgeState) : Prop where
  ordered : OrderedStarts process after.started
  restored : ∃ saved, CameraMap.restore deployment.codec after.directory mapName = .ok saved ∧
    Grown deployment.virtualPoolSize before.mapping saved
  onDisk : ExportsOnDisk deployment.json after.exported after.directory

theorem Settled.grown (h : Settled deployment process state) :
    Grown deployment.virtualPoolSize state.mapping state.mapping := .refl h.distinct h.below

/-- A turn that fails before it writes leaves the files of the last one. -/
theorem Settled.stopped (h : Settled deployment process before)
    (hstopped : StoppedStarting process before after) :
    TurnStopped deployment process before after := by
  refine ⟨hstopped.ordered, ⟨before.mapping, ?_, h.grown⟩, ?_⟩
  · rw [hstopped.directory]
    exact h.restored
  · rw [hstopped.directory, hstopped.exported]
    exact h.onDisk

theorem Settled.stoppedLogs (h : Settled deployment process before)
    (hsame : SameLogs before after) :
    TurnStopped deployment process before after :=
  h.stopped ⟨hsame.directory, hsame.exported, hsame.started ▸ h.working.ordered⟩

/-- A tombstone or a new generation takes no slot away. -/
theorem grown_advance {poolSize : UInt16} {map : CameraMap} {active : List String}
    (hdistinct : map.Distinct) (hbelow : ∀ entry ∈ map.entries, entry.streamSlot < poolSize)
    (hadvance : (map.tombstoneMissing active).advance = some advanced) :
    Grown poolSize map advanced := by
  have hentries := Discovery.StoredMap.entries_advance hadvance
  have hstep : (map.tombstoneMissing active).Distinct := hdistinct.step (.tombstoneMissing active)
  refine ⟨⟨by rw [hentries]; exact hstep.ids, by rw [hentries]; exact hstep.slots⟩, ?_, ?_⟩
  · intro entry hentry
    rw [hentries] at hentry
    obtain ⟨before, hbefore, rfl⟩ := List.mem_map.mp hentry
    split
    · exact hbelow before hbefore
    · exact hbelow before hbefore
  · intro entry hentry
    rw [hentries]
    refine ⟨_, List.mem_map_of_mem hentry, ?_⟩
    split
    · exact .refl entry
    · exact ⟨rfl, rfl, rfl, rfl⟩

theorem hasActive_advance {map : CameraMap} {active : List String}
    (hadvance : (map.tombstoneMissing active).advance = some advanced) (hid : id ∈ active)
    (h : HasActive map id) : HasActive advanced id := by
  obtain ⟨entry, hentry, rfl, hactive⟩ := h
  refine ⟨entry, ?_, rfl, hactive⟩
  rw [Discovery.StoredMap.entries_advance hadvance]
  exact List.mem_map.mpr ⟨entry, hentry, if_pos hid⟩

/-- Without a change of the set of cameras. -/
theorem turn_unchanged (h : Settled deployment process start)
    (hactive : activeIds evaluated = start.previousActive)
    (hstate : BroughtUp deployment process start evaluated state) :
    TurnDone deployment process start state := by
  have hsame : state = { start with manifestStore := state.manifestStore } :=
    hstate.unchanged fun id hid => ⟨h.active id (hactive ▸ hid), h.running id (hactive ▸ hid)⟩
  have hpublished := hstate.published
  have hworking := hstate.working
  rw [hactive] at hpublished hworking
  refine ⟨?_, hstate.grown, Or.inl hsame, ?_⟩
  rotate_left
  · rw [hsame]
    exact fun id old hold => ⟨old, hold, UInt32.le_refl old⟩
  have hprevious : state.previousActive = start.previousActive := by rw [hsame]
  rw [← hprevious] at hpublished hworking
  refine ⟨hworking, ?_, ?_, ?_, ?_, ?_, hpublished, ?_, ?_⟩
  all_goals rw [hsame]
  · exact h.running
  · exact h.distinct
  · exact h.below
  · exact h.active
  · exact h.restored
  · exact h.onDisk
  · exact h.current

/-- The restarted edge, with no pipeline yet. -/
theorem working_restarted (h : Settled deployment process start)
    (hstate : Restarted start active.toList state) : Working deployment process active state := by
  have hfresh : ∀ id ∈ active, ∃ epoch, state.streamEpochs[id]? = some epoch ∧
      ∀ old, start.streamEpochs[id]? = some old → old < epoch := fun id hid =>
    hstate.epochs.fresh id (ExtTreeSet.mem_toList.mpr hid)
  have hstarted : state.started = start.started := hstate.sameLogs.started
  have hrunning : state.running = ∅ := by rw [hstate.frame]
  constructor
  · rw [hstarted]
    exact h.working.ordered
  · rw [hstarted]
    intro stream hstream
    obtain ⟨old, hold, hle⟩ := h.working.bounded stream hstream
    obtain ⟨epoch, hepoch, hgrown⟩ := hstate.epochs.grows _ old hold
    exact ⟨epoch, hepoch, UInt32.le_trans hle hgrown⟩
  · intro id hid
    obtain ⟨epoch, hepoch, -⟩ := hfresh id hid
    exact ⟨epoch, hepoch⟩
  · rw [hstarted]
    rintro id hid - stream hstream rfl epoch hepoch
    obtain ⟨old, hold, hle⟩ := h.working.bounded stream hstream
    obtain ⟨new, hnew, hless⟩ := hfresh _ hid
    rw [hnew] at hepoch
    cases hepoch
    exact UInt32.lt_of_le_of_lt hle (hless old hold)
  · simp [hrunning]
  · simp [hrunning]

/-- With a change: everything is restarted and recorded. -/
theorem turn_changed (hrestarted : Restarted start (activeIds evaluated).toList restarted)
    (hstate : BroughtUp deployment process restarted evaluated state)
    (hafter : StateRecorded deployment (activeIds evaluated) state after) :
    TurnDone deployment process start after := by
  have hmapping : restarted.mapping = start.mapping := by rw [hrestarted.frame]
  have hgrown := hstate.grown
  rw [hmapping] at hgrown
  have hsaved := grown_advance hgrown.distinct hgrown.below hafter.mapping
  have hactive : after.previousActive = activeIds evaluated := by rw [hafter.frame]
  have hepochs : after.streamEpochs = state.streamEpochs := by rw [hafter.frame]
  have hrevision : after.manifestRevision = state.manifestRevision := by rw [hafter.frame]
  have hrunning : after.running = state.running := by rw [hafter.frame]
  constructor
  · constructor
    · rw [hactive]
      refine hstate.working.mono hepochs hrevision hrunning ?_ hsaved.kept
      rw [hafter.frame]
    · rw [hactive, hrunning]
      exact hstate.running
    · exact hsaved.distinct
    · exact hsaved.below
    · rw [hactive]
      intro id hid
      exact hasActive_advance hafter.mapping (ExtTreeSet.mem_toList.mpr hid) (hstate.active id hid)
    · exact hafter.restored
    · have hstore : after.manifestStore = state.manifestStore := by rw [hafter.frame]
      rw [hactive, Published, hstore]
      refine hstate.published.imp_right ?_
      rintro ⟨manifest, hmanifest, hbytes⟩
      exact ⟨manifest, hmanifest.mono hepochs hrevision hsaved.kept, hbytes⟩
    · exact hafter.exports.onDisk
    · exact fun _ => hafter.exports
  · exact hgrown.trans hsaved
  · refine Or.inr ?_
    have hcounted : after.manifestRevision = start.manifestRevision + 1 := by
      rw [hrevision, hstate.frame, hrestarted.frame]
    have hroom := hrestarted.room
    have hone : (1 : UInt64).toNat = 1 := rfl
    rw [hcounted, UInt64.lt_iff_toNat_lt, UInt64.toNat_add]
    omega
  · have hkept : after.streamEpochs = restarted.streamEpochs := by rw [hepochs, hstate.frame]
    rw [hkept]
    exact hrestarted.epochs.grows

/-- A record that was stopped leaves the old map or the new one. -/
theorem Settled.stoppedRecording (h : Settled deployment process start)
    (hrestarted : Restarted start (activeIds evaluated).toList restarted)
    (hstate : BroughtUp deployment process restarted evaluated state)
    (hafter : RecordStopped deployment (activeIds evaluated) state after) :
    TurnStopped deployment process start after := by
  have hmapping : restarted.mapping = start.mapping := by rw [hrestarted.frame]
  have hgrown := hstate.grown
  rw [hmapping] at hgrown
  have hdirectory : state.directory = start.directory := by
    rw [hstate.frame, hrestarted.frame]
  have hexported : state.exported = start.exported := by
    rw [hstate.frame, hrestarted.frame]
  refine ⟨hafter.started ▸ hstate.working.ordered, ?_, hafter.exports ?_⟩
  · rcases hafter.restored with hold | ⟨advanced, hadvance, hnew⟩
    · rw [hold, hdirectory]
      exact ⟨start.mapping, h.restored, h.grown⟩
    · exact ⟨advanced, hnew, hgrown.trans (grown_advance hgrown.distinct hgrown.below hadvance)⟩
  · rw [hdirectory, hexported]
    exact h.onDisk

/-- What was dropped before a restart is dropped by it anyway. -/
theorem Restarted.of_dropRemoved {done : List String}
    (h : Restarted (dropRemoved active start) done state) :
    Restarted start done state := ⟨h.room, h.epochs, h.frame⟩

theorem dropRemoved_eq_self (h : active = start.previousActive) :
    dropRemoved active start = start := by
  have hnone : start.previousActive.toList.filter (· ∉ active) = [] := by
    rw [List.filter_eq_nil_iff]
    intro id hid
    rw [h]
    simpa using ExtTreeSet.mem_toList.mp hid
  rw [dropRemoved, hnone]
  rfl

theorem turn_triple (hserde : deployment.codec.RoundTrips) (h : Settled deployment process start) :
    Method.Triple (· = start) (turn deployment process input)
      (fun _ => TurnDone deployment process start) (TurnStopped deployment process start) := by
  refine .bind (fun _ state => state = start) (.attempt (fun _ _ hstart _ => hstart) ?_)
    fun evaluated => ?_
  · rintro _ rfl
    exact h.stoppedLogs ⟨rfl, rfl, rfl⟩
  refine .bind_get fun state hstate => ?_
  subst hstate
  refine .bind (fun _ after => after = dropRemoved (activeIds evaluated) state) (.write ?_)
    fun _ => ?_
  · rintro _ rfl
    rfl
  by_cases hchanged : (activeIds evaluated).toList = state.previousActive.toList
  · have hactive : activeIds evaluated = state.previousActive := ExtTreeSet.ext_toList (hchanged ▸ .refl _)
    simp only [hchanged, ne_eq, not_true_eq_false, decide_false, Bool.false_eq_true, if_false]
    rw [dropRemoved_eq_self hactive]
    refine .bind (fun _ after => after = state) (.pure fun _ hafter => hafter) fun _ => ?_
    refine .bind _ ((bringUp_triple (hactive ▸ h.working) h.distinct h.below).consequence
      (fun _ hafter => hafter) (fun _ _ hafter => hafter) fun _ => h.stopped) fun _ => .pure ?_
    exact fun _ => turn_unchanged h hactive
  · simp only [hchanged, ne_eq, not_false_eq_true, decide_true, if_true]
    refine .bind _ ((restartAll_triple _ _).consequence (fun _ hafter => hafter)
      (fun _ _ hafter => hafter) ?_) fun _ => ?_
    · exact fun _ hsame => h.stoppedLogs ⟨hsame.directory, hsame.started, hsame.exported⟩
    refine .of_states fun restarted hrestarted => ?_
    replace hrestarted := hrestarted.of_dropRemoved
    have hmapping : restarted.mapping = state.mapping := by rw [hrestarted.frame]
    refine .bind _ ((bringUp_triple (working_restarted h hrestarted) (hmapping ▸ h.distinct)
      (hmapping ▸ h.below)).consequence (fun _ hafter => hafter) (fun _ _ hafter => hafter) ?_)
      fun _ => ?_
    · intro after hstopped
      rw [hrestarted.frame] at hstopped
      exact h.stopped ⟨hstopped.directory, hstopped.exported, hstopped.ordered⟩
    refine .of_states fun running hrunning => ?_
    refine (record_triple hserde running (activeIds evaluated) _).consequence
      (fun _ hafter => hafter) (fun _ _ => turn_changed hrestarted hrunning) fun _ hstopped => ?_
    exact h.stoppedRecording hrestarted hrunning hstopped

end Stages

end RobotMulticam.Edge
