import RobotMulticam.Edge.Resampling
import RobotMulticam.Edge.Startup
import RobotMulticam.Protocol.Wire
import RobotMulticam.Timebase.ClockMapper

/-!
# Collecting samples

For every adapter that was described at startup a task runs
`collect_adapter_samples`: it connects again, insists on the revision of the
descriptor that the embodiment was compiled with, and pushes the blocks of
every sample into the one assembler that all tasks share. A task starts over
whenever its stream breaks, with a new connection and a new clock mapper. The
lock is held for all blocks of a sample, so a sample is one action of a run.

Frames are captured at any time in between. `contexts_hold_samples` says what
the contexts of these frames are made of: a slice is zero, or its values are
those of blocks that came in samples of the compiled revision.
-/

namespace RobotMulticam.Edge.Collect

open RobotMulticam.Lib
open RobotMulticam.Protocol
open RobotMulticam.Timebase
open Std (ExtTreeMap)

variable {F64 : Type}

/-! ## The tasks -/

inductive TaskStage (F64 : Type) where
  /-- Between two connections. -/
  | waiting
  | streaming (connection : AdapterConnection) (mapper : ClockMapper F64)
  | stopped

structure CollectorTask (F64 : Type) where
  socket : List Char
  expectedRevision : UInt64
  stage : TaskStage F64

structure Collector (F64 : Type) where
  assembler : ContextAssembler
  tasks : List (CollectorTask F64)

/-- The tasks that `initialize_adapters` spawns. The endpoint has been stripped
before, so it can be stripped again. -/
def spawned (embodiment : EmbodimentConfig) (runtime : InitializedAdapters) : Collector F64 where
  assembler := runtime.assembler
  tasks := embodiment.adapters.filterMap fun adapter => do
    let expected ← runtime.descriptors[adapter.adapterInstanceId]?
    let socket ← (unixSocket adapter.endpoint).toOption
    some ⟨socket, expected.descriptorRevision, .waiting⟩

/-- What a task does with its next event. -/
inductive CollectAction where
  /-- It tries to connect; `streams` says whether the samples can be requested. -/
  | connect (task : Nat) (reached : Except LinkFault AdapterDescriptor) (streams : Bool)
  /-- A sample arrives; the time is zero if the system clock has none. -/
  | sample (task : Nat) (sample : DeviceSample) (edgeReceiveNs : UInt64)
  /-- The stream ends, fails or times out. -/
  | interrupt (task : Nat)

/-- `SourceClockKind::EdgeMonotonic as i32` -/
def edgeMonotonic : Int32 := 1

def mapperConfig : ClockMapperConfig := ⟨128, 15000000, 2000000000⟩

def sourceClockKind (descriptor : AdapterDescriptor) : Int32 :=
  (descriptor.sourceClock.map (·.kind)).getD 0

/-- A block on its way into the assembler, with the time it is given. -/
structure Taken where
  sample : DeviceSample
  block : FeatureBlock
  timeEdgeNs : UInt64

/-- What `push` is called with. -/
def Taken.pushed (taken : Taken) : UInt64 × FeatureSample :=
  (taken.block.featureId, ⟨taken.timeEdgeNs, taken.block.values, taken.block.valid⟩)

def connectTask (task : CollectorTask F64) (reached : Except LinkFault AdapterDescriptor)
    (streams : Bool) : CollectorTask F64 :=
  match task.stage with
  | .waiting =>
    match connectSocket task.socket reached with
    | .error _ => task
    | .ok connection =>
      if connection.descriptor.descriptorRevision ≠ task.expectedRevision then task
      else match ClockMapper.new mapperConfig with
      | .error _ => { task with stage := .stopped }
      | .ok mapper => if streams then { task with stage := .streaming connection mapper } else task
  | _ => task

def interruptTask (task : CollectorTask F64) : CollectorTask F64 :=
  match task.stage with
  | .streaming _ _ => { task with stage := .waiting }
  | _ => task

section Clock

variable (arithmetic : Arithmetic F64)

/-- The time of a source on the edge's clock. -/
def edgeTime (kind : Int32) (mapper : ClockMapper F64) (edgeReceiveNs sourceNs : UInt64) : UInt64 :=
  if kind = edgeMonotonic then sourceNs
  else (mapper.map arithmetic sourceNs).toOption.getD edgeReceiveNs

/-- A block without a time of its own has that of its sample. -/
def blockTime (kind : Int32) (mapper : ClockMapper F64) (edgeReceiveNs : UInt64)
    (sample : DeviceSample) (block : FeatureBlock) : UInt64 :=
  edgeTime arithmetic kind mapper edgeReceiveNs
    (if block.sourceTimeNs = 0 then sample.sourceTimeNs else block.sourceTimeNs)

/-- A turn of the inner loop, and the blocks it pushes. -/
def sampleTask (task : CollectorTask F64) (sample : DeviceSample) (edgeReceiveNs : UInt64) :
    CollectorTask F64 × List Taken :=
  match task.stage with
  | .streaming connection mapper =>
    match connection.validateSample sample with
    | .error _ => ({ task with stage := .waiting }, [])
    | .ok connection =>
      if edgeReceiveNs = 0 then ({ task with stage := .waiting }, [])
      else
        -- an observation that the mapper rejects is not an error here
        let mapper := (mapper.observe arithmetic ⟨sample.sourceTimeNs, edgeReceiveNs⟩).2
        let kind := sourceClockKind connection.descriptor
        ({ task with stage := .streaming connection mapper },
          sample.featureBlocks.map fun block =>
            ⟨sample, block, blockTime arithmetic kind mapper edgeReceiveNs sample block⟩)
  | _ => (task, [])

/-- The blocks that an action pushes. -/
def takes (collector : Collector F64) : CollectAction → List Taken
  | .sample task sample edgeReceiveNs =>
    (collector.tasks[task]?.map fun task =>
      (sampleTask arithmetic task sample edgeReceiveNs).2).getD []
  | _ => []

/-- Where the action takes the task it is about. -/
def taskAfter : CollectAction → CollectorTask F64 → CollectorTask F64
  | .connect _ reached streams, task => connectTask task reached streams
  | .sample _ sample edgeReceiveNs, task => (sampleTask arithmetic task sample edgeReceiveNs).1
  | .interrupt _, task => interruptTask task

def CollectAction.task : CollectAction → Nat
  | .connect task _ _ => task
  | .sample task _ _ => task
  | .interrupt task => task

/-- A block that the assembler refuses is only logged. -/
def step (collector : Collector F64) (action : CollectAction) : Collector F64 where
  assembler :=
    run ContextAssembler.offer collector.assembler
      ((takes arithmetic collector action).map Taken.pushed)
  tasks := collector.tasks.modify action.task (taskAfter arithmetic action)

end Clock

/-! ## What is pushed -/

/-- A block of a sample that was made under one of the descriptors. -/
structure TakenSound (descriptors : ExtTreeMap String AdapterDescriptor) (taken : Taken) :
    Prop where
  block : taken.block ∈ taken.sample.featureBlocks
  finite : ∀ value ∈ taken.block.values, value.isFinite = true
  revision : ∃ (id : String) (descriptor : AdapterDescriptor), descriptors[id]? = some descriptor ∧
    taken.sample.descriptorRevision = descriptor.descriptorRevision

/-- A task expects the revision of one of the descriptors, and the adapter at
the other end of its connection has it. -/
structure TaskSound (descriptors : ExtTreeMap String AdapterDescriptor)
    (task : CollectorTask F64) : Prop where
  expects : ∃ (id : String) (descriptor : AdapterDescriptor), descriptors[id]? = some descriptor ∧
    task.expectedRevision = descriptor.descriptorRevision
  streams : ∀ connection mapper, task.stage = .streaming connection mapper →
    connection.descriptor.descriptorRevision = task.expectedRevision

section Tasks

variable {descriptors : ExtTreeMap String AdapterDescriptor} {task : CollectorTask F64}

/-- A task that has no connection is as sound as its revision. -/
theorem TaskSound.idle (h : TaskSound descriptors task) {stage : TaskStage F64}
    (hidle : ∀ connection mapper, stage ≠ .streaming connection mapper) :
    TaskSound descriptors { task with stage } :=
  ⟨h.expects, fun connection mapper hstage => absurd hstage (hidle connection mapper)⟩

theorem TaskSound.connectTask (h : TaskSound descriptors task)
    (reached : Except LinkFault AdapterDescriptor) (streams : Bool) :
    TaskSound descriptors (connectTask task reached streams) := by
  unfold Collect.connectTask
  split
  · split
    · exact h
    · rename_i connection _
      split
      · exact h
      · rename_i hrevision
        split
        · exact h.idle (by simp)
        · split
          · refine ⟨h.expects, fun found mapper hstage => ?_⟩
            cases hstage
            exact not_not.mp hrevision
          · exact h
  · exact h

theorem TaskSound.interruptTask (h : TaskSound descriptors task) :
    TaskSound descriptors (interruptTask task) := by
  unfold Collect.interruptTask
  split
  · exact h.idle (by simp)
  · exact h

/-- A turn of the inner loop keeps the connection's descriptor, and pushes
blocks of a sample that the connection accepted. -/
theorem TaskSound.sampleTask (h : TaskSound descriptors task) (arithmetic : Arithmetic F64)
    (sample : DeviceSample) (edgeReceiveNs : UInt64) :
    TaskSound descriptors (sampleTask arithmetic task sample edgeReceiveNs).1 ∧
      ∀ taken ∈ (sampleTask arithmetic task sample edgeReceiveNs).2,
        TakenSound descriptors taken := by
  unfold Collect.sampleTask
  split
  · rename_i connection mapper hstage
    split
    · exact ⟨h.idle (by simp), by simp⟩
    · rename_i next hnext
      split
      · exact ⟨h.idle (by simp), by simp⟩
      · obtain ⟨hfits, rfl⟩ := validateSample_eq_ok_iff.mp hnext
        have hrevision := h.streams connection mapper hstage
        refine ⟨⟨h.expects, fun found other hfound => ?_⟩, fun taken htaken => ?_⟩
        · cases hfound
          exact hrevision
        · obtain ⟨block, hblock, rfl⟩ := List.mem_map.mp htaken
          obtain ⟨id, descriptor, hdescriptor, hexpected⟩ := h.expects
          exact ⟨hblock, (hfits.blocks block hblock).finite, id, descriptor, hdescriptor,
            hfits.revision.trans (hrevision.trans hexpected)⟩
  · exact ⟨h, by simp⟩

theorem TaskSound.taskAfter (h : TaskSound descriptors task) (arithmetic : Arithmetic F64)
    (action : CollectAction) : TaskSound descriptors (taskAfter arithmetic action task) := by
  cases action with
  | connect _ reached streams => exact h.connectTask reached streams
  | sample _ sample edgeReceiveNs => exact (h.sampleTask arithmetic sample edgeReceiveNs).1
  | interrupt _ => exact h.interruptTask

theorem takenSound_of_mem_takes {collector : Collector F64} {arithmetic : Arithmetic F64}
    (h : ∀ task ∈ collector.tasks, TaskSound descriptors task) {action : CollectAction}
    {taken : Taken} (htaken : taken ∈ takes arithmetic collector action) :
    TakenSound descriptors taken := by
  cases action with
  | connect _ _ _ => cases htaken
  | sample index sample edgeReceiveNs =>
    cases hfound : collector.tasks[index]? with
    | none => simp [takes, hfound] at htaken
    | some task =>
      rw [takes, hfound] at htaken
      exact ((h task (List.mem_of_getElem? hfound)).sampleTask arithmetic sample
        edgeReceiveNs).2 taken htaken
  | interrupt _ => cases htaken

end Tasks

/-! ## What the rings hold -/

/-- The ring of every feature holds what was pushed under its id. -/
def RingsFrom (assembler : ContextAssembler) (pushed : List (UInt64 × FeatureSample)) : Prop :=
  ∀ feature ∈ assembler.layout.features, ∀ ring : FeatureRing,
    assembler.rings[feature.featureId]? = some ring →
      ∀ sample ∈ ring.samples, (feature.featureId, sample) ∈ pushed

/-- The assembler of a layout, after the given pushes. -/
structure Holding (layout : CompiledEmbodiment) (maxGapNs : UInt64) (assembler : ContextAssembler)
    (pushed : List (UInt64 × FeatureSample)) : Prop where
  layout_eq : assembler.layout = layout
  gap : assembler.maxGapNs = maxGapNs
  fits : assembler.Fits
  rings : RingsFrom assembler pushed

section Rings

variable {layout : CompiledEmbodiment} {maxGapNs : UInt64} {assembler : ContextAssembler}
  {pushed : List (UInt64 × FeatureSample)}

theorem RingsFrom.offer (h : RingsFrom assembler pushed) (item : UInt64 × FeatureSample) :
    RingsFrom (assembler.offer item) (pushed ++ [item]) := by
  rcases assembler.offer_cases item with hsame | ⟨ring, after, hring, hinsert, hnext⟩
  · rw [hsame]
    intro feature hfeature ring hring sample hsample
    exact List.mem_append_left _ (h feature hfeature ring hring sample hsample)
  · rw [hnext]
    intro feature hfeature found hfound sample hsample
    rw [ExtTreeMap.getElem?_insert] at hfound
    split at hfound
    · rename_i hid
      cases hfound
      obtain ⟨-, rfl⟩ := FeatureRing.insert_eq_ok.mp hinsert
      rw [← Std.LawfulEqOrd.eq_of_compare hid]
      rcases List.mem_append.mp hsample with hkept | hlast
      · rw [Std.LawfulEqOrd.eq_of_compare hid] at hring ⊢
        exact List.mem_append_left _ (h feature hfeature ring hring sample
          ((makeRoom_suffix _ _).subset hkept))
      · rw [List.mem_singleton.mp hlast]
        exact List.mem_append_right _ (List.mem_singleton.mpr rfl)
    · exact List.mem_append_left _ (h feature hfeature found hfound sample hsample)

theorem Holding.offer (h : Holding layout maxGapNs assembler pushed)
    (item : UInt64 × FeatureSample) :
    Holding layout maxGapNs (assembler.offer item) (pushed ++ [item]) := by
  refine ⟨(assembler.layout_offer item).trans h.layout_eq, ?_, h.fits.offer item,
    h.rings.offer item⟩
  rcases assembler.offer_cases item with hsame | ⟨ring, after, -, -, hnext⟩
  · rw [hsame, h.gap]
  · rw [hnext, h.gap]

theorem Holding.offers (h : Holding layout maxGapNs assembler pushed)
    (items : List (UInt64 × FeatureSample)) :
    Holding layout maxGapNs (run ContextAssembler.offer assembler items) (pushed ++ items) := by
  induction items generalizing assembler pushed with
  | nil => simpa using h
  | cons item items ih => simpa using ih (h.offer item)

/-- A new assembler has only empty rings. -/
theorem holding_new (hids : (layout.features.map (·.featureId)).Nodup) {capacity : Nat}
    {contextBudgetBytes : Nat}
    (h : ContextAssembler.new layout capacity maxGapNs contextBudgetBytes = .ok assembler) :
    Holding layout maxGapNs assembler [] := by
  obtain ⟨hlayout, hfits⟩ := ContextAssembler.fits_new hids h
  rw [ContextAssembler.new_eq] at h
  obtain ⟨rings, hrings, h⟩ := bind_eq_ok.mp h
  cases h
  refine ⟨hlayout, rfl, hfits, fun feature hfeature ring hring sample hsample => ?_⟩
  rw [ContextAssembler.foldlM_insertRing_eq_ok hids hrings feature hfeature] at hring
  cases hring
  cases hsample

end Rings

/-! ## What is resampled -/

section Resampled

variable {ring : FeatureRing} {atNs maxGapNs : UInt64} {sample : FeatureSample}

theorem of_previous (h : ring.previous atNs = some sample) :
    sample ∈ ring.samples ∧ sample.valid = true ∧ sample.timeEdgeNs ≤ atNs := by
  have hfound := List.find?_some h
  rw [Bool.and_eq_true, decide_eq_true_eq] at hfound
  exact ⟨List.mem_reverse.mp (List.mem_of_find?_eq_some h), hfound⟩

theorem of_next (h : ring.next atNs = some sample) :
    sample ∈ ring.samples ∧ sample.valid = true ∧ atNs ≤ sample.timeEdgeNs := by
  have hfound := List.find?_some h
  rw [Bool.and_eq_true, decide_eq_true_eq] at hfound
  exact ⟨List.mem_of_find?_eq_some h, hfound⟩

theorem of_nearer
    (h : FeatureRing.nearer atNs (ring.previous atNs) (ring.next atNs) = some sample) :
    sample ∈ ring.samples ∧ sample.valid = true := by
  have hside : ring.previous atNs = some sample ∨ ring.next atNs = some sample := by
    unfold FeatureRing.nearer at h
    split at h
    · split at h
      · rename_i hprevious _ _
        exact Or.inl (hprevious.trans h)
      · rename_i hnext _
        exact Or.inr (hnext.trans h)
    · rename_i hprevious _
      exact Or.inl (hprevious.trans h)
    · rename_i hnext
      exact Or.inr (hnext.trans h)
    · cases h
  rcases hside with hprevious | hnext
  · exact ⟨(of_previous hprevious).1, (of_previous hprevious).2.1⟩
  · exact ⟨(of_next hnext).1, (of_next hnext).2.1⟩

/-- What a method returns comes from one sample of the ring, or from two of
them for the linear method. -/
theorem resample_from {resampling : Resampling} {method : InterpolationMethod}
    {value : ResampledFeature} (h : ring.resample resampling atNs method maxGapNs = some value) :
    (method ≠ .linear ∧ ∃ sample ∈ ring.samples, sample.valid = true ∧
      FeatureRing.distance atNs sample ≤ maxGapNs.toNat ∧ value.values = sample.values) ∨
    method = .linear ∧ ∃ earlier ∈ ring.samples, ∃ later ∈ ring.samples,
      (earlier.valid = true ∧ earlier.timeEdgeNs ≤ atNs) ∧
      (later.valid = true ∧ atNs ≤ later.timeEdgeNs) ∧
      later.timeEdgeNs.toNat - earlier.timeEdgeNs.toNat ≤ maxGapNs.toNat ∧
      ∃ alpha, value.values = List.zipWith (fun left right =>
        resampling.interpolate left right alpha) earlier.values later.values := by
  cases method with
  | linear =>
    obtain ⟨earlier, hearlier, h⟩ := Option.bind_eq_some_iff.mp h
    obtain ⟨later, hlater, h⟩ := Option.bind_eq_some_iff.mp h
    obtain ⟨hbefore, hearlierValid⟩ := of_previous hearlier
    obtain ⟨hafter, hlaterValid⟩ := of_next hlater
    unfold FeatureRing.resampleLinear at h
    dsimp only at h
    split at h
    · cases h
    · rename_i hgap
      rw [UInt64.not_lt, UInt64.le_iff_toNat_le, toNat_saturatingSub64] at hgap
      cases h
      exact Or.inr ⟨rfl, earlier, hbefore, later, hafter, hearlierValid, hlaterValid, hgap, _, rfl⟩
  | zeroOrderHold =>
    obtain ⟨selected, hselected, h⟩ := Option.bind_eq_some_iff.mp h
    obtain ⟨hmem, hvalid, hbefore⟩ := of_previous hselected
    rw [Option.ite_none_right_eq_some, UInt64.le_iff_toNat_le, toNat_saturatingSub64] at h
    obtain ⟨hgap, h⟩ := h
    cases h
    refine Or.inl ⟨by simp, selected, hmem, hvalid, ?_, rfl⟩
    rw [UInt64.le_iff_toNat_le] at hbefore
    unfold FeatureRing.distance Nat.dist
    omega
  | nearest =>
    obtain ⟨selected, hselected, hclose, rfl⟩ :=
      (FeatureRing.resample_nearest_eq_some_iff resampling).mp h
    obtain ⟨hmem, hvalid⟩ := of_nearer hselected
    exact Or.inl ⟨by simp, selected, hmem, hvalid, hclose, rfl⟩
  | none =>
    obtain ⟨selected, hselected, rfl⟩ := Option.map_eq_some_iff.mp h
    obtain ⟨hprevious, htime⟩ := Option.filter_eq_some_iff.mp hselected
    obtain ⟨hmem, hvalid, -⟩ := of_previous hprevious
    refine Or.inl ⟨by simp, selected, hmem, hvalid, ?_, rfl⟩
    rw [FeatureRing.distance, of_decide_eq_true htime, Nat.dist_self]
    exact Nat.zero_le _
  | unspecified => cases h

end Resampled

/-! ## What a context shows -/

/-- A valid block that was taken for a feature. -/
structure Usable (log : List Taken) (feature : CompiledFeature) (taken : Taken) : Prop where
  mem : taken ∈ log
  id : taken.block.featureId = feature.featureId
  valid : taken.block.valid = true

/-- The values of a feature at a time: those of one block that is close to it,
or between those of two blocks on both sides of it. -/
inductive FromTaken (resampling : Resampling) (log : List Taken) (atNs maxGapNs : UInt64)
    (feature : CompiledFeature) : List F32 → Prop
  | single {taken : Taken} (husable : Usable log feature taken)
      (hmethod : InterpolationMethod.tryFrom feature.interpolation ≠ some .linear)
      (hclose : Nat.dist taken.timeEdgeNs.toNat atNs.toNat ≤ maxGapNs.toNat) :
      FromTaken resampling log atNs maxGapNs feature taken.block.values
  | between {earlier later : Taken} (hearlier : Usable log feature earlier)
      (hlater : Usable log feature later)
      (hmethod : InterpolationMethod.tryFrom feature.interpolation = some .linear)
      (hbefore : earlier.timeEdgeNs ≤ atNs) (hafter : atNs ≤ later.timeEdgeNs)
      (hgap : later.timeEdgeNs.toNat - earlier.timeEdgeNs.toNat ≤ maxGapNs.toNat) (alpha : F32) :
      FromTaken resampling log atNs maxGapNs feature
        (List.zipWith (fun left right => resampling.interpolate left right alpha)
          earlier.block.values later.block.values)

variable {assembler : ContextAssembler} {log : List Taken} {feature : CompiledFeature}
  {layout : CompiledEmbodiment}

theorem RingsFrom.usable (h : RingsFrom assembler (log.map Taken.pushed))
    (hfeature : feature ∈ assembler.layout.features) {ring : FeatureRing}
    (hring : assembler.rings[feature.featureId]? = some ring) {sample : FeatureSample}
    (hsample : sample ∈ ring.samples) (hvalid : sample.valid = true) :
    ∃ taken, Usable log feature taken ∧ sample.timeEdgeNs = taken.timeEdgeNs ∧
      sample.values = taken.block.values := by
  obtain ⟨taken, htaken, hpushed⟩ := List.mem_map.mp (h feature hfeature ring hring sample hsample)
  obtain ⟨hid, rfl⟩ := Prod.mk.inj hpushed
  exact ⟨taken, ⟨htaken, hid, hvalid⟩, rfl, rfl⟩

theorem Holding.resampled {maxGapNs : UInt64}
    (h : Holding layout maxGapNs assembler (log.map Taken.pushed))
    (hfeature : feature ∈ layout.features) {resampling : Resampling} {atNs : UInt64}
    {value : ResampledFeature} (hvalue : assembler.resampled resampling atNs feature = some value) :
    FromTaken resampling log atNs maxGapNs feature value.values := by
  rw [← h.layout_eq] at hfeature
  obtain ⟨ring, hring, hresample⟩ := Option.bind_eq_some_iff.mp hvalue
  rw [h.gap] at hresample
  rcases resample_from hresample with ⟨hmethod, sample, hsample, hvalid, hclose, hvalues⟩ |
    ⟨hmethod, earlier, hearlier, later, hlater, ⟨hearlierValid, hbefore⟩, ⟨hlaterValid, hafter⟩,
      hgap, alpha, hvalues⟩
  · obtain ⟨taken, husable, htime, hsame⟩ := h.rings.usable hfeature hring hsample hvalid
    rw [hvalues, hsame]
    refine .single husable (fun hlinear => hmethod (by rw [hlinear]; rfl)) ?_
    rwa [← htime]
  · obtain ⟨first, hfirst, hfirstTime, hfirstValues⟩ :=
      h.rings.usable hfeature hring hearlier hearlierValid
    obtain ⟨second, hsecond, hsecondTime, hsecondValues⟩ :=
      h.rings.usable hfeature hring hlater hlaterValid
    rw [hvalues, hfirstValues, hsecondValues]
    rw [hfirstTime] at hbefore hgap
    rw [hsecondTime] at hafter hgap
    -- an unknown number stands for no method, so this one is known
    have hlinear : InterpolationMethod.tryFrom feature.interpolation = some .linear := by
      cases hfound : InterpolationMethod.tryFrom feature.interpolation with
      | none => simp [hfound] at hmethod
      | some method => simpa [hfound] using hmethod
    exact .between hfirst hsecond hlinear hbefore hafter hgap alpha

/-! ## Runs -/

/-- The collector after the given blocks were taken. -/
structure Collected (layout : CompiledEmbodiment) (maxGapNs : UInt64)
    (descriptors : ExtTreeMap String AdapterDescriptor) (collector : Collector F64)
    (log : List Taken) : Prop where
  assembler : Holding layout maxGapNs collector.assembler (log.map Taken.pushed)
  tasks : ∀ task ∈ collector.tasks, TaskSound descriptors task
  taken : ∀ taken ∈ log, TakenSound descriptors taken

theorem Collected.step {maxGapNs : UInt64} {descriptors : ExtTreeMap String AdapterDescriptor}
    {collector : Collector F64} (h : Collected layout maxGapNs descriptors collector log)
    (arithmetic : Arithmetic F64) (action : CollectAction) :
    Collected layout maxGapNs descriptors (step arithmetic collector action)
      (log ++ takes arithmetic collector action) := by
  refine ⟨?_, ?_, ?_⟩
  · rw [List.map_append]
    exact h.assembler.offers _
  · exact forall_mem_modify h.tasks fun task htask => htask.taskAfter arithmetic action
  · exact List.forall_mem_append.mpr
      ⟨h.taken, fun taken htaken => takenSound_of_mem_takes h.tasks htaken⟩

section Started

variable {crates : SchemaCrates} {config : ControlConfig} {embodiment : EmbodimentConfig}
  {runtime : InitializedAdapters}

/-- No ring is made for an empty feature. -/
theorem length_ne_of_new {layout : CompiledEmbodiment} {capacity : Nat} {maxGapNs : UInt64}
    {contextBudgetBytes : Nat} {assembler : ContextAssembler}
    (h : ContextAssembler.new layout capacity maxGapNs contextBudgetBytes = .ok assembler) :
    ∀ feature ∈ layout.features, feature.length ≠ 0 := by
  rw [ContextAssembler.new_eq] at h
  obtain ⟨rings, hrings, -⟩ := bind_eq_ok.mp h
  refine loop_invariant (fun done _ => ∀ feature ∈ done, feature.length ≠ 0) ?_ (by simp) hrings
  intro done feature before after hbefore hafter
  obtain ⟨ring, hring, -⟩ := bind_eq_ok.mp hafter
  refine List.forall_mem_append.mpr ⟨hbefore, List.forall_mem_singleton.mpr fun hzero => ?_⟩
  unfold FeatureRing.new at hring
  rw [if_pos (Or.inr (by rw [hzero]; rfl))] at hring
  cases hring

/-- The layout of a runtime is sound as soon as its ids are distinct: valid
descriptors and the assembler see to the rest. -/
theorem layoutSound_of_initialized (h : Initialized crates config embodiment runtime)
    (hids : (runtime.compiled.features.map (·.featureId)).Nodup) :
    LayoutSound runtime.compiled := by
  have hlays := compile_eq_ok h.compiles
  have hfeatureIds : runtime.compiled.features.map (·.featureId) =
      (embodiment.selected runtime.descriptors).map (·.featureId) :=
    map_eq_of_forall₂ hlays.features fun _ _ hcompiled => hcompiled.featureId
  refine (hlays.sound_iff ?_ fun feature hfeature => (of_mem_selected hfeature).1).mpr
    ⟨?_, hfeatureIds ▸ hids⟩
  · intro feature hfeature
    obtain ⟨-, id, descriptor, hdescriptor, hmem⟩ := of_mem_selected hfeature
    obtain ⟨connection, hconnect⟩ := h.described id descriptor hdescriptor
    obtain ⟨_, hvalid, -⟩ := bind_eq_ok.mp hconnect
    exact (validateDescriptor_eq_ok (mapError_eq_ok.mp hvalid)).2.2 feature hmem
  · refine (forall_mem_iff_of_forall₂ hlays.features ?_).mpr (length_ne_of_new h.assembles)
    intro descriptor feature hcompiled
    exact (not_congr (shapeLength_eq_zero hcompiled.length)).symm

theorem collected_spawned (h : Initialized crates config embodiment runtime)
    (hids : (runtime.compiled.features.map (·.featureId)).Nodup) :
    Collected runtime.compiled config.stateMaxGapNs runtime.descriptors
      (spawned embodiment runtime : Collector F64) [] := by
  refine ⟨holding_new hids h.assembles, fun task htask => ?_, by simp⟩
  obtain ⟨adapter, -, htask⟩ := List.mem_filterMap.mp htask
  obtain ⟨expected, hexpected, htask⟩ := Option.bind_eq_some_iff.mp htask
  obtain ⟨socket, -, htask⟩ := Option.bind_eq_some_iff.mp htask
  cases htask
  exact ⟨⟨_, expected, hexpected, rfl⟩, by simp⟩

/-- A slice of a context, and whether its feature is marked as valid. -/
def Shows (resampling : Resampling) (log : List Taken) (atNs maxGapNs : UInt64)
    (feature : CompiledFeature) (marked : Bool) (values : List F32) : Prop :=
  (marked = false ∧ values = List.replicate feature.length.toNat ⟨0⟩) ∨
    (marked = true ∧ FromTaken resampling log atNs maxGapNs feature values)

/-- The tasks of all adapters push into one assembler, in any order and with
any interruptions. If the ids of the compiled features are distinct, a context
assembled at any moment is a context or over its budget, never a panic; every
slice whose feature is not marked is zero, and every other one holds the values
of valid blocks that were taken for that feature close to the capture time. All
blocks that were ever taken are finite and were sampled under the revision of a
descriptor that the embodiment was compiled with. -/
theorem contexts_hold_samples (arithmetic : Arithmetic F64)
    {attempts : AdapterRef → AdapterAttempts}
    (hstart : initializeAdapters crates config embodiment attempts = .ok runtime)
    (hids : (runtime.compiled.features.map (·.featureId)).Nodup)
    (actions : List CollectAction) (collector : Collector F64)
    (hcollector : collector = run (step arithmetic) (spawned embodiment runtime) actions)
    (log : List Taken)
    (hlog : log = outputs (step arithmetic) (takes arithmetic) (spawned embodiment runtime) actions)
    (externals : Externals) (resampling : Resampling) (sessionId : Uuid)
    (anchorFrameSeq manifestRevision captureTimeEdgeNs : UInt64) :
    (∀ taken ∈ log, TakenSound runtime.descriptors taken) ∧
    ∃ assembly : Assembly,
      (∀ (index : Nat) (feature : CompiledFeature),
        runtime.compiled.features[index]? = some feature →
          Shows resampling log captureTimeEdgeNs config.stateMaxGapNs feature
            (testBit assembly.validity index)
            (segmentAt feature.offset.toNat feature.length.toNat
              (assembly.vector feature.kind))) ∧
      (collector.assembler.assemble externals resampling sessionId anchorFrameSeq manifestRevision
          captureTimeEdgeNs = fail .contextBudget ∨
        collector.assembler.assemble externals resampling sessionId anchorFrameSeq manifestRevision
          captureTimeEdgeNs = .ok (ContextAssembler.contextOf runtime.compiled sessionId
            anchorFrameSeq manifestRevision assembly)) := by
  have hinitialized := initializeAdapters_eq_ok hstart
  have hcollected : Collected runtime.compiled config.stateMaxGapNs runtime.descriptors collector
      log := by
    rw [hcollector, hlog]
    exact run_outputs_invariant' (fun _ _ action h => h.step arithmetic action)
      (collected_spawned hinitialized hids) actions
  have hassembler := hcollected.assembler
  refine ⟨hcollected.taken, ?_⟩
  obtain ⟨assembly, hfilled, hresult⟩ := hassembler.fits.assemble
    (hassembler.layout_eq ▸ layoutSound_of_initialized hinitialized hids) externals resampling
    sessionId anchorFrameSeq manifestRevision captureTimeEdgeNs
  rw [hassembler.layout_eq] at hfilled hresult
  refine ⟨assembly, fun index feature hfeature => ?_, hresult⟩
  have hindex := (List.getElem?_eq_some_iff.mp hfeature).1
  have hvalues := hfilled.values index feature hfeature
  have hbit := hfilled.bits index feature hfeature
  rw [if_pos hindex] at hvalues
  rw [decide_eq_true hindex, Bool.true_and] at hbit
  rw [hvalues, hbit]
  cases hvalue : collector.assembler.resampled resampling captureTimeEdgeNs feature with
  | none => exact Or.inl ⟨rfl, rfl⟩
  | some value =>
    exact Or.inr ⟨rfl, hassembler.resampled (List.mem_of_getElem? hfeature) hvalue⟩

end Started

/-- The bench's arm, whose samples are held until the next one and which reads
the edge's clock. -/
def heldDescriptor : AdapterDescriptor :=
  { benchDescriptor with
    sourceClock := some { sourceClockId := "edge", kind := edgeMonotonic }
    devices := [{
      deviceId := "arm"
      features := [
        { featureId := 1, qualifiedName := "arm.position", shape := [2], interpolation := 2 },
        { featureId := 2, qualifiedName := "arm.target", shape := [2], interpolation := 2 }] }] }

def heldStart : Except StartupError InitializedAdapters :=
  initializeAdapters namesAndPlaces benchConfig benchEmbodiment
    fun _ => ⟨true, [], .ok heldDescriptor⟩

def heldRuntime : InitializedAdapters := heldStart.toOption.get (by decide +kernel)

theorem heldStart_eq : heldStart = .ok heldRuntime := eq_ok_of_isSome _

/-- The arm's stream breaks after its first sample, which has no target. -/
def heldActions : List CollectAction :=
  [.connect 0 (.ok heldDescriptor) true,
    .sample 0 {
      adapterInstanceId := "arm-adapter"
      deviceId := "arm"
      sampleSeq := 1
      sourceTimeNs := 10
      featureBlocks := [{ featureId := 1, values := [⟨1⟩, ⟨2⟩], valid := true }]
      descriptorRevision := 1 } 12,
    .interrupt 0]

/-- The arithmetic of a mapper that never has a model. -/
def noModel : Arithmetic Unit := ⟨fun _ => none, fun _ _ _ => false, fun _ _ => none⟩

def heldCollector : Collector Unit :=
  run (step noModel) (spawned benchEmbodiment heldRuntime) heldActions

def heldLog : List Taken :=
  outputs (step noModel) (takes noModel) (spawned benchEmbodiment heldRuntime) heldActions

def heldResampling : Resampling := ⟨fun _ _ => ⟨0⟩, fun earlier _ _ => earlier⟩

def heldAssembled : Outcome ContextError AnchorFrameContextV1 :=
  heldCollector.assembler.assemble (wireExternals [] [] [] [] []) heldResampling
    syncTimestampUuid 1 1 20

theorem held_facts : (heldRuntime.compiled.features.map (·.featureId)).Nodup ∧
    heldAssembled.toOption.map (·.featureValidityBitmap) = some [1] := by
  decide +kernel

/-- The position is that of the sample; the target is not marked. -/
theorem contexts_hold_samples_held :
    (∀ taken ∈ heldLog, TakenSound heldRuntime.descriptors taken) ∧
      ∃ assembly : Assembly, heldAssembled = .ok (ContextAssembler.contextOf heldRuntime.compiled
          syncTimestampUuid 1 1 assembly) ∧
        ∀ feature : CompiledFeature, heldRuntime.compiled.features[0]? = some feature →
          FromTaken heldResampling heldLog 20 1000 feature
            (segmentAt feature.offset.toNat feature.length.toNat
              (assembly.vector feature.kind)) := by
  obtain ⟨hids, hbitmap⟩ := held_facts
  obtain ⟨htaken, assembly, hshows, hresult⟩ := contexts_hold_samples noModel heldStart_eq hids
    heldActions heldCollector rfl heldLog rfl (wireExternals [] [] [] [] []) heldResampling
    syncTimestampUuid 1 1 20
  have hassembled : heldAssembled = .ok (ContextAssembler.contextOf heldRuntime.compiled
      syncTimestampUuid 1 1 assembly) := by
    rcases hresult with hfull | hcontext
    · rw [heldAssembled, hfull] at hbitmap
      cases hbitmap
    · exact hcontext
  refine ⟨htaken, assembly, hassembled, fun feature hfeature => ?_⟩
  have hvalidity : assembly.validity = [1] := by
    rw [hassembled] at hbitmap
    exact Option.some.inj hbitmap
  rcases hshows 0 feature hfeature with ⟨hunmarked, -⟩ | ⟨-, hfrom⟩
  · rw [hvalidity] at hunmarked
    exact absurd hunmarked (by decide)
  · exact hfrom

end RobotMulticam.Edge.Collect
