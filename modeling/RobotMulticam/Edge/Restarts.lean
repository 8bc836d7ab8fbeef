import RobotMulticam.Edge.Turn
import RobotMulticam.Lib.Run
import RobotMulticam.Protocol.Wire

/-!
# An edge over its restarts

An edge runs turn after turn until one fails, is stopped at any time and
started again, and keeps nothing but its state directory. `Host.step` is one
turn or one start; a run is any sequence of them, with any failures.

* `stream_epochs_grow`: no camera gets an epoch twice in a session.
* `running_streams_apart`: what runs is what is active, and no two streams
  share a slot or a port.
* `manifest_matches_streams`: the published manifest agrees with the streams
  that run.
* `revision_fixes_catalog`: as long as the revision stays, so does everything
  that a manifest says about slots, ports and epochs.
* `slots_survive_restarts`: a camera has one slot for ever, whatever crashes.
* `exports_complete`: the exported files are never torn.
-/

namespace RobotMulticam.Edge

open RobotMulticam.Lib
open RobotMulticam.Protocol
open RobotMulticam.Identity
open RobotMulticam.Discovery (CameraCandidate CameraMap)
open Std (ExtTreeMap ExtTreeSet)

/-- What `serve` starts its loop with. -/
def EdgeState.boot (mapping : CameraMap) (directory : Directory)
    (exported : List (List CameraExport)) : EdgeState where
  mapping
  running := ∅
  previousActive := ∅
  streamEpochs := ∅
  manifestRevision := 0
  manifestStore := []
  directory
  started := []
  exported

/-- The edge's process, if it is alive, and what is left of it if not. -/
structure Host where
  process : EdgeProcess
  edge : EdgeState
  alive : Bool

inductive HostAction where
  | turn (input : TurnInput)
  /-- A process that still runs is killed. -/
  | start (process : EdgeProcess)

namespace Host

/-- The first start, in an empty state directory. -/
def first (process : EdgeProcess) : Host := ⟨process, .boot {} ∅ [], true⟩

variable {Regex : Type}

def step (deployment : Deployment Regex) (host : Host) : HostAction → Host
  | .turn input =>
    if host.alive then
      let (outcome, edge) := turn deployment host.process input host.edge
      { host with edge, alive := outcome.toOption.isSome }
    else host
  | .start process =>
    match CameraMap.restore deployment.codec host.edge.directory mapName with
    | .ok mapping => ⟨process, .boot mapping host.edge.directory host.edge.exported, true⟩
    | .error _ => { host with alive := false }

/-! ## The invariant -/

/-- What the state directory and the logs are worth, and the state of a
process that is alive. -/
structure Sound (deployment : Deployment Regex) (host : Host) : Prop where
  restored : ∃ saved, CameraMap.restore deployment.codec host.edge.directory mapName = .ok saved ∧
    Grown deployment.virtualPoolSize saved saved
  ordered : OrderedStarts host.process host.edge.started
  onDisk : ExportsOnDisk deployment.json host.edge.exported host.edge.directory
  settled : host.alive = true → Settled deployment host.process host.edge

/-- Slots that are on disk stay on disk. -/
def Later (deployment : Deployment Regex) (before after : Host) : Prop :=
  ∀ saved, CameraMap.restore deployment.codec before.edge.directory mapName = .ok saved →
    ∃ next, CameraMap.restore deployment.codec after.edge.directory mapName = .ok next ∧
      Grown deployment.virtualPoolSize saved next

variable {deployment : Deployment Regex}

/-- A process that starts with a map that is on disk. -/
theorem settled_boot {process : EdgeProcess} {mapping : CameraMap} {directory : Directory}
    {exported : List (List CameraExport)}
    (hrestored : CameraMap.restore deployment.codec directory mapName = .ok mapping)
    (hgrown : Grown deployment.virtualPoolSize mapping mapping)
    (honDisk : ExportsOnDisk deployment.json exported directory) :
    Settled deployment process (.boot mapping directory exported) where
  working := {
    ordered := ⟨by simp [EdgeState.boot], .nil⟩
    bounded := by simp [EdgeState.boot]
    epochs := by simp [EdgeState.boot]
    fresh := by simp [EdgeState.boot]
    subset := by simp [EdgeState.boot]
    runs := by simp [EdgeState.boot] }
  running := by simp [EdgeState.boot]
  distinct := hgrown.distinct
  below := hgrown.below
  active := by simp [EdgeState.boot]
  restored := hrestored
  published := Or.inl rfl
  onDisk := honDisk
  current := fun h => absurd rfl h

variable {host : Host} {known : List Discovery.MapFile}

theorem Sound.of_settled (h : Settled deployment host.process host.edge) : host.Sound deployment :=
  ⟨⟨_, h.restored, h.grown⟩, h.working.ordered, h.onDisk, fun _ => h⟩

theorem sound_first (process : EdgeProcess) : (first process).Sound deployment := by
  refine .of_settled (settled_boot rfl ⟨⟨.nil, .nil⟩, by simp, by simp⟩ ?_)
  exact ⟨0, 0, le_rfl, le_rfl, rfl, rfl⟩

/-- The inversion lemma: what a turn of a process that is alive can do. -/
theorem step_turn_cases (hserde : deployment.codec.RoundTrips) (h : host.Sound deployment)
    (halive : host.alive = true) (input : TurnInput) :
    (∃ edge, host.step deployment (.turn input) = ⟨host.process, edge, true⟩ ∧
      TurnDone deployment host.process host.edge edge) ∨
    ∃ edge, host.step deployment (.turn input) = ⟨host.process, edge, false⟩ ∧
      TurnStopped deployment host.process host.edge edge := by
  have htriple : Method.Triple (· = host.edge) (turn deployment host.process input)
      (fun _ => TurnDone deployment host.process host.edge)
      (TurnStopped deployment host.process host.edge) := turn_triple hserde (h.settled halive)
  rcases hturn : turn deployment host.process input host.edge with ⟨outcome, edge⟩
  rw [step, if_pos halive, hturn]
  cases outcome with
  | ok result => exact Or.inl ⟨edge, rfl, htriple.ok rfl hturn⟩
  | error fault => exact Or.inr ⟨edge, rfl, htriple.error rfl hturn⟩

theorem step_start {mapping : CameraMap} (process : EdgeProcess)
    (h : CameraMap.restore deployment.codec host.edge.directory mapName = .ok mapping) :
    host.step deployment (.start process) =
      ⟨process, .boot mapping host.edge.directory host.edge.exported, true⟩ := by
  rw [step, h]

theorem Later.refl (h : host.Sound deployment) : Later deployment host host := by
  intro saved hsaved
  obtain ⟨other, hother, hgrown⟩ := h.restored
  rw [hsaved] at hother
  cases hother
  exact ⟨saved, hsaved, hgrown⟩

theorem Later.trans {first second third : Host} (h : Later deployment first second)
    (hnext : Later deployment second third) : Later deployment first third := by
  intro saved hsaved
  obtain ⟨middle, hmiddle, hgrown⟩ := h saved hsaved
  obtain ⟨last, hlast, hstill⟩ := hnext middle hmiddle
  exact ⟨last, hlast, hgrown.trans hstill⟩

/-- The step lemma. -/
theorem Sound.step (hserde : deployment.codec.RoundTrips) (h : host.Sound deployment)
    (action : HostAction) :
    (host.step deployment action).Sound deployment ∧
      Later deployment host (host.step deployment action) := by
  cases action with
  | start process =>
    obtain ⟨saved, hsaved, hgrown⟩ := h.restored
    rw [step_start process hsaved]
    exact ⟨.of_settled (settled_boot hsaved hgrown h.onDisk), Later.refl h⟩
  | turn input =>
    cases halive : host.alive with
    | false =>
      have hsame : host.step deployment (.turn input) = host := by simp [Host.step, halive]
      rw [hsame]
      exact ⟨h, Later.refl h⟩
    | true =>
      have hbefore := (h.settled halive).restored
      rcases step_turn_cases hserde h halive input with ⟨edge, hedge, hdone⟩ | ⟨edge, hedge, hstopped⟩
      · rw [hedge]
        refine ⟨.of_settled hdone.settled, ?_⟩
        intro saved hsaved
        rw [hbefore] at hsaved
        cases hsaved
        exact ⟨edge.mapping, hdone.settled.restored, hdone.grown⟩
      · obtain ⟨saved, hsaved, hgrown⟩ := hstopped.restored
        rw [hedge]
        refine ⟨⟨⟨saved, hsaved, .refl hgrown.distinct hgrown.below⟩, hstopped.ordered,
          hstopped.onDisk, fun hdead => by cases hdead⟩, ?_⟩
        intro mapping hmapping
        rw [hbefore] at hmapping
        cases hmapping
        exact ⟨saved, hsaved, hgrown⟩

/-- The run lemma. -/
theorem Sound.run (hserde : deployment.codec.RoundTrips) (h : host.Sound deployment)
    (actions : List HostAction) :
    (run (Host.step deployment) host actions).Sound deployment ∧
      Later deployment host (run (Host.step deployment) host actions) := by
  induction actions generalizing host with
  | nil => exact ⟨h, .refl h⟩
  | cons action actions ih =>
    obtain ⟨hnext, hlater⟩ := h.step hserde action
    obtain ⟨hlast, hstill⟩ := ih hnext
    exact ⟨hlast, hlater.trans hstill⟩

theorem sound_run (hserde : deployment.codec.RoundTrips) (process : EdgeProcess)
    (actions : List HostAction) :
    (Lib.run (Host.step deployment) (first process) actions).Sound deployment :=
  ((sound_first process).run hserde actions).1

/-! ## A run to evaluate

Two cameras, of which one is lost and found again. The codec of the camera map
has short contents for the maps of these runs, and numbers for all others. -/

/-- Where a file stands in a list. -/
def placeOf (known : List Discovery.MapFile) (file : Discovery.MapFile) : Option Nat :=
  known.findIdx? fun other => (other.generation, other.entries, other.checksumBlake3) =
    (file.generation, file.entries, file.checksumBlake3)

def readKnown (known : List Discovery.MapFile) : List UInt8 → Option Discovery.MapFile
  | 0 :: index :: _ => known[index.toNat]?
  | 1 :: bytes => CameraMap.numberCodec.fromSlice bytes
  | _ => none

def knownCodec (known : List Discovery.MapFile) : Discovery.MapCodec where
  toWriterPretty file := ((placeOf known file).map fun index => [0, UInt8.ofNat index]).getD
    (1 :: CameraMap.numberCodec.toWriterPretty file)
  fromSlice := readKnown known
  toVec payload := [UInt8.ofNat payload.entries.length]
  blake3Hex bytes := toString bytes

theorem getElem?_placeOf {file : Discovery.MapFile} {index : Nat}
    (h : placeOf known file = some index) : known[index]? = some file := by
  obtain ⟨hlength, hfound, -⟩ := List.findIdx?_eq_some_iff_getElem.mp h
  rw [List.getElem?_eq_getElem hlength, Option.some.injEq]
  obtain ⟨generation, entries, checksum⟩ := file
  rcases hother : known[index] with ⟨otherGeneration, otherEntries, otherChecksum⟩
  simpa [hother] using hfound

theorem knownCodec_roundTrips (h : known.length ≤ 256) : (knownCodec known).RoundTrips := by
  intro file
  show readKnown known (((placeOf known file).map fun index => [0, UInt8.ofNat index]).getD
    (1 :: CameraMap.numberCodec.toWriterPretty file) ++ [10]) = some file
  cases hplace : placeOf known file with
  | none => exact CameraMap.numberCodec_roundTrips file
  | some index =>
    have hfound := getElem?_placeOf hplace
    have hless := (List.getElem?_eq_some_iff.mp hfound).1
    show known[(UInt8.ofNat index).toNat]? = some file
    rw [UInt8.toNat_ofNat', Nat.mod_eq_of_lt (by omega), hfound]

def frontCamera : CameraCandidate := Discovery.anonymousCamera "/dev/video0" "a"

def sideCamera : CameraCandidate :=
  { Discovery.anonymousCamera "/dev/video2" "b" with serial := some "17" }

/-- The ids under `lengthHash`. -/
def frontId : String := "cam_emrsgizdemrs"

def sideId : String := "cam_eusskjjfeuss"

/-- The map's file; the front camera is always there. -/
def deskFile (generation : UInt64) (side : Discovery.MappingState) : Discovery.MapFile :=
  ⟨generation, [⟨frontId, "4:046d|4:0825|0:|0:|0:|0:|7:primary", 0, 40, .active⟩,
    ⟨sideId, "4:046d|4:0825|2:17|0:|0:|0:|7:primary", 1, 41, side⟩], toString [(2 : UInt8)]⟩

/-- The anchor is the camera at a path, if there is one. -/
def deskDeployment (anchor : String) : Deployment Unit where
  config := ⟨640, 480, 30, 10000, "arms", "edge"⟩
  virtualPoolSize := 4
  virtualStart := 40
  manifestRepeatSec := 2
  hmacKey := [1, 2, 3]
  policy := ⟨[], [], .path anchor⟩
  regex := ⟨fun _ _ => true⟩
  discovery := Discovery.lengthHash
  externals := wireExternals [] [] [] [] []
  crates := lengthCrates
  codec := knownCodec [deskFile 1 .active, deskFile 2 .active, deskFile 2 .tombstone]
  json := fun exports => [UInt8.ofNat exports.length]

theorem deskDeployment_roundTrips (anchor : String) : (deskDeployment anchor).codec.RoundTrips :=
  knownCodec_roundTrips (by simp)

def deskProcess (sessionId : Nat) : EdgeProcess :=
  ⟨1, .ofNat sessionId, .ofNat 7, ⟨∅, ⟨"arms", 1, 2, 0, 0, 0, []⟩⟩⟩

def deskInput (candidates : List CameraCandidate) : TurnInput where
  snapshot := .ok candidates
  environment := ⟨id, "0.1.0", some 5⟩
  virtualDevice _ := .ok ()
  pipeline _ := .ok ()
  saveStops := none
  exportStops := none

/-- Both cameras are found. -/
def deskHost (anchor : String) : Host :=
  run (Host.step (deskDeployment anchor)) (first (deskProcess 1))
    [.turn (deskInput [frontCamera, sideCamera])]

/-- Another turn finds the same cameras. -/
def unchangedHost : Host :=
  run (Host.step (deskDeployment "")) (deskHost "")
    ([deskInput [frontCamera, sideCamera]].map .turn)

/-- The side camera is gone. -/
def changedHost : Host :=
  run (Host.step (deskDeployment "")) (first (deskProcess 1))
    [.turn (deskInput [frontCamera, sideCamera]), .turn (deskInput [frontCamera])]

/-- The edge is started again. -/
def startedAgain : Host :=
  run (Host.step (deskDeployment "")) (deskHost "")
    [.start (deskProcess 2), .turn (deskInput [frontCamera, sideCamera])]

/-- The pipeline of a streamed camera. -/
def streamOf (host : Host) (id : String) : Option StreamPipeline :=
  host.edge.running[id]?.bind fun
    | .stream stream => some stream
    | .ui => none

theorem streamOf_eq_some {id : String} {stream : StreamPipeline}
    (h : host.streamOf id = some stream) : host.edge.running[id]? = some (.stream stream) := by
  obtain ⟨pipeline, hpipeline, hsome⟩ := Option.bind_eq_some_iff.mp h
  cases pipeline with
  | stream own =>
    cases hsome
    exact hpipeline
  | ui => cases hsome

theorem exists_stream {id : String} (h : (host.streamOf id).isSome = true) :
    ∃ stream, host.edge.running[id]? = some (.stream stream) := by
  obtain ⟨stream, hstream⟩ := Option.isSome_iff_exists.mp h
  exact ⟨stream, streamOf_eq_some hstream⟩

/-- What these runs end in. -/
theorem desk_facts :
    ((deskHost "").alive = true ∧ (deskHost "").edge.manifestRevision = 1 ∧
      (deskHost "").edge.running.keys = [frontId, sideId] ∧
      ((deskHost "").streamOf sideId).isSome = true) ∧
    (unchangedHost.alive = true ∧ unchangedHost.edge.manifestRevision = 1) ∧
    changedHost.edge.started.map (fun stream => (stream.identity.cameraId, stream.identity.epoch)) =
      [(frontId, 1), (sideId, 1), (frontId, 2)] ∧
    startedAgain.alive = true ∧ (startedAgain.streamOf sideId).isSome = true := by
  decide +kernel

/-! ## Streams -/

/-- Over any run, the streams of the process have its session, and a camera's
epochs grow from start to start. -/
theorem stream_epochs_grow (deployment : Deployment Regex) (hserde : deployment.codec.RoundTrips)
    (process : EdgeProcess) (actions : List HostAction) (host : Host)
    (hhost : host = Lib.run (Host.step deployment) (first process) actions) :
    OrderedStarts host.process host.edge.started := by
  subst hhost
  exact (sound_run hserde process actions).ordered

theorem stream_epochs_grow_changedHost :
    changedHost.edge.started.map (fun stream => (stream.identity.cameraId, stream.identity.epoch)) =
      [(frontId, 1), (sideId, 1), (frontId, 2)] ∧
      OrderedStarts changedHost.process changedHost.edge.started :=
  ⟨desk_facts.2.2.1, stream_epochs_grow (deskDeployment "") (deskDeployment_roundTrips "")
    (deskProcess 1) _ changedHost rfl⟩

/-- The streams that run: one for each active camera that is streamed, on
slots and ports of their own. -/
structure StreamsApart (deployment : Deployment Regex) (host : Host) : Prop where
  active : ∀ id, id ∈ host.edge.running ↔ id ∈ host.edge.previousActive
  runs : ∀ (id : String) (stream : StreamPipeline),
    host.edge.running[id]? = some (.stream stream) →
      RunsAs deployment host.process host.edge id stream ∧
        stream.identity.slot < deployment.virtualPoolSize
  apart : ∀ (id other : String) (stream stream' : StreamPipeline),
    host.edge.running[id]? = some (.stream stream) →
    host.edge.running[other]? = some (.stream stream') → id ≠ other →
      stream.identity.slot ≠ stream'.identity.slot ∧ stream.port ≠ stream'.port

theorem streamsApart_of_settled (h : Settled deployment host.process host.edge) :
    StreamsApart deployment host := by
  have hslots : ∀ (id other : String) (stream stream' : StreamPipeline),
      host.edge.running[id]? = some (.stream stream) →
      host.edge.running[other]? = some (.stream stream') → id ≠ other →
        stream.identity.slot ≠ stream'.identity.slot := by
    intro id other stream stream' hstream hstream' hne hsame
    obtain ⟨entry, hentry, hid, hslot⟩ := (h.working.runs id stream hstream).slot
    obtain ⟨entry', hentry', hid', hslot'⟩ := (h.working.runs other stream' hstream').slot
    have hone := List.inj_on_of_nodup_map h.distinct.slots hentry hentry'
      (hslot.trans (hsame.trans hslot'.symm))
    exact hne (hid.symm.trans ((congrArg _ hone).trans hid'))
  refine ⟨fun id => ⟨h.working.subset id, h.running id⟩, ?_, ?_⟩
  · intro id stream hstream
    have hruns := h.working.runs id stream hstream
    obtain ⟨entry, hentry, -, hslot⟩ := hruns.slot
    exact ⟨hruns, hslot ▸ h.below entry hentry⟩
  · intro id other stream stream' hstream hstream' hne
    have hslot := hslots id other stream stream' hstream hstream' hne
    refine ⟨hslot, fun hport => hslot (UInt16.toNat_inj.mp ?_)⟩
    have hport' := (h.working.runs id stream hstream).port
    have hother := (h.working.runs other stream' hstream').port
    rw [hport] at hport'
    omega

theorem running_streams_apart (deployment : Deployment Regex)
    (hserde : deployment.codec.RoundTrips) (process : EdgeProcess) (actions : List HostAction)
    (host : Host) (hhost : host = Lib.run (Host.step deployment) (first process) actions)
    (halive : host.alive = true) : StreamsApart deployment host := by
  subst hhost
  exact streamsApart_of_settled ((sound_run hserde process actions).settled halive)

theorem running_streams_apart_deskHost :
    (deskHost "").edge.running.keys = [frontId, sideId] ∧
      StreamsApart (deskDeployment "") (deskHost "") :=
  ⟨desk_facts.1.2.2.1, running_streams_apart (deskDeployment "") (deskDeployment_roundTrips "")
    (deskProcess 1) _ (deskHost "") rfl desk_facts.1.1⟩

/-! ## Manifests -/

/-- A manifest that is in line with the streams that run. -/
structure MatchesStreams (host : Host) (manifest : SessionManifestV1) : Prop where
  sessionId : manifest.sessionId = host.process.sessionId.bytes
  cameras : ∀ id, (∃ camera ∈ manifest.cameras, camera.stableCameraId = id) ↔
    id ∈ host.edge.running
  stream : ∀ camera ∈ manifest.cameras, ∀ stream,
    host.edge.running[camera.stableCameraId]? = some (.stream stream) →
      camera.streamEpoch = stream.identity.epoch ∧
      camera.streamSlot = stream.identity.slot.toUInt32 ∧
      camera.transportPort = stream.port.toUInt32 ∧
      ∀ provider ∈ stream.metadata, provider.manifestRevision = manifest.manifestRevision

theorem matchesStreams_of_catalogOf {manifest : SessionManifestV1}
    (h : Settled deployment host.process host.edge)
    (hcatalog : CatalogOf deployment host.process host.edge.previousActive host.edge manifest) :
    MatchesStreams host manifest := by
  refine ⟨hcatalog.sessionId, ?_, ?_⟩
  · intro id
    constructor
    · rintro ⟨camera, hcamera, rfl⟩
      exact h.running _ (hcatalog.camera camera hcamera).1
    · intro hrunning
      exact hcatalog.complete id (h.working.subset id hrunning)
  · intro camera hcamera stream hstream
    have hruns := h.working.runs _ stream hstream
    obtain ⟨-, hepoch, entry, hentry, hid, hslot, hport⟩ := hcatalog.camera camera hcamera
    obtain ⟨own, hown, hownId, hownSlot⟩ := hruns.slot
    have hone := List.inj_on_of_nodup_map h.distinct.ids hentry hown (hid.trans hownId.symm)
    rw [hruns.epoch] at hepoch
    refine ⟨(Option.some.inj hepoch).symm, ?_, ?_, ?_⟩
    · rw [hslot, hone, hownSlot]
    · apply UInt32.toNat_inj.mp
      rw [hport, hone, hownSlot, UInt16.toNat_toUInt32, hruns.port]
    · intro provider hprovider
      rw [(hruns.metadata provider hprovider).2, hcatalog.revision]

theorem manifest_matches_streams (deployment : Deployment Regex)
    (hserde : deployment.codec.RoundTrips) (process : EdgeProcess) (actions : List HostAction)
    (host : Host) (hhost : host = Lib.run (Host.step deployment) (first process) actions)
    (halive : host.alive = true) :
    host.edge.manifestStore = [] ∨ ∃ manifest, MatchesStreams host manifest ∧
      host.edge.manifestStore = deployment.externals.manifest.encodeToVec manifest := by
  subst hhost
  have h := (sound_run hserde process actions).settled halive
  refine h.published.imp_right ?_
  rintro ⟨manifest, hcatalog, hbytes⟩
  exact ⟨manifest, matchesStreams_of_catalogOf h hcatalog, hbytes⟩

theorem manifest_matches_streams_deskHost :
    ∃ manifest, MatchesStreams (deskHost "/dev/video0") manifest := by
  have hfacts : (deskHost "/dev/video0").alive = true ∧
      (deskHost "/dev/video0").edge.manifestStore.length ≠ 0 := by
    decide +kernel
  rcases manifest_matches_streams (deskDeployment "/dev/video0") (deskDeployment_roundTrips _)
    (deskProcess 1) _ (deskHost "/dev/video0") rfl hfacts.1 with hnone | ⟨manifest, hmatches, -⟩
  · exact absurd (congrArg List.length hnone) hfacts.2
  · exact ⟨manifest, hmatches⟩

/-- Turns do not bring a process back. -/
theorem run_turns_of_dead (h : host.alive = false) (inputs : List TurnInput) :
    Lib.run (Host.step deployment) host (inputs.map .turn) = host := by
  induction inputs with
  | nil => rfl
  | cons input inputs ih =>
    have hsame : host.step deployment (.turn input) = host := by simp [Host.step, h]
    rw [List.map_cons, run_cons, hsame, ih]

/-- The run lemma for the revision. -/
theorem Sound.turns (hserde : deployment.codec.RoundTrips) (h : host.Sound deployment)
    (inputs : List TurnInput)
    (halive : (Lib.run (Host.step deployment) host (inputs.map .turn)).alive = true) :
    host.edge.manifestRevision ≤
        (Lib.run (Host.step deployment) host (inputs.map .turn)).edge.manifestRevision ∧
      ((Lib.run (Host.step deployment) host (inputs.map .turn)).edge.manifestRevision =
          host.edge.manifestRevision →
        ∃ manifestStore, (Lib.run (Host.step deployment) host (inputs.map .turn)).edge =
          { host.edge with manifestStore }) := by
  induction inputs generalizing host with
  | nil => exact ⟨UInt64.le_refl _, fun _ => ⟨host.edge.manifestStore, rfl⟩⟩
  | cons input inputs ih =>
    rw [List.map_cons, run_cons] at halive ⊢
    have hnext := (h.step hserde (.turn input)).1
    cases hbefore : host.alive with
    | false =>
      have hsame : host.step deployment (.turn input) = host := by simp [Host.step, hbefore]
      rw [hsame, run_turns_of_dead hbefore, hbefore] at halive
      cases halive
    | true =>
      rcases step_turn_cases hserde h hbefore input with
        ⟨edge, hedge, hdone⟩ | ⟨edge, hedge, -⟩
      · obtain ⟨hle, hfixed⟩ := ih hnext halive
        generalize Lib.run (Host.step deployment) (host.step deployment (.turn input))
          (inputs.map .turn) = last at *
        rw [hedge] at hle hfixed
        rcases hdone.step with hsame | hless
        · have hrevision : edge.manifestRevision = host.edge.manifestRevision := by rw [hsame]
          dsimp only at hle hfixed
          rw [hrevision] at hle hfixed
          refine ⟨hle, fun heq => ?_⟩
          obtain ⟨store, hstore⟩ := hfixed heq
          exact ⟨store, by rw [hstore, hsame]⟩
        · refine ⟨UInt64.le_of_lt (UInt64.lt_of_lt_of_le hless hle), fun heq => ?_⟩
          rw [heq] at hle
          exact absurd hle (UInt64.not_le.mpr hless)
      · rw [hedge, run_turns_of_dead rfl] at halive
        cases halive

/-- As long as the process goes on and the revision is the same, nothing but
the published manifest changes. Revisions never fall. -/
theorem revision_fixes_catalog (deployment : Deployment Regex)
    (hserde : deployment.codec.RoundTrips) (process : EdgeProcess) (actions : List HostAction)
    (host : Host) (hhost : host = Lib.run (Host.step deployment) (first process) actions)
    (inputs : List TurnInput) (later : Host)
    (hlater : later = Lib.run (Host.step deployment) host (inputs.map .turn))
    (halive : later.alive = true) :
    host.edge.manifestRevision ≤ later.edge.manifestRevision ∧
      (later.edge.manifestRevision = host.edge.manifestRevision →
        ∃ manifestStore, later.edge = { host.edge with manifestStore }) := by
  have hsound := sound_run hserde process actions
  rw [← hhost] at hsound
  subst hlater
  exact hsound.turns hserde inputs halive

theorem revision_fixes_catalog_unchangedHost :
    ∃ manifestStore, unchangedHost.edge = { (deskHost "").edge with manifestStore } :=
  (revision_fixes_catalog (deskDeployment "") (deskDeployment_roundTrips "") (deskProcess 1) _
    (deskHost "") rfl [deskInput [frontCamera, sideCamera]] unchangedHost rfl
    desk_facts.2.1.1).2 (desk_facts.2.1.2.trans desk_facts.1.2.1.symm)

/-! ## Slots and files -/

/-- A camera that streams before and after any number of turns, crashes and
restarts streams on the same slot and port. -/
theorem slots_survive_restarts (deployment : Deployment Regex)
    (hserde : deployment.codec.RoundTrips) (process : EdgeProcess)
    (before after : List HostAction) (host later : Host)
    (hhost : host = Lib.run (Host.step deployment) (first process) before)
    (hlater : later = Lib.run (Host.step deployment) host after)
    (halive : host.alive = true) (hstill : later.alive = true) (id : String)
    (stream stream' : StreamPipeline) (hstream : host.edge.running[id]? = some (.stream stream))
    (hstream' : later.edge.running[id]? = some (.stream stream')) :
    stream'.identity.slot = stream.identity.slot ∧ stream'.port = stream.port := by
  have hsound := sound_run hserde process before
  rw [← hhost] at hsound
  obtain ⟨hnext, hkept⟩ := hsound.run hserde after
  rw [← hlater] at hnext hkept
  have hnow := hsound.settled halive
  have hthen := hnext.settled hstill
  obtain ⟨entry, hentry, hid, hslot⟩ := (hnow.working.runs id stream hstream).slot
  obtain ⟨entry', hentry', hid', hslot'⟩ := (hthen.working.runs id stream' hstream').slot
  obtain ⟨saved, hsaved, hgrown⟩ := hkept _ hnow.restored
  rw [hthen.restored] at hsaved
  cases hsaved
  obtain ⟨same, hsame, hcamera⟩ := hgrown.kept entry hentry
  have hone := List.inj_on_of_nodup_map hthen.distinct.ids hentry' hsame
    (hid'.trans (hcamera.stableCameraId.trans hid).symm)
  have hslots : stream'.identity.slot = stream.identity.slot := by
    rw [← hslot', hone, hcamera.streamSlot, hslot]
  refine ⟨hslots, UInt16.toNat_inj.mp ?_⟩
  rw [(hthen.working.runs id stream' hstream').port, (hnow.working.runs id stream hstream).port,
    hslots]

theorem slots_survive_restarts_startedAgain :
    ∃ stream stream', (deskHost "").edge.running[sideId]? = some (.stream stream) ∧
      startedAgain.edge.running[sideId]? = some (.stream stream') ∧
      stream'.identity.slot = stream.identity.slot ∧ stream'.port = stream.port := by
  obtain ⟨stream, hstream⟩ := exists_stream desk_facts.1.2.2.2
  obtain ⟨stream', hstream'⟩ := exists_stream desk_facts.2.2.2.2
  have hsame := slots_survive_restarts (deskDeployment "") (deskDeployment_roundTrips "")
    (deskProcess 1) _ _ (deskHost "") startedAgain rfl rfl desk_facts.1.1 desk_facts.2.2.2.1 sideId
    stream stream' hstream hstream'
  exact ⟨stream, stream', hstream, hstream', hsame⟩

/-- Whatever stops the edge, the exported files are files of lists that it
exported, the snippet not of a later one than the list; and both are of the
last one while a process is alive that has seen a camera come or go. -/
theorem exports_complete (deployment : Deployment Regex) (hserde : deployment.codec.RoundTrips)
    (process : EdgeProcess) (actions : List HostAction) (host : Host)
    (hhost : host = Lib.run (Host.step deployment) (first process) actions) :
    ExportsOnDisk deployment.json host.edge.exported host.edge.directory ∧
      (host.alive = true → host.edge.manifestRevision ≠ 0 →
        ExportsCurrent deployment.json host.edge.exported host.edge.directory) := by
  subst hhost
  have h := sound_run hserde process actions
  exact ⟨h.onDisk, fun halive => (h.settled halive).current⟩

theorem exports_complete_deskHost :
    ExportsCurrent (deskDeployment "").json (deskHost "").edge.exported (deskHost "").edge.directory :=
  (exports_complete (deskDeployment "") (deskDeployment_roundTrips "") (deskProcess 1) _
    (deskHost "") rfl).2 desk_facts.1.1 (by rw [desk_facts.1.2.1]; decide)

end Host

end RobotMulticam.Edge
