import RobotMulticam.Edge.Context
import RobotMulticam.Lib.Cycle
import RobotMulticam.Lib.Run

/-!
# The manifest schedule over a session

The schedule keeps its place in the cycle of chunks and the frame at which
the cycle started. `Tracks` relates both to the log of everything emitted:
the place is the length of the log modulo the number of chunks, and the frame
is the one of the first emission of that round. A receiver that joins at any
time therefore gets every chunk once from as many emissions as there are
chunks.
-/

namespace RobotMulticam.Edge

open RobotMulticam.Lib RobotMulticam.Codec RobotMulticam.Protocol

namespace ManifestSchedule

variable (schedule : ManifestSchedule)

/-- A new cycle may start at a frame. -/
def Due (frameSeq : UInt64) : Prop :=
  ∀ last ∈ schedule.lastStartedFrame,
    schedule.repeatEveryFrames ≤ saturatingSub64 frameSeq last

/-- A call emits nothing, or the chunk at the current place. -/
theorem forAccessUnit_cases (frameSeq : UInt64) :
    (schedule.next.val = 0 ∧ ¬ schedule.Due frameSeq ∧
      schedule.forAccessUnit frameSeq = (none, schedule)) ∨
    ∃ chunk after, schedule.forAccessUnit frameSeq = (some chunk, after) ∧
      (schedule.next.val = 0 → schedule.Due frameSeq) ∧
      schedule.chunks[schedule.next.val]? = some chunk ∧
      after.chunks = schedule.chunks ∧
      after.repeatEveryFrames = schedule.repeatEveryFrames ∧
      after.next.val = (schedule.next.val + 1) % schedule.chunks.length ∧
      after.lastStartedFrame =
        if schedule.next.val = 0 then some frameSeq else schedule.lastStartedFrame := by
  have hdue : (schedule.lastStartedFrame.all fun last =>
      decide (schedule.repeatEveryFrames ≤ saturatingSub64 frameSeq last)) = true ↔
        schedule.Due frameSeq := by
    unfold Due
    cases schedule.lastStartedFrame <;> simp
  unfold forAccessUnit
  dsimp only
  split
  · rename_i hwait
    exact Or.inl ⟨hwait.1, fun h => hwait.2 (hdue.mpr h), rfl⟩
  · rename_i hemit
    refine Or.inr ⟨_, _, rfl, ?_, ?_, rfl, rfl, ?_, rfl⟩
    · intro hfirst
      by_contra hearly
      exact hemit ⟨hfirst, fun h => hearly (hdue.mp h)⟩
    · rw [List.getElem?_eq_getElem schedule.next.isLt]
      rfl
    · have hlt := schedule.next.isLt
      dsimp only
      split
      · rename_i hroom
        exact (Nat.mod_eq_of_lt hroom).symm
      · rename_i hlast
        have hend : schedule.next.val + 1 = schedule.chunks.length := by omega
        rw [hend, Nat.mod_self]

/-- The schedule behind a call. -/
def advance (frameSeq : UInt64) : ManifestSchedule :=
  (schedule.forAccessUnit frameSeq).2

/-- What a call emits, with its frame. -/
def emission (frameSeq : UInt64) : List (UInt64 × SessionManifestChunkV1) :=
  ((schedule.forAccessUnit frameSeq).1.map fun chunk => (frameSeq, chunk)).toList

/-- The state of a schedule against the log of its emissions. -/
structure Tracks (chunks : List SessionManifestChunkV1) (repeatEveryFrames : UInt64)
    (schedule : ManifestSchedule) (log : List (UInt64 × SessionManifestChunkV1)) : Prop where
  content : schedule.chunks = chunks
  cadence : schedule.repeatEveryFrames = repeatEveryFrames
  place : schedule.next.val = log.length % chunks.length
  cycles : Cycles chunks (log.map Prod.snd)
  started : schedule.lastStartedFrame =
    log[roundStart chunks.length log.length]?.map Prod.fst

namespace Tracks

variable {chunks : List SessionManifestChunkV1} {repeatEveryFrames : UInt64}
  {schedule : ManifestSchedule} {log : List (UInt64 × SessionManifestChunkV1)}

theorem start {schedule : ManifestSchedule} (h : new chunks repeatEveryFrames = .ok schedule) :
    Tracks chunks repeatEveryFrames schedule [] := by
  unfold new at h
  split at h
  · cases h
  · obtain rfl := Except.ok.inj h
    exact ⟨rfl, rfl, (Nat.zero_mod _).symm, cycles_nil chunks, rfl⟩

theorem advance (h : Tracks chunks repeatEveryFrames schedule log) (frameSeq : UInt64) :
    Tracks chunks repeatEveryFrames (schedule.advance frameSeq)
      (log ++ schedule.emission frameSeq) := by
  rcases forAccessUnit_cases schedule frameSeq with
    ⟨_, _, hcall⟩ | ⟨chunk, after, hcall, _, hchunk, hcontent, hcadence, hplace, hstarted⟩
  · have hsame : log ++ schedule.emission frameSeq = log := by simp [emission, hcall]
    rw [hsame, ManifestSchedule.advance, hcall]
    exact h
  · have hlog : log ++ schedule.emission frameSeq = log ++ [(frameSeq, chunk)] := by
      simp [emission, hcall]
    rw [hlog, ManifestSchedule.advance, hcall]
    rw [h.place, h.content] at hchunk
    refine ⟨hcontent.trans h.content, hcadence.trans h.cadence, ?_, ?_, ?_⟩
    · rw [hplace, h.place, h.content, List.length_append, List.length_singleton, Nat.mod_add_mod]
    · rw [List.map_append, List.map_singleton]
      exact h.cycles.concat (by rwa [List.length_map])
    · rw [hstarted, h.place, List.length_append, List.length_singleton]
      by_cases hround : chunks.length ∣ log.length
      · rw [if_pos (Nat.mod_eq_zero_of_dvd hround), roundStart_succ_of_dvd hround,
          List.getElem?_concat_length]
        rfl
      · have hsome : 0 < log.length :=
          Nat.pos_of_ne_zero fun hzero => hround (hzero ▸ dvd_zero _)
        rw [if_neg (fun hzero => hround (Nat.dvd_of_mod_eq_zero hzero)), roundStart_succ hround,
          List.getElem?_append_left (roundStart_lt hsome)]
        exact h.started

theorem run {start : ManifestSchedule} (h : new chunks repeatEveryFrames = .ok start)
    (frames : List UInt64) :
    Tracks chunks repeatEveryFrames (Lib.run ManifestSchedule.advance start frames)
      (outputs ManifestSchedule.advance emission start frames) :=
  run_outputs_invariant' (fun _ _ frameSeq htracks => htracks.advance frameSeq)
    (Tracks.start h) frames

/-- A cycle that was begun goes on at every call. -/
theorem emits_within (h : Tracks chunks repeatEveryFrames schedule log)
    (hwithin : log.length % chunks.length ≠ 0) (frameSeq : UInt64) :
    (schedule.forAccessUnit frameSeq).1.isSome := by
  rcases forAccessUnit_cases schedule frameSeq with ⟨hfirst, _⟩ | ⟨chunk, after, hcall, _⟩
  · exact absurd (h.place ▸ hfirst) hwithin
  · rw [hcall]
    rfl

/-- Between two cycles a call emits exactly when the next one is due. -/
theorem emits_between_iff (h : Tracks chunks repeatEveryFrames schedule log)
    (hbetween : log.length % chunks.length = 0) (frameSeq : UInt64) :
    (schedule.forAccessUnit frameSeq).1.isSome ↔ schedule.Due frameSeq := by
  have hfirst : schedule.next.val = 0 := h.place.trans hbetween
  rcases forAccessUnit_cases schedule frameSeq with ⟨_, hearly, hcall⟩ | ⟨chunk, after, hcall, hdue, _⟩
  · rw [hcall]
    simp [hearly]
  · rw [hcall]
    simp [hdue hfirst]

/-- The first cycle starts at once. -/
theorem emits_first (h : Tracks chunks repeatEveryFrames schedule []) (frameSeq : UInt64) :
    (schedule.forAccessUnit frameSeq).1.isSome := by
  refine (h.emits_between_iff (Nat.zero_mod _) frameSeq).mpr ?_
  unfold Due
  rw [h.started]
  simp

/-- The frame at which the cycle before started is in the log. -/
theorem due_iff (h : Tracks chunks repeatEveryFrames schedule log)
    (hrepeat : 1 ≤ repeatEveryFrames) (hchunks : chunks ≠ []) (hsome : log ≠ [])
    (hbetween : log.length % chunks.length = 0) :
    ∃ started, log[log.length - chunks.length]? = some started ∧
      ∀ frameSeq, schedule.Due frameSeq ↔
        started.1.toNat + repeatEveryFrames.toNat ≤ frameSeq.toNat := by
  have hlog : 0 < log.length := List.length_pos_of_ne_nil hsome
  have hround : 0 < chunks.length := List.length_pos_of_ne_nil hchunks
  have hstart : log[log.length - chunks.length]? = some log[log.length - chunks.length] :=
    List.getElem?_eq_getElem (by omega)
  refine ⟨_, hstart, ?_⟩
  intro frameSeq
  have hlast := h.started
  rw [roundStart_of_dvd (Nat.dvd_of_mod_eq_zero hbetween) hlog, hstart] at hlast
  have hpositive : 1 ≤ repeatEveryFrames.toNat := hrepeat
  unfold Due
  rw [hlast, h.cadence]
  simp only [Option.map_some, Option.mem_some_iff, forall_eq', UInt64.le_iff_toNat_le,
    toNat_saturatingSub64]
  omega

end Tracks

/-- What the emissions of a session are, and when the next call emits. -/
structure Serves (chunks : List SessionManifestChunkV1) (repeatEveryFrames : UInt64)
    (schedule : ManifestSchedule) (log : List (UInt64 × SessionManifestChunkV1)) : Prop where
  cycles : Cycles chunks (log.map Prod.snd)
  first : log = [] → ∀ frameSeq, (schedule.forAccessUnit frameSeq).1.isSome
  within : log.length % chunks.length ≠ 0 →
    ∀ frameSeq, (schedule.forAccessUnit frameSeq).1.isSome
  between : log ≠ [] → log.length % chunks.length = 0 →
    ∃ started, log[log.length - chunks.length]? = some started ∧
      ∀ frameSeq, (schedule.forAccessUnit frameSeq).1.isSome ↔
        started.1.toNat + repeatEveryFrames.toNat ≤ frameSeq.toNat
  windows : ∀ position, position + chunks.length ≤ log.length →
    (((log.map Prod.snd).drop position).take chunks.length).Perm chunks

/-- The schedule serves late joiners, whatever the frame numbers are. -/
theorem schedule_serves (chunks : List SessionManifestChunkV1) (hsome : chunks ≠ [])
    (repeatEveryFrames : UInt64) (hrepeat : 1 ≤ repeatEveryFrames) :
    ∃ start, new chunks repeatEveryFrames = .ok start ∧
      ∀ frames, Serves chunks repeatEveryFrames (run advance start frames)
        (outputs advance emission start frames) := by
  have hzero : repeatEveryFrames ≠ 0 := by
    rintro rfl
    exact absurd hrepeat (by decide)
  have hbounds : ¬ (chunks = [] ∨ repeatEveryFrames = 0) := not_or.mpr ⟨hsome, hzero⟩
  have hnew : ∃ start, new chunks repeatEveryFrames = .ok start := by
    unfold new
    rw [dif_neg hbounds]
    exact ⟨_, rfl⟩
  obtain ⟨start, hstart⟩ := hnew
  refine ⟨start, hstart, fun frames => ?_⟩
  have htracks := Tracks.run hstart frames
  refine ⟨htracks.cycles, ?_, htracks.emits_within, ?_, ?_⟩
  · intro hlog
    rw [hlog] at htracks
    exact htracks.emits_first
  · intro hlog hbetween
    obtain ⟨started, hstarted, hdue⟩ := htracks.due_iff hrepeat hsome hlog hbetween
    exact ⟨started, hstarted, fun frameSeq =>
      (htracks.emits_between_iff hbetween frameSeq).trans (hdue frameSeq)⟩
  · intro position hfits
    rw [htracks.cycles.window (by rwa [List.length_map])]
    exact List.rotate_perm chunks position

def pairChunks : List SessionManifestChunkV1 :=
  [⟨1, [], 1, 0, 2, 0, 2, 0, [1]⟩, ⟨1, [], 1, 1, 2, 0, 2, 0, [2]⟩]

/-- Repeated every five frames, with a gap in the frame numbers: the first call
starts a cycle, frame 12 is too early for the next one and frame 20 is not. -/
theorem schedule_serves_pair :
    ∃ start, new pairChunks 5 = .ok start ∧
      Serves pairChunks 5 (run advance start [10, 11, 12, 20])
        (outputs advance emission start [10, 11, 12, 20]) ∧
      (outputs advance emission start [10, 11, 12, 20]).map
        (fun emitted => (emitted.1, emitted.2.chunkIndex)) = [(10, 0), (11, 1), (20, 0)] := by
  obtain ⟨start, hstart, hserves⟩ := schedule_serves pairChunks (by decide) 5 (by decide)
  refine ⟨start, hstart, hserves _, ?_⟩
  obtain rfl : ⟨pairChunks, ⟨0, by decide⟩, 5, none⟩ = start := Except.ok.inj hstart
  decide

/-! ## A receiver that joins later -/

/-- The emissions of one round, from wherever a receiver joins, give it the
manifest if they arrive in time. -/
theorem joiner_reassembles {externals : Externals} (hzstd : externals.zstd.RoundTrips)
    {serialized sessionId : List UInt8} {revision : UInt64} {compression : ManifestCompression}
    {chunks : List SessionManifestChunkV1}
    (hchunks : chunkManifest externals serialized sessionId revision compression = .ok chunks)
    {repeatEveryFrames : UInt64} {start : ManifestSchedule}
    (hstart : new chunks repeatEveryFrames = .ok start) {frames : List UInt64} {position : Nat}
    {first : Delivery} {later : List Delivery} {timeout : Nat}
    (hround : first.chunk :: later.map Delivery.chunk =
      (((outputs advance emission start frames).map Prod.snd).drop position).take chunks.length)
    (hlength : later.length + 1 = chunks.length)
    (htime : ∀ delivery ∈ later, delivery.now - first.now ≤ timeout) :
    ∃ reassembler,
      ManifestReassembler.new externals first.chunk first.now timeout = .ok reassembler ∧
      (run (ManifestReassembler.deliver externals) reassembler later).complete externals =
        .ok (some serialized) := by
  obtain ⟨header, pieces, hcarries, _⟩ := carries_of_chunkManifest hzstd hchunks
  have hfits : position + chunks.length ≤
      ((outputs advance emission start frames).map Prod.snd).length := by
    have hcount := congrArg List.length hround
    rw [List.length_cons, List.length_map, hlength, List.length_take, List.length_drop] at hcount
    omega
  -- what arrives is a rotation of the chunks
  have hperm : (first.chunk :: later.map Delivery.chunk).Perm chunks := by
    rw [hround, (Tracks.run hstart frames).cycles.window hfits]
    exact List.rotate_perm chunks position
  obtain ⟨reassembler, hnew, hcollected⟩ :=
    Collected.new hcarries (hperm.subset List.mem_cons_self) first.now timeout
  refine ⟨reassembler, hnew, ?_⟩
  have hrun := hcollected.run hcarries later fun delivery hmem =>
    ⟨hperm.subset (List.mem_cons_of_mem _ (List.mem_map_of_mem hmem)), htime delivery hmem⟩
  refine (hrun.complete hcarries).1 ?_
  intro index hindex
  have hat : chunks[index]? = some chunks[index] := List.getElem?_eq_getElem hindex
  exact ⟨chunks[index], hperm.mem_iff.mpr (List.getElem_mem hindex), hcarries.index index _ hat⟩

end ManifestSchedule

end RobotMulticam.Edge
