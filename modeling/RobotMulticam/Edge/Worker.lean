import RobotMulticam.Edge.Context
import RobotMulticam.Lib.Run

/-!
# The worker thread of a camera pipeline

The worker pops encoded access units, injects the capture timestamp and, on
the anchor stream, the provider's messages, and hands the result to the
transport. It counts the units itself, and gives the provider the count as
the number of the frame.

A unit can be skipped at three places. A failed timestamp leaves the counter
alone; a failed provider or a failed injection of its messages advances it,
although no unit goes out.
-/

namespace RobotMulticam.Edge

open RobotMulticam.Lib
open RobotMulticam.Protocol
open RobotMulticam.Codec

structure EncodedAccessUnit where
  bytes : List UInt8
  ptsNs : UInt64
  dtsNs : Option UInt64
  durationNs : Option UInt64
  captureTimeEdgeNs : UInt64

/-- What one turn of the loop meets: the unit it pops, the assembler as the
provider finds it, and the answers of `buffer.get_mut` and `push_buffer`. -/
structure WorkerTurn where
  au : EncodedAccessUnit
  assembler : ContextAssembler
  exclusive : Bool
  flowing : Bool

/-- A buffer handed to `push_buffer`, with the context that is in it. -/
structure PushedBuffer where
  bytes : List UInt8
  ptsNs : UInt64
  dtsNs : Option UInt64
  durationNs : Option UInt64
  context : Option AnchorFrameContextV1

/-- `pushed` and `discarded` are the history of the loop: the buffers handed
on, and how many units were skipped behind their timestamp. -/
structure Worker where
  ordinal : UInt64
  metadata : Option AnchorMetadataProvider
  running : Bool
  pushed : List PushedBuffer
  discarded : Nat

namespace Worker

def start (metadata : Option AnchorMetadataProvider) : Worker := ⟨0, metadata, true, [], 0⟩

/-- A panic ends the thread. -/
def stop (self : Worker) : Worker := { self with running := false }

/-- The `continue` behind a failed provider or injection. -/
def discard (self : Worker) : Worker :=
  { self with
    ordinal := saturatingAdd64 self.ordinal 1
    discarded := self.discarded + 1 }

/-- From the new buffer to the end of the loop body. -/
def pushBuffer (self : Worker) (turn : WorkerTurn) (bytes : List UInt8)
    (context : Option AnchorFrameContextV1) : Worker :=
  if ¬ turn.exclusive then self
  else
    { self with
      pushed := self.pushed ++
        [⟨bytes, turn.au.ptsNs, turn.au.dtsNs, turn.au.durationNs, context⟩]
      running := turn.flowing
      ordinal := if turn.flowing then saturatingAdd64 self.ordinal 1 else self.ordinal }

/-- The part of the loop body that only the anchor stream has. -/
def enrich (externals : Externals) (resampling : Resampling) (self : Worker) (turn : WorkerTurn)
    (stamped : List UInt8) (provider : AnchorMetadataProvider) : Worker :=
  let context := (provider.assembleContext externals resampling turn.assembler
    turn.au.captureTimeEdgeNs self.ordinal).toOption
  let (additions, next) := provider.forAccessUnit externals resampling turn.assembler
    turn.au.captureTimeEdgeNs self.ordinal
  let self := { self with metadata := some next }
  match additions with
  | .error .panic => self.stop
  | .error (.err _) => self.discard
  | .ok additions =>
    match injectUserDataH264AnnexB externals.timestamp stamped additions with
    | .error .panic => self.stop
    | .error (.err _) => self.discard
    | .ok enriched => self.pushBuffer turn enriched context

/-- One turn of the loop; a worker that left it does nothing. -/
def step (externals : Externals) (resampling : Resampling) (self : Worker) (turn : WorkerTurn) :
    Worker :=
  if ¬ self.running then self
  else
    match injectTimestampH264AnnexB externals.timestamp turn.au.bytes
      turn.au.captureTimeEdgeNs with
    | .error .panic => self.stop
    | .error (.err _) => self
    | .ok stamped =>
      match self.metadata with
      | none => self.pushBuffer turn stamped none
      | some provider => self.enrich externals resampling turn stamped provider

/-! ## What a turn does on the anchor stream -/

/-- The unit has a NAL unit with the packet of the context. -/
def HoldsContext (externals : Externals) (bytes : List UInt8) (context : AnchorFrameContextV1) :
    Prop :=
  ∃ payload nals, encodeAnchorContextPacket externals context = .ok payload ∧
    splitAnnexB bytes = .ok nals ∧ seiNalPayload ⟨anchorContextUuid, payload⟩ ∈ nals

/-- Injected messages are NAL units of the result. -/
theorem mem_splitAnnexB_of_inject {codec : Message SyncTimestampV1}
    {accessUnit out : List UInt8} {additions : List UserDataUnregistered}
    (h : injectUserDataH264AnnexB codec accessUnit additions = .ok out) :
    ∃ nals, splitAnnexB out = .ok nals ∧
      ∀ addition ∈ additions, seiNalPayload addition ∈ nals := by
  obtain ⟨nals, _, hsplit, _, _, _, rfl⟩ := injectUserDataH264AnnexB_eq_ok h
  obtain ⟨hsome, hclean⟩ := clean_of_splitAnnexB hsplit
  refine ⟨_, splitAnnexB_serialize ?_ (clean_inserted (by rwa [List.take_append_drop]) additions),
    ?_⟩
  · intro hnil
    apply hsome
    rw [← List.take_append_drop (insertAt nals) nals]
    simp only [List.append_eq_nil_iff] at hnil
    rw [hnil.1.1, hnil.2, List.append_nil]
  · intro addition hmem
    exact List.mem_append_left _ (List.mem_append_right _ (List.mem_map_of_mem hmem))

/-- A worker of the anchor stream whose counter counts the units it pushed
and the ones it discarded. -/
structure Counting (worker : Worker) : Prop where
  anchor : worker.metadata.isSome = true
  counted : worker.running = true →
    worker.ordinal = counted64 (worker.pushed.length + worker.discarded)

theorem counting_start (provider : AnchorMetadataProvider) : (start (some provider)).Counting :=
  ⟨rfl, fun _ => rfl⟩

section Turns

variable {worker : Worker} {turn : WorkerTurn}

theorem Counting.withProvider (h : worker.Counting) (provider : AnchorMetadataProvider) :
    { worker with metadata := some provider }.Counting := ⟨rfl, h.counted⟩

theorem Counting.stop (h : worker.Counting) : worker.stop.Counting :=
  ⟨h.anchor, fun hrunning => by cases hrunning⟩

theorem Counting.discard (h : worker.Counting) (hrunning : worker.running = true) :
    worker.discard.Counting := by
  refine ⟨h.anchor, fun _ => ?_⟩
  show saturatingAdd64 worker.ordinal 1 = counted64 (worker.pushed.length + (worker.discarded + 1))
  rw [h.counted hrunning, counted64_succ, Nat.add_assoc]

theorem Counting.pushBuffer (h : worker.Counting) (hrunning : worker.running = true)
    (bytes : List UInt8) (context : Option AnchorFrameContextV1) :
    (worker.pushBuffer turn bytes context).Counting := by
  unfold Worker.pushBuffer
  split
  · exact h
  · refine ⟨h.anchor, fun hflowing => ?_⟩
    change turn.flowing = true at hflowing
    simp only [hflowing, if_true, List.length_append, List.length_singleton]
    rw [h.counted hrunning, counted64_succ, Nat.add_right_comm]

/-- The only way a buffer goes out. -/
def Pushes (externals : Externals) (worker next : Worker) : Prop :=
  ∃ buffer context, next.pushed = worker.pushed ++ [buffer] ∧
    next.discarded = worker.discarded ∧ buffer.context = some context ∧
    context.anchorFrameSeq = worker.ordinal ∧ HoldsContext externals buffer.bytes context

theorem enrich_cases (externals : Externals) (resampling : Resampling) (turn : WorkerTurn)
    (h : worker.Counting) (hrunning : worker.running = true)
    (stamped : List UInt8) (provider : AnchorMetadataProvider) :
    (worker.enrich externals resampling turn stamped provider).Counting ∧
      ((worker.enrich externals resampling turn stamped provider).pushed = worker.pushed ∨
        Pushes externals worker (worker.enrich externals resampling turn stamped provider)) := by
  unfold enrich
  dsimp only
  generalize hadditions : provider.forAccessUnit externals resampling turn.assembler
    turn.au.captureTimeEdgeNs worker.ordinal = answer
  obtain ⟨additions, next⟩ := answer
  have hnext := h.withProvider next
  dsimp only
  split
  · exact ⟨hnext.stop, Or.inl rfl⟩
  · exact ⟨hnext.discard hrunning, Or.inl rfl⟩
  · split
    · exact ⟨hnext.stop, Or.inl rfl⟩
    · exact ⟨hnext.discard hrunning, Or.inl rfl⟩
    · rename_i messages _ enriched henriched
      obtain ⟨context, payload, rest, hcontext, hpayload, rfl⟩ :=
        AnchorMetadataProvider.forAccessUnit_eq_ok hadditions
      refine ⟨hnext.pushBuffer hrunning _ _, ?_⟩
      by_cases hexclusive : turn.exclusive = true
      · right
        obtain ⟨nals, hsplit, hmem⟩ := mem_splitAnnexB_of_inject henriched
        refine ⟨⟨enriched, turn.au.ptsNs, turn.au.dtsNs, turn.au.durationNs, some context⟩, context,
          by simp [pushBuffer, hexclusive, hcontext, Except.toOption],
          by simp [pushBuffer, hexclusive], rfl, (AnchorMetadataProvider.assembleContext_eq_ok hcontext).1,
          payload, nals, hpayload, hsplit, hmem _ List.mem_cons_self⟩
      · left
        simp [pushBuffer, hexclusive]

/-- Everything a turn can do: the count goes on, and either nothing goes out
or a buffer does, with a context that has the worker's number. -/
theorem step_cases (externals : Externals) (resampling : Resampling) (turn : WorkerTurn)
    (h : worker.Counting) :
    (worker.step externals resampling turn).Counting ∧
      ((worker.step externals resampling turn).pushed = worker.pushed ∨
        worker.running = true ∧
          Pushes externals worker (worker.step externals resampling turn)) := by
  obtain ⟨provider, hprovider⟩ := Option.isSome_iff_exists.mp h.anchor
  unfold step
  split
  · exact ⟨h, Or.inl rfl⟩
  · rename_i hrunning
    have hrunning := not_not.mp hrunning
    split
    · exact ⟨h.stop, Or.inl rfl⟩
    · exact ⟨h, Or.inl rfl⟩
    · rename_i stamped _
      simp only [hprovider]
      obtain ⟨hcounting, hcases⟩ :=
        enrich_cases externals resampling turn h hrunning stamped provider
      exact ⟨hcounting, hcases.imp_right fun hpushes => ⟨hrunning, hpushes⟩⟩

end Turns

end Worker

end RobotMulticam.Edge
