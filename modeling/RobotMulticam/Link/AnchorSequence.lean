import RobotMulticam.Edge.Worker
import RobotMulticam.Receiver.Numbering

/-!
# Frame numbers on both ends

The Edge numbers the contexts of anchor frames, the Receiver numbers the
access units of a connection, and the synchronizer accepts a context only if
both numbers are the same. Neither number is transmitted apart from the
context, so both ends have to count alike.

On a link that loses nothing, the n-th buffer the Edge hands to its transport
is the n-th unit the Receiver ingests. The Edge counts more than that: units
it discards behind their timestamp.
-/

namespace RobotMulticam.Link

open RobotMulticam.Lib
open RobotMulticam.Protocol
open RobotMulticam.Codec
open RobotMulticam.Edge
open RobotMulticam.Receiver

/-- The buffer carries a context with its own index as number, which is the
ordinal of the unit at that index in every connection of a receiver. -/
def NumberedAlike (externals : Externals) (index : Nat) (buffer : PushedBuffer) : Prop :=
  ∃ context, buffer.context = some context ∧ Worker.HoldsContext externals buffer.bytes context ∧
    context.anchorFrameSeq.toNat = index ∧
    ∀ codec policy verify calls key ordinal,
      (Journal.currentUnits key
        (run (Journal.perform codec) (.start policy verify) calls).events)[index]? = some ordinal →
        ordinal = context.anchorFrameSeq

/-- Every buffer the worker pushed is numbered as the receiver will number it. -/
def AllAlike (externals : Externals) (worker : Worker) : Prop :=
  ∀ index buffer, worker.pushed[index]? = some buffer → NumberedAlike externals index buffer

/-- A turn that pushes a buffer does so before anything was discarded, and
before the counter is exhausted. -/
def NothingDiscarded (externals : Externals) (resampling : Resampling) (worker : Worker)
    (turn : WorkerTurn) : Prop :=
  (worker.step externals resampling turn).pushed.length ≠ worker.pushed.length →
    worker.pushed.length < 2 ^ 64 ∧
      (worker.discarded = 0 ∨ worker.pushed.length = 2 ^ 64 - 1)

instance (externals : Externals) (resampling : Resampling) (worker : Worker) (turn : WorkerTurn) :
    Decidable (NothingDiscarded externals resampling worker turn) :=
  inferInstanceAs (Decidable (_ → _))

/-- A count with a surplus is the index itself only at the very end. -/
theorem toNat_counted64_add_eq_iff (index surplus : Nat) :
    (counted64 (index + surplus)).toNat = index ↔
      index < 2 ^ 64 ∧ (surplus = 0 ∨ index = 2 ^ 64 - 1) := by
  rw [toNat_counted64]
  omega

theorem forall_getElem?_append_singleton {α : Type} {items : List α} {last : α}
    {holds : Nat → α → Prop} :
    (∀ index item, (items ++ [last])[index]? = some item → holds index item) ↔
      (∀ index item, items[index]? = some item → holds index item) ∧ holds items.length last := by
  constructor
  · intro hall
    refine ⟨?_, hall items.length last (by simp)⟩
    intro index item hitem
    obtain ⟨hlt, _⟩ := List.getElem?_eq_some_iff.mp hitem
    exact hall index item (by rwa [List.getElem?_append_left hlt])
  · rintro ⟨hbefore, hlast⟩ index item hitem
    by_cases hlt : index < items.length
    · rw [List.getElem?_append_left hlt] at hitem
      exact hbefore index item hitem
    · obtain ⟨hbound, _⟩ := List.getElem?_eq_some_iff.mp hitem
      rw [List.length_append, List.length_singleton] at hbound
      obtain rfl : index = items.length := by omega
      have hsame : last = item := by simpa using hitem
      exact hsame ▸ hlast

section Runs

variable {externals : Externals} {resampling : Resampling}

/-- Whether a pushed buffer is numbered alike depends on its number alone. -/
theorem numberedAlike_iff {index : Nat} {buffer : PushedBuffer} {context : AnchorFrameContextV1}
    (hcontext : buffer.context = some context)
    (hcarries : Worker.HoldsContext externals buffer.bytes context) :
    NumberedAlike externals index buffer ↔ context.anchorFrameSeq.toNat = index := by
  constructor
  · rintro ⟨found, hfound, _, hnumber, _⟩
    rw [hcontext] at hfound
    cases hfound
    exact hnumber
  · intro hnumber
    refine ⟨context, hcontext, hcarries, hnumber, ?_⟩
    intro codec policy verify calls key ordinal hordinal
    obtain ⟨count, hcurrent⟩ := Journal.currentUnits_run codec policy verify calls key
    rw [hcurrent, List.getElem?_map, Option.map_eq_some_iff] at hordinal
    obtain ⟨position, hposition, rfl⟩ := hordinal
    obtain ⟨_, hvalue⟩ := List.getElem?_eq_some_iff.mp hposition
    rw [List.getElem_range] at hvalue
    subst hvalue
    apply UInt64.toNat_inj.mp
    have hbound := context.anchorFrameSeq.toNat_lt
    rw [toNat_counted64, hnumber]
    omega

theorem allAlike_step_iff {worker : Worker} (turn : WorkerTurn) (h : worker.Counting) :
    AllAlike externals (worker.step externals resampling turn) ↔
      AllAlike externals worker ∧ NothingDiscarded externals resampling worker turn := by
  obtain ⟨_, hcases⟩ := Worker.step_cases externals resampling turn h
  unfold AllAlike NothingDiscarded
  rcases hcases with hsame |
    ⟨hrunning, buffer, context, hpushed, _, hcontext, hnumber, hcarries⟩
  · simp [hsame]
  · have hlast : NumberedAlike externals worker.pushed.length buffer ↔
        worker.pushed.length < 2 ^ 64 ∧
          (worker.discarded = 0 ∨ worker.pushed.length = 2 ^ 64 - 1) := by
      rw [numberedAlike_iff hcontext hcarries, hnumber, h.counted hrunning,
        toNat_counted64_add_eq_iff]
    rw [hpushed, ← hlast, forall_getElem?_append_singleton]
    simp

theorem allAlike_run_iff {worker : Worker} (turns : List WorkerTurn) (h : worker.Counting) :
    AllAlike externals (run (Worker.step externals resampling) worker turns) ↔
      AllAlike externals worker ∧
        Meets (Worker.step externals resampling) (NothingDiscarded externals resampling)
          worker turns := by
  induction turns generalizing worker with
  | nil => simp [Meets]
  | cons turn turns ih =>
    rw [run_cons, ih (Worker.step_cases externals resampling turn h).1, allAlike_step_iff turn h,
      Meets, and_assoc]

end Runs

/-- **Numbering alike.** For every sequence of popped units and every pattern
of failures, the n-th buffer of the anchor stream carries a context with
number n, the ordinal a receiver gives to the n-th unit of a connection,
exactly when no buffer is pushed after a unit was discarded. -/
theorem anchor_numbering_iff (externals : Externals) (resampling : Resampling)
    (provider : AnchorMetadataProvider) (turns : List WorkerTurn) :
    AllAlike externals
        (run (Worker.step externals resampling) (.start (some provider)) turns) ↔
      Meets (Worker.step externals resampling) (NothingDiscarded externals resampling)
        (.start (some provider)) turns := by
  have hstart : AllAlike externals (.start (some provider)) := by
    intro index buffer hbuffer
    cases hbuffer
  rw [allAlike_run_iff turns (Worker.counting_start provider), and_iff_right hstart]

/-- A provider of the cell with a manifest of one chunk. -/
def cellProvider : AnchorMetadataProvider where
  sessionId := cellSession
  manifestRevision := 1
  schedule := ⟨[⟨1, cellSession.bytes, 1, 0, 1, 1, 1, 0, [0]⟩], ⟨0, by decide⟩, 30, none⟩

/-- An assembler without features. -/
def cellAssembler : ContextAssembler := ⟨⟨"cell", 11, 12, 0, 0, 0, []⟩, ∅, 1000, 2048⟩

/-- Arithmetic that holds the earlier sample; no feature uses it. -/
def holdEarlier : Resampling := ⟨fun _ _ => ⟨0⟩, fun left _ _ => left⟩

/-- The encoder's first unit has a message under the context's UUID, which
makes the injection of the provider's messages fail; the second has none. -/
def cellTurns : List WorkerTurn :=
  let foreign := (injectUserDataH264AnnexB (cellExternals [] []).timestamp idrUnit
    [⟨anchorContextUuid, [1]⟩]).toOption.getD []
  [⟨⟨foreign, 100, none, none, 100⟩, cellAssembler, true, true⟩,
    ⟨⟨idrUnit, 200, none, none, 200⟩, cellAssembler, true, true⟩]

/-- The first buffer that goes out carries number 1. -/
theorem discarded_unit_shifts_numbers :
    let worker := run (Worker.step (cellExternals [] []) holdEarlier)
      (.start (some cellProvider)) cellTurns
    worker.pushed.map (fun buffer => buffer.context.map (·.anchorFrameSeq)) = [some 1] ∧
      ¬ AllAlike (cellExternals [] []) worker := by
  intro worker
  have hpushed : worker.pushed.map (fun buffer => buffer.context.map (·.anchorFrameSeq)) =
      [some 1] := by decide +kernel
  refine ⟨hpushed, fun halike => ?_⟩
  obtain ⟨buffer, hbuffer, hnumber⟩ := List.map_eq_singleton_iff.mp hpushed
  obtain ⟨context, hcontext, _, hzero, _⟩ := halike 0 buffer (by rw [hbuffer]; rfl)
  rw [hcontext] at hnumber
  have hone : context.anchorFrameSeq = 1 := Option.some.inj hnumber
  rw [hone] at hzero
  exact absurd hzero (by decide)

end RobotMulticam.Link
