import RobotMulticam.Edge.Gateway
import RobotMulticam.Lib.Epochs

/-!
# The command stream of the adapter runtime

`HardwareAdapterService.CommandStream` hands the commands of one call to the
backend, one after the other, and aborts the call at the first that it
refuses. It remembers the ids it has seen, up to 4096 of them; then it forgets
them all and begins again.

So ids are checked within an epoch of the stream, and `executed_once_iff` says
that nothing is executed twice exactly when no command comes back with the id
of an earlier epoch.
-/

namespace RobotMulticam.Adapter

open RobotMulticam.Lib
open RobotMulticam.Edge (CommandEnvelope CommandStatus)

inductive StatusCode where
  | invalidArgument
  | alreadyExists
  deriving DecidableEq

/-- `context.abort(code, details)`, which raises and so ends the call. -/
structure Abort where
  code : StatusCode
  details : String
  deriving DecidableEq

structure CommandFeedback where
  commandId : List UInt8
  deviceId : String
  status : CommandStatus
  sourceTimeNs : ℕ
  sourceClockId : String
  effectiveValues : List F32
  reason : String
  deriving DecidableEq

/-- A command, what the backend makes of it if it is asked (the effective
values, or the text of an exception), and the time then. -/
structure CommandTurn where
  command : CommandEnvelope
  answer : Except String (List F32)
  sourceTimeNs : ℕ

/-- A command that `backend.command` was called for, and the reply. -/
structure Execution where
  command : CommandEnvelope
  feedback : CommandFeedback

/-- The checks in front of `backend.command`; they give the ids seen then. -/
def admitCommand (seen : Finset (List UInt8)) (command : CommandEnvelope) :
    Except Abort (Finset (List UInt8)) :=
  if command.commandId.length ≠ 16 ∨ command.leaseId.length ≠ 16 then
    .error ⟨.invalidArgument, "UUIDs must be 16 bytes"⟩
  else if command.commandId ∈ seen then .error ⟨.alreadyExists, "duplicate command ID"⟩
  else
    let seen := renew 4096 seen command.commandId
    if command.values = [] ∨ command.values.any fun value => !value.isFinite then
      .error ⟨.invalidArgument, "invalid command values"⟩
    else .ok seen

def feedbackOf (sourceClockId : String) (turn : CommandTurn) : CommandFeedback where
  commandId := turn.command.commandId
  deviceId := turn.command.deviceId
  status := if turn.answer.isOk then .accepted else .rejected
  sourceTimeNs := turn.sourceTimeNs
  sourceClockId
  effectiveValues := turn.answer.toOption.getD []
  reason :=
    match turn.answer with
    | .ok _ => ""
    | .error text => String.ofList (text.toList.take 512)

/-- What the stream executes, and how it was aborted if it was. -/
def commandStream (sourceClockId : String) :
    Finset (List UInt8) → List CommandTurn → List Execution × Option Abort
  | _, [] => ([], none)
  | seen, turn :: turns =>
    match admitCommand seen turn.command with
    | .error abort => ([], some abort)
    | .ok next =>
      (⟨turn.command, feedbackOf sourceClockId turn⟩ :: (commandStream sourceClockId next turns).1,
        (commandStream sourceClockId next turns).2)

/-- The ids that `backend.command` is called for. -/
def executedIds (sourceClockId : String) (seen : Finset (List UInt8))
    (turns : List CommandTurn) : List (List UInt8) :=
  (commandStream sourceClockId seen turns).1.map (·.command.commandId)

/-! ## Epochs -/

section
variable {sourceClockId : String} {seen next : Finset (List UInt8)} {turn : CommandTurn}
  {turns : List CommandTurn} {log : List (List UInt8)}

theorem executedIds_of_error {abort : Abort} (h : admitCommand seen turn.command = .error abort) :
    executedIds sourceClockId seen (turn :: turns) = [] := by
  rw [executedIds, commandStream, h]
  rfl

theorem executedIds_of_ok (h : admitCommand seen turn.command = .ok next) :
    executedIds sourceClockId seen (turn :: turns) =
      turn.command.commandId :: executedIds sourceClockId next turns := by
  rw [executedIds, commandStream, h]
  rfl

theorem admitCommand_eq_ok (h : admitCommand seen turn.command = .ok next) :
    turn.command.commandId ∉ seen ∧ next = renew 4096 seen turn.command.commandId := by
  unfold admitCommand at h
  split at h
  · cases h
  · split at h
    · cases h
    · rename_i hnew
      dsimp only at h
      split at h
      · cases h
      · cases h
        exact ⟨hnew, rfl⟩

/-- The commands are executed in order, up to the first that is refused. -/
theorem executedIds_isPrefix (sourceClockId : String) (seen : Finset (List UInt8))
    (turns : List CommandTurn) :
    executedIds sourceClockId seen turns <+: turns.map (·.command.commandId) := by
  induction turns generalizing seen with
  | nil => exact List.prefix_rfl
  | cons turn turns ih =>
    cases hadmit : admitCommand seen turn.command with
    | error abort =>
      rw [executedIds_of_error hadmit]
      exact List.nil_prefix
    | ok next =>
      rw [executedIds_of_ok hadmit]
      exact (List.prefix_cons_inj _).mpr (ih next)

/-- Every id is fresh in its epoch. -/
theorem fresh_executedIds (h : Epoch 4096 log seen) :
    Fresh 4096 (log ++ executedIds sourceClockId seen turns) := by
  induction turns generalizing seen log with
  | nil =>
    rw [executedIds, commandStream, List.map_nil, List.append_nil]
    exact h.fresh
  | cons turn turns ih =>
    cases hadmit : admitCommand seen turn.command with
    | error abort =>
      rw [executedIds_of_error hadmit, List.append_nil]
      exact h.fresh
    | ok next =>
      obtain ⟨hnew, rfl⟩ := admitCommand_eq_ok hadmit
      rw [executedIds_of_ok hadmit, List.append_cons]
      exact ih (h.renew (by decide) hnew)

end

/-- The backend is asked at most once for each id exactly when no command that
is executed comes back with an id from before its epoch. -/
theorem executed_once_iff (sourceClockId : String) (turns : List CommandTurn) :
    (executedIds sourceClockId ∅ turns).Nodup ↔
      ∀ j k, j < 4096 * ((k - 1) / 4096) → k < (executedIds sourceClockId ∅ turns).length →
        turns[j]?.map (·.command.commandId) ≠ turns[k]?.map (·.command.commandId) := by
  have hfresh : Fresh 4096 (executedIds sourceClockId ∅ turns) :=
    fresh_executedIds (Epoch.empty 4096)
  have hinput : ∀ i < (executedIds sourceClockId ∅ turns).length,
      (executedIds sourceClockId ∅ turns)[i]? = turns[i]?.map (·.command.commandId) := by
    intro i hi
    rw [← List.getElem?_map, List.getElem?_eq_getElem hi]
    exact (List.prefix_iff_getElem?.mp (executedIds_isPrefix sourceClockId ∅ turns) i hi).symm
  rw [hfresh.nodup_iff]
  refine forall_congr' fun j => forall_congr' fun k => forall_congr' fun hj =>
    forall_congr' fun hk => ?_
  have hjk : j < k := hj.trans_le (epochStart_le 4096 k)
  rw [hinput j (hjk.trans hk), hinput k hk]

/-! ## An id that comes back -/

/-- The command with the `number`-th id. -/
def numberedTurn (number : ℕ) : CommandTurn where
  command := {
    commandId := UInt8.ofNat number :: UInt8.ofNat (number / 256) :: List.replicate 14 0
    leaseId := List.replicate 16 0
    deviceId := "arm"
    commandMode := "position"
    actionSchemaId := 0
    values := [⟨0⟩]
    clientTimeNs := 0 }
  answer := .ok [⟨0⟩]
  sourceTimeNs := 0

theorem numberedTurn_injective {left right : ℕ} (hleft : left < 65536) (hright : right < 65536)
    (h : (numberedTurn left).command.commandId = (numberedTurn right).command.commandId) :
    left = right := by
  simp only [numberedTurn, List.cons.injEq, and_true] at h
  have hlow := congrArg UInt8.toNat h.1
  have hhigh := congrArg UInt8.toNat h.2
  simp only [UInt8.toNat_ofNat'] at hlow hhigh
  omega

theorem admitCommand_numberedTurn {seen : Finset (List UInt8)} {number : ℕ}
    (h : (numberedTurn number).command.commandId ∉ seen) :
    admitCommand seen (numberedTurn number).command =
      .ok (renew 4096 seen (numberedTurn number).command.commandId) := by
  unfold admitCommand
  rw [if_neg (by simp [numberedTurn]), if_neg h]
  rfl

/-- Numbered commands are all executed as long as their ids are fresh. -/
theorem executedIds_numberedTurn {sourceClockId : String} {log : List (List UInt8)}
    {seen : Finset (List UInt8)} {numbers : List ℕ} (h : Epoch 4096 log seen)
    (hfresh : Fresh 4096 (log ++ numbers.map fun number =>
      (numberedTurn number).command.commandId)) :
    executedIds sourceClockId seen (numbers.map numberedTurn) =
      numbers.map fun number => (numberedTurn number).command.commandId := by
  induction numbers generalizing log seen with
  | nil => rfl
  | cons number numbers ih =>
    rw [List.map_cons, List.append_cons] at hfresh
    have hnew : (numberedTurn number).command.commandId ∉ seen := by
      rw [h.mem_iff]
      exact (fresh_concat.mp hfresh.of_append).2
    rw [List.map_cons, executedIds_of_ok (admitCommand_numberedTurn hnew),
      ih (h.renew (by decide) hnew) hfresh, List.map_cons]

/-- After 4097 different ids the set has been emptied once, and the first id is
accepted a second time. -/
theorem first_id_executed_twice :
    ¬(executedIds "clock" ∅ ((List.range 4097 ++ [0]).map numberedTurn)).Nodup := by
  have hdistinct : ((List.range 4097).map fun number =>
      (numberedTurn number).command.commandId).Nodup := by
    refine List.Nodup.map_on ?_ List.nodup_range
    intro left hleft right hright
    have hleft := List.mem_range.mp hleft
    have hright := List.mem_range.mp hright
    exact numberedTurn_injective (by omega) (by omega)
  have hfresh : Fresh 4096 ((List.range 4097 ++ [0]).map fun number =>
      (numberedTurn number).command.commandId) := by
    rw [List.map_append, List.map_singleton, fresh_concat]
    refine ⟨fresh_of_nodup 4096 hdistinct, ?_⟩
    -- only the last of the ids is in the epoch
    rw [List.length_map, List.length_range, ← List.map_drop]
    intro hmem
    obtain ⟨number, hnumber, hsame⟩ := List.mem_map.mp hmem
    obtain ⟨position, hposition, rfl⟩ := List.mem_drop_iff_getElem.mp hnumber
    rw [List.getElem_range] at hsame
    rw [List.length_range] at hposition
    have hzero := numberedTurn_injective (by omega) (by omega) hsame
    have hstart : epochStart 4096 4097 = 4096 := rfl
    omega
  have hall : executedIds "clock" ∅ ((List.range 4097 ++ [0]).map numberedTurn) =
      (List.range 4097 ++ [0]).map fun number => (numberedTurn number).command.commandId := by
    refine executedIds_numberedTurn (Epoch.empty 4096) ?_
    rw [List.nil_append]
    exact hfresh
  intro hnodup
  rw [hall, List.map_append, List.map_singleton] at hnodup
  have hfirst : 0 ∈ List.range 4097 := List.mem_range.mpr (Nat.succ_pos 4096)
  exact (List.nodup_append.mp hnodup).2.2 _ (List.mem_map_of_mem hfirst) _
    (List.mem_singleton_self _) rfl

end RobotMulticam.Adapter
