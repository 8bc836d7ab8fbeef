import RobotMulticam.Edge.Leases
import RobotMulticam.Lib.Window

/-!
# The command replay window

A command id must be refused as a duplicate until `max_command_history`
further commands have been accepted. The gateway keeps the accepted ids in
an ordered set and, when it is full, drops the set's first element. That is
the smallest id, not the one accepted first, so the window is right exactly
as long as these two coincide whenever an id is dropped.

`Audit` is a gateway together with the log of the ids it has accepted, in
order; `Recent` relates the two.
-/

namespace RobotMulticam.Edge

open RobotMulticam.Lib
open Std (ExtTreeSet)
open ControlGateway

/-- A gateway and the ids of all the commands it has accepted so far. -/
structure Audit where
  gateway : ControlGateway
  accepted : List Uuid

/-- The id a call gets accepted, if it does. -/
def ControlGateway.acceptedBy (gateway : ControlGateway) : Call → List Uuid
  | .validateCommand command nowEdgeNs =>
    match (gateway.validateCommand command nowEdgeNs).1 with
    | .ok validated => [validated.commandId]
    | .error _ => []
  | _ => []

variable (audit : Audit)

def Audit.step (call : Call) : Audit where
  gateway := audit.gateway.call call
  accepted := audit.accepted ++ audit.gateway.acceptedBy call

/-- An id after which fewer than `max_command_history` commands have been
accepted is refused as a duplicate, whatever else the command says. -/
def Audit.RejectsRecent : Prop :=
  ∀ id older newer, audit.accepted = older ++ id :: newer →
    newer.length < audit.gateway.maxCommandHistory →
    ∀ (command : CommandRequest) (nowEdgeNs : UInt64), command.commandId = id →
      (audit.gateway.validateCommand command nowEdgeNs).1 = .error .duplicateCommand

/-- If the call is an admissible command and the history is full, then the
smallest id of the history is the earliest accepted of the ids it should
hold. -/
def Audit.SmallestIsOldest : Call → Prop
  | .validateCommand command nowEdgeNs =>
    audit.gateway.Admits command nowEdgeNs →
    audit.gateway.commandIds.size = audit.gateway.maxCommandHistory →
    audit.gateway.commandIds.min? =
      (audit.accepted.rtake audit.gateway.maxCommandHistory).head?
  | _ => True

/-- The history holds the ids of the window and nothing else. -/
def Audit.Faithful : Prop :=
  Recent audit.gateway.maxCommandHistory audit.accepted audit.gateway.commandIds

/-! ## One step -/

/-- A step accepts an admissible command, or leaves history and log as they
are. -/
theorem Audit.step_cases (call : Call) :
    (∃ command now, call = .validateCommand command now ∧
      audit.gateway.Admits command now ∧
      (audit.step call).accepted = audit.accepted ++ [command.commandId] ∧
      (audit.step call).gateway.maxCommandHistory = audit.gateway.maxCommandHistory ∧
      (audit.step call).gateway.commandIds =
        (makeRoom audit.gateway.commandIds
          audit.gateway.maxCommandHistory).insert command.commandId) ∨
    ((∀ command now, call = .validateCommand command now →
        ¬ audit.gateway.Admits command now) ∧
      (audit.step call).accepted = audit.accepted ∧
      (audit.step call).gateway.maxCommandHistory = audit.gateway.maxCommandHistory ∧
      (audit.step call).gateway.commandIds = audit.gateway.commandIds) := by
  cases call with
  | acquire clientId devices ttl now freshId =>
    refine Or.inr ⟨by simp, by simp [step, acceptedBy], ?_⟩
    rcases audit.gateway.acquire_cases clientId devices ttl now freshId with
      ⟨error, hrefused⟩ | ⟨lease, hgranted, _⟩
    · simp [step, call, hrefused]
    · simp [step, call, hgranted]
  | release leaseId =>
    exact Or.inr ⟨by simp, by simp [step, acceptedBy], rfl, rfl⟩
  | expire now =>
    exact Or.inr ⟨by simp, by simp [step, acceptedBy], rfl, rfl⟩
  | validateCommand command now =>
    rcases audit.gateway.validateCommand_cases command now with
      ⟨hadmits, haccepted⟩ | ⟨hadmits, error, hrefused⟩
    · refine Or.inl ⟨command, now, rfl, hadmits, ?_, ?_, ?_⟩
      · simp [step, acceptedBy, haccepted]
      · simp [step, call, haccepted, record]
      · simp [step, call, haccepted, record]
    · refine Or.inr ⟨?_, ?_, ?_, ?_⟩
      · rintro _ _ ⟨rfl, rfl⟩
        exact hadmits
      · simp [step, acceptedBy, hrefused]
      · simp [step, call, hrefused]
      · simp [step, call, hrefused]

theorem unused_of_admits {gateway : ControlGateway} {command : CommandRequest}
    {now : UInt64} (h : gateway.Admits command now) :
    command.commandId ∉ gateway.commandIds := by
  obtain ⟨lease, policy, hadmissible⟩ := h
  exact hadmissible.unused

/-- Where the smallest id is the oldest, a step keeps the history faithful. -/
theorem Audit.faithful_step (call : Call) (h : audit.Faithful)
    (holdest : audit.SmallestIsOldest call) : (audit.step call).Faithful := by
  rcases audit.step_cases call with
    ⟨command, now, rfl, hadmits, hlog, hmax, hids⟩ | ⟨_, hlog, hmax, hids⟩
  · unfold Faithful
    rw [hlog, hmax, hids]
    have hunused := unused_of_admits hadmits
    unfold makeRoom
    rw [← ExtTreeSet.min?_eq_head?_toList]
    split
    · rename_i hfull
      have hfirst := holdest hadmits hfull
      split
      · rename_i oldest hmin
        rw [hmin] at hfirst
        exact h.insert_evicting audit.gateway.historyPositive hfull hfirst.symm hunused
      · rename_i hmin
        -- a full history is not empty
        rw [ExtTreeSet.min?_eq_none_iff] at hmin
        have hpositive := audit.gateway.historyPositive
        rw [← hfull, hmin] at hpositive
        exact absurd hpositive (by simp)
    · rename_i hroom
      exact h.insert_of_room hroom hunused
  · unfold Faithful
    rw [hlog, hmax, hids]
    exact h

theorem Audit.rejectsRecent_iff {audit : Audit} :
    audit.RejectsRecent ↔
      ∀ id ∈ audit.accepted.rtake audit.gateway.maxCommandHistory,
        id ∈ audit.gateway.commandIds := by
  constructor
  · intro h id hid
    obtain ⟨older, newer, hlog, hcount⟩ := mem_rtake_iff.mp hid
    exact validateCommand_duplicate.mp
      (h id older newer hlog hcount ⟨id, id, "", "", 0, []⟩ 0 rfl)
  · rintro h id older newer hlog hcount command now rfl
    exact validateCommand_duplicate.mpr
      (h _ (mem_rtake_iff.mpr ⟨older, newer, hlog, hcount⟩))

/-- If the window still holds after a step, the step dropped no id but the
oldest: any other dropped id has fewer than `max_command_history` successors
and is missing from the history. -/
theorem Audit.smallestIsOldest_of_rejectsRecent (call : Call) (h : audit.Faithful)
    (hnext : (audit.step call).RejectsRecent) :
    audit.SmallestIsOldest call := by
  cases call with
  | acquire _ _ _ _ _ => trivial
  | release _ => trivial
  | expire _ => trivial
  | validateCommand command now =>
    intro hadmits hfull
    rcases audit.step_cases (.validateCommand command now) with
      ⟨_, _, ⟨rfl, rfl⟩, _, hlog, hmax, hids⟩ | ⟨hrefused, _⟩
    swap
    · exact absurd hadmits (hrefused command now rfl)
    rw [rejectsRecent_iff, hlog, hmax, hids] at hnext
    have hpositive := audit.gateway.historyPositive
    have hunused := unused_of_admits hadmits
    cases hmin : audit.gateway.commandIds.min? with
    | none =>
      rw [ExtTreeSet.min?_eq_none_iff] at hmin
      rw [← hfull, hmin] at hpositive
      exact absurd hpositive (by simp)
    | some smallest =>
      simp only [makeRoom, hfull, if_true,
        ← ExtTreeSet.min?_eq_head?_toList, hmin] at hnext
      obtain ⟨count, hcount⟩ :=
        Nat.exists_eq_succ_of_ne_zero (Nat.pos_iff_ne_zero.mp hpositive)
      have hsize := h.size_eq
      obtain ⟨oldest, hoff⟩ :=
        rtake_succ (show count < audit.accepted.length by omega)
      have hwindow : audit.accepted.rtake audit.gateway.maxCommandHistory =
          oldest :: audit.accepted.rtake count := by
        rw [hcount]
        exact hoff
      rw [hwindow, List.head?_cons]
      have hheld := ExtTreeSet.min?_mem hmin
      rcases List.mem_cons.mp (hwindow ▸ (h.mem smallest).mp hheld) with rfl | hyounger
      · rfl
      · have hstill : smallest ∈
            (audit.accepted ++ [command.commandId]).rtake audit.gateway.maxCommandHistory := by
          rw [hcount, Nat.succ_eq_add_one, List.rtake_concat_succ]
          exact List.mem_append_left _ hyounger
        rcases ExtTreeSet.mem_insert.mp (hnext smallest hstill) with heq | hkept
        · rw [Std.LawfulEqOrd.compare_eq_iff_eq] at heq
          rw [heq] at hunused
          exact absurd hheld hunused
        · exact absurd Std.ReflCmp.compare_self (ExtTreeSet.mem_erase.mp hkept).1

/-! ## Whole runs -/

/-- From a faithful history, the window holds in every state of a run exactly
when every command that is accepted with a full history finds the oldest id
to be the smallest. -/
theorem Audit.rejectsRecent_run_iff (start : Audit) (h : start.Faithful)
    (calls : List Call) :
    (∀ before after, calls = before ++ after → (run Audit.step start before).RejectsRecent) ↔
      Meets Audit.step Audit.SmallestIsOldest start calls := by
  constructor
  · intro hwindow
    induction calls generalizing start with
    | nil => trivial
    | cons call calls ih =>
      have holdest := start.smallestIsOldest_of_rejectsRecent call h
        (hwindow [call] calls rfl)
      refine ⟨holdest, ih (start.step call) (start.faithful_step call h holdest) ?_⟩
      intro before after hsplit
      exact hwindow (call :: before) after (by rw [hsplit]; rfl)
  · rintro hmeets before after rfl
    have hfaithful : (run Audit.step start before).Faithful :=
      run_invariant Audit.faithful_step h (meets_append.mp hmeets).1
    rw [Audit.rejectsRecent_iff]
    intro id hid
    exact (hfaithful.mem id).mpr hid

/-- The replay window of a new gateway: in every state of a run each recent
id is refused as a duplicate, if and only if every command accepted with a
full history finds the id accepted first to be the smallest one. -/
theorem replay_window_iff_smallest_is_oldest (policies : List DeviceCommandPolicy)
    (minimumTtl maximumTtl : UInt64) (history : Nat) (gateway : ControlGateway)
    (hnew : ControlGateway.new policies minimumTtl maximumTtl history = .ok gateway)
    (calls : List Call) :
    (∀ before after, calls = before ++ after →
      (run Audit.step ⟨gateway, []⟩ before).RejectsRecent) ↔
      Meets Audit.step Audit.SmallestIsOldest ⟨gateway, []⟩ calls := by
  apply Audit.rejectsRecent_run_iff
  show Recent gateway.maxCommandHistory [] gateway.commandIds
  rw [(leases_new hnew).2.1]
  exact Recent.empty _

/-- One client leases the body and sends commands with the given ids. -/
def commandRun (ids : List Nat) : List Call :=
  .acquire "client" {"body"} 100 1 (.ofNat 7) ::
    ids.map fun id => .validateCommand (bodyCommand (.ofNat id) (.ofNat 7)) 2

/-- Ids in increasing order keep the window: the first of three commands is
forgotten, the other two are not. -/
theorem replay_window_increasing_ids :
    (run Audit.step ⟨bodyGateway, []⟩ (commandRun [1, 5, 9])).accepted =
      [.ofNat 1, .ofNat 5, .ofNat 9] ∧
    (run Audit.step ⟨bodyGateway, []⟩ (commandRun [1, 5, 9])).RejectsRecent := by
  refine ⟨by decide +kernel, ?_⟩
  have hwindow := replay_window_iff_smallest_is_oldest [bodyPolicy] 10 1000 2 bodyGateway
    new_bodyGateway (commandRun [1, 5, 9])
  refine hwindow.mpr ⟨trivial, ?_, ?_, ?_, trivial⟩ _ [] (List.append_nil _).symm
  · intro _ hfull
    exact absurd hfull (by decide +kernel)
  · intro _ hfull
    exact absurd hfull (by decide +kernel)
  · intro _ _
    rw [ExtTreeSet.min?_eq_head?_toList]
    decide +kernel

/-- Two commands are remembered, and ids 5, 1 and 9 are accepted in this
order. One command came after id 1, yet the gateway accepts id 1 again: the
third command pushed it out instead of id 5. -/
theorem replay_window_forgets_smallest :
    (run Audit.step ⟨bodyGateway, []⟩ (commandRun [5, 1, 9])).accepted =
      [.ofNat 5, .ofNat 1, .ofNat 9] ∧
    (run Audit.step ⟨bodyGateway, []⟩ (commandRun [5, 1, 9, 1])).accepted =
      [.ofNat 5, .ofNat 1, .ofNat 9, .ofNat 1] ∧
    ¬ (run Audit.step ⟨bodyGateway, []⟩ (commandRun [5, 1, 9])).RejectsRecent := by
  refine ⟨by decide +kernel, by decide +kernel, ?_⟩
  intro hwindow
  have hduplicate := hwindow (.ofNat 1) [.ofNat 5] [.ofNat 9] (by decide +kernel)
    (by decide +kernel) (bodyCommand (.ofNat 1) (.ofNat 7)) 2 rfl
  exact absurd hduplicate (by decide +kernel)

end RobotMulticam.Edge
