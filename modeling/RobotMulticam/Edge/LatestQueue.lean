import RobotMulticam.Lib.Outcome
import RobotMulticam.Lib.Ring
import RobotMulticam.Lib.Run

/-!
# The queue between capture and transmission

Any number of threads share a `LatestQueue`. What they do to it is a sequence
of critical sections, each of them atomic under the lock: a whole `push`, a
whole `close`, and one pass of the loop in `pop_blocking`. A pass that finds
nothing parks its thread on the condition variable, where it makes no further
pass until it is woken, by a `push`, by `close` or spuriously.

Everything pushed is accounted for by `Accounts`: items leave the queue only
at its front, each with its fate, so that what was pushed is what was settled
followed by what is still queued.
-/

namespace RobotMulticam.Edge

open RobotMulticam.Lib

inductive QueueError where
  | zeroCapacity
  | closed
  deriving DecidableEq, Repr

structure QueueState (T : Type) where
  items : List T
  closed : Bool
  dropped : UInt64

/-- `waiting` are the threads parked on `available`. -/
structure LatestQueue (T : Type) where
  capacity : Nat
  state : QueueState T
  waiting : List Nat

variable {T : Type}

namespace LatestQueue

def new (capacity : Nat) : Except QueueError (LatestQueue T) :=
  if capacity = 0 then .error .zeroCapacity else .ok ⟨capacity, ⟨[], false, 0⟩, []⟩

/-- `notify_one`: some parked thread is woken. -/
def notifyOne (pick : Nat) (waiting : List Nat) : List Nat :=
  waiting.eraseIdx (pick % waiting.length)

variable (self : LatestQueue T)

/-- `push`; `pick` is the thread that is woken. -/
def push (item : T) (pick : Nat) : Except QueueError Unit × LatestQueue T :=
  if self.state.closed then (.error .closed, self)
  else
    let full := self.state.items.length = self.capacity
    let items := if full then self.state.items.drop 1 else self.state.items
    let dropped := if full then saturatingAdd64 self.state.dropped 1 else self.state.dropped
    (.ok (), { self with
      state := { self.state with items := items ++ [item], dropped }
      waiting := notifyOne pick self.waiting })

/-- One pass of the loop in `pop_blocking`: what is returned, or nothing when
the thread parks. -/
def popBlocking (thread : Nat) : Option (Option T) × LatestQueue T :=
  match self.state.items with
  | item :: items => (some (some item), { self with state := { self.state with items } })
  | [] =>
    if self.state.closed then (some none, self)
    else (none, { self with waiting := thread :: self.waiting })

/-- `close`, which wakes every thread. -/
def close : LatestQueue T :=
  { self with state := { self.state with closed := true }, waiting := [] }

/-! ## Interleavings -/

/-- What happens next. A thread that is parked makes no pass. -/
inductive Action (T : Type) where
  | push (item : T) (pick : Nat)
  | pop (thread : Nat)
  | close
  | wake (thread : Nat)

/-- Whether a thread makes a pass of `pop_blocking`. -/
def Action.isPop : Action T → Bool
  | .pop _ => true
  | _ => false

/-- What the callers see of a critical section. -/
inductive Entry (T : Type) where
  | pushed (item : T)
  | refused (item : T)
  | returned (result : Option T)

def step : Action T → LatestQueue T
  | .push item pick => (self.push item pick).2
  | .pop thread => if thread ∈ self.waiting then self else (self.popBlocking thread).2
  | .close => self.close
  | .wake thread => { self with waiting := self.waiting.erase thread }

def entries : Action T → List (Entry T)
  | .push item pick =>
    if (self.push item pick).1.isOk then [.pushed item] else [.refused item]
  | .pop thread =>
    if thread ∈ self.waiting then []
    else ((self.popBlocking thread).1.map Entry.returned).toList
  | .close => []
  | .wake _ => []

def Entry.pushed? : Entry T → Option T
  | .pushed item => some item
  | _ => none

def Entry.result? : Entry T → Option (Option T)
  | .returned result => some result
  | _ => none

/-- The items that were pushed, in order. -/
def pushed (log : List (Entry T)) : List T := log.filterMap Entry.pushed?

/-- What the calls of `pop_blocking` returned, in order. -/
def results (log : List (Entry T)) : List (Option T) := log.filterMap Entry.result?

/-- The items that were popped, in order. -/
def popped (log : List (Entry T)) : List T := (results log).reduceOption

@[simp] theorem pushed_append (log later : List (Entry T)) :
    pushed (log ++ later) = pushed log ++ pushed later := List.filterMap_append

@[simp] theorem results_append (log later : List (Entry T)) :
    results (log ++ later) = results log ++ results later := List.filterMap_append

@[simp] theorem popped_append (log later : List (Entry T)) :
    popped (log ++ later) = popped log ++ popped later := by
  simp [popped, List.reduceOption_append]

@[simp] theorem pushed_pushed (item : T) : pushed [.pushed item] = [item] := rfl

@[simp] theorem popped_pushed (item : T) : popped [.pushed item] = [] := rfl

@[simp] theorem pushed_returned (result : Option T) : pushed [.returned result] = [] := rfl

@[simp] theorem popped_returned (item : T) : popped [.returned (some item)] = [item] := rfl

/-- A section takes an item in, gives the front item out, or leaves the items
as they are. -/
theorem step_cases (action : Action T) :
    (∃ item, self.entries action = [.pushed item] ∧
      (self.step action).state.items = makeRoom self.capacity self.state.items ++ [item] ∧
      (self.step action).state.dropped =
        if self.state.items.length = self.capacity then saturatingAdd64 self.state.dropped 1
        else self.state.dropped) ∨
    (∃ item rest, self.entries action = [.returned (some item)] ∧
      self.state.items = item :: rest ∧ (self.step action).state.items = rest ∧
      (self.step action).state.dropped = self.state.dropped) ∨
    (pushed (self.entries action) = [] ∧ popped (self.entries action) = [] ∧
      (self.step action).state.items = self.state.items ∧
      (self.step action).state.dropped = self.state.dropped) := by
  cases action with
  | push item pick =>
    cases hclosed : self.state.closed with
    | true =>
      have hpush : self.push item pick = (.error .closed, self) := by simp [push, hclosed]
      refine Or.inr (Or.inr ?_)
      rw [entries, step, hpush]
      exact ⟨rfl, rfl, rfl, rfl⟩
    | false =>
      refine Or.inl ⟨item, ?_, ?_, ?_⟩
      · simp [entries, push, hclosed, Except.isOk, Except.toBool]
      · simp [step, push, hclosed, makeRoom]
      · simp [step, push, hclosed]
  | pop thread =>
    by_cases hparked : thread ∈ self.waiting
    · refine Or.inr (Or.inr ?_)
      simp [entries, step, hparked, pushed, popped, results]
    · cases hitems : self.state.items with
      | cons item rest =>
        refine Or.inr (Or.inl ⟨item, rest, ?_, rfl, ?_, ?_⟩)
        · simp [entries, hparked, popBlocking, hitems]
        · simp [step, hparked, popBlocking, hitems]
        · simp [step, hparked, popBlocking, hitems]
      | nil =>
        refine Or.inr (Or.inr ?_)
        cases hclosed : self.state.closed <;>
          simp [entries, step, hparked, popBlocking, hitems, hclosed, pushed, popped, results,
            Entry.pushed?, Entry.result?]
  | close => exact Or.inr (Or.inr ⟨rfl, rfl, rfl, rfl⟩)
  | wake thread => exact Or.inr (Or.inr ⟨rfl, rfl, rfl, rfl⟩)

theorem step_capacity (action : Action T) : (self.step action).capacity = self.capacity := by
  cases action with
  | push item pick =>
    rw [step, push]
    split <;> rfl
  | pop thread =>
    rw [step]
    split
    · rfl
    · rw [popBlocking]
      split
      · rfl
      · split <;> rfl
  | close => rfl
  | wake thread => rfl

/-! ## Nothing is lost silently -/

/-- How an item left the queue. -/
inductive Fate where
  | popped
  | dropped
  deriving DecidableEq

/-- Everything pushed is settled, in order, or still queued. -/
structure Accounts (queue : LatestQueue T) (log : List (Entry T))
    (settled : List (T × Fate)) : Prop where
  pushed : pushed log = settled.map Prod.fst ++ queue.state.items
  popped : popped log = (settled.filter fun entry => entry.2 = .popped).map Prod.fst
  dropped : queue.state.dropped = counted64 (settled.countP fun entry => entry.2 = .dropped)
  bounded : queue.state.items.length ≤ queue.capacity

variable {queue : LatestQueue T} {capacity : Nat}

theorem Accounts.step {log : List (Entry T)} {settled : List (T × Fate)}
    (h : Accounts queue log settled) (hcapacity : queue.capacity ≠ 0) (action : Action T) :
    ∃ settled, Accounts (queue.step action) (log ++ queue.entries action) settled := by
  have hsame := step_capacity queue action
  rcases step_cases queue action with ⟨item, hentry, hitems, hdropped⟩ |
    ⟨item, rest, hentry, hfront, hitems, hdropped⟩ | ⟨hpushed, hpopped, hitems, hdropped⟩
  · have hbound : (queue.step action).state.items.length ≤ (queue.step action).capacity := by
      have hroom := length_makeRoom_lt hcapacity h.bounded
      rw [hitems, hsame, List.length_append, List.length_singleton]
      omega
    by_cases hfull : queue.state.items.length = queue.capacity
    · -- the oldest item makes room and is counted
      obtain ⟨front, rest, hfront⟩ := List.exists_cons_of_length_pos
        (Nat.pos_of_ne_zero (hfull ▸ hcapacity))
      have hkept : makeRoom queue.capacity queue.state.items = rest := by
        rw [makeRoom, if_pos hfull, hfront, List.drop_one, List.tail_cons]
      refine ⟨settled ++ [(front, .dropped)], ?_, ?_, ?_, hbound⟩
      · rw [hentry, pushed_append, h.pushed, hitems, hkept, hfront]
        simp
      · rw [hentry, popped_append, h.popped]
        simp
      · rw [hdropped, if_pos hfull, h.dropped, counted64_succ]
        simp
    · have hkept : makeRoom queue.capacity queue.state.items = queue.state.items := by
        rw [makeRoom, if_neg hfull]
      refine ⟨settled, ?_, ?_, ?_, hbound⟩
      · rw [hentry, pushed_append, h.pushed, hitems, hkept]
        simp
      · rw [hentry, popped_append, h.popped]
        simp
      · rw [hdropped, if_neg hfull, h.dropped]
  · refine ⟨settled ++ [(item, .popped)], ?_, ?_, ?_, ?_⟩
    · rw [hentry, pushed_append, h.pushed, hitems, hfront]
      simp
    · rw [hentry, popped_append, h.popped]
      simp
    · rw [hdropped, h.dropped]
      simp
    · have hbound := h.bounded
      rw [hfront, List.length_cons] at hbound
      rw [hitems, hsame]
      omega
  · refine ⟨settled, ?_, ?_, ?_, ?_⟩
    · rw [pushed_append, hpushed, List.append_nil, hitems]
      exact h.pushed
    · rw [popped_append, hpopped, List.append_nil]
      exact h.popped
    · rw [hdropped]
      exact h.dropped
    · rw [hitems, hsame]
      exact h.bounded

theorem new_eq_ok (h : new capacity = .ok queue) :
    capacity ≠ 0 ∧ queue = ⟨capacity, ⟨[], false, 0⟩, []⟩ := by
  unfold new at h
  split at h
  · cases h
  · rename_i hpositive
    exact ⟨hpositive, (Except.ok.inj h).symm⟩

theorem accounts_run (hnew : new capacity = .ok queue) (actions : List (Action T)) :
    (run step queue actions).capacity = capacity ∧
      ∃ settled, Accounts (run step queue actions) (outputs step entries queue actions) settled := by
  obtain ⟨hpositive, rfl⟩ := new_eq_ok hnew
  have hkeeps : ∀ (queue : LatestQueue T) log action,
      (queue.capacity = capacity ∧ ∃ settled, Accounts queue log settled) →
      (queue.step action).capacity = capacity ∧
        ∃ settled, Accounts (queue.step action) (log ++ queue.entries action) settled := by
    rintro queue log action ⟨rfl, settled, haccounts⟩
    exact ⟨step_capacity queue action, haccounts.step hpositive action⟩
  have hstart : Accounts (⟨capacity, ⟨[], false, 0⟩, []⟩ : LatestQueue T) [] [] :=
    ⟨rfl, rfl, rfl, Nat.zero_le _⟩
  exact run_outputs_invariant' hkeeps ⟨rfl, [], hstart⟩ actions

/-! ## After the end -/

/-- A queue that was closed; no thread is parked on it. -/
structure Closed (queue : LatestQueue T) : Prop where
  closed : queue.state.closed = true
  awake : queue.waiting = []

theorem closed_close (queue : LatestQueue T) : Closed queue.close := ⟨rfl, rfl⟩

namespace Closed

variable {queue : LatestQueue T}

/-- A closed queue takes nothing in, and every pass gives out what is in front. -/
theorem step_spec (h : Closed queue) (action : Action T) :
    Closed (queue.step action) ∧ pushed (queue.entries action) = [] ∧
      results (queue.entries action) =
        (if action.isPop then [queue.state.items.head?] else []) ∧
      (queue.step action).state.items =
        if action.isPop then queue.state.items.tail else queue.state.items := by
  cases action with
  | push item pick =>
    have hpush : queue.push item pick = (.error .closed, queue) := by simp [push, h.closed]
    rw [entries, step, hpush]
    exact ⟨h, rfl, rfl, rfl⟩
  | pop thread =>
    have hawake : thread ∉ queue.waiting := by simp [h.awake]
    rw [entries, step, if_neg hawake, if_neg hawake, popBlocking]
    cases hitems : queue.state.items with
    | nil =>
      dsimp only
      rw [if_pos h.closed]
      exact ⟨h, rfl, rfl, hitems⟩
    | cons item rest => exact ⟨⟨h.closed, h.awake⟩, rfl, rfl, rfl⟩
  | close => exact ⟨closed_close queue, rfl, rfl, rfl⟩
  | wake thread =>
    refine ⟨⟨h.closed, ?_⟩, rfl, rfl, rfl⟩
    show queue.waiting.erase thread = []
    rw [h.awake, List.erase_nil]

/-- The passes return the items that are left, in order, and then nothing. -/
theorem run (h : Closed queue) (actions : List (Action T)) :
    pushed (outputs step entries queue actions) = [] ∧
      results (outputs step entries queue actions) =
        (List.range (actions.countP Action.isPop)).map fun pass => queue.state.items[pass]? := by
  induction actions generalizing queue with
  | nil => exact ⟨rfl, rfl⟩
  | cons action actions ih =>
    obtain ⟨hclosed, hpushed, hresults, hitems⟩ := h.step_spec action
    obtain ⟨hlater, hrest⟩ := ih hclosed
    rw [outputs, pushed_append, results_append, hpushed, hlater, hresults, hrest, hitems]
    refine ⟨rfl, ?_⟩
    cases hpop : action.isPop with
    | false => simp [hpop]
    | true =>
      rw [List.countP_cons_of_pos hpop, List.range_succ_eq_map]
      simp [List.head?_eq_getElem?, Function.comp_def]

end Closed

/-- What holds of the queue after any interleaving. -/
structure Conserves (capacity : Nat) (start : LatestQueue T)
    (actions : List (Action T)) : Prop where
  ordered : (popped (outputs step entries start actions)).Sublist
    (pushed (outputs step entries start actions))
  settled : ∃ settled : List (T × Fate),
    pushed (outputs step entries start actions) =
      settled.map Prod.fst ++ (run step start actions).state.items ∧
    popped (outputs step entries start actions) =
      (settled.filter fun entry => entry.2 = .popped).map Prod.fst ∧
    (run step start actions).state.dropped =
      counted64 (settled.countP fun entry => entry.2 = .dropped)
  bounded : (run step start actions).state.items.length ≤ capacity
  suffix : (run step start actions).state.items <:+ pushed (outputs step entries start actions)

/-- The queue neither reorders nor loses items silently, and drains after it
was closed. -/
theorem latest_queue_conserves (capacity : Nat) (start : LatestQueue T)
    (hnew : new capacity = .ok start) (actions : List (Action T)) :
    Conserves capacity start actions ∧
      ∀ before after, actions = before ++ .close :: after →
        pushed (outputs step entries (run step start (before ++ [.close])) after) = [] ∧
        results (outputs step entries (run step start (before ++ [.close])) after) =
          (List.range (after.countP Action.isPop)).map fun pass =>
            (run step start (before ++ [.close])).state.items[pass]? := by
  constructor
  · obtain ⟨hcapacity, settled, haccounts⟩ := accounts_run hnew actions
    refine ⟨?_, ⟨settled, haccounts.pushed, haccounts.popped, haccounts.dropped⟩, ?_, ?_⟩
    · rw [haccounts.pushed, haccounts.popped]
      exact (List.filter_sublist.map Prod.fst).trans (List.sublist_append_left _ _)
    · rw [← hcapacity]
      exact haccounts.bounded
    · rw [haccounts.pushed]
      exact List.suffix_append _ _
  · rintro before after rfl
    have hclosed : Closed (run step start (before ++ [.close])) := by
      rw [run_append]
      exact closed_close _
    exact hclosed.run after

/-- The first item is dropped for the second, which a parked thread gets. -/
theorem latest_queue_conserves_single :
    ∃ start : LatestQueue Nat, new 1 = .ok start ∧
      Conserves 1 start [.pop 7, .push 1 0, .push 2 0, .pop 7, .close, .pop 7] := by
  refine ⟨⟨1, ⟨[], false, 0⟩, []⟩, rfl, ?_⟩
  exact (latest_queue_conserves 1 _ rfl [.pop 7, .push 1 0, .push 2 0, .pop 7, .close, .pop 7]).1

end LatestQueue

end RobotMulticam.Edge
