import RobotMulticam.Edge.Context
import RobotMulticam.Lib.Ring
import RobotMulticam.Lib.Run

/-!
# Access units held for their context

An anchor access unit waits in an `AnchorAuHoldQueue` until its context is
there: it is taken out by its PTS, or it expires. The guard against PTS that
do not increase is kept outside the queue, so it outlives the items.

`Custody` accounts for every accepted item. Items are told apart by their
PTS, so "the accepted items are those pending, taken and expired, up to
order" says that each of them is exactly one of the three.
-/

namespace RobotMulticam.Edge

open RobotMulticam.Lib

structure PendingAnchorAu (T : Type) where
  ptsNs : UInt64
  captureTimeEdgeNs : UInt64
  ordinal : UInt64
  insertedAtNs : UInt64
  accessUnit : T

structure AnchorAuHoldQueue (T : Type) where
  capacity : Nat
  maxHoldNs : UInt64
  lastPtsNs : Option UInt64
  pending : List (PendingAnchorAu T)

variable {T : Type}

namespace AnchorAuHoldQueue

def new (capacity : Nat) (maxHoldNs : UInt64) : Except ContextError (AnchorAuHoldQueue T) :=
  if capacity = 0 ∨ maxHoldNs = 0 then .error .invalidCapacity
  else .ok ⟨capacity, maxHoldNs, none, []⟩

def push (self : AnchorAuHoldQueue T) (item : PendingAnchorAu T) :
    Except ContextError (AnchorAuHoldQueue T) :=
  if item.ptsNs = 0 ∨ self.lastPtsNs.any (fun last => item.ptsNs ≤ last) then .error .invalidPts
  else if self.pending.length = self.capacity then .error .holdCapacity
  else .ok { self with lastPtsNs := some item.ptsNs, pending := self.pending ++ [item] }

def take (self : AnchorAuHoldQueue T) (ptsNs : UInt64) :
    Option (PendingAnchorAu T) × AnchorAuHoldQueue T :=
  match self.pending.findIdx? fun item => item.ptsNs = ptsNs with
  | none => (none, self)
  | some index =>
    (self.pending[index]?, { self with pending := self.pending.eraseIdx index })

/-- The loop of `expire`: what expired, and what is left. -/
def expireFront (maxHoldNs nowNs : UInt64) :
    List (PendingAnchorAu T) → List (PendingAnchorAu T) × List (PendingAnchorAu T)
  | [] => ([], [])
  | item :: pending =>
    if maxHoldNs < saturatingSub64 nowNs item.insertedAtNs then
      let (expired, left) := expireFront maxHoldNs nowNs pending
      (item :: expired, left)
    else ([], item :: pending)

def expire (self : AnchorAuHoldQueue T) (nowNs : UInt64) :
    List (PendingAnchorAu T) × AnchorAuHoldQueue T :=
  let (expired, pending) := expireFront self.maxHoldNs nowNs self.pending
  (expired, { self with pending })

/-! ## The operations -/

/-- The guard lets the item in. -/
def Newer (self : AnchorAuHoldQueue T) (item : PendingAnchorAu T) : Prop :=
  item.ptsNs ≠ 0 ∧ ∀ last ∈ self.lastPtsNs, last < item.ptsNs

/-- What `push` does, check by check. -/
theorem push_cases (self : AnchorAuHoldQueue T) (item : PendingAnchorAu T) :
    (¬ self.Newer item ∧ self.push item = .error .invalidPts) ∨
    (self.Newer item ∧ self.pending.length = self.capacity ∧
      self.push item = .error .holdCapacity) ∨
    (self.Newer item ∧ self.pending.length ≠ self.capacity ∧ self.push item =
      .ok { self with lastPtsNs := some item.ptsNs, pending := self.pending ++ [item] }) := by
  have hguard : ¬ (item.ptsNs = 0 ∨ self.lastPtsNs.any (fun last => item.ptsNs ≤ last)) ↔
      self.Newer item := by
    unfold Newer
    cases self.lastPtsNs <;> simp
  unfold push
  split
  · rename_i hbad
    exact Or.inl ⟨fun hnewer => hguard.mpr hnewer hbad, rfl⟩
  · rename_i hgood
    refine Or.inr ?_
    split
    · rename_i hfull
      exact Or.inl ⟨hguard.mp hgood, hfull, rfl⟩
    · rename_i hroom
      exact Or.inr ⟨hguard.mp hgood, hroom, rfl⟩

/-- `take` removes the item with the PTS from where it is. -/
theorem take_cases (self : AnchorAuHoldQueue T) (ptsNs : UInt64) :
    ((∀ item ∈ self.pending, item.ptsNs ≠ ptsNs) ∧ self.take ptsNs = (none, self)) ∨
    ∃ before item after, self.pending = before ++ item :: after ∧ item.ptsNs = ptsNs ∧
      self.take ptsNs = (some item, { self with pending := before ++ after }) := by
  unfold take
  cases hfound : self.pending.findIdx? fun item => item.ptsNs = ptsNs with
  | none =>
    refine Or.inl ⟨?_, rfl⟩
    simpa using List.findIdx?_eq_none_iff.mp hfound
  | some index =>
    obtain ⟨hlt, hpts, _⟩ := List.findIdx?_eq_some_iff_getElem.mp hfound
    refine Or.inr ⟨self.pending.take index, self.pending[index], self.pending.drop (index + 1),
      ?_, by simpa using hpts, ?_⟩
    · rw [List.getElem_cons_drop hlt, List.take_append_drop]
    · dsimp only
      rw [List.getElem?_eq_getElem hlt, List.eraseIdx_eq_take_drop_succ]

/-- The item is older than it may be held. -/
def Overdue (maxHoldNs nowNs : UInt64) (item : PendingAnchorAu T) : Prop :=
  item.insertedAtNs.toNat + maxHoldNs.toNat < nowNs.toNat

variable {item : PendingAnchorAu T} {self : AnchorAuHoldQueue T}

theorem overdue_iff {maxHoldNs nowNs : UInt64} :
    maxHoldNs < saturatingSub64 nowNs item.insertedAtNs ↔ Overdue maxHoldNs nowNs item := by
  rw [UInt64.lt_iff_toNat_lt, toNat_saturatingSub64, Overdue]
  omega

/-- The loop cuts the pending items behind the last overdue one in front. -/
theorem expireFront_spec (maxHoldNs nowNs : UInt64) (pending : List (PendingAnchorAu T)) :
    (expireFront maxHoldNs nowNs pending).1 ++ (expireFront maxHoldNs nowNs pending).2 = pending ∧
      (∀ item ∈ (expireFront maxHoldNs nowNs pending).1, Overdue maxHoldNs nowNs item) ∧
      ∀ item ∈ (expireFront maxHoldNs nowNs pending).2.head?, ¬ Overdue maxHoldNs nowNs item := by
  induction pending with
  | nil => simp [expireFront]
  | cons item pending ih =>
    rw [expireFront]
    split
    · rename_i hoverdue
      obtain ⟨hsplit, hold, hyoung⟩ := ih
      refine ⟨congrArg (item :: ·) hsplit, ?_, hyoung⟩
      exact List.forall_mem_cons.mpr ⟨overdue_iff.mp hoverdue, hold⟩
    · rename_i hyoung
      refine ⟨rfl, by simp, ?_⟩
      simpa using fun hoverdue => hyoung (overdue_iff.mpr hoverdue)

/-! ## Runs -/

inductive Action (T : Type) where
  | push (item : PendingAnchorAu T)
  | take (ptsNs : UInt64)
  | expire (nowNs : UInt64)

/-- What the calls of a run took in and gave out. -/
inductive Entry (T : Type) where
  | accepted (item : PendingAnchorAu T)
  | taken (item : PendingAnchorAu T)
  | expired (item : PendingAnchorAu T)

def step (self : AnchorAuHoldQueue T) : Action T → AnchorAuHoldQueue T
  | .push item => (self.push item).toOption.getD self
  | .take ptsNs => (self.take ptsNs).2
  | .expire nowNs => (self.expire nowNs).2

def entries (self : AnchorAuHoldQueue T) : Action T → List (Entry T)
  | .push item => if (self.push item).toOption.isSome then [.accepted item] else []
  | .take ptsNs => ((self.take ptsNs).1.map Entry.taken).toList
  | .expire nowNs => (self.expire nowNs).1.map Entry.expired

def Entry.accepted? : Entry T → Option (PendingAnchorAu T)
  | .accepted item => some item
  | _ => none

def Entry.taken? : Entry T → Option (PendingAnchorAu T)
  | .taken item => some item
  | _ => none

def Entry.expired? : Entry T → Option (PendingAnchorAu T)
  | .expired item => some item
  | _ => none

def accepted (log : List (Entry T)) : List (PendingAnchorAu T) := log.filterMap Entry.accepted?

def taken (log : List (Entry T)) : List (PendingAnchorAu T) := log.filterMap Entry.taken?

def expired (log : List (Entry T)) : List (PendingAnchorAu T) := log.filterMap Entry.expired?

@[simp] theorem accepted_append (log later : List (Entry T)) :
    accepted (log ++ later) = accepted log ++ accepted later := List.filterMap_append

@[simp] theorem taken_append (log later : List (Entry T)) :
    taken (log ++ later) = taken log ++ taken later := List.filterMap_append

@[simp] theorem expired_append (log later : List (Entry T)) :
    expired (log ++ later) = expired log ++ expired later := List.filterMap_append

@[simp] theorem accepted_singleton (item : PendingAnchorAu T) :
    accepted [.accepted item] = [item] := rfl

@[simp] theorem taken_accepted (item : PendingAnchorAu T) : taken [.accepted item] = [] := rfl

@[simp] theorem expired_accepted (item : PendingAnchorAu T) : expired [.accepted item] = [] := rfl

/-- A refused push changes nothing. -/
theorem step_push_of_error {error : ContextError} (h : self.push item = .error error) :
    self.step (.push item) = self ∧ self.entries (.push item) = [] := by
  rw [step, entries, h]
  exact ⟨rfl, rfl⟩

theorem step_push_of_ok {after : AnchorAuHoldQueue T} (h : self.push item = .ok after) :
    self.step (.push item) = after ∧ self.entries (.push item) = [.accepted item] := by
  rw [step, entries, h]
  exact ⟨rfl, rfl⟩

/-- A call takes an item in at the end, or takes some out. -/
theorem step_cases (self : AnchorAuHoldQueue T) (action : Action T) :
    (∃ item, self.entries action = [.accepted item] ∧ self.Newer item ∧
      self.pending.length ≠ self.capacity ∧ self.step action =
        { self with lastPtsNs := some item.ptsNs, pending := self.pending ++ [item] }) ∨
    ∃ before gone after, self.pending = before ++ gone ++ after ∧
      self.step action = { self with pending := before ++ after } ∧
      accepted (self.entries action) = [] ∧
      taken (self.entries action) ++ expired (self.entries action) = gone := by
  cases action with
  | push item =>
    have hrefused : ∀ error, self.push item = .error error →
        ∃ before gone after, self.pending = before ++ gone ++ after ∧
          self.step (.push item) = { self with pending := before ++ after } ∧
          accepted (self.entries (.push item)) = [] ∧
          taken (self.entries (.push item)) ++ expired (self.entries (.push item)) = gone := by
      intro error herror
      obtain ⟨hstep, hentries⟩ := step_push_of_error herror
      rw [hstep, hentries]
      exact ⟨[], [], self.pending, rfl, rfl, rfl, rfl⟩
    rcases push_cases self item with ⟨_, hpush⟩ | ⟨_, _, hpush⟩ | ⟨hnewer, hroom, hpush⟩
    · exact Or.inr (hrefused _ hpush)
    · exact Or.inr (hrefused _ hpush)
    · obtain ⟨hstep, hentries⟩ := step_push_of_ok hpush
      exact Or.inl ⟨item, hentries, hnewer, hroom, hstep⟩
  | take ptsNs =>
    refine Or.inr ?_
    rcases take_cases self ptsNs with ⟨_, htake⟩ | ⟨before, item, after, hpending, _, htake⟩
    · rw [step, entries, htake]
      exact ⟨[], [], self.pending, rfl, rfl, rfl, rfl⟩
    · rw [step, entries, htake]
      exact ⟨before, [item], after, by simp [hpending], rfl, rfl, rfl⟩
  | expire nowNs =>
    refine Or.inr ⟨[], (self.expire nowNs).1, (self.expire nowNs).2.pending, ?_, rfl, ?_, ?_⟩
    · exact (expireFront_spec self.maxHoldNs nowNs self.pending).1.symm
    · simp [entries, accepted, List.filterMap_map, Function.comp_def, Entry.accepted?]
    · simp [entries, taken, expired, List.filterMap_map, Function.comp_def, Entry.taken?,
        Entry.expired?]

/-- Every accepted item is in one place, and the guard is at least as high as
all of them. -/
structure Custody (capacity : Nat) (maxHoldNs : UInt64) (queue : AnchorAuHoldQueue T)
    (log : List (Entry T)) : Prop where
  room : queue.capacity = capacity
  patience : queue.maxHoldNs = maxHoldNs
  bounded : queue.pending.length ≤ capacity
  increasing : (accepted log).Pairwise fun item later => item.ptsNs < later.ptsNs
  guarded : ∀ item ∈ accepted log, ∃ last ∈ queue.lastPtsNs, item.ptsNs ≤ last
  order : queue.pending.Sublist (accepted log)
  conserved : (accepted log).Perm (queue.pending ++ (taken log ++ expired log))

namespace Custody

variable {capacity : Nat} {maxHoldNs : UInt64} {queue : AnchorAuHoldQueue T}
  {log : List (Entry T)}

theorem accept (h : Custody capacity maxHoldNs queue log) {item : PendingAnchorAu T}
    (hnewer : queue.Newer item) (hroom : queue.pending.length ≠ queue.capacity) :
    Custody capacity maxHoldNs
      { queue with lastPtsNs := some item.ptsNs, pending := queue.pending ++ [item] }
      (log ++ [.accepted item]) := by
  refine ⟨h.room, h.patience, ?_, ?_, ?_, ?_, ?_⟩
  · have hbounded := h.bounded
    rw [h.room] at hroom
    rw [List.length_append, List.length_singleton]
    omega
  · rw [accepted_append, accepted_singleton]
    refine List.pairwise_append.mpr ⟨h.increasing, List.pairwise_singleton _ _, ?_⟩
    intro earlier hearlier new hnew
    obtain ⟨last, hlast, hle⟩ := h.guarded earlier hearlier
    rw [List.mem_singleton.mp hnew]
    exact UInt64.lt_of_le_of_lt hle (hnewer.2 last hlast)
  · intro other hother
    refine ⟨item.ptsNs, rfl, ?_⟩
    rw [accepted_append, accepted_singleton] at hother
    rcases List.mem_append.mp hother with hearlier | hnew
    · obtain ⟨last, hlast, hle⟩ := h.guarded other hearlier
      exact UInt64.le_trans hle (UInt64.le_of_lt (hnewer.2 last hlast))
    · rw [List.mem_singleton.mp hnew]
      exact UInt64.le_refl _
  · rw [accepted_append, accepted_singleton]
    exact h.order.append (List.Sublist.refl _)
  · have hconserved := Multiset.coe_eq_coe.mpr h.conserved
    rw [← Multiset.coe_eq_coe]
    simp only [accepted_append, taken_append, expired_append, accepted_singleton, taken_accepted,
      expired_accepted, List.append_nil, ← Multiset.coe_add] at hconserved ⊢
    rw [hconserved]
    abel

/-- Items are given out, by `take` or by `expire`. -/
theorem release (h : Custody capacity maxHoldNs queue log)
    {before gone after : List (PendingAnchorAu T)} (hpending : queue.pending = before ++ gone ++ after)
    {later : List (Entry T)} (hnone : accepted later = [])
    (hgone : taken later ++ expired later = gone) :
    Custody capacity maxHoldNs { queue with pending := before ++ after } (log ++ later) := by
  have haccepted : accepted (log ++ later) = accepted log := by
    rw [accepted_append, hnone, List.append_nil]
  have hfewer : (before ++ after).Sublist queue.pending := by
    rw [hpending]
    exact (List.sublist_append_left before gone).append (List.Sublist.refl after)
  refine ⟨h.room, h.patience, hfewer.length_le.trans h.bounded, ?_, ?_, ?_, ?_⟩
  · rw [haccepted]
    exact h.increasing
  · rw [haccepted]
    exact h.guarded
  · rw [haccepted]
    exact hfewer.trans h.order
  · have hconserved := Multiset.coe_eq_coe.mpr h.conserved
    rw [← Multiset.coe_eq_coe]
    simp only [haccepted, hpending, ← hgone, taken_append, expired_append,
      ← Multiset.coe_add] at hconserved ⊢
    rw [hconserved]
    abel

theorem step (h : Custody capacity maxHoldNs queue log) (action : Action T) :
    Custody capacity maxHoldNs (queue.step action) (log ++ queue.entries action) := by
  rcases step_cases queue action with ⟨item, hentries, hnewer, hroom, hstep⟩ |
    ⟨before, gone, after, hpending, hstep, hnone, hgone⟩
  · rw [hentries, hstep]
    exact h.accept hnewer hroom
  · rw [hstep]
    exact h.release hpending hnone hgone

theorem run {start : AnchorAuHoldQueue T} (hnew : new capacity maxHoldNs = .ok start)
    (actions : List (Action T)) :
    Custody capacity maxHoldNs (Lib.run AnchorAuHoldQueue.step start actions)
      (outputs AnchorAuHoldQueue.step entries start actions) := by
  have hstart : Custody capacity maxHoldNs start [] := by
    unfold new at hnew
    split at hnew
    · cases hnew
    · obtain rfl := Except.ok.inj hnew
      exact ⟨rfl, rfl, Nat.zero_le _, List.Pairwise.nil, by simp [accepted],
        List.Sublist.refl _, List.Perm.refl _⟩
  exact run_outputs_invariant' (fun queue log action h => h.step action) hstart actions

end Custody

/-! ## Single calls in any state -/

/-- `take` returns an item exactly when one with the PTS is pending. -/
theorem take_isSome_iff (self : AnchorAuHoldQueue T) (ptsNs : UInt64) :
    (self.take ptsNs).1.isSome ↔ ∃ item ∈ self.pending, item.ptsNs = ptsNs := by
  rcases take_cases self ptsNs with ⟨hnone, htake⟩ | ⟨before, item, after, hpending, hpts, htake⟩
  · rw [htake]
    simpa using hnone
  · rw [htake]
    exact iff_of_true rfl ⟨item, by simp [hpending], hpts⟩

theorem take_eq_some {ptsNs : UInt64} (h : (self.take ptsNs).1 = some item) :
    item ∈ self.pending ∧ item.ptsNs = ptsNs := by
  rcases take_cases self ptsNs with ⟨_, htake⟩ | ⟨before, found, after, hpending, hpts, htake⟩
  · rw [htake] at h
    cases h
  · rw [htake] at h
    obtain rfl := Option.some.inj h
    exact ⟨by simp [hpending], hpts⟩

theorem expire_overdue (self : AnchorAuHoldQueue T) (nowNs : UInt64) :
    ∀ item ∈ (self.expire nowNs).1, Overdue self.maxHoldNs nowNs item :=
  (expireFront_spec self.maxHoldNs nowNs self.pending).2.1

/-- If items were inserted in the order of time, nothing overdue stays. -/
theorem expire_complete
    (hordered : self.pending.Pairwise fun item later => item.insertedAtNs ≤ later.insertedAtNs)
    (nowNs : UInt64) :
    ∀ item ∈ (self.expire nowNs).2.pending, ¬ Overdue self.maxHoldNs nowNs item := by
  obtain ⟨hsplit, _, hyoung⟩ := expireFront_spec self.maxHoldNs nowNs self.pending
  rw [← hsplit] at hordered
  have hleft := (List.pairwise_append.mp hordered).2.1
  show ∀ item ∈ (expireFront self.maxHoldNs nowNs self.pending).2, _
  cases hlist : (expireFront self.maxHoldNs nowNs self.pending).2 with
  | nil => simp
  | cons front rest =>
    rw [hlist] at hleft hyoung
    have hfront := hyoung front rfl
    refine List.forall_mem_cons.mpr ⟨hfront, fun item hmem hoverdue => hfront ?_⟩
    have hle : front.insertedAtNs.toNat ≤ item.insertedAtNs.toNat :=
      List.rel_of_pairwise_cons hleft hmem
    unfold Overdue at hoverdue ⊢
    omega

/-- Whether a call may take an item in. -/
def Action.isPush : Action T → Bool
  | .push _ => true
  | _ => false

/-- Giving items out leaves the guard alone. -/
theorem step_of_not_push (self : AnchorAuHoldQueue T) {action : Action T} (h : ¬ action.isPush) :
    (self.step action).lastPtsNs = self.lastPtsNs ∧
      (self.step action).capacity = self.capacity := by
  cases action with
  | push item => exact absurd rfl h
  | take ptsNs =>
    rcases take_cases self ptsNs with ⟨_, htake⟩ | ⟨before, item, after, _, _, htake⟩
    · rw [step, htake]
      exact ⟨rfl, rfl⟩
    · rw [step, htake]
      exact ⟨rfl, rfl⟩
  | expire nowNs => exact ⟨rfl, rfl⟩

/-- A PTS that was refused for lack of room is accepted once items were given
out. -/
theorem retry_succeeds {retry : PendingAnchorAu T}
    (hrefused : self.push item = .error .holdCapacity) (hsame : retry.ptsNs = item.ptsNs)
    {releases : List (Action T)} (hreleases : ∀ action ∈ releases, ¬ action.isPush)
    (hroom : (run step self releases).pending.length ≠ self.capacity) :
    ∃ after, (run step self releases).push retry = .ok after := by
  have hguard : (run step self releases).lastPtsNs = self.lastPtsNs ∧
      (run step self releases).capacity = self.capacity := by
    have hkeeps : ∀ (queue : AnchorAuHoldQueue T) action,
        (queue.lastPtsNs = self.lastPtsNs ∧ queue.capacity = self.capacity) → ¬ action.isPush →
        (queue.step action).lastPtsNs = self.lastPtsNs ∧
          (queue.step action).capacity = self.capacity := by
      rintro queue action ⟨hlast, hcapacity⟩ hrelease
      obtain ⟨hlast', hcapacity'⟩ := step_of_not_push queue hrelease
      exact ⟨hlast'.trans hlast, hcapacity'.trans hcapacity⟩
    have hmeets : Meets step (fun _ action => ¬ action.isPush) self releases :=
      meets_of_forall_split fun before action after hsplit => hreleases action (by simp [hsplit])
    exact run_invariant hkeeps ⟨rfl, rfl⟩ hmeets
  have hnewer : self.Newer item := by
    rcases push_cases self item with ⟨_, hpush⟩ | ⟨hnewer, _⟩ | ⟨hnewer, _⟩
    · cases hrefused.symm.trans hpush
    · exact hnewer
    · exact hnewer
  have hretry : (run step self releases).Newer retry := by
    unfold Newer
    rw [hguard.1, hsame]
    exact hnewer
  rcases push_cases (run step self releases) retry with ⟨hold, _⟩ | ⟨_, hfull, _⟩ | ⟨_, _, hpush⟩
  · exact absurd hretry hold
  · exact absurd (hfull.trans hguard.2) hroom
  · exact ⟨_, hpush⟩

/-- What holds of the queue after any run. -/
structure Conserves (capacity : Nat) (queue : AnchorAuHoldQueue T)
    (log : List (Entry T)) : Prop where
  bounded : queue.pending.length ≤ capacity
  increasing : queue.pending.Pairwise fun item later => item.ptsNs < later.ptsNs
  monotonic : (accepted log).Pairwise fun item later => item.ptsNs < later.ptsNs
  conserved : (accepted log).Perm (queue.pending ++ (taken log ++ expired log))
  refused : ∀ item error, queue.push item = .error error → queue.step (.push item) = queue
  retried : ∀ item retry releases, queue.push item = .error .holdCapacity →
    retry.ptsNs = item.ptsNs → (∀ action ∈ releases, ¬ action.isPush) →
    (run step queue releases).pending.length ≠ capacity →
    ∃ after, (run step queue releases).push retry = .ok after
  found : ∀ ptsNs, (queue.take ptsNs).1.isSome ↔ ∃ item ∈ queue.pending, item.ptsNs = ptsNs
  taken : ∀ ptsNs item, (queue.take ptsNs).1 = some item →
    item ∈ queue.pending ∧ item.ptsNs = ptsNs
  overdue : ∀ nowNs, ∀ item ∈ (queue.expire nowNs).1, Overdue queue.maxHoldNs nowNs item
  complete : ((accepted log).Pairwise fun item later => item.insertedAtNs ≤ later.insertedAtNs) →
    ∀ nowNs, ∀ item ∈ (queue.expire nowNs).2.pending, ¬ Overdue queue.maxHoldNs nowNs item

/-- The hold queue conserves access units. -/
theorem hold_queue_conserves (capacity : Nat) (maxHoldNs : UInt64) (start : AnchorAuHoldQueue T)
    (hnew : new capacity maxHoldNs = .ok start) (actions : List (Action T)) :
    (run step start actions).maxHoldNs = maxHoldNs ∧
      Conserves capacity (run step start actions) (outputs step entries start actions) := by
  have hcustody := Custody.run hnew actions
  refine ⟨hcustody.patience, hcustody.bounded, hcustody.increasing.sublist hcustody.order,
    hcustody.increasing, hcustody.conserved, ?_, ?_, take_isSome_iff _, ?_,
    expire_overdue _, ?_⟩
  · exact fun item error herror => (step_push_of_error herror).1
  · intro item retry releases hrefused hsame hreleases hroom
    rw [← hcustody.room] at hroom
    exact retry_succeeds hrefused hsame hreleases hroom
  · exact fun ptsNs item hitem => take_eq_some hitem
  · exact fun htimes => expire_complete (htimes.sublist hcustody.order)

/-- The second unit does not fit and is offered again. -/
theorem hold_queue_conserves_retry :
    ∃ start : AnchorAuHoldQueue Nat, new 1 5 = .ok start ∧
      Conserves 1
        (run step start
          [.push ⟨10, 1, 0, 1, 0⟩, .push ⟨20, 2, 1, 2, 0⟩, .take 10, .push ⟨20, 2, 1, 3, 0⟩])
        (outputs step entries start
          [.push ⟨10, 1, 0, 1, 0⟩, .push ⟨20, 2, 1, 2, 0⟩, .take 10, .push ⟨20, 2, 1, 3, 0⟩]) :=
  ⟨⟨1, 5, none, []⟩, rfl, (hold_queue_conserves 1 5 _ rfl _).2⟩

end AnchorAuHoldQueue

end RobotMulticam.Edge
