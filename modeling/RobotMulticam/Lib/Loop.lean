import RobotMulticam.Lib.Outcome

/-!
# Loops that stop at an error

A loop over a list whose turns can fail is `foldlM` in `Except`. Its invariant
`inv done state` speaks about the items done so far and the state they led
to. The rules turn one lemma about one turn into a statement about the loop:

* `loop_invariant`: what every successful turn keeps holds of all items when
  the loop succeeds.
* `loop_succeeds`: if no turn fails while the invariant holds, the loop
  succeeds.

A loop with a condition may run forever. `whileLoop` runs it for a number of
turns and says nothing if it is still running then; `whileLoop_follow` follows
it along states that are known beforehand.
-/

namespace RobotMulticam.Lib

variable {σ α ε : Type} (inv : List α → σ → Prop) {turn : σ → α → Except ε σ}
  {items : List α} {start : σ}

theorem loop_invariant
    (keeps : ∀ done item state next, inv done state → turn state item = .ok next →
      inv (done ++ [item]) next)
    (hstart : inv [] start) {after : σ} (h : items.foldlM turn start = .ok after) :
    inv items after := by
  induction items using List.reverseRecOn generalizing after with
  | nil =>
    cases h
    exact hstart
  | append_singleton items item ih =>
    rw [List.foldlM_append] at h
    -- the last turn starts where the loop over the others ended
    obtain ⟨state, hstate, hlast⟩ := bind_eq_ok.mp h
    simp only [List.foldlM_cons, List.foldlM_nil, bind_pure] at hlast
    exact keeps items item state after (ih hstate) hlast

theorem loop_succeeds
    (succeeds : ∀ done item rest state, items = done ++ item :: rest → inv done state →
      ∃ next, turn state item = .ok next ∧ inv (done ++ [item]) next)
    (hstart : inv [] start) : ∃ after, items.foldlM turn start = .ok after ∧ inv items after := by
  induction items using List.reverseRecOn with
  | nil => exact ⟨start, rfl, hstart⟩
  | append_singleton items item ih =>
    obtain ⟨state, hstate, hinv⟩ := ih fun done next rest state hitems =>
      succeeds done next (rest ++ [item]) state (by simp [hitems])
    obtain ⟨after, hafter, hall⟩ := succeeds items item [] state rfl hinv
    refine ⟨after, ?_, hall⟩
    rw [List.foldlM_append, bind_eq_ok]
    exact ⟨state, hstate, by simpa using hafter⟩

/-! ## Loops with a condition -/

def whileLoop (guard : σ → Bool) (body : σ → Except ε σ) : ℕ → σ → Option (Except ε σ)
  | 0, _ => none
  | turns + 1, state =>
    if guard state then
      match body state with
      | .error error => some (.error error)
      | .ok next => whileLoop guard body turns next
    else some (.ok state)

section
variable {guard : σ → Bool} {body : σ → Except ε σ} {count : ℕ}

theorem whileLoop_follow (state : ℕ → σ)
    (h : ∀ turn < count, guard (state turn) = true ∧ body (state turn) = .ok (state (turn + 1)))
    (turns : ℕ) :
    whileLoop guard body (count + turns) (state 0) = whileLoop guard body turns (state count) := by
  induction count generalizing state with
  | zero => rw [Nat.zero_add]
  | succ count ih =>
    obtain ⟨hguard, hbody⟩ := h 0 (Nat.succ_pos count)
    rw [Nat.add_right_comm, whileLoop, if_pos hguard, hbody]
    exact ih (fun turn => state (turn + 1)) fun turn hturn => h (turn + 1) (by omega)

end

end RobotMulticam.Lib
