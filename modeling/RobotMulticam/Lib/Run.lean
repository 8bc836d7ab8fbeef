import Mathlib

/-!
# Runs of a step function

A component that only changes when one of its operations is called is a
step function `σ → α → σ`, and a run is a list of actions. Interleavings of
several callers are runs too: each action then names the caller that moves.

`Meets cond` says that every step of a run is taken from a state, and with
an action, that satisfy `cond`. The rules turn one lemma about one step into
a statement about every state and every step of a run.

`outputs emit` collects what the steps of a run give out, in order.
-/

namespace RobotMulticam.Lib

variable {σ α : Type} (step : σ → α → σ)

/-- The state a run ends in. -/
def run (start : σ) (actions : List α) : σ := actions.foldl step start

@[simp] theorem run_nil (start : σ) : run step start [] = start := rfl

@[simp] theorem run_cons (start : σ) (action : α) (actions : List α) :
    run step start (action :: actions) = run step (step start action) actions := rfl

@[simp] theorem run_append (start : σ) (before after : List α) :
    run step start (before ++ after) = run step (run step start before) after := by
  simp [run, List.foldl_append]

/-- Every step of the run is taken under `cond`. -/
def Meets (cond : σ → α → Prop) : σ → List α → Prop
  | _, [] => True
  | state, action :: actions =>
    cond state action ∧ Meets cond (step state action) actions

instance (cond : σ → α → Prop) [∀ state action, Decidable (cond state action)] :
    ∀ start actions, Decidable (Meets step cond start actions)
  | _, [] => isTrue trivial
  | state, action :: actions =>
    haveI := instDecidableMeets cond (step state action) actions
    inferInstanceAs (Decidable (cond state action ∧ Meets step cond (step state action) actions))

/-- What the steps of a run give out, in order. -/
def outputs {β : Type} (emit : σ → α → List β) : σ → List α → List β
  | _, [] => []
  | state, action :: actions => emit state action ++ outputs emit (step state action) actions

variable {step} {β : Type} {start : σ} {actions : List α} {cond : σ → α → Prop} {inv : σ → Prop}
  {emit : σ → α → List β}

theorem outputs_append {before after : List α} :
    outputs step emit start (before ++ after) =
      outputs step emit start before ++ outputs step emit (run step start before) after := by
  induction before generalizing start with
  | nil => rfl
  | cons action before ih => simp [outputs, ih]

/-- What is given out is given out by one of the steps. -/
theorem exists_of_mem_outputs {item : β} (h : item ∈ outputs step emit start actions) :
    ∃ before action after, actions = before ++ action :: after ∧
      item ∈ emit (run step start before) action := by
  induction actions generalizing start with
  | nil => cases h
  | cons action actions ih =>
    rcases List.mem_append.mp h with hnow | hlater
    · exact ⟨[], action, actions, rfl, hnow⟩
    · obtain ⟨before, other, after, rfl, hitem⟩ := ih hlater
      exact ⟨action :: before, other, after, rfl, hitem⟩

theorem meets_append {before after : List α} :
    Meets step cond start (before ++ after) ↔
      Meets step cond start before ∧ Meets step cond (run step start before) after := by
  induction before generalizing start with
  | nil => simp [Meets]
  | cons action before ih => simp [Meets, ih, and_assoc]

/-- A condition on every step of a run, at each place where it can be cut. -/
theorem meets_of_forall_split
    (h : ∀ before action after, actions = before ++ action :: after →
      cond (run step start before) action) :
    Meets step cond start actions := by
  induction actions generalizing start with
  | nil => trivial
  | cons action actions ih =>
    refine ⟨h [] action actions rfl, ih ?_⟩
    rintro before other after rfl
    exact h (action :: before) other after rfl

/-- What every step keeps under its condition, a run keeps. -/
theorem run_invariant
    (keeps : ∀ state action, inv state → cond state action → inv (step state action))
    (hstart : inv start) (hmeets : Meets step cond start actions) :
    inv (run step start actions) := by
  induction actions generalizing start with
  | nil => exact hstart
  | cons action actions ih =>
    exact ih (keeps start action hstart hmeets.1) hmeets.2

/-- A state invariant supplies a condition of every step. -/
theorem meets_of_invariant {goal : σ → α → Prop}
    (keeps : ∀ state action, inv state → cond state action → inv (step state action))
    (gives : ∀ state action, inv state → cond state action → goal state action) (hstart : inv start)
    (hmeets : Meets step cond start actions) : Meets step goal start actions := by
  induction actions generalizing start with
  | nil => trivial
  | cons action actions ih =>
    exact ⟨gives start action hstart hmeets.1,
      ih (keeps start action hstart hmeets.1) hmeets.2⟩

/-- The rule for what every step keeps without any condition. -/
theorem run_invariant' (keeps : ∀ state action, inv state → inv (step state action))
    (hstart : inv start) (actions : List α) : inv (run step start actions) := by
  induction actions generalizing start with
  | nil => exact hstart
  | cons action actions ih => exact ih (keeps start action hstart)

/-- A forward simulation: if another system answers every step with a run of
its own, it answers every run. -/
theorem run_simulates {τ : Type} {other : τ → β → τ} {related : σ → τ → Prop}
    {answers : α → List β → Prop}
    (answer : ∀ state image action, related state image →
      ∃ part, answers action part ∧ related (step state action) (run other image part))
    {image : τ} (hstart : related start image) (actions : List α) :
    ∃ parts, List.Forall₂ answers actions parts ∧
      related (run step start actions) (run other image parts.flatten) := by
  induction actions generalizing start image with
  | nil => exact ⟨[], .nil, hstart⟩
  | cons action actions ih =>
    obtain ⟨part, hpart, hnext⟩ := answer start image action hstart
    obtain ⟨parts, hparts, hrelated⟩ := ih hnext
    refine ⟨part :: parts, .cons hpart hparts, ?_⟩
    rw [run_cons, List.flatten_cons, run_append]
    exact hrelated

/-- The rule for what relates the state to everything given out so far. -/
theorem run_outputs_invariant {inv : σ → List β → Prop}
    (keeps : ∀ state given action, inv state given → cond state action →
      inv (step state action) (given ++ emit state action))
    {given : List β} (hstart : inv start given) (hmeets : Meets step cond start actions) :
    inv (run step start actions) (given ++ outputs step emit start actions) := by
  induction actions generalizing start given with
  | nil => simpa [outputs] using hstart
  | cons action actions ih =>
    rw [run_cons, outputs, ← List.append_assoc]
    exact ih (keeps start given action hstart hmeets.1) hmeets.2

/-- The same for what every step keeps without any condition. -/
theorem run_outputs_invariant' {inv : σ → List β → Prop}
    (keeps : ∀ state given action, inv state given →
      inv (step state action) (given ++ emit state action))
    (hstart : inv start []) (actions : List α) :
    inv (run step start actions) (outputs step emit start actions) := by
  have hmeets : Meets step (fun _ _ => True) start actions :=
    meets_of_forall_split fun _ _ _ _ => trivial
  have hall := run_outputs_invariant (fun state given action h _ => keeps state given action h)
    hstart hmeets
  rwa [List.nil_append] at hall

end RobotMulticam.Lib
