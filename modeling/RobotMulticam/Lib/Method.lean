import RobotMulticam.Lib.Outcome

/-!
# Methods on locked state

A Rust method that locks a value and works on it in place is a computation
whose writes survive an error: `?` leaves the method with the state as it is
at that point. `Method ε σ α` keeps the state on every exit, so that "an
error leaves the state unchanged" is a statement about the order of checks
and writes and not a property of the type.

`settled` is the other reading, for functions that return the next state
only when they succeed.
-/

namespace RobotMulticam.Lib

abbrev Method (ε σ α : Type) := ExceptT (Fault ε) (StateM σ) α

namespace Method

variable {ε σ τ α β : Type}

/-- A call that does not touch the state. -/
def attempt (outcome : Outcome ε α) : Method ε σ α := fun state => (outcome, state)

/-- Runs a method on one field of the state. -/
def within (field : σ → τ) (write : σ → τ → σ) (body : Method ε τ α) : Method ε σ α :=
  fun state => ((body (field state)).1, write state (body (field state)).2)

/-- The exit of a function that returns the next state only on success. -/
def settled (state : σ) : Outcome ε (α × σ) → Outcome ε α × σ
  | .error fault => (.error fault, state)
  | .ok (value, next) => (.ok value, next)

variable {first : Method ε σ α} {next : α → Method ε σ β} {state mid : σ}
  {handler : Fault ε → Method ε σ α}

theorem bind_of_ok {value : α} (h : first state = (.ok value, mid)) :
    (first >>= next) state = next value mid := by
  simp [bind, ExceptT.bind, ExceptT.mk, ExceptT.bindCont, StateT.bind, h]

/-- An error ends the method with the state it was raised in. -/
theorem bind_of_error {fault : Fault ε} (h : first state = (.error fault, mid)) :
    (first >>= next) state = (.error fault, mid) := by
  simp [bind, ExceptT.bind, ExceptT.mk, ExceptT.bindCont, StateT.bind, h]
  rfl

/-- A sequence returns a value exactly when both halves do. -/
theorem bind_eq_ok {after : σ} {value : β} :
    (first >>= next) state = (.ok value, after) ↔
      ∃ result mid, first state = (.ok result, mid) ∧ next result mid = (.ok value, after) := by
  rcases hfirst : first state with ⟨result, mid⟩
  cases result with
  | error fault =>
    rw [bind_of_error hfirst]
    constructor
    · intro h
      cases h
    · rintro ⟨_, _, h, _⟩
      cases h
  | ok result =>
    rw [bind_of_ok hfirst]
    constructor
    · intro h
      exact ⟨result, mid, rfl, h⟩
    · rintro ⟨_, _, h, hnext⟩
      cases h
      exact hnext

theorem tryCatch_of_ok {body : Method ε σ α} {value : α} (h : body state = (.ok value, mid)) :
    tryCatch body handler state = (.ok value, mid) := by
  simp [tryCatch, tryCatchThe, MonadExceptOf.tryCatch, ExceptT.tryCatch, ExceptT.mk, bind,
    StateT.bind, h]
  rfl

/-- A handler starts in the state the error was raised in. -/
theorem tryCatch_of_error {body : Method ε σ α} {fault : Fault ε}
    (h : body state = (.error fault, mid)) : tryCatch body handler state = handler fault mid := by
  simp [tryCatch, tryCatchThe, MonadExceptOf.tryCatch, ExceptT.tryCatch, ExceptT.mk, bind,
    StateT.bind, h]

theorem within_eq {field : σ → τ} {write : σ → τ → σ} {body : Method ε τ α} {result : Outcome ε α}
    {value : τ} (h : body (field state) = (result, value)) :
    within field write body state = (result, write state value) := by
  rw [within, h]

@[simp] theorem set_apply (next state : σ) :
    (set next : Method ε σ PUnit) state = (.ok (), next) := rfl

@[simp] theorem modify_apply (f : σ → σ) (state : σ) :
    (modify f : Method ε σ PUnit) state = (.ok (), f state) := rfl

@[simp] theorem throw_apply (fault : Fault ε) (state : σ) :
    (throw fault : Method ε σ α) state = (.error fault, state) := rfl

@[simp] theorem bind_get (next : σ → Method ε σ β) (state : σ) :
    ((get : Method ε σ σ) >>= next) state = next state state := bind_of_ok rfl

@[simp] theorem bind_set (next : PUnit → Method ε σ β) (new state : σ) :
    ((set new : Method ε σ PUnit) >>= next) state = next () new := bind_of_ok rfl

@[simp] theorem bind_modify (next : PUnit → Method ε σ β) (f : σ → σ) (state : σ) :
    ((modify f : Method ε σ PUnit) >>= next) state = next () (f state) := bind_of_ok rfl

@[simp] theorem bind_throw (next : α → Method ε σ β) (fault : Fault ε) (state : σ) :
    ((throw fault : Method ε σ α) >>= next) state = (.error fault, state) := bind_of_error rfl

@[simp] theorem bind_attempt_ok (next : α → Method ε σ β) (value : α) (state : σ) :
    ((attempt (.ok value) : Method ε σ α) >>= next) state = next value state := bind_of_ok rfl

@[simp] theorem bind_attempt_error (next : α → Method ε σ β) (fault : Fault ε) (state : σ) :
    ((attempt (.error fault) : Method ε σ α) >>= next) state = (.error fault, state) :=
  bind_of_error rfl

end Method

end RobotMulticam.Lib
