import RobotMulticam.Lib.Outcome

/-!
# Calls that return normally

`Returns` holds of a call that ended with a value or with an error, so that
no access in it was out of bounds. It composes: `returns_bind` asks of each
stage only that it returns on the values the stage before it can give.
-/

namespace RobotMulticam.Lib

/-- The call did not panic. -/
def Returns {ε α : Type} (result : Outcome ε α) : Prop := result ≠ panicked

/-- `items[position]`, which panics outside the list. -/
def getAt {ε α : Type} (items : List α) (position : Nat) : Outcome ε α :=
  (items[position]?).elim panicked .ok

variable {ε α β : Type}

theorem getAt_of_lt {items : List α} {position : Nat} (h : position < items.length) :
    (getAt items position : Outcome ε α) = .ok items[position] := by
  rw [getAt, List.getElem?_eq_getElem h]
  rfl

@[simp] theorem returns_ok (value : α) : Returns (.ok value : Outcome ε α) := by
  simp [Returns, panicked]

@[simp] theorem returns_fail (error : ε) : Returns (fail error : Outcome ε α) := by
  simp [Returns, panicked, fail]

@[simp] theorem returns_okOr (error : ε) (option : Option α) : Returns (okOr error option) := by
  cases option with
  | none => exact returns_fail error
  | some value => exact returns_ok value

theorem returns_slice {items : List α} {begin finish : Nat} (ordered : begin ≤ finish)
    (inside : finish ≤ items.length) : Returns (slice items begin finish : Outcome ε (List α)) := by
  rw [slice_of_le ordered inside]
  exact returns_ok _

theorem returns_bind {first : Outcome ε α} {next : α → Outcome ε β} (hfirst : Returns first)
    (hnext : ∀ value, first = .ok value → Returns (next value)) : Returns (first >>= next) := by
  cases first with
  | ok value => exact hnext value rfl
  | error fault =>
    intro hpanic
    apply hfirst
    cases hpanic
    rfl

theorem returns_error {fault : Fault ε} (h : Returns (.error fault : Outcome ε α)) :
    Returns (.error fault : Outcome ε β) := by
  intro hpanic
  cases hpanic
  exact h rfl

end RobotMulticam.Lib
