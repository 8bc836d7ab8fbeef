import RobotMulticam.Lib.Method

/-!
# Pre- and postconditions of methods

`Triple pre body post stop` says what a method does from every state with
`pre`: when it returns a value, the value and the state satisfy `post`, and
when it ends with an error or a panic, the state it leaves satisfies `stop`.
The second postcondition is needed because writes survive an error.

There is one rule for each way to build a method. The rule for a loop has an
invariant over the items that are done and the results they gave.
-/

namespace RobotMulticam.Lib.Method

variable {ε σ α β : Type}

structure Triple (pre : σ → Prop) (body : Method ε σ α) (post : α → σ → Prop)
    (stop : σ → Prop) : Prop where
  ok : ∀ {state value after}, pre state → body state = (.ok value, after) → post value after
  error : ∀ {state fault after}, pre state → body state = (.error fault, after) → stop after

namespace Triple

variable {pre : σ → Prop} {stop : σ → Prop}

theorem bind {first : Method ε σ α} {next : α → Method ε σ β} (mid : α → σ → Prop)
    {post : β → σ → Prop} (hfirst : Triple pre first mid stop)
    (hnext : ∀ value, Triple (mid value) (next value) post stop) :
    Triple pre (first >>= next) post stop where
  ok := by
    intro state value after hpre h
    obtain ⟨result, between, hresult, hrest⟩ := bind_eq_ok.mp h
    exact (hnext result).ok (hfirst.ok hpre hresult) hrest
  error := by
    intro state fault after hpre h
    rcases hresult : first state with ⟨result, between⟩
    cases result with
    | error early =>
      rw [bind_of_error hresult] at h
      cases h
      exact hfirst.error hpre hresult
    | ok result =>
      rw [bind_of_ok hresult] at h
      exact (hnext result).error (hfirst.ok hpre hresult) h

variable {post : α → σ → Prop}

theorem consequence {body : Method ε σ α} {pre' stop' : σ → Prop} {post' : α → σ → Prop}
    (h : Triple pre body post stop) (hpre : ∀ state, pre' state → pre state)
    (hpost : ∀ value state, post value state → post' value state)
    (hstop : ∀ state, stop state → stop' state) : Triple pre' body post' stop' where
  ok hstate hbody := hpost _ _ (h.ok (hpre _ hstate) hbody)
  error hstate hbody := hstop _ (h.error (hpre _ hstate) hbody)

theorem pure {value : α} (h : ∀ state, pre state → post value state) :
    Triple pre (Pure.pure value : Method ε σ α) post stop where
  ok := by
    rintro state _ _ hpre ⟨⟩
    exact h state hpre
  error := by
    rintro _ _ _ _ ⟨⟩

theorem throw {fault : Fault ε} (h : ∀ state, pre state → stop state) :
    Triple pre (MonadExcept.throw fault : Method ε σ α) post stop where
  ok := by
    rintro _ _ _ _ ⟨⟩
  error := by
    rintro state _ _ hpre ⟨⟩
    exact h state hpre

theorem attempt {outcome : Outcome ε α}
    (hok : ∀ state value, pre state → outcome = .ok value → post value state)
    (herror : ∀ state, pre state → stop state) :
    Triple pre (Method.attempt outcome) post stop where
  ok := by
    rintro state value _ hpre ⟨⟩
    exact hok state value hpre rfl
  error := by
    rintro state _ _ hpre ⟨⟩
    exact herror state hpre

/-- A method that reads the state first. -/
theorem bind_get {next : σ → Method ε σ α}
    (h : ∀ start, pre start → Triple (· = start) (next start) post stop) :
    Triple pre (get >>= next) post stop where
  ok := by
    intro state value after hpre hbody
    rw [Method.bind_get] at hbody
    exact (h state hpre).ok rfl hbody
  error := by
    intro state fault after hpre hbody
    rw [Method.bind_get] at hbody
    exact (h state hpre).error rfl hbody

theorem write {f : σ → σ} {post : PUnit → σ → Prop} (h : ∀ state, pre state → post () (f state)) :
    Triple pre (modify f : Method ε σ PUnit) post stop where
  ok := by
    rintro state _ _ hpre ⟨⟩
    exact h state hpre
  error := by
    rintro _ _ _ _ ⟨⟩

theorem put {next : σ} {post : PUnit → σ → Prop} (h : ∀ state, pre state → post () next) :
    Triple pre (set next : Method ε σ PUnit) post stop where
  ok := by
    rintro state _ _ hpre ⟨⟩
    exact h state hpre
  error := by
    rintro _ _ _ _ ⟨⟩

theorem ite {cond : Prop} [Decidable cond] {yes no : Method ε σ α}
    (hyes : cond → Triple pre yes post stop) (hno : ¬ cond → Triple pre no post stop) :
    Triple pre (if cond then yes else no) post stop := by
  split
  · exact hyes ‹_›
  · exact hno ‹_›

/-- What depends on the state that a method starts in. -/
theorem of_states {body : Method ε σ α}
    (h : ∀ start, pre start → Triple (· = start) body post stop) :
    Triple pre body post stop where
  ok hpre hbody := (h _ hpre).ok rfl hbody
  error hpre hbody := (h _ hpre).error rfl hbody

/-- The rule for loops: `inv done results` holds after the items in `done`. -/
theorem mapM {items : List α} {turn : α → Method ε σ β} (inv : List α → List β → σ → Prop)
    (hturn : ∀ done results item rest, items = done ++ item :: rest →
      Triple (inv done results) (turn item)
        (fun result => inv (done ++ [item]) (results ++ [result])) stop) :
    Triple (inv [] []) (items.mapM turn) (inv items) stop := by
  suffices hsuffix : ∀ rest done results, items = done ++ rest →
      Triple (inv done results) (rest.mapM turn)
        (fun more => inv items (results ++ more)) stop by
    exact hsuffix items [] [] rfl
  intro rest
  induction rest with
  | nil =>
    intro done results hitems
    rw [List.append_nil] at hitems
    rw [List.mapM_nil, hitems]
    exact pure fun state hstate => by simpa using hstate
  | cons item rest ih =>
    intro done results hitems
    rw [List.mapM_cons]
    refine bind _ (hturn done results item rest hitems) fun result => ?_
    refine bind _ (ih (done ++ [item]) (results ++ [result]) (by simp [hitems])) fun more => ?_
    exact pure fun state hstate => by simpa using hstate

/-- The same for a loop that gives no results. -/
theorem forM {items : List α} {turn : α → Method ε σ PUnit} (inv : List α → σ → Prop)
    (hturn : ∀ done item rest, items = done ++ item :: rest →
      Triple (inv done) (turn item) (fun _ => inv (done ++ [item])) stop) :
    Triple (inv []) (items.forM turn) (fun _ => inv items) stop := by
  suffices hsuffix : ∀ rest done, items = done ++ rest →
      Triple (inv done) (rest.forM turn) (fun _ => inv items) stop by
    exact hsuffix items [] rfl
  intro rest
  induction rest with
  | nil =>
    intro done hitems
    rw [List.append_nil] at hitems
    rw [hitems]
    exact pure fun state hstate => hstate
  | cons item rest ih =>
    intro done hitems
    show Triple (inv done) (turn item >>= fun _ => rest.forM turn) _ stop
    exact bind _ (hturn done item rest hitems) fun _ => ih (done ++ [item]) (by simp [hitems])

end Triple

end RobotMulticam.Lib.Method
