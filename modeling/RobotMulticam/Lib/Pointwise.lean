import RobotMulticam.Lib.Outcome

/-!
# Lists related member by member

A fallible function mapped over a list succeeds when it succeeds on every
member, and then results and members are related pointwise. What follows from
such a relation for the two lists as wholes is stated here once.
-/

namespace RobotMulticam.Lib

variable {α β γ ε : Type}

/-- A mapped function returns the pointwise results. -/
theorem mapM_eq_ok {f : α → Except ε β} {items : List α} {results : List β} :
    items.mapM f = .ok results ↔
      List.Forall₂ (fun item result => f item = .ok result) items results := by
  induction items generalizing results with
  | nil =>
    rw [List.mapM_nil, List.forall₂_nil_left_iff]
    exact ⟨fun h => (Except.ok.inj h).symm, fun h => congrArg _ h.symm⟩
  | cons item items ih =>
    rw [List.mapM_cons, bind_eq_ok, List.forall₂_cons_left_iff]
    constructor
    · rintro ⟨result, hresult, h⟩
      obtain ⟨rest, hrest, h⟩ := bind_eq_ok.mp h
      cases h
      exact ⟨result, rest, hresult, ih.mp hrest, rfl⟩
    · rintro ⟨result, rest, hresult, hrest, rfl⟩
      exact ⟨result, hresult, bind_eq_ok.mpr ⟨rest, ih.mpr hrest, rfl⟩⟩

section Related

variable {R : α → β → Prop} {first : List α} {second : List β}

/-- The same holds of all members of two related lists. -/
theorem forall_mem_iff_of_forall₂ (h : List.Forall₂ R first second) {P : α → Prop} {Q : β → Prop}
    (hiff : ∀ left right, R left right → (P left ↔ Q right)) :
    (∀ left ∈ first, P left) ↔ ∀ right ∈ second, Q right := by
  induction h with
  | nil => simp
  | cons hhead _ ih => simp [ih, hiff _ _ hhead]

/-- What related members have in common, the lists have in common. -/
theorem map_eq_of_forall₂ (h : List.Forall₂ R first second) {f : α → γ} {g : β → γ}
    (hsame : ∀ left right, R left right → g right = f left) : second.map g = first.map f := by
  induction h with
  | nil => rfl
  | cons hhead _ ih => rw [List.map_cons, List.map_cons, ih, hsame _ _ hhead]

/-- Every item of the first list has a partner. -/
theorem exists_mem_of_forall₂ (h : List.Forall₂ R first second) {left : α} (hleft : left ∈ first) :
    ∃ right ∈ second, R left right := by
  induction h with
  | nil => cases hleft
  | cons hhead _ ih =>
    rcases List.mem_cons.mp hleft with rfl | hlater
    · exact ⟨_, List.mem_cons_self, hhead⟩
    · obtain ⟨right, hright, hrelated⟩ := ih hlater
      exact ⟨right, List.mem_cons_of_mem _ hright, hrelated⟩

/-- Two relations in a row. -/
theorem forall₂_trans {S : β → γ → Prop} {T : α → γ → Prop} {third : List γ}
    (h : List.Forall₂ R first second) (h' : List.Forall₂ S second third)
    (htrans : ∀ left mid right, R left mid → S mid right → T left right) :
    List.Forall₂ T first third := by
  induction h generalizing third with
  | nil =>
    cases h'
    exact .nil
  | cons hhead _ ih =>
    cases h' with
    | cons hhead' htail' => exact .cons (htrans _ _ _ hhead hhead') (ih htail')

end Related

/-- A change of one item keeps what holds of all, if it keeps it of that one. -/
theorem forall_mem_modify {α : Type} {P : α → Prop} {items : List α} {f : α → α} {index : Nat}
    (h : ∀ item ∈ items, P item) (hf : ∀ item, P item → P (f item)) :
    ∀ item ∈ items.modify index f, P item := by
  intro item hitem
  obtain ⟨place, hplace⟩ := List.mem_iff_getElem?.mp hitem
  rw [List.getElem?_modify, Option.map_eq_map, Option.map_eq_some_iff] at hplace
  obtain ⟨before, hbefore, rfl⟩ := hplace
  have hsound := h before (List.mem_of_getElem? hbefore)
  split
  · exact hf before hsound
  · exact hsound

end RobotMulticam.Lib
