import Mathlib

/-!
# The longest admissible suffix of a log

A queue that drops its oldest items while the next one does not fit keeps the
longest admissible suffix of everything it took, provided that every part of
an admissible list is admissible: what was dropped for one item cannot be
part of an admissible suffix that ends in a later one.
-/

namespace RobotMulticam.Lib

variable {α : Type}

/-- The longest suffix of a log that satisfies `P`. -/
structure Longest (P : List α → Prop) (log kept : List α) : Prop where
  suffix : kept <:+ log
  admissible : P kept
  longest : ∀ other, other <:+ log → P other → other <:+ kept

theorem longest_nil {P : List α → Prop} (h : P []) : Longest P [] [] :=
  ⟨List.suffix_rfl, h, fun _ hother _ => hother⟩

/-- Drops from the front until the rest fits, or nothing is left. -/
def shrink (fits : List α → Prop) [DecidablePred fits] : List α → List α
  | [] => []
  | item :: rest => if fits (item :: rest) then item :: rest else shrink fits rest

section Shrink

variable {fits : List α → Prop} [DecidablePred fits]

theorem shrink_suffix (items : List α) : shrink fits items <:+ items := by
  induction items with
  | nil => exact List.suffix_rfl
  | cons item rest ih =>
    rw [shrink]
    split
    · exact List.suffix_rfl
    · exact ih.trans (List.suffix_cons item rest)

theorem shrink_fits (hempty : fits []) (items : List α) : fits (shrink fits items) := by
  induction items with
  | nil => exact hempty
  | cons item rest ih =>
    rw [shrink]
    split
    · assumption
    · exact ih

/-- Nothing that fits is dropped. -/
theorem suffix_shrink {items other : List α} (hsuffix : other <:+ items) (hfits : fits other) :
    other <:+ shrink fits items := by
  induction items with
  | nil => exact hsuffix
  | cons item rest ih =>
    rw [shrink]
    split
    · exact hsuffix
    · rename_i hwhole
      rcases List.suffix_cons_iff.mp hsuffix with rfl | hshorter
      · exact absurd hfits hwhole
      · exact ih hshorter

end Shrink

/-- Taking one item more. -/
theorem Longest.concat {P : List α → Prop} [DecidablePred P]
    (hereditary : ∀ part whole : List α, part.Sublist whole → P whole → P part)
    {log kept : List α} (h : Longest P log kept) {item : α} (hitem : P [item]) :
    Longest P (log ++ [item]) (shrink (fun older => P (older ++ [item])) kept ++ [item]) := by
  have hconcat : ∀ part whole : List α, part <:+ whole → part ++ [item] <:+ whole ++ [item] := by
    rintro part whole ⟨front, rfl⟩
    exact ⟨front, (List.append_assoc front part [item]).symm⟩
  refine ⟨?_, @shrink_fits α (fun older => P (older ++ [item])) _ hitem kept, ?_⟩
  · exact hconcat _ _ ((shrink_suffix kept).trans h.suffix)
  · intro other hother hadmissible
    rcases List.suffix_concat_iff.mp hother with rfl | ⟨older, rfl, holder⟩
    · exact List.nil_suffix
    · have hpart : P older :=
        hereditary older _ (List.sublist_append_left older [item]) hadmissible
      exact hconcat _ _ (suffix_shrink (h.longest older holder hpart) hadmissible)

end RobotMulticam.Lib
