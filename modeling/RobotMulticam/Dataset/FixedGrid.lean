import RobotMulticam.Lib.Loop

/-!
# Frames on a fixed grid

The dataset builder puts frames on a grid with a fixed period: each grid point
gets the frame nearest to it, and the export is refused when a frame would be
used twice or is too far away. The code does not check that the frames come
in order; it follows, because the nearest frame of a later grid point is never
an earlier one (`IsNearest.mono`).

The loop's states are known beforehand (`gridState`), so `whileLoop_follow`
takes it to its end or to the first grid point that is `Unusable`.
-/

namespace RobotMulticam.Dataset

open RobotMulticam.Lib

inductive GridError where
  | exportError (message : String)
  /-- `round` of something that is not a finite number. -/
  | rounding
  deriving DecidableEq

/-- What `fixed_grid_nearest` reads off `fps`: whether `fps <= 0`, and
`round(1_000_000_000 / fps)` if that does not raise. -/
structure FrameRate where
  atMostZero : Bool
  period : Option ℤ

structure GridState where
  grid : ℤ
  used : Finset ℕ
  selected : List ℕ
  deriving DecidableEq

/-- `abs(timestamps_ns[item] - grid)`. -/
def distance (timestamps : List ℤ) (grid : ℤ) (item : ℕ) : ℕ :=
  (timestamps.getD item 0 - grid).natAbs

/-- `min(range(len(timestamps_ns)), key=...)`, which takes the first of several
minima. -/
def nearest (timestamps : List ℤ) (grid : ℤ) : ℕ :=
  ((List.range timestamps.length).argmin (distance timestamps grid)).getD 0

/-- One turn of the loop. -/
def selectFrame (timestamps : List ℤ) (period tolerance : ℤ) (state : GridState) :
    Except GridError GridState :=
  let index := nearest timestamps state.grid
  if index ∈ state.used ∨ tolerance < distance timestamps state.grid index then
    .error (.exportError "fixed grid would reuse or synthesize a frame")
  else
    .ok {
      grid := state.grid + period
      used := insert index state.used
      selected := state.selected ++ [index] }

/-- The result of `fixed_grid_nearest` if its loop ends within `turns`. -/
def fixedGridNearest (turns : ℕ) (timestamps : List ℤ) (fps : FrameRate) (tolerance : ℤ) :
    Option (Except GridError (List ℕ)) :=
  if timestamps = [] ∨ fps.atMostZero ∨ tolerance < 0 then
    some (.error (.exportError "invalid fixed grid contract"))
  else
    match fps.period with
    | none => some (.error .rounding)
    | some period =>
      (whileLoop (fun state => decide (state.grid ≤ timestamps.getLastD 0))
        (selectFrame timestamps period tolerance) turns
        ⟨timestamps.headD 0, ∅, []⟩).map (·.map GridState.selected)

/-! ## The nearest frame -/

variable {timestamps : List ℤ} {index : ℕ}

theorem distance_eq (h : index < timestamps.length) (grid : ℤ) :
    (distance timestamps grid index : ℤ) = |timestamps[index] - grid| := by
  rw [distance, List.getD_eq_getElem _ _ h, Int.natCast_natAbs]

/-- The earliest of the frames that no other is closer than. -/
structure IsNearest (timestamps : List ℤ) (grid : ℤ) (index : ℕ) : Prop where
  bound : index < timestamps.length
  least : ∀ other < timestamps.length,
    distance timestamps grid index ≤ distance timestamps grid other
  earliest : ∀ other < index, distance timestamps grid index < distance timestamps grid other

theorem isNearest_nearest (h : timestamps ≠ []) (grid : ℤ) :
    IsNearest timestamps grid (nearest timestamps grid) := by
  have hsome : (List.range timestamps.length).argmin (distance timestamps grid) ≠ none := by
    simpa [List.argmin_eq_none] using h
  obtain ⟨index, hindex⟩ := Option.ne_none_iff_exists'.mp hsome
  have hnearest : nearest timestamps grid = index := by
    rw [nearest, hindex, Option.getD_some]
  obtain ⟨hmem, hleast, hfirst⟩ := List.argmin_eq_some_iff.mp hindex
  have hbound : index < timestamps.length := List.mem_range.mp hmem
  rw [hnearest]
  refine ⟨hbound, fun other hother => hleast other (List.mem_range.mpr hother), ?_⟩
  intro other hother
  have hrange : other < timestamps.length := hother.trans hbound
  by_contra hle
  have hposition := hfirst other (List.mem_range.mpr hrange) (not_lt.mp hle)
  have hplace : ∀ item < timestamps.length, (List.range timestamps.length).idxOf item = item := by
    intro item hitem
    have hget := (List.nodup_range (n := timestamps.length)).idxOf_getElem item
      (by rw [List.length_range]; exact hitem)
    rwa [List.getElem_range] at hget
  rw [hplace index hbound, hplace other hrange] at hposition
  exact absurd hother (not_lt.mpr hposition)

theorem IsNearest.unique {grid : ℤ} {other : ℕ} (h : IsNearest timestamps grid index)
    (hother : IsNearest timestamps grid other) : index = other := by
  rcases Nat.lt_trichotomy index other with hlt | heq | hgt
  · exact absurd (h.least other hother.bound) (not_le.mpr (hother.earliest index hlt))
  · exact heq
  · exact absurd (hother.least index h.bound) (not_le.mpr (h.earliest other hgt))

/-- A later grid point has no earlier frame. -/
theorem IsNearest.mono {grid later : ℤ} {next : ℕ} (hincreasing : timestamps.Pairwise (· < ·))
    (hgrid : grid ≤ later) (h : IsNearest timestamps grid index)
    (hnext : IsNearest timestamps later next) : index ≤ next := by
  by_contra hback
  have hlt : next < index := not_le.mp hback
  have htimes : timestamps.getD next 0 < timestamps.getD index 0 := by
    rw [List.getD_eq_getElem _ _ hnext.bound, List.getD_eq_getElem _ _ h.bound]
    exact List.pairwise_iff_getElem.mp hincreasing next index hnext.bound h.bound hlt
  -- the first grid point is behind the middle of the two frames, the second is not
  have hbehind := h.earliest next hlt
  have hbefore := hnext.least index h.bound
  unfold distance at hbehind hbefore
  omega

/-! ## The loop -/

section
variable (timestamps : List ℤ) (period tolerance : ℤ)

/-- The grid point of a turn. -/
def gridPoint (turn : ℕ) : ℤ := timestamps.headD 0 + turn * period

/-- The state before a turn, if the loop comes to it. -/
def gridState (turn : ℕ) : GridState where
  grid := gridPoint timestamps period turn
  used := (Finset.range turn).image fun earlier =>
    nearest timestamps (gridPoint timestamps period earlier)
  selected := (List.range turn).map fun earlier =>
    nearest timestamps (gridPoint timestamps period earlier)

/-- The frame of a turn is too far away, or is that of an earlier turn. -/
def Unusable (turn : ℕ) : Prop :=
  tolerance < distance timestamps (gridPoint timestamps period turn)
      (nearest timestamps (gridPoint timestamps period turn)) ∨
    ∃ earlier < turn, nearest timestamps (gridPoint timestamps period earlier) =
      nearest timestamps (gridPoint timestamps period turn)

theorem selectFrame_of_unusable {turn : ℕ} (h : Unusable timestamps period tolerance turn) :
    selectFrame timestamps period tolerance (gridState timestamps period turn) =
      .error (.exportError "fixed grid would reuse or synthesize a frame") := by
  refine if_pos ?_
  rcases h with hfar | ⟨earlier, hearlier, hsame⟩
  · exact Or.inr hfar
  · exact Or.inl (Finset.mem_image.mpr ⟨earlier, Finset.mem_range.mpr hearlier, hsame⟩)

theorem selectFrame_of_usable {turn : ℕ} (h : ¬Unusable timestamps period tolerance turn) :
    selectFrame timestamps period tolerance (gridState timestamps period turn) =
      .ok (gridState timestamps period (turn + 1)) := by
  have hfits : ¬(nearest timestamps (gridState timestamps period turn).grid ∈
        (gridState timestamps period turn).used ∨
      tolerance < distance timestamps (gridState timestamps period turn).grid
        (nearest timestamps (gridState timestamps period turn).grid)) := by
    rintro (hused | hfar)
    · obtain ⟨earlier, hearlier, hsame⟩ := Finset.mem_image.mp hused
      exact h (Or.inr ⟨earlier, Finset.mem_range.mp hearlier, hsame⟩)
    · exact h (Or.inl hfar)
  have hgrid : gridPoint timestamps period turn + period =
      gridPoint timestamps period (turn + 1) := by
    unfold gridPoint
    push_cast
    ring
  refine (if_neg hfits).trans ?_
  simp [gridState, hgrid, Finset.range_add_one, List.range_succ]

/-- The number of grid points. -/
def gridLength : ℕ :=
  ((timestamps.getLastD 0 - timestamps.headD 0) / period).toNat + 1

end

theorem gridPoint_le_iff {period : ℤ} (hperiod : 1 ≤ period)
    (hspan : timestamps.headD 0 ≤ timestamps.getLastD 0) (turn : ℕ) :
    gridPoint timestamps period turn ≤ timestamps.getLastD 0 ↔
      turn < gridLength timestamps period := by
  have hdiv : (turn : ℤ) ≤ (timestamps.getLastD 0 - timestamps.headD 0) / period ↔
      turn * period ≤ timestamps.getLastD 0 - timestamps.headD 0 :=
    Int.le_ediv_iff_mul_le (by omega)
  have hnonneg : 0 ≤ (timestamps.getLastD 0 - timestamps.headD 0) / period :=
    Int.ediv_nonneg (by omega) (by omega)
  unfold gridPoint gridLength
  omega

section
variable {timestamps : List ℤ} {fps : FrameRate} {period tolerance : ℤ}

theorem fixedGridNearest_eq_whileLoop (hnonempty : timestamps ≠ []) (hfps : fps.atMostZero = false)
    (hperiod : fps.period = some period) (htolerance : 0 ≤ tolerance) (turns : ℕ) :
    fixedGridNearest turns timestamps fps tolerance =
      (whileLoop (fun state => decide (state.grid ≤ timestamps.getLastD 0))
        (selectFrame timestamps period tolerance) turns
        (gridState timestamps period 0)).map (·.map GridState.selected) := by
  have hvalid : ¬(timestamps = [] ∨ fps.atMostZero = true ∨ tolerance < 0) := by
    simp [hnonempty, hfps, htolerance]
  have hstart : (⟨timestamps.headD 0, ∅, []⟩ : GridState) = gridState timestamps period 0 := by
    simp [gridState, gridPoint]
  rw [fixedGridNearest, if_neg hvalid, hperiod, hstart]

variable (hpositive : 1 ≤ period) (hspan : timestamps.headD 0 ≤ timestamps.getLastD 0)

include hpositive hspan

/-- The loop comes to a turn if the turns before it were usable. -/
theorem whileLoop_gridState {turn : ℕ} (hturn : turn ≤ gridLength timestamps period)
    (husable : ∀ earlier < turn, ¬Unusable timestamps period tolerance earlier) (turns : ℕ) :
    whileLoop (fun state => decide (state.grid ≤ timestamps.getLastD 0))
        (selectFrame timestamps period tolerance) (turn + turns) (gridState timestamps period 0) =
      whileLoop (fun state => decide (state.grid ≤ timestamps.getLastD 0))
        (selectFrame timestamps period tolerance) turns (gridState timestamps period turn) := by
  refine whileLoop_follow (gridState timestamps period) ?_ turns
  intro earlier hearlier
  refine ⟨decide_eq_true ?_, selectFrame_of_usable _ _ _ (husable earlier hearlier)⟩
  exact (gridPoint_le_iff hpositive hspan earlier).mpr (hearlier.trans_le hturn)

/-- The loop ends, with an error at the first turn that is unusable or with a
frame for each grid point. -/
theorem whileLoop_ends (tolerance : ℤ) :
    ∃ bound result, (∀ turns ≥ bound,
      whileLoop (fun state => decide (state.grid ≤ timestamps.getLastD 0))
        (selectFrame timestamps period tolerance) turns (gridState timestamps period 0) =
          some result) ∧
      ((∃ error, result = .error error) ∧
          (∃ turn < gridLength timestamps period, Unusable timestamps period tolerance turn) ∨
        result = .ok (gridState timestamps period (gridLength timestamps period)) ∧
          ∀ turn < gridLength timestamps period, ¬Unusable timestamps period tolerance turn) := by
  classical
  by_cases hunusable : ∃ turn < gridLength timestamps period,
      Unusable timestamps period tolerance turn
  · obtain ⟨hturn, hbad⟩ := Nat.find_spec hunusable
    have husable : ∀ earlier < Nat.find hunusable,
        ¬Unusable timestamps period tolerance earlier := fun earlier hearlier hearly =>
      Nat.find_min hunusable hearlier ⟨hearlier.trans hturn, hearly⟩
    have hguard : (gridState timestamps period (Nat.find hunusable)).grid ≤ timestamps.getLastD 0 :=
      (gridPoint_le_iff hpositive hspan _).mpr hturn
    refine ⟨Nat.find hunusable + 1, .error (.exportError
      "fixed grid would reuse or synthesize a frame"), ?_, Or.inl ⟨⟨_, rfl⟩, hunusable⟩⟩
    intro turns hturns
    obtain ⟨more, rfl⟩ := Nat.exists_eq_add_of_le hturns
    rw [Nat.add_assoc, Nat.add_comm 1 more,
      whileLoop_gridState hpositive hspan hturn.le husable, whileLoop,
      if_pos (decide_eq_true hguard), selectFrame_of_unusable _ _ _ hbad]
  · have husable : ∀ turn < gridLength timestamps period,
        ¬Unusable timestamps period tolerance turn := fun turn hturn hbad =>
      hunusable ⟨turn, hturn, hbad⟩
    refine ⟨gridLength timestamps period + 1, _, ?_, Or.inr ⟨rfl, husable⟩⟩
    intro turns hturns
    obtain ⟨more, rfl⟩ := Nat.exists_eq_add_of_le hturns
    rw [Nat.add_assoc, Nat.add_comm 1 more,
      whileLoop_gridState hpositive hspan le_rfl husable, whileLoop, if_neg]
    have hend := (gridPoint_le_iff hpositive hspan (gridLength timestamps period)).not.mpr
      (lt_irrefl _)
    simpa [gridState] using hend

omit hpositive hspan in
theorem unusable_iff (hnonempty : timestamps ≠ []) (turn : ℕ) :
    Unusable timestamps period tolerance turn ↔
      ∃ index, IsNearest timestamps (gridPoint timestamps period turn) index ∧
        (tolerance < distance timestamps (gridPoint timestamps period turn) index ∨
          ∃ earlier < turn, IsNearest timestamps (gridPoint timestamps period earlier) index) := by
  have hnearest := fun turn => isNearest_nearest hnonempty (gridPoint timestamps period turn)
  constructor
  · rintro (hfar | ⟨earlier, hearlier, hsame⟩)
    · exact ⟨_, hnearest turn, Or.inl hfar⟩
    · exact ⟨_, hnearest turn, Or.inr ⟨earlier, hearlier, hsame ▸ hnearest earlier⟩⟩
  · rintro ⟨index, hindex, hbad⟩
    obtain rfl := hindex.unique (hnearest turn)
    rcases hbad with hfar | ⟨earlier, hearlier, hsame⟩
    · exact Or.inl hfar
    · exact Or.inr ⟨earlier, hearlier, (hnearest earlier).unique hsame⟩

end

/-- The frames of usable turns come in order: no later turn has an earlier
frame, and none has the same. -/
theorem pairwise_selected {period tolerance : ℤ} (hnonempty : timestamps ≠ [])
    (hincreasing : timestamps.Pairwise (· < ·)) (hpositive : 1 ≤ period) {count : ℕ}
    (husable : ∀ turn < count, ¬Unusable timestamps period tolerance turn) :
    (gridState timestamps period count).selected.Pairwise (· < ·) := by
  refine List.pairwise_map.mpr (List.pairwise_lt_range.imp_of_mem ?_)
  intro turn later _ hlater hlt
  have hgrid : gridPoint timestamps period turn ≤ gridPoint timestamps period later := by
    have hmul : (turn : ℤ) * period ≤ later * period :=
      mul_le_mul_of_nonneg_right (by exact_mod_cast hlt.le) (by omega)
    unfold gridPoint
    omega
  have hmono := (isNearest_nearest hnonempty (gridPoint timestamps period turn)).mono
    hincreasing hgrid (isNearest_nearest hnonempty (gridPoint timestamps period later))
  refine lt_of_le_of_ne hmono ?_
  intro hsame
  exact husable later (List.mem_range.mp hlater) (Or.inr ⟨turn, hlt, hsame⟩)

theorem head_le_getLast (hnonempty : timestamps ≠ []) (hincreasing : timestamps.Pairwise (· < ·)) :
    timestamps.head hnonempty ≤ timestamps.getLast hnonempty := by
  cases timestamps with
  | nil => exact absurd rfl hnonempty
  | cons first rest =>
    rcases List.mem_cons.mp (List.getLast_mem hnonempty) with hfirst | hlater
    · exact hfirst.ge
    · exact (List.rel_of_pairwise_cons hincreasing hlater).le

/-- The loop ends. A list it returns has a frame for each grid point, in order,
each within the tolerance and nearest to its point. It raises exactly when the
earliest nearest frame of a grid point is too far away or already taken. -/
theorem fixed_grid_nearest_in_order (timestamps : List ℤ) (fps : FrameRate) (period tolerance : ℤ)
    (hnonempty : timestamps ≠ []) (hincreasing : timestamps.Pairwise (· < ·))
    (hfps : fps.atMostZero = false) (hperiod : fps.period = some period) (hpositive : 1 ≤ period)
    (htolerance : 0 ≤ tolerance) :
    ∃ bound result,
      (∀ turns ≥ bound, fixedGridNearest turns timestamps fps tolerance = some result) ∧
      (∀ selected, result = .ok selected →
        (selected.length : ℤ) =
          (timestamps.getLast hnonempty - timestamps.head hnonempty) / period + 1 ∧
        selected.Pairwise (· < ·) ∧
        ∀ (k : ℕ) (hk : k < selected.length), ∃ hframe : selected[k] < timestamps.length,
          |timestamps[selected[k]] - (timestamps.head hnonempty + k * period)| ≤ tolerance ∧
          ∀ other ∈ timestamps,
            |timestamps[selected[k]] - (timestamps.head hnonempty + k * period)| ≤
              |other - (timestamps.head hnonempty + k * period)|) ∧
      ((∃ error, result = .error error) ↔
        ∃ k index : ℕ,
          timestamps.head hnonempty + k * period ≤ timestamps.getLast hnonempty ∧
          IsNearest timestamps (timestamps.head hnonempty + k * period) index ∧
          (tolerance < distance timestamps (timestamps.head hnonempty + k * period) index ∨
            ∃ earlier < k,
              IsNearest timestamps (timestamps.head hnonempty + earlier * period) index)) := by
  have hhead : timestamps.headD 0 = timestamps.head hnonempty := by
    rw [List.headD_eq_head?_getD, List.head?_eq_some_head hnonempty, Option.getD_some]
  have hlast : timestamps.getLastD 0 = timestamps.getLast hnonempty := by
    rw [List.getLastD_eq_getLast?, List.getLast?_eq_some_getLast hnonempty, Option.getD_some]
  have hspan : timestamps.headD 0 ≤ timestamps.getLastD 0 := by
    rw [hhead, hlast]
    exact head_le_getLast hnonempty hincreasing
  have hpoint : ∀ k : ℕ, timestamps.head hnonempty + k * period = gridPoint timestamps period k :=
    fun k => by rw [gridPoint, hhead]
  obtain ⟨bound, result, hends, hresult⟩ :=
    whileLoop_ends hpositive hspan tolerance
  simp only [hpoint, ← hlast]
  refine ⟨bound, result.map GridState.selected, ?_, ?_, ?_⟩
  · intro turns hturns
    rw [fixedGridNearest_eq_whileLoop hnonempty hfps hperiod htolerance, hends turns hturns]
    rfl
  · intro selected hselected
    rcases hresult with ⟨⟨error, rfl⟩, _⟩ | ⟨rfl, husable⟩
    · cases hselected
    · cases hselected
      refine ⟨?_, pairwise_selected hnonempty hincreasing hpositive husable, ?_⟩
      · have hnonneg : 0 ≤ (timestamps.getLastD 0 - timestamps.headD 0) / period :=
          Int.ediv_nonneg (by omega) (by omega)
        simp only [gridState, List.length_map, List.length_range, gridLength, ← hhead]
        omega
      · intro k hk
        have hlength : k < gridLength timestamps period := by
          simpa [gridState] using hk
        have hframe : (gridState timestamps period (gridLength timestamps period)).selected[k] =
            nearest timestamps (gridPoint timestamps period k) := by
          simp [gridState]
        have hnearest := isNearest_nearest hnonempty (gridPoint timestamps period k)
        simp only [hframe]
        refine ⟨hnearest.bound, ?_, ?_⟩
        · rw [← distance_eq]
          exact not_lt.mp fun hfar => husable k hlength (Or.inl hfar)
        · intro other hother
          obtain ⟨position, hposition, rfl⟩ := List.mem_iff_getElem.mp hother
          rw [← distance_eq hnearest.bound, ← distance_eq hposition]
          exact_mod_cast hnearest.least position hposition
  · have hraises : (∃ error, result.map GridState.selected = .error error) ↔
        ∃ turn < gridLength timestamps period, Unusable timestamps period tolerance turn := by
      rcases hresult with ⟨⟨error, rfl⟩, hunusable⟩ | ⟨rfl, husable⟩
      · exact iff_of_true ⟨error, rfl⟩ hunusable
      · refine iff_of_false ?_ ?_
        · rintro ⟨error, herror⟩
          cases herror
        · rintro ⟨turn, hturn, hunusable⟩
          exact husable turn hturn hunusable
    rw [hraises]
    simp only [gridPoint_le_iff hpositive hspan, unusable_iff hnonempty, exists_and_left]

/-- Three grid points and four frames, of which the third is too early for its
point and is not taken. -/
theorem fixed_grid_nearest_in_order_three :
    ∃ bound, ∀ turns ≥ bound,
      fixedGridNearest turns [1, 33333335, 50000000, 66666668] ⟨false, some 33333333⟩ 2 =
        some (.ok [0, 1, 3]) := by
  obtain ⟨bound, result, hends, -⟩ :=
    fixed_grid_nearest_in_order [1, 33333335, 50000000, 66666668] ⟨false, some 33333333⟩ 33333333 2
      (by decide) (by decide) rfl rfl (by decide) (by decide)
  -- four turns are enough, and whatever is left of them is not used
  have hresult := hends (bound + 4) (Nat.le_add_right bound 4)
  have hfour : fixedGridNearest (bound + 4) [1, 33333335, 50000000, 66666668]
      ⟨false, some 33333333⟩ 2 = some (.ok [0, 1, 3]) := rfl
  rw [hfour] at hresult
  exact ⟨bound, fun turns hturns => (hends turns hturns).trans hresult.symm⟩

end RobotMulticam.Dataset
