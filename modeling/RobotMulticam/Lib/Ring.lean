import RobotMulticam.Lib.Window

/-!
# Ordered queues and rings

A queue that only takes items newer than its last one is ordered as a whole,
so the one comparison with the last item is enough. A ring of fixed capacity
makes room for a new item by dropping its oldest, or takes the item first and
is trimmed afterwards.
-/

namespace RobotMulticam.Lib

variable {α : Type} {r : α → α → Prop} {queue ring : List α} {item : α} {capacity : Nat}

/-- What follows the last item of an ordered queue follows all of them. -/
theorem rel_of_getLast? (trans : ∀ first second third : α, r first second → r second third →
    r first third) (h : queue.Pairwise r) (hlast : ∀ last ∈ queue.getLast?, r last item) :
    ∀ other ∈ queue, r other item := by
  induction queue using List.reverseRecOn with
  | nil => simp
  | append_singleton queue last _ =>
    have hnewest := hlast last (by simp)
    intro other hother
    rcases List.mem_append.mp hother with hmem | hmem
    · exact trans _ _ _ ((List.pairwise_append.mp h).2.2 other hmem last (by simp)) hnewest
    · rw [List.mem_singleton.mp hmem]
      exact hnewest

/-- An item that follows the last one can be appended. -/
theorem pairwise_concat (trans : ∀ first second third : α, r first second → r second third →
    r first third) (h : queue.Pairwise r) (hlast : ∀ last ∈ queue.getLast?, r last item) :
    (queue ++ [item]).Pairwise r := by
  refine List.pairwise_append.mpr ⟨h, List.pairwise_singleton r item, ?_⟩
  intro other hother next hnext
  obtain rfl := List.mem_singleton.mp hnext
  exact rel_of_getLast? trans h hlast other hother

/-- A search from the front of an ordered queue finds the first item that is
searched for. -/
theorem find?_eq_some_iff_first (asymm : ∀ first second : α, r first second → ¬ r second first)
    (h : queue.Pairwise r) {p : α → Bool} :
    queue.find? p = some item ↔
      item ∈ queue ∧ p item ∧ ∀ other ∈ queue, p other → other = item ∨ r item other := by
  have hfirst : ∀ {found}, queue.find? p = some found →
      ∀ other ∈ queue, p other → other = found ∨ r found other := by
    intro found hfound other hother hp
    obtain ⟨_, before, after, rfl, hbefore⟩ := List.find?_eq_some_iff_append.mp hfound
    rcases List.mem_append.mp hother with hearlier | hlater
    · have hskipped := hbefore other hearlier
      simp [hp] at hskipped
    · rcases List.mem_cons.mp hlater with hsame | hlater
      · exact Or.inl hsame
      · exact Or.inr (List.rel_of_pairwise_cons (List.pairwise_append.mp h).2.1 hlater)
  constructor
  · intro hfound
    exact ⟨List.mem_of_find?_eq_some hfound, List.find?_some hfound, hfirst hfound⟩
  · rintro ⟨hmem, hp, hmin⟩
    obtain ⟨found, hfound⟩ := Option.isSome_iff_exists.mp
      (List.find?_isSome.mpr ⟨item, hmem, hp⟩)
    rcases hfirst hfound item hmem hp with rfl | hless
    · exact hfound
    · rcases hmin found (List.mem_of_find?_eq_some hfound) (List.find?_some hfound) with rfl | hmore
      · exact hfound
      · exact absurd hmore (asymm _ _ hless)

/-- A search from the back finds the last one. -/
theorem find?_reverse_eq_some_iff_last
    (asymm : ∀ first second : α, r first second → ¬ r second first)
    (h : queue.Pairwise r) {p : α → Bool} :
    queue.reverse.find? p = some item ↔
      item ∈ queue ∧ p item ∧ ∀ other ∈ queue, p other → other = item ∨ r other item := by
  have hreverse : queue.reverse.Pairwise fun first second => r second first :=
    List.pairwise_reverse.mpr h
  simpa using find?_eq_some_iff_first (fun first second => asymm second first) hreverse

/-- What a ring keeps to take one item more. -/
def makeRoom (capacity : Nat) (ring : List α) : List α :=
  if ring.length = capacity then ring.drop 1 else ring

theorem makeRoom_suffix (capacity : Nat) (ring : List α) : makeRoom capacity ring <:+ ring := by
  unfold makeRoom
  split
  · exact List.drop_suffix 1 ring
  · exact List.suffix_rfl

theorem length_makeRoom_lt (hcapacity : capacity ≠ 0) (h : ring.length ≤ capacity) :
    (makeRoom capacity ring).length < capacity := by
  unfold makeRoom
  split
  · rw [List.length_drop]
    omega
  · omega

/-- Making room keeps the last item, or leaves nothing. -/
theorem getLast?_makeRoom {last : α} (h : last ∈ (makeRoom capacity ring).getLast?) :
    last ∈ ring.getLast? := by
  obtain ⟨dropped, hring⟩ := makeRoom_suffix capacity ring
  rw [← hring, List.getLast?_append]
  simp [Option.mem_def.mp h]

/-- A ring that holds the last items of a log holds them after the next one. -/
theorem makeRoom_rtake (hcapacity : capacity ≠ 0) (log : List α) (item : α) :
    makeRoom capacity (log.rtake capacity) ++ [item] = (log ++ [item]).rtake capacity := by
  obtain ⟨room, rfl⟩ := Nat.exists_eq_succ_of_ne_zero hcapacity
  rw [List.rtake_concat_succ]
  congr 1
  unfold makeRoom
  by_cases hfull : room < log.length
  · obtain ⟨oldest, holdest⟩ := rtake_succ hfull
    have hlength : (log.rtake room).length = room := by
      rw [List.rtake, List.length_drop]
      omega
    rw [holdest, if_pos (by rw [List.length_cons, hlength]), List.drop_one, List.tail_cons]
  · rw [rtake_of_length_le (by omega), rtake_of_length_le (by omega), if_neg (by omega)]

/-- Drops the oldest items until at most `capacity` are left. -/
def trim (capacity : Nat) : List α → List α
  | [] => []
  | item :: rest => if capacity < rest.length + 1 then trim capacity rest else item :: rest

theorem trim_suffix (capacity : Nat) (ring : List α) : trim capacity ring <:+ ring := by
  induction ring with
  | nil => exact List.suffix_rfl
  | cons item rest ih =>
    rw [trim]
    split
    · exact ih.trans (List.suffix_cons item rest)
    · exact List.suffix_rfl

theorem trim_of_le (h : ring.length ≤ capacity) : trim capacity ring = ring := by
  cases ring with
  | nil => rfl
  | cons item rest => exact if_neg (by simpa using h)

/-- A ring with room for one item keeps the newest. -/
theorem getLast?_trim (hcapacity : 0 < capacity) (ring : List α) :
    (trim capacity ring).getLast? = ring.getLast? := by
  induction ring with
  | nil => rfl
  | cons item rest ih =>
    rw [trim]
    split
    · rename_i hlonger
      have hrest : rest ≠ [] := by
        rintro rfl
        simp at hlonger
        omega
      rw [ih, List.getLast?_cons, List.getLast?_eq_getLast_of_ne_nil hrest]
      rfl
    · rfl

end RobotMulticam.Lib
