import RobotMulticam.Receiver.Registry
import RobotMulticam.Lib.Run
import RobotMulticam.Lib.Suffix

/-!
# What an ingest queue holds

An ingest queue is bounded in frames and in bytes, and one loop drops the
oldest items until both bounds leave room for the next. Over any run of
pushes it holds the longest suffix of the accepted items that respects both
bounds: nothing is dropped that could have stayed.

The loop compares with a saturating sum. With the largest possible byte limit
that sum cannot exceed the limit, so the results then ask that the items held
and the one pushed fit into the address space together, which they do as
separate allocations.
-/

namespace RobotMulticam.Receiver

open RobotMulticam.Lib

namespace IngestQueue

/-- The size of all items. -/
def total (items : List EncodedFrameEnvelope) : Nat :=
  (items.map fun item => item.encodedAu.length).sum

@[simp] theorem total_nil : total [] = 0 := rfl

@[simp] theorem total_cons (item : EncodedFrameEnvelope) (items : List EncodedFrameEnvelope) :
    total (item :: items) = item.encodedAu.length + total items := List.sum_cons

@[simp] theorem total_append (front back : List EncodedFrameEnvelope) :
    total (front ++ back) = total front + total back := by
  simp [total]

/-- The items respect both bounds. -/
def Admissible (maxFrames maxBytes : Nat) (items : List EncodedFrameEnvelope) : Prop :=
  items.length ≤ maxFrames ∧ total items ≤ maxBytes

instance (maxFrames maxBytes : Nat) : DecidablePred (Admissible maxFrames maxBytes) :=
  fun _ => inferInstanceAs (Decidable (_ ∧ _))

variable {maxFrames maxBytes : Nat} {item : EncodedFrameEnvelope}

/-- Fewer items respect them too. -/
theorem Admissible.of_sublist {part whole : List EncodedFrameEnvelope} (hpart : part.Sublist whole)
    (h : Admissible maxFrames maxBytes whole) : Admissible maxFrames maxBytes part := by
  have hsizes := hpart.map fun item : EncodedFrameEnvelope => item.encodedAu.length
  have hsize : total part ≤ total whole := hsizes.sum_le_sum fun _ _ => Nat.zero_le _
  exact ⟨hpart.length_le.trans h.1, hsize.trans h.2⟩

/-- Saturation does not hide that an item is too much. -/
def Addressable (maxBytes held itemBytes : Nat) : Prop :=
  maxBytes < usizeMax ∨ held + itemBytes ≤ usizeMax

/-- The loop drops until the item fits, and keeps the byte count and the
counter of drops. -/
theorem dropOldest_eq (items : List EncodedFrameEnvelope) (drops : Nat)
    (haddressable : Addressable maxBytes (total items) item.encodedAu.length) :
    let kept := shrink (fun older => Admissible maxFrames maxBytes (older ++ [item])) items
    dropOldest maxFrames maxBytes item.encodedAu.length items (total items) (counted64 drops) =
      (kept, total kept, counted64 (drops + (items.length - kept.length))) := by
  induction items generalizing drops with
  | nil => rfl
  | cons removed rest ih =>
    have hrest : Addressable maxBytes (total rest) item.encodedAu.length := by
      rcases haddressable with hlimit | hsum
      · exact Or.inl hlimit
      · rw [total_cons] at hsum
        exact Or.inr (by omega)
    have hfits : (maxFrames ≤ (removed :: rest).length ∨
        maxBytes < saturatingAdd (total (removed :: rest)) item.encodedAu.length) ↔
        ¬ Admissible maxFrames maxBytes (removed :: rest ++ [item]) := by
      have hsaturated : maxBytes < saturatingAdd (total (removed :: rest)) item.encodedAu.length ↔
          maxBytes < total (removed :: rest) + item.encodedAu.length := by
        unfold saturatingAdd
        rcases haddressable with hlimit | hsum <;> omega
      rw [hsaturated, Admissible, total_append, List.length_append]
      simp only [List.length_singleton, total_cons, total_nil]
      omega
    dsimp only
    rw [dropOldest, shrink]
    by_cases hfit : Admissible maxFrames maxBytes (removed :: rest ++ [item])
    · rw [if_neg (fun hdrop => hfits.mp hdrop hfit), if_pos hfit]
      simp
    · have hbytes : total (removed :: rest) - removed.encodedAu.length = total rest := by
        rw [total_cons, Nat.add_sub_cancel_left]
      have hshorter : (shrink (fun older => Admissible maxFrames maxBytes (older ++ [item]))
          rest).length ≤ rest.length := (shrink_suffix rest).length_le
      rw [if_pos (hfits.mpr hfit), if_neg hfit, hbytes, counted64_succ, ih (drops + 1) hrest]
      simp only [Prod.mk.injEq, true_and, List.length_cons]
      congr 1
      omega

/-! ## Runs of pushes -/

/-- `push`, where the caller goes on after an error. -/
def offer (queue : IngestQueue) (item : EncodedFrameEnvelope) : IngestQueue :=
  (queue.push item).toOption.getD queue

/-- The item, if it was taken. -/
def taken (queue : IngestQueue) (item : EncodedFrameEnvelope) : List EncodedFrameEnvelope :=
  if (queue.push item).toOption.isSome then [item] else []

/-- A push is refused for the size of the item only. -/
theorem push_isError_iff (queue : IngestQueue) (item : EncodedFrameEnvelope) :
    (∃ error, queue.push item = .error error) ↔ queue.maxBytes < item.encodedAu.length := by
  unfold push
  dsimp only
  split
  · rename_i hlarge
    exact iff_of_true ⟨_, rfl⟩ hlarge
  · rename_i hsmall
    exact iff_of_false (by simp) hsmall

/-- A refused item changes nothing. -/
theorem offer_of_error {queue : IngestQueue} {error : IngestError}
    (h : queue.push item = .error error) : queue.offer item = queue ∧ queue.taken item = [] := by
  unfold offer taken
  rw [h]
  exact ⟨rfl, rfl⟩

/-- What the queue is after the items of `log` were taken. -/
structure Holds (maxFrames maxBytes : Nat) (queue : IngestQueue)
    (log : List EncodedFrameEnvelope) : Prop where
  frames : queue.maxFrames = maxFrames
  limit : queue.maxBytes = maxBytes
  kept : Longest (Admissible maxFrames maxBytes) log queue.items
  bytes : queue.bytes = total queue.items
  dropped : queue.dropped = counted64 (log.length - queue.items.length)

namespace Holds

variable {maxFrames maxBytes : Nat} {queue : IngestQueue} {log : List EncodedFrameEnvelope}

theorem start (maxFrames maxBytes : Nat) :
    Holds maxFrames maxBytes (new maxFrames maxBytes) [] :=
  ⟨rfl, rfl, longest_nil ⟨Nat.zero_le _, Nat.zero_le _⟩, rfl, rfl⟩

theorem push (h : Holds maxFrames maxBytes queue log) (hframes : 1 ≤ maxFrames)
    {item : EncodedFrameEnvelope} (hsize : item.encodedAu.length ≤ maxBytes)
    (haddressable : Addressable maxBytes (total queue.items) item.encodedAu.length) :
    ∃ after, queue.push item = .ok after ∧ Holds maxFrames maxBytes after (log ++ [item]) := by
  set kept := shrink (fun older => Admissible maxFrames maxBytes (older ++ [item])) queue.items
    with hkept
  have hdrop := @dropOldest_eq maxFrames maxBytes item queue.items
    (log.length - queue.items.length) haddressable
  have hpush : queue.push item = .ok { queue with
      items := kept ++ [item]
      bytes := total kept + item.encodedAu.length
      dropped := counted64 (log.length - queue.items.length +
        (queue.items.length - kept.length)) } := by
    unfold IngestQueue.push
    rw [h.limit, if_neg (Nat.not_lt.mpr hsize), h.frames, h.bytes, h.dropped, hdrop]
  have hitem : Admissible maxFrames maxBytes [item] := ⟨hframes, by simpa using hsize⟩
  refine ⟨_, hpush, h.frames, h.limit,
    h.kept.concat (fun part whole hpart => Admissible.of_sublist hpart) hitem, by simp, ?_⟩
  have hstored := h.kept.suffix.length_le
  have hshorter : kept.length ≤ queue.items.length := (shrink_suffix queue.items).length_le
  simp only [List.length_append, List.length_singleton]
  congr 1
  omega

theorem offer (h : Holds maxFrames maxBytes queue log) (hframes : 1 ≤ maxFrames)
    (item : EncodedFrameEnvelope)
    (haddressable : Addressable maxBytes (total queue.items) item.encodedAu.length) :
    Holds maxFrames maxBytes (queue.offer item) (log ++ queue.taken item) := by
  by_cases hlarge : queue.maxBytes < item.encodedAu.length
  · obtain ⟨error, herror⟩ := (push_isError_iff queue item).mpr hlarge
    obtain ⟨hsame, hnone⟩ := offer_of_error herror
    rw [hsame, hnone, List.append_nil]
    exact h
  · rw [h.limit] at hlarge
    obtain ⟨after, hpush, hholds⟩ := h.push hframes (Nat.le_of_not_lt hlarge) haddressable
    have hoffer : queue.offer item = after := by rw [IngestQueue.offer, hpush]; rfl
    have htaken : queue.taken item = [item] := by rw [taken, hpush]; rfl
    rw [hoffer, htaken]
    exact hholds

end Holds

/-- The queue is the longest admissible suffix of the items that were taken. -/
theorem ingest_queue_longest_suffix (maxFrames maxBytes : Nat) (hframes : 1 ≤ maxFrames)
    (pushes : List EncodedFrameEnvelope)
    (haddressable : Meets offer
      (fun queue item => Addressable maxBytes (total queue.items) item.encodedAu.length)
      (new maxFrames maxBytes) pushes) :
    let queue := run offer (new maxFrames maxBytes) pushes
    let log := outputs offer taken (new maxFrames maxBytes) pushes
    Longest (Admissible maxFrames maxBytes) log queue.items ∧
      queue.bytes = total queue.items ∧
      (log.length - queue.items.length < 2 ^ 64 →
        queue.dropped.toNat + queue.items.length = log.length) ∧
      ∀ item, ((∃ error, queue.push item = .error error) ↔ maxBytes < item.encodedAu.length) ∧
        (maxBytes < item.encodedAu.length → queue.offer item = queue) := by
  have hkeeps : ∀ queue log item, Holds maxFrames maxBytes queue log →
      Addressable maxBytes (total queue.items) item.encodedAu.length →
      Holds maxFrames maxBytes (queue.offer item) (log ++ queue.taken item) :=
    fun queue log item h haddressable => h.offer hframes item haddressable
  have hholds := run_outputs_invariant hkeeps (Holds.start maxFrames maxBytes) haddressable
  rw [List.nil_append] at hholds
  refine ⟨hholds.kept, hholds.bytes, ?_, ?_⟩
  · intro hbelow
    have hstored := hholds.kept.suffix.length_le
    rw [hholds.dropped, toNat_counted64]
    omega
  · intro item
    have hrefused := push_isError_iff (run offer (new maxFrames maxBytes) pushes) item
    rw [hholds.limit] at hrefused
    refine ⟨hrefused, fun hlarge => ?_⟩
    obtain ⟨error, herror⟩ := hrefused.mpr hlarge
    exact (offer_of_error herror).1

/-- An access unit of so many bytes. -/
def sizedFrame (bytes : Nat) : EncodedFrameEnvelope :=
  ⟨⟨Uuid.ofNat 1, "front", 1⟩, 1, 0, 1, List.replicate bytes 0, []⟩

/-- The third item is refused and the fourth drops the first. -/
theorem ingest_queue_longest_suffix_small :
    Longest (Admissible 2 5)
      (outputs offer taken (new 2 5) [sizedFrame 3, sizedFrame 2, sizedFrame 6, sizedFrame 1])
      (run offer (new 2 5) [sizedFrame 3, sizedFrame 2, sizedFrame 6, sizedFrame 1]).items ∧
    (run offer (new 2 5) [sizedFrame 3, sizedFrame 2, sizedFrame 6, sizedFrame 1]).items =
      [sizedFrame 2, sizedFrame 1] := by
  refine ⟨?_, by decide⟩
  have hlimit : 5 < usizeMax := by decide
  exact (ingest_queue_longest_suffix 2 5 (by decide)
    [sizedFrame 3, sizedFrame 2, sizedFrame 6, sizedFrame 1]
    (meets_of_forall_split fun _ _ _ _ => Or.inl hlimit)).1

end IngestQueue

end RobotMulticam.Receiver
