import RobotMulticam.Codec.Manifest

/-!
# Reassembly of hostile chunks

Manifest chunks come from the network, so a reassembler is given arbitrary
ones: any fields, any order, any clock readings. `Offered` are the states
`insert` is called in, together with the chunks it answered without an error
until then.

`Follows` is what every call keeps: the slots hold, for each index, the first
payload that was accepted for it. The one way out of this is a chunk that
fills the last slot and makes the manifest fail its checks: it is stored and
answered with an error. Such a reassembler is `Spoiled`: no slot will ever
change again, so it fails forever.
-/

namespace RobotMulticam.Codec

open RobotMulticam.Lib
open RobotMulticam.Protocol

namespace ManifestReassembler

/-- Why a chunk is turned away before anything is stored: it is late, breaks
a field limit, has another header, or another payload than its slot. -/
def Refuses (self : ManifestReassembler) (chunk : SessionManifestChunkV1) (now : Nat) : Prop :=
  self.timeout < now - self.startedAt ∨ ¬ ValidChunk chunk ∨
    ManifestHeader.ofChunk chunk ≠ self.header ∨
    ∃ payload, self.chunks[chunk.chunkIndex.toNat]? = some (some payload) ∧
      payload ≠ chunk.chunkPayload

/-- The chunks are the ones `insert` answers without an error, in order. -/
def acceptedChunks (externals : Externals) (self : ManifestReassembler)
    (deliveries : List Delivery) : List SessionManifestChunkV1 :=
  outputs (deliver externals)
    (fun self delivery =>
      if (self.insert externals delivery.chunk delivery.now).1.isOk then [delivery.chunk] else [])
    self deliveries

/-- The first payload accepted for an index. -/
def firstPayload (accepted : List SessionManifestChunkV1) (index : Nat) :
    Option (List UInt8) :=
  (accepted.find? fun chunk => chunk.chunkIndex.toNat = index).map
    SessionManifestChunkV1.chunkPayload

/-- A state in which `insert` is called, with the chunks accepted until then:
the empty reassembler that `new` fills, or what `new` and later calls left. -/
def Offered (externals : Externals) (first : SessionManifestChunkV1) (startedAt timeout : Nat)
    (self : ManifestReassembler) (accepted : List SessionManifestChunkV1) : Prop :=
  (ValidChunk first ∧ self = start first startedAt timeout ∧ accepted = []) ∨
  ∃ value deliveries, new externals first startedAt timeout = .ok value ∧
    self = run (deliver externals) value deliveries ∧
    accepted = first :: acceptedChunks externals value deliveries

/-- What is known about bytes that a reassembler hands out. -/
structure Assembled (externals : Externals) (reassembler : ManifestReassembler)
    (accepted : List SessionManifestChunkV1) (bytes : List UInt8) : Prop where
  stored : ∀ index < reassembler.header.chunkCount.toNat,
    ∃ payload, reassembler.chunks[index]? = some (some payload)
  size : bytes.length = reassembler.header.uncompressedSize.toNat
  crc : externals.crc32c bytes = reassembler.header.crc
  plain : ManifestCompressionV1.tryFrom reassembler.header.compression = some .none →
    bytes = ((List.range reassembler.header.chunkCount.toNat).filterMap (firstPayload accepted)).flatten

variable {self : ManifestReassembler} {chunk first : SessionManifestChunkV1} {now : Nat}
  {externals : Externals} {accepted : List SessionManifestChunkV1}

theorem accepts_iff_not_refuses : self.Accepts chunk now ↔ ¬ self.Refuses chunk now := by
  constructor
  · intro haccepts hrefuses
    rcases hrefuses with hlate | hinvalid | hother | ⟨payload, hslot, hpayload⟩
    · exact Nat.not_lt.mpr haccepts.inTime hlate
    · exact hinvalid haccepts.valid
    · exact hother haccepts.header
    · rcases haccepts.slot with hfree | hsame
      · rw [hfree] at hslot
        cases hslot
      · rw [hsame] at hslot
        exact hpayload (Option.some.inj (Option.some.inj hslot)).symm
  · intro hrefuses
    unfold Refuses at hrefuses
    push Not at hrefuses
    obtain ⟨htime, hvalid, hheader, hslot⟩ := hrefuses
    obtain ⟨slot, hat⟩ : ∃ slot, self.chunks[chunk.chunkIndex.toNat]? = some slot :=
      ⟨_, List.getElem?_eq_getElem (chunkIndex_lt hvalid hheader)⟩
    refine ⟨htime, hvalid, hheader, ?_⟩
    cases slot with
    | none => exact Or.inl hat
    | some payload => exact Or.inr (by rw [hat, hslot payload hat])

/-! ## Slots -/

variable {payload bytes : List UInt8} {startedAt timeout : Nat}

/-- A taken slot stays as it is. -/
theorem store_keeps (haccepts : self.Accepts chunk now) {index : Nat}
    (htaken : self.chunks[index]? = some (some payload)) :
    (self.store chunk).chunks[index]? = some (some payload) := by
  show (self.chunks.set _ _)[index]? = _
  by_cases hsame : chunk.chunkIndex.toNat = index
  · subst hsame
    rcases haccepts.slot with hfree | hheld
    · rw [hfree] at htaken
      cases htaken
    · rw [set_of_getElem? hheld, htaken]
  · rw [List.getElem?_set_ne hsame, htaken]

/-- What a delivery can do to a reassembler. -/
theorem deliver_cases (externals : Externals) (h : self.Filled) (delivery : Delivery) :
    (self.Accepts delivery.chunk delivery.now ∧
      self.deliver externals delivery = self.store delivery.chunk) ∨
    self.deliver externals delivery = self := by
  unfold deliver
  by_cases haccepts : self.Accepts delivery.chunk delivery.now
  · rw [insert_of_accepts externals h haccepts]
    exact Or.inl ⟨haccepts, rfl⟩
  · obtain ⟨error, hrefused⟩ := insert_of_not_accepts externals haccepts
    rw [hrefused]
    exact Or.inr rfl

/-- No delivery replaces a stored chunk. -/
theorem run_keeps (h : self.Filled) {index : Nat}
    (htaken : self.chunks[index]? = some (some payload)) (deliveries : List Delivery) :
    (run (deliver externals) self deliveries).chunks[index]? = some (some payload) := by
  have hstep : ∀ (state : ManifestReassembler) (delivery : Delivery),
      (state.Filled ∧ state.chunks[index]? = some (some payload)) →
      (state.deliver externals delivery).Filled ∧
        (state.deliver externals delivery).chunks[index]? = some (some payload) := by
    rintro state delivery ⟨hfilled, hslot⟩
    refine ⟨hfilled.insert externals delivery.chunk delivery.now, ?_⟩
    rcases deliver_cases externals hfilled delivery with ⟨haccepts, hstored⟩ | hsame
    · rw [hstored]
      exact store_keeps haccepts hslot
    · rw [hsame]
      exact hslot
  exact (run_invariant' hstep ⟨h, htaken⟩ deliveries).2

/-! ## Answers -/

/-- Bytes are handed out when no slot is empty and all checks succeed. -/
theorem complete_eq_some (h : self.complete externals = .ok (some bytes)) :
    self.chunks.any Option.isNone = false ∧
      bytes.length = self.header.uncompressedSize.toNat ∧
      externals.crc32c bytes = self.header.crc ∧
      (ManifestCompressionV1.tryFrom self.header.compression = some .none →
        bytes = self.chunks.reduceOption.flatten) := by
  unfold complete at h
  split at h
  · cases h
  · rename_i hfull
    rw [bind_eq_ok] at h
    obtain ⟨_, _, h⟩ := h
    have hchecks : ∀ decoded : List UInt8,
        (if decoded.length ≠ self.header.uncompressedSize.toNat then
            Except.error ManifestError.totalSize
          else if externals.crc32c decoded ≠ self.header.crc then .error .crc
          else .ok (some decoded)) = .ok (some bytes) →
        decoded = bytes ∧ bytes.length = self.header.uncompressedSize.toNat ∧
          externals.crc32c bytes = self.header.crc := by
      intro decoded hdecoded
      split at hdecoded
      · cases hdecoded
      · rename_i hsize
        split at hdecoded
        · cases hdecoded
        · rename_i hcrc
          cases hdecoded
          exact ⟨rfl, not_not.mp hsize, not_not.mp hcrc⟩
    refine ⟨Bool.eq_false_of_not_eq_true hfull, ?_⟩
    split at h
    · obtain ⟨hsame, hsize, hcrc⟩ := hchecks _ h
      exact ⟨hsize, hcrc, fun _ => hsame.symm⟩
    · rename_i hzstd
      rw [bind_eq_ok] at h
      obtain ⟨decoded, _, h⟩ := h
      obtain ⟨_, hsize, hcrc⟩ := hchecks decoded h
      exact ⟨hsize, hcrc, fun hnone => absurd (hzstd.symm.trans hnone) (by simp)⟩
    · cases h

/-- An error of `complete` comes after the last slot was filled. -/
theorem full_of_complete_error {error : ManifestError}
    (h : self.complete externals = .error error) :
    self.chunks.any Option.isNone = false := by
  by_contra hfree
  unfold complete at h
  rw [if_pos (by simpa using hfree)] at h
  cases h

/-- All slots are taken and the manifest they hold fails its checks. -/
structure Spoiled (externals : Externals) (reassembler : ManifestReassembler) : Prop where
  full : reassembler.chunks.any Option.isNone = false
  fails : ∃ error, reassembler.complete externals = .error error

/-- A full reassembler has nothing left to store. -/
theorem store_of_full (hfull : self.chunks.any Option.isNone = false)
    (haccepts : self.Accepts chunk now) : self.store chunk = self := by
  rcases haccepts.slot with hfree | hheld
  · rw [List.any_eq_false] at hfull
    exact absurd rfl (hfull none (List.mem_of_getElem? hfree))
  · exact store_of_held hheld

/-! ## What the slots hold -/

theorem firstPayload_append (accepted : List SessionManifestChunkV1)
    (chunk : SessionManifestChunkV1) (index : Nat) :
    firstPayload (accepted ++ [chunk]) index =
      (firstPayload accepted index).or
        (if chunk.chunkIndex.toNat = index then some chunk.chunkPayload else none) := by
  unfold firstPayload
  rw [List.find?_append]
  cases accepted.find? fun chunk => chunk.chunkIndex.toNat = index with
  | some found => rfl
  | none =>
    by_cases hindex : chunk.chunkIndex.toNat = index
    · simp [hindex]
    · simp [hindex]

/-- The slots hold the first accepted payload of each index, unless the
reassembler is spoiled. -/
structure Follows (externals : Externals) (accepted : List SessionManifestChunkV1)
    (reassembler : ManifestReassembler) : Prop where
  filled : reassembler.Filled
  slots : reassembler.chunks =
      (List.range reassembler.header.chunkCount.toNat).map (firstPayload accepted) ∨
    Spoiled externals reassembler

/-- Storing an accepted chunk keeps the first payload of every index. -/
theorem store_chunks
    (hslots : self.chunks = (List.range self.header.chunkCount.toNat).map (firstPayload accepted))
    (haccepts : self.Accepts chunk now) :
    (self.store chunk).chunks = (List.range self.header.chunkCount.toNat).map
      (firstPayload (accepted ++ [chunk])) := by
  have hslot : ∀ index < self.chunks.length,
      self.chunks[index]? = some (firstPayload accepted index) := by
    intro index hindex
    rw [self.sized] at hindex
    rw [hslots]
    simp [hindex]
  apply List.ext_getElem?
  intro index
  show (self.chunks.set _ _)[index]? = _
  by_cases hindex : index < self.chunks.length
  · have hrange : index < self.header.chunkCount.toNat := by rwa [← self.sized]
    rw [List.getElem?_map, List.getElem?_range hrange, Option.map_some, firstPayload_append,
      List.getElem?_set]
    by_cases hsame : chunk.chunkIndex.toNat = index
    · subst hsame
      rw [if_pos rfl, if_pos hindex, if_pos rfl]
      -- the first payload of this index is the new one, or already the same
      have hheld := haccepts.slot
      rw [hslot _ hindex] at hheld
      rcases hheld with hfree | hheld
      · rw [Option.some.inj hfree]
        rfl
      · rw [Option.some.inj hheld]
        rfl
    · rw [if_neg hsame, if_neg hsame, hslot index hindex, Option.or_none]
  · rw [List.getElem?_eq_none (by simpa using hindex), List.getElem?_eq_none]
    rw [self.sized] at hindex
    simpa using hindex

/-- The step lemma: whatever chunk is given to `insert`. -/
theorem Follows.insert (h : Follows externals accepted self) (chunk : SessionManifestChunkV1)
    (now : Nat) :
    Follows externals
      (accepted ++ if (self.insert externals chunk now).1.isOk then [chunk] else [])
      (self.insert externals chunk now).2 := by
  refine ⟨h.filled.insert externals chunk now, ?_⟩
  by_cases haccepts : self.Accepts chunk now
  · rw [insert_of_accepts externals h.filled haccepts]
    rcases h.slots with hslots | hspoiled
    · cases hcomplete : (self.store chunk).complete externals with
      | error error => exact Or.inr ⟨full_of_complete_error hcomplete, error, hcomplete⟩
      | ok answer => exact Or.inl (store_chunks hslots haccepts)
    · rw [store_of_full hspoiled.full haccepts]
      exact Or.inr hspoiled
  · obtain ⟨error, hrefused⟩ := insert_of_not_accepts externals haccepts
    rw [hrefused]
    simpa [Except.isOk, Except.toBool] using h.slots

/-- The run lemma: any deliveries. -/
theorem Follows.run (h : Follows externals accepted self) (deliveries : List Delivery) :
    Follows externals (accepted ++ acceptedChunks externals self deliveries)
      (Lib.run (deliver externals) self deliveries) := by
  induction deliveries generalizing self accepted with
  | nil => simpa [acceptedChunks, outputs] using h
  | cons delivery deliveries ih =>
    have hrest := ih (h.insert delivery.chunk delivery.now)
    rw [List.append_assoc] at hrest
    exact hrest

theorem follows_start (hvalid : ValidChunk first) (externals : Externals)
    (startedAt timeout : Nat) :
    Follows externals [] (start first startedAt timeout) := by
  refine ⟨filled_start hvalid startedAt timeout, Or.inl ?_⟩
  show List.replicate first.chunkCount.toNat none =
    (List.range first.chunkCount.toNat).map (Function.const Nat none)
  rw [List.map_const, List.length_range]

/-- Every state in which `insert` is called follows the accepted chunks and
has the header of the first one. -/
theorem Offered.follows (h : Offered externals first startedAt timeout self accepted) :
    Follows externals accepted self := by
  rcases h with ⟨hvalid, rfl, rfl⟩ | ⟨value, deliveries, hnew, rfl, rfl⟩
  · exact follows_start hvalid externals startedAt timeout
  · obtain ⟨hvalid, hvalue⟩ := new_eq_ok hnew
    have hstart := follows_start hvalid externals startedAt timeout
    -- `new` succeeds, so its own call of `insert` did
    have hfirst : (start first startedAt timeout).insert externals first startedAt =
        (((start first startedAt timeout).store first).complete externals, value) := by
      rw [hvalue]
      exact insert_of_accepts externals (filled_start hvalid startedAt timeout)
        (accepts_start hvalid startedAt timeout)
    have hok : (((start first startedAt timeout).store first).complete externals).isOk = true := by
      rw [new_eq externals first startedAt timeout hvalid] at hnew
      cases hcomplete : ((start first startedAt timeout).store first).complete externals with
      | error error =>
        rw [hcomplete] at hnew
        cases hnew
      | ok answer => rfl
    have hvalue := hstart.insert first startedAt
    rw [hfirst] at hvalue
    simp only [hok, if_true, List.nil_append] at hvalue
    exact hvalue.run deliveries

theorem Offered.header (h : Offered externals first startedAt timeout self accepted) :
    self.header = .ofChunk first := by
  rcases h with ⟨_, rfl, _⟩ | ⟨value, deliveries, hnew, rfl, _⟩
  · rfl
  · obtain ⟨_, rfl⟩ := new_eq_ok hnew
    have hstep : ∀ (state : ManifestReassembler) (delivery : Delivery),
        state.header = .ofChunk first → (state.deliver externals delivery).header =
          .ofChunk first := by
      intro state delivery hheader
      rw [deliver, insert_header, hheader]
    exact run_invariant' hstep rfl deliveries

/-- Bytes that are handed out come from the accepted chunks. -/
theorem Follows.assembled (h : Follows externals accepted self)
    (hcomplete : self.complete externals = .ok (some bytes)) :
    Assembled externals self accepted bytes := by
  obtain ⟨hfull, hsize, hcrc, hplain⟩ := complete_eq_some hcomplete
  refine ⟨?_, hsize, hcrc, ?_⟩
  · intro index hindex
    rw [← self.sized] at hindex
    obtain ⟨slot, hslot⟩ : ∃ slot, self.chunks[index]? = some slot :=
      ⟨_, List.getElem?_eq_getElem hindex⟩
    cases slot with
    | none =>
      rw [List.any_eq_false] at hfull
      exact absurd rfl (hfull none (List.mem_of_getElem? hslot))
    | some payload => exact ⟨payload, hslot⟩
  · intro hnone
    rcases h.slots with hslots | ⟨_, error, hfails⟩
    · rw [hplain hnone, hslots, List.reduceOption, List.filterMap_map]
      rfl
    · rw [hcomplete] at hfails
      cases hfails

/-- Reassembly is sound and bounded, whatever chunks are offered at whatever
times. In every state in which `insert` is called:

* the byte counter is the total length of the stored payloads and within the
  limit, also after the next chunk: neither size check of `insert` can fail;
* no later call replaces a stored chunk;
* a refused chunk leaves the state unchanged;
* bytes are returned only for a full reassembler, with the declared size and
  checksum; uncompressed, they are the first accepted payloads in order. -/
theorem reassembly_of_any_chunks (externals : Externals) (first : SessionManifestChunkV1)
    (startedAt timeout : Nat) (self : ManifestReassembler)
    (accepted : List SessionManifestChunkV1)
    (hoffered : Offered externals first startedAt timeout self accepted) :
    self.header = .ofChunk first ∧
    self.receivedBytes = (self.chunks.reduceOption.map List.length).sum ∧
    self.receivedBytes ≤ 262144 ∧
    (∀ chunk now, ¬ self.Refuses chunk now →
      self.chunks[chunk.chunkIndex.toNat]? = some none →
      checkedAdd self.receivedBytes chunk.chunkPayload.length =
          some (self.receivedBytes + chunk.chunkPayload.length) ∧
        self.receivedBytes + chunk.chunkPayload.length ≤ maxManifestTotalBytes) ∧
    (∀ (deliveries : List Delivery) (index : Nat) (payload : List UInt8),
      self.chunks[index]? = some (some payload) →
      (run (deliver externals) self deliveries).chunks[index]? = some (some payload)) ∧
    (∀ chunk now, self.Refuses chunk now →
      ∃ error, self.insert externals chunk now = (.error error, self)) ∧
    ∀ chunk now bytes next, self.insert externals chunk now = (.ok (some bytes), next) →
      Assembled externals next (accepted ++ [chunk]) bytes := by
  have hfollows := hoffered.follows
  have hfilled := hfollows.filled
  refine ⟨hoffered.header, ?_, hfilled.receivedBytes_le, ?_, ?_, ?_, ?_⟩
  · rw [hfilled.received, List.length_flatten]
  · intro chunk now hrefuses hfree
    have haccepts := accepts_iff_not_refuses.mpr hrefuses
    have hlimit := (hfilled.store haccepts).receivedBytes_le
    have hstored : (self.store chunk).receivedBytes =
        self.receivedBytes + chunk.chunkPayload.length := if_pos hfree
    rw [hstored] at hlimit
    exact ⟨checkedAdd_of_le (hlimit.trans (by decide)), hlimit⟩
  · intro deliveries index payload htaken
    exact run_keeps hfilled htaken deliveries
  · intro chunk now hrefuses
    exact insert_of_not_accepts externals fun haccepts =>
      accepts_iff_not_refuses.mp haccepts hrefuses
  · intro chunk now bytes next hinsert
    have hnext := hfollows.insert chunk now
    by_cases haccepts : self.Accepts chunk now
    · rw [hinsert] at hnext
      rw [insert_of_accepts externals hfilled haccepts, Prod.mk.injEq] at hinsert
      obtain ⟨hcomplete, rfl⟩ := hinsert
      exact hnext.assembled hcomplete
    · obtain ⟨error, hrefused⟩ := insert_of_not_accepts externals haccepts
      rw [hinsert] at hrefused
      cases hrefused

/-- A chunk of a manifest of two bytes, 1 and 2. -/
def byteChunk (index : UInt32) (payload : List UInt8) : SessionManifestChunkV1 where
  schemaVersion := 1
  sessionId := List.replicate 16 7
  manifestRevision := 4
  chunkIndex := index
  chunkCount := 2
  compression := ManifestCompressionV1.none.toInt32
  uncompressedSize := 2
  fullPayloadCrc32c := crc32c [1, 2]
  chunkPayload := payload

/-- The second byte comes first, then a forged second byte, then the first
one. The forged chunk has no effect. -/
theorem reassembly_of_any_chunks_forged :
    ∃ value next,
      new (wireExternals [] [] [] [] []) (byteChunk 1 [2]) 0 10 = .ok value ∧
      (run (deliver (wireExternals [] [] [] [] [])) value [⟨byteChunk 1 [3], 1⟩]).insert
        (wireExternals [] [] [] [] []) (byteChunk 0 [1]) 2 = (.ok (some [1, 2]), next) ∧
      Assembled (wireExternals [] [] [] [] []) next [byteChunk 1 [2], byteChunk 0 [1]] [1, 2] := by
  have hvalid : ValidChunk (byteChunk 1 [2]) := by decide
  let value := (start (byteChunk 1 [2]) 0 10).store (byteChunk 1 [2])
  have hnew : new (wireExternals [] [] [] [] []) (byteChunk 1 [2]) 0 10 = .ok value := by
    rw [new_eq _ _ _ _ hvalid]
    rfl
  have haccepted : acceptedChunks (wireExternals [] [] [] [] []) value [⟨byteChunk 1 [3], 1⟩] =
      [] := by
    decide +kernel
  have hanswer : ((run (deliver (wireExternals [] [] [] [] [])) value
      [⟨byteChunk 1 [3], 1⟩]).insert (wireExternals [] [] [] [] []) (byteChunk 0 [1]) 2).1 =
        .ok (some [1, 2]) := by
    decide +kernel
  -- the state after the last chunk is named, not computed
  rcases hinsert : (run (deliver (wireExternals [] [] [] [] [])) value
    [⟨byteChunk 1 [3], 1⟩]).insert (wireExternals [] [] [] [] []) (byteChunk 0 [1]) 2 with
    ⟨answer, next⟩
  rw [hinsert] at hanswer
  subst hanswer
  refine ⟨value, next, hnew, hinsert, ?_⟩
  exact (reassembly_of_any_chunks _ (byteChunk 1 [2]) 0 10 _ _
    (Or.inr ⟨value, [⟨byteChunk 1 [3], 1⟩], hnew, rfl, by rw [haccepted]⟩)).2.2.2.2.2.2
    (byteChunk 0 [1]) 2 [1, 2] next hinsert

end ManifestReassembler

end RobotMulticam.Codec
