import RobotMulticam.Codec.Sei
import RobotMulticam.Lib.Chunks
import RobotMulticam.Lib.Run
import RobotMulticam.Protocol.Wire

/-!
# Session manifests in chunks

The anchor cuts its serialized manifest into chunks small enough for an SEI
message and repeats them; the receiver collects them in a
`ManifestReassembler`. Chunks arrive in any order and more than once.

A reassembler that only ever gets chunks of one manifest holds a slot for
each of them (`Agrees`), so its answer depends on which slots are filled and
on nothing else. The sender's limits and the receiver's limits are checked
against each other in `complete_of_agrees`.
-/

namespace RobotMulticam.Codec

open RobotMulticam.Lib
open RobotMulticam.Protocol

inductive ManifestError where
  | sessionId
  | totalSize
  | chunkLimit
  | conflict
  | timeout
  | compressionRatio
  | decompression (message : String)
  | crc
  deriving DecidableEq, Repr

/-- The text the receiver reports for an error. -/
def ManifestError.text : ManifestError → String
  | .sessionId => "manifest session ID must contain exactly 16 bytes"
  | .totalSize => "manifest is empty or exceeds the configured total size"
  | .chunkLimit => "manifest chunk size or count is invalid"
  | .conflict => "manifest chunk fields conflict"
  | .timeout => "manifest reassembly timed out"
  | .compressionRatio => "manifest compression ratio exceeds the configured limit"
  | .decompression message => "manifest decompression failed: " ++ message
  | .crc => "manifest exact-byte CRC32C mismatch"

inductive ManifestCompression where
  | none
  | zstd
  deriving DecidableEq, Repr

/-- The wire value of a compression mode. -/
def ManifestCompression.wire : ManifestCompression → ManifestCompressionV1
  | .none => .none
  | .zstd => .zstd

/-- `MAX_MANIFEST_TOTAL_BYTES.div_ceil(MAX_MANIFEST_CHUNK_BYTES)`. -/
def maxChunks : Nat := (maxManifestTotalBytes + maxManifestChunkBytes - 1) / maxManifestChunkBytes

def validateRatio (uncompressed compressed : Nat) : Except ManifestError Unit :=
  if compressed = 0 ∨ saturatingMul compressed manifestMaxCompressionRatio < uncompressed then
    .error .compressionRatio
  else .ok ()

/-! ## Sending -/

/-- The bytes that are cut into chunks. -/
def encodeManifest (externals : Externals) (serialized : List UInt8) :
    ManifestCompression → Except ManifestError (List UInt8)
  | .none => .ok serialized
  | .zstd => (externals.zstd.encodeAll serialized).mapError .decompression

/-- The chunk that carries `payload` as the piece `index` of `count`. -/
def manifestChunk (externals : Externals) (serialized sessionId : List UInt8)
    (revision : UInt64) (compression : ManifestCompression) (count index : Nat)
    (payload : List UInt8) : SessionManifestChunkV1 where
  schemaVersion := 1
  sessionId
  manifestRevision := revision
  chunkIndex := UInt32.ofNat index
  chunkCount := UInt32.ofNat count
  compression := compression.wire.toInt32
  uncompressedSize := UInt32.ofNat serialized.length
  fullPayloadCrc32c := externals.crc32c serialized
  chunkPayload := payload

def chunkManifest (externals : Externals) (serialized sessionId : List UInt8)
    (revision : UInt64) (compression : ManifestCompression) :
    Except ManifestError (List SessionManifestChunkV1) :=
  if sessionId.length ≠ 16 then .error .sessionId
  else if serialized = [] ∨ maxManifestTotalBytes < serialized.length then .error .totalSize
  else do
    let encoded ← encodeManifest externals serialized compression
    validateRatio serialized.length encoded.length
    let pieces := chunks maxManifestChunkBytes encoded
    if pieces = [] ∨ maxChunks < pieces.length then .error .chunkLimit
    else .ok (pieces.mapIdx
      (manifestChunk externals serialized sessionId revision compression pieces.length))

/-- `manifest_chunk_sei`. -/
def manifestChunkSei (externals : Externals) (chunk : SessionManifestChunkV1) :
    UserDataUnregistered :=
  ⟨sessionManifestUuid, externals.chunk.encodeToVec chunk⟩

/-! ## Receiving -/

/-- What `validate_chunk` checks. -/
structure ValidChunk (chunk : SessionManifestChunkV1) : Prop where
  schemaVersion : chunk.schemaVersion = 1
  sessionId : chunk.sessionId.length = 16
  chunkCount : chunk.chunkCount ≠ 0 ∧ chunk.chunkCount.toNat ≤ maxChunks
  chunkIndex : chunk.chunkIndex < chunk.chunkCount
  payload : chunk.chunkPayload ≠ [] ∧ chunk.chunkPayload.length ≤ maxManifestChunkBytes
  uncompressedSize :
    chunk.uncompressedSize ≠ 0 ∧ chunk.uncompressedSize.toNat ≤ maxManifestTotalBytes

instance (chunk : SessionManifestChunkV1) : Decidable (ValidChunk chunk) :=
  decidable_of_iff
    (chunk.schemaVersion = 1 ∧ chunk.sessionId.length = 16 ∧
      (chunk.chunkCount ≠ 0 ∧ chunk.chunkCount.toNat ≤ maxChunks) ∧
      chunk.chunkIndex < chunk.chunkCount ∧
      (chunk.chunkPayload ≠ [] ∧ chunk.chunkPayload.length ≤ maxManifestChunkBytes) ∧
      (chunk.uncompressedSize ≠ 0 ∧ chunk.uncompressedSize.toNat ≤ maxManifestTotalBytes))
    ⟨fun ⟨h1, h2, h3, h4, h5, h6⟩ => ⟨h1, h2, h3, h4, h5, h6⟩,
      fun ⟨h1, h2, h3, h4, h5, h6⟩ => ⟨h1, h2, h3, h4, h5, h6⟩⟩

/-- The fields every chunk of one manifest has in common; `insert` compares
them one by one. -/
structure ManifestHeader where
  sessionId : List UInt8
  revision : UInt64
  chunkCount : UInt32
  compression : Int32
  uncompressedSize : UInt32
  crc : UInt32
  deriving DecidableEq

def ManifestHeader.ofChunk (chunk : SessionManifestChunkV1) : ManifestHeader where
  sessionId := chunk.sessionId
  revision := chunk.manifestRevision
  chunkCount := chunk.chunkCount
  compression := chunk.compression
  uncompressedSize := chunk.uncompressedSize
  crc := chunk.fullPayloadCrc32c

/-- Times are nanosecond counts. The vector of slots always has as many
slots as the header counts chunks. -/
@[ext] structure ManifestReassembler where
  header : ManifestHeader
  chunks : List (Option (List UInt8))
  receivedBytes : Nat
  startedAt : Nat
  timeout : Nat
  sized : chunks.length = header.chunkCount.toNat

def decodeZstdBounded (externals : Externals) (encoded : List UInt8) (expected : Nat) :
    Except ManifestError (List UInt8) := do
  let decoded ← (externals.zstd.readTake encoded (expected + 1)).mapError .decompression
  if expected < decoded.length then .error .totalSize else .ok decoded

namespace ManifestReassembler

/-- The end of `insert`: once no slot is empty, put the payload together,
decompress it and check its size and checksum. -/
def complete (externals : Externals) (self : ManifestReassembler) :
    Except ManifestError (Option (List UInt8)) :=
  if self.chunks.any Option.isNone then .ok none
  else do
    let encoded := self.chunks.reduceOption.flatten
    let expected := self.header.uncompressedSize.toNat
    validateRatio expected encoded.length
    let decoded ← match ManifestCompressionV1.tryFrom self.header.compression with
      | some .none => .ok encoded
      | some .zstd => decodeZstdBounded externals encoded expected
      | _ => .error .conflict
    if decoded.length ≠ expected then .error .totalSize
    else if externals.crc32c decoded ≠ self.header.crc then .error .crc
    else .ok (some decoded)

variable {self : ManifestReassembler} {chunk first : SessionManifestChunkV1} {now : Nat}

/-- The slot of a chunk with this reassembler's header. -/
theorem chunkIndex_lt (hvalid : ValidChunk chunk)
    (hheader : ManifestHeader.ofChunk chunk = self.header) :
    chunk.chunkIndex.toNat < self.chunks.length := by
  rw [self.sized, ← hheader]
  exact hvalid.chunkIndex

/-- Returns the answer and the reassembler after the call, which keeps what
it has stored also when the call fails. -/
def insert (externals : Externals) (self : ManifestReassembler)
    (chunk : SessionManifestChunkV1) (now : Nat) :
    Except ManifestError (Option (List UInt8)) × ManifestReassembler :=
  if self.timeout < now - self.startedAt then (.error .timeout, self)
  else if hvalid : ¬ ValidChunk chunk then (.error .chunkLimit, self)
  else if hheader : ¬ ManifestHeader.ofChunk chunk = self.header then (.error .conflict, self)
  else
    let index : Fin self.chunks.length :=
      ⟨chunk.chunkIndex.toNat, chunkIndex_lt (not_not.mp hvalid) (not_not.mp hheader)⟩
    match self.chunks.get index with
    | some existing =>
      if existing ≠ chunk.chunkPayload then (.error .conflict, self)
      else (self.complete externals, self)
    | none =>
      match checkedAdd self.receivedBytes chunk.chunkPayload.length with
      | none => (.error .totalSize, self)
      | some receivedBytes =>
        if maxManifestTotalBytes < receivedBytes then
          (.error .totalSize, { self with receivedBytes })
        else
          let stored : ManifestReassembler := {
            self with
            receivedBytes
            chunks := self.chunks.set index (some chunk.chunkPayload)
            sized := by rw [List.length_set, self.sized] }
          (stored.complete externals, stored)

/-- A reassembler with all slots empty, as `new` builds it for its first
chunk. -/
def start (first : SessionManifestChunkV1) (now timeout : Nat) : ManifestReassembler where
  header := .ofChunk first
  chunks := List.replicate first.chunkCount.toNat none
  receivedBytes := 0
  startedAt := now
  timeout
  sized := List.length_replicate

def new (externals : Externals) (first : SessionManifestChunkV1) (now timeout : Nat) :
    Except ManifestError ManifestReassembler :=
  if ¬ ValidChunk first then .error .chunkLimit
  else
    match (start first now timeout).insert externals first now with
    | (.error error, _) => .error error
    | (.ok _, value) => .ok value

/-! ## What `insert` does -/

/-- What holds of every reassembler that `new` and `insert` have built. It
keeps the total below the limit, so `insert` never runs into it. -/
structure Filled (reassembler : ManifestReassembler) : Prop where
  few : reassembler.header.chunkCount.toNat ≤ maxChunks
  small : ∀ payload, some payload ∈ reassembler.chunks → payload.length ≤ maxManifestChunkBytes
  received : reassembler.receivedBytes = reassembler.chunks.reduceOption.flatten.length

/-- The chunk is in time, belongs to this manifest, and its slot is free or
holds the same payload. -/
structure Accepts (reassembler : ManifestReassembler) (chunk : SessionManifestChunkV1)
    (now : Nat) : Prop where
  inTime : now - reassembler.startedAt ≤ reassembler.timeout
  valid : ValidChunk chunk
  header : ManifestHeader.ofChunk chunk = reassembler.header
  slot : reassembler.chunks[chunk.chunkIndex.toNat]? = some none ∨
    reassembler.chunks[chunk.chunkIndex.toNat]? = some (some chunk.chunkPayload)

/-- The reassembler with the chunk in its slot. -/
def store (self : ManifestReassembler) (chunk : SessionManifestChunkV1) :
    ManifestReassembler where
  header := self.header
  chunks := self.chunks.set chunk.chunkIndex.toNat (some chunk.chunkPayload)
  receivedBytes :=
    if self.chunks[chunk.chunkIndex.toNat]? = some none then
      self.receivedBytes + chunk.chunkPayload.length
    else self.receivedBytes
  startedAt := self.startedAt
  timeout := self.timeout
  sized := by rw [List.length_set, self.sized]

theorem Filled.store (h : self.Filled) (haccepts : self.Accepts chunk now) :
    (self.store chunk).Filled := by
  refine ⟨h.few, ?_, ?_⟩
  · intro payload hpayload
    rcases List.mem_or_eq_of_mem_set hpayload with hold | hnew
    · exact h.small payload hold
    · rw [Option.some.inj hnew]
      exact haccepts.valid.payload.2
  · show (if _ then _ else _) = (self.chunks.set _ _).reduceOption.flatten.length
    rcases haccepts.slot with hfree | hsame
    · rw [if_pos hfree, length_flatten_set hfree, h.received]
    · rw [if_neg (by rw [hsame]; simp), h.received]
      congr 3
      exact (set_of_getElem? hsame).symm

/-- The slots of a filled reassembler never hold more than the limit. -/
theorem Filled.receivedBytes_le (h : self.Filled) : self.receivedBytes ≤ maxManifestTotalBytes := by
  have htotal := length_flatten_le h.small
  have hcount : self.chunks.length ≤ maxChunks := by
    rw [self.sized]
    exact h.few
  have hproduct := Nat.mul_le_mul_right maxManifestChunkBytes hcount
  rw [h.received]
  exact htotal.trans (hproduct.trans (by decide))

/-- Storing a chunk a second time changes nothing. -/
theorem store_of_held (h : self.chunks[chunk.chunkIndex.toNat]? = some (some chunk.chunkPayload)) :
    self.store chunk = self := by
  ext1
  · rfl
  · exact set_of_getElem? h
  · exact if_neg (by rw [h]; simp)
  · rfl
  · rfl

/-- An accepted chunk is stored and answered by `complete`. -/
theorem insert_of_accepts (externals : Externals) (h : self.Filled)
    (haccepts : self.Accepts chunk now) :
    self.insert externals chunk now =
      ((self.store chunk).complete externals, self.store chunk) := by
  unfold insert
  rw [if_neg (Nat.not_lt.mpr haccepts.inTime), dif_neg (not_not.mpr haccepts.valid),
    dif_neg (not_not.mpr haccepts.header)]
  have hindex := chunkIndex_lt haccepts.valid haccepts.header
  rcases haccepts.slot with hfree | hsame
  · have hslot : self.chunks.get ⟨chunk.chunkIndex.toNat, hindex⟩ = none :=
      (List.getElem?_eq_some_iff.mp hfree).2
    have hstored : (self.store chunk).receivedBytes =
        self.receivedBytes + chunk.chunkPayload.length := if_pos hfree
    have hlimit := (h.store haccepts).receivedBytes_le
    rw [hstored] at hlimit
    have hword : self.receivedBytes + chunk.chunkPayload.length ≤ usizeMax :=
      hlimit.trans (by decide)
    have hsame : self.store chunk = {
        self with
        receivedBytes := self.receivedBytes + chunk.chunkPayload.length
        chunks := self.chunks.set chunk.chunkIndex.toNat (some chunk.chunkPayload)
        sized := by rw [List.length_set, self.sized] } := by
      ext <;> simp [store, hfree]
    simp only [hslot, checkedAdd_of_le hword, if_neg (Nat.not_lt.mpr hlimit), hsame]
  · have hslot : self.chunks.get ⟨chunk.chunkIndex.toNat, hindex⟩ =
        some chunk.chunkPayload := (List.getElem?_eq_some_iff.mp hsame).2
    simp only [hslot, ne_eq, not_true_eq_false, if_false, store_of_held hsame]

/-- Any other chunk is refused and leaves the reassembler as it was. -/
theorem insert_of_not_accepts (externals : Externals) (hrefuses : ¬ self.Accepts chunk now) :
    ∃ error, self.insert externals chunk now = (.error error, self) := by
  unfold insert
  split
  · exact ⟨_, rfl⟩
  · rename_i htime
    split
    · exact ⟨_, rfl⟩
    · rename_i hvalid
      split
      · exact ⟨_, rfl⟩
      · rename_i hheader
        rw [not_not] at hvalid hheader
        have hindex := chunkIndex_lt hvalid hheader
        dsimp only
        split
        · rename_i existing hslot
          split
          · exact ⟨_, rfl⟩
          · rename_i hpayload
            refine absurd ⟨Nat.not_lt.mp htime, hvalid, hheader, Or.inr ?_⟩ hrefuses
            rw [List.getElem?_eq_some_iff]
            exact ⟨hindex, by rw [← not_not.mp hpayload]; exact hslot⟩
        · rename_i hslot
          refine absurd ⟨Nat.not_lt.mp htime, hvalid, hheader, Or.inl ?_⟩ hrefuses
          rw [List.getElem?_eq_some_iff]
          exact ⟨hindex, hslot⟩

/-- No chunk changes what a reassembler collects. -/
@[simp] theorem insert_header (externals : Externals) (self : ManifestReassembler)
    (chunk : SessionManifestChunkV1) (now : Nat) :
    (self.insert externals chunk now).2.header = self.header := by
  unfold insert
  split
  · rfl
  · split
    · rfl
    · split
      · rfl
      · dsimp only
        split
        · split <;> rfl
        · split
          · rfl
          · split <;> rfl

theorem Filled.insert (h : self.Filled) (externals : Externals) (chunk : SessionManifestChunkV1)
    (now : Nat) : (self.insert externals chunk now).2.Filled := by
  by_cases haccepts : self.Accepts chunk now
  · rw [insert_of_accepts externals h haccepts]
    exact h.store haccepts
  · obtain ⟨error, hrefused⟩ := insert_of_not_accepts externals haccepts
    rw [hrefused]
    exact h

theorem filled_start (hvalid : ValidChunk first) (now timeout : Nat) :
    (start first now timeout).Filled := by
  refine ⟨hvalid.chunkCount.2, ?_, ?_⟩
  · intro payload hpayload
    have hnone := List.eq_of_mem_replicate hpayload
    cases hnone
  · simp [start, List.reduceOption_replicate_none]

theorem accepts_start (hvalid : ValidChunk first) (now timeout : Nat) :
    (start first now timeout).Accepts first now := by
  refine ⟨?_, hvalid, rfl, Or.inl ?_⟩
  · simp [start]
  · show (List.replicate first.chunkCount.toNat none)[first.chunkIndex.toNat]? = some none
    rw [List.getElem?_replicate, if_pos]
    exact hvalid.chunkIndex

/-- `new` succeeds with its first chunk stored, unless the chunk is invalid
or, being the only one, fails to complete. -/
theorem new_eq (externals : Externals) (first : SessionManifestChunkV1) (now timeout : Nat)
    (hvalid : ValidChunk first) :
    new externals first now timeout =
      (((start first now timeout).store first).complete externals).map
        fun _ => (start first now timeout).store first := by
  unfold new
  rw [if_neg (not_not.mpr hvalid),
    insert_of_accepts externals (filled_start hvalid now timeout)
      (accepts_start hvalid now timeout)]
  cases ((start first now timeout).store first).complete externals with
  | error error => rfl
  | ok answer => rfl

theorem new_eq_ok {externals : Externals} {timeout : Nat}
    (h : new externals first now timeout = .ok self) :
    ValidChunk first ∧ self = (start first now timeout).store first := by
  by_cases hvalid : ValidChunk first
  · rw [new_eq externals first now timeout hvalid] at h
    cases hcomplete : ((start first now timeout).store first).complete externals with
    | error error =>
      rw [hcomplete] at h
      cases h
    | ok answer =>
      rw [hcomplete] at h
      cases h
      exact ⟨hvalid, rfl⟩
  · unfold new at h
    rw [if_pos hvalid] at h
    cases h

/-- The first chunk may be given to `insert` once more: nothing changes, and
the answer says whether the manifest is complete. -/
theorem insert_of_new {externals : Externals} {timeout : Nat}
    (h : new externals first now timeout = .ok self) :
    ∃ answer, self.complete externals = .ok answer ∧
      self.insert externals first now = (.ok answer, self) := by
  obtain ⟨hvalid, rfl⟩ := new_eq_ok h
  have hstart := accepts_start hvalid now timeout
  have hheld : ((start first now timeout).store first).chunks[first.chunkIndex.toNat]? =
      some (some first.chunkPayload) :=
    List.getElem?_set_self (chunkIndex_lt hvalid rfl)
  have hagain : ((start first now timeout).store first).Accepts first now :=
    ⟨hstart.inTime, hvalid, rfl, Or.inr hheld⟩
  rw [new_eq externals first now timeout hvalid] at h
  cases hcomplete : ((start first now timeout).store first).complete externals with
  | error error =>
    rw [hcomplete] at h
    cases h
  | ok answer =>
    refine ⟨answer, rfl, ?_⟩
    rw [insert_of_accepts externals ((filled_start hvalid now timeout).store hstart) hagain,
      store_of_held hheld, hcomplete]

end ManifestReassembler

/-! ## What the chunks of one manifest have in common -/

theorem validateRatio_eq_ok {uncompressed compressed : Nat} :
    validateRatio uncompressed compressed = .ok () ↔
      compressed ≠ 0 ∧
        uncompressed ≤ saturatingMul compressed manifestMaxCompressionRatio := by
  unfold validateRatio
  split
  · rename_i h
    simp only [reduceCtorEq, false_iff]
    omega
  · rename_i h
    simp only [true_iff]
    omega

variable {externals : Externals} {serialized sessionId : List UInt8} {revision : UInt64}
  {compression : ManifestCompression} {sent : List SessionManifestChunkV1}

theorem chunkManifest_eq_ok :
    chunkManifest externals serialized sessionId revision compression = .ok sent ↔
      sessionId.length = 16 ∧ serialized ≠ [] ∧ serialized.length ≤ maxManifestTotalBytes ∧
      ∃ encoded, encodeManifest externals serialized compression = .ok encoded ∧
        validateRatio serialized.length encoded.length = .ok () ∧
        chunks maxManifestChunkBytes encoded ≠ [] ∧
        (chunks maxManifestChunkBytes encoded).length ≤ maxChunks ∧
        sent = (chunks maxManifestChunkBytes encoded).mapIdx
          (manifestChunk externals serialized sessionId revision compression
            (chunks maxManifestChunkBytes encoded).length) := by
  unfold chunkManifest
  split
  · rename_i hsession
    simp [hsession]
  · rename_i hsession
    rw [not_not] at hsession
    split
    · rename_i hsize
      simp only [reduceCtorEq, false_iff]
      rintro ⟨_, hne, hle, _⟩
      rcases hsize with hempty | hlong
      · exact hne hempty
      · omega
    · rename_i hsize
      rw [not_or, Nat.not_lt] at hsize
      simp only [bind_eq_ok, hsession, hsize.1, hsize.2, true_and, ne_eq, not_false_eq_true]
      constructor
      · rintro ⟨encoded, hencoded, _, hratio, hpieces⟩
        split at hpieces
        · cases hpieces
        · rename_i hcount
          rw [not_or, Nat.not_lt] at hcount
          exact ⟨encoded, hencoded, hratio, hcount.1, hcount.2, (Except.ok.inj hpieces).symm⟩
      · rintro ⟨encoded, hencoded, hratio, hne, hle, rfl⟩
        refine ⟨encoded, hencoded, (), hratio, ?_⟩
        rw [if_neg (by rw [not_or, Nat.not_lt]; exact ⟨hne, hle⟩)]

/-- A list of chunks that carries `serialized` as the pieces `pieces`: what a
receiver relies on. -/
structure Carries (externals : Externals) (serialized : List UInt8)
    (sent : List SessionManifestChunkV1) (header : ManifestHeader)
    (pieces : List (List UInt8)) : Prop where
  nonempty : sent ≠ []
  length : sent.length = pieces.length
  count : header.chunkCount.toNat = pieces.length
  valid : ∀ chunk ∈ sent, ValidChunk chunk
  headed : ∀ chunk ∈ sent, ManifestHeader.ofChunk chunk = header
  index : ∀ (place : Nat) (chunk : SessionManifestChunkV1), sent[place]? = some chunk →
    chunk.chunkIndex.toNat = place
  payload : ∀ (place : Nat) (chunk : SessionManifestChunkV1), sent[place]? = some chunk →
    pieces[place]? = some chunk.chunkPayload
  completes : ∀ self : ManifestReassembler, self.header = header →
    self.chunks.any Option.isNone = false → self.chunks.reduceOption = pieces →
    self.complete externals = .ok (some serialized)

/-- The piece a chunk carries is the one its index names. -/
theorem Carries.piece {header : ManifestHeader} {pieces : List (List UInt8)}
    (h : Carries externals serialized sent header pieces) {chunk : SessionManifestChunkV1}
    (hchunk : chunk ∈ sent) : pieces[chunk.chunkIndex.toNat]? = some chunk.chunkPayload := by
  obtain ⟨place, hplace⟩ := List.mem_iff_getElem?.mp hchunk
  rw [h.index place chunk hplace]
  exact h.payload place chunk hplace

/-- The numbers of a chunk fit their fields. -/
theorem toNat_ofNat_small {number : Nat} (h : number ≤ maxManifestTotalBytes) :
    (UInt32.ofNat number).toNat = number := by
  rw [UInt32.toNat_ofNat', Nat.mod_eq_of_lt]
  exact Nat.lt_of_le_of_lt h (by decide)

/-- The sender's checks are the receiver's: a completed reassembly of what
`encode_manifest` produced decodes to the manifest. -/
theorem complete_of_encoded (hzstd : externals.zstd.RoundTrips) {encoded : List UInt8}
    (hsmall : serialized.length ≤ maxManifestTotalBytes)
    (hencoded : encodeManifest externals serialized compression = .ok encoded)
    (hratio : validateRatio serialized.length encoded.length = .ok ()) {self : ManifestReassembler}
    (hcompression : self.header.compression = compression.wire.toInt32)
    (hsize : self.header.uncompressedSize = UInt32.ofNat serialized.length)
    (hcrc : self.header.crc = externals.crc32c serialized)
    (hfull : self.chunks.any Option.isNone = false)
    (hpieces : self.chunks.reduceOption.flatten = encoded) :
    self.complete externals = .ok (some serialized) := by
  have hexpected : self.header.uncompressedSize.toNat = serialized.length := by
    rw [hsize, toNat_ofNat_small hsmall]
  unfold ManifestReassembler.complete
  simp only [hfull, Bool.false_eq_true, if_false, hexpected, hpieces, hratio, hcompression,
    ManifestCompressionV1.tryFrom_toInt32]
  cases compression with
  | none =>
    obtain rfl : serialized = encoded := Except.ok.inj hencoded
    simp [bind, Except.bind, ManifestCompression.wire, hcrc]
  | zstd =>
    have hencode : externals.zstd.encodeAll serialized = .ok encoded := by
      unfold encodeManifest at hencoded
      cases hall : externals.zstd.encodeAll serialized with
      | error text =>
        rw [hall] at hencoded
        cases hencoded
      | ok bytes =>
        rw [hall] at hencoded
        exact congrArg _ (Except.ok.inj hencoded)
    have hread := hzstd serialized encoded (serialized.length + 1) hencode
    rw [List.take_of_length_le (Nat.le_succ _)] at hread
    simp [bind, Except.bind, ManifestCompression.wire, decodeZstdBounded, hread,
      Except.mapError, hcrc]

theorem validChunk_manifestChunk {count index : Nat} {piece : List UInt8}
    (hsession : sessionId.length = 16) (hne : serialized ≠ [])
    (hsmall : serialized.length ≤ maxManifestTotalBytes) (hcount : count ≤ maxChunks)
    (hindex : index < count) (hpiece : 0 < piece.length ∧ piece.length ≤ maxManifestChunkBytes) :
    ValidChunk (manifestChunk externals serialized sessionId revision compression count index
      piece) := by
  have hmany : maxChunks ≤ maxManifestTotalBytes := by decide
  have hcounted := toNat_ofNat_small (hcount.trans hmany)
  have hplaced := toNat_ofNat_small ((hindex.le.trans hcount).trans hmany)
  have hsized := toNat_ofNat_small hsmall
  refine ⟨rfl, hsession, ⟨?_, ?_⟩, ?_, ⟨List.ne_nil_of_length_pos hpiece.1, hpiece.2⟩, ?_, ?_⟩
  · intro hzero
    have hnone := congrArg UInt32.toNat hzero
    simp only [manifestChunk, hcounted, UInt32.toNat_zero] at hnone
    omega
  · simpa only [manifestChunk, hcounted] using hcount
  · show (UInt32.ofNat index).toNat < (UInt32.ofNat count).toNat
    rw [hplaced, hcounted]
    exact hindex
  · intro hzero
    have hnone := congrArg UInt32.toNat hzero
    simp only [manifestChunk, hsized, UInt32.toNat_zero] at hnone
    exact hne (List.eq_nil_of_length_eq_zero hnone)
  · simpa only [manifestChunk, hsized] using hsmall

/-- Every list of chunks that `chunk_manifest` returns carries its manifest. -/
theorem carries_of_chunkManifest (hzstd : externals.zstd.RoundTrips)
    (h : chunkManifest externals serialized sessionId revision compression = .ok sent) :
    ∃ header pieces, Carries externals serialized sent header pieces ∧
      header.sessionId = sessionId ∧ header.revision = revision := by
  obtain ⟨hsession, hne, hsmall, encoded, hencoded, hratio, hpieces, hcount, rfl⟩ :=
    chunkManifest_eq_ok.mp h
  generalize hcut : chunks maxManifestChunkBytes encoded = pieces at *
  have hsizes : ∀ piece ∈ pieces, 0 < piece.length ∧ piece.length ≤ maxManifestChunkBytes := by
    rw [← hcut]
    exact fun piece hpiece => mem_chunks (by decide) hpiece
  have hwords : ∀ number, number ≤ maxChunks → (UInt32.ofNat number).toNat = number :=
    fun number hnumber => toNat_ofNat_small (hnumber.trans (by decide))
  have hplace : ∀ (place : Nat) (chunk : SessionManifestChunkV1),
      (pieces.mapIdx (manifestChunk externals serialized sessionId revision compression
        pieces.length))[place]? = some chunk →
      ∃ piece, pieces[place]? = some piece ∧ place < pieces.length ∧
        chunk = manifestChunk externals serialized sessionId revision compression
          pieces.length place piece := by
    intro place chunk hchunk
    rw [List.getElem?_mapIdx, Option.map_eq_some_iff] at hchunk
    obtain ⟨piece, hpiece, rfl⟩ := hchunk
    exact ⟨piece, hpiece, (List.getElem?_eq_some_iff.mp hpiece).1, rfl⟩
  refine ⟨⟨sessionId, revision, UInt32.ofNat pieces.length, compression.wire.toInt32,
    UInt32.ofNat serialized.length, externals.crc32c serialized⟩, pieces, ?_, rfl, rfl⟩
  refine {
    nonempty := ?_
    length := by simp
    count := hwords pieces.length hcount
    valid := ?_
    headed := ?_
    index := ?_
    payload := ?_
    completes := ?_ }
  · rw [← List.length_pos_iff, List.length_mapIdx]
    exact List.length_pos_of_ne_nil hpieces
  · intro chunk hchunk
    obtain ⟨place, hat⟩ := List.mem_iff_getElem?.mp hchunk
    obtain ⟨piece, hpiece, hlt, rfl⟩ := hplace place chunk hat
    exact validChunk_manifestChunk hsession hne hsmall hcount hlt
      (hsizes piece (List.mem_of_getElem? hpiece))
  · intro chunk hchunk
    obtain ⟨place, hat⟩ := List.mem_iff_getElem?.mp hchunk
    obtain ⟨piece, _, _, rfl⟩ := hplace place chunk hat
    rfl
  · intro place chunk hat
    obtain ⟨piece, _, hlt, rfl⟩ := hplace place chunk hat
    exact hwords place (by omega)
  · intro place chunk hat
    obtain ⟨piece, hpiece, _, rfl⟩ := hplace place chunk hat
    exact hpiece
  · intro self hheader hfull hcollected
    refine complete_of_encoded hzstd hsmall hencoded hratio ?_ ?_ ?_ hfull ?_
    · rw [hheader]
    · rw [hheader]
    · rw [hheader]
    · rw [hcollected, ← hcut]
      exact flatten_chunks (by decide) encoded

/-! ## Deliveries in any order -/

/-- A chunk and the time it arrives at. -/
structure Delivery where
  chunk : SessionManifestChunkV1
  now : Nat

/-- The reassembler after a delivery. -/
def ManifestReassembler.deliver (externals : Externals) (self : ManifestReassembler)
    (delivery : Delivery) : ManifestReassembler :=
  (self.insert externals delivery.chunk delivery.now).2

/-- Every chunk index of the manifest is among the delivered ones. -/
def AllDelivered (sent delivered : List SessionManifestChunkV1) : Prop :=
  ∀ index < sent.length, ∃ chunk ∈ delivered, chunk.chunkIndex.toNat = index

/-- The reassembler has collected exactly the delivered chunks. -/
structure Collected (header : ManifestHeader) (pieces : List (List UInt8))
    (startedAt timeout : Nat) (delivered : List SessionManifestChunkV1)
    (reassembler : ManifestReassembler) : Prop where
  filled : reassembler.Filled
  headed : reassembler.header = header
  started : reassembler.startedAt = startedAt
  patience : reassembler.timeout = timeout
  agrees : Agrees pieces reassembler.chunks
  empty : ∀ index < pieces.length, reassembler.chunks[index]? = some none ↔
    ¬ ∃ chunk ∈ delivered, chunk.chunkIndex.toNat = index

section Deliveries

variable {externals : Externals} {serialized : List UInt8}
  {sent delivered : List SessionManifestChunkV1} {header : ManifestHeader}
  {pieces : List (List UInt8)} {startedAt timeout : Nat} {self : ManifestReassembler}

/-- A chunk of the manifest fits a reassembler whose slots agree with it. -/
theorem Carries.accepts (hcarries : Carries externals serialized sent header pieces)
    (hheader : self.header = header) (hagrees : Agrees pieces self.chunks)
    {chunk : SessionManifestChunkV1} (hchunk : chunk ∈ sent) {now : Nat}
    (htime : now - self.startedAt ≤ self.timeout) : self.Accepts chunk now := by
  have hpiece := hcarries.piece hchunk
  have hindex : chunk.chunkIndex.toNat < self.chunks.length := by
    rw [hagrees.length]
    exact (List.getElem?_eq_some_iff.mp hpiece).1
  refine ⟨htime, hcarries.valid chunk hchunk, ?_, ?_⟩
  · rw [hcarries.headed chunk hchunk, hheader]
  · have hslot := List.getElem?_eq_getElem hindex
    cases hheld : self.chunks[chunk.chunkIndex.toNat] with
    | none => exact Or.inl (by rw [hslot, hheld])
    | some payload =>
      rw [hheld] at hslot
      have hsame := hagrees.part _ payload hslot
      rw [hpiece] at hsame
      exact Or.inr (by rw [hslot, ← Option.some.inj hsame])

/-- Delivering a chunk of the manifest in time stores it. -/
theorem Collected.insert (hcarries : Carries externals serialized sent header pieces)
    (h : Collected header pieces startedAt timeout delivered self)
    {chunk : SessionManifestChunkV1} (hchunk : chunk ∈ sent) {now : Nat}
    (htime : now - startedAt ≤ timeout) :
    self.insert externals chunk now =
        ((self.store chunk).complete externals, self.store chunk) ∧
      Collected header pieces startedAt timeout (delivered ++ [chunk]) (self.store chunk) := by
  have haccepts : self.Accepts chunk now := by
    refine hcarries.accepts h.headed h.agrees hchunk ?_
    rw [h.started, h.patience]
    exact htime
  refine ⟨ManifestReassembler.insert_of_accepts externals h.filled haccepts, ?_⟩
  refine ⟨h.filled.store haccepts, h.headed, h.started, h.patience,
    h.agrees.set (hcarries.piece hchunk), ?_⟩
  intro index hindex
  show (self.chunks.set chunk.chunkIndex.toNat (some chunk.chunkPayload))[index]? = some none ↔ _
  have hlength := h.agrees.length
  rw [List.getElem?_set]
  by_cases hsame : chunk.chunkIndex.toNat = index
  · rw [if_pos hsame, if_pos (by omega)]
    constructor
    · intro hfree
      cases hfree
    · intro hmissing
      exact absurd ⟨chunk, by simp, hsame⟩ hmissing
  · rw [if_neg hsame, h.empty index hindex]
    apply not_congr
    constructor
    · rintro ⟨other, hother, hat⟩
      exact ⟨other, List.mem_append_left _ hother, hat⟩
    · rintro ⟨other, hother, hat⟩
      rcases List.mem_append.mp hother with hold | hnew
      · exact ⟨other, hold, hat⟩
      · rw [List.mem_singleton.mp hnew] at hat
        exact absurd hat hsame

/-- What `complete` answers depends only on which chunks were delivered. -/
theorem Collected.complete (hcarries : Carries externals serialized sent header pieces)
    (h : Collected header pieces startedAt timeout delivered self) :
    (AllDelivered sent delivered → self.complete externals = .ok (some serialized)) ∧
    (¬ AllDelivered sent delivered → self.complete externals = .ok none) := by
  constructor
  · intro hall
    have hfull : self.chunks.any Option.isNone = false := by
      rw [List.any_eq_false]
      intro slot hslot hnone
      obtain ⟨index, hat⟩ := List.mem_iff_getElem?.mp hslot
      rw [Option.isNone_iff_eq_none.mp hnone] at hat
      have hindex : index < pieces.length := by
        rw [← h.agrees.length]
        exact (List.getElem?_eq_some_iff.mp hat).1
      exact (h.empty index hindex).mp hat (hall index (by rw [hcarries.length]; exact hindex))
    exact hcarries.completes self h.headed hfull (h.agrees.reduceOption_eq hfull)
  · intro hmissing
    unfold AllDelivered at hmissing
    push Not at hmissing
    obtain ⟨index, hindex, hnever⟩ := hmissing
    rw [hcarries.length] at hindex
    have hfree := (h.empty index hindex).mpr (by
      rintro ⟨chunk, hchunk, hat⟩
      exact hnever chunk hchunk hat)
    have hnone : self.chunks.any Option.isNone = true :=
      List.any_eq_true.mpr ⟨none, List.mem_of_getElem? hfree, rfl⟩
    unfold ManifestReassembler.complete
    rw [if_pos hnone]

/-- The state after any list of deliveries in time. -/
theorem Collected.run (hcarries : Carries externals serialized sent header pieces)
    (h : Collected header pieces startedAt timeout delivered self)
    (deliveries : List Delivery)
    (hall : ∀ delivery ∈ deliveries, delivery.chunk ∈ sent ∧
      delivery.now - startedAt ≤ timeout) :
    Collected header pieces startedAt timeout (delivered ++ deliveries.map Delivery.chunk)
      (Lib.run (ManifestReassembler.deliver externals) self deliveries) := by
  induction deliveries generalizing self delivered with
  | nil => simpa using h
  | cons delivery deliveries ih =>
    obtain ⟨hchunk, htime⟩ := hall delivery List.mem_cons_self
    obtain ⟨hinsert, hnext⟩ := h.insert hcarries hchunk htime
    have hrest := ih hnext
      fun other hother => hall other (List.mem_cons_of_mem delivery hother)
    rw [run_cons, ManifestReassembler.deliver, hinsert]
    simpa using hrest

/-- `new` succeeds on any chunk of the manifest and has collected it. -/
theorem Collected.new (hcarries : Carries externals serialized sent header pieces)
    {first : SessionManifestChunkV1} (hfirst : first ∈ sent) (now timeout : Nat) :
    ∃ reassembler, ManifestReassembler.new externals first now timeout = .ok reassembler ∧
      Collected header pieces now timeout [first] reassembler := by
  have hvalid := hcarries.valid first hfirst
  have hheader := hcarries.headed first hfirst
  have hcount : first.chunkCount.toNat = pieces.length := by
    rw [← hcarries.count, ← hheader]
    rfl
  have hstart : Collected header pieces now timeout []
      (ManifestReassembler.start first now timeout) := by
    refine ⟨ManifestReassembler.filled_start hvalid now timeout, hheader, rfl, rfl, ?_, ?_⟩
    · refine ⟨by simp [ManifestReassembler.start, hcount], ?_⟩
      intro index value hvalue
      have hnone := List.eq_of_mem_replicate (List.mem_of_getElem? hvalue)
      cases hnone
    · intro index hindex
      simp [ManifestReassembler.start, hcount, hindex]
  obtain ⟨hinsert, hstored⟩ := hstart.insert hcarries hfirst (by simp : now - now ≤ timeout)
  refine ⟨(ManifestReassembler.start first now timeout).store first, ?_, hstored⟩
  rw [ManifestReassembler.new_eq externals first now timeout hvalid]
  by_cases hall : AllDelivered sent [first]
  · rw [(hstored.complete hcarries).1 hall]
    rfl
  · rw [(hstored.complete hcarries).2 hall]
    rfl

end Deliveries

/-- Chunking and reassembly are inverse. Whatever chunk of a manifest comes
first, a reassembler is created; from then on every delivery in time, of any
chunk in any order and however often, is answered with the whole manifest
once every index has been delivered, and with nothing before. Uncompressed
chunking succeeds on every manifest of 1 to 262144 bytes. -/
theorem reassemble_in_any_order (externals : Externals)
    (hzstd : externals.zstd.RoundTrips) (serialized sessionId : List UInt8)
    (revision : UInt64) (compression : ManifestCompression) :
    (∀ sent, chunkManifest externals serialized sessionId revision compression = .ok sent →
      ∀ (first : Delivery) (timeout : Nat) (later : List Delivery), first.chunk ∈ sent →
      (∀ delivery ∈ later, delivery.chunk ∈ sent ∧ delivery.now - first.now ≤ timeout) →
      ∃ reassembler,
        ManifestReassembler.new externals first.chunk first.now timeout = .ok reassembler ∧
        ∀ before delivery after, later = before ++ delivery :: after →
          ∀ answer, answer = ((run (ManifestReassembler.deliver externals) reassembler
              before).insert externals delivery.chunk delivery.now).1 →
            (AllDelivered sent (first.chunk :: (before ++ [delivery]).map Delivery.chunk) →
              answer = .ok (some serialized)) ∧
            (¬ AllDelivered sent (first.chunk :: (before ++ [delivery]).map Delivery.chunk) →
              answer = .ok none)) ∧
    (sessionId.length = 16 → 1 ≤ serialized.length → serialized.length ≤ 262144 →
      ∃ sent, chunkManifest externals serialized sessionId revision .none = .ok sent) := by
  constructor
  · intro sent hsent first timeout later hfirst hlater
    obtain ⟨header, pieces, hcarries, _⟩ := carries_of_chunkManifest hzstd hsent
    obtain ⟨reassembler, hnew, hcollected⟩ := Collected.new hcarries hfirst first.now timeout
    refine ⟨reassembler, hnew, ?_⟩
    rintro before delivery after rfl answer rfl
    have hbefore := hcollected.run hcarries before fun other hother =>
      hlater other (List.mem_append_left _ hother)
    obtain ⟨hchunk, htime⟩ := hlater delivery
      (List.mem_append_right _ List.mem_cons_self)
    obtain ⟨hinsert, hstored⟩ := hbefore.insert hcarries hchunk htime
    rw [hinsert]
    simpa using hstored.complete hcarries
  · intro hsession hpositive hsmall
    refine ⟨_, chunkManifest_eq_ok.mpr ⟨hsession, ?_, hsmall, serialized, rfl, ?_, ?_, ?_, rfl⟩⟩
    · exact List.ne_nil_of_length_pos hpositive
    · rw [validateRatio_eq_ok]
      refine ⟨by omega, ?_⟩
      simp only [saturatingMul, manifestMaxCompressionRatio, usizeMax]
      omega
    · rw [← List.length_pos_iff, length_chunks]
      simp only [maxManifestChunkBytes]
      omega
    · rw [length_chunks]
      simp only [maxManifestChunkBytes, maxChunks, maxManifestTotalBytes]
      omega

/-- 9000 bytes are sent in two chunks. -/
def twoChunks : List SessionManifestChunkV1 :=
  (chunkManifest (wireExternals [] [] [] [] []) (List.replicate 9000 1) (List.replicate 16 7) 4
    .none).toOption.get (by decide +kernel)

/-- The second chunk first, then the first one, gives the manifest back. -/
theorem reassemble_in_any_order_swapped :
    ∃ first second reassembler, twoChunks = [first, second] ∧
      ManifestReassembler.new (wireExternals [] [] [] [] []) second 0 10 = .ok reassembler ∧
      (reassembler.insert (wireExternals [] [] [] [] []) first 5).1 =
        .ok (some (List.replicate 9000 1)) := by
  have hsent : chunkManifest (wireExternals [] [] [] [] []) (List.replicate 9000 1)
      (List.replicate 16 7) 4 .none = .ok twoChunks := eq_ok_of_isSome _
  have hindices : twoChunks.map SessionManifestChunkV1.chunkIndex = [0, 1] := by
    decide +kernel
  obtain ⟨first, rest, hchunks, hfirst, hrest⟩ := List.map_eq_cons_iff.mp hindices
  obtain ⟨second, none, rfl, hsecond, hnone⟩ := List.map_eq_cons_iff.mp hrest
  obtain rfl := List.map_eq_nil_iff.mp hnone
  rw [hchunks] at hsent
  obtain ⟨reassembler, hnew, hanswer⟩ :=
    (reassemble_in_any_order (wireExternals [] [] [] [] []) Zstd.stored_roundTrips
      (List.replicate 9000 1) (List.replicate 16 7) 4 .none).1 _ hsent ⟨second, 0⟩ 10
      [⟨first, 5⟩] (by simp) (by simp)
  refine ⟨first, second, reassembler, hchunks, hnew, ?_⟩
  refine (hanswer [] ⟨first, 5⟩ [] rfl _ rfl).1 ?_
  intro index hindex
  have hcases : index = 0 ∨ index = 1 := by
    simp only [List.length_cons, List.length_nil] at hindex
    omega
  rcases hcases with rfl | rfl
  · exact ⟨first, by simp, by rw [hfirst]; rfl⟩
  · exact ⟨second, by simp, by rw [hsecond]; rfl⟩

end RobotMulticam.Codec
