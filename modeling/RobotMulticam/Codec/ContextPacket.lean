import RobotMulticam.Codec.AccessUnit
import RobotMulticam.Protocol.Wire

/-!
# The size of context packets

A context travels inside a packet, and one limit guards both: the encoder
holds it against the bytes of the context, the decoder against the bytes of
the packet around them. The packet adds its version, the length of the
context and a checksum, so a context just below the limit leaves the encoder
in a packet that no decoder accepts.

The packet's size is that of its protobuf form (`Wire`); that reading undoes
writing is an assumption of the statements.
-/

namespace RobotMulticam.Codec

open RobotMulticam.Lib RobotMulticam.Protocol

/-! ## Wire sizes -/

theorem length_varint_of_lt {value : Nat} (h : value < 128) : (varint value).length = 1 := by
  simp [varint, varint.go, h]

theorem length_varint_of_lt_sq {value : Nat} (h : 128 ≤ value) (hlt : value < 128 * 128) :
    (varint value).length = 2 := by
  have hrest : value / 128 < 128 := Nat.div_lt_of_lt_mul hlt
  simp [varint, varint.go, Nat.not_lt.mpr h, hrest]

theorem length_varint_go_le (fuel value : Nat) : (varint.go fuel value).length ≤ fuel := by
  induction fuel generalizing value with
  | zero => simp [varint.go]
  | succ fuel ih =>
    unfold varint.go
    split
    · simp
    · have htail := ih (value / 128)
      simp only [List.length_cons]
      omega

/-- The bytes a packet spends on its checksum. -/
def checksumBytes (checksum : UInt32) : Nat := (uint32Field 3 checksum).length

theorem checksumBytes_le (checksum : UInt32) : checksumBytes checksum ≤ 11 := by
  unfold checksumBytes uint32Field
  split
  · simp
  · have hvalue := length_varint_go_le 10 checksum.toNat
    have hkey : (fieldKey 3 0).length = 1 := rfl
    rw [List.length_append, hkey, varint]
    omega

/-- The packet fits the limit exactly when context and checksum leave room
for the version and the length. -/
theorem length_packet_le_iff {exact : List UInt8} (checksum : UInt32)
    (hexact : exact.length ≤ maxAnchorContextPacketBytes) :
    (AnchorFrameContextPacketV1.mk 1 exact checksum).encode.length ≤
        maxAnchorContextPacketBytes ↔
      exact.length + checksumBytes checksum + 5 ≤ maxAnchorContextPacketBytes := by
  have hchecksum := checksumBytes_le checksum
  have hversion : (uint32Field 1 1).length = 2 := rfl
  have hkey : (fieldKey 2 2).length = 1 := rfl
  have hlength : (AnchorFrameContextPacketV1.mk 1 exact checksum).encode.length =
      2 + (bytesField 2 exact).length + checksumBytes checksum := by
    simp [AnchorFrameContextPacketV1.encode, hversion, checksumBytes, Nat.add_assoc]
  rw [hlength]
  simp only [maxAnchorContextPacketBytes] at hexact ⊢
  unfold bytesField
  split
  · rename_i hempty
    simp only [hempty, List.length_nil]
    omega
  · rw [delimitedField, List.length_append, List.length_append, hkey]
    -- the length takes one byte far below the limit, and two around it
    by_cases hshort : exact.length < 128
    · rw [length_varint_of_lt hshort]
      omega
    · rw [length_varint_of_lt_sq (Nat.le_of_not_lt hshort) (by omega)]
      omega

/-! ## What the encoder writes -/

/-- The packet the encoder puts around a context. -/
def contextPacket (externals : Externals) (context : AnchorFrameContextV1) :
    AnchorFrameContextPacketV1 :=
  ⟨1, externals.context.encodeToVec context,
    externals.crc32c (externals.context.encodeToVec context)⟩

section Packets

variable {externals : Externals} {context : AnchorFrameContextV1}

theorem encodeAnchorContextPacket_eq_ok {bytes : List UInt8} :
    encodeAnchorContextPacket externals context = .ok bytes ↔
      (externals.context.encodeToVec context).length ≤ maxAnchorContextPacketBytes ∧
      bytes = externals.packet.encodeToVec (contextPacket externals context) := by
  unfold encodeAnchorContextPacket
  dsimp only
  split
  · rename_i hlarge
    simp [Nat.not_le.mpr hlarge]
  · rename_i hfits
    simp [Nat.le_of_not_lt hfits, contextPacket, eq_comm]

/-- Every packet of the encoder that fits is read back. -/
theorem decodeAnchorContextPacket_of_le {packet : AnchorFrameContextPacketV1}
    {bytes : List UInt8} (hbytes : bytes.length ≤ maxAnchorContextPacketBytes)
    (hpacket : externals.packet.decode bytes = some packet)
    (hchecksum : externals.crc32c packet.serializedContext = packet.payloadCrc32c)
    (hcontext : externals.context.decode packet.serializedContext = some context) :
    decodeAnchorContextPacket externals bytes = .ok (packet, context) := by
  rw [decodeAnchorContextPacket, if_neg (Nat.not_lt.mpr hbytes), hpacket]
  dsimp only
  rw [if_neg (not_not.mpr hchecksum), hcontext]

theorem decodeAnchorContextPacket_of_lt {bytes : List UInt8}
    (h : maxAnchorContextPacketBytes < bytes.length) :
    decodeAnchorContextPacket externals bytes =
      .error (.payloadTooLarge maxAnchorContextPacketBytes bytes.length) := by
  rw [decodeAnchorContextPacket, if_pos h]

/-- **Decodable packets.** What the encoder writes for a context is read back,
with the exact bytes of the context and their checksum, exactly when the
encoder refuses the context or its packet leaves five bytes to the limit. -/
theorem context_packet_decodable_iff (externals : Externals) (context : AnchorFrameContextV1)
    (hcontext : externals.context.decode (externals.context.encodeToVec context) = some context)
    (hpacket : externals.packet.decode
      (externals.packet.encodeToVec (contextPacket externals context)) =
        some (contextPacket externals context))
    (hsize : (externals.packet.encodeToVec (contextPacket externals context)).length =
      (contextPacket externals context).encode.length) :
    let exact := externals.context.encodeToVec context
    (∀ bytes, encodeAnchorContextPacket externals context = .ok bytes →
      ∃ packet, decodeAnchorContextPacket externals bytes = .ok (packet, context) ∧
        packet.serializedContext = exact ∧ packet.payloadCrc32c = externals.crc32c exact) ↔
    maxAnchorContextPacketBytes < exact.length ∨
      exact.length + checksumBytes (externals.crc32c exact) + 5 ≤ maxAnchorContextPacketBytes := by
  intro exact
  constructor
  · intro hdecodes
    by_contra hbetween
    obtain ⟨hfits, hover⟩ := not_or.mp hbetween
    have hfits := Nat.le_of_not_lt hfits
    obtain ⟨packet, hdecoded, _⟩ :=
      hdecodes _ (encodeAnchorContextPacket_eq_ok.mpr ⟨hfits, rfl⟩)
    rw [← length_packet_le_iff _ hfits] at hover
    rw [decodeAnchorContextPacket_of_lt (hsize ▸ Nat.lt_of_not_le hover)] at hdecoded
    cases hdecoded
  · intro hroom bytes hencoded
    obtain ⟨hfits, rfl⟩ := encodeAnchorContextPacket_eq_ok.mp hencoded
    have hroom := hroom.resolve_left (Nat.not_lt.mpr hfits)
    rw [← length_packet_le_iff _ hfits] at hroom
    exact ⟨_, decodeAnchorContextPacket_of_le (hsize.trans_le hroom) hpacket rfl hcontext, rfl,
      rfl⟩

end Packets

/-- A context with a bitmap of the given size. -/
def bitmapContext (size : Nat) : AnchorFrameContextV1 where
  featureValidityBitmap := List.replicate size 0xff

/-- Externals that read the context and its packet. -/
def bitmapExternals (size : Nat) : Externals :=
  wireExternals [] [bitmapContext size] [contextPacket (wireExternals [] [] [] [] [])
    (bitmapContext size)] [] []

theorem length_bitmapContext {size : Nat} (h : 128 ≤ size) (hlt : size < 128 * 128) :
    (bitmapContext size).encode.length = size + 3 := by
  have hne : List.replicate size (0xff : UInt8) ≠ [] := by
    simp
    omega
  have hkey : (fieldKey 13 2).length = 1 := rfl
  have hencode : (bitmapContext size).encode =
      delimitedField 13 (List.replicate size 0xff) := by
    simp [bitmapContext, AnchorFrameContextV1.encode, uint32Field, fixed64Field, floatsField,
      enumField, enumsField, stringField, bytesField, hne]
  rw [hencode, delimitedField]
  simp [length_varint_of_lt_sq h hlt, hkey]
  omega

theorem context_packet_decodable_iff_short :
    (encodeAnchorContextPacket (bitmapExternals 4) (bitmapContext 4)).toOption.isSome = true ∧
      ∀ bytes, encodeAnchorContextPacket (bitmapExternals 4) (bitmapContext 4) = .ok bytes →
        ∃ packet, decodeAnchorContextPacket (bitmapExternals 4) bytes =
            .ok (packet, bitmapContext 4) ∧
          packet.serializedContext = (bitmapContext 4).encode ∧
          packet.payloadCrc32c = crc32c (bitmapContext 4).encode :=
  ⟨by decide +kernel,
    (context_packet_decodable_iff (bitmapExternals 4) (bitmapContext 4) (by decide +kernel)
      (by decide +kernel) (by decide +kernel)).mpr (Or.inr (by decide +kernel))⟩

/-- A context of exactly the limit is encoded, and its packet is refused. -/
theorem context_packet_over_limit :
    ∃ bytes, encodeAnchorContextPacket (bitmapExternals 8189) (bitmapContext 8189) = .ok bytes ∧
      decodeAnchorContextPacket (bitmapExternals 8189) bytes =
        .error (.payloadTooLarge 8192 bytes.length) := by
  have hexact : (bitmapContext 8189).encode.length = 8192 :=
    length_bitmapContext (by decide) (by decide)
  have hfits : (bitmapContext 8189).encode.length ≤ maxAnchorContextPacketBytes := hexact.le
  refine ⟨_, encodeAnchorContextPacket_eq_ok.mpr ⟨hfits, rfl⟩,
    decodeAnchorContextPacket_of_lt (Nat.lt_of_not_le ?_)⟩
  intro hle
  have hover := (length_packet_le_iff _ hfits).mp hle
  rw [hexact, maxAnchorContextPacketBytes] at hover
  omega

end RobotMulticam.Codec
