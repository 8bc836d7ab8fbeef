import RobotMulticam.Codec.Sei

/-!
# Messages in the `sei_rbsp` grammar

The RBSP of an SEI NAL unit is a list of messages, each with its type and
its size written as 0xFF-extended numbers, and a byte of trailing bits
behind the last one. The grammar allows every payload type.

`parseMessages_seiSyntax` says what `parse_sei_nal` makes of any such RBSP. It
recognises the trailing bits by looking at one byte, and `0x80` is also how a
message of type 128 starts: the loop ends there and whatever follows is never
looked at.
-/

namespace RobotMulticam.Codec

open RobotMulticam.Lib

/-! ## Overlong numbers -/

/-- A number that does not fit a `usize` is refused, from any running value. -/
theorem takeFfEncodedFrom_overflow (before after : List UInt8) (value number : Nat)
    (hvalue : value ≤ usizeMax) (hover : usizeMax < value + number) :
    takeFfEncodedFrom (before ++ ffEncoded number ++ after) value before.length =
      fail .malformedSei := by
  induction number using Nat.strongRecOn generalizing before value with
  | ind number ih =>
    rw [ffEncoded]
    split
    · rename_i hlong
      have hbyte : (255 : UInt8).toNat = 255 := rfl
      have hget : (before ++ 255 :: ffEncoded (number - 255) ++ after)[before.length]? =
          some 255 := by simp
      by_cases hfits : value + 255 ≤ usizeMax
      · have hrest := ih (number - 255) (by omega) (before ++ [255]) (value + 255) hfits (by omega)
        rw [takeFfEncodedFrom_of_getElem? hget (by omega), hbyte, if_neg (by simp)]
        simpa using hrest
      · exact takeFfEncodedFrom_of_overflow hget (by omega)
    · rename_i hshort
      have hbyte : (UInt8.ofNat number).toNat = number := by
        rw [UInt8.toNat_ofNat']
        omega
      have hget : (before ++ [UInt8.ofNat number] ++ after)[before.length]? =
          some (UInt8.ofNat number) := by simp
      exact takeFfEncodedFrom_of_overflow hget (by omega)

/-- The first byte of an encoded number tells 128 from every other one. -/
theorem ffEncoded_head (number : Nat) :
    (ffEncoded number).head? = some 0x80 ↔ number = 128 := by
  rw [ffEncoded]
  split
  · rename_i hlong
    simp only [List.head?_cons, Option.some.injEq]
    exact ⟨fun hsame => absurd hsame (by decide), fun hsame => absurd hlong (by omega)⟩
  · rename_i hshort
    simp only [List.head?_cons, Option.some.injEq]
    constructor
    · intro hsame
      have hnumber := congrArg UInt8.toNat hsame
      rw [UInt8.toNat_ofNat'] at hnumber
      have hbyte : (0x80 : UInt8).toNat = 128 := rfl
      omega
    · rintro rfl
      rfl

theorem ffEncoded_ne_nil (number : Nat) : ffEncoded number ≠ [] := by
  rw [ffEncoded]
  split <;> simp

/-! ## The grammar -/

/-- An SEI message of any type; user data starts with its UUID. -/
structure SeiMessage where
  payloadType : Nat
  payload : List UInt8
  identified : payloadType = seiUserDataUnregistered → 16 ≤ payload.length

namespace SeiMessage

variable (message : SeiMessage)

/-- Type, size and payload. -/
def bytes : List UInt8 :=
  ffEncoded message.payloadType ++ ffEncoded message.payload.length ++ message.payload

/-- The UUID and the rest of the payload, for user data. -/
def userData : Option UserDataUnregistered :=
  if h : message.payloadType = seiUserDataUnregistered then
    some ⟨⟨message.payload.take 16, by
      rw [List.length_take]
      exact Nat.min_eq_left (message.identified h)⟩, message.payload.drop 16⟩
  else none

/-- A message that a user-data message is written as. -/
def ofUserData (message : UserDataUnregistered) : SeiMessage where
  payloadType := seiUserDataUnregistered
  payload := message.uuid.bytes ++ message.payload
  identified := by
    intro _
    rw [List.length_append, message.uuid.size]
    exact Nat.le_add_right 16 _

/-- The parser takes the first byte of the message for trailing bits. -/
def LooksTrailing : Prop := message.payloadType = 128

instance (message : SeiMessage) : Decidable message.LooksTrailing :=
  inferInstanceAs (Decidable (_ = _))

theorem userData_isNone {message : SeiMessage} :
    message.userData = none ↔ message.payloadType ≠ seiUserDataUnregistered := by
  unfold userData
  split
  · rename_i htype
    simp [htype]
  · rename_i htype
    simp [htype]

@[simp] theorem userData_ofUserData (message : UserDataUnregistered) :
    (ofUserData message).userData = some message := by
  have hid := message.uuid.size
  have htake : (message.uuid.bytes ++ message.payload).take 16 = message.uuid.bytes :=
    List.take_left' hid
  have hdrop : (message.uuid.bytes ++ message.payload).drop 16 = message.payload :=
    List.drop_left' hid
  simp [userData, ofUserData, htake, hdrop]

theorem bytes_length :
    message.bytes.length = (ffEncoded message.payloadType).length +
      (ffEncoded message.payload.length).length + message.payload.length := by
  simp [bytes]
  omega

theorem bytes_head : message.bytes.head? = some 0x80 ↔ message.LooksTrailing := by
  rw [bytes, List.append_assoc, List.head?_append_of_ne_nil _ (ffEncoded_ne_nil _)]
  exact ffEncoded_head _

end SeiMessage

variable (messages : List SeiMessage)

/-- `sei_rbsp`: the messages and the trailing bits. -/
def seiSyntax : List UInt8 :=
  messages.flatMap SeiMessage.bytes ++ [0x80]

/-- The NAL unit around it. -/
def seiNal (header : UInt8) (messages : List SeiMessage) : List UInt8 :=
  header :: addEmulationPrevention (seiSyntax messages)

/-! ## One message -/

section Message

variable (before after : List UInt8) (message : SeiMessage)

theorem takeFfEncoded_payloadSize
    (fits : (before ++ message.bytes ++ after).length ≤ usizeMax) :
    takeFfEncoded (before ++ message.bytes ++ after)
        (before.length + (ffEncoded message.payloadType).length) =
      .ok (message.payload.length, before.length + (ffEncoded message.payloadType).length +
        (ffEncoded message.payload.length).length) := by
  have hsize : message.payload.length ≤ usizeMax := by
    rw [List.length_append, List.length_append, message.bytes_length] at fits
    omega
  have hread := takeFfEncoded_ffEncoded (before ++ ffEncoded message.payloadType)
    (message.payload ++ after) hsize
  simpa [SeiMessage.bytes] using hread

/-- The two slices the parser takes from the payload. -/
theorem slice_payload {start finish : Nat} (hle : start ≤ finish)
    (hfinish : finish ≤ message.payload.length) :
    (slice (before ++ message.bytes ++ after)
        (before.length + (ffEncoded message.payloadType).length +
          (ffEncoded message.payload.length).length + start)
        (before.length + (ffEncoded message.payloadType).length +
          (ffEncoded message.payload.length).length + finish) : Outcome CodecError (List UInt8)) =
      .ok ((message.payload.drop start).take (finish - start)) := by
  set front := before ++ ffEncoded message.payloadType ++ ffEncoded message.payload.length
    with hfront
  have hshape : before ++ message.bytes ++ after = front ++ (message.payload ++ after) := by
    simp [hfront, SeiMessage.bytes]
  have hlength : before.length + (ffEncoded message.payloadType).length +
      (ffEncoded message.payload.length).length = front.length := by
    simp only [hfront, List.length_append]
  rw [hshape, hlength, slice_of_le (by omega) (by simp; omega), List.drop_length_add_append,
    List.drop_append_of_le_length (by omega), List.take_append_of_le_length (by simp; omega)]
  congr 2
  omega

/-- One turn of the loop reads one message. -/
theorem parseMessage_bytes (htype : message.payloadType ≤ usizeMax)
    (fits : (before ++ message.bytes ++ after).length ≤ usizeMax) :
    parseMessage (before ++ message.bytes ++ after) before.length =
      .ok (message.userData, before.length + message.bytes.length) := by
  have hreadType : takeFfEncoded (before ++ message.bytes ++ after) before.length =
      .ok (message.payloadType, before.length + (ffEncoded message.payloadType).length) := by
    have hread := takeFfEncoded_ffEncoded before
      (ffEncoded message.payload.length ++ message.payload ++ after) htype
    simpa [SeiMessage.bytes] using hread
  have hreadSize := takeFfEncoded_payloadSize before after message fits
  have htotal : (before ++ message.bytes ++ after).length =
      before.length + message.bytes.length + after.length := by
    simp only [List.length_append]
  have hlength := message.bytes_length
  have hfinish : (checkedAdd (before.length + (ffEncoded message.payloadType).length +
      (ffEncoded message.payload.length).length) message.payload.length).filter
        (fun finish => finish ≤ (before ++ message.bytes ++ after).length) =
      some (before.length + message.bytes.length) := by
    rw [checkedAdd_of_le (by omega), Option.filter_some, if_pos (by simp; omega)]
    congr 1
    omega
  unfold parseMessage
  rw [hreadType, ok_bind]
  simp only [hreadSize, ok_bind, hfinish, okOr_some]
  by_cases huser : message.payloadType = seiUserDataUnregistered
  · have hlong := message.identified huser
    have hid := slice_payload before after message (Nat.zero_le 16) hlong
    have hrest := slice_payload before after message hlong le_rfl
    have hend : before.length + (ffEncoded message.payloadType).length +
        (ffEncoded message.payload.length).length + message.payload.length =
        before.length + message.bytes.length := by omega
    rw [Nat.add_zero, List.drop_zero, Nat.sub_zero] at hid
    rw [hend, List.take_of_length_le (by rw [List.length_drop])] at hrest
    have huuid : (message.payload.take 16).length = 16 := by
      rw [List.length_take]
      exact Nat.min_eq_left hlong
    rw [if_pos huser, if_neg (by omega), hid, ok_bind, Uuid.fromSlice, dif_pos huuid, okOr_some,
      ok_bind, hrest, SeiMessage.userData, dif_pos huser]
    rfl
  · rw [if_neg huser, SeiMessage.userData, dif_neg huser]
    rfl

/-- A payload type that does not fit is refused. -/
theorem parseMessage_overflow (htype : usizeMax < message.payloadType) :
    parseMessage (before ++ message.bytes ++ after) before.length = fail .malformedSei := by
  have hread := takeFfEncodedFrom_overflow before
    (ffEncoded message.payload.length ++ message.payload ++ after) 0 message.payloadType
    (Nat.zero_le _) (by omega)
  have hreadType : takeFfEncoded (before ++ message.bytes ++ after) before.length =
      fail .malformedSei := by
    simpa [takeFfEncoded, SeiMessage.bytes] using hread
  unfold parseMessage
  rw [hreadType]
  rfl

end Message

/-! ## The loop -/

/-- The messages in front of the first that looks like trailing bits. -/
def visible : List SeiMessage :=
  messages.takeWhile fun message => ¬ message.LooksTrailing

/-- That message and the ones behind it. -/
def hidden : List SeiMessage :=
  messages.dropWhile fun message => ¬ message.LooksTrailing

theorem visible_append_hidden : visible messages ++ hidden messages = messages :=
  List.takeWhile_append_dropWhile

theorem visible_cons_of_trailing {message : SeiMessage} (rest : List SeiMessage)
    (h : message.LooksTrailing) : visible (message :: rest) = [] := by
  simp [visible, h]

theorem visible_cons {message : SeiMessage} (rest : List SeiMessage)
    (h : ¬ message.LooksTrailing) : visible (message :: rest) = message :: visible rest := by
  simp [visible, h]

/-- The loop reads the visible messages, and fails at a type that does not
fit. `before` is what was read. -/
theorem parseMessages_seiSyntax (before : List UInt8) (messages : List SeiMessage)
    (fits : (before ++ seiSyntax messages).length ≤ usizeMax) :
    parseMessages (before ++ seiSyntax messages) before.length =
      if ∀ message ∈ visible messages, message.payloadType ≤ usizeMax then
        .ok ((visible messages).filterMap SeiMessage.userData)
      else fail .malformedSei := by
  induction messages generalizing before with
  | nil =>
    rw [parseMessages, if_neg (by simp [seiSyntax])]
    simp [visible]
  | cons message rest ih =>
    have hshape : before ++ seiSyntax (message :: rest) =
        before ++ message.bytes ++ seiSyntax rest := by simp [seiSyntax]
    have hfirst : (before ++ message.bytes ++ seiSyntax rest)[before.length]? =
        message.bytes.head? := by
      rw [List.append_assoc, List.getElem?_append_right le_rfl, Nat.sub_self,
        ← List.head?_eq_getElem?]
      exact List.head?_append_of_ne_nil _ (by simp [SeiMessage.bytes, ffEncoded_ne_nil])
    rw [hshape] at fits ⊢
    by_cases htrailing : message.LooksTrailing
    · rw [parseMessages, if_neg (by rw [hfirst, message.bytes_head.mpr htrailing]; simp),
        visible_cons_of_trailing rest htrailing]
      simp
    · have hinside : before.length < (before ++ message.bytes ++ seiSyntax rest).length := by
        simp [seiSyntax]
      have hstart : (before ++ message.bytes ++ seiSyntax rest)[before.length]? ≠ some 0x80 := by
        rw [hfirst]
        exact fun hsame => htrailing (message.bytes_head.mp hsame)
      rw [parseMessages_turn hinside hstart, visible_cons rest htrailing]
      by_cases htype : message.payloadType ≤ usizeMax
      · have hrest := ih (before ++ message.bytes) fits
        rw [List.length_append] at hrest
        rw [parseMessage_bytes before (seiSyntax rest) message htype fits, ok_bind, hrest]
        by_cases hlater : ∀ message ∈ visible rest, message.payloadType ≤ usizeMax
        · have hcons : (message :: visible rest).filterMap SeiMessage.userData =
              message.userData.toList ++ (visible rest).filterMap SeiMessage.userData := by
            cases hdata : message.userData <;> simp [hdata]
          have hall : ∀ read ∈ message :: visible rest, read.payloadType ≤ usizeMax :=
            List.forall_mem_cons.mpr ⟨htype, hlater⟩
          rw [if_pos hlater, if_pos hall, ok_bind, hcons]
        · rw [if_neg hlater, if_neg (fun hall => hlater (List.forall_mem_cons.mp hall).2)]
          rfl
      · rw [parseMessage_overflow before (seiSyntax rest) message (by omega),
          if_neg (fun hall => htype (hall message List.mem_cons_self))]
        rfl

theorem parseSeiNal_seiNal {header : UInt8} (hheader : header &&& 0x1f = h264NalSei)
    (messages : List SeiMessage) (fits : (seiNal header messages).length ≤ isizeMax) :
    parseSeiNal (seiNal header messages) =
      if ∀ message ∈ visible messages, message.payloadType ≤ usizeMax then
        .ok ((visible messages).filterMap SeiMessage.userData)
      else fail .malformedSei := by
  have hlen : (seiSyntax messages).length ≤ usizeMax := by
    have hshorter := length_le_addFrom 0 (seiSyntax messages)
    simp only [seiNal, addEmulationPrevention, List.length_cons, isizeMax] at fits
    simp only [usizeMax]
    omega
  have hslice : (slice (seiNal header messages) 1 (seiNal header messages).length :
      Outcome CodecError (List UInt8)) = .ok (addEmulationPrevention (seiSyntax messages)) := by
    rw [slice_of_le (by simp [seiNal]) le_rfl]
    simp [seiNal]
  have htype : nalUnitType (seiNal header messages) = some h264NalSei := congrArg some hheader
  unfold parseSeiNal
  rw [if_neg (not_not.mpr htype), hslice, ok_bind, removeEmulationPrevention_add, ok_bind]
  exact parseMessages_seiSyntax [] messages hlen

/-- The parser finds every message exactly when none is user data behind one
of type 128, and no type before that overflows. -/
theorem parse_finds_messages_iff (header : UInt8) (hheader : header &&& 0x1f = h264NalSei)
    (messages : List SeiMessage) (fits : (seiNal header messages).length ≤ isizeMax) :
    parseSeiNal (seiNal header messages) = .ok (messages.filterMap SeiMessage.userData) ↔
      (∀ message ∈ hidden messages, message.payloadType ≠ seiUserDataUnregistered) ∧
        ∀ message ∈ visible messages, message.payloadType ≤ usizeMax := by
  have hsplit : messages.filterMap SeiMessage.userData =
      (visible messages).filterMap SeiMessage.userData ++
        (hidden messages).filterMap SeiMessage.userData := by
    rw [← List.filterMap_append, visible_append_hidden]
  have hnone : (hidden messages).filterMap SeiMessage.userData = [] ↔
      ∀ message ∈ hidden messages, message.payloadType ≠ seiUserDataUnregistered := by
    rw [List.filterMap_eq_nil_iff]
    exact forall₂_congr fun message _ => SeiMessage.userData_isNone
  rw [parseSeiNal_seiNal hheader messages fits, hsplit, ← hnone]
  split
  · rename_i hsmall
    rw [Except.ok.injEq, List.self_eq_append_right]
    exact (and_iff_left hsmall).symm
  · rename_i hlarge
    exact iff_of_false (by simp) (fun hall => hlarge hall.2)

/-- Padding of type 3 and user data. -/
def paddedMessages : List SeiMessage :=
  [⟨3, [0xff], fun h => nomatch h⟩, .ofUserData ⟨Uuid.ofNat 1, [7]⟩]

theorem parse_finds_messages_iff_padded :
    parseSeiNal (seiNal h264NalSei paddedMessages) = .ok [⟨Uuid.ofNat 1, [7]⟩] := by
  have hdata : paddedMessages.filterMap SeiMessage.userData = [⟨Uuid.ofNat 1, [7]⟩] := by
    decide +kernel
  rw [← hdata]
  exact (parse_finds_messages_iff h264NalSei (by decide) paddedMessages (by decide +kernel)).mpr
    (by decide +kernel)

/-- User data behind a message of type 128. -/
def shadowed : List SeiMessage :=
  [⟨128, [], fun h => nomatch h⟩, .ofUserData ⟨Uuid.ofNat 1, [7]⟩]

/-- The parser returns nothing, and reports no error. -/
theorem shadowed_message_not_found :
    parseSeiNal (seiNal h264NalSei shadowed) = .ok [] ∧
      shadowed.filterMap SeiMessage.userData = [⟨Uuid.ofNat 1, [7]⟩] := by
  decide +kernel

/-! ## Messages the injectors write -/

/-- A written SEI NAL unit parses to exactly the message it was written
from. -/
theorem parseSeiNal_seiNalPayload (message : UserDataUnregistered)
    (fits : (seiNalPayload message).length ≤ isizeMax) :
    parseSeiNal (seiNalPayload message) = .ok [message] := by
  have hwritten : seiNalPayload message = seiNal h264NalSei [.ofUserData message] := by
    simp [seiNalPayload, seiNal, seiRbsp, seiSyntax, SeiMessage.bytes, SeiMessage.ofUserData,
      message.uuid.size]
  have hvisible : visible [.ofUserData message] = [SeiMessage.ofUserData message] :=
    visible_cons [] (show seiUserDataUnregistered ≠ 128 by decide)
  rw [hwritten] at fits ⊢
  rw [parseSeiNal_seiNal rfl _ fits, hvisible, if_pos]
  · simp
  · rintro written hmem
    obtain rfl := List.mem_singleton.mp hmem
    exact show seiUserDataUnregistered ≤ usizeMax by decide

end RobotMulticam.Codec
