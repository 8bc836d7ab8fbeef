import RobotMulticam.Codec.Emulation

/-!
# User-data-unregistered SEI messages

`make_user_data_sei` writes one message into a SEI NAL unit of its own;
`parse_sei_nal` reads the user-data messages out of any SEI NAL unit. The
parser walks the RBSP with a cursor, so its model keeps the cursor and the
whole buffer, and every slice it takes may panic in the model.
-/

namespace RobotMulticam.Codec

open RobotMulticam.Lib

def h264NalSei : UInt8 := 6

def seiUserDataUnregistered : Nat := 5

structure UserDataUnregistered where
  uuid : Uuid
  payload : List UInt8
  deriving DecidableEq

/-! ## 0xFF-extended numbers -/

/-- The bytes `push_ff_encoded` appends. -/
def ffEncoded (value : Nat) : List UInt8 :=
  if 255 ≤ value then 255 :: ffEncoded (value - 255) else [UInt8.ofNat value]
termination_by value

/-- The loop of `take_ff_encoded`: the value and the cursor behind it. -/
def takeFfEncodedFrom (bytes : List UInt8) (value cursor : Nat) :
    Outcome CodecError (Nat × Nat) :=
  match _hget : bytes[cursor]? with
  | none => fail .malformedSei
  | some byte =>
    match checkedAdd value byte.toNat with
    | none => fail .malformedSei
    | some sum =>
      if byte ≠ 255 then .ok (sum, cursor + 1)
      else takeFfEncodedFrom bytes sum (cursor + 1)
termination_by bytes.length - cursor
decreasing_by
  obtain ⟨hlt, _⟩ := List.getElem?_eq_some_iff.mp _hget
  omega

def takeFfEncoded (bytes : List UInt8) (cursor : Nat) : Outcome CodecError (Nat × Nat) :=
  takeFfEncodedFrom bytes 0 cursor

variable {bytes : List UInt8} {value cursor : Nat}

/-- The cursor advances past at least one byte and stays in the buffer. -/
theorem takeFfEncodedFrom_cursor {result : Nat × Nat}
    (h : takeFfEncodedFrom bytes value cursor = .ok result) :
    cursor < result.2 ∧ result.2 ≤ bytes.length := by
  fun_induction takeFfEncodedFrom bytes value cursor with
  | case1 => simp at h
  | case2 => simp at h
  | case3 value cursor byte hget sum hsum hne =>
    obtain ⟨hlt, _⟩ := List.getElem?_eq_some_iff.mp hget
    obtain rfl : (sum, cursor + 1) = result := Except.ok.inj h
    exact ⟨Nat.lt_succ_self _, hlt⟩
  | case4 value cursor byte hget sum hsum hne ih =>
    obtain ⟨hlt, hle⟩ := ih h
    exact ⟨by omega, hle⟩

/-- One turn of the loop. -/
theorem takeFfEncodedFrom_of_getElem? {byte : UInt8} (hget : bytes[cursor]? = some byte)
    (fits : value + byte.toNat ≤ usizeMax) :
    takeFfEncodedFrom bytes value cursor =
      if byte ≠ 255 then .ok (value + byte.toNat, cursor + 1)
      else takeFfEncodedFrom bytes (value + byte.toNat) (cursor + 1) := by
  rw [takeFfEncodedFrom]
  split
  · rename_i hnone
    cases hget.symm.trans hnone
  · rename_i found hfound
    cases hget.symm.trans hfound
    rw [checkedAdd_of_le fits]

theorem takeFfEncodedFrom_of_overflow {byte : UInt8} (hget : bytes[cursor]? = some byte)
    (hover : usizeMax < value + byte.toNat) :
    takeFfEncodedFrom bytes value cursor = fail .malformedSei := by
  rw [takeFfEncodedFrom]
  split
  · rfl
  · rename_i found hfound
    cases hget.symm.trans hfound
    rw [checkedAdd, if_neg (by omega)]

/-- Reading back an encoded number, from any running value: the terminator
byte is the only one below 255. -/
theorem takeFfEncodedFrom_ffEncoded (before after : List UInt8) (value number : Nat)
    (fits : value + number ≤ usizeMax) :
    takeFfEncodedFrom (before ++ ffEncoded number ++ after) value before.length =
      .ok (value + number, before.length + (ffEncoded number).length) := by
  induction number using Nat.strongRecOn generalizing before value with
  | ind number ih =>
    rw [ffEncoded]
    split
    · rename_i hlong
      have hbyte : (255 : UInt8).toNat = 255 := rfl
      have hrest := ih (number - 255) (by omega) (before ++ [255]) (value + 255) (by omega)
      have hget : (before ++ 255 :: ffEncoded (number - 255) ++ after)[before.length]? =
          some 255 := by simp
      rw [takeFfEncodedFrom_of_getElem? hget (by omega), hbyte]
      simp only [List.append_assoc, List.cons_append, List.nil_append,
        List.length_append, List.length_cons, List.length_nil] at hrest ⊢
      simp only [ne_eq, not_true_eq_false, if_false]
      rw [hrest]
      simp only [Except.ok.injEq, Prod.mk.injEq]
      omega
    · rename_i hshort
      have hbyte : (UInt8.ofNat number).toNat = number := by
        rw [UInt8.toNat_ofNat']
        omega
      have hne : UInt8.ofNat number ≠ 255 := by
        intro hsame
        have hnumber := congrArg UInt8.toNat hsame
        rw [hbyte] at hnumber
        exact hshort (Nat.le_of_eq hnumber.symm)
      have hget : (before ++ [UInt8.ofNat number] ++ after)[before.length]? =
          some (UInt8.ofNat number) := by simp
      rw [takeFfEncodedFrom_of_getElem? hget (by omega), hbyte, if_pos hne]
      simp

theorem takeFfEncoded_ffEncoded (before after : List UInt8) {number : Nat}
    (fits : number ≤ usizeMax) :
    takeFfEncoded (before ++ ffEncoded number ++ after) before.length =
      .ok (number, before.length + (ffEncoded number).length) := by
  simpa [takeFfEncoded] using
    takeFfEncodedFrom_ffEncoded before after 0 number (by omega)

/-! ## Writing a message -/

variable (message : UserDataUnregistered)

/-- The RBSP `make_user_data_sei` builds before escaping. -/
def seiRbsp : List UInt8 :=
  ffEncoded seiUserDataUnregistered ++ ffEncoded (16 + message.payload.length) ++
    message.uuid.bytes ++ message.payload ++ [0x80]

/-- The payload of the NAL unit: header byte and escaped RBSP. -/
def seiNalPayload : List UInt8 :=
  h264NalSei :: addEmulationPrevention (seiRbsp message)

def makeUserDataSei : Outcome CodecError (List UInt8) := do
  let _payloadSize ← okOr .malformedSei (checkedAdd 16 message.payload.length)
  vec ([0, 0, 0, 1] ++ seiNalPayload message)

theorem makeUserDataSei_eq_ok {message : UserDataUnregistered} {out : List UInt8} :
    makeUserDataSei message = .ok out →
      out = [0, 0, 0, 1] ++ seiNalPayload message ∧ out.length ≤ isizeMax := by
  intro h
  obtain ⟨_, _, hvec⟩ := bind_eq_ok.mp h
  obtain ⟨hlen, rfl⟩ := vec_eq_ok.mp hvec
  exact ⟨rfl, hlen⟩

theorem seiNalPayload_ne_nil : seiNalPayload message ≠ [] := by
  simp [seiNalPayload]

/-- No start code inside an inserted NAL unit: the header byte is not zero
and the rest is escaped. -/
theorem seiNalPayload_no_startCode : ¬ [0, 0, 1] <:+: seiNalPayload message := by
  unfold seiNalPayload
  rw [List.infix_cons_iff]
  rintro (hatStart | hinside)
  · obtain ⟨tail, htail⟩ := hatStart
    simp [h264NalSei] at htail
  · exact addEmulationPrevention_no_startCode _ hinside

/-! ## Reading messages -/

/-- One iteration of the loop in `parse_sei_nal`: the message, if it is user
data, and the cursor behind it. -/
def parseMessage (rbsp : List UInt8) (cursor : Nat) :
    Outcome CodecError (Option UserDataUnregistered × Nat) := do
  let (payloadType, cursor) ← takeFfEncoded rbsp cursor
  let (payloadSize, cursor) ← takeFfEncoded rbsp cursor
  let finish ← okOr .malformedSei
    ((checkedAdd cursor payloadSize).filter fun finish => finish ≤ rbsp.length)
  if payloadType = seiUserDataUnregistered then
    if payloadSize < 16 then fail .malformedSei
    else do
      let id ← slice rbsp cursor (cursor + 16)
      let uuid ← okOr .malformedSei (Uuid.fromSlice id)
      let payload ← slice rbsp (cursor + 16) finish
      pure (some ⟨uuid, payload⟩, finish)
  else pure (none, finish)

/-- The cursor strictly increases and never leaves the buffer. -/
theorem parseMessage_cursor {rbsp : List UInt8} {result : Option UserDataUnregistered × Nat}
    (h : parseMessage rbsp cursor = .ok result) : cursor < result.2 ∧ result.2 ≤ rbsp.length := by
  unfold parseMessage at h
  obtain ⟨⟨payloadType, afterType⟩, htype, h⟩ := bind_eq_ok.mp h
  obtain ⟨⟨payloadSize, afterSize⟩, hsize, h⟩ := bind_eq_ok.mp h
  obtain ⟨finish, hfinish, h⟩ := bind_eq_ok.mp h
  have h1 := (takeFfEncodedFrom_cursor htype).1
  have h2 := (takeFfEncodedFrom_cursor hsize).1
  obtain ⟨hadd, hle⟩ := Option.filter_eq_some_iff.mp (okOr_eq_ok.mp hfinish)
  obtain ⟨_, rfl⟩ := checkedAdd_eq_some.mp hadd
  have hend : afterSize + payloadSize ≤ rbsp.length := by simpa using hle
  have hresult : result.2 = afterSize + payloadSize := by
    split at h
    · split at h
      · simp at h
      · obtain ⟨_, _, h⟩ := bind_eq_ok.mp h
        obtain ⟨_, _, h⟩ := bind_eq_ok.mp h
        obtain ⟨_, _, h⟩ := bind_eq_ok.mp h
        rw [← Except.ok.inj h]
    · rw [← Except.ok.inj h]
  simp only at h1 h2
  omega

/-- The message loop of `parse_sei_nal` from a given cursor. -/
def parseMessages (rbsp : List UInt8) (cursor : Nat) :
    Outcome CodecError (List UserDataUnregistered) :=
  if cursor < rbsp.length ∧ rbsp[cursor]? ≠ some 0x80 then
    match _hparse : parseMessage rbsp cursor with
    | .error fault => .error fault
    | .ok (message, finish) => do
      let rest ← parseMessages rbsp finish
      pure (message.toList ++ rest)
  else .ok []
termination_by rbsp.length - cursor
decreasing_by
  have := parseMessage_cursor _hparse
  simp only at this
  omega

/-- One turn of the loop, which is not at its end. -/
theorem parseMessages_turn {rbsp : List UInt8} (hinside : cursor < rbsp.length)
    (hstart : rbsp[cursor]? ≠ some 0x80) :
    parseMessages rbsp cursor =
      parseMessage rbsp cursor >>= fun read =>
        parseMessages rbsp read.2 >>= fun rest => .ok (read.1.toList ++ rest) := by
  rw [parseMessages, if_pos ⟨hinside, hstart⟩]
  split
  · rename_i fault hfault
    rw [hfault]
    rfl
  · rename_i message finish hok
    rw [hok]
    rfl

/-- The low five bits of the first byte. -/
def nalUnitType (nal : List UInt8) : Option UInt8 := nal.head?.map fun byte => byte &&& 0x1f

def parseSeiNal (nal : List UInt8) : Outcome CodecError (List UserDataUnregistered) :=
  if nalUnitType nal ≠ some h264NalSei then fail .malformedSei
  else do
    let data ← slice nal 1 nal.length
    let rbsp ← removeEmulationPrevention data
    parseMessages rbsp 0

theorem nalUnitType_seiNalPayload :
    nalUnitType (seiNalPayload message) = some h264NalSei := rfl

end RobotMulticam.Codec
