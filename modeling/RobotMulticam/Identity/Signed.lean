import RobotMulticam.Identity.StreamIdentity
import RobotMulticam.Protocol.Messages
import RobotMulticam.Lib.Outcome
import RobotMulticam.Lib.Base64
import RobotMulticam.Lib.Sha256
import RobotMulticam.Lib.UuidText

/-!
# Signed stream IDs

The text form of a stream identity: ten fields and a truncated HMAC over
everything in front of it. `encode_signed` writes it, `parse_and_verify` reads
it and checks that each field is spelled as `encode_signed` would spell it.

The texts of fields, ids and signatures are written by other crates. Of these
only what `IdentityCrates` says is used.
-/

namespace RobotMulticam.Identity

open RobotMulticam.Lib
open RobotMulticam.Lib.Text
open RobotMulticam.Protocol

/-- A code of 32 bytes for a message under a key, or `none` for a key that
`new_from_slice` refuses. -/
structure Mac where
  digest : List UInt8 → List UInt8 → Option (List UInt8)
  size : ∀ key message bytes, digest key message = some bytes → bytes.length = 32

/-- `Hmac<Sha256>`, which takes keys of every length. -/
def hmacSha256 : Mac where
  digest key message := some (Sha256.hmac key message)
  size := by
    rintro key message bytes ⟨⟩
    exact Sha256.length_hmac key message

/-- The crates `hmac`, `percent_encoding`, `uuid` and `base64`. -/
structure IdentityCrates where
  mac : Mac
  percent : PercentText
  uuid : UuidText
  base64 : Base64.Engine

def standardCrates : IdentityCrates :=
  ⟨hmacSha256, percentUtf8, Uuid.text, Base64.urlSafeNoPad⟩

/-- Codes that tell keys apart by their length, for evaluation. -/
def lengthCrates : IdentityCrates where
  __ := standardCrates
  mac.digest key _ := some (List.replicate 32 (UInt8.ofNat key.length))
  mac.size := by
    rintro key message bytes ⟨⟩
    exact List.length_replicate

def signature (mac : Mac) (key message : List UInt8) : Except IdentityError (List UInt8) :=
  match mac.digest key message with
  | none => .error .authentication
  | some digest => .ok (digest.take 16)

/-! ## Fields -/

/-- `FIELD_ENCODE_SET`: the controls and most punctuation. -/
def fieldEncodeSet : EscapeSet where
  contains byte := byte < 32 || byte == 127 ||
    (utf8 " !\"#$%&'()*+,/:;=?@[\\]^`\x7b|\x7d".toList).contains byte
  percent := by decide

/-- `char::is_control`. -/
def isControl (char : Char) : Bool :=
  char.toNat < 32 || (127 ≤ char.toNat && char.toNat ≤ 159)

def validateSize (raw : String) : Except IdentityError Unit :=
  if maxStreamIdBytes < raw.utf8ByteSize then
    .error (.tooLong maxStreamIdBytes raw.utf8ByteSize)
  else .ok ()

def validateText (field value : String) : Except IdentityError Unit :=
  if value = "" then .error (.empty field)
  else if value.toList.any isControl then .error (.encoding field)
  else .ok ()

variable (crates : IdentityCrates)

def encodeText (value : String) : List Char := crates.percent.encode fieldEncodeSet value

def decodeText (field : String) (raw : List Char) : Except IdentityError String :=
  match crates.percent.decode raw with
  | none => .error (.encoding field)
  | some decoded => do
    validateText field decoded
    if encodeText crates decoded ≠ raw then .error (.encoding field) else .ok decoded

/-- Parses a value and compares it with how it would be printed. -/
def parseCanonical {α : Type} (parse : List Char → Option α) (print : α → List Char)
    (field : String) (value : List Char) : Except IdentityError α :=
  match parse value with
  | none => .error (.invalid field)
  | some parsed => if print parsed ≠ value then .error (.invalid field) else .ok parsed

def parseUuid : String → List Char → Except IdentityError Uuid :=
  parseCanonical crates.uuid.parseStr crates.uuid.hyphenated

/-- For numbers below `limit`. -/
def parseCanonicalNumber (limit : Nat) : String → List Char → Except IdentityError Nat :=
  parseCanonical (parseUnsigned limit) (Nat.toDigits 10)

def Role.wire : Role → String
  | .anchor => "anchor"
  | .secondary => "secondary"

def VideoCodec.wire : VideoCodec → String
  | .h264 => "h264"
  | .h265 => "h265"

def parseRole (value : List Char) : Except IdentityError Role :=
  if value = "anchor".toList then .ok .anchor
  else if value = "secondary".toList then .ok .secondary
  else .error (.invalid "role")

def parseCodec (value : List Char) : Except IdentityError VideoCodec :=
  if value = "h264".toList then .ok .h264
  else if value = "h265".toList then .ok .h265
  else .error (.invalid "codec")

/-! ## Writing -/

/-- `;name=value`. -/
def field (name : String) (value : List Char) : List Char := ';' :: (name.toList ++ '=' :: value)

/-- The text that is signed. -/
def StreamIdentity.unsigned (identity : StreamIdentity) : List Char :=
  srtStreamIdSchema.toList ++
    field "emb" (encodeText crates identity.embodimentId) ++
    field "edge" (encodeText crates identity.edgeInstanceId) ++
    field "boot" (crates.uuid.hyphenated identity.edgeBootId) ++
    field "sid" (crates.uuid.hyphenated identity.sessionId) ++
    field "cid" (encodeText crates identity.cameraId) ++
    field "slot" (Nat.toDigits 10 identity.slot.toNat) ++
    field "epoch" (Nat.toDigits 10 identity.epoch.toNat) ++
    field "role" identity.role.wire.toList ++
    field "codec" identity.codec.wire.toList

def StreamIdentity.encodeSigned (identity : StreamIdentity) (key : List UInt8) :
    Except IdentityError String := do
  validateText "emb" identity.embodimentId
  validateText "edge" identity.edgeInstanceId
  validateText "cid" identity.cameraId
  let unsigned := identity.unsigned crates
  let tag ← signature crates.mac key (utf8 unsigned)
  let signed := String.ofList (unsigned ++ field "sig" (crates.base64.encode tag))
  validateSize signed
  .ok signed

/-! ## Reading -/

def fieldNames : List String :=
  ["emb", "edge", "boot", "sid", "cid", "slot", "epoch", "role", "codec", "sig"]

/-- The value of a segment with the expected name. -/
def readField (segment : List Char) (expected : String) : Except IdentityError (List Char) :=
  match splitOnce '=' segment with
  | none => .error .layout
  | some (name, value) =>
    if name ≠ expected.toList ∨ value = [] then .error .layout else .ok value

/-- The loop over the segments and the names. -/
def readFields : List (List Char) → List String → Except IdentityError (List (List Char))
  | segment :: segments, name :: names => do
    let value ← readField segment name
    let values ← readFields segments names
    .ok (value :: values)
  | _, _ => .ok []

def parseFields (raw : String) : Except IdentityError (List (List Char)) :=
  let segments := raw.toList.splitOn ';'
  if segments.length ≠ 11 ∨ segments.head? ≠ some srtStreamIdSchema.toList then .error .layout
  else readFields segments.tail fieldNames

/-- The signature check, on the value of the last field. -/
def verifySignature (raw : String) (key : List UInt8) (sig : List Char) :
    Except IdentityError Unit :=
  match beforeLast ";sig=".toList raw.toList with
  | none => .error .layout
  | some unsigned => do
    let expected ← signature crates.mac key (utf8 unsigned)
    match crates.base64.decode sig with
    | none => .error .authentication
    | some provided =>
      if provided.length ≠ 16 ∨ expected ≠ provided then .error .authentication else .ok ()

/-- The fields of the identity, after the signature was checked. -/
def parseIdentity (emb edge boot sid cid slot epoch role codec : List Char) :
    Except IdentityError StreamIdentity := do
  let embodimentId ← decodeText crates "emb" emb
  let edgeInstanceId ← decodeText crates "edge" edge
  let edgeBootId ← parseUuid crates "boot" boot
  let sessionId ← parseUuid crates "sid" sid
  let cameraId ← decodeText crates "cid" cid
  let slot ← parseCanonicalNumber (2 ^ 16) "slot" slot
  let epoch ← parseCanonicalNumber (2 ^ 32) "epoch" epoch
  let role ← parseRole role
  let codec ← parseCodec codec
  .ok {
    embodimentId, edgeInstanceId, edgeBootId, sessionId, cameraId
    slot := .ofNat slot
    epoch := .ofNat epoch
    role, codec }

def StreamIdentity.parseAndVerify (raw : String) (key : List UInt8) :
    Except IdentityError StreamIdentity := do
  validateSize raw
  let values ← parseFields raw
  match values with
  | [emb, edge, boot, sid, cid, slot, epoch, role, codec, sig] => do
    verifySignature crates raw key sig
    parseIdentity crates emb edge boot sid cid slot epoch role codec
  -- the loop has read ten values
  | _ => .error .layout

/-! ## Each field has one spelling -/

variable {crates}

theorem decodeText_eq_ok {field : String} {raw : List Char} {value : String} :
    decodeText crates field raw = .ok value ↔
      raw = encodeText crates value ∧ validateText field value = .ok () := by
  constructor
  · intro h
    unfold decodeText at h
    split at h
    · cases h
    · obtain ⟨_, hvalid, h⟩ := bind_eq_ok.mp h
      split at h
      · cases h
      · rename_i hsame
        cases h
        exact ⟨(not_not.mp hsame).symm, hvalid⟩
  · rintro ⟨rfl, hvalid⟩
    rw [decodeText, encodeText, crates.percent.decode_encode]
    simp [hvalid, encodeText]

variable {value : List Char} {names : List String} {values : List (List Char)} {raw : String}
  {key : List UInt8} {identity : StreamIdentity}

theorem parseCanonical_eq_ok {α : Type} {parse : List Char → Option α} {print : α → List Char}
    {field : String} {parsed : α} :
    parseCanonical parse print field value = .ok parsed ↔
      value = print parsed ∧ parse (print parsed) = some parsed := by
  constructor
  · intro h
    unfold parseCanonical at h
    split at h
    · cases h
    · rename_i found hfound
      split at h
      · cases h
      · rename_i hsame
        cases h
        have hvalue := not_not.mp hsame
        exact ⟨hvalue.symm, hvalue ▸ hfound⟩
  · rintro ⟨rfl, hround⟩
    rw [parseCanonical, hround]
    simp

theorem parseUuid_eq_ok {field : String} {id : Uuid} :
    parseUuid crates field value = .ok id ↔ value = crates.uuid.hyphenated id := by
  rw [parseUuid, parseCanonical_eq_ok, and_iff_left (crates.uuid.parseStr_hyphenated id)]

theorem parseCanonicalNumber_eq_ok {limit : Nat} {field : String} {number : Nat} :
    parseCanonicalNumber limit field value = .ok number ↔
      value = Nat.toDigits 10 number ∧ number < limit := by
  rw [parseCanonicalNumber, parseCanonical_eq_ok]
  exact and_congr_right fun _ => ⟨lt_of_parseUnsigned, parseUnsigned_toDigits⟩

theorem parseRole_eq_ok {role : Role} : parseRole value = .ok role ↔ value = role.wire.toList := by
  unfold parseRole
  split
  · rename_i hanchor
    subst hanchor
    cases role <;> simp [Role.wire]
  · rename_i hanchor
    split
    · rename_i hsecondary
      subst hsecondary
      cases role <;> simp [Role.wire]
    · cases role <;> simp_all [Role.wire]

theorem parseCodec_eq_ok {codec : VideoCodec} :
    parseCodec value = .ok codec ↔ value = codec.wire.toList := by
  unfold parseCodec
  split
  · rename_i hfirst
    subst hfirst
    cases codec <;> simp [VideoCodec.wire]
  · rename_i hfirst
    split
    · rename_i hsecond
      subst hsecond
      cases codec <;> simp [VideoCodec.wire]
    · cases codec <;> simp_all [VideoCodec.wire]

theorem readField_eq_ok {segment : List Char} {name : String} (hname : '=' ∉ name.toList) :
    readField segment name = .ok value ↔
      segment = name.toList ++ '=' :: value ∧ value ≠ [] := by
  constructor
  · intro h
    unfold readField at h
    split at h
    · cases h
    · rename_i found rest hsplit
      split at h
      · cases h
      · rename_i hchecked
        cases h
        obtain ⟨hsame, hnonempty⟩ := not_or.mp hchecked
        rw [(splitOnce_eq_some.mp hsplit).1, not_not.mp hsame]
        exact ⟨rfl, hnonempty⟩
  · rintro ⟨rfl, hnonempty⟩
    rw [readField, splitOnce_eq_some.mpr ⟨rfl, hname⟩]
    simp [hnonempty]

/-! ## The whole text -/

/-- The segments `name=value`. -/
def namedFields (names : List String) (values : List (List Char)) : List (List Char) :=
  List.zipWith (fun name value => name.toList ++ '=' :: value) names values

/-- The text with the given values. -/
def joined (values : List (List Char)) : List Char :=
  srtStreamIdSchema.toList ++ (List.zipWith field fieldNames values).flatten

theorem joined_eq_intercalate (values : List (List Char)) :
    joined values = [';'].intercalate (srtStreamIdSchema.toList :: namedFields fieldNames values) := by
  rw [intercalate_cons, namedFields, List.map_zipWith]
  rfl

@[simp] theorem namedFields_cons (name : String) (names : List String) (value : List Char)
    (values : List (List Char)) :
    namedFields (name :: names) (value :: values) =
      (name.toList ++ '=' :: value) :: namedFields names values := rfl

theorem length_namedFields (h : values.length = names.length) :
    (namedFields names values).length = names.length := by
  simp [namedFields, h]

theorem semicolon_not_mem_namedFields (hnames : ∀ name ∈ names, ';' ∉ name.toList)
    (hlength : values.length = names.length) :
    (∀ segment ∈ namedFields names values, ';' ∉ segment) ↔ ∀ value ∈ values, ';' ∉ value := by
  induction names generalizing values with
  | nil =>
    rw [List.length_nil, List.length_eq_zero_iff] at hlength
    simp [hlength, namedFields]
  | cons name names ih =>
    obtain ⟨value, values, rfl⟩ := List.exists_cons_of_length_eq_add_one hlength
    have hfirst := hnames name List.mem_cons_self
    have hrest := ih (fun other hother => hnames other (List.mem_cons_of_mem _ hother))
      (Nat.add_right_cancel hlength)
    simp [hrest, hfirst]

theorem readFields_eq_ok {segments : List (List Char)} (hnames : ∀ name ∈ names, '=' ∉ name.toList)
    (hlength : segments.length = names.length) :
    readFields segments names = .ok values ↔
      segments = namedFields names values ∧ values.length = names.length ∧
        ∀ value ∈ values, value ≠ [] := by
  induction names generalizing segments values with
  | nil =>
    rw [List.length_nil, List.length_eq_zero_iff] at hlength
    subst hlength
    cases values <;> simp [readFields, namedFields]
  | cons name names ih =>
    obtain ⟨segment, segments, rfl⟩ := List.exists_cons_of_length_eq_add_one hlength
    have hfirst := hnames name List.mem_cons_self
    have hrest := fun found => @ih found segments
      (fun other hother => hnames other (List.mem_cons_of_mem _ hother))
      (Nat.add_right_cancel hlength)
    rw [readFields, bind_eq_ok]
    simp only [bind_eq_ok, readField_eq_ok hfirst, hrest]
    cases values with
    | nil => simp
    | cons value values =>
      simp only [Except.ok.injEq, List.cons.injEq, namedFields_cons, List.length_cons,
        List.forall_mem_cons, Nat.add_right_cancel_iff]
      grind

/-- The text is read as the ten values exactly when it is them joined and
no value has a semicolon or is empty. -/
theorem parseFields_eq_ok :
    parseFields raw = .ok values ↔
      raw.toList = joined values ∧ values.length = 10 ∧
        (∀ value ∈ values, value ≠ []) ∧ ∀ value ∈ values, ';' ∉ value := by
  have hequals : ∀ name ∈ fieldNames, '=' ∉ name.toList := by decide
  have hsemicolons : ∀ name ∈ fieldNames, ';' ∉ name.toList := by decide
  have hschema : ';' ∉ srtStreamIdSchema.toList := by decide
  constructor
  · intro h
    unfold parseFields at h
    dsimp only at h
    split at h
    · cases h
    · rename_i hchecked
      obtain ⟨hlength, hhead⟩ := not_or.mp hchecked
      obtain ⟨tail, hsegments⟩ := List.head?_eq_some_iff.mp (not_not.mp hhead)
      rw [hsegments] at h hlength
      obtain ⟨rfl, hvalues, hnonempty⟩ :=
        (readFields_eq_ok hequals (Nat.add_right_cancel (not_not.mp hlength))).mp h
      obtain ⟨hraw, hsplit⟩ := (splitOn_eq_iff (List.cons_ne_nil _ _)).mp hsegments
      refine ⟨hraw.trans (joined_eq_intercalate values).symm, hvalues, hnonempty, ?_⟩
      exact (semicolon_not_mem_namedFields hsemicolons hvalues).mp fun segment hsegment =>
        hsplit segment (List.mem_cons_of_mem _ hsegment)
  · rintro ⟨hraw, hvalues, hnonempty, hplain⟩
    have hsplit : raw.toList.splitOn ';' =
        srtStreamIdSchema.toList :: namedFields fieldNames values := by
      refine (splitOn_eq_iff (List.cons_ne_nil _ _)).mpr
        ⟨hraw.trans (joined_eq_intercalate values), ?_⟩
      exact List.forall_mem_cons.mpr
        ⟨hschema, (semicolon_not_mem_namedFields hsemicolons hvalues).mpr hplain⟩
    have hlength : (namedFields fieldNames values).length = fieldNames.length :=
      length_namedFields hvalues
    rw [parseFields, hsplit, if_neg]
    · exact (readFields_eq_ok hequals hlength).mpr ⟨rfl, hvalues, hnonempty⟩
    · rw [List.length_cons, hlength]
      simp [fieldNames]

/-! ## The signature -/

theorem length_of_signature {mac : Mac} {message tag : List UInt8}
    (h : signature mac key message = .ok tag) : tag.length = 16 := by
  unfold signature at h
  split at h
  · cases h
  · rename_i digest hdigest
    cases h
    rw [List.length_take, mac.size _ _ _ hdigest]
    rfl

theorem verifySignature_eq_ok {unsigned sig : List Char}
    (hraw : raw.toList = unsigned ++ field "sig" sig) (hsig : ';' ∉ sig) :
    verifySignature crates raw key sig = .ok () ↔
      ∃ tag, signature crates.mac key (utf8 unsigned) = .ok tag ∧
        sig = crates.base64.encode tag := by
  have hbefore : beforeLast ";sig=".toList raw.toList = some unsigned := by
    have hpattern : ";sig=".toList = ';' :: "sig=".toList := by decide
    have hfield : field "sig" sig = ';' :: ("sig=".toList ++ sig) := rfl
    rw [hraw, hpattern, hfield]
    exact beforeLast_append (by decide) hsig
  rw [verifySignature, hbefore]
  constructor
  · intro h
    obtain ⟨tag, htag, h⟩ := bind_eq_ok.mp h
    split at h
    · cases h
    · rename_i provided hprovided
      split at h
      · cases h
      · rename_i hsame
        refine ⟨tag, htag, ?_⟩
        rw [not_not.mp (not_or.mp hsame).2]
        exact crates.base64.decode_eq_some.mp hprovided
  · rintro ⟨tag, htag, rfl⟩
    refine bind_eq_ok.mpr ⟨tag, htag, ?_⟩
    rw [crates.base64.decode_eq_some.mpr rfl]
    simp [length_of_signature htag]

/-! ## Writing and reading agree -/

/-- The three texts are accepted. -/
def StreamIdentity.ValidTexts (identity : StreamIdentity) : Prop :=
  validateText "emb" identity.embodimentId = .ok () ∧
    validateText "edge" identity.edgeInstanceId = .ok () ∧
    validateText "cid" identity.cameraId = .ok ()

/-- The values of the ten fields. -/
def StreamIdentity.fieldValues (crates : IdentityCrates) (identity : StreamIdentity)
    (sig : List Char) : List (List Char) :=
  [encodeText crates identity.embodimentId, encodeText crates identity.edgeInstanceId,
    crates.uuid.hyphenated identity.edgeBootId, crates.uuid.hyphenated identity.sessionId,
    encodeText crates identity.cameraId, Nat.toDigits 10 identity.slot.toNat,
    Nat.toDigits 10 identity.epoch.toNat, identity.role.wire.toList, identity.codec.wire.toList, sig]

theorem joined_fieldValues (identity : StreamIdentity) (sig : List Char) :
    joined (identity.fieldValues crates sig) = identity.unsigned crates ++ field "sig" sig := by
  simp only [joined, fieldNames, StreamIdentity.fieldValues, StreamIdentity.unsigned,
    List.zipWith_cons_cons, List.zipWith_nil_left, List.flatten_cons, List.flatten_nil,
    List.append_nil, List.append_assoc]

theorem semicolon_not_mem_encodeText (value : String) : ';' ∉ encodeText crates value := by
  intro hmem
  rcases crates.percent.mem_encode _ _ _ hmem with hpercent | hdigit | hplain
  · exact absurd hpercent (by decide)
  · exact absurd hdigit (by decide)
  · exact absurd hplain (by decide)

theorem semicolon_not_mem_hyphenated (id : Uuid) : ';' ∉ crates.uuid.hyphenated id := by
  intro hmem
  rcases crates.uuid.mem_hyphenated _ _ hmem with hhyphen | hdigit
  · exact absurd hhyphen (by decide)
  · exact absurd hdigit (by decide)

theorem semicolon_not_mem_toDigits (number : Nat) : ';' ∉ Nat.toDigits 10 number := fun hmem =>
  absurd (isDigit_of_mem_toDigits hmem) (by decide)

theorem semicolon_not_mem_encode (tag : List UInt8) : ';' ∉ crates.base64.encode tag := by
  intro hmem
  rcases crates.base64.mem_encode _ _ hmem with hdigit | hhyphen | hunderscore
  · exact absurd hdigit (by decide)
  · exact absurd hhyphen (by decide)
  · exact absurd hunderscore (by decide)

theorem encodeText_ne_nil {field value : String} (h : validateText field value = .ok ()) :
    encodeText crates value ≠ [] := by
  refine crates.percent.encode_ne_nil _ fun hempty => ?_
  rw [validateText, if_pos hempty] at h
  cases h

/-- What is written in the fields is neither empty nor has a semicolon. -/
theorem fieldValues_readable {tag : List UInt8} (htexts : identity.ValidTexts)
    (htag : tag.length = 16) :
    (∀ value ∈ identity.fieldValues crates (crates.base64.encode tag), value ≠ []) ∧
      ∀ value ∈ identity.fieldValues crates (crates.base64.encode tag), ';' ∉ value := by
  obtain ⟨hemb, hedge, hcid⟩ := htexts
  have hrole : identity.role.wire.toList ≠ [] ∧ ';' ∉ identity.role.wire.toList := by
    cases identity.role <;> decide
  have hcodec : identity.codec.wire.toList ≠ [] ∧ ';' ∉ identity.codec.wire.toList := by
    cases identity.codec <;> decide
  have hsig : crates.base64.encode tag ≠ [] := by
    refine crates.base64.encode_ne_nil ?_
    rintro rfl
    cases htag
  simp only [StreamIdentity.fieldValues, List.forall_mem_cons, List.not_mem_nil]
  refine ⟨⟨encodeText_ne_nil hemb, encodeText_ne_nil hedge, crates.uuid.hyphenated_ne_nil _,
    crates.uuid.hyphenated_ne_nil _, encodeText_ne_nil hcid, Nat.toDigits_ne_nil,
    Nat.toDigits_ne_nil, hrole.1, hcodec.1, hsig, nofun⟩, ?_⟩
  exact ⟨semicolon_not_mem_encodeText _, semicolon_not_mem_encodeText _,
    semicolon_not_mem_hyphenated _, semicolon_not_mem_hyphenated _,
    semicolon_not_mem_encodeText _, semicolon_not_mem_toDigits _, semicolon_not_mem_toDigits _,
    hrole.2, hcodec.2, semicolon_not_mem_encode _, nofun⟩

/-- The fields are read as an identity exactly when they are its values. -/
theorem parseIdentity_eq_ok {emb edge boot sid cid slot epoch role codec : List Char}
    (sig : List Char) :
    parseIdentity crates emb edge boot sid cid slot epoch role codec = .ok identity ↔
      identity.ValidTexts ∧
        [emb, edge, boot, sid, cid, slot, epoch, role, codec, sig] =
          identity.fieldValues crates sig := by
  simp only [parseIdentity, bind_eq_ok, decodeText_eq_ok, parseUuid_eq_ok,
    parseCanonicalNumber_eq_ok, parseRole_eq_ok, parseCodec_eq_ok, Except.ok.injEq]
  constructor
  · rintro ⟨embodimentId, ⟨rfl, hemb⟩, edgeInstanceId, ⟨rfl, hedge⟩, edgeBootId, rfl, sessionId,
      rfl, cameraId, ⟨rfl, hcid⟩, slotNumber, ⟨rfl, hslot⟩, epochNumber, ⟨rfl, hepoch⟩,
      streamRole, rfl, streamCodec, rfl, rfl⟩
    refine ⟨⟨hemb, hedge, hcid⟩, ?_⟩
    simp only [StreamIdentity.fieldValues, UInt16.toNat_ofNat_of_lt' hslot,
      UInt32.toNat_ofNat_of_lt' hepoch]
  · rintro ⟨⟨hemb, hedge, hcid⟩, hvalues⟩
    simp only [StreamIdentity.fieldValues, List.cons.injEq, and_true] at hvalues
    obtain ⟨rfl, rfl, rfl, rfl, rfl, rfl, rfl, rfl, rfl⟩ := hvalues
    exact ⟨_, ⟨rfl, hemb⟩, _, ⟨rfl, hedge⟩, _, rfl, _, rfl, _, ⟨rfl, hcid⟩,
      _, ⟨rfl, identity.slot.toNat_lt⟩, _, ⟨rfl, identity.epoch.toNat_lt⟩, _, rfl, _, rfl,
      by rw [UInt16.ofNat_toNat, UInt32.ofNat_toNat]⟩

/-- `raw` is the text of the identity, signed under the key. -/
structure Spells (crates : IdentityCrates) (key : List UInt8) (identity : StreamIdentity)
    (raw : String) :
    Prop where
  texts : identity.ValidTexts
  size : validateSize raw = .ok ()
  text : ∃ tag, signature crates.mac key (utf8 (identity.unsigned crates)) = .ok tag ∧
    raw.toList = identity.unsigned crates ++ field "sig" (crates.base64.encode tag)

theorem encodeSigned_eq_ok :
    identity.encodeSigned crates key = .ok raw ↔ Spells crates key identity raw := by
  constructor
  · intro h
    obtain ⟨_, hemb, h⟩ := bind_eq_ok.mp h
    obtain ⟨_, hedge, h⟩ := bind_eq_ok.mp h
    obtain ⟨_, hcid, h⟩ := bind_eq_ok.mp h
    obtain ⟨tag, htag, h⟩ := bind_eq_ok.mp h
    obtain ⟨_, hsize, h⟩ := bind_eq_ok.mp h
    have hraw := Except.ok.inj h
    rw [hraw] at hsize
    refine ⟨⟨hemb, hedge, hcid⟩, hsize, tag, htag, ?_⟩
    rw [← hraw, String.toList_ofList]
  · rintro ⟨⟨hemb, hedge, hcid⟩, hsize, tag, htag, hraw⟩
    have hsigned : String.ofList (identity.unsigned crates ++
        field "sig" (crates.base64.encode tag)) = raw := by
      rw [← hraw, String.ofList_toList]
    rw [StreamIdentity.encodeSigned, hemb, hedge, hcid]
    simp only [ok_bind, htag, hsigned, hsize]

theorem parseAndVerify_eq_ok :
    StreamIdentity.parseAndVerify crates raw key = .ok identity ↔
      Spells crates key identity raw := by
  constructor
  · intro h
    obtain ⟨_, hsize, h⟩ := bind_eq_ok.mp h
    obtain ⟨values, hvalues, h⟩ := bind_eq_ok.mp h
    obtain ⟨hraw, hten, hnonempty, hplain⟩ := parseFields_eq_ok.mp hvalues
    split at h
    · rename_i sig
      obtain ⟨_, hverified, h⟩ := bind_eq_ok.mp h
      obtain ⟨htexts, hsame⟩ := (parseIdentity_eq_ok sig).mp h
      rw [hsame, joined_fieldValues] at hraw
      have hsig : ';' ∉ sig := hplain sig (by simp)
      obtain ⟨tag, htag, rfl⟩ := (verifySignature_eq_ok hraw hsig).mp hverified
      exact ⟨htexts, hsize, tag, htag, hraw⟩
    · cases h
  · rintro ⟨htexts, hsize, tag, htag, hraw⟩
    obtain ⟨hnonempty, hplain⟩ := fieldValues_readable htexts (length_of_signature htag)
    have hvalues : parseFields raw =
        .ok (identity.fieldValues crates (crates.base64.encode tag)) :=
      parseFields_eq_ok.mpr ⟨hraw.trans (joined_fieldValues _ _).symm, rfl, hnonempty, hplain⟩
    have hverified := (verifySignature_eq_ok hraw (semicolon_not_mem_encode tag)).mpr
      ⟨tag, htag, rfl⟩
    rw [StreamIdentity.parseAndVerify, hsize, ok_bind, hvalues, ok_bind]
    refine bind_eq_ok.mpr ⟨(), hverified, ?_⟩
    exact (parseIdentity_eq_ok (crates.base64.encode tag)).mpr ⟨htexts, rfl⟩

/-- **Canonical stream IDs.** Under every key, a text is what an identity is
encoded as exactly when it is read as that identity. The accepted texts and
the encodable identities are therefore in bijection. -/
theorem stream_ids_canonical (crates : IdentityCrates) (key : List UInt8) :
    (∀ (identity : StreamIdentity) (raw : String),
      identity.encodeSigned crates key = .ok raw ↔
        StreamIdentity.parseAndVerify crates raw key = .ok identity) ∧
      ∃ read : {raw : String // ∃ identity, StreamIdentity.parseAndVerify crates raw key =
            .ok identity} ≃
          {identity : StreamIdentity // ∃ raw, identity.encodeSigned crates key = .ok raw},
        ∀ raw, StreamIdentity.parseAndVerify crates raw.1 key = .ok (read raw).1 := by
  have hundo : ∀ (identity : StreamIdentity) (raw : String),
      identity.encodeSigned crates key = .ok raw ↔
        StreamIdentity.parseAndVerify crates raw key = .ok identity := fun identity raw =>
    encodeSigned_eq_ok.trans parseAndVerify_eq_ok.symm
  exact ⟨hundo, exists_equiv_of_undo hundo⟩

/-- The vector of `canonical_vector_round_trips`. -/
example :
    StreamIdentity.parseAndVerify standardCrates
      ("rmc1;emb=robot-cell-001;edge=edge-robot-cell-001;" ++
        "boot=123e4567-e89b-12d3-a456-426614174001;sid=123e4567-e89b-12d3-a456-426614174002;" ++
        "cid=cam_front_001;slot=0;epoch=1;role=anchor;codec=h264;sig=49Rh3qjMcdonlHpdKihB9A")
      ((List.range 32).map UInt8.ofNat) = .ok {
        embodimentId := "robot-cell-001"
        edgeInstanceId := "edge-robot-cell-001"
        edgeBootId := .ofNat 0x123e4567e89b12d3a456426614174001
        sessionId := .ofNat 0x123e4567e89b12d3a456426614174002
        cameraId := "cam_front_001"
        slot := 0
        epoch := 1
        role := .anchor
        codec := .h264 } := by
  decide +kernel

end RobotMulticam.Identity
