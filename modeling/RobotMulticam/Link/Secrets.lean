import RobotMulticam.Identity.Signed

/-!
# The shared secret on both ends

The Edge signs stream ids with a key it reads from a file, and the Receiver
checks them with a key it reads from the same file. Each has its own reader,
which trims a line ending from the contents and checks the size of the rest.
The Edge takes off `\r\n` and the Receiver only `\n`. A file written with
`\r\n` therefore gives two keys, or one key and an error (`trimmed_cases`).
-/

namespace RobotMulticam

open RobotMulticam.Lib
open RobotMulticam.Identity

inductive SecretError where
  | unableToRead (path : String)
  | invalidSize (path : String)
  deriving DecidableEq

/-- The text of the error. -/
def SecretError.message : SecretError → String
  | .unableToRead path => "unable to read " ++ path
  | .invalidSize path => "secret " ++ path ++ " has an invalid size"

/-- `(min..=max).contains(&size)` -/
def InRange (min max size : Nat) : Prop := min ≤ size ∧ size ≤ max

instance (min max size : Nat) : Decidable (InRange min max size) :=
  inferInstanceAs (Decidable (_ ∧ _))

/-- What both readers do with the contents, which `fs::read(path)` gives: trim
them and check the size of what is left. -/
def readTrimmed (trim : List UInt8 → List UInt8) (read : Option (List UInt8)) (path : String)
    (min max : Nat) : Except SecretError (List UInt8) :=
  match read with
  | none => .error (.unableToRead path)
  | some bytes =>
    if ¬ InRange min max (trim bytes).length then .error (.invalidSize path)
    else .ok (trim bytes)

namespace Edge

def trimmed (bytes : List UInt8) : List UInt8 :=
  ((bytes.dropSuffix? [0x0a]).bind fun value =>
    (value.dropSuffix? [0x0d]).or (some value)).getD bytes

def readSecretBytes : Option (List UInt8) → String → Nat → Nat →
    Except SecretError (List UInt8) := readTrimmed trimmed

end Edge

namespace Receiver

def trimmed (bytes : List UInt8) : List UInt8 := (bytes.dropSuffix? [0x0a]).getD bytes

def readSecretBytes : Option (List UInt8) → String → Nat → Nat →
    Except SecretError (List UInt8) := readTrimmed trimmed

end Receiver

namespace Link

theorem dropSuffix?_eq_some {bytes suffix rest : List UInt8} :
    bytes.dropSuffix? suffix = some rest ↔ bytes = rest ++ suffix := by
  rw [List.dropSuffix?_eq_some_iff]
  constructor
  · rintro ⟨found, rfl, hsame⟩
    rw [eq_of_beq hsame]
  · rintro rfl
    exact ⟨suffix, rfl, BEq.rfl⟩

/-- The two readers differ on contents that end in `\r\n`, and only there. -/
theorem trimmed_cases (contents : List UInt8) :
    (∃ secret, contents = secret ++ [0x0d, 0x0a] ∧ Edge.trimmed contents = secret ∧
      Receiver.trimmed contents = secret ++ [0x0d]) ∨
    (∀ secret, contents ≠ secret ++ [0x0d, 0x0a]) ∧
      Edge.trimmed contents = Receiver.trimmed contents := by
  unfold Edge.trimmed Receiver.trimmed
  cases hline : contents.dropSuffix? [0x0a] with
  | none =>
    refine Or.inr ⟨?_, rfl⟩
    rintro secret rfl
    have hsome : (secret ++ [0x0d, 0x0a]).dropSuffix? [0x0a] = some (secret ++ [0x0d]) :=
      dropSuffix?_eq_some.mpr (by simp)
    cases hline.symm.trans hsome
  | some line =>
    obtain rfl := dropSuffix?_eq_some.mp hline
    cases hreturn : line.dropSuffix? [0x0d] with
    | none =>
      refine Or.inr ⟨?_, by simp [hreturn]⟩
      intro secret hsame
      have hcarriage : line = secret ++ [0x0d] := by
        have hsplit : line ++ [0x0a] = (secret ++ [0x0d]) ++ [0x0a] := by simp [hsame]
        exact List.append_cancel_right hsplit
      cases hreturn.symm.trans (dropSuffix?_eq_some.mpr hcarriage)
    | some secret =>
      obtain rfl := dropSuffix?_eq_some.mp hreturn
      exact Or.inl ⟨secret, by simp, by simp [hreturn], rfl⟩

/-- Both ends refuse the file or get the same bytes from it, and what one
signs with them the other accepts. -/
structure SharesSecret (edge receiver : Except SecretError (List UInt8)) : Prop where
  same : ((∃ error, edge = .error error) ∧ ∃ error, receiver = .error error) ∨
    ∃ secret, edge = .ok secret ∧ receiver = .ok secret
  verifies : ∀ signing checking, edge = .ok signing → receiver = .ok checking →
    ∀ (crates : IdentityCrates) (identity : StreamIdentity) (raw : String),
      identity.encodeSigned crates signing = .ok raw →
        StreamIdentity.parseAndVerify crates raw checking = .ok identity

theorem readTrimmed_cases (trim : List UInt8 → List UInt8) (bytes : List UInt8) (path : String)
    (min max : Nat) :
    (InRange min max (trim bytes).length ∧
      readTrimmed trim (some bytes) path min max = .ok (trim bytes)) ∨
    (¬ InRange min max (trim bytes).length ∧
      readTrimmed trim (some bytes) path min max = .error (.invalidSize path)) := by
  by_cases hrange : InRange min max (trim bytes).length
  · exact Or.inl ⟨hrange, if_neg (not_not.mpr hrange)⟩
  · exact Or.inr ⟨hrange, if_pos hrange⟩

theorem sharesSecret_ok {signing checking : List UInt8} :
    SharesSecret (.ok signing) (.ok checking) ↔ signing = checking := by
  constructor
  · rintro ⟨⟨⟨_, herror⟩, _⟩ | ⟨secret, hedge, hreceiver⟩, _⟩
    · cases herror
    · exact (Except.ok.inj hedge).trans (Except.ok.inj hreceiver).symm
  · rintro rfl
    refine ⟨Or.inr ⟨signing, rfl, rfl⟩, ?_⟩
    intro edgeKey receiverKey hedge hreceiver crates identity raw hsigned
    obtain rfl := Except.ok.inj hedge
    obtain rfl := Except.ok.inj hreceiver
    exact parseAndVerify_eq_ok.mpr (encodeSigned_eq_ok.mp hsigned)

/-- Two readers share a secret if both refuse the file, or trim it alike. -/
theorem sharesSecret_iff (trim trim' : List UInt8 → List UInt8) (bytes : List UInt8)
    (path path' : String) (min max : Nat) :
    SharesSecret (readTrimmed trim (some bytes) path min max)
        (readTrimmed trim' (some bytes) path' min max) ↔
      (¬ InRange min max (trim bytes).length ∧ ¬ InRange min max (trim' bytes).length) ∨
        trim bytes = trim' bytes := by
  rcases readTrimmed_cases trim bytes path min max with ⟨hrange, hread⟩ | ⟨hrange, hread⟩ <;>
    rcases readTrimmed_cases trim' bytes path' min max with
      ⟨hrange', hread'⟩ | ⟨hrange', hread'⟩ <;>
    rw [hread, hread']
  · rw [sharesSecret_ok]
    exact (or_iff_right fun hneither => hneither.1 hrange).symm
  · refine iff_of_false ?_ ?_
    · rintro ⟨⟨⟨_, herror⟩, _⟩ | ⟨_, _, herror⟩, _⟩ <;> cases herror
    · rintro (hneither | hsame)
      · exact hneither.1 hrange
      · exact hrange' (hsame ▸ hrange)
  · refine iff_of_false ?_ ?_
    · rintro ⟨⟨_, _, herror⟩ | ⟨_, herror, _⟩, _⟩ <;> cases herror
    · rintro (hneither | hsame)
      · exact hneither.2 hrange'
      · exact hrange (hsame ▸ hrange')
  · refine iff_of_true ⟨Or.inl ⟨⟨_, rfl⟩, _, rfl⟩, ?_⟩ (Or.inl ⟨hrange, hrange'⟩)
    intro signing checking hsigning
    cases hsigning

/-- Both ends share the secret of a file unless it ends in `\r\n` and the size
of the rest, with or without the `\r`, is in the range. -/
theorem secrets_shared_iff (contents : List UInt8) (min max : Nat)
    (edgePath receiverPath : String) :
    SharesSecret (Edge.readSecretBytes (some contents) edgePath min max)
        (Receiver.readSecretBytes (some contents) receiverPath min max) ↔
      ∀ secret, contents = secret ++ [0x0d, 0x0a] →
        ¬ InRange min max secret.length ∧ ¬ InRange min max (secret.length + 1) := by
  refine (sharesSecret_iff _ _ contents edgePath receiverPath min max).trans ?_
  rcases trimmed_cases contents with ⟨secret, rfl, hedge, hreceiver⟩ | ⟨hother, hsame⟩
  · have hlength : (secret ++ [(0x0d : UInt8)]).length = secret.length + 1 := by simp
    have hdiffer : secret ≠ secret ++ [0x0d] := by simp
    rw [hedge, hreceiver, hlength, or_iff_left hdiffer]
    constructor
    · intro hneither other hend
      rwa [← List.append_cancel_right hend]
    · exact fun hall => hall secret rfl
  · exact iff_of_true (Or.inr hsame) fun secret hend => absurd hend (hother secret)

/-- A camera's identity. -/
def frontIdentity : StreamIdentity where
  embodimentId := "cell"
  edgeInstanceId := "edge"
  edgeBootId := .ofNat 1
  sessionId := .ofNat 2
  cameraId := "front"
  slot := 0
  epoch := 1
  role := .anchor
  codec := .h264

/-- A key of 32 bytes in a file with a `\r\n`: the Receiver's key has one byte
more, and it refuses what the Edge signs. -/
theorem carriage_return_refused :
    ∃ signing checking raw,
      Edge.readSecretBytes (some (List.replicate 32 7 ++ [0x0d, 0x0a])) "key" 32 4096 =
        .ok signing ∧
      Receiver.readSecretBytes (some (List.replicate 32 7 ++ [0x0d, 0x0a])) "key" 32 4096 =
        .ok checking ∧
      signing ≠ checking ∧ frontIdentity.encodeSigned lengthCrates signing = .ok raw ∧
      StreamIdentity.parseAndVerify lengthCrates raw checking = .error .authentication := by
  have hrefused : ∃ raw ∈ (frontIdentity.encodeSigned lengthCrates (List.replicate 32 7)).toOption,
      StreamIdentity.parseAndVerify lengthCrates raw (List.replicate 32 7 ++ [0x0d]) =
        .error .authentication := by
    decide +kernel
  obtain ⟨raw, hsigned, hrefused⟩ := hrefused
  refine ⟨List.replicate 32 7, List.replicate 32 7 ++ [0x0d], raw, ?_, ?_, by decide,
    toOption_eq_some.mp hsigned, hrefused⟩
  · decide +kernel
  · decide +kernel

end Link

end RobotMulticam
