import RobotMulticam.Codec.AccessUnit

/-!
# Units at the edge of the inspector's limits

Both injectors look at a unit before they write into it, and the Receiver
inspects what they wrote. `Contents.inserted` says what the inspector
gathers from a rewritten unit, which leaves two places where the two views
differ:

* the inspector's limit counts the inserted messages too, so a unit that is
  just within it is stamped and then refused (`stamped_unit_accepted_iff`);
* the check for duplicates uses an inspection result that only units with a
  timestamp have (`additions_unique_iff`).
-/

namespace RobotMulticam.Codec

open RobotMulticam.Lib RobotMulticam.Protocol

/-! ## Rewritten units -/

/-- Above the limit the inspector refuses the unit. -/
theorem collectMessages_of_lt {start parsed : List UserDataUnregistered}
    {nals : List (List UInt8)} (h : parsedMessages nals = .ok parsed)
    (hstart : start.length ≤ maxSeiMessagesPerAu)
    (hlt : maxSeiMessagesPerAu < (start ++ parsed).length) :
    collectMessages start nals = fail .malformedSei := by
  induction nals generalizing start parsed with
  | nil =>
    obtain rfl := Except.ok.inj h
    rw [List.append_nil] at hlt
    omega
  | cons nal rest ih =>
    obtain ⟨here, hhere, h⟩ := bind_eq_ok.mp h
    obtain ⟨later, hlater, h⟩ := bind_eq_ok.mp h
    obtain rfl := Except.ok.inj h
    rw [← List.append_assoc] at hlt
    rw [collectMessages]
    unfold nalMessages at hhere
    by_cases hsei : nalUnitType nal = some h264NalSei
    · rw [if_pos hsei] at hhere ⊢
      rw [hhere, ok_bind]
      split
      · rfl
      · rename_i hroom
        exact ih hlater (Nat.le_of_not_lt hroom) hlt
    · rw [if_neg hsei] at hhere ⊢
      obtain rfl := Except.ok.inj hhere
      rw [List.append_nil] at hlt
      exact ih hlater hstart hlt

/-- The payloads of a unit and the messages in them. -/
structure Contents (accessUnit : List UInt8) (nals : List (List UInt8))
    (messages : List UserDataUnregistered) : Prop where
  split : splitAnnexB accessUnit = .ok nals
  parsed : parsedMessages nals = .ok messages

namespace Contents

variable {codec : Message SyncTimestampV1} {accessUnit : List UInt8}
  {nals : List (List UInt8)} {messages : List UserDataUnregistered}

/-- What the injectors learn about a unit they accept. -/
theorem of_collect (hsplit : splitAnnexB accessUnit = .ok nals)
    (hcollect : collectMessages [] nals = .ok messages) : Contents accessUnit nals messages := by
  obtain ⟨parsed, hparsed, hsum⟩ := collectMessages_eq_ok hcollect
  rw [List.nil_append] at hsum
  exact ⟨hsplit, hsum ▸ hparsed⟩

/-- The inspector gathers everything up to its limit. -/
theorem userDataMessages_eq (h : Contents accessUnit nals messages) :
    userDataMessages accessUnit =
      if messages.length ≤ maxSeiMessagesPerAu then .ok messages else fail .malformedSei := by
  rw [userDataMessages, h.split, ok_bind]
  split
  · rename_i hle
    exact collectMessages_of_le h.parsed hle
  · rename_i hlt
    exact collectMessages_of_lt h.parsed (Nat.zero_le _) (Nat.lt_of_not_le hlt)

/-- A unit above the limit is refused on every stream. -/
theorem inspect_of_lt (h : Contents accessUnit nals messages)
    (hlt : maxSeiMessagesPerAu < messages.length) (secondary : Bool) :
    inspectH264AnnexB codec accessUnit secondary = fail .malformedSei := by
  rw [inspectH264AnnexB, h.userDataMessages_eq, if_neg (Nat.not_le.mpr hlt)]
  rfl

/-- What is left of the injector for a unit within the limit that has no
timestamp yet. -/
theorem injectTimestamp_eq (h : Contents accessUnit nals messages)
    (hle : messages.length ≤ maxSeiMessagesPerAu)
    (hclear : ∀ message ∈ messages, message.uuid ≠ syncTimestampUuid)
    {captureTimeEdgeNs : UInt64} {payload sei : List UInt8}
    (hpayload : encodeSyncTimestamp codec captureTimeEdgeNs = .ok payload)
    (hsei : makeUserDataSei ⟨syncTimestampUuid, payload⟩ = .ok sei) :
    injectTimestampH264AnnexB codec accessUnit captureTimeEdgeNs =
      vec (serialize (nals.take (insertAt nals)) ++ sei ++
        serialize (nals.drop (insertAt nals))) := by
  have hnone : inspectH264AnnexB codec accessUnit false = .ok none := by
    have hempty : (messages.filter fun message => message.uuid = syncTimestampUuid).isEmpty := by
      simpa [List.filter_eq_nil_iff] using hclear
    rw [inspectH264AnnexB, h.userDataMessages_eq, if_pos hle, ok_bind]
    exact if_pos hempty
  have hwritten : writeNals (.ok sei) (insertAt nals) 0 nals =
      .ok (serialize (nals.take (insertAt nals)) ++ sei ++
        serialize (nals.drop (insertAt nals))) :=
    (writeNals_insertAt h.split).mpr ⟨sei, rfl, rfl⟩
  rw [injectTimestampH264AnnexB, hnone, ok_bind, if_neg (by simp), hpayload, ok_bind, hsei,
    ok_bind, h.split, ok_bind, hwritten, ok_bind]

/-- Writing messages into a unit puts them between those it has. -/
theorem inserted (h : Contents accessUnit nals messages) (position : Nat)
    {additions : List UserDataUnregistered}
    (hfit : ∀ addition ∈ additions, (seiNalPayload addition).length ≤ isizeMax) :
    ∃ before after, messages = before ++ after ∧
      Contents (serialize (nals.take position ++ additions.map seiNalPayload ++
        nals.drop position))
        (nals.take position ++ additions.map seiNalPayload ++ nals.drop position)
        (before ++ additions ++ after) := by
  obtain ⟨hsome, hclean⟩ := clean_of_splitAnnexB h.split
  rw [← List.take_append_drop position nals] at hclean
  have hparsed : parsedMessages (nals.take position ++ nals.drop position) = .ok messages := by
    rw [List.take_append_drop]
    exact h.parsed
  obtain ⟨before, after, hmessages, hinserted⟩ := parsedMessages_inserted hparsed hfit
  refine ⟨before, after, hmessages, splitAnnexB_serialize ?_ (clean_inserted hclean additions),
    hinserted⟩
  intro hnil
  obtain ⟨hfront, hdrop⟩ := List.append_eq_nil_iff.mp hnil
  obtain ⟨htake, _⟩ := List.append_eq_nil_iff.mp hfront
  apply hsome
  rw [← List.take_append_drop position nals, htake, hdrop]
  rfl

end Contents

/-! ## Stamped units -/

section Stamped

variable {codec : Message SyncTimestampV1} {accessUnit : List UInt8}

/-- A message that a secondary stream must not carry. -/
def Semantic (message : UserDataUnregistered) : Prop :=
  message.uuid = anchorContextUuid ∨ message.uuid = sessionManifestUuid

instance (message : UserDataUnregistered) : Decidable (Semantic message) :=
  inferInstanceAs (Decidable (_ ∨ _))

theorem not_semantic_stamp (payload : List UInt8) : ¬ Semantic ⟨syncTimestampUuid, payload⟩ := by
  have hcontext : syncTimestampUuid ≠ anchorContextUuid := by decide
  have hmanifest : syncTimestampUuid ≠ sessionManifestUuid := by decide
  exact not_or.mpr ⟨hcontext, hmanifest⟩

/-- The stricter inspection differs from the other one only by the first
semantic message. -/
theorem inspectH264AnnexB_true {unit : InspectedAccessUnit}
    (h : inspectH264AnnexB codec accessUnit false = .ok (some unit)) :
    inspectH264AnnexB codec accessUnit true = .ok (some unit) ∨
      ∃ message ∈ unit.messages, Semantic message ∧
        inspectH264AnnexB codec accessUnit true =
          fail (.secondarySemanticMetadata message.uuid) := by
  obtain ⟨messages, hmessages, hverdict⟩ := bind_eq_ok.mp h
  simp only [Bool.false_eq_true, if_false] at hverdict
  split at hverdict
  · cases hverdict
  · rename_i hsome
    split at hverdict
    · simp at hverdict
    · rename_i hone
      split at hverdict
      · simp at hverdict
      · simp at hverdict
      · rename_i first _ hfirst
        obtain ⟨timestamp, htimestamp, hunit⟩ := bind_eq_ok.mp hverdict
        cases hunit
        unfold inspectH264AnnexB
        rw [hmessages, ok_bind]
        simp only [if_neg hsome, if_neg hone, if_true, hfirst]
        cases hfound : messages.find? fun message =>
            message.uuid = anchorContextUuid ∨ message.uuid = sessionManifestUuid with
        | none =>
          refine Or.inl ?_
          dsimp only
          rw [htimestamp]
          rfl
        | some message =>
          have hsemantic : Semantic message := by
            simpa [Semantic] using List.find?_some hfound
          exact Or.inr ⟨message, List.mem_of_find?_eq_some hfound, hsemantic, rfl⟩

/-- A stamped unit has one message more than before, and no other timestamp. -/
theorem contents_stamped {captureTimeEdgeNs : UInt64} {stamped : List UInt8}
    (h : injectTimestampH264AnnexB codec accessUnit captureTimeEdgeNs = .ok stamped) :
    ∃ before after nals, userDataMessages accessUnit = .ok (before ++ after) ∧
      (∀ message ∈ before ++ after, message.uuid ≠ syncTimestampUuid) ∧ captureTimeEdgeNs ≠ 0 ∧
      Contents stamped nals (before ++
        [⟨syncTimestampUuid, codec.encodeToVec ⟨captureTimeEdgeNs⟩⟩] ++ after) := by
  obtain ⟨nals, messages, hsplit, hcollect, hclear, hnonzero, hfit, rfl⟩ :=
    injectTimestampH264AnnexB_eq_ok h
  obtain ⟨before, after, rfl, hcontents⟩ := (Contents.of_collect hsplit hcollect).inserted
    (insertAt nals) (List.forall_mem_singleton.mpr hfit)
  exact ⟨before, after, _, by rw [userDataMessages, hsplit, ok_bind, hcollect], hclear, hnonzero,
    hcontents⟩

/-- The Receiver reports the injected time for a stamped unit, also on a
secondary stream unless the unit had semantic messages of its own. -/
structure Accepted (codec : Message SyncTimestampV1) (messages : List UserDataUnregistered)
    (captureTimeEdgeNs : UInt64) (stamped : List UInt8) : Prop where
  anchor : ∃ unit, inspectH264AnnexB codec stamped false = .ok (some unit) ∧
    unit.timestamp.captureTimeEdgeNs = captureTimeEdgeNs
  secondary : (∃ unit, inspectH264AnnexB codec stamped true = .ok (some unit) ∧
      unit.timestamp.captureTimeEdgeNs = captureTimeEdgeNs) ∨
    ∃ message ∈ messages, Semantic message ∧
      inspectH264AnnexB codec stamped true = fail (.secondarySemanticMetadata message.uuid)

end Stamped

/-- A unit that a timestamp was injected into is accepted exactly when it had
fewer messages than the inspector allows. -/
theorem stamped_unit_accepted_iff (codec : Message SyncTimestampV1) (trips : codec.RoundTrips)
    (small : ∀ timestamp, (codec.encodeToVec timestamp).length < 16)
    (accessUnit : List UInt8) (captureTimeEdgeNs : UInt64) (stamped : List UInt8)
    (hstamped : injectTimestampH264AnnexB codec accessUnit captureTimeEdgeNs = .ok stamped) :
    ∃ messages, userDataMessages accessUnit = .ok messages ∧
      (Accepted codec messages captureTimeEdgeNs stamped ↔
        messages.length < maxSeiMessagesPerAu) := by
  obtain ⟨before, after, nals, hmessages, hclear, hnonzero, hcontents⟩ := contents_stamped hstamped
  refine ⟨before ++ after, hmessages, ?_⟩
  set stamp : UserDataUnregistered :=
    ⟨syncTimestampUuid, codec.encodeToVec ⟨captureTimeEdgeNs⟩⟩ with hstamp
  have hlength : (before ++ [stamp] ++ after).length = (before ++ after).length + 1 := by
    simp only [List.length_append, List.length_singleton]
    omega
  constructor
  · rintro ⟨⟨unit, hunit, _⟩, _⟩
    by_contra hfull
    cases (hcontents.inspect_of_lt (by omega) false).symm.trans hunit
  · intro hroom
    have hgathered := hcontents.userDataMessages_eq
    rw [if_pos (by omega)] at hgathered
    have hfilter : (before ++ [stamp] ++ after).filter
        (fun message => message.uuid = syncTimestampUuid) = [stamp] := by
      have hnone : ∀ part : List UserDataUnregistered, (∀ message ∈ part, message ∈ before ++ after) →
          part.filter (fun message => message.uuid = syncTimestampUuid) = [] := by
        intro part hpart
        rw [List.filter_eq_nil_iff]
        intro message hmessage
        simpa using hclear message (hpart message hmessage)
      rw [List.filter_append, List.filter_append,
        hnone before (fun message hmem => List.mem_append_left _ hmem),
        hnone after (fun message hmem => List.mem_append_right _ hmem)]
      simp [hstamp]
    have hinspected := inspectH264AnnexB_of_stamp trips hnonzero (small _) hgathered hfilter
    refine ⟨⟨_, hinspected, rfl⟩, ?_⟩
    rcases inspectH264AnnexB_true hinspected with haccepted | ⟨message, hmem, hsemantic, hrefused⟩
    · exact Or.inl ⟨_, haccepted, rfl⟩
    · refine Or.inr ⟨message, ?_, hsemantic, hrefused⟩
      -- the injected message is not a semantic one
      have hother : message ≠ stamp := by
        rintro rfl
        exact not_semantic_stamp _ hsemantic
      simpa [hother] using hmem

def slicePayload : List UInt8 := [0x65, 0x88, 0x84, 0x21]

/-- User data of no meaning to the protocol. -/
def plainMessage : UserDataUnregistered := ⟨Uuid.ofNat 1, []⟩

/-- A coded slice behind such messages. -/
def crowdedUnit (count : Nat) : List UInt8 :=
  serialize (List.replicate count (seiNalPayload plainMessage) ++ [slicePayload])

theorem contents_crowdedUnit (count : Nat) :
    Contents (crowdedUnit count) (List.replicate count (seiNalPayload plainMessage) ++ [slicePayload])
      (List.replicate count plainMessage) := by
  have hslice : Contents (serialize [slicePayload]) [slicePayload] [] := by
    constructor <;> decide +kernel
  have hfit : (seiNalPayload plainMessage).length ≤ isizeMax := by decide +kernel
  have hfits : ∀ addition ∈ List.replicate count plainMessage,
      (seiNalPayload addition).length ≤ isizeMax := by
    intro addition hmem
    rw [List.eq_of_mem_replicate hmem]
    exact hfit
  obtain ⟨before, after, hnone, hcontents⟩ := hslice.inserted 0 hfits
  obtain ⟨rfl, rfl⟩ := List.append_eq_nil_iff.mp hnone.symm
  simpa [crowdedUnit] using hcontents

theorem stamped_unit_accepted_iff_one :
    ∃ stamped messages,
      injectTimestampH264AnnexB fixed64Timestamp (crowdedUnit 1) 42 = .ok stamped ∧
      userDataMessages (crowdedUnit 1) = .ok messages ∧
      Accepted fixed64Timestamp messages 42 stamped := by
  have hmessages : userDataMessages (crowdedUnit 1) = .ok [plainMessage] := by
    decide +kernel
  have hsome : (injectTimestampH264AnnexB fixed64Timestamp (crowdedUnit 1) 42).toOption.isSome := by
    decide +kernel
  have hstamped := eq_ok_of_isSome hsome
  obtain ⟨messages, hsame, hiff⟩ := stamped_unit_accepted_iff fixed64Timestamp
    fixed64Timestamp_roundTrips fixed64Timestamp_short _ _ _ hstamped
  cases hmessages.symm.trans hsame
  exact ⟨_, _, hstamped, hmessages, hiff.mpr (by decide)⟩

/-- A unit with as many messages as the inspector allows is stamped, and what
comes out is refused. -/
theorem full_unit_stamped_and_refused :
    ∃ stamped, injectTimestampH264AnnexB fixed64Timestamp (crowdedUnit 64) 42 = .ok stamped ∧
      inspectH264AnnexB fixed64Timestamp stamped false = fail .malformedSei ∧
      inspectH264AnnexB fixed64Timestamp stamped true = fail .malformedSei := by
  have hcrowded := contents_crowdedUnit 64
  have hclear : ∀ message ∈ List.replicate 64 plainMessage, message.uuid ≠ syncTimestampUuid := by
    intro message hmem
    rw [List.eq_of_mem_replicate hmem]
    decide
  have hpayload : encodeSyncTimestamp fixed64Timestamp 42 =
      .ok (fixed64Timestamp.encodeToVec ⟨42⟩) := by
    decide
  obtain ⟨sei, hsei⟩ : ∃ sei, makeUserDataSei ⟨syncTimestampUuid,
      fixed64Timestamp.encodeToVec ⟨42⟩⟩ = .ok sei := ⟨_, eq_ok_of_isSome (by decide +kernel)⟩
  obtain ⟨rfl, _⟩ := makeUserDataSei_eq_ok hsei
  have hstamped := (hcrowded.injectTimestamp_eq (by decide) hclear hpayload hsei).trans
    (vec_eq_ok.mpr ⟨by decide +kernel, rfl⟩)
  obtain ⟨before, after, nals, hmessages, _, _, hcontents⟩ := contents_stamped hstamped
  have hsame : before ++ after = List.replicate 64 plainMessage :=
    Except.ok.inj (hmessages.symm.trans hcrowded.userDataMessages_eq)
  have hmany : maxSeiMessagesPerAu < (before ++ [(⟨syncTimestampUuid,
      fixed64Timestamp.encodeToVec ⟨42⟩⟩ : UserDataUnregistered)] ++ after).length := by
    have hlength := congrArg List.length hsame
    simp only [List.length_append, List.length_singleton, List.length_replicate,
      maxSeiMessagesPerAu] at hlength ⊢
    omega
  exact ⟨_, hstamped, hcontents.inspect_of_lt hmany false, hcontents.inspect_of_lt hmany true⟩

/-! ## Duplicates -/

/-- Additions occur once exactly when none of them was there before, which is
checked only in units that have a timestamp. -/
theorem additions_unique_iff (codec : Message SyncTimestampV1) (accessUnit : List UInt8)
    (additions : List UserDataUnregistered) (hdistinct : (additions.map (·.uuid)).Nodup)
    (enriched : List UInt8)
    (henriched : injectUserDataH264AnnexB codec accessUnit additions = .ok enriched) :
    ∃ messages, userDataMessages accessUnit = .ok messages ∧
      ((∃ nals parsed, Contents enriched nals parsed ∧
          ∀ addition ∈ additions, (parsed.map (·.uuid)).count addition.uuid = 1) ↔
        (∃ message ∈ messages, message.uuid = syncTimestampUuid) ∨
          ∀ addition ∈ additions, ∀ message ∈ messages, message.uuid ≠ addition.uuid) := by
  obtain ⟨nals, messages, hsplit, hcollect, hfresh, hfit, rfl⟩ :=
    injectUserDataH264AnnexB_eq_ok henriched
  refine ⟨messages, by rw [userDataMessages, hsplit, ok_bind, hcollect], ?_⟩
  obtain ⟨before, after, rfl, hcontents⟩ :=
    (Contents.of_collect hsplit hcollect).inserted (insertAt nals) hfit
  -- an addition is there once more often than before
  have hcount : ∀ addition ∈ additions,
      ((before ++ additions ++ after).map (·.uuid)).count addition.uuid =
        ((before ++ after).map (·.uuid)).count addition.uuid + 1 := by
    intro addition hmem
    have hone : (additions.map (·.uuid)).count addition.uuid = 1 :=
      List.count_eq_one_of_mem hdistinct (List.mem_map_of_mem hmem)
    simp only [List.map_append, List.count_append, hone]
    omega
  constructor
  · rintro ⟨others, parsed, hother, hunique⟩
    obtain rfl := Except.ok.inj (hother.split.symm.trans hcontents.split)
    obtain rfl := Except.ok.inj (hother.parsed.symm.trans hcontents.parsed)
    refine Or.inr ?_
    intro addition hmem message hmessage hsame
    have honce := hunique addition hmem
    rw [hcount addition hmem] at honce
    have hnone : addition.uuid ∉ (before ++ after).map (·.uuid) :=
      List.count_eq_zero.mp (by omega)
    exact hnone (List.mem_map.mpr ⟨message, hmessage, hsame⟩)
  · intro hallowed
    have habsent : ∀ addition ∈ additions, ∀ message ∈ before ++ after,
        message.uuid ≠ addition.uuid := by
      rcases hallowed with hstamp | habsent
      · exact hfresh hstamp
      · exact habsent
    refine ⟨_, _, hcontents, ?_⟩
    intro addition hmem
    have hnone : ((before ++ after).map (·.uuid)).count addition.uuid = 0 := by
      rw [List.count_eq_zero]
      intro hthere
      obtain ⟨message, hmessage, hsame⟩ := List.mem_map.mp hthere
      exact habsent addition hmem message hmessage hsame
    rw [hcount addition hmem, hnone]

/-- A context, and no timestamp. -/
def contextUnit : List UInt8 := serialize [seiNalPayload ⟨anchorContextUuid, [1]⟩, slicePayload]

theorem additions_unique_iff_manifest :
    ∃ enriched nals parsed,
      injectUserDataH264AnnexB fixed64Timestamp contextUnit [⟨sessionManifestUuid, [2]⟩] =
        .ok enriched ∧
      Contents enriched nals parsed ∧ (parsed.map (·.uuid)).count sessionManifestUuid = 1 := by
  have hmessages : userDataMessages contextUnit = .ok [⟨anchorContextUuid, [1]⟩] := by
    decide +kernel
  have hsome : (injectUserDataH264AnnexB fixed64Timestamp contextUnit
      [⟨sessionManifestUuid, [2]⟩]).toOption.isSome := by
    decide +kernel
  have henriched := eq_ok_of_isSome hsome
  obtain ⟨messages, hsame, hiff⟩ := additions_unique_iff fixed64Timestamp contextUnit
    [⟨sessionManifestUuid, [2]⟩] (by decide) _ henriched
  cases hmessages.symm.trans hsame
  obtain ⟨nals, parsed, hcontents, hunique⟩ := hiff.mpr (Or.inr (by decide))
  exact ⟨_, nals, parsed, henriched, hcontents, hunique _ List.mem_cons_self⟩

/-- A second context is added to a unit without a timestamp. -/
theorem unstamped_unit_duplicates :
    ∃ enriched nals,
      injectUserDataH264AnnexB fixed64Timestamp contextUnit [⟨anchorContextUuid, [2]⟩] =
        .ok enriched ∧
      Contents enriched nals [⟨anchorContextUuid, [1]⟩, ⟨anchorContextUuid, [2]⟩] := by
  have hsome : ∃ enriched ∈ (injectUserDataH264AnnexB fixed64Timestamp contextUnit
      [⟨anchorContextUuid, [2]⟩]).toOption, ∃ nals ∈ (splitAnnexB enriched).toOption,
      parsedMessages nals = .ok [⟨anchorContextUuid, [1]⟩, ⟨anchorContextUuid, [2]⟩] := by
    decide +kernel
  obtain ⟨enriched, henriched, nals, hnals, hparsed⟩ := hsome
  exact ⟨enriched, nals, toOption_eq_some.mp henriched, toOption_eq_some.mp hnals, hparsed⟩

end RobotMulticam.Codec
