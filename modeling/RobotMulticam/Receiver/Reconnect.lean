import RobotMulticam.Receiver.Recovery

/-!
# Cameras that come back

A stream becomes ready for datasets when a manifest is installed: the
installation promotes every connected stream of the session that is
provisional at that moment, and nothing else does. A camera that disconnects
and connects again starts over, while the manifest of its session stays in
force.

`stateOf_promoteAll` says what an installation does to the states of the
streams. `Unpromoted` is what holds until there is one.
-/

namespace RobotMulticam.Receiver

open RobotMulticam.Lib
open RobotMulticam.Protocol
open RobotMulticam.Codec
open Std (ExtTreeMap)

/-- The bootstrap state of a stream. -/
def ReceiverRegistry.stateOf (registry : ReceiverRegistry) (key : StreamKey) :
    Option BootstrapState :=
  registry.streams[key]?.map StreamRecord.state

/-! ## Promotions -/

theorem stateOf_insert (registry : ReceiverRegistry) (key other : StreamKey)
    (record : StreamRecord) :
    ReceiverRegistry.stateOf { registry with streams := registry.streams.insert key record }
      other = if key = other then some record.state else registry.stateOf other := by
  unfold ReceiverRegistry.stateOf
  rw [ReceiverRegistry.getElem?_insert_stream]
  split
  · rfl
  · rfl

variable {runtime : ReceiverRuntime} {key : StreamKey} {registry : ReceiverRegistry}
  {current : Option SessionManifestV1} {arrivals : List Arrival}

/-- A transition that the state machine allows sets the state of its stream
and no other. -/
theorem promote_of_valid {source : BootstrapState}
    (hstate : runtime.registry.stateOf key = some source) (target : BootstrapState)
    (hvalid : ReceiverRegistry.validTransition source target = true) :
    ∃ next, promote runtime (key, target) = (.ok (), next) ∧
      ∀ other, next.registry.stateOf other =
        if key = other then some target else runtime.registry.stateOf other := by
  obtain ⟨record, hrecord, rfl⟩ := Option.map_eq_some_iff.mp hstate
  unfold promote ReceiverRegistry.transition
  simp only [hrecord, hvalid, if_true]
  exact ⟨_, rfl, fun other => stateOf_insert runtime.registry key other _⟩

/-- The two transitions of one provisional stream. -/
theorem promoteAll_pair (hstate : runtime.registry.stateOf key = some .provisionalStream)
    (rest : List (StreamKey × BootstrapState)) :
    ∃ next, promoteAll runtime
        ((key, .manifestValidated) :: (key, .datasetReady) :: rest) = promoteAll next rest ∧
      ∀ other, next.registry.stateOf other =
        if key = other then some .datasetReady else runtime.registry.stateOf other := by
  obtain ⟨middle, hfirst, hmiddle⟩ := promote_of_valid hstate .manifestValidated rfl
  have hvalidated : middle.registry.stateOf key = some .manifestValidated := by
    rw [hmiddle, if_pos rfl]
  obtain ⟨next, hsecond, hnext⟩ := promote_of_valid hvalidated .datasetReady rfl
  refine ⟨next, ?_, ?_⟩
  · rw [promoteAll, hfirst]
    dsimp only
    rw [promoteAll, hsecond]
  · intro other
    rw [hnext]
    by_cases hkey : key = other
    · rw [if_pos hkey, if_pos hkey]
    · rw [if_neg hkey, if_neg hkey, hmiddle, if_neg hkey]

/-- Distinct provisional streams all become ready. -/
theorem promoteAll_keys {keys : List StreamKey} (hdistinct : keys.Nodup)
    (hstates : ∀ key ∈ keys, runtime.registry.stateOf key = some .provisionalStream) :
    ∃ next, promoteAll runtime (keys.flatMap fun key =>
        [(key, .manifestValidated), (key, .datasetReady)]) = (.ok (), next) ∧
      ∀ other, next.registry.stateOf other =
        if other ∈ keys then some .datasetReady else runtime.registry.stateOf other := by
  induction keys generalizing runtime with
  | nil => exact ⟨runtime, rfl, fun other => by simp⟩
  | cons key keys ih =>
    obtain ⟨hfresh, hdistinct⟩ := List.nodup_cons.mp hdistinct
    obtain ⟨middle, hpair, hmiddle⟩ := promoteAll_pair (hstates key List.mem_cons_self)
      (keys.flatMap fun key => [(key, .manifestValidated), (key, .datasetReady)])
    have hothers : ∀ other ∈ keys, middle.registry.stateOf other = some .provisionalStream := by
      intro other hother
      have hne : key ≠ other := by
        rintro rfl
        exact hfresh hother
      rw [hmiddle, if_neg hne]
      exact hstates other (List.mem_cons_of_mem _ hother)
    obtain ⟨next, hrest, hnext⟩ := ih hdistinct hothers
    refine ⟨next, ?_, ?_⟩
    · rw [List.flatMap_cons]
      exact hpair.trans hrest
    · intro other
      rw [hnext, hmiddle]
      by_cases hkey : key = other
      · simp [hkey]
      · simp [hkey, Ne.symm hkey]

/-- The streams an installation promotes. -/
def provisionalKeys (snapshots : List StreamSnapshot) : List StreamKey :=
  (snapshots.filter fun snapshot =>
    snapshot.connected && snapshot.state == .provisionalStream).map StreamSnapshot.key

theorem mem_provisionalKeys {id : Uuid} :
    key ∈ provisionalKeys (registry.snapshots id) ↔
      key.sessionId = id ∧ ∃ record, registry.streams[key]? = some record ∧
        record.connected = true ∧ record.state = .provisionalStream := by
  unfold provisionalKeys ReceiverRegistry.snapshots
  simp only [List.mem_map, List.mem_filter, ExtTreeMap.mem_toList_iff_getElem?_eq_some,
    Bool.and_eq_true, beq_iff_eq, Prod.exists]
  constructor
  · rintro ⟨snapshot, ⟨⟨other, record, ⟨hrecord, hsession⟩, rfl⟩, hconnected, hstate⟩, rfl⟩
    exact ⟨hsession, record, hrecord, hconnected, hstate⟩
  · rintro ⟨hsession, record, hrecord, hconnected, hstate⟩
    exact ⟨_, ⟨⟨key, record, ⟨hrecord, hsession⟩, rfl⟩, hconnected, hstate⟩, rfl⟩

/-- The streams of a registry have distinct keys. -/
theorem nodup_provisionalKeys (registry : ReceiverRegistry) (id : Uuid) :
    (provisionalKeys (registry.snapshots id)).Nodup := by
  have hkeys : (registry.streams.toList.map Prod.fst).Nodup := by
    rw [List.nodup_iff_pairwise_ne, List.pairwise_map]
    refine (ExtTreeMap.distinct_keys_toList (t := registry.streams)).imp ?_
    intro first second hne heq
    exact hne (by rw [heq]; exact Std.ReflCmp.compare_self)
  refine List.Nodup.sublist ?_ hkeys
  unfold provisionalKeys ReceiverRegistry.snapshots
  refine (List.filter_sublist.map _).trans ?_
  rw [List.map_map]
  exact List.filter_sublist.map Prod.fst

/-- What an installation does to the state of a stream. -/
theorem stateOf_promoteAll (runtime : ReceiverRuntime) (id : Uuid) (key : StreamKey) :
    (promoteAll runtime (promotions (runtime.registry.snapshots id))).2.registry.stateOf key =
      if key ∈ provisionalKeys (runtime.registry.snapshots id) then some .datasetReady
      else runtime.registry.stateOf key := by
  have hstates : ∀ other ∈ provisionalKeys (runtime.registry.snapshots id),
      runtime.registry.stateOf other = some .provisionalStream := by
    intro other hother
    obtain ⟨_, record, hrecord, _, hstate⟩ := mem_provisionalKeys.mp hother
    rw [ReceiverRegistry.stateOf, hrecord]
    exact congrArg some hstate
  obtain ⟨next, hnext, hready⟩ :=
    promoteAll_keys (nodup_provisionalKeys runtime.registry id) hstates
  have hpromotions : promotions (runtime.registry.snapshots id) =
      (provisionalKeys (runtime.registry.snapshots id)).flatMap fun key =>
        [(key, .manifestValidated), (key, .datasetReady)] := by
    unfold promotions provisionalKeys
    rw [List.flatMap_map]
  rw [hpromotions, hnext]
  exact hready key

/-! ## Until a manifest is installed -/

/-- A connected stream is provisional. -/
def Provisional (registry : ReceiverRegistry) (key : StreamKey) : Prop :=
  ∃ record ∈ registry.streams[key]?, record.connected = true ∧ record.state = .provisionalStream

instance (registry : ReceiverRegistry) (key : StreamKey) : Decidable (Provisional registry key) :=
  inferInstanceAs (Decidable (∃ record ∈ registry.streams[key]?, _))

theorem Provisional.stateOf (h : Provisional registry key) :
    registry.stateOf key = some .provisionalStream := by
  obtain ⟨record, hrecord, _, hstate⟩ := h
  rw [ReceiverRegistry.stateOf, hrecord]
  exact congrArg some hstate

/-- The stream is still provisional under the manifest `current`, or it is
ready. -/
def Unpromoted (key : StreamKey) (current : Option SessionManifestV1)
    (runtime : ReceiverRuntime) : Prop :=
  (Provisional runtime.registry key ∧ (runtime.session key.sessionId).manifest = current) ∨
    runtime.registry.stateOf key = some .datasetReady

/-- An installation makes the stream ready, or leaves it so. -/
theorem stateOf_install
    (h : Provisional runtime.registry key ∨ runtime.registry.stateOf key = some .datasetReady)
    (ready : Prepared) (hsnapshots : ready.snapshots = runtime.registry.snapshots key.sessionId) :
    (promoteAll (install runtime key.sessionId ready)
      (promotions ready.snapshots)).2.registry.stateOf key = some .datasetReady := by
  have hstate := stateOf_promoteAll (install runtime key.sessionId ready) key.sessionId key
  rw [hsnapshots]
  refine hstate.trans ?_
  show (if key ∈ provisionalKeys (runtime.registry.snapshots key.sessionId) then _
    else runtime.registry.stateOf key) = _
  rcases h with hprovisional | hready
  · rw [if_pos (mem_provisionalKeys.mpr ⟨rfl, hprovisional⟩)]
  · rw [hready, ite_self]

/-- The step lemma: one manifest message of the session. -/
theorem Unpromoted.message (h : Unpromoted key current runtime) (externals : Externals)
    (payload : List UInt8) (now : Nat) :
    Unpromoted key current
      (processManifestChunk externals runtime key.sessionId payload now).2 := by
  have hregistry := collectMessage_registry externals runtime key.sessionId payload now
  rcases processManifestChunk_cases externals runtime key.sessionId payload now with
    hcollected | ⟨completed, ready, hready, hinstalled⟩
  · unfold Unpromoted
    rw [hcollected, hregistry, (collectMessage_manifest ..).1]
    exact h
  · refine Or.inr ?_
    rw [hinstalled]
    refine stateOf_install ?_ ready (prepare_eq_ok.mp hready).2.2.2.2
    rw [hregistry]
    exact h.imp_left And.left

/-- The run lemma: any envelopes of the session. -/
theorem Unpromoted.run (h : Unpromoted key current runtime) (externals : Externals)
    (hsession : ∀ arrival ∈ arrivals, arrival.envelope.key.sessionId = key.sessionId) :
    Unpromoted key current (Lib.run (receive externals) runtime arrivals) := by
  refine run_receive_invariant (Unpromoted key current) hsession ?_ ?_ h
  · intro runtime message _ hunpromoted
    exact hunpromoted.message externals message.1 message.2
  · intro runtime envelope hunpromoted
    unfold Unpromoted
    rw [(processFrame_settings externals runtime envelope).1,
      (processFrame_session externals runtime envelope key.sessionId).1]
    exact hunpromoted

/-- A session that already has this revision or a later one skips the whole
repetition, and no stream changes its state. -/
theorem Sent.registry_of_skipped {externals : Externals} {id : Uuid} {bytes : List UInt8}
    {manifest current : SessionManifestV1} {sent : List SessionManifestChunkV1}
    {header : ManifestHeader} {pieces : List (List UInt8)} {timeout : Nat}
    (hsent : Sent externals id bytes manifest sent header pieces
      (arrivals.flatMap Arrival.messages) timeout)
    (hsession : ∀ arrival ∈ arrivals, arrival.envelope.key.sessionId = id)
    (hcurrent : (runtime.session id).manifest = some current)
    (hle : manifest.manifestRevision ≤ current.manifestRevision) :
    (run (receive externals) runtime arrivals).registry = runtime.registry := by
  suffices hkept : (run (receive externals) runtime arrivals).registry = runtime.registry ∧
      ((run (receive externals) runtime arrivals).session id).manifest = some current from
    hkept.1
  refine run_receive_invariant (fun next =>
    next.registry = runtime.registry ∧ (next.session id).manifest = some current)
    hsession ?_ ?_ ⟨rfl, hcurrent⟩
  · rintro next message hmessage ⟨hregistry, hmanifest⟩
    rw [hsent.message_skipped ⟨current, hmanifest, hle⟩ hmessage, setSession_session_self]
    exact ⟨hregistry, hmanifest⟩
  · rintro next envelope ⟨hregistry, hmanifest⟩
    rw [(processFrame_settings externals next envelope).1,
      (processFrame_session externals next envelope id).1]
    exact ⟨hregistry, hmanifest⟩

/-! ## Readiness after a reconnect -/

/-- A camera that came back becomes ready through repetitions of a manifest
that the connected transports match exactly when the manifest in force is an
older one, and no reassembler of its revision is left over. Under the manifest
itself, a repetition leaves the camera provisional. -/
theorem repetition_readies_iff (externals : Externals) (hzstd : externals.zstd.RoundTrips)
    (runtime : ReceiverRuntime) (key : StreamKey) (hkey : Provisional runtime.registry key)
    (bytes : List UInt8) (manifest : SessionManifestV1) (compression : ManifestCompression)
    (sent : List SessionManifestChunkV1)
    (hchunks : chunkManifest externals bytes key.sessionId.bytes manifest.manifestRevision
      compression = .ok sent)
    (hdecodes : ∀ chunk ∈ sent,
      externals.chunk.decode (externals.chunk.encodeToVec chunk) = some chunk)
    (hmatching : validateManifest externals bytes
      (transportsOf (runtime.registry.snapshots key.sessionId)) runtime.basePort = .ok manifest)
    (now : Nat) :
    ((∀ arrivals, Repeats externals key.sessionId sent runtime.manifestTimeout now arrivals →
        (run (receive externals) runtime arrivals).registry.stateOf key = some .datasetReady) ↔
      (∀ current ∈ (runtime.session key.sessionId).manifest,
        current.manifestRevision < manifest.manifestRevision) ∧
      HoldsNone manifest.manifestRevision (runtime.session key.sessionId)) ∧
    (Recovered key.sessionId bytes manifest runtime → ∀ arrivals,
      Repeats externals key.sessionId sent runtime.manifestTimeout now arrivals →
      (run (receive externals) runtime arrivals).registry.stateOf key =
        some .provisionalStream) := by
  obtain ⟨header, pieces, hcarries, hsession, hrevision⟩ :=
    carries_of_chunkManifest hzstd hchunks
  have hsent : ∀ {arrivals},
      Repeats externals key.sessionId sent runtime.manifestTimeout now arrivals →
      Sent externals key.sessionId bytes manifest sent header pieces
        (arrivals.flatMap Arrival.messages) runtime.manifestTimeout := fun hrepeats =>
    ⟨hcarries, hsession, hrevision, hdecodes, hrepeats.chunks, hrepeats.ordered, hrepeats.within⟩
  have hskipped : ∀ current ∈ (runtime.session key.sessionId).manifest,
      manifest.manifestRevision ≤ current.manifestRevision → ∀ arrivals,
      Repeats externals key.sessionId sent runtime.manifestTimeout now arrivals →
      (run (receive externals) runtime arrivals).registry.stateOf key =
        some .provisionalStream := by
    intro current hcurrent hle arrivals hrepeats
    rw [(hsent hrepeats).registry_of_skipped hrepeats.session hcurrent hle]
    exact hkey.stateOf
  have hstuck : ∀ {registry : ReceiverRegistry},
      registry.stateOf key = some .provisionalStream →
      registry.stateOf key ≠ some .datasetReady := by
    intro registry hstate hready
    rw [hstate] at hready
    cases hready
  refine ⟨⟨?_, ?_⟩, fun hrecovered =>
    hskipped manifest hrecovered.1 (UInt64.le_refl _)⟩
  · intro hall
    have hfresh : ∀ current ∈ (runtime.session key.sessionId).manifest,
        current.manifestRevision < manifest.manifestRevision := by
      intro current hcurrent
      by_contra hnewer
      have hrepeats : Repeats externals key.sessionId sent runtime.manifestTimeout now
          [oneArrival externals key sent now] :=
        repeats_oneArrival externals key sent (Nat.le_refl now)
      exact hstuck (hskipped current hcurrent (UInt64.not_lt.mp hnewer) _ hrepeats)
        (hall _ hrepeats)
    refine ⟨hfresh, ?_⟩
    by_contra hholds
    obtain ⟨arrivals, hrepeats, _, hregistry⟩ :=
      exists_late_repetition now hsent hcarries hfresh hholds
    exact hstuck (hregistry ▸ hkey.stateOf) (hall arrivals hrepeats)
  · rintro ⟨hfresh, hnone⟩ arrivals hrepeats
    have hrecovered : Recovered key.sessionId bytes manifest
        (run (receive externals) runtime arrivals) :=
      (hsent hrepeats).recovered_of_progress ((hsent hrepeats).progress_run hrepeats.session
        (List.nil_append _).symm (Or.inr ⟨hfresh, hmatching, rfl, Or.inl ⟨rfl, hnone⟩⟩))
    have hunpromoted : Unpromoted key (runtime.session key.sessionId).manifest runtime :=
      Or.inl ⟨hkey, rfl⟩
    rcases hunpromoted.run externals hrepeats.session with ⟨_, hsame⟩ | hready
    · -- a recovered manifest is not the older one
      exact absurd (hfresh manifest (hsame ▸ hrecovered.1)) (UInt64.lt_irrefl _)
    · exact hready

/-- A stream signs in and starts to send. -/
def connects (listenPort : UInt16) (rawStreamId cameraId : String) : List Action :=
  [.accept listenPort rawStreamId,
    .transition ⟨cellSession, cameraId, 1⟩ .mediaProbing,
    .transition ⟨cellSession, cameraId, 1⟩ .provisionalStream]

/-- Both cameras send, and nothing was installed. -/
def sendingWorld : World :=
  run (World.step twoInstallersExternals) (World.initial cellRuntime)
    (connects 10000 anchorStream "anchor" ++ connects 10001 sideStream "side")

/-- The manifest was installed, and then the side camera disconnected and
came back with the same slot, epoch and port. -/
def reconnectedWorld : World :=
  run (World.step twoInstallersExternals) sendingWorld
    (([.ingest 0 ⟨cellSession, "anchor", 1⟩ (some 100)
        (cellUnit 100 (manifestMessages (revisedManifest 1))),
      .advance 0 1, .advance 0 1, .advance 0 1, .advance 0 1, .advance 0 1, .advance 0 1,
      .advance 0 1, .advance 0 1, .advance 0 1,
      .disconnect ⟨cellSession, "side", 1⟩] : List Action) ++ connects 10001 sideStream "side")

/-- The side camera sends, and the manifest of revision 1 matches the
connected transports. -/
def AwaitsReadiness (world : World) : Prop :=
  Provisional world.runtime.registry ⟨cellSession, "side", 1⟩ ∧
    validateManifest twoInstallersExternals (revisedManifest 1).encode
      (transportsOf (world.runtime.registry.snapshots cellSession)) world.runtime.basePort =
        .ok (revisedManifest 1)

instance (world : World) : Decidable (AwaitsReadiness world) :=
  inferInstanceAs (Decidable (_ ∧ _))

theorem sendingWorld_awaits :
    AwaitsReadiness sendingWorld ∧
      (sendingWorld.runtime.session cellSession).manifest = none ∧
      (sendingWorld.runtime.session cellSession).reassembler.isNone = true := by
  decide +kernel

/-- The first manifest of the session makes the side camera ready. -/
theorem repetition_readies_iff_first :
    (run (receive twoInstallersExternals) sendingWorld.runtime
      [cellRepetition 5]).registry.stateOf ⟨cellSession, "side", 1⟩ = some .datasetReady := by
  obtain ⟨⟨hside, hmatching⟩, hmanifest, hnone⟩ := sendingWorld_awaits
  refine (repetition_readies_iff twoInstallersExternals Zstd.stored_roundTrips
    sendingWorld.runtime ⟨cellSession, "side", 1⟩ hside _ (revisedManifest 1) .none _
    chunksOf_revisedManifest chunksOf_decodes hmatching 2).1.mpr ⟨?_, ?_⟩ _ ?_
  · intro current hcurrent
    rw [hmanifest] at hcurrent
    cases hcurrent
  · exact Or.inl (Option.isNone_iff_eq_none.mp hnone)
  · exact repeats_oneArrival twoInstallersExternals ⟨cellSession, "anchor", 1⟩ _ (by decide)

/-- The camera came back under the manifest in force. All connected
transports match the manifest and it is repeated in full, but its chunks are
skipped because they are not newer, and the camera stays provisional. -/
theorem reconnected_camera_not_ready :
    ReceiverRuntime.new cellRegistry 10000 1000000000 8 20 8 = .ok cellRuntime ∧
      Recovered cellSession (revisedManifest 1).encode (revisedManifest 1)
        reconnectedWorld.runtime ∧
      AwaitsReadiness reconnectedWorld ∧
      Repeats twoInstallersExternals cellSession (chunksOf (revisedManifest 1))
        reconnectedWorld.runtime.manifestTimeout 2 [cellRepetition 5] ∧
      (run (receive twoInstallersExternals) reconnectedWorld.runtime
        [cellRepetition 5]).registry.stateOf ⟨cellSession, "side", 1⟩ ≠ some .datasetReady := by
  refine ⟨cellRuntime_new, by decide +kernel, by decide +kernel, ?_, by decide +kernel⟩
  exact repeats_oneArrival twoInstallersExternals ⟨cellSession, "anchor", 1⟩ _ (by decide)

end RobotMulticam.Receiver
