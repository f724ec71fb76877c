import CamAdmiral.RecoveryAtomicity

/-!
The validation of the sources a moved ONVIF camera reports. Enabled profiles are required
whether or not they ever had a source, so a profile that an adoption stored without a URI has
its part in the outcome.
-/

namespace CamAdmiral

/-- `_validated_updates`; `none` where it raises. -/
def validatedUpdates [UrlText] (world : RecoveryWorld) (candidate : Device)
    (streams : List AdoptedStream) (username password : String) :
    Option (Except RecoveryStatus (List (String × String))) :=
  match proposeUpdates world candidate streams username password with
  | .raised => none
  | .rejected status => some (.error status)
  | .updates updates =>
      let enabled := (streams.filter fun entry => entry.1.enabled).map fun entry =>
        entry.2.profileToken
      match probeUpdates world enabled username password updates with
      | .error status => some (.error status)
      | .ok _ => some (.ok updates)

/-- The URI of a token in `discovered`, where a later profile takes the place of an earlier. -/
def reportedUri (profiles : List (String × String)) (token : String) : Option String :=
  ((profiles.filter fun entry => entry.1 ≠ "" && entry.2 ≠ "").reverse).lookup token

section
variable [UrlText]

/-- The stream has a URI on the new address that probes ready. -/
def Works (world : RecoveryWorld) (candidate : Device) (username password : String)
    (profiles : List (String × String)) (entry : AdoptedStream) : Prop :=
  ∃ uri, reportedUri profiles entry.2.profileToken = some uri ∧
    UrlText.hostname uri = candidate.ip ∧ world.probe uri username password = some .ready

/-- What else has to hold: some stream is enabled, whatever is reported for the camera is on the
new address, and the enabled profiles without a source work as well. -/
structure OthersWork (world : RecoveryWorld) (candidate : Device) (username password : String)
    (profiles : List (String × String)) (streams : List AdoptedStream) : Prop where
  someEnabled : ∃ entry ∈ streams, entry.1.enabled = true
  sameAddress : ∀ entry ∈ streams, ∀ uri,
    reportedUri profiles entry.2.profileToken = some uri → UrlText.hostname uri = candidate.ip
  unsaved : ∀ entry ∈ streams, entry.1.enabled = true → entry.2.givenUri = none →
    Works world candidate username password profiles entry

/-! The probes. -/

omit [UrlText] in
theorem probeUpdates_ok_iff (world : RecoveryWorld) (enabled : List String)
    (username password : String) (updates : List (String × String)) :
    (∃ results, probeUpdates world enabled username password updates = .ok results) ↔
      ∀ item ∈ updates, item.1 ∈ enabled →
        world.probe item.2 username password = some .ready := by
  induction updates with
  | nil => simp [probeUpdates]
  | cons item rest ih =>
      obtain ⟨token, uri⟩ := item
      rw [List.forall_mem_cons, ← ih]
      by_cases isEnabled : token ∈ enabled
      · cases probed : world.probe uri username password with
        | none => simp [probeUpdates, isEnabled, probed]
        | some status =>
            cases status with
            | ready =>
                cases later : probeUpdates world enabled username password rest <;>
                  simp [probeUpdates, isEnabled, probed, later, Except.map]
            | _ => simp [probeUpdates, isEnabled, probed]
      · simp [probeUpdates, isEnabled]

/-! The sources of an ONVIF camera. -/

theorem proposeUpdates_onvif {world : RecoveryWorld} {candidate : Device}
    {streams : List AdoptedStream} {username password : String}
    {profiles updates : List (String × String)} (someStream : streams ≠ [])
    (onvif : ∀ entry ∈ streams, sourceKindOf entry.2 = "onvif")
    (inspected : world.inspect candidate username password = .ok profiles) :
    proposeUpdates world candidate streams username password = .updates updates ↔
      (∃ entry ∈ streams, entry.1.enabled = true) ∧
        (∀ entry ∈ streams, entry.1.enabled = true →
          (reportedUri profiles entry.2.profileToken).isSome) ∧
        updates = (streams.filterMap fun entry =>
          (reportedUri profiles entry.2.profileToken).map fun uri =>
            (entry.2.profileToken, uri)) ∧
        ∀ item ∈ updates, UrlText.hostname item.2 = candidate.ip := by
  have isOnvif : (!(streams.map fun entry => sourceKindOf entry.2).isEmpty &&
      (streams.map fun entry => sourceKindOf entry.2).all (· = "onvif")) = true := by
    simpa [someStream] using fun stream profile member => onvif (stream, profile) member
  have enabled_nil : ((streams.filter fun entry => entry.1.enabled).map fun entry =>
      entry.2.profileToken).isEmpty = false ↔ ∃ entry ∈ streams, entry.1.enabled = true := by
    simp [List.isEmpty_eq_false_iff]
  have enabled_any : ((streams.filter fun entry => entry.1.enabled).map fun entry =>
      entry.2.profileToken).any (fun token => (reportedUri profiles token).isNone) = false ↔
        ∀ entry ∈ streams, entry.1.enabled = true →
          (reportedUri profiles entry.2.profileToken).isSome := by
    simp [Option.isSome_iff_ne_none]
  have unfolded : proposeUpdates world candidate streams username password =
      if (((streams.filter fun entry => entry.1.enabled).map fun entry =>
          entry.2.profileToken).isEmpty || ((streams.filter fun entry => entry.1.enabled).map
            fun entry => entry.2.profileToken).any fun token =>
              (reportedUri profiles token).isNone) = true then
        .rejected .profilesChanged
      else if ((streams.map fun entry => entry.2.profileToken).filterMap fun token =>
          (reportedUri profiles token).map fun uri => (token, uri)).any
            (fun item => UrlText.hostname item.2 ≠ candidate.ip) = true then
        .rejected .endpointMismatch
      else
        .updates ((streams.map fun entry => entry.2.profileToken).filterMap fun token =>
          (reportedUri profiles token).map fun uri => (token, uri)) := by
    rw [proposeUpdates, if_pos isOnvif, proposeOnvif, inspected]
    rfl
  rw [unfolded, List.filterMap_map, ← enabled_nil, ← enabled_any]
  by_cases changed : (((streams.filter fun entry => entry.1.enabled).map fun entry =>
      entry.2.profileToken).isEmpty || ((streams.filter fun entry => entry.1.enabled).map
        fun entry => entry.2.profileToken).any fun token =>
          (reportedUri profiles token).isNone) = true
  · rw [if_pos changed]
    simp only [Bool.or_eq_true] at changed
    rcases changed with isEmpty | isAny
    · simp [isEmpty]
    · simp [isAny]
  · rw [if_neg changed]
    simp only [Bool.or_eq_true, not_or, Bool.not_eq_true] at changed
    rw [changed.1, changed.2]
    simp only [true_and]
    split
    · rename_i mismatch
      obtain ⟨item, member, differs⟩ := List.any_eq_true.mp mismatch
      simp only [reduceCtorEq, false_iff, not_and]
      rintro rfl same
      exact of_decide_eq_true differs (same item member)
    · rename_i matching
      constructor
      · intro done
        obtain rfl := Proposed.updates.inj done
        refine ⟨rfl, fun item member => ?_⟩
        by_contra differs
        exact matching (List.any_eq_true.mpr ⟨item, member, decide_eq_true differs⟩)
      · rintro ⟨rfl, _⟩
        rfl

/-! The validation. -/

theorem validatedUpdates_ok_iff {world : RecoveryWorld} {candidate : Device}
    {streams : List AdoptedStream} {username password : String}
    {updates : List (String × String)} :
    validatedUpdates world candidate streams username password = some (.ok updates) ↔
      proposeUpdates world candidate streams username password = .updates updates ∧
        ∀ item ∈ updates, (∃ entry ∈ streams, entry.1.enabled = true ∧
            entry.2.profileToken = item.1) →
          world.probe item.2 username password = some .ready := by
  have listed (token : String) :
      token ∈ ((streams.filter fun entry => entry.1.enabled).map fun entry =>
          entry.2.profileToken) ↔
        ∃ entry ∈ streams, entry.1.enabled = true ∧ entry.2.profileToken = token := by
    simp [and_assoc]
  have probes := probeUpdates_ok_iff world ((streams.filter fun entry =>
    entry.1.enabled).map fun entry => entry.2.profileToken) username password
  simp only [listed] at probes
  cases proposal : proposeUpdates world candidate streams username password with
  | raised => simp [validatedUpdates, proposal]
  | rejected status => simp [validatedUpdates, proposal]
  | updates proposed =>
      simp only [validatedUpdates, proposal, Proposed.updates.injEq]
      constructor
      · intro validated
        split at validated
        · cases validated
        · rename_i results probed
          obtain rfl := Except.ok.inj (Option.some.inj validated)
          exact ⟨rfl, (probes proposed).mp ⟨results, probed⟩⟩
      · rintro ⟨rfl, ready⟩
        obtain ⟨results, probed⟩ := (probes proposed).mpr ready
        rw [probed]

/-- The planning of a move takes over what the validation returns. -/
theorem planMove_validated {repository : Repository} {world : RecoveryWorld} {camera : CameraRow}
    {candidate : Device} {previous : String} {credentials : CredentialRow}
    {updates : List (String × String)}
    (known : rowAt CredentialRow.credentialUuid repository.credentials camera.credentialUuid =
      some credentials) :
    (∃ plan, planMove repository world camera candidate previous = some (.planned plan) ∧
        plan.updates = updates) ↔
      validatedUpdates world candidate (cameraStreams repository camera.cameraUuid)
        credentials.username credentials.password = some (.ok updates) := by
  simp only [planMove, known, validatedUpdates]
  cases proposeUpdates world candidate (cameraStreams repository camera.cameraUuid)
      credentials.username credentials.password with
  | raised => simp
  | rejected status => simp
  | updates proposed =>
      simp only
      cases probeUpdates world (((cameraStreams repository camera.cameraUuid).filter
          fun entry => entry.1.enabled).map fun entry => entry.2.profileToken)
          credentials.username credentials.password proposed with
      | error status => simp
      | ok results => simp

omit [UrlText] in
theorem lookup_reported {profiles : List (String × String)} {streams : List AdoptedStream}
    {entry : AdoptedStream} (member : entry ∈ streams) :
    (streams.filterMap fun entry => (reportedUri profiles entry.2.profileToken).map fun uri =>
        (entry.2.profileToken, uri)).lookup entry.2.profileToken =
      reportedUri profiles entry.2.profileToken := by
  induction streams with
  | nil => cases member
  | cons first rest ih =>
      by_cases same : entry.2.profileToken = first.2.profileToken
      · cases reported : reportedUri profiles first.2.profileToken with
        | some uri => simp [same, reported]
        | none =>
            rw [List.filterMap_cons_none (by simp [reported]), same, reported,
              List.lookup_eq_none_iff]
            intro item isItem
            obtain ⟨other, _, found⟩ := List.mem_filterMap.mp isItem
            obtain ⟨uri, isUri, rfl⟩ := Option.map_eq_some_iff.mp found
            rw [bne_iff_ne]
            intro sameToken
            simp only at sameToken
            rw [← sameToken, reported] at isUri
            cases isUri
      · have later : entry ∈ rest := by
          rcases List.mem_cons.mp member with rfl | later
          · exact absurd rfl same
          · exact later
        cases reported : reportedUri profiles first.2.profileToken with
        | some uri =>
            rw [List.filterMap_cons_some (by rw [reported]; rfl), List.lookup_cons,
              beq_eq_false_iff_ne.mpr same]
            exact ih later
        | none =>
            rw [List.filterMap_cons_none (by simp [reported])]
            exact ih later

theorem validation_ready_iff {world : RecoveryWorld} {candidate : Device}
    {streams : List AdoptedStream} {username password : String}
    {profiles : List (String × String)} (someStream : streams ≠ [])
    (onvif : ∀ entry ∈ streams, sourceKindOf entry.2 = "onvif")
    (inspected : world.inspect candidate username password = .ok profiles)
    (saved : ∀ entry ∈ streams, entry.1.enabled = true → entry.2.givenUri.isSome →
      Works world candidate username password profiles entry) :
    (∃ updates, validatedUpdates world candidate streams username password =
          some (.ok updates) ∧
        ∀ entry ∈ streams, entry.1.enabled = true → entry.2.givenUri.isSome →
          updates.lookup entry.2.profileToken = reportedUri profiles entry.2.profileToken) ↔
      OthersWork world candidate username password profiles streams := by
  simp only [validatedUpdates_ok_iff, proposeUpdates_onvif someStream onvif inspected]
  constructor
  · rintro ⟨updates, ⟨⟨someEnabled, reported, rfl, sameAddress⟩, ready⟩, _⟩
    have listed {entry : AdoptedStream} (member : entry ∈ streams) {uri : String}
        (isUri : reportedUri profiles entry.2.profileToken = some uri) :
        (entry.2.profileToken, uri) ∈ streams.filterMap fun entry =>
          (reportedUri profiles entry.2.profileToken).map fun uri =>
            (entry.2.profileToken, uri) :=
      List.mem_filterMap.mpr ⟨entry, member, by rw [isUri]; rfl⟩
    refine ⟨someEnabled, fun entry member uri isUri => sameAddress _ (listed member isUri), ?_⟩
    intro entry member enabled _
    obtain ⟨uri, isUri⟩ := Option.isSome_iff_exists.mp (reported entry member enabled)
    exact ⟨uri, isUri, sameAddress _ (listed member isUri),
      ready _ (listed member isUri) ⟨entry, member, enabled, rfl⟩⟩
  · rintro ⟨someEnabled, sameAddress, unsaved⟩
    have works : ∀ entry ∈ streams, entry.1.enabled = true →
        Works world candidate username password profiles entry := by
      intro entry member enabled
      cases given : entry.2.givenUri with
      | none => exact unsaved entry member enabled given
      | some uri => exact saved entry member enabled (by simp [given])
    refine ⟨_, ⟨⟨someEnabled, ?_, rfl, ?_⟩, ?_⟩, fun entry member _ _ => lookup_reported member⟩
    · intro entry member enabled
      obtain ⟨uri, isUri, _⟩ := works entry member enabled
      simp [isUri]
    · intro item isItem
      obtain ⟨entry, member, found⟩ := List.mem_filterMap.mp isItem
      obtain ⟨uri, isUri, rfl⟩ := Option.map_eq_some_iff.mp found
      exact sameAddress entry member uri isUri
    · rintro item isItem ⟨other, otherMember, enabled, sameToken⟩
      obtain ⟨entry, member, found⟩ := List.mem_filterMap.mp isItem
      obtain ⟨uri, isUri, rfl⟩ := Option.map_eq_some_iff.mp found
      obtain ⟨otherUri, isOther, _, ready⟩ := works other otherMember enabled
      simp only at sameToken
      rw [sameToken, isUri, Option.some.injEq] at isOther
      rwa [isOther]

end

/-! The front door, adopted while its sub profile had no URI, at its new address. -/

theorem subWithoutUri_streams :
    ∀ entry ∈ cameraStreams subWithoutUri.repository "a", sourceKindOf entry.2 = "onvif" := by
  decide +kernel

/-- The camera reports a working URI for both profiles. -/
theorem sub_reported_ready :
    let _ := plainUrls
    ∃ updates, validatedUpdates atNewAddress movedDevice
        (cameraStreams subWithoutUri.repository "a") "viewer" "secret" = some (.ok updates) ∧
      updates.lookup "main" = some "rtsp://10.0.0.9/main" := by
  intro _
  have inspected : atNewAddress.inspect movedDevice "viewer" "secret" =
      .ok [("main", "rtsp://10.0.0.9/main"), ("sub", "rtsp://10.0.0.9/sub")] := rfl
  have works : ∀ entry ∈ cameraStreams subWithoutUri.repository "a",
      Works atNewAddress movedDevice "viewer" "secret"
        [("main", "rtsp://10.0.0.9/main"), ("sub", "rtsp://10.0.0.9/sub")] entry := by
    intro entry member
    have uri : ∀ entry ∈ cameraStreams subWithoutUri.repository "a",
        (reportedUri [("main", "rtsp://10.0.0.9/main"), ("sub", "rtsp://10.0.0.9/sub")]
          entry.2.profileToken).map plainUrls.hostname = some "10.0.0.9" := by
      decide +kernel
    obtain ⟨found, isFound, same⟩ := Option.map_eq_some_iff.mp (uri entry member)
    exact ⟨found, isFound, same, rfl⟩
  have validated := validation_ready_iff (by decide +kernel) subWithoutUri_streams inspected
    fun entry member _ _ => works entry member
  obtain ⟨updates, done, reported⟩ := validated.mpr
    ⟨by decide +kernel, fun entry member uri isUri => by
      obtain ⟨found, isFound, same, _⟩ := works entry member
      rw [isUri, Option.some.injEq] at isFound
      rw [isFound, same], fun entry member _ _ => works entry member⟩
  refine ⟨updates, done, ?_⟩
  obtain ⟨entry, member, token, enabled, given⟩ :
      ∃ entry ∈ cameraStreams subWithoutUri.repository "a", entry.2.profileToken = "main" ∧
        entry.1.enabled = true ∧ entry.2.givenUri.isSome = true := by decide +kernel
  rw [← token, reported entry member enabled given, token]
  decide +kernel

/-- The camera reports only the profile that ever had a URI. -/
def mainReported : RecoveryWorld :=
  { atNewAddress with inspect := fun _ _ _ => .ok [("main", "rtsp://10.0.0.9/main")] }

theorem unsaved_profile_rejects :
    let _ := asciiCase
    let _ := plainUrls
    let streams := cameraStreams subWithoutUri.repository "a"
    StorageRun FreshCall {} subWithoutUri ∧
      mainReported.inspect movedDevice "viewer" "secret" =
        .ok [("main", "rtsp://10.0.0.9/main")] ∧
      (∀ entry ∈ streams, entry.1.enabled = true → entry.2.givenUri.isSome = true →
        Works mainReported movedDevice "viewer" "secret" [("main", "rtsp://10.0.0.9/main")]
          entry) ∧
      validatedUpdates mainReported movedDevice streams "viewer" "secret" =
        some (.error .profilesChanged) := by
  intro _ _ streams
  refine ⟨?_, rfl, ?_, by decide +kernel⟩
  · exact Reaches.start.step _ (freshCall_uuidSupply _ (by simp [usedUuids]) (Nat.zero_le 1)) rfl
  · intro entry member _ given
    have uri : ∀ entry ∈ cameraStreams subWithoutUri.repository "a",
        entry.2.givenUri.isSome = true →
        (reportedUri [("main", "rtsp://10.0.0.9/main")] entry.2.profileToken).map
          plainUrls.hostname = some "10.0.0.9" := by decide +kernel
    obtain ⟨found, isFound, same⟩ := Option.map_eq_some_iff.mp (uri entry member given)
    exact ⟨found, isFound, same, rfl⟩

end CamAdmiral
