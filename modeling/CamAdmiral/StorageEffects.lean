import CamAdmiral.StorageOperations

/-!
The effect of every other operation of the camera repository: which cameras it touches before
it records their health, and what it leaves of the streams and settings.
-/

namespace CamAdmiral

/-! Operations that leave the settings of the operator and the streams of the consumers. -/

/-- What a consumer or the operator sees of a stream. -/
def StreamRow.shown (stream : StreamRow) : String × String × Bool :=
  (stream.streamUuid, stream.streamKey, stream.enabled)

theorem SameStream.of_shown {before after : StreamRow} (same : after.shown = before.shown) :
    SameStream before after := by
  simp only [StreamRow.shown, Prod.mk.injEq] at same
  exact ⟨same.1, same.2.1, same.2.2⟩

def Repository.custom (repository : Repository) (cameraUuid : String) : Option Bool :=
  (repository.camera cameraUuid).map (·.streamSettingsCustom)

structure SameSettings (before after : Repository) : Prop where
  cameras : ∀ candidateUuid, cameraOf after candidateUuid = cameraOf before candidateUuid
  custom : ∀ cameraUuid, after.custom cameraUuid = before.custom cameraUuid
  streams : ∀ cameraUuid token, (streamAt after cameraUuid token).map StreamRow.shown =
    (streamAt before cameraUuid token).map StreamRow.shown
  bindings : after.bindings = before.bindings

theorem SameSettings.refl (repository : Repository) : SameSettings repository repository :=
  ⟨fun _ => rfl, fun _ => rfl, fun _ _ => rfl, rfl⟩

theorem SameSettings.trans {first second third : Repository} (one : SameSettings first second)
    (two : SameSettings second third) : SameSettings first third :=
  ⟨fun candidateUuid => (two.cameras candidateUuid).trans (one.cameras candidateUuid),
    fun cameraUuid => (two.custom cameraUuid).trans (one.custom cameraUuid),
    fun cameraUuid token => (two.streams cameraUuid token).trans (one.streams cameraUuid token),
    two.bindings.trans one.bindings⟩

theorem sameSettings_mapStreams (repository : Repository) (change : StreamRow → StreamRow)
    (sameProfile : ∀ stream, (change stream).profileUuid = stream.profileUuid)
    (sameShown : ∀ stream, (change stream).shown = stream.shown) :
    SameSettings repository { repository with streams := repository.streams.map change } := by
  refine ⟨fun _ => rfl, fun _ => rfl, ?_, rfl⟩
  intro cameraUuid token
  rw [streamAt_mapStreams repository change sameProfile]
  simp [Function.comp_def, sameShown]

theorem sameSettings_mapProfiles (repository : Repository) (change : ProfileRow → ProfileRow)
    (sameKey : ∀ profile, (change profile).key = profile.key)
    (sameUuid : ∀ profile, (change profile).profileUuid = profile.profileUuid) :
    SameSettings repository { repository with profiles := repository.profiles.map change } := by
  refine ⟨fun _ => rfl, fun _ => rfl, ?_, rfl⟩
  intro cameraUuid token
  rw [streamAt_mapProfiles repository change sameKey sameUuid]

theorem sameSettings_mapCameras (repository : Repository) (change : CameraRow → CameraRow)
    (sameIds : ∀ camera, (change camera).cameraUuid = camera.cameraUuid ∧
      (change camera).candidateUuid = camera.candidateUuid)
    (sameCustom : ∀ camera,
      (change camera).streamSettingsCustom = camera.streamSettingsCustom) :
    SameSettings repository { repository with cameras := repository.cameras.map change } := by
  refine ⟨?_, ?_, fun _ _ => rfl, rfl⟩
  · intro candidateUuid
    simp only [cameraOf, rowAt_map _ change fun camera => (sameIds camera).2, Option.map_map]
    congr 1
    funext camera
    exact (sameIds camera).1
  · intro cameraUuid
    simp only [Repository.custom, Repository.camera,
      rowAt_map _ change fun camera => (sameIds camera).1, Option.map_map]
    congr 1
    funext camera
    exact sameCustom camera

theorem sameSettings_transition (repository : Repository) (cameraUuid : String)
    (timestamp : Nat) (fresh : String) :
    SameSettings repository
      (recordCameraHealthTransition repository cameraUuid timestamp fresh) := by
  obtain ⟨events, incidents, tables⟩ :=
    transition_tables repository cameraUuid timestamp fresh
  rw [tables]
  exact ⟨fun _ => rfl, fun _ => rfl, fun _ _ => rfl, rfl⟩

theorem sameSettings_transitions (timestamp : Nat) (uuids : Nat → String)
    (affected : List String) (position : Nat) (repository : Repository) :
    SameSettings repository
      (recordTransitions repository timestamp uuids affected position) := by
  induction affected generalizing repository position with
  | nil => exact SameSettings.refl repository
  | cons cameraUuid rest ih =>
      exact (sameSettings_transition repository cameraUuid timestamp (uuids position)).trans
        (ih (position + 1) _)

theorem transition_streams (repository : Repository) (cameraUuid : String) (timestamp : Nat)
    (fresh : String) :
    (recordCameraHealthTransition repository cameraUuid timestamp fresh).streams =
      repository.streams := by
  obtain ⟨events, incidents, tables⟩ := transition_tables repository cameraUuid timestamp fresh
  rw [tables]

theorem transitions_streams (repository : Repository) (timestamp : Nat) (uuids : Nat → String)
    (affected : List String) (position : Nat) :
    (recordTransitions repository timestamp uuids affected position).streams =
      repository.streams := by
  induction affected generalizing repository position with
  | nil => rfl
  | cons cameraUuid rest ih => rw [recordTransitions, ih, transition_streams]

/-! What an operation does before it records the health of the cameras it affects. -/

structure Touches (before after : Repository) (affected : List String) : Prop where
  schema : Schema after
  others : ∀ other, other ∉ affected → SameCamera before after other
  events : after.healthEvents = before.healthEvents
  incidents : after.incidents = before.incidents

theorem Touches.refl {repository : Repository} (schema : Schema repository)
    (affected : List String) : Touches repository repository affected :=
  ⟨schema, fun other _ => SameCamera.refl repository other, rfl, rfl⟩

theorem Touches.trans {first second third : Repository} {affected : List String}
    (one : Touches first second affected) (two : Touches second third affected) :
    Touches first third affected :=
  ⟨two.schema, fun other outside => (one.others other outside).trans (two.others other outside),
    two.events.trans one.events, two.incidents.trans one.incidents⟩

theorem Touches.mono {before after : Repository} {affected wider : List String}
    (touches : Touches before after affected) (widens : affected ⊆ wider) :
    Touches before after wider :=
  { touches with others := fun other outside =>
      touches.others other fun member => outside (widens member) }

theorem touches_mapStreams {repository : Repository} (schema : Schema repository)
    {change : StreamRow → StreamRow} {affected : List String}
    (sameIds : ∀ stream, (change stream).streamUuid = stream.streamUuid ∧
      (change stream).profileUuid = stream.profileUuid ∧
      (change stream).cameraUuid = stream.cameraUuid ∧
      (change stream).streamKey = stream.streamKey)
    (untouched : ∀ stream ∈ repository.streams, stream.cameraUuid ∉ affected →
      change stream = stream) :
    Touches repository { repository with streams := repository.streams.map change }
      affected := by
  refine ⟨schema.mapStreams change sameIds, ?_, rfl, rfl⟩
  intro other outside
  apply sameCamera_mapStreams fun stream => (sameIds stream).2.2.1
  intro stream member owned
  exact untouched stream member (owned ▸ outside)

theorem touches_mapCameras {repository : Repository} (schema : Schema repository)
    {change : CameraRow → CameraRow} {affected : List String}
    (sameIds : ∀ camera, (change camera).cameraUuid = camera.cameraUuid ∧
      (change camera).candidateUuid = camera.candidateUuid)
    (untouched : ∀ camera ∈ repository.cameras, camera.cameraUuid ∉ affected →
      change camera = camera) :
    Touches repository { repository with cameras := repository.cameras.map change }
      affected := by
  refine ⟨schema.mapCameras change sameIds, ?_, rfl, rfl⟩
  intro other outside
  apply sameCamera_mapCameras fun camera => (sameIds camera).1
  intro camera member owned
  exact untouched camera member (owned ▸ outside)

theorem touches_bindRole {repository : Repository} (schema : Schema repository)
    {cameraUuid streamUuid : String} (role : Role)
    (owned : ∃ stream ∈ repository.streams, stream.streamUuid = streamUuid ∧
      stream.cameraUuid = cameraUuid) :
    Touches repository (bindRole repository cameraUuid role streamUuid) [cameraUuid] := by
  refine ⟨schema.bindRole owned, ?_, rfl, rfl⟩
  intro other outside
  exact sameCamera_bindRole fun same => outside (by simp [same])

theorem pending_shown (stream : StreamRow) : stream.pending.shown = stream.shown := rfl

/-- The two row updates of `saveSources`. -/
def sourcedProfile (cameraUuid : String) (sources : List (String × String × SourceParts))
    (row : ProfileRow) : ProfileRow :=
  match sources.lookup row.profileToken with
  | some (uri, source) =>
      if row.cameraUuid = cameraUuid then { row with uri := some uri, source := source } else row
  | none => row

def sourcedStream (cameraUuid : String) (sources : List (String × String × SourceParts))
    (profiles : List ProfileRow) (row : StreamRow) : StreamRow :=
  if row.cameraUuid = cameraUuid && profiles.any fun profile =>
      profile.profileUuid = row.profileUuid && profile.cameraUuid = cameraUuid &&
        (sources.lookup profile.profileToken).isSome then
    row.pending
  else
    row

theorem saveSources_eq (repository : Repository) (cameraUuid : String)
    (sources : List (String × String × SourceParts)) :
    saveSources repository cameraUuid sources =
      { repository with
        profiles := repository.profiles.map (sourcedProfile cameraUuid sources)
        streams := repository.streams.map (sourcedStream cameraUuid sources
          (repository.profiles.map (sourcedProfile cameraUuid sources))) } := rfl

theorem sourcedProfile_same (cameraUuid : String)
    (sources : List (String × String × SourceParts)) (row : ProfileRow) :
    (sourcedProfile cameraUuid sources row).key = row.key ∧
      (sourcedProfile cameraUuid sources row).profileUuid = row.profileUuid := by
  simp only [sourcedProfile]
  split
  · split <;> exact ⟨rfl, rfl⟩
  · exact ⟨rfl, rfl⟩

theorem sourcedStream_same (cameraUuid : String)
    (sources : List (String × String × SourceParts)) (profiles : List ProfileRow)
    (row : StreamRow) :
    sourcedStream cameraUuid sources profiles row = row ∨
      (row.cameraUuid = cameraUuid ∧
        sourcedStream cameraUuid sources profiles row = row.pending) := by
  simp only [sourcedStream]
  split
  · rename_i sourced
    simp only [Bool.and_eq_true, decide_eq_true_eq] at sourced
    exact .inr ⟨sourced.1, rfl⟩
  · exact .inl rfl

theorem saveSources_touches {repository : Repository} (schema : Schema repository)
    (cameraUuid : String) (sources : List (String × String × SourceParts)) :
    Touches repository (saveSources repository cameraUuid sources) [cameraUuid] ∧
      SameSettings repository (saveSources repository cameraUuid sources) := by
  have profileSame := sourcedProfile_same cameraUuid sources
  have profiled := schema.mapProfiles (sourcedProfile cameraUuid sources)
    (fun row => (profileSame row).1) fun row => (profileSame row).2
  have profileTouches : Touches repository { repository with
      profiles := repository.profiles.map (sourcedProfile cameraUuid sources) } [cameraUuid] :=
    ⟨profiled, fun _ _ => ⟨rfl, rfl, rfl, rfl, rfl⟩, rfl, rfl⟩
  have profileSettings := sameSettings_mapProfiles repository (sourcedProfile cameraUuid sources)
    (fun row => (profileSame row).1) fun row => (profileSame row).2
  have streamSame := sourcedStream_same cameraUuid sources
    (repository.profiles.map (sourcedProfile cameraUuid sources))
  rw [saveSources_eq]
  constructor
  · refine profileTouches.trans (touches_mapStreams profiled ?_ ?_)
    · intro row
      rcases streamSame row with same | ⟨_, same⟩ <;> simp [same, StreamRow.pending]
    · intro row _ outside
      rcases streamSame row with same | ⟨owned, _⟩
      · exact same
      · exact absurd (by simp [owned]) outside
  · refine profileSettings.trans (sameSettings_mapStreams _ _ ?_ ?_)
    · intro row
      rcases streamSame row with same | ⟨_, same⟩ <;> simp [same, StreamRow.pending]
    · intro row
      rcases streamSame row with same | ⟨_, same⟩ <;> simp [same, pending_shown]

theorem probedStream_shown (status : ProbeStatus) (stream : StreamRow) :
    (probedStream status stream).shown = stream.shown := rfl

theorem storeProbeResults_touches (results : List (String × ProbeStatus))
    {repository : Repository} (schema : Schema repository) (affected : List String) :
    affected ⊆ (storeProbeResults repository affected results).2 ∧
      Touches repository (storeProbeResults repository affected results).1
        (storeProbeResults repository affected results).2 ∧
      SameSettings repository (storeProbeResults repository affected results).1 := by
  induction results generalizing repository affected with
  | nil =>
      exact ⟨List.Subset.refl _, Touches.refl schema affected, SameSettings.refl repository⟩
  | cons result rest ih =>
      obtain ⟨streamUuid, status⟩ := result
      simp only [storeProbeResults]
      split
      · exact ih schema affected
      · rename_i stream found
        obtain ⟨member, same⟩ := rowAt_some found
        let probed : StreamRow → StreamRow := fun row =>
          if row.streamUuid = streamUuid then probedStream status row else row
        have sameShown (row : StreamRow) : (probed row).shown = row.shown := by
          simp only [probed]
          split
          · exact probedStream_shown status row
          · rfl
        have sameIds (row : StreamRow) : (probed row).streamUuid = row.streamUuid ∧
            (probed row).profileUuid = row.profileUuid ∧
            (probed row).cameraUuid = row.cameraUuid ∧
            (probed row).streamKey = row.streamKey := by
          simp only [probed]
          split <;> exact ⟨rfl, rfl, rfl, rfl⟩
        generalize seen : (if stream.cameraUuid ∈ affected then affected
          else affected ++ [stream.cameraUuid]) = widened
        have widens : affected ⊆ widened ∧ stream.cameraUuid ∈ widened := by
          rw [← seen]
          split
          · exact ⟨List.Subset.refl _, ‹_›⟩
          · exact ⟨List.subset_append_left _ _, by simp⟩
        have one : Touches repository
            { repository with streams := repository.streams.map probed } widened := by
          apply touches_mapStreams schema sameIds
          intro row isRow outside
          simp only [probed]
          split
          · rename_i sameUuid
            have isStream := schema.streamIds.eq isRow member (sameUuid.trans same.symm)
            exact absurd (isStream ▸ widens.2) outside
          · rfl
        obtain ⟨covers, later, sameLater⟩ := ih (one.schema) widened
        refine ⟨List.Subset.trans widens.1 covers, (one.mono covers).trans later, ?_⟩
        exact (sameSettings_mapStreams repository probed (fun row => (sameIds row).2.1)
          sameShown).trans sameLater

/-! The operations. -/

theorem setCameraEnabled_effect {repository : Repository} (schema : Schema repository)
    (cameraUuid : String) (enabled : Bool) (timestamp : Nat) (fresh : String) :
    (setCameraEnabled repository cameraUuid enabled timestamp fresh).1 = repository ∨
    ∃ changed, Touches repository changed [cameraUuid] ∧ SameSettings repository changed ∧
      (setCameraEnabled repository cameraUuid enabled timestamp fresh).1 =
        recordCameraHealthTransition changed cameraUuid timestamp fresh := by
  simp only [setCameraEnabled]
  split
  · exact .inl rfl
  · refine .inr ⟨_, touches_mapCameras schema ?_ ?_, sameSettings_mapCameras _ _ ?_ ?_, rfl⟩
    · intro row
      split <;> exact ⟨rfl, rfl⟩
    · intro row _ outside
      have foreign : row.cameraUuid ≠ cameraUuid := by simpa using outside
      simp [foreign]
    · intro row
      split <;> exact ⟨rfl, rfl⟩
    · intro row
      split <;> rfl

theorem replaceCameraCredentials_effect {repository : Repository} (schema : Schema repository)
    (cameraUuid username password : String) (timestamp : Nat) (fresh : String) :
    (replaceCameraCredentials repository cameraUuid username password timestamp fresh).1 =
      repository ∨
    ∃ changed, Touches repository changed [cameraUuid] ∧ SameSettings repository changed ∧
      (replaceCameraCredentials repository cameraUuid username password timestamp fresh).1 =
        recordCameraHealthTransition changed cameraUuid timestamp fresh := by
  simp only [replaceCameraCredentials]
  split
  · exact .inl rfl
  · rename_i camera _
    let credentialed : Repository := { repository with
      credentials := repository.credentials.map fun row =>
        if row.credentialUuid = camera.credentialUuid then
          ⟨camera.credentialUuid, username, password⟩
        else
          row }
    have credentialSchema : Schema credentialed :=
      schema_sameTables schema rfl rfl rfl rfl rfl rfl
    have credentialTouches : Touches repository credentialed [cameraUuid] :=
      ⟨credentialSchema, fun _ _ => ⟨rfl, rfl, rfl, rfl, rfl⟩, rfl, rfl⟩
    have credentialSettings : SameSettings repository credentialed :=
      ⟨fun _ => rfl, fun _ => rfl, fun _ _ => rfl, rfl⟩
    refine .inr ⟨_, credentialTouches.trans (touches_mapStreams credentialSchema ?_ ?_),
      credentialSettings.trans (sameSettings_mapStreams credentialed _ ?_ ?_), rfl⟩
    · intro row
      split <;> exact ⟨rfl, rfl, rfl, rfl⟩
    · intro row _ outside
      have foreign : row.cameraUuid ≠ cameraUuid := by simpa using outside
      simp [foreign]
    · intro row
      split <;> rfl
    · intro row
      split <;> rfl

theorem updateProfileSources_effect [TextCase] [UrlText] {repository result : Repository}
    (schema : Schema repository) {cameraUuid : String} {sources : List (String × String)}
    {timestamp : Nat} {fresh : String}
    (done : updateProfileSources repository cameraUuid sources timestamp fresh = .ok result) :
    result = repository ∨
    ∃ changed, Touches repository changed [cameraUuid] ∧ SameSettings repository changed ∧
      result = recordCameraHealthTransition changed cameraUuid timestamp fresh := by
  simp only [updateProfileSources] at done
  split at done
  · exact .inl (Except.ok.inj done).symm
  split at done
  · cases done
  split at done
  · cases done
  · rename_i parsed _
    obtain ⟨touches, same⟩ := saveSources_touches schema cameraUuid parsed
    exact .inr ⟨_, touches, same, (Except.ok.inj done).symm⟩

/-! The operator's stream settings. -/

/-- A choice of a stream for each role. -/
def roleStreams (record detect : String) : Role → String
  | .record => record
  | .detect => detect

/-- What a successful choice of the enabled streams and the roles has written. -/
structure Chosen (before after : Repository) (cameraUuid : String) (enabled : List String)
    (chosen : Role → String) : Prop where
  touches : Touches before after [cameraUuid]
  cameras : ∀ candidateUuid, cameraOf after candidateUuid = cameraOf before candidateUuid
  custom : ∀ owner, after.custom owner =
    if owner = cameraUuid then some true else before.custom owner
  streams : ∀ owner token, streamAt after owner token =
    (streamAt before owner token).map fun row =>
      if row.cameraUuid = cameraUuid then
        { row with enabled := decide (row.streamUuid ∈ enabled) }
      else
        row
  bindings : ∀ owner role, bindingAt after owner role =
    if owner = cameraUuid then some (chosen role) else bindingAt before owner role
  selected : ∀ role, chosen role ∈ enabled ∧ ∃ token stream,
    streamAt before cameraUuid token = some stream ∧ stream.streamUuid = chosen role

theorem saveStreams_touches {repository : Repository} (schema : Schema repository)
    (cameraUuid : String) (enabled : List String) :
    Touches repository (saveStreams repository cameraUuid enabled) [cameraUuid] := by
  have streamed : Touches repository { repository with
      streams := repository.streams.map fun row =>
        if row.cameraUuid = cameraUuid then
          { row with enabled := decide (row.streamUuid ∈ enabled) }
        else
          row } [cameraUuid] := by
    apply touches_mapStreams schema
    · intro row
      split <;> exact ⟨rfl, rfl, rfl, rfl⟩
    · intro row _ outside
      have foreign : row.cameraUuid ≠ cameraUuid := by simpa using outside
      simp [foreign]
  refine streamed.trans (touches_mapCameras streamed.schema ?_ ?_)
  · intro row
    split <;> exact ⟨rfl, rfl⟩
  · intro row _ outside
    have foreign : row.cameraUuid ≠ cameraUuid := by simpa using outside
    simp [foreign]

theorem saveStreams_custom {repository : Repository} {cameraUuid : String}
    (listed : ∃ camera ∈ repository.cameras, camera.cameraUuid = cameraUuid)
    (enabled : List String) (owner : String) :
    (saveStreams repository cameraUuid enabled).custom owner =
      if owner = cameraUuid then some true else repository.custom owner := by
  simp only [Repository.custom, Repository.camera, saveStreams]
  rw [rowAt_map _ _ fun row => by split <;> rfl]
  cases found : rowAt CameraRow.cameraUuid repository.cameras owner with
  | none =>
      have differs : owner ≠ cameraUuid := by
        obtain ⟨camera, member, same⟩ := listed
        rintro rfl
        exact rowAt_none.mp found camera member same
      simp [differs]
  | some camera =>
      have same := (rowAt_some found).2
      by_cases isOwner : owner = cameraUuid <;> simp [same, isOwner]

theorem bindRole_bindingAt (repository : Repository) (cameraUuid streamUuid owner : String)
    (role wanted : Role) :
    bindingAt (bindRole repository cameraUuid role streamUuid) owner wanted =
      if (cameraUuid, role) = (owner, wanted) then some streamUuid
      else bindingAt repository owner wanted :=
  bindRole_at repository cameraUuid streamUuid role (owner, wanted)

theorem setStreamSettings_effect {repository result : Repository} (schema : Schema repository)
    {cameraUuid : String} {enabled : List String} {roles : Role → Option String}
    {timestamp : Nat} {fresh : String}
    (done : setStreamSettings repository cameraUuid enabled roles timestamp fresh =
      .ok result) :
    ∃ changed chosen, (∀ role, roles role = some (chosen role)) ∧
      Chosen repository changed cameraUuid enabled chosen ∧
      result = recordCameraHealthTransition changed cameraUuid timestamp fresh := by
  simp only [setStreamSettings] at done
  split at done
  · cases done
  split at done
  · cases done
  rename_i valid
  simp only [Bool.not_eq_true', Bool.not_eq_false, Bool.and_eq_true, decide_eq_true_eq,
    List.all_eq_true] at valid
  split at done
  swap
  · cases done
  rename_i record detect isRecord isDetect
  split at done
  swap
  · cases done
  rename_i inside
  simp only [Bool.and_eq_true, decide_eq_true_eq] at inside
  have owned {streamUuid : String} (member : streamUuid ∈ enabled) :
      ∃ stream ∈ repository.streams, stream.streamUuid = streamUuid ∧
        stream.cameraUuid = cameraUuid := by
    obtain ⟨stream, isStream, same⟩ := List.mem_map.mp (valid.2 streamUuid member)
    obtain ⟨listed, owner⟩ := List.mem_filter.mp isStream
    exact ⟨stream, listed, same, of_decide_eq_true owner⟩
  have saved := saveStreams_touches schema cameraUuid enabled
  have savedOwned {streamUuid : String} (member : streamUuid ∈ enabled) :
      ∃ stream ∈ (saveStreams repository cameraUuid enabled).streams,
        stream.streamUuid = streamUuid ∧ stream.cameraUuid = cameraUuid := by
    obtain ⟨stream, isStream, sameUuid, owner⟩ := owned member
    refine ⟨_, List.mem_map_of_mem isStream, ?_⟩
    rw [if_pos owner]
    exact ⟨sameUuid, owner⟩
  have recorded := saved.trans (touches_bindRole saved.schema .record (savedOwned inside.1))
  have detected := recorded.trans (touches_bindRole recorded.schema .detect
    (savedOwned inside.2))
  have listed : ∃ camera ∈ repository.cameras, camera.cameraUuid = cameraUuid := by
    obtain ⟨stream, isStream, _, owner⟩ := owned inside.1
    obtain ⟨profile, isProfile, _, sameCamera⟩ := schema.streamProfile stream isStream
    obtain ⟨camera, isCamera, same⟩ := schema.profileCamera profile isProfile
    exact ⟨camera, isCamera, by rw [same, sameCamera, owner]⟩
  refine ⟨_, roleStreams record detect, ?_,
    ⟨detected, ?_, ?_, ?_, ?_, ?_⟩, (Except.ok.inj done).symm⟩
  · intro role
    cases role
    · exact isRecord
    · exact isDetect
  · intro candidateUuid
    show cameraOf (saveStreams repository cameraUuid enabled) candidateUuid = _
    simp only [cameraOf, saveStreams]
    rw [rowAt_map _ _ fun row => by split <;> rfl, Option.map_map]
    congr 1
    funext row
    simp only [Function.comp_apply]
    split <;> rfl
  · exact saveStreams_custom listed enabled
  · intro owner token
    exact streamAt_mapStreams repository _ (fun row => by split <;> rfl) owner token
  · intro owner role
    rw [bindRole_bindingAt, bindRole_bindingAt]
    by_cases isOwner : owner = cameraUuid
    · subst isOwner
      cases role <;> simp [roleStreams]
    · simp only [Prod.mk.injEq, Ne.symm isOwner, false_and, if_false, isOwner]
      rfl
  · have found {streamUuid : String} (member : streamUuid ∈ enabled) : ∃ token stream,
        streamAt repository cameraUuid token = some stream ∧ stream.streamUuid = streamUuid := by
      obtain ⟨stream, isStream, same, owner⟩ := owned member
      obtain ⟨token, atToken⟩ := schema.streamAt_of_mem isStream
      exact ⟨token, stream, owner ▸ atToken, same⟩
    intro role
    cases role
    · exact ⟨inside.1, found inside.1⟩
    · exact ⟨inside.2, found inside.2⟩

/-! Deletion of a camera. -/

/-- Every row of the camera is gone. -/
structure Removed (before after : Repository) (cameraUuid : String) : Prop where
  schema : Schema after
  others : ∀ other, other ≠ cameraUuid → SameCamera before after other
  camera : after.camera cameraUuid = none
  bindings : ∀ owner role, bindingAt after owner role =
    if owner = cameraUuid then none else bindingAt before owner role
  streams : ∀ owner token, streamAt after owner token =
    if owner = cameraUuid then none else streamAt before owner token
  cameras : ∀ candidateUuid, cameraOf after candidateUuid =
    (cameraOf before candidateUuid).filter (· ≠ cameraUuid)

theorem filter_deleted {α : Type} {column : α → String} (rows : List α)
    {cameraUuid other : String} (differs : other ≠ cameraUuid) :
    (rows.filter fun row => column row ≠ cameraUuid).filter
        (fun row => column row = other) = rows.filter fun row => column row = other := by
  apply filter_filter_others
  intro row _ owned
  simpa [owned] using differs

theorem deleteCamera_profile {repository : Repository} (schema : Schema repository)
    {cameraUuid : String} {stream : StreamRow} (member : stream ∈ repository.streams)
    (differs : stream.cameraUuid ≠ cameraUuid) :
    ∃ profile ∈ (deleteCamera repository cameraUuid).profiles,
      profile.profileUuid = stream.profileUuid ∧
        profile.cameraUuid = stream.cameraUuid := by
  obtain ⟨profile, isProfile, sameUuid, sameCamera⟩ := schema.streamProfile stream member
  have stays : decide (profile.cameraUuid ≠ cameraUuid) = true := by
    simpa [sameCamera] using differs
  exact ⟨profile, List.mem_filter.mpr ⟨isProfile, stays⟩, sameUuid, sameCamera⟩

/-- The cascade from the profiles takes no stream of another camera along. -/
theorem mem_deleteCamera_streams {repository : Repository} (schema : Schema repository)
    {cameraUuid : String} {stream : StreamRow} :
    stream ∈ (deleteCamera repository cameraUuid).streams ↔
      stream ∈ repository.streams ∧ stream.cameraUuid ≠ cameraUuid := by
  constructor
  · intro member
    obtain ⟨listed, differs⟩ := List.mem_filter.mp (List.mem_filter.mp member).1
    exact ⟨listed, of_decide_eq_true differs⟩
  · rintro ⟨listed, differs⟩
    obtain ⟨profile, isProfile, sameUuid, _⟩ := deleteCamera_profile schema listed differs
    refine List.mem_filter.mpr ⟨List.mem_filter.mpr ⟨listed, by simpa using differs⟩, ?_⟩
    rw [← sameUuid]
    exact Option.isSome_iff_exists.mpr (rowAt_isSome isProfile)

theorem Schema.deleteCamera {repository : Repository} (schema : Schema repository)
    (cameraUuid : String) : Schema (deleteCamera repository cameraUuid) := by
  have keptCamera {owner : String} (differs : owner ≠ cameraUuid)
      (listed : ∃ camera ∈ repository.cameras, camera.cameraUuid = owner) :
      ∃ camera ∈ (CamAdmiral.deleteCamera repository cameraUuid).cameras,
        camera.cameraUuid = owner := by
    obtain ⟨camera, isCamera, same⟩ := listed
    exact ⟨camera, List.mem_filter.mpr ⟨isCamera, by simpa [same] using differs⟩, same⟩
  exact
    { cameraIds := schema.cameraIds.filter _
      candidateIds := schema.candidateIds.filter _
      profileKeys := schema.profileKeys.filter _
      profileIds := schema.profileIds.filter _
      streamIds := (schema.streamIds.filter _).filter _
      streamProfiles := (schema.streamProfiles.filter _).filter _
      bindingKeys := schema.bindingKeys.filter _
      incidentIds := schema.incidentIds.filter _
      profileCamera := by
        intro profile member
        obtain ⟨listed, differs⟩ := List.mem_filter.mp member
        exact keptCamera (of_decide_eq_true differs) (schema.profileCamera profile listed)
      streamProfile := by
        intro stream member
        obtain ⟨listed, differs⟩ := (mem_deleteCamera_streams schema).mp member
        exact deleteCamera_profile schema listed differs
      streamKey := fun stream member =>
        schema.streamKey stream ((mem_deleteCamera_streams schema).mp member).1
      bindingStream := by
        intro binding member
        obtain ⟨listed, differs⟩ := List.mem_filter.mp member
        obtain ⟨stream, isStream, sameUuid, sameCamera⟩ := schema.bindingStream binding listed
        exact ⟨stream, (mem_deleteCamera_streams schema).mpr
          ⟨isStream, sameCamera ▸ of_decide_eq_true differs⟩, sameUuid, sameCamera⟩
      eventCamera := by
        intro event member
        obtain ⟨listed, differs⟩ := List.mem_filter.mp member
        exact keptCamera (of_decide_eq_true differs) (schema.eventCamera event listed)
      incidentCamera := by
        intro incident member
        obtain ⟨listed, differs⟩ := List.mem_filter.mp member
        exact keptCamera (of_decide_eq_true differs) (schema.incidentCamera incident listed) }

theorem sameCamera_deleteCamera {repository : Repository} (schema : Schema repository)
    {cameraUuid other : String} (differs : other ≠ cameraUuid) :
    SameCamera repository (deleteCamera repository cameraUuid) other := by
  refine ⟨?_, ?_, filter_deleted _ differs, filter_deleted _ differs, filter_deleted _ differs⟩
  · show rowAt CameraRow.cameraUuid (repository.cameras.filter _) other = _
    rw [schema.cameraIds.rowAt_filter, Repository.camera]
    cases found : rowAt CameraRow.cameraUuid repository.cameras other with
    | none => rfl
    | some camera => simp [(rowAt_some found).2, differs]
  · rw [← filter_deleted repository.streams differs]
    show ((repository.streams.filter _).filter _).filter _ = _
    apply filter_filter_others
    intro stream member owned
    obtain ⟨profile, isProfile, sameUuid, _⟩ :=
      deleteCamera_profile schema (List.mem_filter.mp member).1 (owned ▸ differs)
    rw [← sameUuid]
    exact Option.isSome_iff_exists.mpr (rowAt_isSome isProfile)

theorem bindingAt_deleteCamera {repository : Repository} (schema : Schema repository)
    (cameraUuid owner : String) (role : Role) :
    bindingAt (deleteCamera repository cameraUuid) owner role =
      if owner = cameraUuid then none else bindingAt repository owner role := by
  show Option.map _ (rowAt BindingRow.key (repository.bindings.filter _) (owner, role)) = _
  rw [schema.bindingKeys.rowAt_filter, bindingAt]
  cases found : rowAt BindingRow.key repository.bindings (owner, role) with
  | none => simp
  | some binding =>
      have isOwner : binding.cameraUuid = owner := congrArg Prod.fst (rowAt_some found).2
      by_cases same : owner = cameraUuid <;> simp [isOwner, same]

theorem streamAt_deleteCamera {repository : Repository} (schema : Schema repository)
    (cameraUuid owner token : String) :
    streamAt (deleteCamera repository cameraUuid) owner token =
      if owner = cameraUuid then none else streamAt repository owner token := by
  show (rowAt ProfileRow.key (repository.profiles.filter _) (owner, token)).bind _ = _
  rw [schema.profileKeys.rowAt_filter]
  cases found : rowAt ProfileRow.key repository.profiles (owner, token) with
  | none => simp [streamAt, found]
  | some profile =>
      have isOwner : profile.cameraUuid = owner := congrArg Prod.fst (rowAt_some found).2
      by_cases same : owner = cameraUuid
      · simp [isOwner, same]
      · rw [Option.filter_some_pos (by simpa [isOwner] using same), if_neg same,
          Option.bind_some, streamAt, found, Option.bind_some]
        cases atProfile : rowAt StreamRow.profileUuid repository.streams profile.profileUuid with
        | none =>
            apply rowAt_none.mpr
            intro stream member
            exact rowAt_none.mp atProfile stream ((mem_deleteCamera_streams schema).mp member).1
        | some stream =>
            have isStream : streamAt repository owner token = some stream := by
              rw [streamAt, found, Option.bind_some, atProfile]
            have differs : stream.cameraUuid ≠ cameraUuid :=
              (schema.streamAt_camera isStream).trans_ne same
            obtain ⟨member, sameProfile⟩ := rowAt_some atProfile
            rw [← sameProfile]
            exact (schema.deleteCamera cameraUuid).streamProfiles.rowAt_eq
              ((mem_deleteCamera_streams schema).mpr ⟨member, differs⟩)

theorem deleteCamera_removed {repository : Repository} (schema : Schema repository)
    (cameraUuid : String) :
    Removed repository (deleteCamera repository cameraUuid) cameraUuid := by
  refine ⟨schema.deleteCamera cameraUuid, fun other differs =>
    sameCamera_deleteCamera schema differs, ?_, bindingAt_deleteCamera schema cameraUuid,
    streamAt_deleteCamera schema cameraUuid, ?_⟩
  · apply rowAt_none.mpr
    intro camera member
    exact of_decide_eq_true (List.mem_filter.mp member).2
  · intro candidateUuid
    show Option.map _ (rowAt CameraRow.candidateUuid (repository.cameras.filter _)
      candidateUuid) = _
    rw [schema.candidateIds.rowAt_filter, cameraOf]
    cases rowAt CameraRow.candidateUuid repository.cameras candidateUuid with
    | none => rfl
    | some camera =>
        by_cases same : camera.cameraUuid = cameraUuid <;> simp [Option.filter, same]

theorem Removed.credentials {before after : Repository} {cameraUuid : String}
    (removed : Removed before after cameraUuid) (credentials : List CredentialRow) :
    Removed before { after with credentials := credentials } cameraUuid :=
  { removed with
    schema := schema_sameTables removed.schema rfl rfl rfl rfl rfl rfl
    others := fun other differs =>
      (removed.others other differs).trans ⟨rfl, rfl, rfl, rfl, rfl⟩ }

theorem unadoptCamera_effect {repository result : Repository} {existed : Bool}
    (schema : Schema repository) {cameraUuid : String}
    (done : unadoptCamera repository cameraUuid = .ok (result, existed)) :
    result = repository ∨ Removed repository result cameraUuid := by
  simp only [unadoptCamera, pure, Except.pure, throw, throwThe, MonadExceptOf.throw] at done
  split at done
  · exact .inl (congrArg Prod.fst (Except.ok.inj done)).symm
  split at done
  · cases done
  split at done
  · cases done
  · obtain rfl := congrArg Prod.fst (Except.ok.inj done)
    exact .inr ((deleteCamera_removed schema cameraUuid).credentials _)

end CamAdmiral
