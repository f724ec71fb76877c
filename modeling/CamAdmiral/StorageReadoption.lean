import CamAdmiral.StorageSettings

/-!
Adopting a camera again while Frigate bindings refer to its streams. The bindings are rows of
a table that adoption never writes and that outlives the Frigate target, so the profiles a
re-adoption may delete depend on the whole history of the repository.
-/

namespace CamAdmiral

/-- The streams that Frigate bindings refer to exist. -/
def FrigateKeysHold (repository : Repository) : Prop :=
  ∀ row ∈ repository.frigateStreams, (repository.stream row.recordStreamUuid).isSome ∧
    (repository.stream row.detectStreamUuid).isSome

/-- No Frigate binding changes and no stream disappears. -/
structure KeepsStreams (before after : Repository) : Prop where
  frigateStreams : after.frigateStreams = before.frigateStreams
  stream : ∀ streamUuid, (before.stream streamUuid).isSome → (after.stream streamUuid).isSome

theorem KeepsStreams.of_tables {before after : Repository}
    (frigateStreams : after.frigateStreams = before.frigateStreams)
    (streams : after.streams = before.streams) : KeepsStreams before after :=
  ⟨frigateStreams, fun streamUuid exists_ => by rwa [Repository.stream, streams]⟩

theorem KeepsStreams.trans {first second third : Repository} (one : KeepsStreams first second)
    (two : KeepsStreams second third) : KeepsStreams first third :=
  ⟨two.frigateStreams.trans one.frigateStreams, fun streamUuid exists_ =>
    two.stream streamUuid (one.stream streamUuid exists_)⟩

theorem KeepsStreams.of_map {before after : Repository} {change : StreamRow → StreamRow}
    (frigateStreams : after.frigateStreams = before.frigateStreams)
    (streams : after.streams = before.streams.map change)
    (sameUuid : ∀ stream, (change stream).streamUuid = stream.streamUuid) :
    KeepsStreams before after := by
  refine ⟨frigateStreams, fun streamUuid exists_ => ?_⟩
  rw [Repository.stream, streams, rowAt_map _ change sameUuid, Option.isSome_map]
  exact exists_

theorem FrigateKeysHold.kept {before after : Repository} (holds : FrigateKeysHold before)
    (kept : KeepsStreams before after) : FrigateKeysHold after := by
  intro row member
  rw [kept.frigateStreams] at member
  obtain ⟨record, detect⟩ := holds row member
  exact ⟨kept.stream _ record, kept.stream _ detect⟩

theorem FrigateKeysHold.of_foreignKeys {repository : Repository}
    (referenced : foreignKeysHold repository = true) : FrigateKeysHold repository := by
  simp only [foreignKeysHold, Bool.and_eq_true, List.all_eq_true] at referenced
  exact referenced.2

/-! The statements. -/

theorem keepsStreams_transition (repository : Repository) (cameraUuid : String)
    (timestamp : Nat) (fresh : String) :
    KeepsStreams repository
      (recordCameraHealthTransition repository cameraUuid timestamp fresh) := by
  obtain ⟨events, incidents, tables⟩ := transition_tables repository cameraUuid timestamp fresh
  rw [tables]
  exact .of_tables rfl rfl

theorem KeepsStreams.recorded {before changed : Repository} (kept : KeepsStreams before changed)
    (cameraUuid : String) (timestamp : Nat) (fresh : String) :
    KeepsStreams before (recordCameraHealthTransition changed cameraUuid timestamp fresh) :=
  kept.trans (keepsStreams_transition changed cameraUuid timestamp fresh)

theorem keepsStreams_transitions (timestamp : Nat) (uuids : Nat → String)
    (affected : List String) (repository : Repository) (position : Nat) :
    KeepsStreams repository
      (recordTransitions repository timestamp uuids affected position) := by
  induction affected generalizing repository position with
  | nil => exact .of_tables rfl rfl
  | cons cameraUuid rest ih =>
      exact (keepsStreams_transition repository cameraUuid timestamp (uuids position)).trans
        (ih _ (position + 1))

theorem keepsStreams_storeProfile (repository : Repository) (cameraUuid : String)
    (profile : ProfileInput) (source : SourceParts) (fresh : String) :
    KeepsStreams repository (storeProfile repository cameraUuid profile source fresh).1 := by
  simp only [storeProfile]
  split
  · exact .of_tables rfl rfl
  · exact .of_tables rfl rfl

theorem keepsStreams_storeStream (repository : Repository) (cameraUuid profileUuid : String)
    (custom : Bool) (fresh : String) :
    KeepsStreams repository (storeStream repository cameraUuid profileUuid custom fresh).1 := by
  simp only [storeStream]
  split
  · refine .of_map rfl rfl fun row => ?_
    split <;> rfl
  · refine ⟨rfl, fun streamUuid exists_ => ?_⟩
    obtain ⟨stream, found⟩ := Option.isSome_iff_exists.mp exists_
    simp only [Repository.stream] at found ⊢
    rw [rowAt_append, found]
    rfl

theorem keepsStreams_upsertProfiles [UrlText] {cameraUuid : String} {custom : Bool}
    {uuids : Nat → String} {profiles : List ProfileInput} {repository after : Repository}
    {streamsByToken result : List (String × String)} {position : Nat}
    (done : upsertProfiles repository cameraUuid custom uuids streamsByToken profiles position =
      some (after, result)) : KeepsStreams repository after := by
  induction profiles generalizing repository streamsByToken position with
  | nil =>
      obtain ⟨rfl, _⟩ : repository = after ∧ streamsByToken = result := by
        simpa [upsertProfiles] using done
      exact .of_tables rfl rfl
  | cons profile rest ih =>
      simp only [upsertProfiles, Option.bind_eq_bind, Option.bind_eq_some_iff] at done
      obtain ⟨source, _, later⟩ := done
      have profiled := keepsStreams_storeProfile repository cameraUuid profile source
        (uuids position)
      have streamed := keepsStreams_storeStream
        (storeProfile repository cameraUuid profile source (uuids position)).1 cameraUuid
        (storeProfile repository cameraUuid profile source (uuids position)).2 custom
        (uuids (position + 1))
      exact (profiled.trans streamed).trans (ih later)

theorem keepsStreams_storeProbeResults (results : List (String × ProbeStatus))
    (repository : Repository) (affected : List String) :
    KeepsStreams repository (storeProbeResults repository affected results).1 := by
  induction results generalizing repository affected with
  | nil => exact .of_tables rfl rfl
  | cons result rest ih =>
      obtain ⟨streamUuid, status⟩ := result
      simp only [storeProbeResults]
      split
      · exact ih repository affected
      · have probed : KeepsStreams repository { repository with
            streams := repository.streams.map fun row =>
              if row.streamUuid = streamUuid then probedStream status row else row } := by
          refine .of_map rfl rfl fun row => ?_
          split <;> rfl
        exact probed.trans (ih _ _)

/-! The calls. -/

section
variable [TextCase] [UrlText]

theorem adopt_frigateKeys {repository result : Repository} {request : AdoptRequest}
    {timestamp : Nat} {uuids : Nat → String}
    (done : adopt repository request timestamp uuids = .ok result) : FrigateKeysHold result := by
  obtain ⟨stored, streamsByToken, _, referenced, loop, rfl⟩ := adopt_statements done
  have pruned := FrigateKeysHold.of_foreignKeys referenced
  obtain ⟨bindings, tables⟩ := bindRoles_tables stored
    (adoptedUuid repository request.candidateUuid (uuids 0))
    (adoptedRoles (nameCamera repository request uuids)
      (adoptedUuid repository request.candidateUuid (uuids 0))
      (adoptedCustom repository request.candidateUuid) request.roles) streamsByToken
  have bound : KeepsStreams stored { stored with bindings := bindings } := .of_tables rfl rfl
  rw [tables]
  exact (pruned.kept (keepsStreams_upsertProfiles loop)).kept (bound.recorded _ _ _)

theorem perform_frigateKeys {repository after : Repository} {call : RepositoryCall}
    (holds : FrigateKeysHold repository) (done : perform repository call = .ok after) :
    FrigateKeysHold after := by
  obtain ⟨action, timestamp, uuids⟩ := call
  cases action with
  | adopt request => exact adopt_frigateKeys done
  | setStreamSettings cameraUuid enabled roles =>
      simp only [perform, setStreamSettings] at done
      split at done
      · cases done
      split at done
      · cases done
      split at done
      · split at done
        · obtain rfl := Except.ok.inj done
          refine holds.kept (KeepsStreams.recorded ?_ _ _ _)
          refine .of_map rfl rfl fun row => ?_
          split <;> rfl
        · cases done
      · cases done
  | setCameraEnabled cameraUuid enabled =>
      obtain rfl := Except.ok.inj done
      simp only [setCameraEnabled]
      split
      · exact holds
      · refine holds.kept (KeepsStreams.recorded ?_ _ _ _)
        exact .of_tables rfl rfl
  | replaceCameraCredentials cameraUuid username password =>
      obtain rfl := Except.ok.inj done
      simp only [replaceCameraCredentials]
      split
      · exact holds
      · refine holds.kept (KeepsStreams.recorded ?_ _ _ _)
        refine .of_map rfl rfl fun row => ?_
        split <;> rfl
  | updateProfileSources cameraUuid sources =>
      simp only [perform, updateProfileSources] at done
      split at done
      · obtain rfl := Except.ok.inj done
        exact holds
      split at done
      · cases done
      split at done
      · cases done
      · obtain rfl := Except.ok.inj done
        refine holds.kept (KeepsStreams.recorded ?_ _ _ _)
        refine .of_map rfl rfl fun row => ?_
        split <;> rfl
  | recordProbeResults results =>
      obtain rfl := Except.ok.inj done
      exact (holds.kept (keepsStreams_storeProbeResults results repository [])).kept
        (keepsStreams_transitions timestamp uuids _ _ 0)
  | unadoptCamera cameraUuid =>
      simp only [perform, unadoptCamera, pure, Except.pure, throw, throwThe,
        MonadExceptOf.throw] at done
      split at done
      · obtain rfl := Except.ok.inj done
        exact holds
      split at done
      · cases done
      rename_i referenced
      split at done
      · cases done
      · obtain rfl := Except.ok.inj done
        have left := FrigateKeysHold.of_foreignKeys (by simpa using referenced)
        exact left.kept (.of_tables rfl rfl)
  | setFrigateStreams rows =>
      simp only [perform, setFrigateStreams] at done
      split at done
      · rename_i referenced
        obtain rfl := Except.ok.inj done
        exact .of_foreignKeys referenced
      · cases done

theorem storageRun_frigateKeys {history : StorageHistory}
    (run : StorageRun FreshCall {} history) : FrigateKeysHold history.repository := by
  apply run.invariant (fun history => FrigateKeysHold history.repository)
  · intro row member
    cases member
  rintro history call _ holds _ rfl
  simp only [StorageHistory.call, commit]
  cases done : perform history.repository call with
  | ok next => exact perform_frigateKeys holds done
  | error problem => exact holds

end

/-! The profiles an adoption deletes. -/

/-- A Frigate binding refers to the stream. -/
def FrigateStreamsRow.uses (row : FrigateStreamsRow) (stream : StreamRow) : Prop :=
  stream.streamUuid = row.recordStreamUuid ∨ stream.streamUuid = row.detectStreamUuid

/-- Every stream of the camera that a Frigate binding uses stands for one of the tokens. -/
def FrigateStreamsOffered (repository : Repository) (cameraUuid : String)
    (tokens : List String) : Prop :=
  ∀ row ∈ repository.frigateStreams, ∀ token stream,
    streamAt repository cameraUuid token = some stream → row.uses stream → token ∈ tokens

/-- An enabled stream goes with its profile. -/
theorem stream_pruned {repository : Repository} (schema : Schema repository)
    {cameraUuid token : String} {tokens : List String} (someOffered : tokens ≠ [])
    {stream : StreamRow} (found : streamAt repository cameraUuid token = some stream)
    (enabled : stream.enabled = true) (missing : token ∉ tokens) :
    (pruneProfiles repository cameraUuid tokens).stream stream.streamUuid = none := by
  obtain ⟨member, profile, isProfile, key, owns⟩ := streamAt_some found
  rw [Repository.stream, rowAt_none]
  intro left isLeft same
  have nonempty : ¬ tokens.isEmpty = true := by simpa using someOffered
  simp only [pruneProfiles, if_neg nonempty, cascadeStreams] at isLeft
  obtain ⟨leftMember, hasProfile⟩ := List.mem_filter.mp isLeft
  obtain rfl := schema.streamIds.eq leftMember member same
  obtain ⟨owner, isOwner⟩ := Option.isSome_iff_exists.mp hasProfile
  obtain ⟨ownerLeft, ownerUuid⟩ := rowAt_some isOwner
  obtain ⟨ownerMember, kept⟩ := List.mem_filter.mp ownerLeft
  obtain rfl := schema.profileIds.eq ownerMember isProfile (ownerUuid.trans owns.symm)
  have ownerCamera : owner.cameraUuid = cameraUuid := congrArg Prod.fst key
  have ownerToken : owner.profileToken = token := congrArg Prod.snd key
  have noDisabled : repository.streams.any (fun row =>
      row.profileUuid = owner.profileUuid && !row.enabled) = false := by
    rw [List.any_eq_false]
    intro row isRow disabled
    simp only [Bool.and_eq_true, decide_eq_true_eq, Bool.not_eq_true'] at disabled
    have isStream := schema.streamProfiles.eq isRow member (disabled.1.trans owns)
    rw [isStream, enabled] at disabled
    cases disabled.2
  simp [ownerCamera, ownerToken, missing, noDisabled] at kept

theorem stream_unpruned {repository : Repository} (schema : Schema repository)
    {cameraUuid : String} {tokens : List String} {stream : StreamRow}
    (member : stream ∈ repository.streams)
    (kept : ∀ token, streamAt repository cameraUuid token = some stream → token ∈ tokens) :
    ((pruneProfiles repository cameraUuid tokens).stream stream.streamUuid).isSome := by
  obtain ⟨token, found⟩ := schema.streamAt_of_mem member
  have stays := (streamAt_pruneProfiles schema cameraUuid tokens stream.cameraUuid token).1 (by
    rintro ⟨same, missing⟩
    exact missing (kept token (same ▸ found)))
  rw [found] at stays
  exact Option.isSome_iff_exists.mpr (rowAt_isSome (streamAt_some stays).1)

/-- What the foreign keys ask of a re-adoption. -/
theorem foreignKeysHold_pruned {repository : Repository} (schema : Schema repository)
    (holds : FrigateKeysHold repository) {cameraUuid : String} {tokens : List String}
    (someOffered : tokens ≠ [])
    (unbound : ∀ binding ∈ repository.bindings, binding.cameraUuid ≠ cameraUuid)
    (enabled : ∀ token stream, streamAt repository cameraUuid token = some stream →
      stream.enabled = true) :
    foreignKeysHold (pruneProfiles repository cameraUuid tokens) = true ↔
      FrigateStreamsOffered repository cameraUuid tokens := by
  obtain ⟨same, _, _⟩ := pruneProfiles_same repository cameraUuid tokens
  have sameFrigate : (pruneProfiles repository cameraUuid tokens).frigateStreams =
      repository.frigateStreams := by
    simp only [pruneProfiles]
    split <;> rfl
  simp only [foreignKeysHold, Bool.and_eq_true, List.all_eq_true, same.bindings, sameFrigate]
  constructor
  · rintro ⟨_, referenced⟩ row isRow token stream found used
    by_contra missing
    have gone := stream_pruned schema someOffered found (enabled token stream found) missing
    obtain ⟨record, detect⟩ := referenced row isRow
    rcases used with isRecord | isDetect
    · simp [← isRecord, gone] at record
    · simp [← isDetect, gone] at detect
  · intro offered
    have stays {row : FrigateStreamsRow} (isRow : row ∈ repository.frigateStreams)
        {streamUuid : String} (exists_ : (repository.stream streamUuid).isSome)
        (named : streamUuid = row.recordStreamUuid ∨ streamUuid = row.detectStreamUuid) :
        ((pruneProfiles repository cameraUuid tokens).stream streamUuid).isSome := by
      obtain ⟨stream, found⟩ := Option.isSome_iff_exists.mp exists_
      obtain ⟨member, rfl⟩ := rowAt_some found
      exact stream_unpruned schema member fun token isStream =>
        offered row isRow token stream isStream named
    constructor
    · intro binding isBinding
      obtain ⟨stream, member, sameUuid, sameCamera⟩ := schema.bindingStream binding isBinding
      rw [← sameUuid]
      refine stream_unpruned schema member fun token isStream => ?_
      exact absurd (sameCamera.symm.trans (schema.streamAt_camera isStream))
        (unbound binding isBinding)
    · intro row isRow
      obtain ⟨record, detect⟩ := holds row isRow
      exact ⟨stays isRow record (.inl rfl), stays isRow detect (.inr rfl)⟩

/-! Re-adoption. -/

section
variable [TextCase] [UrlText]

/-- A plain adoption fails on a foreign key or on a source it cannot parse, or it commits. -/
theorem adopt_plain {repository : Repository} {request : AdoptRequest} (timestamp : Nat)
    (uuids : Nat → String) (origin : request.cameraOrigin ∈ ["discovery", "direct"])
    (unrejected : request.rejectSourceKeys = [])
    (plain : adoptedCustom repository request.candidateUuid = false) :
    (adopt repository request timestamp uuids = .error .integrity ↔
      foreignKeysHold (pruneProfiles (deleteBindings (nameCamera repository request uuids)
          (adoptedUuid repository request.candidateUuid (uuids 0)))
        (adoptedUuid repository request.candidateUuid (uuids 0))
        (request.profiles.map (·.token))) = false) ∧
      (adopt repository request timestamp uuids = .error .integrity ∨
        adopt repository request timestamp uuids = .error .uri ∨
        ∃ result, adopt repository request timestamp uuids = .ok result) := by
  have unassigned : assignedCamera repository request.rejectSourceKeys = none := by
    have none_rejected (profile : ProfileRow) :
        (rtspSourceKey (sourceUri profile)).any (· ∈ request.rejectSourceKeys) = false := by
      cases rtspSourceKey (sourceUri profile) with
      | none => rfl
      | some key => simp [unrejected]
    have absent : repository.profiles.find? (fun profile =>
        (profile.uri.isSome || (profile.source.scheme.isSome && profile.source.host.isSome)) &&
          (rtspSourceKey (sourceUri profile)).any (· ∈ request.rejectSourceKeys)) = none := by
      simp [none_rejected]
    rw [assignedCamera, absent, Option.bind_none]
  simp only [adopt, bind, Except.bind, pure, Except.pure, throw, throwThe,
    MonadExceptOf.throw, origin, not_true_eq_false, if_false, unassigned, plain, Bool.false_and,
    Bool.false_eq_true]
  cases referenced : foreignKeysHold (pruneProfiles
      (deleteBindings (nameCamera repository request uuids)
        (adoptedUuid repository request.candidateUuid (uuids 0)))
      (adoptedUuid repository request.candidateUuid (uuids 0))
      (request.profiles.map (·.token))) with
  | false => simp
  | true =>
      simp only [Bool.not_true, Bool.false_eq_true, if_false]
      split <;> simp

theorem readoption_unblocked_iff {history : StorageHistory}
    (run : StorageRun FreshCall {} history) {request : AdoptRequest} {timestamp : Nat}
    {uuids : Nat → String} (fresh : FreshCall history ⟨.adopt request, timestamp, uuids⟩)
    {cameraUuid : String}
    (adopted : cameraOf history.repository request.candidateUuid = some cameraUuid)
    (plain : adoptedCustom history.repository request.candidateUuid = false)
    (origin : request.cameraOrigin ∈ ["discovery", "direct"])
    (unrejected : request.rejectSourceKeys = []) (someOffered : request.profiles ≠ []) :
    (adopt history.repository request timestamp uuids ≠ .error .integrity ↔
        FrigateStreamsOffered history.repository cameraUuid
          (request.profiles.map (·.token))) ∧
      (FrigateStreamsOffered history.repository cameraUuid (request.profiles.map (·.token)) →
        adopt history.repository request timestamp uuids = .error .uri ∨
          ∃ result, adopt history.repository request timestamp uuids = .ok result) := by
  obtain ⟨schema, settings⟩ := storageRun_settings run
  have holds := storageRun_frigateKeys run
  obtain ⟨sameUuid, isCustom⟩ := adoptedCustom_known schema (uuids 0) adopted
  rw [plain] at isCustom
  have named := nameCamera_named schema request fresh.unused
  have outcome := adopt_plain timestamp uuids origin unrejected plain
  rw [sameUuid] at outcome
  have unbound : ∀ binding ∈ (deleteBindings (nameCamera history.repository request uuids)
      cameraUuid).bindings, binding.cameraUuid ≠ cameraUuid := by
    intro binding member
    exact of_decide_eq_true (List.mem_filter.mp member).2
  have someToken : request.profiles.map (·.token) ≠ [] := by simpa using someOffered
  have offered_iff := foreignKeysHold_pruned (named.schema.deleteBindings cameraUuid) holds
    someToken unbound (settings.untouched cameraUuid isCustom)
  have unblocked : adopt history.repository request timestamp uuids ≠ .error .integrity ↔
      FrigateStreamsOffered history.repository cameraUuid (request.profiles.map (·.token)) := by
    rw [Ne, outcome.1, Bool.not_eq_false]
    exact offered_iff
  refine ⟨unblocked, fun offered => ?_⟩
  rcases outcome.2 with isIntegrity | others
  · exact absurd isIntegrity (unblocked.mpr offered)
  · exact others

end

/-! The front door, synchronised to a Frigate target with both of its streams. -/

def frontDoorSynced : StorageHistory :=
  let _ := asciiCase
  let _ := plainUrls
  adoptedOnce.call ⟨.setFrigateStreams
    [⟨"frigate", uuidSupply 'a' 0, uuidSupply 'a' 4, uuidSupply 'a' 6⟩], 2, uuidSupply 'b'⟩

theorem frontDoorSynced_run :
    let _ := asciiCase
    let _ := plainUrls
    StorageRun FreshCall {} frontDoorSynced :=
  let _ := asciiCase
  let _ := plainUrls
  adoptedOnce_run.step _ (freshCall_uuidSupply _ (by decide +kernel) (by decide)) rfl

/-- The front door as an inspection finds it that no longer reports `sub`. -/
def frontDoorMain : AdoptRequest :=
  { frontDoor with
    profiles := [⟨"main", some "rtsp://10.0.0.5/main", "onvif"⟩]
    roles := fun _ => some "main" }

theorem synced_readoption_blocked :
    let _ := asciiCase
    let _ := plainUrls
    StorageRun FreshCall {} frontDoorSynced ∧
      FreshCall frontDoorSynced ⟨.adopt frontDoorMain, 3, uuidSupply 'c'⟩ ∧
      cameraOf frontDoorSynced.repository frontDoorMain.candidateUuid =
        some (uuidSupply 'a' 0) ∧
      adoptedCustom frontDoorSynced.repository frontDoorMain.candidateUuid = false ∧
      frontDoorMain.rejectSourceKeys = [] ∧
      (frontDoorMain.profiles.map (·.token)).Nodup ∧ frontDoorMain.profiles ≠ [] ∧
      adopt frontDoorSynced.repository frontDoorMain 3 (uuidSupply 'c') = .error .integrity := by
  intro _ _
  have run := frontDoorSynced_run
  exact ⟨run, freshCall_uuidSupply _ (by decide +kernel) (by decide), by decide +kernel,
    by decide +kernel, rfl, by decide, by decide, by decide +kernel⟩

/-- Both profiles are offered again. -/
theorem synced_readoption_unblocked :
    let _ := asciiCase
    let _ := plainUrls
    adopt frontDoorSynced.repository frontDoor 3 (uuidSupply 'c') ≠ .error .integrity ↔
      FrigateStreamsOffered frontDoorSynced.repository (uuidSupply 'a' 0) ["main", "sub"] :=
  let _ := asciiCase
  let _ := plainUrls
  (readoption_unblocked_iff frontDoorSynced_run
    (freshCall_uuidSupply (.adopt frontDoor) (by decide +kernel) (by decide))
    (by decide +kernel) (by decide +kernel) (by decide) rfl (by decide)).1

end CamAdmiral
