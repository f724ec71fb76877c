import CamAdmiral.StorageIntegrity

/-!
The statements of an adoption: naming the camera, deleting its bindings, pruning the
profiles it no longer has and storing the ones it has now.
-/

namespace CamAdmiral

/-! The camera row. -/

/-- A row to upsert: of the candidate's camera, or with an unused uuid. -/
def NamesCandidate (repository : Repository) (camera : CameraRow) : Prop :=
  match rowAt CameraRow.candidateUuid repository.cameras camera.candidateUuid with
  | some existing => existing.cameraUuid = camera.cameraUuid
  | none => ∀ row ∈ repository.cameras, row.cameraUuid ≠ camera.cameraUuid

theorem Schema.upsertCamera {repository : Repository} (schema : Schema repository)
    {camera : CameraRow} (names : NamesCandidate repository camera) :
    Schema (upsertCamera repository camera) := by
  simp only [CamAdmiral.upsertCamera]
  split
  · apply schema.mapCameras
    intro row
    split <;> exact ⟨rfl, rfl⟩
  · rename_i absent
    have unknown := Option.not_isSome_iff_eq_none.mp absent
    simp only [NamesCandidate, unknown] at names
    have kept {cameraUuid : String}
        (listed : ∃ row ∈ repository.cameras, row.cameraUuid = cameraUuid) :
        ∃ row ∈ repository.cameras ++ [camera], row.cameraUuid = cameraUuid := by
      obtain ⟨row, isRow, same⟩ := listed
      exact ⟨row, List.mem_append_left _ isRow, same⟩
    exact { schema with
      cameraIds := schema.cameraIds.append names
      candidateIds := schema.candidateIds.append (rowAt_none.mp unknown)
      profileCamera := fun profile member => kept (schema.profileCamera profile member)
      eventCamera := fun event member => kept (schema.eventCamera event member)
      incidentCamera := fun incident member => kept (schema.incidentCamera incident member) }

theorem sameCamera_upsertCamera {repository : Repository} (schema : Schema repository)
    {camera : CameraRow} (names : NamesCandidate repository camera) {other : String}
    (differs : camera.cameraUuid ≠ other) :
    SameCamera repository (upsertCamera repository camera) other := by
  simp only [upsertCamera]
  split
  · rename_i present
    obtain ⟨existing, found⟩ := Option.isSome_iff_exists.mp present
    simp only [NamesCandidate, found] at names
    obtain ⟨existingMember, existingCandidate⟩ := rowAt_some found
    apply sameCamera_mapCameras
    · intro row
      split <;> rfl
    · intro row member owned
      split
      · rename_i same
        have isExisting := schema.candidateIds.eq member existingMember
          (same.trans existingCandidate.symm)
        exact absurd (names.symm.trans (isExisting ▸ owned)) differs
      · rfl
  · refine ⟨?_, rfl, rfl, rfl, rfl⟩
    simp [Repository.camera, rowAt_append, differs]

theorem cameraOf_upsertCamera {repository : Repository} {camera : CameraRow}
    (names : NamesCandidate repository camera) (candidateUuid : String) :
    cameraOf (upsertCamera repository camera) candidateUuid =
      if camera.candidateUuid = candidateUuid then some camera.cameraUuid
      else cameraOf repository candidateUuid := by
  simp only [upsertCamera, cameraOf]
  split
  · rename_i present
    obtain ⟨existing, found⟩ := Option.isSome_iff_exists.mp present
    simp only [NamesCandidate, found] at names
    rw [rowAt_map _ _ fun row => by split <;> rfl]
    split
    · rename_i same
      subst same
      simp [found, (rowAt_some found).2, names]
    · cases rowAt CameraRow.candidateUuid repository.cameras candidateUuid with
      | none => rfl
      | some row =>
          simp only [Option.map_some]
          split <;> rfl
  · rename_i absent
    rw [rowAt_append]
    split
    · rename_i same
      subst same
      simp [Option.not_isSome_iff_eq_none.mp absent]
    · simp

/-- The upserted camera keeps its settings; a new one has the given ones. -/
theorem camera_upsertCamera {repository : Repository} (schema : Schema repository)
    {camera : CameraRow} (names : NamesCandidate repository camera) :
    ∃ row, (upsertCamera repository camera).camera camera.cameraUuid = some row ∧
      match rowAt CameraRow.candidateUuid repository.cameras camera.candidateUuid with
      | some existing => row.enabled = existing.enabled ∧
          row.streamSettingsCustom = existing.streamSettingsCustom
      | none => row = camera := by
  simp only [upsertCamera, Repository.camera]
  cases found : rowAt CameraRow.candidateUuid repository.cameras camera.candidateUuid with
  | some existing =>
      simp only [NamesCandidate, found] at names
      obtain ⟨member, same⟩ := rowAt_some found
      rw [Option.isSome_some, if_pos rfl, rowAt_map _ _ fun row => by split <;> rfl, ← names,
        schema.cameraIds.rowAt_eq member]
      exact ⟨_, rfl, by simp [same]⟩
  | none =>
      simp only [NamesCandidate, found] at names
      rw [Option.isSome_none, if_neg Bool.false_ne_true, rowAt_append, rowAt_none.mpr names]
      exact ⟨camera, by simp, rfl⟩

/-! Deletions. -/

theorem Schema.deleteBindings {repository : Repository} (schema : Schema repository)
    (cameraUuid : String) : Schema (deleteBindings repository cameraUuid) :=
  { schema with
    bindingKeys := schema.bindingKeys.filter _
    bindingStream := fun binding member =>
      schema.bindingStream binding (List.mem_filter.mp member).1 }

theorem sameCamera_deleteBindings {repository : Repository} {cameraUuid other : String}
    (differs : cameraUuid ≠ other) :
    SameCamera repository (deleteBindings repository cameraUuid) other := by
  refine ⟨rfl, rfl, ?_, rfl, rfl⟩
  apply filter_filter_others
  intro binding _ owned
  simpa [owned] using differs.symm

/-- Deleting profiles takes their streams along; the bindings must survive it. -/
theorem Schema.deleteProfiles {repository : Repository} (schema : Schema repository)
    (keep : ProfileRow → Bool)
    (referenced : foreignKeysHold (cascadeStreams { repository with
      profiles := repository.profiles.filter keep }) = true) :
    Schema (cascadeStreams { repository with profiles := repository.profiles.filter keep }) := by
  have remaining {stream : StreamRow}
      (member : stream ∈ (cascadeStreams { repository with
        profiles := repository.profiles.filter keep }).streams) :
      stream ∈ repository.streams := (List.mem_filter.mp member).1
  simp only [foreignKeysHold, Bool.and_eq_true, List.all_eq_true] at referenced
  exact { schema with
    profileKeys := schema.profileKeys.filter keep
    profileIds := schema.profileIds.filter keep
    streamIds := schema.streamIds.filter _
    streamProfiles := schema.streamProfiles.filter _
    profileCamera := fun profile member =>
      schema.profileCamera profile (List.mem_filter.mp member).1
    streamProfile := by
      intro stream member
      obtain ⟨isStream, kept⟩ := List.mem_filter.mp member
      obtain ⟨profile, isProfile, owns, camera⟩ := schema.streamProfile stream isStream
      obtain ⟨left, found⟩ := Option.isSome_iff_exists.mp kept
      obtain ⟨leftMember, leftUuid⟩ := rowAt_some found
      have same := schema.profileIds.eq (List.mem_filter.mp leftMember).1 isProfile
        (leftUuid.trans owns.symm)
      exact ⟨left, leftMember, leftUuid, by rw [same, camera]⟩
    streamKey := fun stream member => schema.streamKey stream (remaining member)
    bindingStream := by
      intro binding member
      obtain ⟨stream, isStream, sameUuid, sameCamera⟩ := schema.bindingStream binding member
      obtain ⟨left, found⟩ := Option.isSome_iff_exists.mp (referenced.1 binding member)
      obtain ⟨leftMember, leftUuid⟩ := rowAt_some found
      have same := schema.streamIds.eq (remaining leftMember) isStream
        (leftUuid.trans sameUuid.symm)
      exact ⟨left, leftMember, leftUuid, by rw [same, sameCamera]⟩ }

theorem streamAt_deleteProfiles {repository : Repository} (schema : Schema repository)
    (keep : ProfileRow → Bool) (cameraUuid token : String) :
    streamAt (cascadeStreams { repository with profiles := repository.profiles.filter keep })
        cameraUuid token =
      ((rowAt ProfileRow.key repository.profiles (cameraUuid, token)).filter keep).bind
        fun profile => rowAt StreamRow.profileUuid repository.streams profile.profileUuid := by
  simp only [streamAt, cascadeStreams, schema.profileKeys.rowAt_filter]
  cases found : (rowAt ProfileRow.key repository.profiles (cameraUuid, token)).filter keep with
  | none => rfl
  | some profile =>
      obtain ⟨isProfile, kept⟩ := Option.filter_eq_some_iff.mp found
      have remains := (schema.profileIds.filter keep).rowAt_eq
        (List.mem_filter.mpr ⟨(rowAt_some isProfile).1, kept⟩)
      simp only [Option.bind_some, schema.streamProfiles.rowAt_filter]
      cases atProfile : rowAt StreamRow.profileUuid repository.streams profile.profileUuid with
      | none => rfl
      | some stream => simp [(rowAt_some atProfile).2, remains]

/-- Pruning leaves a profile of another camera or with a current token where it is and brings
none back. -/
theorem streamAt_pruneProfiles {repository : Repository} (schema : Schema repository)
    (cameraUuid : String) (tokens : List String) (owner token : String) :
    (¬ (owner = cameraUuid ∧ token ∉ tokens) →
      streamAt (pruneProfiles repository cameraUuid tokens) owner token =
        streamAt repository owner token) ∧
    ∀ stream, streamAt (pruneProfiles repository cameraUuid tokens) owner token = some stream →
      streamAt repository owner token = some stream := by
  simp only [pruneProfiles]
  split
  · exact ⟨fun _ => rfl, fun _ found => found⟩
  · rw [streamAt_deleteProfiles schema]
    cases found : rowAt ProfileRow.key repository.profiles (owner, token) with
    | none => simp [streamAt, found]
    | some profile =>
        have key := (rowAt_some found).2
        constructor
        · intro current
          have kept : ¬ (profile.cameraUuid = cameraUuid ∧ profile.profileToken ∉ tokens) := by
            simpa [ProfileRow.key] using (show ¬ (profile.key.1 = cameraUuid ∧
              profile.key.2 ∉ tokens) by rw [key]; exact current)
          rw [Option.filter_some_pos, streamAt, found]
          simp only [Bool.not_eq_true', Bool.and_eq_false_iff, decide_eq_false_iff_not]
          tauto
        · intro stream remains
          obtain ⟨other, isOther, isStream⟩ := Option.bind_eq_some_iff.mp remains
          obtain ⟨same, _⟩ := Option.filter_eq_some_iff.mp isOther
          rw [streamAt, found, same, Option.bind_some, isStream]

theorem Schema.pruneProfiles {repository : Repository} (schema : Schema repository)
    (cameraUuid : String) (tokens : List String)
    (referenced : foreignKeysHold (pruneProfiles repository cameraUuid tokens) = true) :
    Schema (pruneProfiles repository cameraUuid tokens) := by
  simp only [CamAdmiral.pruneProfiles] at referenced ⊢
  split
  · exact schema
  · rename_i nonempty
    rw [if_neg nonempty] at referenced
    exact schema.deleteProfiles _ referenced

theorem sameCamera_pruneProfiles {repository : Repository} (schema : Schema repository)
    {cameraUuid other : String} (tokens : List String) (differs : cameraUuid ≠ other) :
    SameCamera repository (pruneProfiles repository cameraUuid tokens) other := by
  simp only [pruneProfiles]
  split
  · exact SameCamera.refl repository other
  · refine ⟨rfl, ?_, rfl, rfl, rfl⟩
    apply filter_filter_others
    intro stream member owned
    obtain ⟨profile, isProfile, owns, camera⟩ := schema.streamProfile stream member
    rw [← owns]
    refine Option.isSome_iff_exists.mpr (rowAt_isSome (List.mem_filter.mpr ⟨isProfile, ?_⟩))
    have foreign : profile.cameraUuid ≠ cameraUuid := by
      rw [camera, owned]
      exact differs.symm
    simp [foreign]

/-! Storing a profile. -/

/-- Every table but the profiles and streams is the same. -/
structure SameBesidesProfiles (before after : Repository) : Prop where
  cameras : after.cameras = before.cameras
  bindings : after.bindings = before.bindings
  healthEvents : after.healthEvents = before.healthEvents
  incidents : after.incidents = before.incidents
  frigateStreams : after.frigateStreams = before.frigateStreams

theorem SameBesidesProfiles.trans {first second third : Repository}
    (one : SameBesidesProfiles first second) (two : SameBesidesProfiles second third) :
    SameBesidesProfiles first third :=
  ⟨two.cameras.trans one.cameras, two.bindings.trans one.bindings,
    two.healthEvents.trans one.healthEvents, two.incidents.trans one.incidents,
    two.frigateStreams.trans one.frigateStreams⟩

theorem storeProfile_same (repository : Repository) (cameraUuid : String)
    (profile : ProfileInput) (source : SourceParts) (fresh : String) :
    SameBesidesProfiles repository (storeProfile repository cameraUuid profile source fresh).1 ∧
      (storeProfile repository cameraUuid profile source fresh).1.streams =
        repository.streams := by
  simp only [storeProfile]
  split <;> exact ⟨⟨rfl, rfl, rfl, rfl, rfl⟩, rfl⟩

theorem Schema.storeProfile {repository : Repository} (schema : Schema repository)
    {cameraUuid : String} (listed : ∃ camera ∈ repository.cameras, camera.cameraUuid = cameraUuid)
    (profile : ProfileInput) (source : SourceParts) {fresh : String}
    (unused : ∀ row ∈ repository.profiles, row.profileUuid ≠ fresh) :
    Schema (storeProfile repository cameraUuid profile source fresh).1 := by
  simp only [CamAdmiral.storeProfile]
  split
  · apply schema.mapProfiles
    · intro row
      split <;> rfl
    · intro row
      split <;> rfl
  · rename_i absent
    exact { schema with
      profileKeys := schema.profileKeys.append (rowAt_none.mp absent)
      profileIds := schema.profileIds.append unused
      profileCamera := by
        intro row member
        rcases List.mem_append.mp member with isOld | isNew
        · exact schema.profileCamera row isOld
        · obtain rfl := List.mem_singleton.mp isNew
          exact listed
      streamProfile := by
        intro stream member
        obtain ⟨row, isRow, owns⟩ := schema.streamProfile stream member
        exact ⟨row, List.mem_append_left _ isRow, owns⟩ }

/-- The stored profile is found under its key, and no stream moves. -/
theorem storeProfile_at {repository : Repository} (schema : Schema repository)
    (cameraUuid : String) (profile : ProfileInput) (source : SourceParts) {fresh : String}
    (unused : ∀ row ∈ repository.profiles, row.profileUuid ≠ fresh) :
    (rowAt ProfileRow.key (storeProfile repository cameraUuid profile source fresh).1.profiles
        (cameraUuid, profile.token)).map (·.profileUuid) =
      some (storeProfile repository cameraUuid profile source fresh).2 ∧
    ∀ owner token,
      streamAt (storeProfile repository cameraUuid profile source fresh).1 owner token =
        streamAt repository owner token := by
  simp only [storeProfile]
  split
  · rename_i existing found
    constructor
    · rw [rowAt_map _ _ fun row => by split <;> rfl, found]
      simp only [Option.map_some]
      split <;> rfl
    · intro owner token
      exact streamAt_mapProfiles repository _ (fun row => by split <;> rfl)
        (fun row => by split <;> rfl) owner token
  · rename_i absent
    have streamless : rowAt StreamRow.profileUuid repository.streams fresh = none := by
      apply rowAt_none.mpr
      intro stream member same
      obtain ⟨row, isRow, owns, _⟩ := schema.streamProfile stream member
      exact unused row isRow (owns.trans same)
    constructor
    · rw [rowAt_append, absent]
      simp [ProfileRow.key]
    · intro owner token
      simp only [streamAt, rowAt_append]
      cases found : rowAt ProfileRow.key repository.profiles (owner, token) with
      | some row => rfl
      | none =>
          by_cases added : ProfileRow.key ⟨fresh, cameraUuid, profile.token, profile.uri, source,
              profile.sourceKind⟩ = (owner, token)
          · simp [added, streamless]
          · simp [added]

theorem storeStream_same (repository : Repository) (cameraUuid profileUuid : String)
    (custom : Bool) (fresh : String) :
    SameBesidesProfiles repository (storeStream repository cameraUuid profileUuid custom fresh).1 ∧
      (storeStream repository cameraUuid profileUuid custom fresh).1.profiles =
        repository.profiles := by
  simp only [storeStream]
  split <;> exact ⟨⟨rfl, rfl, rfl, rfl, rfl⟩, rfl⟩

theorem Schema.storeStream {repository : Repository} (schema : Schema repository)
    {cameraUuid profileUuid : String}
    (owned : ∃ profile ∈ repository.profiles, profile.profileUuid = profileUuid ∧
      profile.cameraUuid = cameraUuid) (custom : Bool) {fresh : String}
    (unused : ∀ row ∈ repository.streams, row.streamUuid ≠ fresh) :
    Schema (storeStream repository cameraUuid profileUuid custom fresh).1 := by
  simp only [CamAdmiral.storeStream]
  split
  · apply schema.mapStreams
    intro row
    split <;> exact ⟨rfl, rfl, rfl, rfl⟩
  · rename_i absent
    exact { schema with
      streamIds := schema.streamIds.append unused
      streamProfiles := schema.streamProfiles.append (rowAt_none.mp absent)
      streamProfile := by
        intro stream member
        rcases List.mem_append.mp member with isOld | isNew
        · exact schema.streamProfile stream isOld
        · obtain rfl := List.mem_singleton.mp isNew
          exact owned
      streamKey := by
        intro stream member
        rcases List.mem_append.mp member with isOld | isNew
        · exact schema.streamKey stream isOld
        · obtain rfl := List.mem_singleton.mp isNew
          rfl
      bindingStream := by
        intro binding member
        obtain ⟨stream, isStream, same⟩ := schema.bindingStream binding member
        exact ⟨stream, List.mem_append_left _ isStream, same⟩ }

/-- What storing the profiles of the tokens makes of the streams: each token has a stream, the
one it had before or one with a fresh uuid, and every other token keeps its own. -/
structure Upserted (before after : Repository) (cameraUuid : String) (custom : Bool)
    (fresh : String → Prop) (tokens : List String) : Prop where
  others : ∀ owner token, ¬ (owner = cameraUuid ∧ token ∈ tokens) →
    streamAt after owner token = streamAt before owner token
  stored : ∀ token ∈ tokens, ∃ stream, streamAt after cameraUuid token = some stream ∧
    (∀ old, streamAt before cameraUuid token = some old → SameStream old stream) ∧
    (streamAt before cameraUuid token = none →
      stream.enabled = !custom ∧ fresh stream.streamUuid)

theorem Upserted.refl (repository : Repository) (cameraUuid : String) (custom : Bool)
    (fresh : String → Prop) : Upserted repository repository cameraUuid custom fresh [] :=
  ⟨fun _ _ _ => rfl, by simp⟩

theorem Upserted.mono {before after : Repository} {cameraUuid : String} {custom : Bool}
    {fresh wider : String → Prop} {tokens : List String}
    (upserted : Upserted before after cameraUuid custom fresh tokens)
    (widens : ∀ uuid, fresh uuid → wider uuid) :
    Upserted before after cameraUuid custom wider tokens := by
  refine ⟨upserted.others, ?_⟩
  intro token member
  obtain ⟨stream, found, kept, added⟩ := upserted.stored token member
  exact ⟨stream, found, kept, fun absent => (added absent).imp_right (widens _)⟩

theorem Upserted.cons {first second third : Repository} {cameraUuid token : String}
    {custom : Bool} {fresh : String → Prop} {tokens : List String}
    (one : Upserted first second cameraUuid custom fresh [token])
    (rest : Upserted second third cameraUuid custom fresh tokens) :
    Upserted first third cameraUuid custom fresh (token :: tokens) := by
  constructor
  · intro owner other outside
    rw [rest.others owner other (by simp_all), one.others owner other (by simp_all)]
  · intro wanted member
    by_cases isFirst : wanted = token
    · subst isFirst
      obtain ⟨stream, found, kept, added⟩ := one.stored wanted (by simp)
      by_cases again : wanted ∈ tokens
      · obtain ⟨final, finalFound, finalKept, _⟩ := rest.stored wanted again
        have same := finalKept stream found
        refine ⟨final, finalFound, fun old isOld => (kept old isOld).trans same, ?_⟩
        intro absent
        rw [same.enabled, same.streamUuid]
        exact added absent
      · exact ⟨stream, (rest.others cameraUuid wanted (by simp [again])).trans found, kept,
          added⟩
    · have isLater : wanted ∈ tokens := by simpa [isFirst] using member
      obtain ⟨stream, found, kept, added⟩ := rest.stored wanted isLater
      rw [one.others cameraUuid wanted (by simp [isFirst])] at kept added
      exact ⟨stream, found, kept, added⟩

theorem storeStream_at {repository : Repository} (schema : Schema repository)
    {cameraUuid profileUuid token : String}
    (found : (rowAt ProfileRow.key repository.profiles (cameraUuid, token)).map (·.profileUuid) =
      some profileUuid) (custom : Bool) (fresh : String) :
    Upserted repository (storeStream repository cameraUuid profileUuid custom fresh).1 cameraUuid
        custom (· = fresh) [token] ∧
      (streamAt (storeStream repository cameraUuid profileUuid custom fresh).1 cameraUuid
        token).map (·.streamUuid) =
          some (storeStream repository cameraUuid profileUuid custom fresh).2 := by
  obtain ⟨profile, isProfile, rfl⟩ := Option.map_eq_some_iff.mp found
  have here : streamAt repository cameraUuid token =
      rowAt StreamRow.profileUuid repository.streams profile.profileUuid := by
    rw [streamAt, isProfile, Option.bind_some]
  -- A profile found under another key is another profile, so its stream is another stream.
  have elsewhere {owner other : String} {row : ProfileRow}
      (outside : ¬ (owner = cameraUuid ∧ other ∈ [token]))
      (isRow : rowAt ProfileRow.key repository.profiles (owner, other) = some row) :
      row.profileUuid ≠ profile.profileUuid := by
    intro same
    have sameProfile := schema.profileIds.eq (rowAt_some isRow).1 (rowAt_some isProfile).1 same
    have sameKey := (rowAt_some isRow).2.symm.trans (sameProfile ▸ (rowAt_some isProfile).2)
    simp only [Prod.mk.injEq] at sameKey
    exact outside ⟨sameKey.1, by simp [sameKey.2]⟩
  simp only [storeStream]
  split
  · rename_i stream isStream
    have mapped := streamAt_mapStreams repository
      (fun row => if row.streamUuid = stream.streamUuid then row.pending else row)
      (fun row => by split <;> rfl)
    have pending : streamAt { repository with streams := repository.streams.map fun row =>
        if row.streamUuid = stream.streamUuid then row.pending else row } cameraUuid token =
        some stream.pending := by
      rw [mapped, here, isStream]
      simp
    refine ⟨⟨?_, ?_⟩, by rw [pending]; rfl⟩
    · intro owner other outside
      rw [mapped]
      cases isOther : streamAt repository owner other with
      | none => rfl
      | some row =>
          obtain ⟨otherProfile, atKey, atStream⟩ := Option.bind_eq_some_iff.mp isOther
          have differs : row.streamUuid ≠ stream.streamUuid := by
            intro same
            have sameStream := schema.streamIds.eq (rowAt_some atStream).1
              (rowAt_some isStream).1 same
            exact elsewhere outside atKey ((rowAt_some atStream).2.symm.trans
              (sameStream ▸ (rowAt_some isStream).2))
          simp [differs]
    · intro wanted isToken
      obtain rfl := List.mem_singleton.mp isToken
      refine ⟨stream.pending, pending, ?_, ?_⟩
      · intro old isOld
        rw [here, isStream, Option.some.injEq] at isOld
        subst isOld
        exact ⟨rfl, rfl, rfl⟩
      · intro absent
        simp [here, isStream] at absent
  · rename_i absent
    have added : streamAt { repository with streams := repository.streams ++
        [⟨fresh, cameraUuid, profile.profileUuid, "stream_" ++ fresh, !custom, .unknown, 0⟩] }
        cameraUuid token = some ⟨fresh, cameraUuid, profile.profileUuid, "stream_" ++ fresh,
          !custom, .unknown, 0⟩ := by
      simp [streamAt, isProfile, rowAt_append, absent]
    refine ⟨⟨?_, ?_⟩, by rw [added]; rfl⟩
    · intro owner other outside
      simp only [streamAt]
      cases atKey : rowAt ProfileRow.key repository.profiles (owner, other) with
      | none => rfl
      | some row =>
          have differs := elsewhere outside atKey
          simp [rowAt_append, differs.symm]
    · intro wanted isToken
      obtain rfl := List.mem_singleton.mp isToken
      refine ⟨_, added, ?_, fun _ => ⟨rfl, rfl⟩⟩
      intro old isOld
      rw [here, absent] at isOld
      exact absurd isOld (by simp)

theorem SameBesidesProfiles.sameCamera {before after : Repository}
    (same : SameBesidesProfiles before after) {cameraUuid : String}
    (streams : after.streams.filter (fun row => row.cameraUuid = cameraUuid) =
      before.streams.filter fun row => row.cameraUuid = cameraUuid) :
    SameCamera before after cameraUuid :=
  ⟨by rw [Repository.camera, same.cameras]; rfl, streams, by rw [same.bindings],
    by rw [cameraEvents, same.healthEvents]; rfl, by rw [same.incidents]⟩

theorem sameCamera_storeStream {repository : Repository} (schema : Schema repository)
    {cameraUuid profileUuid other : String}
    (owned : ∃ profile ∈ repository.profiles, profile.profileUuid = profileUuid ∧
      profile.cameraUuid = cameraUuid) (custom : Bool) (fresh : String)
    (differs : cameraUuid ≠ other) :
    SameCamera repository (storeStream repository cameraUuid profileUuid custom fresh).1 other := by
  apply (storeStream_same repository cameraUuid profileUuid custom fresh).1.sameCamera
  simp only [storeStream]
  split
  · rename_i stream found
    apply filter_map_others
    · intro row
      split <;> rfl
    · intro row member ownedRow
      split
      · rename_i same
        obtain ⟨streamMember, streamProfile⟩ := rowAt_some found
        obtain ⟨profile, isProfile, profileSame, profileCamera⟩ := owned
        obtain ⟨owner, isOwner, ownerSame, ownerCamera⟩ :=
          schema.streamProfile stream streamMember
        have sameProfile := schema.profileIds.eq isOwner isProfile
          (ownerSame.trans (streamProfile.trans profileSame.symm))
        have sameStream := schema.streamIds.eq member streamMember same
        rw [sameStream, ← ownerCamera, sameProfile, profileCamera] at ownedRow
        exact absurd ownedRow differs
      · rfl
  · exact filter_append_others _ differs

/-- The uuids of a table after an insert: old ones and the inserted one. -/
def OnlyAdds {α : Type} (uuid : α → String) (before after : List α) (fresh : String) : Prop :=
  ∀ row ∈ after, uuid row = fresh ∨ ∃ old ∈ before, uuid old = uuid row

theorem storeProfile_adds (repository : Repository) (cameraUuid : String)
    (profile : ProfileInput) (source : SourceParts) (fresh : String) :
    OnlyAdds ProfileRow.profileUuid repository.profiles
      (storeProfile repository cameraUuid profile source fresh).1.profiles fresh := by
  intro row member
  simp only [storeProfile] at member
  split at member
  · obtain ⟨old, isOld, rfl⟩ := List.mem_map.mp member
    refine .inr ⟨old, isOld, ?_⟩
    split <;> rfl
  · rcases List.mem_append.mp member with isOld | isNew
    · exact .inr ⟨row, isOld, rfl⟩
    · obtain rfl := List.mem_singleton.mp isNew
      exact .inl rfl

theorem storeStream_adds (repository : Repository) (cameraUuid profileUuid : String)
    (custom : Bool) (fresh : String) :
    OnlyAdds StreamRow.streamUuid repository.streams
      (storeStream repository cameraUuid profileUuid custom fresh).1.streams fresh := by
  intro row member
  simp only [storeStream] at member
  split at member
  · obtain ⟨old, isOld, rfl⟩ := List.mem_map.mp member
    refine .inr ⟨old, isOld, ?_⟩
    split <;> rfl
  · rcases List.mem_append.mp member with isOld | isNew
    · exact .inr ⟨row, isOld, rfl⟩
    · obtain rfl := List.mem_singleton.mp isNew
      exact .inl rfl

/-- What storing one profile does to the tables. -/
structure ProfileStored (before after : Repository) (cameraUuid : String) (custom : Bool)
    (token streamUuid freshProfile freshStream : String) : Prop where
  schema : Schema after
  same : SameBesidesProfiles before after
  others : ∀ other, cameraUuid ≠ other → SameCamera before after other
  upserted : Upserted before after cameraUuid custom (· = freshStream) [token]
  stream : (streamAt after cameraUuid token).map (·.streamUuid) = some streamUuid
  profiles : OnlyAdds ProfileRow.profileUuid before.profiles after.profiles freshProfile
  streams : OnlyAdds StreamRow.streamUuid before.streams after.streams freshStream

theorem upsertProfile_stored {repository : Repository} (schema : Schema repository)
    {cameraUuid : String} (listed : ∃ camera ∈ repository.cameras, camera.cameraUuid = cameraUuid)
    (profile : ProfileInput) (source : SourceParts) (custom : Bool)
    {freshProfile freshStream : String}
    (unusedProfile : ∀ row ∈ repository.profiles, row.profileUuid ≠ freshProfile)
    (unusedStream : ∀ row ∈ repository.streams, row.streamUuid ≠ freshStream) :
    ProfileStored repository
      (upsertProfile repository cameraUuid profile source custom freshProfile freshStream).1
      cameraUuid custom profile.token
      (upsertProfile repository cameraUuid profile source custom freshProfile freshStream).2
      freshProfile freshStream := by
  obtain ⟨profileSame, sameStreams⟩ :=
    storeProfile_same repository cameraUuid profile source freshProfile
  obtain ⟨found, sameAt⟩ := storeProfile_at schema cameraUuid profile source unusedProfile
  have adds := storeProfile_adds repository cameraUuid profile source freshProfile
  have storedSchema := schema.storeProfile listed profile source unusedProfile
  rw [upsertProfile]
  generalize storeProfile repository cameraUuid profile source freshProfile = stored at *
  obtain ⟨middle, profileUuid⟩ := stored
  simp only at *
  have owned : ∃ row ∈ middle.profiles, row.profileUuid = profileUuid ∧
      row.cameraUuid = cameraUuid := by
    obtain ⟨row, isRow, same⟩ := Option.map_eq_some_iff.mp found
    obtain ⟨member, key⟩ := rowAt_some isRow
    exact ⟨row, member, same, congrArg Prod.fst key⟩
  obtain ⟨streamSame, sameProfiles⟩ :=
    storeStream_same middle cameraUuid profileUuid custom freshStream
  obtain ⟨upserted, streamUuid⟩ := storeStream_at storedSchema found custom freshStream
  refine ⟨storedSchema.storeStream owned custom (by rwa [sameStreams]),
    profileSame.trans streamSame, ?_, ?_, streamUuid, ?_, ?_⟩
  · intro other differs
    exact (profileSame.sameCamera (by rw [sameStreams])).trans
      (sameCamera_storeStream storedSchema owned custom freshStream differs)
  · constructor
    · intro owner token outside
      rw [upserted.others owner token outside, sameAt]
    · intro token member
      simpa only [sameAt] using upserted.stored token member
  · rw [sameProfiles]
    exact adds
  · rw [← sameStreams]
    exact storeStream_adds middle cameraUuid profileUuid custom freshStream

end CamAdmiral
