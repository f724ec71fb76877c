import CamAdmiral.StorageAdoption

/-!
What each operation of the camera repository does, stated once: the effect of an adoption on
the streams, bindings and the rows of other cameras, and the constraints after every
operation.
-/

namespace CamAdmiral

/-- The values of `uuid.uuid4()` in one operation: none repeats and no row has one of them. -/
structure UnusedUuids (repository : Repository) (uuids : Nat → String) : Prop where
  distinct : Function.Injective uuids
  cameras : ∀ position, ∀ row ∈ repository.cameras, row.cameraUuid ≠ uuids position
  profiles : ∀ position, ∀ row ∈ repository.profiles, row.profileUuid ≠ uuids position
  streams : ∀ position, ∀ row ∈ repository.streams, row.streamUuid ≠ uuids position
  incidents : ∀ position, ∀ row ∈ repository.incidents, row.incidentUuid ≠ uuids position

/-! The loop over the profiles. -/

/-- The values from `position` on are not in use. -/
structure UnusedFrom (repository : Repository) (uuids : Nat → String) (position : Nat) : Prop where
  profiles : ∀ later, position ≤ later → ∀ row ∈ repository.profiles,
    row.profileUuid ≠ uuids later
  streams : ∀ later, position ≤ later → ∀ row ∈ repository.streams, row.streamUuid ≠ uuids later

/-- What storing a list of profiles does to the tables. -/
structure ProfilesStored (before after : Repository) (cameraUuid : String) (custom : Bool)
    (tokens : List String) (uuids : Nat → String) : Prop where
  schema : Schema after
  same : SameBesidesProfiles before after
  others : ∀ other, cameraUuid ≠ other → SameCamera before after other
  upserted : Upserted before after cameraUuid custom
    (fun streamUuid => ∃ position, streamUuid = uuids position) tokens

/-- The recorded streams are those of the camera's tokens. -/
def NamesStreams (repository : Repository) (cameraUuid : String)
    (streamsByToken : List (String × String)) : Prop :=
  ∀ token streamUuid, streamsByToken.lookup token = some streamUuid →
    (streamAt repository cameraUuid token).map (·.streamUuid) = some streamUuid

theorem ProfileStored.unusedFrom {before after : Repository}
    {cameraUuid token streamUuid : String} {custom : Bool} {uuids : Nat → String}
    {position : Nat} (distinct : Function.Injective uuids)
    (unused : UnusedFrom before uuids position)
    (stored : ProfileStored before after cameraUuid custom token streamUuid (uuids position)
      (uuids (position + 1))) : UnusedFrom after uuids (position + 2) := by
  constructor
  · intro later bound row member same
    rcases stored.profiles row member with isNew | ⟨old, isOld, sameOld⟩
    · have := distinct (isNew.symm.trans same)
      omega
    · exact unused.profiles later (by omega) old isOld (sameOld.trans same)
  · intro later bound row member same
    rcases stored.streams row member with isNew | ⟨old, isOld, sameOld⟩
    · have := distinct (isNew.symm.trans same)
      omega
    · exact unused.streams later (by omega) old isOld (sameOld.trans same)

theorem ProfileStored.namesStreams {before after : Repository}
    {cameraUuid token streamUuid freshProfile freshStream : String} {custom : Bool}
    {streamsByToken : List (String × String)}
    (stored : ProfileStored before after cameraUuid custom token streamUuid freshProfile
      freshStream) (names : NamesStreams before cameraUuid streamsByToken) :
    NamesStreams after cameraUuid ((token, streamUuid) :: streamsByToken) := by
  intro wanted found isFound
  rw [List.lookup_cons] at isFound
  by_cases isToken : wanted = token
  · subst isToken
    obtain rfl : streamUuid = found := by simpa using isFound
    exact stored.stream
  · have isOld : streamsByToken.lookup wanted = some found := by
      simpa [beq_eq_false_iff_ne.mpr isToken] using isFound
    rw [stored.upserted.others cameraUuid wanted (by simp [isToken])]
    exact names wanted found isOld

variable [TextCase] [UrlText]

omit [TextCase] in
theorem upsertProfiles_stored {cameraUuid : String} {custom : Bool} {uuids : Nat → String}
    {profiles : List ProfileInput} {repository after : Repository}
    {streamsByToken result : List (String × String)} {position : Nat}
    (distinct : Function.Injective uuids) (schema : Schema repository)
    (listed : ∃ camera ∈ repository.cameras, camera.cameraUuid = cameraUuid)
    (unused : UnusedFrom repository uuids position)
    (names : NamesStreams repository cameraUuid streamsByToken)
    (done : upsertProfiles repository cameraUuid custom uuids streamsByToken profiles position =
      some (after, result)) :
    ProfilesStored repository after cameraUuid custom (profiles.map (·.token)) uuids ∧
      NamesStreams after cameraUuid result ∧
      ∀ token, (token ∈ profiles.map (·.token) ∨ (streamsByToken.lookup token).isSome) ↔
        (result.lookup token).isSome := by
  induction profiles generalizing repository streamsByToken position with
  | nil =>
      obtain ⟨rfl, rfl⟩ : repository = after ∧ streamsByToken = result := by
        simpa [upsertProfiles] using done
      exact ⟨⟨schema, ⟨rfl, rfl, rfl, rfl, rfl⟩, fun other _ => SameCamera.refl _ other,
        Upserted.refl _ _ _ _⟩, names, by simp⟩
  | cons profile rest ih =>
      simp only [upsertProfiles, Option.bind_eq_bind, Option.bind_eq_some_iff] at done
      obtain ⟨source, _, later⟩ := done
      have stored := upsertProfile_stored schema listed profile source custom
        (unused.profiles position (by omega)) (unused.streams (position + 1) (by omega))
      generalize upsertProfile repository cameraUuid profile source custom (uuids position)
        (uuids (position + 1)) = pair at stored later
      obtain ⟨next, streamUuid⟩ := pair
      simp only at stored later
      obtain ⟨laterStored, laterNames, covered⟩ := ih stored.schema
        (by rwa [stored.same.cameras]) (stored.unusedFrom distinct unused)
        (stored.namesStreams names) later
      refine ⟨⟨laterStored.schema, stored.same.trans laterStored.same, ?_, ?_⟩, laterNames, ?_⟩
      · intro other differs
        exact (stored.others other differs).trans (laterStored.others other differs)
      · exact (stored.upserted.mono fun _ same => ⟨_, same⟩).cons laterStored.upserted
      · intro token
        rw [← covered, List.map_cons, List.mem_cons, List.lookup_cons]
        by_cases isToken : token = profile.token
        · simp [isToken]
        · simp [isToken, beq_eq_false_iff_ne.mpr isToken]

/-! The loop over the roles. -/

/-- The stream a role of the camera is bound to. -/
def bindingAt (repository : Repository) (cameraUuid : String) (role : Role) : Option String :=
  (rowAt BindingRow.key repository.bindings (cameraUuid, role)).map (·.streamUuid)

omit [TextCase] [UrlText] in
theorem bindStored_tables (repository : Repository) (cameraUuid : String)
    (roles : Role → Option String) (streamsByToken : List (String × String)) (role : Role) :
    ∃ bindings, bindStored repository cameraUuid roles streamsByToken role =
      { repository with bindings := bindings } := by
  simp only [bindStored]
  split
  · exact ⟨_, rfl⟩
  · exact ⟨repository.bindings, rfl⟩

omit [TextCase] [UrlText] in
theorem bindRoles_tables (repository : Repository) (cameraUuid : String)
    (roles : Role → Option String) (streamsByToken : List (String × String)) :
    ∃ bindings, bindRoles repository cameraUuid roles streamsByToken =
      { repository with bindings := bindings } := by
  obtain ⟨recorded, recordTables⟩ :=
    bindStored_tables repository cameraUuid roles streamsByToken .record
  obtain ⟨detected, detectTables⟩ := bindStored_tables
    { repository with bindings := recorded } cameraUuid roles streamsByToken .detect
  exact ⟨detected, by rw [bindRoles, recordTables, detectTables]⟩

omit [TextCase] [UrlText] in
theorem NamesStreams.owned {repository : Repository} (schema : Schema repository)
    {cameraUuid token streamUuid : String} {streamsByToken : List (String × String)}
    (names : NamesStreams repository cameraUuid streamsByToken)
    (found : streamsByToken.lookup token = some streamUuid) :
    ∃ stream ∈ repository.streams, stream.streamUuid = streamUuid ∧
      stream.cameraUuid = cameraUuid := by
  obtain ⟨stream, isStream, same⟩ := Option.map_eq_some_iff.mp (names token streamUuid found)
  exact ⟨stream, (streamAt_some isStream).1, same, schema.streamAt_camera isStream⟩

omit [TextCase] [UrlText] in
theorem bindStored_spec {repository : Repository} (schema : Schema repository)
    {cameraUuid : String} (roles : Role → Option String)
    {streamsByToken : List (String × String)}
    (names : NamesStreams repository cameraUuid streamsByToken) (role : Role) :
    Schema (bindStored repository cameraUuid roles streamsByToken role) ∧
      (∀ other, cameraUuid ≠ other → SameCamera repository
        (bindStored repository cameraUuid roles streamsByToken role) other) ∧
      ∀ wanted, bindingAt (bindStored repository cameraUuid roles streamsByToken role)
          cameraUuid wanted =
        if role = wanted then
          ((roles role).bind fun token => streamsByToken.lookup token) <|>
            bindingAt repository cameraUuid wanted
        else
          bindingAt repository cameraUuid wanted := by
  simp only [bindStored]
  split
  · rename_i streamUuid found
    obtain ⟨token, _, isStream⟩ := Option.bind_eq_some_iff.mp found
    refine ⟨schema.bindRole (names.owned schema isStream), fun other differs =>
      sameCamera_bindRole differs, ?_⟩
    intro wanted
    rw [bindingAt, bindRole_at, found]
    by_cases same : role = wanted <;> simp [same, bindingAt]
  · rename_i absent
    refine ⟨schema, fun other _ => SameCamera.refl _ other, ?_⟩
    intro wanted
    split <;> simp [absent]

omit [TextCase] [UrlText] in
theorem bindRoles_spec {repository : Repository} (schema : Schema repository)
    {cameraUuid : String} (roles : Role → Option String)
    {streamsByToken : List (String × String)}
    (names : NamesStreams repository cameraUuid streamsByToken) :
    Schema (bindRoles repository cameraUuid roles streamsByToken) ∧
      (∀ other, cameraUuid ≠ other → SameCamera repository
        (bindRoles repository cameraUuid roles streamsByToken) other) ∧
      ∀ role, bindingAt (bindRoles repository cameraUuid roles streamsByToken) cameraUuid role =
        (((roles role).bind fun token => streamsByToken.lookup token) <|>
          bindingAt repository cameraUuid role) := by
  obtain ⟨recordSchema, recordOthers, recordAt⟩ := bindStored_spec schema roles names .record
  obtain ⟨bindings, tables⟩ :=
    bindStored_tables repository cameraUuid roles streamsByToken .record
  have recordNames : NamesStreams (bindStored repository cameraUuid roles streamsByToken .record)
      cameraUuid streamsByToken := by
    rw [tables]
    exact names
  obtain ⟨detectSchema, detectOthers, detectAt⟩ :=
    bindStored_spec recordSchema roles recordNames .detect
  refine ⟨detectSchema, fun other differs =>
    (recordOthers other differs).trans (detectOthers other differs), ?_⟩
  intro role
  rw [bindRoles, detectAt, recordAt]
  cases role <;> simp

/-! Adoption. -/

/-- What an adoption that commits has written before it records the camera's health. -/
structure Adopted (before after : Repository) (request : AdoptRequest) (cameraUuid : String)
    (custom : Bool) (uuids : Nat → String) : Prop where
  schema : Schema after
  others : ∀ other, cameraUuid ≠ other → SameCamera before after other
  events : after.healthEvents = before.healthEvents
  incidents : after.incidents = before.incidents
  cameras : ∀ candidateUuid, cameraOf after candidateUuid =
    if request.candidateUuid = candidateUuid then some cameraUuid
    else cameraOf before candidateUuid
  settings : ∃ camera, after.camera cameraUuid = some camera ∧
    camera.streamSettingsCustom = custom
  otherStreams : ∀ owner token, owner ≠ cameraUuid →
    streamAt after owner token = streamAt before owner token
  kept : ∀ token old new, streamAt before cameraUuid token = some old →
    streamAt after cameraUuid token = some new → SameStream old new
  added : ∀ token new, streamAt before cameraUuid token = none →
    streamAt after cameraUuid token = some new →
      new.enabled = !custom ∧ ∃ position, new.streamUuid = uuids position
  stored : ∀ token ∈ request.profiles.map (·.token),
    (streamAt after cameraUuid token).isSome
  bindings : ∀ role, bindingAt after cameraUuid role =
    ((adoptedRoles before cameraUuid custom request.roles role).bind
      fun token => if token ∈ request.profiles.map (·.token) then
        (streamAt after cameraUuid token).map (·.streamUuid) else none)
  selected : custom = true → ∀ role token, boundToken before cameraUuid role = some token →
    token ∈ request.profiles.map (·.token)

omit [TextCase] [UrlText] in
theorem schema_sameTables {before after : Repository} (schema : Schema before)
    (cameras : after.cameras = before.cameras) (profiles : after.profiles = before.profiles)
    (streams : after.streams = before.streams) (bindings : after.bindings = before.bindings)
    (events : after.healthEvents = before.healthEvents)
    (incidents : after.incidents = before.incidents) : Schema after := by
  cases before
  cases after
  simp only at *
  subst cameras profiles streams bindings events incidents
  exact { schema with }

/-- The statements of an adoption in order; all later facts about `adopt` come from here. -/
theorem adopt_statements {repository result : Repository} {request : AdoptRequest}
    {timestamp : Nat} {uuids : Nat → String}
    (done : adopt repository request timestamp uuids = .ok result) :
    ∃ (stored : Repository) (streamsByToken : List (String × String)),
      let cameraUuid := adoptedUuid repository request.candidateUuid (uuids 0)
      let custom := adoptedCustom repository request.candidateUuid
      let tokens := request.profiles.map (·.token)
      let named := nameCamera repository request uuids
      let roles := adoptedRoles named cameraUuid custom request.roles
      let pruned := pruneProfiles (deleteBindings named cameraUuid) cameraUuid tokens
      (custom = true → ∀ role token, roles role = some token → token ∈ tokens) ∧
        foreignKeysHold pruned = true ∧
        upsertProfiles pruned cameraUuid custom uuids [] request.profiles 3 =
          some (stored, streamsByToken) ∧
        result = recordCameraHealthTransition (bindRoles stored cameraUuid roles streamsByToken)
          cameraUuid timestamp (uuids 2) := by
  simp only [adopt, bind, Except.bind, pure, Except.pure, throw, throwThe,
    MonadExceptOf.throw] at done
  split at done
  · simp at done
  split at done
  · simp at done
  split at done
  · simp at done
  rename_i present
  split at done
  · simp at done
  rename_i referenced
  split at done
  · rename_i stored streamsByToken found
    refine ⟨stored, streamsByToken, ?_, by simpa using referenced, found,
      (Except.ok.inj done).symm⟩
    intro custom role token selected
    by_contra missing
    apply present
    rw [custom, Bool.true_and, List.any_eq_true]
    rw [custom] at selected
    exact ⟨role, by cases role <;> simp, by simpa [selected] using missing⟩
  · simp at done

omit [TextCase] [UrlText] in
theorem pruneProfiles_same (repository : Repository) (cameraUuid : String)
    (tokens : List String) :
    SameBesidesProfiles repository (pruneProfiles repository cameraUuid tokens) ∧
      (pruneProfiles repository cameraUuid tokens).profiles ⊆ repository.profiles ∧
      (pruneProfiles repository cameraUuid tokens).streams ⊆ repository.streams := by
  simp only [pruneProfiles]
  split
  · exact ⟨⟨rfl, rfl, rfl, rfl, rfl⟩, List.Subset.refl _, List.Subset.refl _⟩
  · exact ⟨⟨rfl, rfl, rfl, rfl, rfl⟩, List.filter_sublist.subset, List.filter_sublist.subset⟩

omit [TextCase] [UrlText] in
theorem bindingAt_deleteBindings (repository : Repository) (cameraUuid : String) (role : Role) :
    bindingAt (deleteBindings repository cameraUuid) cameraUuid role = none := by
  rw [bindingAt, Option.map_eq_none_iff]
  apply rowAt_none.mpr
  intro binding member same
  have kept := (List.mem_filter.mp member).2
  exact (of_decide_eq_true kept) (congrArg Prod.fst same)

/-- The camera row of an adoption. -/
structure Named (before named : Repository) (request : AdoptRequest) (cameraUuid : String)
    (custom : Bool) : Prop where
  schema : Schema named
  others : ∀ other, cameraUuid ≠ other → SameCamera before named other
  cameras : ∀ candidateUuid, cameraOf named candidateUuid =
    if request.candidateUuid = candidateUuid then some cameraUuid
    else cameraOf before candidateUuid
  settings : ∃ camera, named.camera cameraUuid = some camera ∧
    camera.streamSettingsCustom = custom

omit [TextCase] [UrlText] in
theorem nameCamera_named {repository : Repository} (schema : Schema repository)
    (request : AdoptRequest) {uuids : Nat → String} (unused : UnusedUuids repository uuids) :
    Named repository (nameCamera repository request uuids) request
      (adoptedUuid repository request.candidateUuid (uuids 0))
      (adoptedCustom repository request.candidateUuid) := by
  simp only [nameCamera]
  generalize hCredential : ((rowAt CameraRow.candidateUuid repository.cameras
    request.candidateUuid).map (·.credentialUuid)).getD (uuids 1) = credentialUuid
  have credentialed : Schema (upsertCredential repository
      ⟨credentialUuid, request.username, request.password⟩) :=
    schema_sameTables schema rfl rfl rfl rfl rfl rfl
  have names : NamesCandidate
      (upsertCredential repository ⟨credentialUuid, request.username, request.password⟩)
      { cameraUuid := adoptedUuid repository request.candidateUuid (uuids 0)
        candidateUuid := request.candidateUuid
        displayName := request.displayName
        credentialUuid := credentialUuid } := by
    simp only [NamesCandidate, upsertCredential, adoptedUuid, cameraOf]
    split
    · rename_i existing found
      simp [found]
    · rename_i absent
      simpa [absent] using unused.cameras 0
  refine ⟨credentialed.upsertCamera names, ?_, cameraOf_upsertCamera names, ?_⟩
  · intro other differs
    have sameRows : SameCamera repository (upsertCredential repository
        ⟨credentialUuid, request.username, request.password⟩) other := ⟨rfl, rfl, rfl, rfl, rfl⟩
    exact sameRows.trans (sameCamera_upsertCamera credentialed names differs)
  · obtain ⟨row, found, setting⟩ := camera_upsertCamera credentialed names
    refine ⟨row, found, ?_⟩
    simp only [adoptedCustom]
    simp only [upsertCredential] at setting
    cases present : rowAt CameraRow.candidateUuid repository.cameras request.candidateUuid with
    | some existing =>
        rw [present] at setting
        exact setting.2
    | none =>
        rw [present] at setting
        rw [setting]
        rfl

/-- The tables once the camera is named and what it no longer has is gone. -/
structure Prepared (before pruned : Repository) (request : AdoptRequest) (cameraUuid : String)
    (custom : Bool) : Prop where
  schema : Schema pruned
  others : ∀ other, cameraUuid ≠ other → SameCamera before pruned other
  events : pruned.healthEvents = before.healthEvents
  incidents : pruned.incidents = before.incidents
  cameras : ∀ candidateUuid, cameraOf pruned candidateUuid =
    if request.candidateUuid = candidateUuid then some cameraUuid
    else cameraOf before candidateUuid
  settings : ∃ camera, pruned.camera cameraUuid = some camera ∧
    camera.streamSettingsCustom = custom
  profiles : pruned.profiles ⊆ before.profiles
  streams : pruned.streams ⊆ before.streams
  unbound : ∀ role, bindingAt pruned cameraUuid role = none
  otherStreams : ∀ owner token, owner ≠ cameraUuid →
    streamAt pruned owner token = streamAt before owner token
  current : ∀ token ∈ request.profiles.map (·.token),
    streamAt pruned cameraUuid token = streamAt before cameraUuid token
  left : ∀ token stream, streamAt pruned cameraUuid token = some stream →
    streamAt before cameraUuid token = some stream

omit [TextCase] [UrlText] in
theorem prepared {repository : Repository} (schema : Schema repository)
    (request : AdoptRequest) {uuids : Nat → String} (unused : UnusedUuids repository uuids)
    (referenced : foreignKeysHold (pruneProfiles
      (deleteBindings (nameCamera repository request uuids)
        (adoptedUuid repository request.candidateUuid (uuids 0)))
      (adoptedUuid repository request.candidateUuid (uuids 0))
      (request.profiles.map (·.token))) = true) :
    Prepared repository
      (pruneProfiles
        (deleteBindings (nameCamera repository request uuids)
          (adoptedUuid repository request.candidateUuid (uuids 0)))
        (adoptedUuid repository request.candidateUuid (uuids 0))
        (request.profiles.map (·.token))) request
      (adoptedUuid repository request.candidateUuid (uuids 0))
      (adoptedCustom repository request.candidateUuid) := by
  have named := nameCamera_named schema request unused
  generalize adoptedUuid repository request.candidateUuid (uuids 0) = cameraUuid at *
  have deletedSchema := named.schema.deleteBindings cameraUuid
  obtain ⟨same, profiles, streams⟩ := pruneProfiles_same
    (deleteBindings (nameCamera repository request uuids) cameraUuid) cameraUuid
    (request.profiles.map (·.token))
  have at_ := streamAt_pruneProfiles deletedSchema cameraUuid (request.profiles.map (·.token))
  refine ⟨deletedSchema.pruneProfiles _ _ referenced, ?_, same.healthEvents, same.incidents, ?_,
    ?_, profiles, streams, ?_, ?_, ?_, ?_⟩
  · intro other differs
    exact ((named.others other differs).trans (sameCamera_deleteBindings differs)).trans
      (sameCamera_pruneProfiles deletedSchema _ differs)
  · intro candidateUuid
    rw [cameraOf, same.cameras]
    exact named.cameras candidateUuid
  · rw [Repository.camera, same.cameras]
    exact named.settings
  · intro role
    rw [bindingAt, same.bindings]
    exact bindingAt_deleteBindings (nameCamera repository request uuids) cameraUuid role
  · intro owner token differs
    exact (at_ owner token).1 fun pruned => differs pruned.1
  · intro token member
    exact (at_ cameraUuid token).1 fun pruned => pruned.2 member
  · intro token stream found
    exact (at_ cameraUuid token).2 stream found

theorem adopt_adopted {repository result : Repository} {request : AdoptRequest}
    {timestamp : Nat} {uuids : Nat → String} (schema : Schema repository)
    (unused : UnusedUuids repository uuids)
    (done : adopt repository request timestamp uuids = .ok result) :
    ∃ after, Adopted repository after request
        (adoptedUuid repository request.candidateUuid (uuids 0))
        (adoptedCustom repository request.candidateUuid) uuids ∧
      result = recordCameraHealthTransition after
        (adoptedUuid repository request.candidateUuid (uuids 0)) timestamp (uuids 2) := by
  obtain ⟨stored, streamsByToken, selected, referenced, loop, rfl⟩ := adopt_statements done
  have start := prepared schema request unused referenced
  have sameTokens : boundToken (nameCamera repository request uuids) = boundToken repository := rfl
  rw [adoptedRoles, sameTokens, ← adoptedRoles] at selected ⊢
  generalize adoptedUuid repository request.candidateUuid (uuids 0) = cameraUuid at *
  generalize adoptedCustom repository request.candidateUuid = custom at *
  generalize pruneProfiles (deleteBindings (nameCamera repository request uuids) cameraUuid)
    cameraUuid (request.profiles.map (·.token)) = pruned at *
  have listed : ∃ row ∈ pruned.cameras, row.cameraUuid = cameraUuid := by
    obtain ⟨camera, isCamera, _⟩ := start.settings
    exact ⟨camera, rowAt_some isCamera⟩
  have unusedFrom : UnusedFrom pruned uuids 3 :=
    ⟨fun later _ row member => unused.profiles later row (start.profiles member),
      fun later _ row member => unused.streams later row (start.streams member)⟩
  obtain ⟨profiles, names, covered⟩ := upsertProfiles_stored unused.distinct start.schema listed
    unusedFrom (fun token streamUuid found => by simp at found) loop
  obtain ⟨boundSchema, boundOthers, boundAt⟩ := bindRoles_spec profiles.schema
    (adoptedRoles repository cameraUuid custom request.roles) names
  refine ⟨_, ?_, rfl⟩
  obtain ⟨bindings, tables⟩ := bindRoles_tables stored cameraUuid
    (adoptedRoles repository cameraUuid custom request.roles) streamsByToken
  rw [tables] at boundSchema boundOthers boundAt ⊢
  have finalAt : ∀ owner token, streamAt { stored with bindings := bindings } owner token =
      streamAt stored owner token := fun _ _ => rfl
  have outside {token : String} (absent : token ∉ request.profiles.map (·.token)) :
      streamAt stored cameraUuid token = streamAt pruned cameraUuid token :=
    profiles.upserted.others cameraUuid token fun inside => absent inside.2
  refine
    { schema := boundSchema
      others := fun other differs => ((start.others other differs).trans
        (profiles.others other differs)).trans (boundOthers other differs)
      events := profiles.same.healthEvents.trans start.events
      incidents := profiles.same.incidents.trans start.incidents
      cameras := ?_
      settings := ?_
      otherStreams := ?_
      kept := ?_
      added := ?_
      stored := ?_
      bindings := ?_
      selected := ?_ }
  · intro candidateUuid
    rw [← start.cameras, cameraOf, cameraOf, profiles.same.cameras]
  · rw [Repository.camera, profiles.same.cameras]
    exact start.settings
  · intro owner token differs
    rw [finalAt, profiles.upserted.others owner token fun inside => differs inside.1,
      start.otherStreams owner token differs]
  · intro token old new isOld isNew
    rw [finalAt] at isNew
    by_cases member : token ∈ request.profiles.map (·.token)
    · obtain ⟨stream, found, same, _⟩ := profiles.upserted.stored token member
      rw [found, Option.some.injEq] at isNew
      exact isNew ▸ same old ((start.current token member).trans isOld)
    · rw [outside member] at isNew
      rw [start.left token new isNew, Option.some.injEq] at isOld
      exact isOld ▸ SameStream.refl new
  · intro token new isOld isNew
    rw [finalAt] at isNew
    by_cases member : token ∈ request.profiles.map (·.token)
    · obtain ⟨stream, found, _, added⟩ := profiles.upserted.stored token member
      rw [found, Option.some.injEq] at isNew
      exact isNew ▸ added ((start.current token member).trans isOld)
    · rw [outside member] at isNew
      rw [start.left token new isNew] at isOld
      exact absurd isOld (by simp)
  · intro token member
    obtain ⟨stream, found, _⟩ := profiles.upserted.stored token member
    rw [finalAt, found]
    rfl
  · intro role
    have unbound : bindingAt stored cameraUuid role = none := by
      rw [bindingAt, profiles.same.bindings]
      exact start.unbound role
    have nothingElse (found : Option String) : (found <|> none) = found := by
      cases found <;> rfl
    rw [boundAt, unbound, nothingElse]
    congr 1
    funext token
    by_cases member : token ∈ request.profiles.map (·.token)
    · obtain ⟨streamUuid, found⟩ := Option.isSome_iff_exists.mp
        ((covered token).mp (.inl member))
      rw [if_pos member, finalAt, found, names token streamUuid found]
    · rw [if_neg member, ← Option.not_isSome_iff_eq_none, ← covered]
      simpa using member
  · intro isCustom role token bound
    exact selected isCustom role token (by simpa [adoptedRoles, isCustom] using bound)

end CamAdmiral
