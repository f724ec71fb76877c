import CamAdmiral.StorageUrls

/-!
The operator's stream settings: which streams are enabled and which profile each role of a
camera is bound to, over every run of the repository.
-/

namespace CamAdmiral

/-! Reading the settings through the schema. -/

theorem rowAt_binding (bindings : List BindingRow) (cameraUuid : String) (role : Role) :
    rowAt BindingRow.key bindings (cameraUuid, role) =
      rowAt BindingRow.key (bindings.filter fun row => row.cameraUuid = cameraUuid)
        (cameraUuid, role) := by
  simp only [rowAt, List.find?_filter, BindingRow.key, Prod.mk.injEq]
  congr 1
  funext binding
  by_cases owned : binding.cameraUuid = cameraUuid <;> simp [owned]

theorem SameCamera.bindingAt {before after : Repository} {cameraUuid : String}
    (same : SameCamera before after cameraUuid) (role : Role) :
    bindingAt after cameraUuid role = bindingAt before cameraUuid role := by
  rw [CamAdmiral.bindingAt, rowAt_binding, same.bindings, ← rowAt_binding]
  rfl

theorem SameCamera.custom {before after : Repository} {cameraUuid : String}
    (same : SameCamera before after cameraUuid) :
    after.custom cameraUuid = before.custom cameraUuid := by
  rw [Repository.custom, same.camera]
  rfl

/-- The stream with a given uuid is found at one token. -/
theorem Schema.streamAt_eq {repository : Repository} (schema : Schema repository)
    {cameraUuid firstToken secondToken : String} {first second : StreamRow}
    (firstFound : streamAt repository cameraUuid firstToken = some first)
    (secondFound : streamAt repository cameraUuid secondToken = some second)
    (same : first.streamUuid = second.streamUuid) :
    firstToken = secondToken ∧ first = second := by
  obtain rfl := congrArg Prod.snd (schema.streamAt_injective firstFound secondFound same)
  rw [firstFound, Option.some.injEq] at secondFound
  exact ⟨rfl, secondFound⟩

theorem Schema.boundToken_iff {repository : Repository} (schema : Schema repository)
    {cameraUuid token : String} {role : Role} :
    boundToken repository cameraUuid role = some token ↔
      ∃ stream, streamAt repository cameraUuid token = some stream ∧
        bindingAt repository cameraUuid role = some stream.streamUuid := by
  simp only [boundToken, bindingAt, Option.bind_eq_bind, Option.bind_eq_some_iff, pure,
    Option.some.injEq, Option.map_eq_some_iff, Repository.stream]
  constructor
  · rintro ⟨binding, isBinding, stream, isStream, profile, isProfile, rfl⟩
    obtain ⟨bindingMember, key⟩ := rowAt_some isBinding
    obtain ⟨streamMember, sameUuid⟩ := rowAt_some isStream
    obtain ⟨profileMember, owns⟩ := rowAt_some isProfile
    obtain ⟨bound, isBound, boundUuid, boundCamera⟩ := schema.bindingStream binding bindingMember
    obtain rfl := schema.streamIds.eq isBound streamMember (boundUuid.trans sameUuid.symm)
    obtain ⟨owner, isOwner, ownerUuid, ownerCamera⟩ := schema.streamProfile bound isBound
    obtain rfl := schema.profileIds.eq isOwner profileMember (ownerUuid.trans owns.symm)
    have sameKey : owner.key = (cameraUuid, owner.profileToken) := by
      have sameCamera : binding.cameraUuid = cameraUuid := congrArg Prod.fst key
      rw [ProfileRow.key, ownerCamera, boundCamera, sameCamera]
    refine ⟨bound, ?_, binding, isBinding, sameUuid.symm⟩
    rw [streamAt, ← sameKey, schema.profileKeys.rowAt_eq isOwner, Option.bind_some, owns,
      schema.streamProfiles.rowAt_eq isBound]
  · rintro ⟨stream, found, binding, isBinding, same⟩
    obtain ⟨streamMember, profile, profileMember, key, owns⟩ := streamAt_some found
    refine ⟨binding, isBinding, stream, ?_, profile, ?_, congrArg Prod.snd key⟩
    · rw [same, schema.streamIds.rowAt_eq streamMember]
    · rw [← owns, schema.profileIds.rowAt_eq profileMember]

theorem SameSettings.bindingAt {before after : Repository} (same : SameSettings before after)
    (cameraUuid : String) (role : Role) :
    bindingAt after cameraUuid role = bindingAt before cameraUuid role := by
  rw [CamAdmiral.bindingAt, same.bindings]
  rfl

theorem SameSettings.symm {before after : Repository} (same : SameSettings before after) :
    SameSettings after before :=
  ⟨fun candidateUuid => (same.cameras candidateUuid).symm,
    fun cameraUuid => (same.custom cameraUuid).symm,
    fun cameraUuid token => (same.streams cameraUuid token).symm, same.bindings.symm⟩

/-! The invariant. -/

/-- Bound streams are enabled, a camera without settings of its own has every stream enabled
and one with settings has both roles bound. -/
structure Settings (repository : Repository) : Prop where
  bound : ∀ cameraUuid role streamUuid, bindingAt repository cameraUuid role = some streamUuid →
    ∃ token stream, streamAt repository cameraUuid token = some stream ∧
      stream.streamUuid = streamUuid ∧ stream.enabled = true
  untouched : ∀ cameraUuid, repository.custom cameraUuid = some false → ∀ token stream,
    streamAt repository cameraUuid token = some stream → stream.enabled = true
  chosen : ∀ cameraUuid, repository.custom cameraUuid = some true → ∀ role,
    (bindingAt repository cameraUuid role).isSome = true

theorem settings_empty : Settings {} := by
  constructor <;> simp [bindingAt, streamAt, rowAt, Repository.custom, Repository.camera]

theorem Settings.same {before after : Repository} (settings : Settings before)
    (same : SameSettings before after) : Settings after := by
  constructor
  · intro cameraUuid role streamUuid isBound
    rw [same.bindingAt] at isBound
    obtain ⟨token, stream, found, sameUuid, enabled⟩ := settings.bound _ _ _ isBound
    obtain ⟨next, nextFound, sameStream⟩ := same.symm.stream found
    exact ⟨token, next, nextFound, sameStream.streamUuid.symm.trans sameUuid,
      sameStream.enabled.symm.trans enabled⟩
  · intro cameraUuid isDefault token stream found
    obtain ⟨old, isOld, sameStream⟩ := same.stream found
    rw [same.custom] at isDefault
    exact sameStream.enabled.trans (settings.untouched cameraUuid isDefault token old isOld)
  · intro cameraUuid isCustom role
    rw [same.custom] at isCustom
    rw [same.bindingAt]
    exact settings.chosen cameraUuid isCustom role

/-- The bound token of a camera has an enabled stream. -/
theorem Settings.boundStream {repository : Repository} (settings : Settings repository)
    (schema : Schema repository) {cameraUuid token : String} {role : Role}
    (isBound : boundToken repository cameraUuid role = some token) :
    ∃ stream, streamAt repository cameraUuid token = some stream ∧ stream.enabled = true ∧
      bindingAt repository cameraUuid role = some stream.streamUuid := by
  obtain ⟨stream, found, binding⟩ := schema.boundToken_iff.mp isBound
  obtain ⟨other, next, nextFound, same, enabled⟩ := settings.bound _ _ _ binding
  obtain ⟨_, rfl⟩ := schema.streamAt_eq nextFound found same
  exact ⟨next, found, enabled, binding⟩

theorem Settings.boundToken_isSome {repository : Repository} (settings : Settings repository)
    (schema : Schema repository) {cameraUuid : String}
    (isCustom : repository.custom cameraUuid = some true) (role : Role) :
    (boundToken repository cameraUuid role).isSome = true := by
  obtain ⟨streamUuid, binding⟩ :=
    Option.isSome_iff_exists.mp (settings.chosen cameraUuid isCustom role)
  obtain ⟨token, stream, found, rfl, _⟩ := settings.bound _ _ _ binding
  exact Option.isSome_iff_exists.mpr ⟨token, schema.boundToken_iff.mpr ⟨stream, found, binding⟩⟩

/-! Adoption. -/

/-- The settings of the adopted camera before its adoption: none if it is new. -/
theorem adopted_custom {repository : Repository} (schema : Schema repository)
    (candidateUuid : String) {fresh : String}
    (unused : ∀ row ∈ repository.cameras, row.cameraUuid ≠ fresh) :
    repository.custom (adoptedUuid repository candidateUuid fresh) =
        some (adoptedCustom repository candidateUuid) ∨
      (repository.custom (adoptedUuid repository candidateUuid fresh) = none ∧
        adoptedCustom repository candidateUuid = false ∧
        ∀ token,
          streamAt repository (adoptedUuid repository candidateUuid fresh) token = none) := by
  simp only [adoptedUuid, adoptedCustom, cameraOf]
  cases found : rowAt CameraRow.candidateUuid repository.cameras candidateUuid with
  | some camera =>
      left
      simp only [Option.map_some, Option.getD_some, Repository.custom, Repository.camera]
      rw [schema.cameraIds.rowAt_eq (rowAt_some found).1, Option.map_some]
  | none =>
      right
      simp only [Option.map_none, Option.getD_none]
      have unknown : repository.camera fresh = none := rowAt_none.mpr unused
      refine ⟨by rw [Repository.custom, unknown, Option.map_none], trivial, fun token => ?_⟩
      cases at_ : streamAt repository fresh token with
      | none => rfl
      | some stream =>
          obtain ⟨_, profile, isProfile, key, _⟩ := streamAt_some at_
          obtain ⟨camera, isCamera, same⟩ := schema.profileCamera profile isProfile
          exact absurd (same.trans (congrArg Prod.fst key)) (unused camera isCamera)

theorem Adopted.bound {before after : Repository} {request : AdoptRequest}
    {cameraUuid : String} {custom : Bool} {uuids : Nat → String}
    (adopted : Adopted before after request cameraUuid custom uuids) {role : Role}
    {streamUuid : String} (binding : bindingAt after cameraUuid role = some streamUuid) :
    ∃ token stream, adoptedRoles before cameraUuid custom request.roles role = some token ∧
      streamAt after cameraUuid token = some stream ∧ stream.streamUuid = streamUuid := by
  rw [adopted.bindings] at binding
  obtain ⟨token, isToken, isStream⟩ := Option.bind_eq_some_iff.mp binding
  split at isStream
  · obtain ⟨stream, found, same⟩ := Option.map_eq_some_iff.mp isStream
    exact ⟨token, stream, isToken, found, same⟩
  · cases isStream

/-- The bound tokens of a camera with settings of its own survive its adoption. -/
theorem Adopted.boundToken {before after : Repository} {request : AdoptRequest}
    {cameraUuid : String} {uuids : Nat → String}
    (adopted : Adopted before after request cameraUuid true uuids) {role : Role}
    {token : String} (isBound : boundToken before cameraUuid role = some token) :
    boundToken after cameraUuid role = some token := by
  have listed := adopted.selected rfl role token isBound
  obtain ⟨stream, found⟩ := Option.isSome_iff_exists.mp (adopted.stored token listed)
  refine adopted.schema.boundToken_iff.mpr ⟨stream, found, ?_⟩
  rw [adopted.bindings, adoptedRoles, if_pos rfl, isBound, Option.bind_some, if_pos listed, found,
    Option.map_some]

theorem Adopted.settingsKept {before after : Repository} {request : AdoptRequest}
    {candidateUuid : String} {uuids : Nat → String} (schema : Schema before)
    (settings : Settings before) (unused : UnusedUuids before uuids)
    (adopted : Adopted before after request (adoptedUuid before candidateUuid (uuids 0))
      (adoptedCustom before candidateUuid) uuids) : Settings after := by
  have known := adopted_custom schema candidateUuid (unused.cameras 0)
  generalize adoptedUuid before candidateUuid (uuids 0) = cameraUuid at *
  generalize adoptedCustom before candidateUuid = custom at *
  -- Without settings of the operator the streams were enabled before and new ones are too.
  have enabledByDefault (isDefault : custom = false) {token : String} {stream : StreamRow}
      (found : streamAt after cameraUuid token = some stream) : stream.enabled = true := by
    subst isDefault
    cases earlier : streamAt before cameraUuid token with
    | none => exact (adopted.added token stream earlier found).1
    | some old =>
        rw [(adopted.kept token old stream earlier found).enabled]
        rcases known with isKnown | ⟨_, _, isNew⟩
        · exact settings.untouched cameraUuid isKnown token old earlier
        · rw [isNew] at earlier
          cases earlier
  have stayed (isCustom : custom = true) : before.custom cameraUuid = some true := by
    subst isCustom
    rcases known with isKnown | ⟨_, isDefault, _⟩
    · exact isKnown
    · cases isDefault
  constructor
  · intro owner role streamUuid binding
    by_cases isOwner : owner = cameraUuid
    · subst isOwner
      obtain ⟨token, stream, isRole, found, same⟩ := adopted.bound binding
      refine ⟨token, stream, found, same, ?_⟩
      cases isCustom : custom with
      | false => exact enabledByDefault isCustom found
      | true =>
          rw [adoptedRoles, if_pos isCustom] at isRole
          obtain ⟨old, isOld, enabled, _⟩ := settings.boundStream schema isRole
          exact (adopted.kept token old stream isOld found).enabled.trans enabled
    · rw [(adopted.others owner (Ne.symm isOwner)).bindingAt] at binding
      obtain ⟨token, stream, found, same⟩ := settings.bound _ _ _ binding
      exact ⟨token, stream, (adopted.otherStreams owner token isOwner).trans found, same⟩
  · intro owner isDefault token stream found
    by_cases isOwner : owner = cameraUuid
    · subst isOwner
      obtain ⟨camera, isCamera, setting⟩ := adopted.settings
      rw [Repository.custom, isCamera, Option.map_some, setting, Option.some.injEq] at isDefault
      exact enabledByDefault isDefault found
    · rw [(adopted.others owner (Ne.symm isOwner)).custom] at isDefault
      rw [adopted.otherStreams owner token isOwner] at found
      exact settings.untouched owner isDefault token stream found
  · intro owner isCustom role
    by_cases isOwner : owner = cameraUuid
    · subst isOwner
      obtain ⟨camera, isCamera, setting⟩ := adopted.settings
      rw [Repository.custom, isCamera, Option.map_some, setting, Option.some.injEq] at isCustom
      obtain ⟨token, isBound⟩ := Option.isSome_iff_exists.mp
        (settings.boundToken_isSome schema (stayed isCustom) role)
      subst isCustom
      obtain ⟨stream, _, binding⟩ := adopted.schema.boundToken_iff.mp (adopted.boundToken isBound)
      rw [binding]
      rfl
    · rw [(adopted.others owner (Ne.symm isOwner)).custom] at isCustom
      rw [(adopted.others owner (Ne.symm isOwner)).bindingAt]
      exact settings.chosen owner isCustom role

/-! The operator's choice. -/

theorem Chosen.settingsKept {before after : Repository} {cameraUuid : String}
    {enabled : List String} {chosen : Role → String} (schema : Schema before)
    (settings : Settings before) (isChosen : Chosen before after cameraUuid enabled chosen) :
    Settings after := by
  have others {owner token : String} {stream : StreamRow} (differs : owner ≠ cameraUuid)
      (found : streamAt before owner token = some stream) :
      streamAt after owner token = some stream := by
    have sameCamera := schema.streamAt_camera found
    rw [isChosen.streams, found, Option.map_some, if_neg (sameCamera ▸ differs)]
  constructor
  · intro owner role streamUuid binding
    rw [isChosen.bindings] at binding
    by_cases isOwner : owner = cameraUuid
    · subst isOwner
      rw [if_pos rfl, Option.some.injEq] at binding
      subst binding
      obtain ⟨member, token, stream, found, same⟩ := isChosen.selected role
      refine ⟨token, { stream with enabled := decide (stream.streamUuid ∈ enabled) }, ?_, same,
        by simpa [same] using member⟩
      rw [isChosen.streams, found, Option.map_some, if_pos (schema.streamAt_camera found)]
    · rw [if_neg isOwner] at binding
      obtain ⟨token, stream, found, same⟩ := settings.bound _ _ _ binding
      exact ⟨token, stream, others isOwner found, same⟩
  · intro owner isDefault token stream found
    rw [isChosen.custom] at isDefault
    split at isDefault
    · cases isDefault
    · rename_i differs
      rw [isChosen.streams] at found
      obtain ⟨old, isOld, rfl⟩ := Option.map_eq_some_iff.mp found
      rw [if_neg (schema.streamAt_camera isOld ▸ differs)]
      exact settings.untouched owner isDefault token old isOld
  · intro owner isCustom role
    rw [isChosen.custom] at isCustom
    rw [isChosen.bindings]
    split at isCustom
    · rw [if_pos ‹_›]
      rfl
    · rw [if_neg ‹_›]
      exact settings.chosen owner isCustom role

theorem Removed.settingsKept {before after : Repository} {cameraUuid : String}
    (settings : Settings before) (removed : Removed before after cameraUuid) :
    Settings after := by
  constructor
  · intro owner role streamUuid binding
    rw [removed.bindings] at binding
    split at binding
    · cases binding
    · rename_i differs
      obtain ⟨token, stream, found, same⟩ := settings.bound _ _ _ binding
      exact ⟨token, stream, by rw [removed.streams, if_neg differs, found], same⟩
  · intro owner isDefault token stream found
    rw [removed.streams] at found
    split at found
    · cases found
    · rename_i differs
      rw [(removed.others owner differs).custom] at isDefault
      exact settings.untouched owner isDefault token stream found
  · intro owner isCustom role
    rw [removed.bindings]
    split
    · rename_i isOwner
      rw [isOwner, Repository.custom, removed.camera] at isCustom
      cases isCustom
    · rename_i differs
      rw [(removed.others owner differs).custom] at isCustom
      exact settings.chosen owner isCustom role

theorem Effect.settings {before after : Repository} {call : RepositoryCall}
    (effect : Effect before call after) (schema : Schema before) (settings : Settings before)
    (unused : UnusedUuids before call.uuids) : Settings after := by
  cases effect with
  | quiet recorded same => exact settings.same (same.trans recorded.sameSettings)
  | adopted _ recorded adopted =>
      exact (adopted.settingsKept schema settings unused).same recorded.sameSettings
  | chosen _ recorded isChosen =>
      exact (isChosen.settingsKept schema settings).same recorded.sameSettings
  | removed _ removed => exact removed.settingsKept settings

/-- Settings that the operator chose stay chosen while the camera stays adopted. -/
theorem Effect.customKept {before after : Repository} {call : RepositoryCall}
    (effect : Effect before call after) (schema : Schema before)
    (unused : UnusedUuids before call.uuids) {cameraUuid : String}
    (isCustom : before.custom cameraUuid = some true)
    (adopted : call.action ≠ .unadoptCamera cameraUuid) :
    after.custom cameraUuid = some true := by
  cases effect with
  | quiet recorded same => rw [(same.trans recorded.sameSettings).custom, isCustom]
  | @adopted changed request _ recorded adopted =>
      rw [recorded.sameSettings.custom]
      by_cases isOwner : adoptedUuid before request.candidateUuid (call.uuids 0) = cameraUuid
      · obtain ⟨camera, isCamera, setting⟩ := adopted.settings
        rw [← isOwner, Repository.custom, isCamera, Option.map_some, setting]
        rcases adopted_custom schema request.candidateUuid
          (unused.cameras 0) with known | ⟨isNew, _⟩
        · rw [← known, isOwner, isCustom]
        · rw [isOwner, isCustom] at isNew
          cases isNew
      · rw [(adopted.others cameraUuid isOwner).custom, isCustom]
  | chosen _ recorded isChosen =>
      rw [recorded.sameSettings.custom, isChosen.custom, isCustom]
      split <;> rfl
  | @removed deleted isUnadopt removed =>
      have differs : cameraUuid ≠ deleted := by
        rintro rfl
        exact adopted isUnadopt
      rw [(removed.others cameraUuid differs).custom, isCustom]

/-! Re-adoption of a camera with settings of its own. -/

/-- What a call leaves of the operator's choices for a camera. -/
structure KeepsChoice (before after : Repository) (cameraUuid : String) : Prop where
  roles : ∀ role, boundToken after cameraUuid role = boundToken before cameraUuid role
  enabled : ∀ token old new, streamAt before cameraUuid token = some old →
    streamAt after cameraUuid token = some new → new.enabled = old.enabled
  added : ∀ token new, streamAt before cameraUuid token = none →
    streamAt after cameraUuid token = some new → new.enabled = false

theorem SameSettings.boundToken {before after : Repository} (same : SameSettings before after)
    (schemaBefore : Schema before) (schemaAfter : Schema after) (cameraUuid : String)
    (role : Role) : boundToken after cameraUuid role = boundToken before cameraUuid role := by
  apply Option.ext
  intro token
  rw [schemaAfter.boundToken_iff, schemaBefore.boundToken_iff]
  constructor
  · rintro ⟨stream, found, binding⟩
    obtain ⟨old, isOld, sameStream⟩ := same.stream found
    exact ⟨old, isOld, by rw [← same.bindingAt, binding, sameStream.streamUuid]⟩
  · rintro ⟨stream, found, binding⟩
    obtain ⟨next, isNext, sameStream⟩ := same.symm.stream found
    exact ⟨next, isNext, by rw [same.bindingAt, binding, sameStream.streamUuid]⟩

theorem SameSettings.keepsChoice {before after : Repository} (same : SameSettings before after)
    (schemaBefore : Schema before) (schemaAfter : Schema after) (cameraUuid : String) :
    KeepsChoice before after cameraUuid := by
  refine ⟨same.boundToken schemaBefore schemaAfter cameraUuid, ?_, ?_⟩
  · intro token old new isOld isNew
    obtain ⟨original, isOriginal, sameStream⟩ := same.stream isNew
    rw [isOld, Option.some.injEq] at isOriginal
    rw [isOriginal]
    exact sameStream.enabled
  · intro token new absent isNew
    obtain ⟨original, isOriginal, _⟩ := same.stream isNew
    rw [absent] at isOriginal
    cases isOriginal

theorem KeepsChoice.then_same {before middle after : Repository} {cameraUuid : String}
    (keeps : KeepsChoice before middle cameraUuid) (same : SameSettings middle after)
    (schemaMiddle : Schema middle) (schemaAfter : Schema after) :
    KeepsChoice before after cameraUuid := by
  refine ⟨fun role => ?_, ?_, ?_⟩
  · rw [same.boundToken schemaMiddle schemaAfter, keeps.roles]
  · intro token old new isOld isNew
    obtain ⟨changed, isChanged, sameStream⟩ := same.stream isNew
    rw [sameStream.enabled, keeps.enabled token old changed isOld isChanged]
  · intro token new absent isNew
    obtain ⟨changed, isChanged, sameStream⟩ := same.stream isNew
    rw [sameStream.enabled, keeps.added token changed absent isChanged]

theorem Adopted.keepsChoice {before after : Repository} {request : AdoptRequest}
    {cameraUuid : String} {uuids : Nat → String} (schema : Schema before)
    (settings : Settings before) (isCustom : before.custom cameraUuid = some true)
    (adopted : Adopted before after request cameraUuid true uuids) :
    KeepsChoice before after cameraUuid := by
  refine ⟨?_, ?_, ?_⟩
  · intro role
    obtain ⟨token, isBound⟩ :=
      Option.isSome_iff_exists.mp (settings.boundToken_isSome schema isCustom role)
    rw [isBound, adopted.boundToken isBound]
  · intro token old new isOld isNew
    exact (adopted.kept token old new isOld isNew).enabled
  · intro token new absent isNew
    exact (adopted.added token new absent isNew).1

theorem adoptedCustom_known {repository : Repository} (schema : Schema repository)
    (fresh : String) {candidateUuid cameraUuid : String}
    (known : cameraOf repository candidateUuid = some cameraUuid) :
    adoptedUuid repository candidateUuid fresh = cameraUuid ∧
      repository.custom cameraUuid = some (adoptedCustom repository candidateUuid) := by
  refine ⟨by rw [adoptedUuid, known, Option.getD_some], ?_⟩
  obtain ⟨camera, found, rfl⟩ := Option.map_eq_some_iff.mp known
  rw [Repository.custom, Repository.camera, schema.cameraIds.rowAt_eq (rowAt_some found).1,
    adoptedCustom, found]
  rfl

theorem Effect.keepsChoice {before after : Repository} {call : RepositoryCall}
    (effect : Effect before call after) (schema : Schema before) (settings : Settings before)
    (unused : UnusedUuids before call.uuids) {request : AdoptRequest} {cameraUuid : String}
    (isAdopt : call.action = .adopt request)
    (known : cameraOf before request.candidateUuid = some cameraUuid)
    (isCustom : before.custom cameraUuid = some true) :
    KeepsChoice before after cameraUuid := by
  have schemaAfter := effect.schema unused
  cases effect with
  | quiet recorded same =>
      exact (same.trans recorded.sameSettings).keepsChoice schema schemaAfter cameraUuid
  | @adopted changed again isAgain recorded adopted =>
      obtain rfl : request = again := by simpa [isAdopt] using isAgain
      obtain ⟨isCamera, setting⟩ := adoptedCustom_known schema (call.uuids 0) known
      rw [isCustom, Option.some.injEq] at setting
      rw [isCamera, ← setting] at adopted
      exact (adopted.keepsChoice schema settings isCustom).then_same recorded.sameSettings
        adopted.schema schemaAfter
  | chosen isSetting _ _ =>
      rw [isAdopt] at isSetting
      cases isSetting
  | removed isUnadopt _ =>
      rw [isAdopt] at isUnadopt
      cases isUnadopt

/-! Runs. -/

section
variable [TextCase] [UrlText]

/-- An adoption that would lose a bound profile raises. -/
theorem adopt_lost {repository : Repository} {request : AdoptRequest} (timestamp : Nat)
    {uuids : Nat → String} (schema : Schema repository)
    (unused : UnusedUuids repository uuids) {cameraUuid token : String} {role : Role}
    (known : cameraOf repository request.candidateUuid = some cameraUuid)
    (isCustom : repository.custom cameraUuid = some true)
    (isBound : boundToken repository cameraUuid role = some token)
    (lost : token ∉ request.profiles.map (·.token)) :
    ∃ error, adopt repository request timestamp uuids = .error error := by
  cases done : adopt repository request timestamp uuids with
  | error error => exact ⟨error, rfl⟩
  | ok result =>
      obtain ⟨after, adopted, _⟩ := adopt_adopted schema unused done
      obtain ⟨isCamera, setting⟩ := adoptedCustom_known schema (uuids 0) known
      rw [isCustom, Option.some.injEq] at setting
      rw [isCamera] at adopted
      exact absurd (adopted.selected setting.symm role token isBound) lost

theorem settings_call {history : StorageHistory} {call : RepositoryCall}
    (kept : Schema history.repository ∧ Settings history.repository)
    (fresh : FreshCall history call) :
    Schema (history.call call).repository ∧ Settings (history.call call).repository :=
  ⟨schema_call kept.1 fresh,
    (commit_effect kept.1 fresh).settings kept.1 kept.2 fresh.unused⟩

theorem storageRun_settings {history : StorageHistory} (run : StorageRun FreshCall {} history) :
    Schema history.repository ∧ Settings history.repository := by
  apply run.invariant fun history => Schema history.repository ∧ Settings history.repository
  · exact ⟨schema_empty, settings_empty⟩
  · rintro history call _ kept fresh rfl
    exact settings_call kept fresh

theorem chosen_custom {history : StorageHistory} {call : RepositoryCall} {next : Repository}
    (schema : Schema history.repository) {cameraUuid : String} {enabled : List String}
    {roles : Role → Option String}
    (isSetting : call.action = .setStreamSettings cameraUuid enabled roles)
    (done : perform history.repository call = .ok next) :
    (history.call call).repository.custom cameraUuid = some true := by
  have isNext : (history.call call).repository = next := by
    simp only [StorageHistory.call, commit, done]
  simp only [perform, isSetting] at done
  obtain ⟨changed, chosen, _, isChosen, rfl⟩ := setStreamSettings_effect schema done
  rw [isNext, (sameSettings_transition changed cameraUuid _ _).custom, isChosen.custom,
    if_pos rfl]

/-- In every run a binding points to an enabled stream of its camera. Once the operator has
chosen the settings of a camera both roles stay bound, a re-adoption keeps the choices, and
one that would lose a bound profile raises and changes nothing. -/
theorem stream_settings_survive {history : StorageHistory}
    (run : StorageRun FreshCall {} history) :
    (∀ binding ∈ history.repository.bindings, ∃ stream ∈ history.repository.streams,
      stream.streamUuid = binding.streamUuid ∧ stream.cameraUuid = binding.cameraUuid ∧
        stream.enabled = true) ∧
    ∀ choice cameraUuid enabled roles next, FreshCall history choice →
      choice.action = .setStreamSettings cameraUuid enabled roles →
      perform history.repository choice = .ok next →
      ∀ later, StorageRun (fun history call => FreshCall history call ∧
          call.action ≠ .unadoptCamera cameraUuid) (history.call choice) later →
        (∀ role, (boundToken later.repository cameraUuid role).isSome = true) ∧
        ∀ again request, FreshCall later again → again.action = .adopt request →
          cameraOf later.repository request.candidateUuid = some cameraUuid →
          KeepsChoice later.repository (later.call again).repository cameraUuid ∧
          ∀ role token, boundToken later.repository cameraUuid role = some token →
            token ∉ request.profiles.map (·.token) →
            (∃ error, perform later.repository again = .error error) ∧
              (later.call again).repository = later.repository := by
  obtain ⟨schema, settings⟩ := storageRun_settings run
  constructor
  · intro binding member
    have isBound : bindingAt history.repository binding.cameraUuid binding.role =
        some binding.streamUuid := by
      have found := schema.bindingKeys.rowAt_eq member
      rw [bindingAt]
      exact Option.map_eq_some_iff.mpr ⟨binding, found, rfl⟩
    obtain ⟨token, stream, found, same, enabled⟩ := settings.bound _ _ _ isBound
    exact ⟨stream, (streamAt_some found).1, same, schema.streamAt_camera found, enabled⟩
  · intro choice cameraUuid enabled roles next fresh isSetting done later continued
    have chosen := chosen_custom schema isSetting done
    obtain ⟨⟨laterSchema, laterSettings⟩, isCustom⟩ :
        (Schema later.repository ∧ Settings later.repository) ∧
          later.repository.custom cameraUuid = some true := by
      apply continued.invariant fun history =>
        (Schema history.repository ∧ Settings history.repository) ∧
          history.repository.custom cameraUuid = some true
      · exact ⟨settings_call ⟨schema, settings⟩ fresh, chosen⟩
      · rintro middle call _ ⟨kept, isCustom⟩ ⟨fresh, adopted⟩ rfl
        exact ⟨settings_call kept fresh, (commit_effect kept.1 fresh).customKept kept.1
          fresh.unused isCustom adopted⟩
    refine ⟨laterSettings.boundToken_isSome laterSchema isCustom, ?_⟩
    intro again request fresh isAdopt known
    refine ⟨(commit_effect laterSchema fresh).keepsChoice laterSchema laterSettings fresh.unused
      isAdopt known isCustom, ?_⟩
    intro role token isBound lost
    obtain ⟨error, raised⟩ := adopt_lost again.timestamp laterSchema fresh.unused known isCustom
      isBound lost
    have failed : perform later.repository again = .error error := by
      simp only [perform, isAdopt, raised]
    exact ⟨⟨error, failed⟩, by simp only [StorageHistory.call, commit, failed]⟩

end

/-- The operator disables the sub stream of the front door and binds both roles to main. -/
def mainOnly : RepositoryCall :=
  ⟨.setStreamSettings "a" ["aaaaa"] fun _ => some "aaaaa", 2, uuidSupply 'b'⟩

/-- A re-adoption that no longer has the main profile. -/
def mainLost : RepositoryCall :=
  ⟨.adopt { frontDoor with profiles := [⟨"sub", some "rtsp://10.0.0.5/sub", "onvif"⟩] }, 3,
    uuidSupply 'c'⟩

theorem front_door_settings_survive :
    let _ := asciiCase
    let _ := plainUrls
    let chosen := adoptedOnce.call mainOnly
    boundToken chosen.repository "a" .detect = some "main" ∧
      (chosen.call mainLost).repository = chosen.repository := by
  intro text urls chosen
  have fresh : FreshCall adoptedOnce mainOnly :=
    freshCall_uuidSupply _ (by decide +kernel) (by decide +kernel)
  have freshAgain : FreshCall chosen mainLost :=
    freshCall_uuidSupply _ (by decide +kernel) (by decide +kernel)
  have isBound : boundToken chosen.repository "a" .detect = some "main" := by decide +kernel
  obtain ⟨next, done⟩ : ∃ next, perform adoptedOnce.repository mainOnly = .ok next := ⟨_, rfl⟩
  obtain ⟨_, survives⟩ := stream_settings_survive adoptedOnce_run
  obtain ⟨_, readopted⟩ := survives mainOnly "a" _ _ next fresh rfl done chosen .start
  obtain ⟨_, lost⟩ := readopted mainLost _ freshAgain rfl (by decide +kernel)
  exact ⟨isBound, (lost .detect "main" isBound (by decide +kernel)).2⟩

end CamAdmiral
