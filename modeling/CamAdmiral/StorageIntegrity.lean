import CamAdmiral.StorageCore

/-!
The constraints of the camera tables and what each statement does to them. Every operation
is a sequence of these statements, so the operations need no argument of their own beyond
the order in which they run them.
-/

namespace CamAdmiral

/-- The constraints that hold after every statement of every operation. -/
structure Schema (repository : Repository) : Prop where
  cameraIds : Unique CameraRow.cameraUuid repository.cameras
  candidateIds : Unique CameraRow.candidateUuid repository.cameras
  profileKeys : Unique ProfileRow.key repository.profiles
  profileIds : Unique ProfileRow.profileUuid repository.profiles
  streamIds : Unique StreamRow.streamUuid repository.streams
  streamProfiles : Unique StreamRow.profileUuid repository.streams
  bindingKeys : Unique BindingRow.key repository.bindings
  incidentIds : Unique Incident.incidentUuid repository.incidents
  profileCamera : ∀ profile ∈ repository.profiles, ∃ camera ∈ repository.cameras,
    camera.cameraUuid = profile.cameraUuid
  streamProfile : ∀ stream ∈ repository.streams, ∃ profile ∈ repository.profiles,
    profile.profileUuid = stream.profileUuid ∧ profile.cameraUuid = stream.cameraUuid
  streamKey : ∀ stream ∈ repository.streams, stream.streamKey = "stream_" ++ stream.streamUuid
  bindingStream : ∀ binding ∈ repository.bindings, ∃ stream ∈ repository.streams,
    stream.streamUuid = binding.streamUuid ∧ stream.cameraUuid = binding.cameraUuid
  eventCamera : ∀ event ∈ repository.healthEvents, ∃ camera ∈ repository.cameras,
    camera.cameraUuid = event.cameraUuid
  incidentCamera : ∀ incident ∈ repository.incidents, ∃ camera ∈ repository.cameras,
    camera.cameraUuid = incident.cameraUuid

theorem schema_empty : Schema {} := by
  constructor <;> simp [Unique]

/-! The stream behind a camera's profile token. -/

def streamAt (repository : Repository) (cameraUuid token : String) : Option StreamRow :=
  (rowAt ProfileRow.key repository.profiles (cameraUuid, token)).bind fun profile =>
    rowAt StreamRow.profileUuid repository.streams profile.profileUuid

theorem streamAt_some {repository : Repository} {cameraUuid token : String} {stream : StreamRow}
    (found : streamAt repository cameraUuid token = some stream) :
    stream ∈ repository.streams ∧ ∃ profile ∈ repository.profiles,
      profile.key = (cameraUuid, token) ∧ profile.profileUuid = stream.profileUuid := by
  obtain ⟨profile, isProfile, isStream⟩ := Option.bind_eq_some_iff.mp found
  obtain ⟨profileMember, profileKey⟩ := rowAt_some isProfile
  obtain ⟨streamMember, sameProfile⟩ := rowAt_some isStream
  exact ⟨streamMember, profile, profileMember, profileKey, sameProfile.symm⟩

theorem Schema.streamAt_camera {repository : Repository} (schema : Schema repository)
    {cameraUuid token : String} {stream : StreamRow}
    (found : streamAt repository cameraUuid token = some stream) :
    stream.cameraUuid = cameraUuid := by
  obtain ⟨member, profile, profileMember, profileKey, sameProfile⟩ := streamAt_some found
  obtain ⟨owner, ownerMember, ownerProfile, ownerCamera⟩ := schema.streamProfile stream member
  have same := schema.profileIds.eq ownerMember profileMember (ownerProfile.trans sameProfile.symm)
  rw [← ownerCamera, same]
  exact congrArg Prod.fst profileKey

/-- A stream belongs to one token of one camera. -/
theorem Schema.streamAt_injective {repository : Repository} (schema : Schema repository)
    {firstCamera firstToken secondCamera secondToken : String} {first second : StreamRow}
    (firstFound : streamAt repository firstCamera firstToken = some first)
    (secondFound : streamAt repository secondCamera secondToken = some second)
    (same : first.streamUuid = second.streamUuid) :
    (firstCamera, firstToken) = (secondCamera, secondToken) := by
  obtain ⟨firstMember, firstProfile, firstProfileMember, firstKey, firstOwner⟩ :=
    streamAt_some firstFound
  obtain ⟨secondMember, secondProfile, secondProfileMember, secondKey, secondOwner⟩ :=
    streamAt_some secondFound
  have sameStream := schema.streamIds.eq firstMember secondMember same
  have sameProfile := schema.profileIds.eq firstProfileMember secondProfileMember
    (by rw [firstOwner, secondOwner, sameStream])
  rw [← firstKey, ← secondKey, sameProfile]

theorem Schema.streamAt_of_mem {repository : Repository} (schema : Schema repository)
    {stream : StreamRow} (member : stream ∈ repository.streams) :
    ∃ token, streamAt repository stream.cameraUuid token = some stream := by
  obtain ⟨profile, profileMember, sameProfile, sameCamera⟩ := schema.streamProfile stream member
  refine ⟨profile.profileToken, ?_⟩
  have key : profile.key = (stream.cameraUuid, profile.profileToken) := by
    rw [← sameCamera]
    rfl
  rw [streamAt, ← key, schema.profileKeys.rowAt_eq profileMember, Option.bind_some, sameProfile,
    schema.streamProfiles.rowAt_eq member]

/-- Streams that consumers and the operator cannot tell apart. -/
structure SameStream (before after : StreamRow) : Prop where
  streamUuid : after.streamUuid = before.streamUuid
  streamKey : after.streamKey = before.streamKey
  enabled : after.enabled = before.enabled

theorem SameStream.refl (stream : StreamRow) : SameStream stream stream := ⟨rfl, rfl, rfl⟩

theorem SameStream.trans {first second third : StreamRow} (one : SameStream first second)
    (two : SameStream second third) : SameStream first third :=
  ⟨two.streamUuid.trans one.streamUuid, two.streamKey.trans one.streamKey,
    two.enabled.trans one.enabled⟩

theorem streamAt_mapStreams (repository : Repository) (change : StreamRow → StreamRow)
    (sameProfile : ∀ stream, (change stream).profileUuid = stream.profileUuid)
    (cameraUuid token : String) :
    streamAt { repository with streams := repository.streams.map change } cameraUuid token =
      (streamAt repository cameraUuid token).map change := by
  simp [streamAt, rowAt_map _ change sameProfile, Option.map_bind, Function.comp_def]

theorem streamAt_mapProfiles (repository : Repository) (change : ProfileRow → ProfileRow)
    (sameKey : ∀ profile, (change profile).key = profile.key)
    (sameUuid : ∀ profile, (change profile).profileUuid = profile.profileUuid)
    (cameraUuid token : String) :
    streamAt { repository with profiles := repository.profiles.map change } cameraUuid token =
      streamAt repository cameraUuid token := by
  simp [streamAt, rowAt_map _ change sameKey, Option.bind_map, Function.comp_def, sameUuid]

/-! Statements that change rows in place. -/

theorem Schema.mapStreams {repository : Repository} (schema : Schema repository)
    (change : StreamRow → StreamRow)
    (sameIds : ∀ stream, (change stream).streamUuid = stream.streamUuid ∧
      (change stream).profileUuid = stream.profileUuid ∧
      (change stream).cameraUuid = stream.cameraUuid ∧
      (change stream).streamKey = stream.streamKey) :
    Schema { repository with streams := repository.streams.map change } :=
  { schema with
    streamIds := schema.streamIds.map change fun stream => (sameIds stream).1
    streamProfiles := schema.streamProfiles.map change fun stream => (sameIds stream).2.1
    streamProfile := by
      intro stream member
      obtain ⟨original, isOriginal, rfl⟩ := List.mem_map.mp member
      rw [(sameIds original).2.1, (sameIds original).2.2.1]
      exact schema.streamProfile original isOriginal
    streamKey := by
      intro stream member
      obtain ⟨original, isOriginal, rfl⟩ := List.mem_map.mp member
      rw [(sameIds original).2.2.2, (sameIds original).1]
      exact schema.streamKey original isOriginal
    bindingStream := by
      intro binding member
      obtain ⟨stream, isStream, sameUuid, sameCamera⟩ := schema.bindingStream binding member
      exact ⟨change stream, List.mem_map_of_mem isStream, (sameIds stream).1.trans sameUuid,
        (sameIds stream).2.2.1.trans sameCamera⟩ }

theorem Schema.mapProfiles {repository : Repository} (schema : Schema repository)
    (change : ProfileRow → ProfileRow)
    (sameKey : ∀ profile, (change profile).key = profile.key)
    (sameUuid : ∀ profile, (change profile).profileUuid = profile.profileUuid) :
    Schema { repository with profiles := repository.profiles.map change } :=
  have sameCamera (profile : ProfileRow) :
      (change profile).cameraUuid = profile.cameraUuid := congrArg Prod.fst (sameKey profile)
  { schema with
    profileKeys := schema.profileKeys.map change sameKey
    profileIds := schema.profileIds.map change sameUuid
    profileCamera := by
      intro profile member
      obtain ⟨original, isOriginal, rfl⟩ := List.mem_map.mp member
      rw [sameCamera]
      exact schema.profileCamera original isOriginal
    streamProfile := by
      intro stream member
      obtain ⟨profile, isProfile, owns, camera⟩ := schema.streamProfile stream member
      exact ⟨change profile, List.mem_map_of_mem isProfile, (sameUuid profile).trans owns,
        (sameCamera profile).trans camera⟩ }

theorem Schema.mapCameras {repository : Repository} (schema : Schema repository)
    (change : CameraRow → CameraRow)
    (sameIds : ∀ camera, (change camera).cameraUuid = camera.cameraUuid ∧
      (change camera).candidateUuid = camera.candidateUuid) :
    Schema { repository with cameras := repository.cameras.map change } :=
  have kept {cameraUuid : String}
      (listed : ∃ camera ∈ repository.cameras, camera.cameraUuid = cameraUuid) :
      ∃ camera ∈ repository.cameras.map change, camera.cameraUuid = cameraUuid := by
    obtain ⟨camera, isCamera, same⟩ := listed
    exact ⟨change camera, List.mem_map_of_mem isCamera, (sameIds camera).1.trans same⟩
  { schema with
    cameraIds := schema.cameraIds.map change fun camera => (sameIds camera).1
    candidateIds := schema.candidateIds.map change fun camera => (sameIds camera).2
    profileCamera := fun profile member => kept (schema.profileCamera profile member)
    eventCamera := fun event member => kept (schema.eventCamera event member)
    incidentCamera := fun incident member => kept (schema.incidentCamera incident member) }

/-! What a statement about one camera leaves of the others. -/

/-- The rows that belong to the camera are the same. -/
structure SameCamera (before after : Repository) (cameraUuid : String) : Prop where
  camera : after.camera cameraUuid = before.camera cameraUuid
  streams : after.streams.filter (fun row => row.cameraUuid = cameraUuid) =
    before.streams.filter fun row => row.cameraUuid = cameraUuid
  bindings : after.bindings.filter (fun row => row.cameraUuid = cameraUuid) =
    before.bindings.filter fun row => row.cameraUuid = cameraUuid
  events : cameraEvents after cameraUuid = cameraEvents before cameraUuid
  incidents : after.incidents.filter (fun row => row.cameraUuid = cameraUuid) =
    before.incidents.filter fun row => row.cameraUuid = cameraUuid

theorem SameCamera.refl (repository : Repository) (cameraUuid : String) :
    SameCamera repository repository cameraUuid := ⟨rfl, rfl, rfl, rfl, rfl⟩

theorem SameCamera.trans {first second third : Repository} {cameraUuid : String}
    (one : SameCamera first second cameraUuid) (two : SameCamera second third cameraUuid) :
    SameCamera first third cameraUuid :=
  ⟨two.camera.trans one.camera, two.streams.trans one.streams, two.bindings.trans one.bindings,
    two.events.trans one.events, two.incidents.trans one.incidents⟩

theorem sameCamera_mapStreams {repository : Repository} {change : StreamRow → StreamRow}
    {cameraUuid : String}
    (sameCamera : ∀ stream, (change stream).cameraUuid = stream.cameraUuid)
    (untouched : ∀ stream ∈ repository.streams, stream.cameraUuid = cameraUuid →
      change stream = stream) :
    SameCamera repository { repository with streams := repository.streams.map change }
      cameraUuid :=
  ⟨rfl, filter_map_others repository.streams sameCamera untouched, rfl, rfl, rfl⟩

theorem sameCamera_mapCameras {repository : Repository} {change : CameraRow → CameraRow}
    {cameraUuid : String}
    (sameCamera : ∀ camera, (change camera).cameraUuid = camera.cameraUuid)
    (untouched : ∀ camera ∈ repository.cameras, camera.cameraUuid = cameraUuid →
      change camera = camera) :
    SameCamera repository { repository with cameras := repository.cameras.map change }
      cameraUuid := by
  refine ⟨?_, rfl, rfl, rfl, rfl⟩
  simp only [Repository.camera, rowAt_map _ change sameCamera]
  cases found : rowAt CameraRow.cameraUuid repository.cameras cameraUuid with
  | none => rfl
  | some camera =>
      obtain ⟨member, same⟩ := rowAt_some found
      simp [untouched camera member same]

/-! Bindings. -/

theorem Schema.bindRole {repository : Repository} (schema : Schema repository)
    {cameraUuid streamUuid : String} {role : Role}
    (owned : ∃ stream ∈ repository.streams, stream.streamUuid = streamUuid ∧
      stream.cameraUuid = cameraUuid) :
    Schema (bindRole repository cameraUuid role streamUuid) := by
  refine { schema with bindingKeys := ?_, bindingStream := ?_ }
  · simp only [CamAdmiral.bindRole]
    split
    · apply schema.bindingKeys.map
      intro binding
      split
      · rename_i same
        exact same.symm
      · rfl
    · rename_i absent
      apply schema.bindingKeys.append
      intro binding member same
      apply absent
      rw [← same]
      exact Option.isSome_iff_exists.mpr (rowAt_isSome member)
  · intro binding member
    simp only [CamAdmiral.bindRole] at member
    split at member
    · obtain ⟨original, isOriginal, rfl⟩ := List.mem_map.mp member
      split
      · exact owned
      · exact schema.bindingStream original isOriginal
    · rcases List.mem_append.mp member with isOld | isNew
      · exact schema.bindingStream binding isOld
      · obtain rfl := List.mem_singleton.mp isNew
        exact owned

theorem bindRole_at (repository : Repository) (cameraUuid streamUuid : String) (role : Role)
    (wanted : String × Role) :
    (rowAt BindingRow.key (bindRole repository cameraUuid role streamUuid).bindings wanted).map
        (·.streamUuid) =
      if (cameraUuid, role) = wanted then some streamUuid
      else (rowAt BindingRow.key repository.bindings wanted).map (·.streamUuid) := by
  have key : (⟨cameraUuid, role, streamUuid⟩ : BindingRow).key = (cameraUuid, role) := rfl
  simp only [bindRole, key]
  split
  · rename_i present
    rw [rowAt_map _ _ fun binding => by split <;> simp_all]
    split
    · rename_i same
      subst same
      obtain ⟨binding, found⟩ := Option.isSome_iff_exists.mp present
      simp [found, (rowAt_some found).2]
    · rename_i differs
      cases found : rowAt BindingRow.key repository.bindings wanted with
      | none => rfl
      | some binding =>
          have other : binding.key ≠ (cameraUuid, role) := by
            rw [(rowAt_some found).2]
            exact fun same => differs same.symm
          simp [other]
  · rename_i absent
    rw [rowAt_append, key]
    split
    · rename_i same
      subst same
      simp [Option.not_isSome_iff_eq_none.mp absent]
    · simp

theorem sameCamera_bindRole {repository : Repository} {cameraUuid other streamUuid : String}
    {role : Role} (differs : cameraUuid ≠ other) :
    SameCamera repository (bindRole repository cameraUuid role streamUuid) other := by
  refine ⟨rfl, rfl, ?_, rfl, rfl⟩
  simp only [bindRole]
  split
  · apply filter_map_others
    · intro binding
      split
      · rename_i same
        exact (congrArg Prod.fst same).symm
      · rfl
    · intro binding _ owned
      split
      · rename_i same
        exact absurd ((congrArg Prod.fst same).symm.trans owned) differs
      · rfl
  · exact filter_append_others _ differs

/-! Health events and incidents. -/

theorem desiredKind_health {state : CameraState} {kind : IncidentKind}
    (desired : desiredKind state = some kind) : kind.health = true := by
  cases state <;> cases desired <;> rfl

theorem mem_resolveIncident {incidents : List Incident} {incidentUuid : String}
    {timestamp : Nat} {reason : ResolutionReason} {incident : Incident}
    (member : incident ∈ resolveIncident incidents incidentUuid timestamp reason) :
    ∃ original ∈ incidents, incident.incidentUuid = original.incidentUuid ∧
      incident.cameraUuid = original.cameraUuid := by
  obtain ⟨original, isOriginal, rfl⟩ := List.mem_map.mp member
  refine ⟨original, isOriginal, ?_⟩
  split <;> exact ⟨rfl, rfl⟩

theorem Unique.resolveIncident {incidents : List Incident}
    (unique : Unique Incident.incidentUuid incidents) (incidentUuid : String) (timestamp : Nat)
    (reason : ResolutionReason) :
    Unique Incident.incidentUuid (resolveIncident incidents incidentUuid timestamp reason) := by
  apply unique.map
  intro incident
  split <;> rfl

/-- An incident of the table is an old one, updated, or the one opened now. -/
theorem mem_reconcileIncidents {incidents : List Incident} {cameraUuid fresh : String}
    {state : CameraState} {timestamp : Nat} {incident : Incident}
    (member : incident ∈ reconcileIncidents incidents cameraUuid state timestamp fresh) :
    (∃ original ∈ incidents, incident.incidentUuid = original.incidentUuid ∧
      incident.cameraUuid = original.cameraUuid) ∨
    (incident.incidentUuid = fresh ∧ incident.cameraUuid = cameraUuid) := by
  have kept (unchanged : incident ∈ incidents) : ∃ original ∈ incidents,
      incident.incidentUuid = original.incidentUuid ∧
        incident.cameraUuid = original.cameraUuid := ⟨incident, unchanged, rfl, rfl⟩
  simp only [reconcileIncidents] at member
  split at member
  · split at member
    · obtain ⟨original, isOriginal, rfl⟩ := List.mem_map.mp member
      refine .inl ⟨original, isOriginal, ?_⟩
      split <;> exact ⟨rfl, rfl⟩
    · rcases List.mem_append.mp member with isOld | isNew
      · exact .inl (mem_resolveIncident isOld)
      · obtain rfl := List.mem_singleton.mp isNew
        exact .inr ⟨rfl, rfl⟩
  · rcases List.mem_append.mp member with isOld | isNew
    · exact .inl (kept isOld)
    · obtain rfl := List.mem_singleton.mp isNew
      exact .inr ⟨rfl, rfl⟩
  · split at member
    · exact .inl (mem_resolveIncident member)
    · split at member
      · exact .inl (mem_resolveIncident member)
      · exact .inl (kept member)
  · exact .inl (kept member)

theorem Unique.reconcileIncidents {incidents : List Incident}
    (unique : Unique Incident.incidentUuid incidents) {cameraUuid fresh : String}
    (unused : ∀ incident ∈ incidents, incident.incidentUuid ≠ fresh) (state : CameraState)
    (timestamp : Nat) :
    Unique Incident.incidentUuid
      (reconcileIncidents incidents cameraUuid state timestamp fresh) := by
  simp only [CamAdmiral.reconcileIncidents]
  split
  · split
    · apply unique.map
      intro incident
      split <;> rfl
    · apply (unique.resolveIncident _ timestamp .causeChanged).append
      intro incident member
      obtain ⟨original, isOriginal, same, _⟩ := mem_resolveIncident member
      exact same ▸ unused original isOriginal
  · exact unique.append unused
  · split
    · exact unique.resolveIncident _ _ _
    · split
      · exact unique.resolveIncident _ _ _
      · exact unique
  · exact unique

theorem filter_resolveIncident {incidents : List Incident}
    (unique : Unique Incident.incidentUuid incidents) {opened : Incident}
    (member : opened ∈ incidents) {other : String} (differs : opened.cameraUuid ≠ other)
    (timestamp : Nat) (reason : ResolutionReason) :
    (resolveIncident incidents opened.incidentUuid timestamp reason).filter
        (fun row => row.cameraUuid = other) =
      incidents.filter fun row => row.cameraUuid = other := by
  apply filter_map_others
  · intro incident
    split <;> rfl
  · intro incident isIncident owned
    split
    · rename_i resolved
      simp only [Bool.and_eq_true, decide_eq_true_eq] at resolved
      exact absurd (unique.eq isIncident member resolved.1 ▸ owned) differs
    · rfl

theorem filter_reconcileIncidents {incidents : List Incident}
    (unique : Unique Incident.incidentUuid incidents) {cameraUuid other : String}
    (differs : cameraUuid ≠ other) (state : CameraState) (timestamp : Nat) (fresh : String) :
    (reconcileIncidents incidents cameraUuid state timestamp fresh).filter
        (fun row => row.cameraUuid = other) =
      incidents.filter fun row => row.cameraUuid = other := by
  have owner {opened : Incident}
      (found : incidents.find? (·.opened cameraUuid) = some opened) :
      opened ∈ incidents ∧ opened.cameraUuid ≠ other := by
    refine ⟨List.mem_of_find?_eq_some found, ?_⟩
    have isOpen := List.find?_some found
    simp only [Incident.opened, Bool.and_eq_true, decide_eq_true_eq] at isOpen
    exact isOpen.1.1 ▸ differs
  simp only [reconcileIncidents]
  split
  · rename_i found
    obtain ⟨member, ownerDiffers⟩ := owner found
    split
    · apply filter_map_others
      · intro incident
        split <;> rfl
      · intro incident isIncident owned
        split
        · rename_i same
          exact absurd (unique.eq isIncident member same ▸ owned) ownerDiffers
        · rfl
    · rw [filter_append_others _ differs]
      exact filter_resolveIncident unique member ownerDiffers _ _
  · exact filter_append_others _ differs
  · rename_i found
    obtain ⟨member, ownerDiffers⟩ := owner found
    split
    · exact filter_resolveIncident unique member ownerDiffers _ _
    · split
      · exact filter_resolveIncident unique member ownerDiffers _ _
      · rfl
  · rfl

theorem mem_recordEvent {events : List HealthEvent} {event recorded : HealthEvent}
    (member : recorded ∈ recordEvent events event) : recorded ∈ events ∨ recorded = event := by
  have appended (listed : recorded ∈ events ++ [event]) :
      recorded ∈ events ∨ recorded = event := by simpa using listed
  unfold recordEvent at member
  split at member
  · split at member
    · exact .inl member
    · exact appended member
  · exact appended member

theorem filter_recordEvent_others (events : List HealthEvent) {event : HealthEvent}
    {other : String} (differs : event.cameraUuid ≠ other) :
    (recordEvent events event).filter (fun row => row.cameraUuid = other) =
      events.filter fun row => row.cameraUuid = other := by
  unfold recordEvent
  split
  · split
    · rfl
    · exact filter_append_others events differs
  · exact filter_append_others events differs

theorem transition_unknown {repository : Repository} {cameraUuid : String}
    (unknown : repository.camera cameraUuid = none) (timestamp : Nat) (fresh : String) :
    recordCameraHealthTransition repository cameraUuid timestamp fresh = repository := by
  simp [recordCameraHealthTransition, cameraHealthState, unknown]

theorem transition_known {repository : Repository} {cameraUuid : String} {camera : CameraRow}
    (known : repository.camera cameraUuid = some camera) :
    ∃ state reason, cameraHealthState repository cameraUuid = some (state, reason) := by
  simp only [cameraHealthState, known, Option.map_some]
  exact ⟨_, _, rfl⟩

/-- The transition only writes the event and incident tables. -/
theorem transition_tables (repository : Repository) (cameraUuid : String) (timestamp : Nat)
    (fresh : String) :
    ∃ events incidents, recordCameraHealthTransition repository cameraUuid timestamp fresh =
      { repository with healthEvents := events, incidents := incidents } := by
  simp only [recordCameraHealthTransition]
  split
  · exact ⟨_, _, rfl⟩
  · exact ⟨_, _, rfl⟩

theorem Schema.transition {repository : Repository} (schema : Schema repository)
    (cameraUuid : String) (timestamp : Nat) {fresh : String}
    (unused : ∀ incident ∈ repository.incidents, incident.incidentUuid ≠ fresh) :
    Schema (recordCameraHealthTransition repository cameraUuid timestamp fresh) := by
  cases known : repository.camera cameraUuid with
  | none => rwa [transition_unknown known]
  | some camera =>
      obtain ⟨state, reason, health⟩ := transition_known known
      obtain ⟨cameraMember, sameCamera⟩ := rowAt_some known
      simp only [recordCameraHealthTransition, health]
      refine { schema with incidentIds := ?_, eventCamera := ?_, incidentCamera := ?_ }
      · exact schema.incidentIds.reconcileIncidents unused state timestamp
      · intro event member
        rcases mem_recordEvent member with isOld | rfl
        · exact schema.eventCamera event isOld
        · exact ⟨camera, cameraMember, sameCamera⟩
      · intro incident member
        rcases mem_reconcileIncidents member with ⟨original, isOriginal, _, same⟩ | ⟨_, same⟩
        · rw [same]
          exact schema.incidentCamera original isOriginal
        · exact ⟨camera, cameraMember, sameCamera.trans same.symm⟩

theorem sameCamera_transition {repository : Repository} (schema : Schema repository)
    {cameraUuid other : String} (differs : cameraUuid ≠ other) (timestamp : Nat)
    (fresh : String) :
    SameCamera repository (recordCameraHealthTransition repository cameraUuid timestamp fresh)
      other := by
  cases known : repository.camera cameraUuid with
  | none =>
      rw [transition_unknown known]
      exact SameCamera.refl repository other
  | some camera =>
      obtain ⟨state, reason, health⟩ := transition_known known
      simp only [recordCameraHealthTransition, health]
      refine ⟨rfl, rfl, rfl, ?_, ?_⟩
      · exact filter_recordEvent_others _ differs
      · exact filter_reconcileIncidents schema.incidentIds differs state timestamp fresh

end CamAdmiral
