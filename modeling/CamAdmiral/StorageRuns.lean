import CamAdmiral.StorageEffects
import CamAdmiral.Runs

/-!
Calls to the camera repository, one transaction each, and runs of them. `perform_effect` says
once what a call that commits has done; the results about runs follow from it.
-/

namespace CamAdmiral

inductive RepositoryAction
  | adopt (request : AdoptRequest)
  | setStreamSettings (cameraUuid : String) (enabled : List String)
      (roles : Role → Option String)
  | setCameraEnabled (cameraUuid : String) (enabled : Bool)
  | replaceCameraCredentials (cameraUuid username password : String)
  | updateProfileSources (cameraUuid : String) (sources : List (String × String))
  | recordProbeResults (results : List (String × ProbeStatus))
  | unadoptCamera (cameraUuid : String)
  | setFrigateStreams (rows : List FrigateStreamsRow)

/-- An operation with the time it runs at and the uuids it draws. -/
structure RepositoryCall where
  action : RepositoryAction
  timestamp : Nat
  uuids : Nat → String

section
variable [TextCase] [UrlText]

def perform (repository : Repository) (call : RepositoryCall) :
    Except StorageError Repository :=
  match call.action with
  | .adopt request => adopt repository request call.timestamp call.uuids
  | .setStreamSettings cameraUuid enabled roles =>
      setStreamSettings repository cameraUuid enabled roles call.timestamp (call.uuids 0)
  | .setCameraEnabled cameraUuid enabled =>
      .ok (setCameraEnabled repository cameraUuid enabled call.timestamp (call.uuids 0)).1
  | .replaceCameraCredentials cameraUuid username password =>
      .ok (replaceCameraCredentials repository cameraUuid username password call.timestamp
        (call.uuids 0)).1
  | .updateProfileSources cameraUuid sources =>
      updateProfileSources repository cameraUuid sources call.timestamp (call.uuids 0)
  | .recordProbeResults results =>
      .ok (recordProbeResults repository results call.timestamp call.uuids)
  | .unadoptCamera cameraUuid => (unadoptCamera repository cameraUuid).map Prod.fst
  | .setFrigateStreams rows => setFrigateStreams repository rows

/-- An exception rolls the transaction back. -/
def commit (repository : Repository) (call : RepositoryCall) : Repository :=
  match perform repository call with
  | .ok next => next
  | .error _ => repository

end

/-- The health of the affected cameras is recorded after their rows changed. -/
def Recorded (before after : Repository) (call : RepositoryCall) (changed : Repository)
    (affected : List String) (first : Nat) : Prop :=
  Touches before changed affected ∧
    after = recordTransitions changed call.timestamp (fun position => call.uuids (first + position))
      affected 0

theorem Recorded.unchanged {repository : Repository} (schema : Schema repository)
    (call : RepositoryCall) : Recorded repository repository call repository [] 0 :=
  ⟨Touches.refl schema [], rfl⟩

/-- A call on one camera whose transition draws the uuid at `first`. -/
theorem Recorded.one {before changed : Repository} {cameraUuid : String} (call : RepositoryCall)
    (first : Nat) (touches : Touches before changed [cameraUuid]) :
    Recorded before
      (recordCameraHealthTransition changed cameraUuid call.timestamp (call.uuids first)) call
      changed [cameraUuid] first :=
  ⟨touches, rfl⟩

/-! The effect of a call. -/

inductive Effect (before : Repository) (call : RepositoryCall) (after : Repository) : Prop
  | quiet {changed : Repository} {affected : List String} {first : Nat}
      (recorded : Recorded before after call changed affected first)
      (same : SameSettings before changed)
  | adopted {changed : Repository} {request : AdoptRequest}
      (isAdopt : call.action = .adopt request)
      (recorded : Recorded before after call changed
        [adoptedUuid before request.candidateUuid (call.uuids 0)] 2)
      (adopted : Adopted before changed request
        (adoptedUuid before request.candidateUuid (call.uuids 0))
        (adoptedCustom before request.candidateUuid) call.uuids)
  | chosen {changed : Repository} {cameraUuid : String} {enabled : List String}
      {roles : Role → Option String} {chosen : Role → String}
      (isSetting : call.action = .setStreamSettings cameraUuid enabled roles)
      (recorded : Recorded before after call changed [cameraUuid] 0)
      (isChosen : Chosen before changed cameraUuid enabled chosen)
  | removed {cameraUuid : String} (isUnadopt : call.action = .unadoptCamera cameraUuid)
      (removed : Removed before after cameraUuid)


theorem Adopted.touches {before after : Repository} {request : AdoptRequest}
    {cameraUuid : String} {custom : Bool} {uuids : Nat → String}
    (adopted : Adopted before after request cameraUuid custom uuids) :
    Touches before after [cameraUuid] :=
  ⟨adopted.schema, fun other outside => adopted.others other fun same => outside (by simp [same]),
    adopted.events, adopted.incidents⟩

/-- A call on one camera that may find nothing to do. -/
theorem Effect.of_one {before after : Repository} {call : RepositoryCall}
    {cameraUuid : String} (schema : Schema before)
    (effect : after = before ∨ ∃ changed, Touches before changed [cameraUuid] ∧
      SameSettings before changed ∧
      after = recordCameraHealthTransition changed cameraUuid call.timestamp (call.uuids 0)) :
    Effect before call after := by
  rcases effect with rfl | ⟨changed, touches, same, rfl⟩
  · exact .quiet (Recorded.unchanged schema call) (SameSettings.refl after)
  · exact .quiet (Recorded.one call 0 touches) same

theorem perform_effect [TextCase] [UrlText] {repository after : Repository}
    {call : RepositoryCall} (schema : Schema repository)
    (unused : UnusedUuids repository call.uuids)
    (done : perform repository call = .ok after) : Effect repository call after := by
  obtain ⟨action, timestamp, uuids⟩ := call
  cases action with
  | adopt request =>
      obtain ⟨changed, adopted, rfl⟩ := adopt_adopted schema unused done
      exact .adopted rfl (Recorded.one _ 2 adopted.touches) adopted
  | setStreamSettings cameraUuid enabled roles =>
      obtain ⟨changed, chosen, _, isChosen, rfl⟩ := setStreamSettings_effect schema done
      exact .chosen rfl (Recorded.one _ 0 isChosen.touches) isChosen
  | setCameraEnabled cameraUuid enabled =>
      obtain rfl := Except.ok.inj done
      exact Effect.of_one schema (setCameraEnabled_effect schema cameraUuid enabled _ _)
  | replaceCameraCredentials cameraUuid username password =>
      obtain rfl := Except.ok.inj done
      exact Effect.of_one schema
        (replaceCameraCredentials_effect schema cameraUuid username password _ _)
  | updateProfileSources cameraUuid sources =>
      exact Effect.of_one schema (updateProfileSources_effect schema done)
  | recordProbeResults results =>
      obtain rfl := Except.ok.inj done
      obtain ⟨_, touches, same⟩ := storeProbeResults_touches results schema []
      have recorded : Recorded repository (recordProbeResults repository results timestamp uuids)
          ⟨.recordProbeResults results, timestamp, uuids⟩ _ _ 0 :=
        ⟨touches, by simp [recordProbeResults]⟩
      exact .quiet recorded same
  | unadoptCamera cameraUuid =>
      simp only [perform] at done
      cases deleted : unadoptCamera repository cameraUuid with
      | error problem => simp [deleted, Except.map] at done
      | ok result =>
          obtain ⟨remaining, existed⟩ := result
          obtain rfl : remaining = after := by simpa [deleted, Except.map] using done
          rcases unadoptCamera_effect schema deleted with rfl | removed
          · exact .quiet (Recorded.unchanged schema _) (SameSettings.refl remaining)
          · exact .removed rfl removed
  | setFrigateStreams rows =>
      simp only [perform, setFrigateStreams] at done
      split at done
      · obtain rfl := Except.ok.inj done
        have schemaAfter : Schema { repository with frigateStreams := rows } :=
          schema_sameTables schema rfl rfl rfl rfl rfl rfl
        have recorded : Recorded repository { repository with frigateStreams := rows }
            ⟨.setFrigateStreams rows, timestamp, uuids⟩ _ [] 0 :=
          ⟨⟨schemaAfter, fun _ _ => ⟨rfl, rfl, rfl, rfl, rfl⟩, rfl, rfl⟩, rfl⟩
        exact .quiet recorded ⟨fun _ => rfl, fun _ => rfl, fun _ _ => rfl, rfl⟩
      · cases done

/-! The constraints along a run. -/

/-- The incident uuids from `position` on are not in use. -/
def UnusedIncidents (repository : Repository) (uuids : Nat → String) (position : Nat) : Prop :=
  ∀ later, position ≤ later → ∀ incident ∈ repository.incidents,
    incident.incidentUuid ≠ uuids later

theorem UnusedIncidents.transition {repository : Repository} {uuids : Nat → String}
    {position : Nat} (distinct : Function.Injective uuids)
    (unused : UnusedIncidents repository uuids position) (cameraUuid : String)
    (timestamp : Nat) :
    UnusedIncidents
      (recordCameraHealthTransition repository cameraUuid timestamp (uuids position)) uuids
      (position + 1) := by
  intro later bound incident member same
  simp only [recordCameraHealthTransition] at member
  split at member
  · exact unused later (by omega) incident member same
  · rcases mem_reconcileIncidents member with ⟨original, isOriginal, sameUuid, _⟩ | ⟨isNew, _⟩
    · exact unused later (by omega) original isOriginal (sameUuid.symm.trans same)
    · have := distinct (isNew.symm.trans same)
      omega

theorem Schema.transitions {uuids : Nat → String} (distinct : Function.Injective uuids)
    {timestamp : Nat} {affected : List String} {repository : Repository}
    (schema : Schema repository) {position : Nat}
    (unused : UnusedIncidents repository uuids position) :
    Schema (recordTransitions repository timestamp uuids affected position) := by
  induction affected generalizing repository position with
  | nil => exact schema
  | cons cameraUuid rest ih =>
      exact ih (schema.transition cameraUuid timestamp (unused position (by omega)))
        (unused.transition distinct cameraUuid timestamp)

theorem UnusedUuids.drawn {repository changed : Repository} {uuids : Nat → String}
    {affected : List String} (unused : UnusedUuids repository uuids) (first : Nat)
    (touches : Touches repository changed affected) :
    Function.Injective (fun position => uuids (first + position)) ∧
      UnusedIncidents changed (fun position => uuids (first + position)) 0 := by
  constructor
  · intro one two same
    have := unused.distinct same
    omega
  · intro later _ incident member
    rw [touches.incidents] at member
    exact unused.incidents (first + later) incident member

theorem Recorded.schema {before after changed : Repository} {call : RepositoryCall}
    {affected : List String} {first : Nat}
    (recorded : Recorded before after call changed affected first)
    (unused : UnusedUuids before call.uuids) : Schema after := by
  obtain ⟨touches, rfl⟩ := recorded
  obtain ⟨distinct, unusedIncidents⟩ := unused.drawn first touches
  exact touches.schema.transitions distinct unusedIncidents

theorem Effect.schema {before after : Repository} {call : RepositoryCall}
    (effect : Effect before call after) (unused : UnusedUuids before call.uuids) :
    Schema after := by
  cases effect with
  | quiet recorded _ => exact recorded.schema unused
  | adopted _ recorded _ => exact recorded.schema unused
  | chosen _ recorded _ => exact recorded.schema unused
  | removed _ removed => exact removed.schema

/-- A stream that some commit has stored for a token of a camera. -/
structure StoredStream where
  cameraUuid : String
  token : String
  streamUuid : String
  streamKey : String
  deriving DecidableEq, Repr

def storedStreams (repository : Repository) : List StoredStream :=
  repository.streams.filterMap fun stream =>
    (rowAt ProfileRow.profileUuid repository.profiles stream.profileUuid).map fun profile =>
      ⟨profile.cameraUuid, profile.profileToken, stream.streamUuid, stream.streamKey⟩

/-- The tables, the time of the last call and every stream a commit has ever stored. -/
structure StorageHistory where
  repository : Repository := {}
  clock : Nat := 0
  stored : List StoredStream := []

section
variable [TextCase] [UrlText]

def StorageHistory.call (history : StorageHistory) (call : RepositoryCall) : StorageHistory :=
  { repository := commit history.repository call
    clock := call.timestamp
    stored := history.stored ++ storedStreams (commit history.repository call) }

/-- The clock does not go back and the uuids the call draws were never used. -/
structure FreshCall (history : StorageHistory) (call : RepositoryCall) : Prop where
  unused : UnusedUuids history.repository call.uuids
  unstored : ∀ position, ∀ stored ∈ history.stored, stored.streamUuid ≠ call.uuids position
  clock : history.clock ≤ call.timestamp

/-- Every uuid a history has used, for concrete runs. -/
def usedUuids (history : StorageHistory) : List String :=
  history.repository.cameras.map (·.cameraUuid) ++
    history.repository.profiles.map (·.profileUuid) ++
    history.repository.streams.map (·.streamUuid) ++
    history.repository.incidents.map (·.incidentUuid) ++ history.stored.map (·.streamUuid)

omit [TextCase] [UrlText] in
theorem freshCall_uuidSupply {history : StorageHistory} (action : RepositoryAction)
    {timestamp : Nat} {letter : Char}
    (unused : ∀ uuid ∈ usedUuids history, uuid.toList.head? ≠ some letter)
    (clock : history.clock ≤ timestamp) :
    FreshCall history ⟨action, timestamp, uuidSupply letter⟩ := by
  have other {uuid : String} (used : uuid ∈ usedUuids history) (position : Nat) :
      uuid ≠ uuidSupply letter position := by
    rintro rfl
    exact unused _ used (uuidSupply_head letter position)
  simp only [usedUuids, List.append_assoc, List.mem_append, List.mem_map] at other
  refine ⟨⟨uuidSupply_injective letter, ?_, ?_, ?_, ?_⟩, ?_, clock⟩
  · exact fun position row member => other (.inl ⟨row, member, rfl⟩) position
  · exact fun position row member => other (.inr (.inl ⟨row, member, rfl⟩)) position
  · exact fun position row member => other (.inr (.inr (.inl ⟨row, member, rfl⟩))) position
  · exact fun position row member =>
      other (.inr (.inr (.inr (.inl ⟨row, member, rfl⟩)))) position
  · exact fun position row member =>
      other (.inr (.inr (.inr (.inr ⟨row, member, rfl⟩)))) position

/-- The histories that calls lead to, every one of them `allowed`. -/
abbrev StorageRun (allowed : StorageHistory → RepositoryCall → Prop)
    (start : StorageHistory) : StorageHistory → Prop :=
  Reaches (fun history call next => next = history.call call) allowed start

/-- A call commits one of the four effects or nothing. -/
theorem commit_effect {history : StorageHistory} {call : RepositoryCall}
    (schema : Schema history.repository) (fresh : FreshCall history call) :
    Effect history.repository call (history.call call).repository := by
  simp only [StorageHistory.call, commit]
  split
  · exact perform_effect schema fresh.unused ‹_›
  · exact .quiet (Recorded.unchanged schema call) (SameSettings.refl _)

theorem schema_call {history : StorageHistory} {call : RepositoryCall}
    (schema : Schema history.repository) (fresh : FreshCall history call) :
    Schema (history.call call).repository :=
  (commit_effect schema fresh).schema fresh.unused

theorem storageRun_schema {history : StorageHistory}
    (run : StorageRun FreshCall {} history) : Schema history.repository := by
  apply run.invariant (fun history => Schema history.repository) schema_empty
  rintro history call _ schema fresh rfl
  exact schema_call schema fresh

end

/-! A camera with two profiles, for concrete runs. -/

def frontDoor : AdoptRequest where
  candidateUuid := "front"
  displayName := "Front door"
  username := "viewer"
  password := "secret"
  profiles := [⟨"main", some "rtsp://10.0.0.5/main", "onvif"⟩,
    ⟨"sub", some "rtsp://10.0.0.5/sub", "onvif"⟩]
  roles := fun role => match role with | .record => some "main" | .detect => some "sub"

/-- The front door after its adoption. -/
def adoptedOnce : StorageHistory :=
  let _ := asciiCase
  let _ := plainUrls
  StorageHistory.call {} ⟨.adopt frontDoor, 1, uuidSupply 'a'⟩

theorem adoptedOnce_run :
    let _ := asciiCase
    let _ := plainUrls
    StorageRun FreshCall {} adoptedOnce :=
  let _ := asciiCase
  let _ := plainUrls
  Reaches.start.step _ (freshCall_uuidSupply (.adopt frontDoor) (by simp [usedUuids])
    (Nat.zero_le 1)) rfl

theorem mem_storedStreams {repository : Repository} (schema : Schema repository)
    {cameraUuid token streamUuid streamKey : String} :
    ⟨cameraUuid, token, streamUuid, streamKey⟩ ∈ storedStreams repository ↔
      ∃ stream, streamAt repository cameraUuid token = some stream ∧
        stream.streamUuid = streamUuid ∧ stream.streamKey = streamKey := by
  simp only [storedStreams, List.mem_filterMap, Option.map_eq_some_iff, StoredStream.mk.injEq]
  constructor
  · rintro ⟨stream, member, profile, isProfile, rfl, rfl, sameUuid, sameKey⟩
    obtain ⟨profileMember, owns⟩ := rowAt_some isProfile
    refine ⟨stream, ?_, sameUuid, sameKey⟩
    have atKey : rowAt ProfileRow.key repository.profiles
        (profile.cameraUuid, profile.profileToken) = some profile :=
      schema.profileKeys.rowAt_eq profileMember
    rw [streamAt, atKey, Option.bind_some, owns, schema.streamProfiles.rowAt_eq member]
  · rintro ⟨stream, found, sameUuid, sameKey⟩
    obtain ⟨member, profile, profileMember, key, owns⟩ := streamAt_some found
    refine ⟨stream, member, profile, ?_, congrArg Prod.fst key, congrArg Prod.snd key,
      sameUuid, sameKey⟩
    rw [← owns, schema.profileIds.rowAt_eq profileMember]

end CamAdmiral
