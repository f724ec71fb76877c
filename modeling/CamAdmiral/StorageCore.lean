import CamAdmiral.Table
import CamAdmiral.TextCore

/-!
The camera repository: the tables of adopted cameras, their profiles, streams, bindings,
health events and incidents, and the operations that change them. An operation is one
transaction: it returns the tables it commits or the exception after which nothing is
committed. Columns that no operation here decides on (names, dimensions, probe details,
timestamps other than those of events and incidents) are left out.
-/

namespace CamAdmiral

inductive Role
  | record
  | detect
  deriving DecidableEq, Repr

inductive HealthStatus
  | unknown
  | healthy
  | degraded
  | offline
  | authFailed
  deriving DecidableEq, Repr

inductive CameraState
  | healthy
  | degraded
  | offline
  | authFailed
  | unknown
  | disabled
  deriving DecidableEq, Repr

inductive HealthReason
  | operatorDisabled
  | mediaCheckPending
  | authenticationFailed
  | allStreamsHealthy
  | allStreamsOffline
  | partialStreamFailure
  | mediaProbeFailed
  deriving DecidableEq, Repr

inductive IncidentKind
  | mediaOffline
  | authenticationFailed
  | cameraAddressChanged
  deriving DecidableEq, Repr

inductive ResolutionReason
  | causeChanged
  | recovered
  | operatorDisabled
  | streamRecovered
  deriving DecidableEq, Repr

/-- `ProbeResult.status`; every other status counts as one more failure. -/
inductive ProbeStatus
  | ready
  | idle
  | authFailed
  | failed
  deriving DecidableEq, Repr

/-- The columns that `_source_parts` computes from a URI. -/
structure SourceParts where
  scheme : Option String := none
  host : Option String := none
  port : Option Nat := none
  path : Option String := none
  query : Option String := none
  deriving DecidableEq, Repr

/-- `urllib.parse`: the parts of a URI, `none` where it raises, and its inverse. The host name
alone can be read where the port raises; it is empty where there is none. -/
class UrlText where
  split : String → Option SourceParts
  unsplit : SourceParts → String
  hostname : String → String

/-- `urllib.parse` on URIs such as `rtsp://host/path`, for concrete runs. -/
@[reducible] def plainUrls : UrlText where
  split text :=
    let rest := text.toList.drop 7
    some {
      scheme := some "rtsp"
      host := some (String.ofList (rest.takeWhile (· ≠ '/')))
      path := some (String.ofList (rest.dropWhile (· ≠ '/')))
      query := some "" }
  unsplit parts := "rtsp://" ++ textOf parts.host ++ textOf parts.path
  hostname text := String.ofList ((text.toList.drop 7).takeWhile (· ≠ '/'))

structure CameraRow where
  cameraUuid : String
  candidateUuid : String
  displayName : String
  credentialUuid : String
  enabled : Bool := true
  streamSettingsCustom : Bool := false
  deriving DecidableEq, Repr

structure CredentialRow where
  credentialUuid : String
  username : String
  password : String
  deriving DecidableEq, Repr

structure ProfileRow where
  profileUuid : String
  cameraUuid : String
  profileToken : String
  uri : Option String
  source : SourceParts
  sourceKind : String
  deriving DecidableEq, Repr

structure StreamRow where
  streamUuid : String
  cameraUuid : String
  profileUuid : String
  streamKey : String
  enabled : Bool
  healthStatus : HealthStatus := .unknown
  consecutiveFailures : Nat := 0
  deriving DecidableEq, Repr

structure BindingRow where
  cameraUuid : String
  role : Role
  streamUuid : String
  deriving DecidableEq, Repr

/-- A row of `camera_health_events`; its `event_id` is its position in the table. -/
structure HealthEvent where
  cameraUuid : String
  state : CameraState
  reason : HealthReason
  observedAt : Nat
  deriving DecidableEq, Repr

structure Incident where
  incidentUuid : String
  cameraUuid : String
  kind : IncidentKind
  openedAt : Nat
  lastObservedAt : Nat
  resolvedAt : Option Nat := none
  resolutionReason : Option ResolutionReason := none
  deriving DecidableEq, Repr

/-- The part of `frigate_bindings` that constrains the streams. -/
structure FrigateStreamsRow where
  targetId : String
  cameraUuid : String
  recordStreamUuid : String
  detectStreamUuid : String
  deriving DecidableEq, Repr

structure Repository where
  cameras : List CameraRow := []
  credentials : List CredentialRow := []
  profiles : List ProfileRow := []
  streams : List StreamRow := []
  bindings : List BindingRow := []
  healthEvents : List HealthEvent := []
  incidents : List Incident := []
  frigateStreams : List FrigateStreamsRow := []
  deriving DecidableEq, Repr

/-- The exceptions; `uri` is the `ValueError` of `urllib.parse`. -/
inductive StorageError
  | value (message : String)
  | uri
  | sourceAlreadyAssigned (cameraUuid displayName : String)
  | integrity
  deriving DecidableEq, Repr

def ProfileRow.key (profile : ProfileRow) : String × String :=
  (profile.cameraUuid, profile.profileToken)

def BindingRow.key (binding : BindingRow) : String × Role := (binding.cameraUuid, binding.role)

def Repository.camera (repository : Repository) (cameraUuid : String) : Option CameraRow :=
  rowAt CameraRow.cameraUuid repository.cameras cameraUuid

def Repository.stream (repository : Repository) (streamUuid : String) : Option StreamRow :=
  rowAt StreamRow.streamUuid repository.streams streamUuid

/-! Camera health. -/

/-- The statuses of the camera's streams that some binding uses. -/
def boundStates (repository : Repository) (cameraUuid : String) : List HealthStatus :=
  ((repository.streams.filter fun stream => stream.cameraUuid = cameraUuid &&
    repository.bindings.any (·.streamUuid = stream.streamUuid)).map (·.healthStatus)).dedup

def aggregateHealth (states : List HealthStatus) : CameraState × HealthReason :=
  let observed := states.filter (· ≠ .unknown)
  if observed.isEmpty then
    (.unknown, .mediaCheckPending)
  else if .authFailed ∈ observed then
    (.authFailed, .authenticationFailed)
  else if observed.all (· = .healthy) then
    (.healthy, .allStreamsHealthy)
  else if states.all (· = .offline) then
    (.offline, .allStreamsOffline)
  else if .offline ∈ observed then
    (.degraded, .partialStreamFailure)
  else if .degraded ∈ observed then
    (.degraded, .mediaProbeFailed)
  else
    (.unknown, .mediaCheckPending)

def cameraHealthState (repository : Repository) (cameraUuid : String) :
    Option (CameraState × HealthReason) :=
  (repository.camera cameraUuid).map fun camera =>
    if camera.enabled then
      aggregateHealth (boundStates repository cameraUuid)
    else
      (.disabled, .operatorDisabled)

/-- The row that `ORDER BY observed_at DESC, event_id DESC LIMIT 1` selects. -/
def latestOf (events : List HealthEvent) : Option HealthEvent :=
  events.foldl (fun latest event => match latest with
    | some newest => if newest.observedAt ≤ event.observedAt then some event else some newest
    | none => some event) none

def cameraEvents (repository : Repository) (cameraUuid : String) : List HealthEvent :=
  repository.healthEvents.filter (·.cameraUuid = cameraUuid)

def IncidentKind.health : IncidentKind → Bool
  | .mediaOffline | .authenticationFailed => true
  | .cameraAddressChanged => false

def Incident.opened (incident : Incident) (cameraUuid : String) : Bool :=
  incident.cameraUuid = cameraUuid && incident.resolvedAt.isNone && incident.kind.health

def desiredKind : CameraState → Option IncidentKind
  | .offline => some .mediaOffline
  | .authFailed => some .authenticationFailed
  | _ => none

def resolveIncident (incidents : List Incident) (incidentUuid : String) (timestamp : Nat)
    (reason : ResolutionReason) : List Incident :=
  incidents.map fun incident =>
    if incident.incidentUuid = incidentUuid && incident.resolvedAt.isNone then
      { incident with
        lastObservedAt := timestamp
        resolvedAt := some timestamp
        resolutionReason := some reason }
    else
      incident

def reconcileIncidents (incidents : List Incident) (cameraUuid : String) (state : CameraState)
    (timestamp : Nat) (fresh : String) : List Incident :=
  let opened := incidents.find? (·.opened cameraUuid)
  match desiredKind state, opened with
  | some kind, some incident =>
      if incident.kind = kind then
        incidents.map fun row =>
          if row.incidentUuid = incident.incidentUuid then
            { row with lastObservedAt := timestamp }
          else
            row
      else
        resolveIncident incidents incident.incidentUuid timestamp .causeChanged ++
          [⟨fresh, cameraUuid, kind, timestamp, timestamp, none, none⟩]
  | some kind, none => incidents ++ [⟨fresh, cameraUuid, kind, timestamp, timestamp, none, none⟩]
  | none, some incident =>
      if state = .healthy then
        resolveIncident incidents incident.incidentUuid timestamp .recovered
      else if state = .disabled then
        resolveIncident incidents incident.incidentUuid timestamp .operatorDisabled
      else
        incidents
  | none, none => incidents

/-- Records the event unless it repeats the state and reason of the camera's latest one. -/
def recordEvent (events : List HealthEvent) (event : HealthEvent) : List HealthEvent :=
  match latestOf (events.filter (·.cameraUuid = event.cameraUuid)) with
  | some previous =>
      if previous.state = event.state && previous.reason = event.reason then
        events
      else
        events ++ [event]
  | none => events ++ [event]

/-- `fresh` is the uuid of an incident, if one is opened. -/
def recordCameraHealthTransition (repository : Repository) (cameraUuid : String)
    (timestamp : Nat) (fresh : String) : Repository :=
  match cameraHealthState repository cameraUuid with
  | none => repository
  | some (state, reason) =>
      { repository with
        healthEvents :=
          recordEvent repository.healthEvents ⟨cameraUuid, state, reason, timestamp⟩
        incidents := reconcileIncidents repository.incidents cameraUuid state timestamp fresh }

/-! Statements shared by the operations. -/

def StreamRow.pending (stream : StreamRow) : StreamRow :=
  { stream with healthStatus := .unknown, consecutiveFailures := 0 }

def bindRole (repository : Repository) (cameraUuid : String) (role : Role)
    (streamUuid : String) : Repository :=
  let added : BindingRow := ⟨cameraUuid, role, streamUuid⟩
  { repository with
    bindings :=
      if (rowAt BindingRow.key repository.bindings added.key).isSome then
        repository.bindings.map fun binding => if binding.key = added.key then added else binding
      else
        repository.bindings ++ [added] }

/-- Every stream that a binding refers to exists. -/
def foreignKeysHold (repository : Repository) : Bool :=
  repository.bindings.all (fun binding => (repository.stream binding.streamUuid).isSome) &&
    repository.frigateStreams.all fun row =>
      (repository.stream row.recordStreamUuid).isSome &&
        (repository.stream row.detectStreamUuid).isSome

/-- ON DELETE CASCADE from the profiles to their streams. -/
def cascadeStreams (repository : Repository) : Repository :=
  { repository with
    streams := repository.streams.filter fun stream =>
      (rowAt ProfileRow.profileUuid repository.profiles stream.profileUuid).isSome }

section
variable [TextCase] [UrlText]

/-- `_source_parts`; `none` where `urllib.parse` raises. -/
def sourceParts (uri : Option String) : Option SourceParts :=
  match uri with
  | none => some {}
  | some text => if text = "" then some {} else UrlText.split text

/-- `_source_uri`. -/
def sourceUri (profile : ProfileRow) : String :=
  if profile.source.scheme.getD "" ≠ "" && profile.source.host.getD "" ≠ "" then
    UrlText.unsplit profile.source
  else
    profile.uri.getD "None"

structure SourceKey where
  host : String
  port : Nat
  path : String
  query : String
  deriving DecidableEq, Repr

/-- `text.rstrip(".")`. -/
def stripDots (text : String) : String :=
  String.ofList ((text.toList.reverse.dropWhile (· = '.')).reverse)

/-- `_rtsp_source_key`; `none` where it raises. -/
def rtspSourceKey (uri : String) : Option SourceKey := do
  let parts ← UrlText.split uri
  if TextCase.lower (textOf parts.scheme) ≠ "rtsp" || textOf parts.host = "" then
    none
  else
    some {
      host := stripDots (TextCase.lower (textOf parts.host))
      port := if parts.port.getD 0 = 0 then 554 else parts.port.getD 0
      path := if textOf parts.path = "" then "/" else textOf parts.path
      query := textOf parts.query }

/-- The first camera with a stored source among the rejected keys. -/
def assignedCamera (repository : Repository) (rejected : List SourceKey) : Option CameraRow :=
  (repository.profiles.find? fun profile =>
    (profile.uri.isSome || (profile.source.scheme.isSome && profile.source.host.isSome)) &&
      (rtspSourceKey (sourceUri profile)).any (· ∈ rejected)).bind fun profile =>
    repository.camera profile.cameraUuid

/-! Adoption. -/

structure ProfileInput where
  token : String
  uri : Option String
  sourceKind : String := "onvif"
  deriving DecidableEq, Repr

structure AdoptRequest where
  candidateUuid : String
  displayName : String
  username : String
  password : String
  profiles : List ProfileInput
  roles : Role → Option String
  cameraOrigin : String := "discovery"
  rejectSourceKeys : List SourceKey := []

def upsertCredential (repository : Repository) (credential : CredentialRow) : Repository :=
  { repository with
    credentials :=
      if (rowAt CredentialRow.credentialUuid repository.credentials
          credential.credentialUuid).isSome then
        repository.credentials.map fun row =>
          if row.credentialUuid = credential.credentialUuid then credential else row
      else
        repository.credentials ++ [credential] }

def upsertCamera (repository : Repository) (camera : CameraRow) : Repository :=
  { repository with
    cameras :=
      if (rowAt CameraRow.candidateUuid repository.cameras camera.candidateUuid).isSome then
        repository.cameras.map fun row =>
          if row.candidateUuid = camera.candidateUuid then
            { row with displayName := camera.displayName, credentialUuid := camera.credentialUuid }
          else
            row
      else
        repository.cameras ++ [camera] }

/-- The camera that stands for the candidate. -/
def cameraOf (repository : Repository) (candidateUuid : String) : Option String :=
  (rowAt CameraRow.candidateUuid repository.cameras candidateUuid).map (·.cameraUuid)

/-- The uuid of the camera an adoption stores: the candidate's, or a new one. -/
def adoptedUuid (repository : Repository) (candidateUuid fresh : String) : String :=
  (cameraOf repository candidateUuid).getD fresh

def adoptedCustom (repository : Repository) (candidateUuid : String) : Bool :=
  ((rowAt CameraRow.candidateUuid repository.cameras candidateUuid).map
    (·.streamSettingsCustom)).getD false

/-- The credential and camera rows of an adoption. -/
def nameCamera (repository : Repository) (request : AdoptRequest) (uuids : Nat → String) :
    Repository :=
  let existing := rowAt CameraRow.candidateUuid repository.cameras request.candidateUuid
  let credentialUuid := (existing.map (·.credentialUuid)).getD (uuids 1)
  upsertCamera
    (upsertCredential repository ⟨credentialUuid, request.username, request.password⟩)
    { cameraUuid := adoptedUuid repository request.candidateUuid (uuids 0)
      candidateUuid := request.candidateUuid
      displayName := request.displayName
      credentialUuid := credentialUuid }

/-- The token each role of the camera is bound to. -/
def boundToken (repository : Repository) (cameraUuid : String) (role : Role) : Option String := do
  let binding ← rowAt BindingRow.key repository.bindings (cameraUuid, role)
  let stream ← repository.stream binding.streamUuid
  let profile ← rowAt ProfileRow.profileUuid repository.profiles stream.profileUuid
  pure profile.profileToken

/-- The roles an adoption binds: an operator's choice stays. -/
def adoptedRoles (repository : Repository) (cameraUuid : String) (custom : Bool)
    (roles : Role → Option String) : Role → Option String :=
  if custom then boundToken repository cameraUuid else roles

def deleteBindings (repository : Repository) (cameraUuid : String) : Repository :=
  { repository with bindings := repository.bindings.filter (·.cameraUuid ≠ cameraUuid) }

/-- Deletes the camera's profiles without a current token, except those behind a disabled
stream. -/
def pruneProfiles (repository : Repository) (cameraUuid : String) (tokens : List String) :
    Repository :=
  if tokens.isEmpty then
    repository
  else
    cascadeStreams { repository with
      profiles := repository.profiles.filter fun profile =>
        !(profile.cameraUuid = cameraUuid && profile.profileToken ∉ tokens &&
          !repository.streams.any fun stream =>
            stream.profileUuid = profile.profileUuid && !stream.enabled) }

/-- The insert or update of one profile; returns its uuid. -/
def storeProfile (repository : Repository) (cameraUuid : String) (profile : ProfileInput)
    (source : SourceParts) (fresh : String) : Repository × String :=
  match rowAt ProfileRow.key repository.profiles (cameraUuid, profile.token) with
  | some existing =>
      ({ repository with
          profiles := repository.profiles.map fun row =>
            if row.key = (cameraUuid, profile.token) then
              { row with uri := profile.uri, source := source, sourceKind := profile.sourceKind }
            else
              row },
        existing.profileUuid)
  | none =>
      ({ repository with
          profiles := repository.profiles ++
            [⟨fresh, cameraUuid, profile.token, profile.uri, source, profile.sourceKind⟩] },
        fresh)

/-- The insert or reset of the stream of a profile; returns its uuid. -/
def storeStream (repository : Repository) (cameraUuid profileUuid : String) (custom : Bool)
    (fresh : String) : Repository × String :=
  match rowAt StreamRow.profileUuid repository.streams profileUuid with
  | some stream =>
      ({ repository with
          streams := repository.streams.map fun row =>
            if row.streamUuid = stream.streamUuid then row.pending else row },
        stream.streamUuid)
  | none =>
      ({ repository with
          streams := repository.streams ++
            [⟨fresh, cameraUuid, profileUuid, "stream_" ++ fresh, !custom, .unknown, 0⟩] },
        fresh)

def upsertProfile (repository : Repository) (cameraUuid : String) (profile : ProfileInput)
    (source : SourceParts) (custom : Bool) (freshProfile freshStream : String) :
    Repository × String :=
  let (stored, profileUuid) := storeProfile repository cameraUuid profile source freshProfile
  storeStream stored cameraUuid profileUuid custom freshStream

/-- The profiles in order; `uuids` gives two values to each. Returns the stream of every
token, the last one first. -/
def upsertProfiles (repository : Repository) (cameraUuid : String) (custom : Bool)
    (uuids : Nat → String) (streamsByToken : List (String × String)) :
    List ProfileInput → Nat → Option (Repository × List (String × String))
  | [], _ => some (repository, streamsByToken)
  | profile :: rest, position => do
      let source ← sourceParts profile.uri
      let (next, streamUuid) := upsertProfile repository cameraUuid profile source custom
        (uuids position) (uuids (position + 1))
      upsertProfiles next cameraUuid custom uuids ((profile.token, streamUuid) :: streamsByToken)
        rest (position + 2)

/-- Binds a role whose token was stored. -/
def bindStored (repository : Repository) (cameraUuid : String) (roles : Role → Option String)
    (streamsByToken : List (String × String)) (role : Role) : Repository :=
  match (roles role).bind fun token => streamsByToken.lookup token with
  | some streamUuid => bindRole repository cameraUuid role streamUuid
  | none => repository

def bindRoles (repository : Repository) (cameraUuid : String) (roles : Role → Option String)
    (streamsByToken : List (String × String)) : Repository :=
  bindStored (bindStored repository cameraUuid roles streamsByToken .record) cameraUuid roles
    streamsByToken .detect

/-- `uuids` gives the values of `uuid.uuid4()`: camera, credential, incident, then two for
each profile. -/
def adopt (repository : Repository) (request : AdoptRequest) (timestamp : Nat)
    (uuids : Nat → String) : Except StorageError Repository := do
  if request.cameraOrigin ∉ ["discovery", "direct"] then
    throw (.value "Camera origin is invalid")
  if let some camera := assignedCamera repository request.rejectSourceKeys then
    throw (.sourceAlreadyAssigned camera.cameraUuid camera.displayName)
  let cameraUuid := adoptedUuid repository request.candidateUuid (uuids 0)
  let custom := adoptedCustom repository request.candidateUuid
  let named := nameCamera repository request uuids
  let tokens := request.profiles.map (·.token)
  let roles := adoptedRoles named cameraUuid custom request.roles
  if custom && [Role.record, Role.detect].any fun role => (roles role).any (· ∉ tokens) then
    throw (.value "Selected stream profiles are missing; existing settings were preserved")
  let pruned := pruneProfiles (deleteBindings named cameraUuid) cameraUuid tokens
  if !foreignKeysHold pruned then
    throw .integrity
  let some (stored, streamsByToken) :=
    upsertProfiles pruned cameraUuid custom uuids [] request.profiles 3
    | throw .uri
  pure (recordCameraHealthTransition (bindRoles stored cameraUuid roles streamsByToken)
    cameraUuid timestamp (uuids 2))

/-- The updates of the profiles with a new source, and of their streams. -/
def saveSources (repository : Repository) (cameraUuid : String)
    (sources : List (String × String × SourceParts)) : Repository :=
  let profiles := repository.profiles.map fun row =>
    match sources.lookup row.profileToken with
    | some (uri, source) =>
        if row.cameraUuid = cameraUuid then
          { row with uri := some uri, source := source }
        else
          row
    | none => row
  { repository with
    profiles := profiles
    streams := repository.streams.map fun row =>
      if row.cameraUuid = cameraUuid && profiles.any fun profile =>
          profile.profileUuid = row.profileUuid && profile.cameraUuid = cameraUuid &&
            (sources.lookup profile.profileToken).isSome then
        row.pending
      else
        row }

/-- `sources` are the items of `sources_by_token`. -/
def updateProfileSources (repository : Repository) (cameraUuid : String)
    (sources : List (String × String)) (timestamp : Nat) (fresh : String) :
    Except StorageError Repository :=
  if sources.isEmpty then
    .ok repository
  else if !sources.all fun (token, _) =>
      (rowAt ProfileRow.key repository.profiles (cameraUuid, token)).isSome then
    .error (.value "Cannot update an unknown camera profile")
  else
    match sources.mapM fun (token, uri) =>
        (sourceParts (some uri)).map fun source => (token, uri, source) with
    | none => .error .uri
    | some parsed =>
        .ok (recordCameraHealthTransition (saveSources repository cameraUuid parsed) cameraUuid
          timestamp fresh)

end

/-! The other operations. -/

/-- Enables exactly the given streams of the camera and marks its settings as chosen. -/
def saveStreams (repository : Repository) (cameraUuid : String) (enabled : List String) :
    Repository :=
  { repository with
    streams := repository.streams.map fun row =>
      if row.cameraUuid = cameraUuid then
        { row with enabled := decide (row.streamUuid ∈ enabled) }
      else
        row
    cameras := repository.cameras.map fun row =>
      if row.cameraUuid = cameraUuid then { row with streamSettingsCustom := true } else row }

def setStreamSettings (repository : Repository) (cameraUuid : String) (enabled : List String)
    (roles : Role → Option String) (timestamp : Nat) (fresh : String) :
    Except StorageError Repository :=
  let streamIds := (repository.streams.filter (·.cameraUuid = cameraUuid)).map (·.streamUuid)
  if streamIds.isEmpty then
    .error (.value "Adopted camera not found")
  else if !(decide enabled.Nodup && enabled.all (· ∈ streamIds)) then
    .error (.value "Invalid enabled stream selection")
  else
    match roles .record, roles .detect with
    | some record, some detect =>
        if record ∈ enabled && detect ∈ enabled then
          .ok (recordCameraHealthTransition
            (bindRole (bindRole (saveStreams repository cameraUuid enabled) cameraUuid .record
              record) cameraUuid .detect detect) cameraUuid timestamp fresh)
        else
          .error (.value "Record and Detect must each use an enabled stream")
    | _, _ => .error (.value "Record and Detect must each use an enabled stream")

/-- Returns whether the camera exists. -/
def setCameraEnabled (repository : Repository) (cameraUuid : String) (enabled : Bool)
    (timestamp : Nat) (fresh : String) : Repository × Bool :=
  match repository.camera cameraUuid with
  | none => (repository, false)
  | some _ =>
      let changed : Repository := { repository with
        cameras := repository.cameras.map fun row =>
          if row.cameraUuid = cameraUuid then { row with enabled := enabled } else row }
      (recordCameraHealthTransition changed cameraUuid timestamp fresh, true)

def replaceCameraCredentials (repository : Repository) (cameraUuid username password : String)
    (timestamp : Nat) (fresh : String) : Repository × Bool :=
  match repository.camera cameraUuid with
  | none => (repository, false)
  | some camera =>
      let changed : Repository := { repository with
        credentials := repository.credentials.map fun row =>
          if row.credentialUuid = camera.credentialUuid then
            ⟨camera.credentialUuid, username, password⟩
          else
            row
        streams := repository.streams.map fun row =>
          if row.cameraUuid = cameraUuid then row.pending else row }
      (recordCameraHealthTransition changed cameraUuid timestamp fresh, true)

/-- The stored health of a stream after one more probe. -/
def probedStream (status : ProbeStatus) (stream : StreamRow) : StreamRow :=
  let failures :=
    if status = .ready || status = .idle then 0 else stream.consecutiveFailures + 1
  let health : HealthStatus :=
    if status = .ready then
      .healthy
    else if status = .idle then
      .unknown
    else if status = .authFailed then
      .authFailed
    else if 3 ≤ failures then
      .offline
    else if 2 ≤ failures then
      .degraded
    else if stream.healthStatus = .healthy then
      .healthy
    else
      .unknown
  { stream with healthStatus := health, consecutiveFailures := failures }

/-- Stores the results and returns the affected cameras. -/
def storeProbeResults (repository : Repository) (affected : List String) :
    List (String × ProbeStatus) → Repository × List String
  | [] => (repository, affected)
  | (streamUuid, status) :: rest =>
      match repository.stream streamUuid with
      | none => storeProbeResults repository affected rest
      | some stream =>
          storeProbeResults
            { repository with
              streams := repository.streams.map fun row =>
                if row.streamUuid = streamUuid then probedStream status row else row }
            (if stream.cameraUuid ∈ affected then affected else affected ++ [stream.cameraUuid])
            rest

/-- One transition for each of the cameras. -/
def recordTransitions (repository : Repository) (timestamp : Nat) (uuids : Nat → String) :
    List String → Nat → Repository
  | [], _ => repository
  | cameraUuid :: rest, position =>
      recordTransitions
        (recordCameraHealthTransition repository cameraUuid timestamp (uuids position))
        timestamp uuids rest (position + 1)

def recordProbeResults (repository : Repository) (results : List (String × ProbeStatus))
    (timestamp : Nat) (uuids : Nat → String) : Repository :=
  let (stored, affected) := storeProbeResults repository [] results
  recordTransitions stored timestamp uuids affected 0

/-- The rows that go with a camera: ON DELETE CASCADE of every table that refers to it. -/
def deleteCamera (repository : Repository) (cameraUuid : String) : Repository :=
  cascadeStreams { repository with
    cameras := repository.cameras.filter (·.cameraUuid ≠ cameraUuid)
    profiles := repository.profiles.filter (·.cameraUuid ≠ cameraUuid)
    streams := repository.streams.filter (·.cameraUuid ≠ cameraUuid)
    bindings := repository.bindings.filter (·.cameraUuid ≠ cameraUuid)
    healthEvents := repository.healthEvents.filter (·.cameraUuid ≠ cameraUuid)
    incidents := repository.incidents.filter (·.cameraUuid ≠ cameraUuid)
    frigateStreams := repository.frigateStreams.filter (·.cameraUuid ≠ cameraUuid) }

def unadoptCamera (repository : Repository) (cameraUuid : String) :
    Except StorageError (Repository × Bool) :=
  match repository.camera cameraUuid with
  | none => pure (repository, false)
  | some camera =>
      let deleted := deleteCamera repository cameraUuid
      if !foreignKeysHold deleted then
        throw .integrity
      else if deleted.cameras.any (·.credentialUuid = camera.credentialUuid) then
        throw .integrity
      else
        let remaining := deleted.credentials.filter (·.credentialUuid ≠ camera.credentialUuid)
        pure ({ deleted with credentials := remaining }, true)

/-- What Frigate synchronisation makes of its own table. -/
def setFrigateStreams (repository : Repository) (rows : List FrigateStreamsRow) :
    Except StorageError Repository :=
  let changed := { repository with frigateStreams := rows }
  if foreignKeysHold changed then pure changed else throw .integrity

end CamAdmiral
