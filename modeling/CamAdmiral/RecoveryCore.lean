import CamAdmiral.InventoryCore
import CamAdmiral.StorageCore

/-!
Recovery of camera addresses: cameras that the inventory shows at a new address are planned
one by one, and then their sources are moved in one attempt with a rollback. The definitions
follow the source; an exception is raised at a given step of the attempt, or by the data.
-/

namespace CamAdmiral

inductive RecoveryStatus
  | recovered
  | runtimeFailed
  | profilesChanged
  | endpointMismatch
  | mixedSources
  | error
  | probe (status : ProbeStatus)
  | onvif (code : String)
  deriving DecidableEq, Repr

structure RecoveryResult where
  cameraUuid : String
  status : RecoveryStatus
  previousAddress : String
  currentAddress : String
  deriving DecidableEq, Repr

/-- `updates` and `previousSources` are items of dicts from profile tokens to URIs. -/
structure RecoveryPlan where
  cameraUuid : String
  previousAddress : String
  currentAddress : String
  updates : List (String × String)
  previousSources : List (String × String)
  probeResults : List (String × ProbeStatus)
  deriving DecidableEq, Repr

/-- An `OnvifInspectionError` with its code, or another exception. -/
inductive InspectionFailure
  | refused (code : String)
  | raised
  deriving DecidableEq, Repr

/-- The network and the clock as the planning sees them. -/
structure RecoveryWorld where
  /-- No attempt for the camera and address within the retry interval. -/
  due : String → String → Bool
  /-- The tokens and URIs of `inspect_onvif_candidate`, or how it fails. -/
  inspect : Device → String → String → Except InspectionFailure (List (String × String))
  /-- `probe_source` with a username and a password; `none` where it raises. -/
  probe : String → String → String → Option ProbeStatus

/-- A stream as an adoption lists it, with its profile. -/
abbrev AdoptedStream := StreamRow × ProfileRow

/-- The streams of `adoption_for_candidate`, by profile token. -/
def cameraStreams (repository : Repository) (cameraUuid : String) : List AdoptedStream :=
  ((repository.streams.filter (·.cameraUuid = cameraUuid)).filterMap fun stream =>
    (rowAt ProfileRow.profileUuid repository.profiles stream.profileUuid).map fun profile =>
      (stream, profile)).insertionSort fun first second =>
        first.2.profileToken ≤ second.2.profileToken

/-- `stream.get("uri")` where it is true. -/
def ProfileRow.givenUri (profile : ProfileRow) : Option String := profile.uri.filter (· ≠ "")

/-- `_read_inventory`, the dict from candidate uuids to devices: a later device takes the place
of an earlier one. -/
def recoveryInventory (devices : List Device) : List Device :=
  devices.foldl (fun inventory device =>
    if device.candidateUuid = "" then
      inventory
    else if inventory.any (·.candidateUuid = device.candidateUuid) then
      inventory.map fun other =>
        if other.candidateUuid = device.candidateUuid then device else other
    else
      inventory ++ [device]) []

/-- The first of two texts that is not empty. -/
def firstText (first second : Option String) : String :=
  if textOf first = "" then textOf second else textOf first

section
variable [TextCase] [UrlText]

def sameIdentity (expected observed : Sighting) : Bool :=
  let endpoint := normalized (expected.onvif.bind Onvif.endpointReference)
  let newEndpoint := normalized (observed.onvif.bind Onvif.endpointReference)
  let mac := normalized expected.mac
  let newMac := normalized observed.mac
  if endpoint ≠ "" && newEndpoint ≠ "" then
    endpoint = newEndpoint
  else
    mac ≠ "" && newMac ≠ "" && mac = newMac

/-- `links` are the verified identities by camera. -/
def linkedCandidate (inventory : List Device) (links : List (String × Device))
    (camera : CameraRow) : Option Device :=
  match links.lookup camera.cameraUuid with
  | none => rowAt (·.candidateUuid) inventory camera.candidateUuid
  | some saved =>
      let found := inventory.filter fun device => sameIdentity saved.toSighting device.toSighting
      if 1 < found.length || found.any (·.identityConflict) then
        none
      else
        match found with
        | current :: _ =>
            if textOf saved.lastSeen ≤ firstText current.lastServiceSeen current.lastSeen then
              some current
            else
              some saved
        | [] => some saved

/-- Whether `_evidence` finds any. -/
def hasEvidence (candidate : Device) : Bool :=
  textOf (candidate.onvif.bind Onvif.endpointReference) ≠ "" || textOf candidate.mac ≠ ""

/-- `_replace_host`; `none` where it raises. -/
def replaceHost (uri address : String) : Option String :=
  (UrlText.split uri).map fun parts => UrlText.unsplit { parts with host := some address }

def sourceKindOf (profile : ProfileRow) : String :=
  if profile.sourceKind = "" then "onvif" else profile.sourceKind

/-- The new sources, a status that ends the attempt, or an exception. -/
inductive Proposed
  | updates (updates : List (String × String))
  | rejected (status : RecoveryStatus)
  | raised
  deriving DecidableEq, Repr

def proposeOnvif (world : RecoveryWorld) (candidate : Device) (streams : List AdoptedStream)
    (username password : String) : Proposed :=
  match world.inspect candidate username password with
  | .error (.refused code) => .rejected (.onvif code)
  | .error .raised => .raised
  | .ok profiles =>
      let discovered := (profiles.filter fun (token, uri) => token ≠ "" && uri ≠ "").reverse
      let tokens := streams.map fun (_, profile) => profile.profileToken
      let enabled := (streams.filter fun (stream, _) => stream.enabled).map
        fun (_, profile) => profile.profileToken
      if enabled.isEmpty || enabled.any fun token => (discovered.lookup token).isNone then
        .rejected .profilesChanged
      else
        let updates := tokens.filterMap fun token =>
          (discovered.lookup token).map fun uri => (token, uri)
        if updates.any fun (_, uri) => UrlText.hostname uri ≠ candidate.ip then
          .rejected .endpointMismatch
        else
          .updates updates

def proposeRtsp (candidate : Device) (streams : List AdoptedStream) : Proposed :=
  let moved := (streams.filterMap fun (_, profile) =>
    profile.givenUri.map fun uri => (profile.profileToken, uri)).mapM fun (token, uri) =>
      (replaceHost uri candidate.ip).map fun replaced => (token, replaced)
  match moved with
  | some updates => .updates updates
  | none => .raised

def proposeUpdates (world : RecoveryWorld) (candidate : Device) (streams : List AdoptedStream)
    (username password : String) : Proposed :=
  let kinds := streams.map fun (_, profile) => sourceKindOf profile
  if !kinds.isEmpty && kinds.all (· = "onvif") then
    proposeOnvif world candidate streams username password
  else if kinds.all fun kind => kind = "manual_rtsp" || kind = "catalog_rtsp" then
    proposeRtsp candidate streams
  else
    .rejected .mixedSources

/-- The probes of the new sources of the enabled streams; the first that fails ends it. -/
def probeUpdates (world : RecoveryWorld) (enabled : List String) (username password : String) :
    List (String × String) → Except RecoveryStatus (List (String × ProbeStatus))
  | [] => .ok []
  | (token, uri) :: rest =>
      if token ∉ enabled then
        probeUpdates world enabled username password rest
      else
        match world.probe uri username password with
        | none => .error .error
        | some .ready =>
            (probeUpdates world enabled username password rest).map ((token, .ready) :: ·)
        | some status => .error (.probe status)

/-- What becomes of one camera in the planning. -/
inductive Verdict
  | skipped
  | rejected (result : RecoveryResult)
  | planned (plan : RecoveryPlan)
  deriving DecidableEq, Repr

/-- The hosts of the enabled sources, without the unreadable ones. -/
def previousHosts (streams : List AdoptedStream) : List String :=
  (((streams.filter fun (stream, _) => stream.enabled).filterMap fun (_, profile) =>
    profile.givenUri.map UrlText.hostname).filter (· ≠ "")).dedup

/-- The plan of a camera that has moved from `previous` to the candidate's address. -/
def planMove (repository : Repository) (world : RecoveryWorld) (camera : CameraRow)
    (candidate : Device) (previous : String) : Option Verdict :=
  let streams := cameraStreams repository camera.cameraUuid
  match rowAt CredentialRow.credentialUuid repository.credentials camera.credentialUuid with
  | none => some .skipped
  | some credentials =>
      let rejected (status : RecoveryStatus) : Option Verdict :=
        some (.rejected ⟨camera.cameraUuid, status, previous, candidate.ip⟩)
      match proposeUpdates world candidate streams credentials.username credentials.password with
      | .raised => none
      | .rejected status => rejected status
      | .updates updates =>
          let enabled := (streams.filter fun (stream, _) => stream.enabled).map
            fun (_, profile) => profile.profileToken
          match probeUpdates world enabled credentials.username credentials.password updates with
          | .error status => rejected status
          | .ok probeResults =>
              some (.planned {
                cameraUuid := camera.cameraUuid
                previousAddress := previous
                currentAddress := candidate.ip
                updates := updates
                previousSources := streams.filterMap fun (_, profile) =>
                  profile.givenUri.map fun uri => (profile.profileToken, uri)
                probeResults := probeResults })

/-- `none` where an exception ends the planning. -/
def assess (repository : Repository) (world : RecoveryWorld) (inventory : List Device)
    (links : List (String × Device)) (camera : CameraRow) : Option Verdict :=
  if !camera.enabled then
    some .skipped
  else
    match linkedCandidate inventory links camera with
    | none => some .skipped
    | some candidate =>
        if candidate.status ≠ some .online || candidate.identityConflict ||
            !hasEvidence candidate || candidate.ip = "" then
          some .skipped
        else
          match previousHosts (cameraStreams repository camera.cameraUuid) with
          | [previous] =>
              if previous = candidate.ip || !world.due camera.cameraUuid candidate.ip then
                some .skipped
              else
                planMove repository world camera candidate previous
          | _ => some .skipped

/-- The loop over the adopted cameras. -/
def assessCameras (repository : Repository) (world : RecoveryWorld) (inventory : List Device)
    (links : List (String × Device)) : List CameraRow → Option (List Verdict)
  | [] => some []
  | camera :: rest => do
      let verdict ← assess repository world inventory links camera
      let later ← assessCameras repository world inventory links rest
      some (verdict :: later)

def planRecovery (repository : Repository) (world : RecoveryWorld) (devices : List Device)
    (links : List (String × Device)) : Option (List Verdict) :=
  assessCameras repository world (recoveryInventory devices) links repository.cameras

end

def plansOf (verdicts : List Verdict) : List RecoveryPlan :=
  verdicts.filterMap fun verdict => match verdict with
    | .planned plan => some plan
    | _ => none

def rejectionsOf (verdicts : List Verdict) : List RecoveryResult :=
  verdicts.filterMap fun verdict => match verdict with
    | .rejected result => some result
    | _ => none

def RecoveryPlan.result (plan : RecoveryPlan) (status : RecoveryStatus) : RecoveryResult :=
  ⟨plan.cameraUuid, status, plan.previousAddress, plan.currentAddress⟩

/-! The attempt. -/

/-- A step of the attempt at which an exception is raised. -/
inductive RecoveryStep
  | openIncident (cameraUuid : String)
  | updateSources (cameraUuid : String)
  | readSources
  | recordRevision
  | replaceStreams
  | probeRelay
  | recordResults
  deriving DecidableEq, Repr

/-- Returns the uuid of the incident. -/
def openAddressIncident (repository : Repository) (cameraUuid : String) (timestamp : Nat)
    (fresh : String) : Repository × String :=
  let opened := repository.incidents.find? fun incident =>
    incident.cameraUuid = cameraUuid && incident.kind = .cameraAddressChanged &&
      incident.resolvedAt.isNone
  match opened with
  | some incident =>
      ({ repository with
          incidents := repository.incidents.map fun row =>
            if row.incidentUuid = incident.incidentUuid then
              { row with lastObservedAt := timestamp }
            else
              row },
        incident.incidentUuid)
  | none =>
      ({ repository with
          incidents := repository.incidents ++
            [⟨fresh, cameraUuid, .cameraAddressChanged, timestamp, timestamp, none, none⟩] },
        fresh)

def resolveAddressIncident (repository : Repository) (incidentUuid : String) (timestamp : Nat) :
    Repository :=
  match rowAt Incident.incidentUuid repository.incidents incidentUuid with
  | some incident =>
      if incident.kind ≠ .cameraAddressChanged || incident.resolvedAt.isSome then
        repository
      else
        { repository with
          incidents := resolveIncident repository.incidents incidentUuid timestamp
            .streamRecovered }
  | none => repository

/-- What the loop over the plans has done: the plans whose sources are stored, the incidents
it has opened, and whether it got to the end. -/
structure UpdateProgress where
  repository : Repository
  updated : List RecoveryPlan
  incidents : List String
  finished : Bool

section
variable [TextCase] [UrlText]

/-- `uuids` gives two values to each plan. -/
def updatePlans (fault : Option RecoveryStep) (timestamp : Nat) (uuids : Nat → String) :
    Repository → List RecoveryPlan → Nat → UpdateProgress
  | repository, [], _ => ⟨repository, [], [], true⟩
  | repository, plan :: rest, position =>
      if fault = some (.openIncident plan.cameraUuid) then
        ⟨repository, [], [], false⟩
      else
        let (opened, incidentUuid) :=
          openAddressIncident repository plan.cameraUuid timestamp (uuids position)
        if fault = some (.updateSources plan.cameraUuid) then
          ⟨opened, [], [], false⟩
        else
          match updateProfileSources opened plan.cameraUuid plan.updates timestamp
              (uuids (position + 1)) with
          | .error _ => ⟨opened, [], [], false⟩
          | .ok next =>
              let later := updatePlans fault timestamp uuids next rest (position + 2)
              { later with
                updated := plan :: later.updated
                incidents := incidentUuid :: later.incidents }

/-- The probe results of the plans by stream. -/
def empiricalResults (repository : Repository) (plans : List RecoveryPlan) :
    List (String × ProbeStatus) :=
  plans.flatMap fun plan => plan.probeResults.filterMap fun (token, status) =>
    ((cameraStreams repository plan.cameraUuid).find? fun (_, profile) =>
      profile.profileToken = token).map fun (stream, _) => (stream.streamUuid, status)

/-- Stores the previous sources of the updated cameras; `none` where a write raises. -/
def rollbackPlans (timestamp : Nat) (uuids : Nat → String) :
    Repository → List RecoveryPlan → Nat → Option Repository
  | repository, [], _ => some repository
  | repository, plan :: rest, position =>
      match updateProfileSources repository plan.cameraUuid plan.previousSources timestamp
          (uuids position) with
      | .error _ => none
      | .ok next => rollbackPlans timestamp uuids next rest (position + 1)

/-- The steps after the sources are stored that may raise. -/
def laterSteps : List RecoveryStep :=
  [.readSources, .recordRevision, .replaceStreams, .probeRelay, .recordResults]

/-- The attempt for the planned cameras; the loop and what follows it draw from two supplies. -/
def attemptRecovery (repository : Repository) (plans : List RecoveryPlan)
    (fault : Option RecoveryStep) (timestamp : Nat) (uuids : Nat → Nat → String) :
    Option (Repository × List RecoveryResult) :=
  let progress := updatePlans fault timestamp (uuids 0) repository plans 0
  if progress.finished && !laterSteps.any (fault = some ·) then
    let recorded := recordProbeResults progress.repository (empiricalResults repository plans)
      timestamp (uuids 1)
    some (progress.incidents.foldl (resolveAddressIncident · · timestamp) recorded,
      plans.map (·.result .recovered))
  else
    (rollbackPlans timestamp (uuids 1) progress.repository progress.updated 0).map fun restored =>
      (restored, plans.map (·.result .runtimeFailed))

/-- `none` where an exception leaves the function: in the planning or in the rollback. -/
def recoverInventoryAddresses (repository : Repository) (world : RecoveryWorld)
    (devices : List Device) (links : List (String × Device)) (fault : Option RecoveryStep)
    (timestamp : Nat) (uuids : Nat → Nat → String) :
    Option (Repository × List RecoveryResult) := do
  let verdicts ← planRecovery repository world devices links
  if (plansOf verdicts).isEmpty then
    some (repository, rejectionsOf verdicts)
  else
    let (after, results) ←
      attemptRecovery repository (plansOf verdicts) fault timestamp uuids
    some (after, rejectionsOf verdicts ++ results)

end

end CamAdmiral
