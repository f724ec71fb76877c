import CamAdmiral.RecoveryCore

/-!
The dashboard: the scanned devices with the adoptions of the cameras. A camera with a verified
identity is shown at the device that has this identity, one device may back several cameras,
and direct cameras and blocked devices are listed where no scanned device stands for them.
-/

namespace CamAdmiral

/-- What `adoption_for_candidate` returns. -/
structure Adoption where
  camera : CameraRow
  cameraOrigin : String
  roles : List (Role × String) := []
  streams : List AdoptedStream := []
  deriving DecidableEq, Repr

/-- The key in `adoption_map`. -/
def Adoption.candidateUuid (adoption : Adoption) : String := adoption.camera.candidateUuid

structure BlockedDevice where
  blockUuid : String
  candidateUuid : Option String
  onvifIdentity : Option String
  mac : Option String
  displayName : String
  lastIp : Option String
  deriving DecidableEq, Repr

structure CameraSelection where
  addressMode : String
  detectSize : Option (Nat × Nat) := none
  syncError : Option String := none
  deriving DecidableEq, Repr

structure TargetBinding where
  status : String
  lastErrorCode : Option String := none
  deriving DecidableEq, Repr

/-- A Frigate target with its selections and bindings by camera. -/
structure TargetBindings where
  targetId : String
  name : String
  addressMode : Option String := none
  selections : List (String × CameraSelection) := []
  bindings : List (String × TargetBinding) := []
  deriving DecidableEq, Repr

structure TargetStatus where
  targetId : String
  target : String
  selected : Bool
  addressMode : String
  status : String
  errorCode : Option String := none
  detectSize : Option (Nat × Nat) := none
  deriving DecidableEq, Repr

/-- An adoption as a device carries it. -/
structure DecoratedAdoption where
  adoption : Adoption
  thumbnailCapturedAt : Option String
  frigate : List TargetStatus
  deriving DecidableEq, Repr

structure DashboardDevice where
  device : Device
  adoption : Option DecoratedAdoption := none
  cameraOrigin : Option String := none
  blockUuid : Option String := none
  deriving DecidableEq, Repr

structure DashboardSummary where
  devices : Nat
  online : Nat
  offline : Nat
  blocked : Nat
  deriving DecidableEq, Repr

/-- `shown` comes first in the list of devices, then the blocked devices that none of them
stands for. -/
structure Dashboard where
  shown : List DashboardDevice
  blocked : List DashboardDevice
  summary : DashboardSummary
  deriving DecidableEq, Repr

def Dashboard.devices (dashboard : Dashboard) : List DashboardDevice :=
  dashboard.shown ++ dashboard.blocked

/-- The tables and answers that the projection reads. -/
structure DashboardInput where
  devices : List Device
  adoptions : List Adoption
  links : List (String × Device)
  blockedRecords : List BlockedDevice
  frigateBindings : List TargetBindings
  /-- `captured_at` of the cached frame of a camera. -/
  capturedAt : String → Option String
  /-- `hostname` and `port` of a URI; `none` where `urlsplit` or `port` raises. -/
  sourceAddress : String → Option (Option String × Option Nat)

/-! The adoption of a device. -/

def targetStatus (cameraUuid : String) (target : TargetBindings) : TargetStatus :=
  let selection := target.selections.lookup cameraUuid
  let selected := selection.isSome
  let binding := if selected then target.bindings.lookup cameraUuid else none
  let syncError := (selection.bind (·.syncError)).filter (· ≠ "")
  { targetId := target.targetId
    target := target.name
    selected := selected
    addressMode := target.addressMode.getD ((selection.map (·.addressMode)).getD "lan")
    status :=
      if syncError.isSome then "error"
      else match binding with
        | some found => found.status
        | none => if selected then "pending" else "not_synced"
    errorCode := syncError <|> ((binding.bind (·.lastErrorCode)).filter (· ≠ ""))
    detectSize := selection.bind (·.detectSize) }

def decorateAdoption (input : DashboardInput) (adoption : Adoption) : DecoratedAdoption where
  adoption := adoption
  thumbnailCapturedAt := input.capturedAt adoption.camera.cameraUuid
  frigate := input.frigateBindings.map (targetStatus adoption.camera.cameraUuid)

def adoptionOf (adoptions : List Adoption) (candidateUuid : String) : Option Adoption :=
  rowAt Adoption.candidateUuid adoptions candidateUuid

section
variable [TextCase]

/-! Projecting the adoptions onto the devices. -/

/-- The entries of `owners_by_physical`, with the device each is listed under. -/
def linkedOwners (input : DashboardInput) : List (String × Device) :=
  input.adoptions.filterMap fun adoption =>
    if (input.links.lookup adoption.camera.cameraUuid).isNone then
      none
    else
      (linkedCandidate input.devices input.links adoption.camera).map fun physical =>
        (adoption.candidateUuid, physical)

def ownersOf (owners : List (String × Device)) (physicalUuid : String) :
    List (String × Device) :=
  owners.filter fun owner => owner.2.candidateUuid = physicalUuid

def channelRow (candidateUuid : String) (physical : Device) : Device :=
  { physical with candidateUuid := candidateUuid }

/-- One row for each owner that is not the device itself, with the ids projected so far. -/
def projectChannels (deviceUuid : String) :
    List (String × Device) → List String → List Device × List String
  | [], projectedIds => ([], projectedIds)
  | (candidateUuid, physical) :: rest, projectedIds =>
      if candidateUuid ≠ deviceUuid ∧ candidateUuid ∉ projectedIds then
        let next := projectChannels deviceUuid rest (candidateUuid :: projectedIds)
        (channelRow candidateUuid physical :: next.1, next.2)
      else
        projectChannels deviceUuid rest projectedIds

/-- The row of the device itself, which an adoption of its own or the lack of owners keeps. -/
def ownRow (owners : List (String × Device)) (adoptions : List Adoption) (device : Device) :
    List Device :=
  if owners.isEmpty || (adoptionOf adoptions device.candidateUuid).isSome then
    [((owners.find? fun owner => owner.1 = device.candidateUuid).map (·.2)).getD device]
  else
    []

def projectDevices (owners : List (String × Device)) (adoptions : List Adoption) :
    List Device → List String → List Device
  | [], _ => []
  | device :: rest, projectedIds =>
      let mine := ownersOf owners device.candidateUuid
      let channels := projectChannels device.candidateUuid mine projectedIds
      ownRow mine adoptions device ++ channels.1 ++
        projectDevices owners adoptions rest channels.2

/-! Decorating the devices. -/

/-- The last record that has the value, as a dict keeps it. -/
def blockedBy (records : List BlockedDevice) (key : BlockedDevice → Option String)
    (value : String) : Option BlockedDevice :=
  if value = "" then none else records.reverse.find? fun record => key record = some value

/-- The record of a device, unless its two keys name two records. -/
def recognisedBlock (records : List BlockedDevice) (device : Device) : Option BlockedDevice :=
  let identityMatch := blockedBy records (·.onvifIdentity)
    (normalized (device.onvif.bind Onvif.endpointReference))
  let macMatch := blockedBy records (·.mac) (normalized device.mac)
  match identityMatch, macMatch with
  | some one, some two => if one.blockUuid = two.blockUuid then some one else none
  | one, two => one <|> two

def decorateDevice (input : DashboardInput) (device : Device) : DashboardDevice :=
  let blockUuid := (recognisedBlock input.blockedRecords device).map (·.blockUuid)
  match adoptionOf input.adoptions device.candidateUuid with
  | none => { device := device, blockUuid := blockUuid }
  | some adoption =>
      { device := { device with displayName := some adoption.camera.displayName }
        adoption := some (decorateAdoption input adoption)
        cameraOrigin := some adoption.cameraOrigin
        blockUuid := blockUuid }

/-- The row of a direct camera that no device stands for. -/
def directDevice (input : DashboardInput) (adoption : Adoption) : DashboardDevice :=
  let physical :=
    linkedCandidate input.devices input.links adoption.camera
  let sourceUri := textOf ((adoption.streams.head?).bind fun (_, profile) => profile.uri)
  let (host, port) := (input.sourceAddress sourceUri).getD (none, none)
  let rtsp : List RtspEndpoint :=
    [⟨match port with | some (value + 1) => value + 1 | _ => 554, ""⟩]
  let device : Device :=
    match physical with
    | some found =>
        { found with
          candidateUuid := adoption.candidateUuid
          displayName := some adoption.camera.displayName
          rtsp := rtsp
          status := found.status <|> some .offline }
    | none =>
        { candidateUuid := adoption.candidateUuid
          displayName := some adoption.camera.displayName
          ip := textOf host
          rtsp := rtsp
          status := some .online }
  { device := device
    adoption := some (decorateAdoption input adoption)
    cameraOrigin := some "direct" }

def blockedRow (record : BlockedDevice) : DashboardDevice where
  device :=
    { candidateUuid :=
        if textOf record.candidateUuid = "" then "blocked:" ++ record.blockUuid
        else textOf record.candidateUuid
      displayName := some record.displayName
      ip := textOf record.lastIp
      mac := record.mac
      onvif := (record.onvifIdentity.filter (· ≠ "")).map fun identity =>
        { endpointReference := some identity }
      status := some .offline }
  blockUuid := some record.blockUuid

end

/-- `_camera_connectivity_status`. -/
def cameraConnectivityStatus (row : DashboardDevice) : Status :=
  let discovered : Status := if row.device.status = some .online then .online else .offline
  match row.adoption with
  | none => discovered
  | some decorated =>
      let adoption := decorated.adoption
      let roleStreams := (adoption.roles.map (·.2)).filter (· ≠ "")
      let streams := if roleStreams.isEmpty then adoption.streams
        else adoption.streams.filter fun (stream, _) => stream.streamUuid ∈ roleStreams
      let observed := (streams.map fun (stream, _) => stream.healthStatus).filter (· ≠ .unknown)
      if !adoption.camera.enabled || observed.isEmpty then
        discovered
      else if observed.all (· = .offline) then
        .offline
      else
        .online

variable [TextCase]

def decoratedDevices (input : DashboardInput) : List DashboardDevice :=
  (projectDevices (linkedOwners input) input.adoptions input.devices []).map
    (decorateDevice input)

/-- `matched_adoptions`. -/
def matchedAdoptions (input : DashboardInput) : List String :=
  (decoratedDevices input).filterMap fun row =>
    row.adoption.map fun carried => carried.adoption.candidateUuid

/-- `_decorate_adoptions`. -/
def decorateAdoptions (input : DashboardInput) : Dashboard :=
  let decorated := decoratedDevices input
  let direct := (input.adoptions.filter fun adoption =>
    adoption.candidateUuid ∉ matchedAdoptions input ∧
      adoption.cameraOrigin = "direct").map (directDevice input)
  let visibleBlocks := decorated.filterMap (·.blockUuid)
  let blocked := (input.blockedRecords.filter fun record =>
    record.blockUuid ∉ visibleBlocks).map blockedRow
  let visible := (decorated ++ direct ++ blocked).filter (·.blockUuid.isNone)
  { shown := decorated ++ direct
    blocked := blocked
    summary :=
      { devices := visible.length
        online := visible.countP fun row => cameraConnectivityStatus row = .online
        offline := visible.countP fun row => cameraConnectivityStatus row = .offline
        blocked := input.blockedRecords.length } }

end CamAdmiral
