import CamAdmiral.OnvifFaults
import CamAdmiral.StoredSources

/-!
What one camera can do to the recovery of the others. Whatever it answers decides about its own
plan only, as long as its inspection does not raise; if it does, no camera is planned.
-/

namespace CamAdmiral

/-! The network as the cameras make it. -/

structure RecoveryNetwork where
  due : String → String → Bool
  answers : Device → CameraAnswers
  probe : String → String → String → Option ProbeStatus

/-- Without a username the requests are not signed. -/
def onvifCredentials (username password : String) : Option (String × String) :=
  if username = "" then none else some (username, password)

section
variable [TextCase] [PrivateAddresses]

def RecoveryNetwork.inspection (network : RecoveryNetwork) (candidate : Device)
    (username password : String) : Inspection (List (String × String)) :=
  Inspection.inspectOnvifCandidate (network.answers candidate) candidate
    (onvifCredentials username password)

def RecoveryNetwork.world (network : RecoveryNetwork) : RecoveryWorld where
  due := network.due
  inspect candidate username password := (network.inspection candidate username password []).1
  probe := network.probe

/-- What the inspection of a device looks at. -/
def RecoveryNetwork.consulted (network : RecoveryNetwork) (candidate : Device)
    (username password : String) : List Consulted :=
  (network.inspection candidate username password []).2

end

/-- Nothing at the address of the device can be reached. -/
def RecoveryWorld.without [UrlText] (world : RecoveryWorld) (device : Device) : RecoveryWorld where
  due := world.due
  inspect candidate username password :=
    if candidate = device then
      .error (.refused "unreachable")
    else
      world.inspect candidate username password
  probe uri username password :=
    if UrlText.hostname uri = device.ip then
      some .failed
    else
      world.probe uri username password

section
variable [TextCase] [UrlText]

/-! The planning, camera by camera. -/

/-- The planning comes to the validation of the camera's sources on the device. -/
structure Validates (repository : Repository) (due : String → String → Bool)
    (inventory : List Device) (links : List (String × Device)) (camera : CameraRow)
    (candidate : Device) (previous : String) (credentials : CredentialRow) : Prop where
  enabled : camera.enabled = true
  linked : linkedCandidate inventory links camera = some candidate
  online : candidate.status = some .online
  unconflicted : candidate.identityConflict = false
  evident : hasEvidence candidate = true
  addressed : candidate.ip ≠ ""
  moved : previousHosts (cameraStreams repository camera.cameraUuid) = [previous]
  differs : previous ≠ candidate.ip
  due : due camera.cameraUuid candidate.ip = true
  known : rowAt CredentialRow.credentialUuid repository.credentials camera.credentialUuid =
    some credentials

theorem Validates.assess {repository : Repository} {world : RecoveryWorld}
    {inventory : List Device} {links : List (String × Device)} {camera : CameraRow}
    {candidate : Device} {previous : String} {credentials : CredentialRow}
    (validates : Validates repository world.due inventory links camera candidate previous
      credentials) :
    CamAdmiral.assess repository world inventory links camera =
      planMove repository world camera candidate previous := by
  simp [CamAdmiral.assess, validates.enabled, validates.linked, validates.online,
    validates.unconflicted, validates.evident, validates.addressed, validates.moved,
    validates.differs, validates.due]

/-- All sources of the camera come from its ONVIF service. -/
def UsesOnvif (streams : List AdoptedStream) : Prop :=
  streams ≠ [] ∧ ∀ entry ∈ streams, sourceKindOf entry.2 = "onvif"

variable [PrivateAddresses]

/-- Nothing that the validation of the camera looks at raises. -/
def Readable (repository : Repository) (network : RecoveryNetwork) (inventory : List Device)
    (links : List (String × Device)) (camera : CameraRow) : Prop :=
  ∀ candidate previous credentials,
    Validates repository network.due inventory links camera candidate previous credentials →
    UsesOnvif (cameraStreams repository camera.cameraUuid) →
    ∀ item ∈ network.consulted candidate credentials.username credentials.password,
      item.faulty = false

end

/-! Two cameras at new addresses: the front door, which is asked over ONVIF, and the yard gate,
which has a stream of its own. -/

end CamAdmiral
