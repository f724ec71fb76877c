import CamAdmiral.FirstFit
import CamAdmiral.Mapping
import CamAdmiral.RecoveryCore
import CamAdmiral.ScanSlotCore
import Mathlib.Algebra.Order.Field.Rat

/-!
The targeted scan that the control process requests for cameras that need recovery. Cameras that
are due become targets in the order of their attempts; cameras of one physical device share a
target, and each camera that has a target counts one more attempt.
-/

namespace CamAdmiral

/-- `RECOVERY_SCAN_INTERVAL`, with the lower bound that it gets. -/
structure RecoverySettings where
  configured : ℚ

def RecoverySettings.interval (settings : RecoverySettings) : ℚ := max 60 settings.configured

/-- `RECOVERY_SCAN_FAST_RETRY_INTERVAL`. -/
def fastRetryInterval : ℚ := 10

/-- `RECOVERY_SCAN_FAST_RETRIES`. -/
def fastRetries : Nat := 12

/-- A stream of an adoption as the request reads it. -/
structure RecoveryStream where
  enabled : Bool
  healthStatus : HealthStatus
  probeStatus : Option String
  deriving DecidableEq, Repr

/-- An entry of `adoption_map`. -/
structure RecoveryCamera where
  row : CameraRow
  streams : List RecoveryStream
  deriving DecidableEq, Repr

def RecoveryCamera.candidateUuid (camera : RecoveryCamera) : String := camera.row.candidateUuid

/-- The adopted cameras, the devices of the inventory, the verified identities and the cameras
whose relay is stalled. -/
structure RecoveryFleet where
  cameras : List RecoveryCamera
  distinct : Unique RecoveryCamera.candidateUuid cameras
  devices : List Device
  links : List (String × Device)
  stalled : List String

/-- `RECOVERY_SCAN_ATTEMPTS` and `RECOVERY_SCAN_ATTEMPT_COUNTS`. -/
structure RecoveryMemory where
  attempts : List (String × ℚ) := []
  counts : List (String × Nat) := []

/-- What else one call finds: the clock, the pause and the state of the scan slot, which are both
looked at again under the lock, and the selected networks. -/
structure QueueCall where
  now : ℚ
  paused : Bool
  requested : Bool
  busy : Bool
  subnets : List String
  scanId : String
  requestedAt : String
  pausedLater : Bool
  requestedLater : Bool
  busyLater : Bool

def RecoveryMemory.forget (memory : RecoveryMemory) (candidateUuid : String) : RecoveryMemory where
  attempts := eraseKey memory.attempts candidateUuid
  counts := eraseKey memory.counts candidateUuid

/-- A due camera with its last attempt and its target. -/
structure EligibleTarget where
  previous : Option ℚ
  candidateUuid : String
  target : ScanTarget
  deriving DecidableEq

/-- What a text field gives where it counts as true. -/
def isGiven (field : Option String) : Bool := textOf field ≠ ""

section
variable [TextCase]

def RecoveryFleet.candidate (fleet : RecoveryFleet) (camera : RecoveryCamera) : Option Device :=
  linkedCandidate (recoveryInventory fleet.devices) fleet.links camera.row

def candidateOffline (candidate : Option Device) : Bool :=
  (candidate.bind (·.status)) = some .offline

def RecoveryFleet.runtimeStalled (fleet : RecoveryFleet) (camera : RecoveryCamera) : Bool :=
  camera.row.cameraUuid ∈ fleet.stalled

def RecoveryCamera.enabledStreams (camera : RecoveryCamera) : List RecoveryStream :=
  camera.streams.filter (·.enabled)

def RecoveryFleet.needsRecovery (fleet : RecoveryFleet) (camera : RecoveryCamera) : Bool :=
  camera.enabledStreams ≠ [] &&
    (candidateOffline (fleet.candidate camera) || fleet.runtimeStalled camera ||
      camera.enabledStreams.any fun stream =>
        stream.healthStatus ∈ [HealthStatus.offline, .authFailed] ||
          stream.probeStatus ∉ [none, some "pending", some "ready", some "idle"])

def RecoveryFleet.fastRetry (fleet : RecoveryFleet) (camera : RecoveryCamera) : Bool :=
  candidateOffline (fleet.candidate camera) || fleet.runtimeStalled camera ||
    camera.enabledStreams.any fun stream =>
      stream.healthStatus = .offline ||
        stream.probeStatus ∈ [some "unavailable", some "timeout", some "error"]

def retryInterval (settings : RecoverySettings) (fleet : RecoveryFleet)
    (camera : RecoveryCamera) (attemptCount : Nat) : ℚ :=
  if fleet.fastRetry camera && attemptCount ≤ fastRetries then fastRetryInterval
  else settings.interval

/-- The target of a candidate, unless its identity is in conflict or unknown. -/
def candidateTarget (candidate : Option Device) (candidateUuid : String) : Option ScanTarget :=
  match candidate with
  | none => none
  | some device =>
      let endpointReference := device.onvif.bind Onvif.endpointReference
      if device.identityConflict then none
      else if !isGiven endpointReference && !isGiven device.mac then none
      else some {
        candidateUuid :=
          some (if device.candidateUuid = "" then candidateUuid else device.candidateUuid)
        endpointReference := endpointReference
        mac := device.mac }

/-- What the loop over the adoptions has gathered. -/
structure Eligibility where
  memory : RecoveryMemory
  eligible : List EligibleTarget := []

/-- The body of the loop. -/
def considerCamera (settings : RecoverySettings) (fleet : RecoveryFleet) (now : ℚ)
    (progress : Eligibility) (camera : RecoveryCamera) : Eligibility :=
  if !camera.row.enabled || !fleet.needsRecovery camera then
    { progress with memory := progress.memory.forget camera.candidateUuid }
  else
    let previous := progress.memory.attempts.lookup camera.candidateUuid
    let attemptCount := (progress.memory.counts.lookup camera.candidateUuid).getD 0
    if previous.any fun attempt =>
        now - attempt < retryInterval settings fleet camera attemptCount then
      progress
    else
      match candidateTarget (fleet.candidate camera) camera.candidateUuid with
      | none => progress
      | some target => { progress with
          eligible := progress.eligible ++ [⟨previous, camera.candidateUuid, target⟩] }

/-- The order of `item[:3]`. -/
def eligibleOrder (first second : EligibleTarget) : Bool :=
  match first.previous, second.previous with
  | none, some _ => true
  | some _, none => false
  | none, none => first.candidateUuid ≤ second.candidateUuid
  | some attempt, some other =>
      attempt < other || (attempt = other && first.candidateUuid ≤ second.candidateUuid)

/-- Attempts of cameras that are no longer adopted go. -/
def RecoveryMemory.ofAdopted (memory : RecoveryMemory) (fleet : RecoveryFleet) :
    RecoveryMemory where
  attempts := memory.attempts.filter fun entry =>
    fleet.cameras.any (·.candidateUuid = entry.1)
  counts := memory.counts.filter fun entry =>
    fleet.cameras.any (·.candidateUuid = entry.1) ||
      (memory.attempts.lookup entry.1).isNone

def considerCameras (settings : RecoverySettings) (fleet : RecoveryFleet) (now : ℚ)
    (memory : RecoveryMemory) : Eligibility :=
  (fleet.cameras.mergeSort fun first second =>
    first.candidateUuid ≤ second.candidateUuid).foldl
    (considerCamera settings fleet now) { memory := memory.ofAdopted fleet }

/-! The targets. -/

def ScanTarget.sighting (target : ScanTarget) : Sighting where
  ip := ""
  mac := target.mac
  onvif := some { endpointReference := target.endpointReference }

def sameTarget (first second : ScanTarget) : Bool :=
  sameIdentity first.sighting second.sighting

/-- A target without an endpoint gives way to one with an endpoint. -/
def strongerTarget (shared target : ScanTarget) : ScanTarget :=
  if isGiven target.endpointReference && !isGiven shared.endpointReference then target else shared

structure TargetSelection where
  targets : List ScanTarget := []
  selected : List String := []

/-- The body of the loop: the first target of the same device is shared, else there is a new one
unless there are 16 of them. -/
def selectTarget (selection : TargetSelection) (item : EligibleTarget) : TargetSelection :=
  if selection.targets.any (sameTarget item.target) || selection.targets.length < 16 then
    {
      targets := firstFit (fun shared target => sameTarget target shared) strongerTarget
        selection.targets item.target
      selected := selection.selected ++ [item.candidateUuid] }
  else
    selection

def selectTargets (eligible : List EligibleTarget) : TargetSelection :=
  (eligible.mergeSort eligibleOrder).foldl selectTarget {}

/-- The attempts of the selected cameras. -/
def RecoveryMemory.advance (memory : RecoveryMemory) (selected : List String) (now : ℚ) :
    RecoveryMemory where
  attempts := selected.foldl (fun attempts candidateUuid =>
    setKey attempts candidateUuid now) memory.attempts
  counts := selected.dedup.foldl (fun counts candidateUuid =>
    setKey counts candidateUuid ((counts.lookup candidateUuid).getD 0 + 1)) memory.counts

/-- `_queue_targeted_recovery_scan`: the memory after it and the request, if there is one. -/
def queueRecoveryScan (settings : RecoverySettings) (fleet : RecoveryFleet)
    (call : QueueCall) (memory : RecoveryMemory) : RecoveryMemory × Option ScanRequest :=
  if call.paused || call.requested || call.busy then (memory, none)
  else
    let progress := considerCameras settings fleet call.now memory
    let selection := selectTargets progress.eligible
    if selection.targets = [] || call.subnets = [] then (progress.memory, none)
    else if call.pausedLater || call.busyLater || call.requestedLater then (progress.memory, none)
    else
      (progress.memory.advance selection.selected call.now,
        some (queueTargetedRecoveryScan call.scanId selection.targets call.subnets
          call.requestedAt))

end

end CamAdmiral
