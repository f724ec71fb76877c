import CamAdmiral.InventoryCore

/-!
The scanner worker's `handle_scan`: what it makes of one scan request, the inventory it
read and the result of the network scan. The network scan itself is an input, `none` where
it raised. The request, state and inventory files are replaced atomically, so a file is the
payload last written to it.
-/

namespace CamAdmiral

inductive ScanStatus
  | idle
  | starting
  | queued
  | running
  | complete
  | error
  deriving DecidableEq, Repr

structure ScanTarget where
  candidateUuid : Option String
  endpointReference : Option String := none
  mac : Option String := none
  deriving DecidableEq, Repr

structure ScanRequest where
  scanId : Option String
  mode : Option String := none
  address : Option String := none
  targets : List ScanTarget := []
  subnets : Option (List String) := none
  requestedAt : Option String := none
  deriving DecidableEq, Repr

/-- What `scan_lan`, `scan_targeted_lan` and `scan_explicit_address` return. -/
structure ScanResult where
  devices : List Observation
  completedAt : String
  reachableKnown : List String := []
  deriving DecidableEq, Repr

/-- The contents of the state and inventory files. -/
structure ScanPayload where
  status : Option ScanStatus := none
  scanId : Option String := none
  inventoryScanId : Option String := none
  requestedAt : Option String := none
  completedAt : Option String := none
  devices : List Device := []
  summary : Option InventorySummary := none
  deriving DecidableEq, Repr

structure ScanFiles where
  request : Option ScanRequest := none
  state : Option ScanPayload := none
  inventory : Option ScanPayload := none
  deriving DecidableEq, Repr

def readInventory (files : ScanFiles) : ScanPayload := files.inventory.getD {}

def requestScanId (request : ScanRequest) : Option String := some (request.scanId.getD "unknown")

section
variable [TextCase]

/-! The explicit address mode. Its keys are folded but not stripped. -/

def foldedMac (device : Sighting) : String := TextCase.lower (textOf device.mac)

def foldedEndpoint (device : Sighting) : String :=
  TextCase.lower (textOf (device.onvif.bind Onvif.endpointReference))

def addressKeys (observations : List Observation) : List String :=
  (observations.filter fun device => textOf device.mac ≠ "").map
      (fun device => foldedMac device.toSighting) ++
    (observations.filter fun device =>
        textOf (device.onvif.bind Onvif.endpointReference) ≠ "").map
      fun device => foldedEndpoint device.toSighting

def addressTarget (address : String) (observations : List Observation) (device : Device) : Bool :=
  device.ip = address || foldedMac device.toSighting ∈ addressKeys observations ||
    foldedEndpoint device.toSighting ∈ addressKeys observations

/-- `target_previous`. -/
def addressTargets (previous : List Device) (observations : List Observation)
    (address : String) : List Device :=
  previous.filter (addressTarget address observations)

/-- `untouched`: the devices with none of the ids in `target_ids`. -/
def addressUntouched (previous : List Device) (observations : List Observation)
    (address : String) : List Device :=
  previous.filter fun device =>
    device.candidateUuid ∉ candidates (addressTargets previous observations address)

def scanAddress (previous : List Device) (result : ScanResult) (address : String)
    (uuids : Nat → String) : List Device :=
  addressUntouched previous result.devices address ++
    reconcileInventory (addressTargets previous result.devices address) result.devices
      result.completedAt [] uuids

/-! The targeted recovery mode. -/

omit [TextCase] in
def targetedIds (targets : List ScanTarget) : List String :=
  targets.filterMap fun target => target.candidateUuid.filter (· ≠ "")

def scanTargeted (previous : List Device) (result : ScanResult) (targets : List ScanTarget)
    (uuids : Nat → String) : List Device :=
  let targetIds := targetedIds targets
  let targetPrevious := previous.filter fun device => device.candidateUuid ∈ targetIds
  let untouched := previous.filter fun device => device.candidateUuid ∉ targetIds
  let recovered := reconcileInventory targetPrevious result.devices result.completedAt [] uuids
  displayOrder (annotateIdentityConflicts (untouched ++ recovered))

/-- The devices a scan writes; `none` where the reconciliation raises. -/
def scannedDevices (request : ScanRequest) (previous : List Device) (result : ScanResult)
    (uuids : Nat → String) : Option (List Device) :=
  if request.mode = some "address" then
    some (scanAddress previous result (textOf request.address) uuids)
  else if request.mode = some "targeted" then
    some (scanTargeted previous result request.targets uuids)
  else
    match request.subnets with
    | some subnets =>
        reconcileScannedSubnets previous result.devices result.completedAt subnets
          result.reachableKnown uuids
    | none =>
        some (reconcileInventory previous result.devices result.completedAt
          result.reachableKnown uuids)

end

/-! The payloads `handle_scan` writes. -/

def runningState (request : ScanRequest) (inventory : ScanPayload) : ScanPayload where
  status := some .running
  scanId := requestScanId request
  inventoryScanId := inventory.scanId
  requestedAt := request.requestedAt
  completedAt := inventory.completedAt
  devices := inventory.devices
  summary := some (inventory.summary.getD (inventorySummary inventory.devices))

def completeState (request : ScanRequest) (result : ScanResult) (devices : List Device) :
    ScanPayload where
  status := some .complete
  scanId := requestScanId request
  inventoryScanId := requestScanId request
  completedAt := some result.completedAt
  devices := devices
  summary := some (inventorySummary devices)

def errorState (request : ScanRequest) (inventory : ScanPayload) (failedAt : String) :
    ScanPayload where
  status := some .error
  scanId := requestScanId request
  inventoryScanId := inventory.scanId
  completedAt := some failedAt
  devices := inventory.devices
  summary := some (inventory.summary.getD (inventorySummary inventory.devices))

/-- `scan_progress`, called from the network scan as often as that reports progress. -/
def progressState (state : Option ScanPayload) : ScanPayload :=
  { state.getD {} with status := some .running }

/-- One scan from the claimed request to its removal; `scan` is the network scan. -/
def handleScan [TextCase] (request : ScanRequest) (scan : Option ScanResult)
    (uuids : Nat → String) (failedAt : String) (files : ScanFiles) : ScanFiles :=
  let inventory := readInventory files
  let written := scan.bind fun result =>
    (scannedDevices request inventory.devices result uuids).map
      (completeState request result)
  match written with
  | some payload => { request := none, state := some payload, inventory := some payload }
  | none =>
      { files with request := none, state := some (errorState request inventory failedAt) }

end CamAdmiral
