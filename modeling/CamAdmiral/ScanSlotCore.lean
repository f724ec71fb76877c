import CamAdmiral.ScannerCore

/-!
The scan slot: the control process and the scanner worker as steps that each read or
replace one file. The control process holds `SCAN_REQUEST_LOCK` while it queues a request or
marks an unadopted candidate, so at most one of these operations is under way; the worker
knows nothing of the lock. The worker may be restarted between any two of its steps.
-/

namespace CamAdmiral

def ScanPayload.busy (payload : ScanPayload) : Bool :=
  payload.status = some .queued || payload.status = some .running

/-- `preserve_inventory`. -/
def preserveInventory (state inventory : ScanPayload) : ScanPayload :=
  if !state.busy || !state.devices.isEmpty then
    state
  else
    { state with
      inventoryScanId := inventory.scanId
      devices := inventory.devices
      summary := inventory.summary
      completedAt := inventory.completedAt }

/-- `_read_scan_state`. -/
def readScanState (files : ScanFiles) : ScanPayload :=
  preserveInventory (files.state.getD { status := some .starting }) (readInventory files)

/-! The requests the control process queues. -/

def startDiscovery (scanId : String) (subnets : List String) (requestedAt : String) :
    ScanRequest where
  scanId := some scanId
  subnets := some subnets
  requestedAt := some requestedAt

def addDiscoveryAddress (scanId address requestedAt : String) : ScanRequest where
  scanId := some scanId
  mode := some "address"
  address := some address
  requestedAt := some requestedAt

def queueTargetedRecoveryScan (scanId : String) (targets : List ScanTarget)
    (subnets : List String) (requestedAt : String) : ScanRequest where
  scanId := some scanId
  mode := some "targeted"
  targets := targets
  subnets := some subnets
  requestedAt := some requestedAt

/-! Marking an unadopted candidate. -/

def markedDevice (candidateUuid observedAt : String) (device : Device) : Device :=
  if device.candidateUuid = candidateUuid then
    { device with status := some .online, lastSeen := some observedAt, missedScans := 0 }
  else
    device

/-- The payload `_mark_discovery_candidate_online` writes back for the one it read. -/
def markedPayload (candidateUuid observedAt : String) (payload : ScanPayload) : ScanPayload :=
  let devices := payload.devices.map (markedDevice candidateUuid observedAt)
  { payload with devices := devices, summary := some (inventorySummary devices) }

def lists (payload : ScanPayload) (candidateUuid : String) : Bool :=
  payload.devices.any (·.candidateUuid = candidateUuid)

/-! The two parties. -/

inductive Worker
  | idle
  | claimed (request : ScanRequest)
  | loaded (request : ScanRequest) (inventory : ScanPayload)
  | scanning (request : ScanRequest) (inventory : ScanPayload)
  | progressing (request : ScanRequest) (inventory : ScanPayload) (state : Option ScanPayload)
  | publishing (payload : ScanPayload)
  | finishing
  deriving DecidableEq, Repr

/-- What the holder of the lock does next; a payload is a copy it read before. -/
inductive Control
  | unlocked
  | readingState (request : ScanRequest)
  | checkingRequest (request : ScanRequest)
  | writingRequest (request : ScanRequest)
  | readingInventory (candidateUuid observedAt : String)
  | writingInventory (candidateUuid observedAt : String) (copy : ScanPayload)
  | readingMarkedState (candidateUuid observedAt : String)
  | writingState (candidateUuid observedAt : String) (copy : ScanPayload)
  deriving DecidableEq, Repr

/-- `lastScan` and `unadopted` are history: the devices of the worker's last completed scan
and the candidates marked so far. -/
structure ScanSystem where
  files : ScanFiles
  worker : Worker := .idle
  control : Control := .unlocked
  lastScan : List Device
  unadopted : List String := []
  deriving DecidableEq, Repr

inductive ScanAction
  | readRequest
  | readInventory
  | writeRunning
  | readProgress
  | writeProgress
  | succeed (result : ScanResult) (uuids : Nat → String)
  | fail (failedAt : String)
  | writeComplete
  | removeRequest
  | restart
  | startDiscovery (scanId : String) (subnets : List String) (requestedAt : String)
  | addDiscoveryAddress (scanId address requestedAt : String)
  | queueTargetedRecoveryScan (scanId : String) (targets : List ScanTarget)
      (subnets : List String) (requestedAt : String)
  | mark (candidateUuid observedAt : String)
  | readState
  | checkRequest
  | writeRequest
  | copyInventory
  | replaceInventory (stored : Bool)
  | copyState
  | replaceState (stored : Bool)

def ScanSystem.writeState (system : ScanSystem) (payload : ScanPayload) (worker : Worker) :
    ScanSystem :=
  { system with files := { system.files with state := some payload }, worker := worker }

/-- The state file that `main` leaves behind when it starts. -/
def startedState (files : ScanFiles) : ScanPayload :=
  match files.state with
  | some state => state
  | none =>
      let inventory := readInventory files
      if inventory.devices.isEmpty then
        { status := some .idle }
      else
        { inventory with status := some .complete }

def workerStep [TextCase] (system : ScanSystem) : ScanAction → Option ScanSystem
  | .readRequest =>
      match system.worker, system.files.request with
      | .idle, some request => some { system with worker := .claimed request }
      | _, _ => none
  | .readInventory =>
      match system.worker with
      | .claimed request =>
          some { system with worker := .loaded request (readInventory system.files) }
      | _ => none
  | .writeRunning =>
      match system.worker with
      | .loaded request inventory =>
          some (system.writeState (runningState request inventory) (.scanning request inventory))
      | _ => none
  | .readProgress =>
      match system.worker with
      | .scanning request inventory =>
          some { system with worker := .progressing request inventory system.files.state }
      | _ => none
  | .writeProgress =>
      match system.worker with
      | .progressing request inventory state =>
          some (system.writeState (progressState state) (.scanning request inventory))
      | _ => none
  | .succeed result uuids =>
      match system.worker with
      | .scanning request inventory =>
          (scannedDevices request inventory.devices result uuids).map fun devices =>
            let payload := completeState request result devices
            { system with
              files := { system.files with inventory := some payload }
              worker := .publishing payload
              lastScan := devices }
      | _ => none
  | .fail failedAt =>
      match system.worker with
      | .scanning request inventory =>
          some (system.writeState (errorState request inventory failedAt) .finishing)
      | _ => none
  | .writeComplete =>
      match system.worker with
      | .publishing payload => some (system.writeState payload .finishing)
      | _ => none
  | .removeRequest =>
      match system.worker with
      | .finishing =>
          some { system with files := { system.files with request := none }, worker := .idle }
      | _ => none
  | .restart => some (system.writeState (startedState system.files) .idle)
  | _ => none

/-- Takes the lock to queue a request; `none` while another operation holds it. -/
def ScanSystem.queue (system : ScanSystem) (request : ScanRequest) : Option ScanSystem :=
  if system.control = .unlocked then
    some { system with control := .readingState request }
  else
    none

def controlStep (system : ScanSystem) : ScanAction → Option ScanSystem
  | .startDiscovery scanId subnets requestedAt =>
      system.queue (startDiscovery scanId subnets requestedAt)
  | .addDiscoveryAddress scanId address requestedAt =>
      system.queue (addDiscoveryAddress scanId address requestedAt)
  | .queueTargetedRecoveryScan scanId targets subnets requestedAt =>
      system.queue (queueTargetedRecoveryScan scanId targets subnets requestedAt)
  | .mark candidateUuid observedAt =>
      if system.control = .unlocked then
        some { system with
          control := .readingInventory candidateUuid observedAt
          unadopted := candidateUuid :: system.unadopted }
      else
        none
  | .readState =>
      match system.control with
      | .readingState request =>
          let refused := (readScanState system.files).busy
          some { system with control := if refused then .unlocked else .checkingRequest request }
      | _ => none
  | .checkRequest =>
      match system.control with
      | .checkingRequest request =>
          let refused := system.files.request.isSome
          some { system with control := if refused then .unlocked else .writingRequest request }
      | _ => none
  | .writeRequest =>
      match system.control with
      | .writingRequest request =>
          some { system with
            files := { system.files with request := some request }, control := .unlocked }
      | _ => none
  | .copyInventory =>
      match system.control with
      | .readingInventory candidateUuid observedAt =>
          let next := match system.files.inventory with
            | some copy =>
                if lists copy candidateUuid then
                  .writingInventory candidateUuid observedAt copy
                else
                  .readingMarkedState candidateUuid observedAt
            | none => .readingMarkedState candidateUuid observedAt
          some { system with control := next }
      | _ => none
  | .replaceInventory stored =>
      match system.control with
      | .writingInventory candidateUuid observedAt copy =>
          let written := some (markedPayload candidateUuid observedAt copy)
          some { system with
            files := { system.files with
              inventory := if stored then written else system.files.inventory }
            control := .readingMarkedState candidateUuid observedAt }
      | _ => none
  | .copyState =>
      match system.control with
      | .readingMarkedState candidateUuid observedAt =>
          let next := match system.files.state with
            | some copy =>
                if lists copy candidateUuid then
                  .writingState candidateUuid observedAt copy
                else
                  .unlocked
            | none => .unlocked
          some { system with control := next }
      | _ => none
  | .replaceState stored =>
      match system.control with
      | .writingState candidateUuid observedAt copy =>
          let written := some (markedPayload candidateUuid observedAt copy)
          some { system with
            files := { system.files with
              state := if stored then written else system.files.state }
            control := .unlocked }
      | _ => none
  | _ => none

/-- Each action belongs to one of the parties. -/
def scanStep [TextCase] (system : ScanSystem) (action : ScanAction) : Option ScanSystem :=
  workerStep system action <|> controlStep system action

end CamAdmiral
