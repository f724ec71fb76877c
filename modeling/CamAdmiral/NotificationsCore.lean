import CamAdmiral.StorageCore
import Mathlib.Algebra.Group.Int.Defs
import Mathlib.Data.List.Sort

/-!
Alerts about incidents: what opening and resolving an incident puts into the outbox, and the
loop that delivers the outbox. Incidents change as in the camera repository; a camera's
health state is an argument here.
-/

namespace CamAdmiral

inductive EventType
  | incidentOpened
  | incidentResolved
  | relayRestarted
  | test
  deriving DecidableEq, Repr

inductive OutboxStatus
  | pending
  | retry
  | sent
  | failed
  deriving DecidableEq, Repr

/-- `{incident_uuid}:{event_type}` for an incident, else one of a message of its own. -/
inductive IdempotencyKey
  | incident (incidentUuid : String) (eventType : EventType)
  | message (outboxUuid : String)
  deriving DecidableEq, Repr

structure AlertPayload where
  cameraId : String := ""
  cameraName : String
  kind : Option IncidentKind := none
  observedAt : Nat
  deriving DecidableEq, Repr

/-- A row of `notification_outbox`. -/
structure OutboxRow where
  outboxUuid : String
  incidentUuid : Option String
  eventType : EventType
  payload : AlertPayload
  idempotencyKey : IdempotencyKey
  status : OutboxStatus := .pending
  attemptCount : Nat := 0
  nextAttemptAt : Int
  createdAt : Nat
  lastErrorCode : Option String := none
  providerMessageId : Option String := none
  deriving DecidableEq, Repr

def OutboxRow.waiting (row : OutboxRow) : Bool := row.status = .pending || row.status = .retry

structure AlertSettings where
  enabled : Bool
  botToken : Option String
  chatId : Option String
  deriving DecidableEq, Repr

structure AlertCamera where
  cameraUuid : String
  displayName : String
  notificationsSilenced : Bool := false
  deriving DecidableEq, Repr

structure AlertStore where
  settings : Option AlertSettings := none
  cameras : List AlertCamera := []
  incidents : List Incident := []
  outbox : List OutboxRow := []
  deriving DecidableEq, Repr

namespace AlertStore

/-- `INSERT OR IGNORE`. -/
def insertOutbox (store : AlertStore) (added : OutboxRow) : AlertStore :=
  if store.outbox.any fun row => row.idempotencyKey = added.idempotencyKey ||
      row.outboxUuid = added.outboxUuid then
    store
  else
    { store with outbox := store.outbox ++ [added] }

/-- Whether alerts about the camera are on, with its name. -/
def alertedCamera (store : AlertStore) (cameraUuid : String) : Option AlertCamera :=
  match store.settings with
  | some settings =>
      if !settings.enabled || textOf settings.chatId = "" then
        none
      else
        (rowAt AlertCamera.cameraUuid store.cameras cameraUuid).filter
          (!·.notificationsSilenced)
  | none => none

def enqueueIncidentNotification (store : AlertStore) (incidentUuid cameraUuid : String)
    (kind : IncidentKind) (eventType : EventType) (timestamp : Nat) (outboxUuid : String) :
    AlertStore :=
  match store.alertedCamera cameraUuid with
  | none => store
  | some camera =>
      if eventType = .incidentResolved && !store.outbox.any (·.idempotencyKey =
          .incident incidentUuid .incidentOpened) then
        store
      else
        store.insertOutbox {
          outboxUuid := outboxUuid
          incidentUuid := some incidentUuid
          eventType := eventType
          payload := ⟨cameraUuid, camera.displayName, some kind, timestamp⟩
          idempotencyKey := .incident incidentUuid eventType
          nextAttemptAt := timestamp
          createdAt := timestamp }

/-- `_resolve_incident`. -/
def resolveIncident (store : AlertStore) (incidentUuid : String) (timestamp : Nat)
    (reason : ResolutionReason) (outboxUuid : String) : AlertStore :=
  match rowAt Incident.incidentUuid store.incidents incidentUuid with
  | none => store
  | some incident =>
      let resolved : AlertStore := { store with
        incidents := CamAdmiral.resolveIncident store.incidents incidentUuid timestamp reason }
      resolved.enqueueIncidentNotification incidentUuid incident.cameraUuid incident.kind
        .incidentResolved timestamp outboxUuid

def openIncident (store : AlertStore) (incidentUuid cameraUuid : String) (kind : IncidentKind)
    (timestamp : Nat) (outboxUuid : String) : AlertStore :=
  let opened : AlertStore := { store with
    incidents := store.incidents ++
      [⟨incidentUuid, cameraUuid, kind, timestamp, timestamp, none, none⟩] }
  opened.enqueueIncidentNotification incidentUuid cameraUuid kind .incidentOpened timestamp
    outboxUuid

def touchIncident (store : AlertStore) (incidentUuid : String) (timestamp : Nat) : AlertStore :=
  { store with
    incidents := store.incidents.map fun row =>
      if row.incidentUuid = incidentUuid then { row with lastObservedAt := timestamp } else row }

/-- `_reconcile_camera_incident` for a camera in this state. -/
def reconcileCameraIncident (store : AlertStore) (cameraUuid : String) (state : CameraState)
    (timestamp : Nat) (uuids : Nat → String) : AlertStore :=
  match desiredKind state, store.incidents.find? (·.opened cameraUuid) with
  | some kind, some incident =>
      if incident.kind = kind then
        store.touchIncident incident.incidentUuid timestamp
      else
        (store.resolveIncident incident.incidentUuid timestamp .causeChanged
          (uuids 1)).openIncident (uuids 0) cameraUuid kind timestamp (uuids 2)
  | some kind, none => store.openIncident (uuids 0) cameraUuid kind timestamp (uuids 2)
  | none, some incident =>
      if state = .healthy then
        store.resolveIncident incident.incidentUuid timestamp .recovered (uuids 1)
      else if state = .disabled then
        store.resolveIncident incident.incidentUuid timestamp .operatorDisabled (uuids 1)
      else
        store
  | none, none => store

def openCameraAddressIncident (store : AlertStore) (cameraUuid : String) (timestamp : Nat)
    (uuids : Nat → String) : AlertStore :=
  let opened := store.incidents.find? fun incident => incident.cameraUuid = cameraUuid &&
    incident.kind = .cameraAddressChanged && incident.resolvedAt.isNone
  match opened with
  | some incident => store.touchIncident incident.incidentUuid timestamp
  | none => store.openIncident (uuids 0) cameraUuid .cameraAddressChanged timestamp (uuids 2)

def resolveCameraAddressIncident (store : AlertStore) (incidentUuid : String) (timestamp : Nat)
    (uuids : Nat → String) : AlertStore :=
  match rowAt Incident.incidentUuid store.incidents incidentUuid with
  | none => store
  | some incident =>
      if incident.kind ≠ .cameraAddressChanged || incident.resolvedAt.isSome then
        store
      else
        store.resolveIncident incidentUuid timestamp .streamRecovered (uuids 1)

/-- The row is about an incident of the camera. -/
def concerns (store : AlertStore) (cameraUuid : String) (row : OutboxRow) : Bool :=
  store.incidents.any fun incident => incident.cameraUuid = cameraUuid &&
    row.incidentUuid = some incident.incidentUuid

/-- Silencing drops the alerts of the camera that are still waiting. -/
def setCameraNotificationsSilenced (store : AlertStore) (cameraUuid : String) (silenced : Bool) :
    AlertStore :=
  let cameras := store.cameras.map fun camera =>
    if camera.cameraUuid = cameraUuid then
      { camera with notificationsSilenced := silenced }
    else
      camera
  if silenced && (rowAt AlertCamera.cameraUuid store.cameras cameraUuid).isSome then
    { store with
      cameras := cameras
      outbox := store.outbox.filter fun row => !(row.waiting && store.concerns cameraUuid row) }
  else
    { store with cameras := cameras }

/-- ON DELETE SET NULL. -/
def detached (store : AlertStore) (cameraUuid : String) (row : OutboxRow) : OutboxRow :=
  if store.concerns cameraUuid row then { row with incidentUuid := none } else row

/-- Deletes the camera with its incidents; the alerts lose their incident. -/
def removeCamera (store : AlertStore) (cameraUuid : String) : AlertStore :=
  { store with
    cameras := store.cameras.filter (·.cameraUuid ≠ cameraUuid)
    incidents := store.incidents.filter (·.cameraUuid ≠ cameraUuid)
    outbox := store.outbox.map (store.detached cameraUuid) }

/-- `enqueue_test_notification` and `enqueue_relay_restart_notification`. -/
def enqueueMessage (store : AlertStore) (eventType : EventType) (timestamp : Nat)
    (outboxUuid : String) : AlertStore :=
  store.insertOutbox {
    outboxUuid := outboxUuid
    incidentUuid := none
    eventType := eventType
    payload := { cameraName := "CamAdmiral", observedAt := timestamp }
    idempotencyKey := .message outboxUuid
    nextAttemptAt := timestamp
    createdAt := timestamp }

def dueNotifications (store : AlertStore) (now : Nat) (limit : Nat := 10) : List OutboxRow :=
  ((store.outbox.filter fun row => row.waiting && row.nextAttemptAt ≤ (now : Int)).insertionSort
    fun first second => first.createdAt ≤ second.createdAt).take (max 1 (min 100 limit))

def completeNotificationDelivery (store : AlertStore) (outboxUuid messageId : String) :
    AlertStore :=
  { store with
    outbox := store.outbox.map fun row =>
      if row.outboxUuid = outboxUuid then
        { row with
          status := .sent
          attemptCount := row.attemptCount + 1
          providerMessageId := some messageId
          lastErrorCode := none }
      else
        row }

/-- The delay is the provider's, if it gives one that is not zero. -/
def retryDelay (retryAfterSeconds : Option Int) (attempts : Nat) : Int :=
  if retryAfterSeconds.getD 0 = 0 then min 3600 (30 * 2 ^ (attempts - 1)) else
    retryAfterSeconds.getD 0

def failNotificationDelivery (store : AlertStore) (outboxUuid errorCode : String)
    (retryAfterSeconds : Option Int) (now : Nat) : AlertStore :=
  { store with
    outbox := store.outbox.map fun row =>
      if row.outboxUuid = outboxUuid then
        let attempts := row.attemptCount + 1
        { row with
          status := if retryAfterSeconds.isSome && attempts < 8 then .retry else .failed
          attemptCount := attempts
          nextAttemptAt := now + retryDelay retryAfterSeconds attempts
          lastErrorCode := some errorCode }
      else
        row }

end AlertStore

/-! The delivery loop next to everything else. -/

/-- What an attempt to send ends in. The answer can be lost after the message is delivered. -/
inductive SendOutcome
  | accepted (messageId : String)
  | rejected (delivered : Bool) (code : String) (retryAfterSeconds : Option Int)
  | crashed (delivered : Bool)
  deriving DecidableEq, Repr

def SendOutcome.delivered : SendOutcome → Bool
  | .accepted _ => true
  | .rejected delivered _ _ => delivered
  | .crashed delivered => delivered

/-- `queue` are the rows that the loop has fetched and not yet sent; `log` are the messages
delivered, and `used` the uuids drawn. -/
structure AlertSystem where
  store : AlertStore := {}
  clock : Nat := 0
  queue : List OutboxRow := []
  settling : Option (OutboxRow × SendOutcome) := none
  log : List IdempotencyKey := []
  used : List String := []

inductive AlertAction
  | reconcile (cameraUuid : String) (state : CameraState)
  | openAddress (cameraUuid : String)
  | resolveAddress (incidentUuid : String)
  | silence (cameraUuid : String) (silenced : Bool)
  | configure (settings : AlertSettings)
  | adopt (camera : AlertCamera)
  | removeCamera (cameraUuid : String)
  | enqueueMessage (eventType : EventType)
  | poll
  | send (outcome : SendOutcome)
  | settle
  deriving DecidableEq, Repr

/-- An action with its time and its supply of uuids. -/
structure AlertCall where
  action : AlertAction
  timestamp : Nat
  uuids : Nat → String

/-- The credentials let the loop deliver. -/
def AlertSettings.delivering (settings : AlertSettings) : Bool :=
  textOf settings.botToken ≠ "" && textOf settings.chatId ≠ "" && settings.enabled

/-- Writes down what became of the message. -/
def settleDelivery (store : AlertStore) (item : OutboxRow) (now : Nat) : SendOutcome → AlertStore
  | .accepted messageId => store.completeNotificationDelivery item.outboxUuid messageId
  | .rejected _ code retryAfterSeconds =>
      store.failNotificationDelivery item.outboxUuid code retryAfterSeconds now
  | .crashed _ => store

def alertStep (system : AlertSystem) (call : AlertCall) : AlertSystem :=
  let system := { system with
    clock := call.timestamp
    used := system.used ++ [call.uuids 0, call.uuids 1, call.uuids 2] }
  match call.action with
  | .reconcile cameraUuid state =>
      { system with
        store := system.store.reconcileCameraIncident cameraUuid state call.timestamp
          call.uuids }
  | .openAddress cameraUuid =>
      { system with
        store := system.store.openCameraAddressIncident cameraUuid call.timestamp call.uuids }
  | .resolveAddress incidentUuid =>
      { system with
        store := system.store.resolveCameraAddressIncident incidentUuid call.timestamp
          call.uuids }
  | .silence cameraUuid silenced =>
      { system with store := system.store.setCameraNotificationsSilenced cameraUuid silenced }
  | .configure settings =>
      { system with store := { system.store with settings := some settings } }
  | .adopt camera =>
      { system with
        store := { system.store with cameras := system.store.cameras ++ [camera] } }
  | .removeCamera cameraUuid => { system with store := system.store.removeCamera cameraUuid }
  | .enqueueMessage eventType =>
      { system with
        store := system.store.enqueueMessage eventType call.timestamp (call.uuids 0) }
  | .poll =>
      if system.queue.isEmpty && system.settling.isNone &&
          system.store.settings.any (·.delivering) then
        { system with queue := system.store.dueNotifications call.timestamp }
      else
        system
  | .send outcome =>
      match system.settling, system.queue with
      | none, item :: rest =>
          { system with
            queue := rest
            settling := some (item, outcome)
            log := if outcome.delivered then system.log ++ [item.idempotencyKey]
              else system.log }
      | _, _ => system
  | .settle =>
      match system.settling with
      | none => system
      | some (item, outcome) =>
          { system with
            store := settleDelivery system.store item call.timestamp outcome
            settling := none
            -- Another exception than the provider's ends the cycle.
            queue := match outcome with
              | .crashed _ => []
              | _ => system.queue }

end CamAdmiral
