import CamAdmiral.Table
import CamAdmiral.TextCore

/-!
The tables about Frigate integrations: the targets, the cameras selected for them, the
bindings to Frigate's camera entries, the entries CamAdmiral has retired and the journal of
imported entries. An operation is one transaction; `none` is a violated constraint, after
which nothing is committed. Timestamps are left out, and the encoded payloads of the journal
are their decoded rows.
-/

namespace CamAdmiral

inductive AddressMode
  | lan
  | localhost
  deriving DecidableEq, Repr

inductive ConnectionStatus
  | pending
  | connected
  | error
  deriving DecidableEq, Repr

inductive BindingStatus
  | pending
  | applied
  | error
  deriving DecidableEq, Repr

structure FrigateTargetRow where
  targetId : String
  name : String
  apiUrl : String
  connectionStatus : ConnectionStatus := .pending
  lastErrorCode : Option String := none
  restartRecommended : Bool := false
  addressMode : Option AddressMode := some .lan
  deriving DecidableEq, Repr

structure SelectionRow where
  targetId : String
  cameraUuid : String
  addressMode : AddressMode := .lan
  /-- `detect_width` and `detect_height`. -/
  detectSize : Option (Nat × Nat) := none
  syncError : Option String := none
  deriving DecidableEq, Repr

structure FrigateBindingRow where
  targetId : String
  cameraUuid : String
  frigateCameraKey : String
  recordStreamUuid : String
  detectStreamUuid : String
  desiredHash : String
  appliedHash : Option String := none
  status : BindingStatus := .pending
  lastErrorCode : Option String := none
  cameraEnabledApplied : Bool := true
  deriving DecidableEq, Repr

/-- `record.enabled` and `ui.dashboard` of an entry; `none` where it has none. -/
structure Visibility where
  record : Option Bool := none
  dashboard : Option Bool := none
  deriving DecidableEq, Repr

structure RetiredRow where
  targetId : String
  cameraKey : String
  restore : Visibility
  deriving DecidableEq, Repr

/-- The sources of go2rtc streams by alias. -/
abbrev StreamMap := List (String × List String)

structure FrigateInput where
  path : String
  roles : List String
  inputArgs : Option String := none
  deriving DecidableEq, Repr

/-- A camera entry of Frigate's configuration. `other` holds the options that are copied and
compared but not looked into. -/
structure CameraEntry where
  enabled : Option Bool := none
  friendlyName : Option String := none
  inputs : List FrigateInput := []
  detectSize : Option (Nat × Nat) := none
  detectFps : Option Nat := none
  live : List (String × String) := []
  visibility : Visibility := {}
  other : List (String × String) := []
  deriving DecidableEq, Repr

inductive ImportState
  | preparing
  | releasing
  | paused
  | applying
  | restored
  | active
  deriving DecidableEq, Repr

/-- The source behind an imported live alias, and its conversion. -/
structure LiveSource where
  sourceId : String
  wrapper : String := ""
  deriving DecidableEq, Repr

/-- A row of the import journal. -/
structure ImportRow where
  key : String
  cameraUuid : Option String
  state : ImportState
  handoff : Bool := false
  createdCamera : Bool := false
  candidateId : Option String := none
  targetApiUrl : Option String := none
  original : CameraEntry
  originalStreams : List (String × Option (List String)) := []
  live : List (String × LiveSource) := []
  /-- The source of a role. -/
  roles : List (String × String) := []
  /-- The stream of a source. -/
  streamMap : List (String × String) := []
  /-- The relay alias of a role. -/
  aliases : List (String × String) := []
  managedCamera : Option CameraEntry := none
  managedStreams : StreamMap := []
  pausedCamera : Option CameraEntry := none
  releasedStreams : StreamMap := []
  pausedStreams : StreamMap := []
  deriving DecidableEq, Repr

structure LinkRow where
  targetId : String
  cameraKey : String
  payload : ImportRow
  deriving DecidableEq, Repr

structure FrigateTables where
  targets : List FrigateTargetRow := []
  selections : List SelectionRow := []
  bindings : List FrigateBindingRow := []
  retired : List RetiredRow := []
  links : List LinkRow := []
  handoffs : List LinkRow := []
  deriving DecidableEq, Repr

def SelectionRow.owner (row : SelectionRow) : String × String := (row.targetId, row.cameraUuid)

def FrigateBindingRow.owner (row : FrigateBindingRow) : String × String :=
  (row.targetId, row.cameraUuid)

def RetiredRow.owner (row : RetiredRow) : String × String := (row.targetId, row.cameraKey)

def LinkRow.owner (row : LinkRow) : String × String := (row.targetId, row.cameraKey)

namespace FrigateTables

def target (tables : FrigateTables) (targetId : String) : Option FrigateTargetRow :=
  rowAt FrigateTargetRow.targetId tables.targets targetId

/-- Keeps the connection columns unless the URL changes. -/
def saveFrigateTarget (tables : FrigateTables) (targetId name apiUrl : String) :
    Option FrigateTables :=
  if tables.targets.any fun row => row.targetId ≠ targetId && row.apiUrl = apiUrl then
    none
  else
    some { tables with
      targets := upsertRow FrigateTargetRow.targetId ⟨targetId, name, apiUrl, .pending, none,
        false, some .lan⟩ (fun row =>
          if row.apiUrl = apiUrl then
            { row with name := name }
          else
            { row with
              name := name
              apiUrl := apiUrl
              connectionStatus := .pending
              lastErrorCode := none
              restartRecommended := false }) tables.targets }

def recordFrigateTargetCheck (tables : FrigateTables) (targetId : String)
    (status : ConnectionStatus) (errorCode : Option String := none)
    (restartRecommended : Option Bool := none) : FrigateTables :=
  { tables with
    targets := updateRow FrigateTargetRow.targetId targetId (fun row =>
      { row with
        connectionStatus := status
        lastErrorCode := errorCode
        restartRecommended := restartRecommended.getD row.restartRecommended }) tables.targets }

/-- The bindings do not refer to the targets, so they stay. -/
def removeFrigateTarget (tables : FrigateTables) (targetId : String) : FrigateTables :=
  { tables with
    targets := tables.targets.filter (·.targetId ≠ targetId)
    selections := tables.selections.filter (·.targetId ≠ targetId)
    retired := tables.retired.filter (·.targetId ≠ targetId)
    links := tables.links.filter (·.targetId ≠ targetId)
    handoffs := tables.handoffs.filter (·.targetId ≠ targetId) }

def selectFrigateCamera (tables : FrigateTables) (targetId cameraUuid : String)
    (addressMode : AddressMode := .lan) : Option FrigateTables :=
  (tables.target targetId).map fun target =>
    let mode := target.addressMode.getD addressMode
    { tables with
      selections := upsertRow SelectionRow.owner { targetId, cameraUuid, addressMode := mode }
        (fun row => { row with addressMode := mode }) tables.selections }

def deselectFrigateCamera (tables : FrigateTables) (targetId cameraUuid : String) :
    FrigateTables :=
  { tables with selections := tables.selections.filter (·.owner ≠ (targetId, cameraUuid)) }

def setFrigateSelectionError (tables : FrigateTables) (targetId cameraUuid : String)
    (code : Option String) : FrigateTables :=
  { tables with
    selections := updateRow SelectionRow.owner (targetId, cameraUuid)
      (fun row => { row with syncError := code }) tables.selections }

def frigateBinding (tables : FrigateTables) (targetId cameraUuid : String) :
    Option FrigateBindingRow :=
  rowAt FrigateBindingRow.owner tables.bindings (targetId, cameraUuid)

/-- Another camera of the target has the key: `UNIQUE(target_id, frigate_camera_key)`. -/
def keyTaken (tables : FrigateTables) (targetId cameraUuid frigateCameraKey : String) : Bool :=
  tables.bindings.any fun row => row.targetId = targetId && row.cameraUuid ≠ cameraUuid &&
    row.frigateCameraKey = frigateCameraKey

def recordFrigateAttempt (tables : FrigateTables) (targetId cameraUuid frigateCameraKey
    recordStreamUuid detectStreamUuid desiredHash : String) : Option FrigateTables :=
  if tables.keyTaken targetId cameraUuid frigateCameraKey then
    none
  else
    some { tables with
      bindings := upsertRow FrigateBindingRow.owner
        { targetId, cameraUuid, frigateCameraKey, recordStreamUuid, detectStreamUuid,
          desiredHash }
        (fun row =>
          { row with
            frigateCameraKey := frigateCameraKey
            recordStreamUuid := recordStreamUuid
            detectStreamUuid := detectStreamUuid
            desiredHash := desiredHash
            status := .pending
            lastErrorCode := none }) tables.bindings }

/-- `complete_frigate_attempt` with status `applied`. -/
def completeApplied (tables : FrigateTables) (targetId cameraUuid : String)
    (appliedHash : String) : FrigateTables :=
  { tables with
    bindings := updateRow FrigateBindingRow.owner (targetId, cameraUuid) (fun row =>
      { row with
        status := .applied
        appliedHash := some appliedHash
        lastErrorCode := none }) tables.bindings }

/-- `complete_frigate_attempt` with status `error`. -/
def completeError (tables : FrigateTables) (targetId cameraUuid : String) (errorCode : String) :
    FrigateTables :=
  { tables with
    bindings := updateRow FrigateBindingRow.owner (targetId, cameraUuid) (fun row =>
      { row with status := .error, lastErrorCode := some errorCode }) tables.bindings }

def setFrigateCameraEnabledApplied (tables : FrigateTables) (targetId cameraUuid : String)
    (enabled : Bool) : FrigateTables :=
  { tables with
    bindings := updateRow FrigateBindingRow.owner (targetId, cameraUuid)
      (fun row => { row with cameraEnabledApplied := enabled }) tables.bindings }

def removeFrigateBinding (tables : FrigateTables) (targetId cameraUuid : String) :
    FrigateTables :=
  { tables with bindings := tables.bindings.filter (·.owner ≠ (targetId, cameraUuid)) }

def retiredFrigateCamera (tables : FrigateTables) (targetId cameraKey : String) :
    Option RetiredRow :=
  rowAt RetiredRow.owner tables.retired (targetId, cameraKey)

/-- `INSERT OR IGNORE`; a missing target is a violated foreign key. -/
def rememberRetiredFrigateCamera (tables : FrigateTables) (targetId cameraKey : String)
    (restore : Visibility) : Option FrigateTables :=
  (tables.target targetId).map fun _ =>
    { tables with
      retired := upsertRow RetiredRow.owner ⟨targetId, cameraKey, restore⟩ id tables.retired }

def forgetRetiredFrigateCamera (tables : FrigateTables) (targetId cameraKey : String) :
    FrigateTables :=
  { tables with retired := tables.retired.filter (·.owner ≠ (targetId, cameraKey)) }

/-- `ImportStore.links`: a link takes the place of a handoff with its key. -/
def importLinks (tables : FrigateTables) (targetId : String) : List ImportRow :=
  let links := tables.links.filter (·.targetId = targetId)
  let pending := tables.handoffs.filter fun row =>
    row.targetId = targetId && !links.any (·.cameraKey = row.cameraKey)
  (pending ++ links).map (·.payload)

/-- `ImportStore.links(target_id).get(key)`. -/
def importLink (tables : FrigateTables) (targetId key : String) : Option ImportRow :=
  ((rowAt LinkRow.owner tables.links (targetId, key)).or
    (rowAt LinkRow.owner tables.handoffs (targetId, key))).map (·.payload)

/-- `ImportStore.save_link`: a row without a camera is a handoff. -/
def saveLink (tables : FrigateTables) (targetId key : String) (value : ImportRow) :
    Option FrigateTables :=
  (tables.target targetId).bind fun _ =>
    match value.cameraUuid with
    | none =>
        some { tables with
          handoffs := upsertRow LinkRow.owner ⟨targetId, key, value⟩
            (fun row => { row with payload := value }) tables.handoffs }
    | some cameraUuid =>
        if tables.links.any fun row => row.targetId = targetId && row.cameraKey ≠ key &&
            row.payload.cameraUuid = some cameraUuid then
          none
        else
          some { tables with
            links := upsertRow LinkRow.owner ⟨targetId, key, value⟩
              (fun row => { row with payload := value }) tables.links
            handoffs := tables.handoffs.filter (·.owner ≠ (targetId, key)) }

/-- `ImportStore.delete_link`. -/
def deleteLink (tables : FrigateTables) (targetId key : String) : FrigateTables :=
  { tables with
    links := tables.links.filter (·.owner ≠ (targetId, key))
    handoffs := tables.handoffs.filter (·.owner ≠ (targetId, key)) }

end FrigateTables

end CamAdmiral
