import CamAdmiral.FrigateCore

/-!
`reconcile_frigate`: what a selected camera should look like in Frigate, how that is compared
with what Frigate reports, and the branches a camera can take. The consumer inventory is what
`consumer_inventory` and `rtsp_access_password` return during the call.
-/

namespace CamAdmiral

structure ConsumerStream where
  streamUuid : String
  streamKey : String
  roles : List String := []
  probedWidth : Nat := 0
  probedHeight : Nat := 0
  width : Nat := 0
  height : Nat := 0
  deriving DecidableEq, Repr

structure ConsumerCamera where
  cameraUuid : String
  displayName : String
  enabled : Bool := true
  streams : List ConsumerStream := []
  deriving DecidableEq, Repr

structure Consumers where
  cameras : List ConsumerCamera := []
  password : String := ""
  distinct : (cameras.map (·.cameraUuid)).Nodup := by decide
  deriving DecidableEq, Repr

/-- The secret-free part of what a camera should look like. -/
structure SecretFree where
  cameraUuid : String
  key : String
  name : String
  recordStreamUuid : String
  detectStreamUuid : String
  mediaHost : String
  inputs : List FrigateInput
  detectSize : Nat × Nat
  live : List (String × String)
  streamKeys : List String
  deriving DecidableEq, Repr

structure DesiredCamera extends SecretFree where
  streams : StreamMap
  desiredHash : String
  deriving DecidableEq, Repr

/-- Texts that no result depends on: `urllib.parse.quote`, the host part of a media URL, where
`none` is `media_host_unavailable`, the hash of a desired camera, and `resolve_source` of an
alias that a handoff released. -/
class FrigateTexts where
  quote : String → String
  sourceHost : String → Option String
  desiredHash : SecretFree → String
  releasedSource : ImportRow → String → Except Failure LiveSource

/-- For concrete runs. -/
@[reducible] def plainFrigateTexts : FrigateTexts where
  quote := id
  sourceHost := some
  desiredHash secretFree := secretFree.key
  releasedSource _ _ := .error .raised

def frigateCameraKey (cameraUuid : String) : String :=
  "camadmiral_" ++ String.ofList (cameraUuid.toList.map fun character =>
    if character.isAlphanum || character = '_' then character else '_')

/-- A selected camera with the columns of its selection. -/
structure SelectedCamera where
  camera : ConsumerCamera
  addressMode : AddressMode
  detectSize : Option (Nat × Nat)
  deriving DecidableEq, Repr

def SelectedCamera.key (selected : SelectedCamera) : String :=
  frigateCameraKey selected.camera.cameraUuid

def selectedCameraInventory (tables : FrigateTables) (consumers : Consumers)
    (targetId : String) : List SelectedCamera :=
  let targetMode := (tables.target targetId).bind (·.addressMode)
  consumers.cameras.filterMap fun camera =>
    (rowAt SelectionRow.owner tables.selections (targetId, camera.cameraUuid)).map fun selection =>
      ⟨camera, targetMode.getD selection.addressMode, selection.detectSize⟩

def streamForRole (camera : ConsumerCamera) (role : String) : Option ConsumerStream :=
  camera.streams.find? fun stream => role ∈ stream.roles

def videoDimensions (stream : ConsumerStream) : Except ApiError (Nat × Nat) :=
  let width := if stream.probedWidth ≠ 0 then stream.probedWidth else stream.width
  let height := if stream.probedHeight ≠ 0 then stream.probedHeight else stream.height
  if width = 0 || height = 0 then
    .error { code := "detect_metadata_unavailable" }
  else
    .ok (width, height)

section
variable [FrigateTexts]

/-- The URL of a managed stream on CamAdmiral's relay. -/
def streamSource (password host : String) (stream : ConsumerStream) : String :=
  "rtsp://camadmiral:" ++ FrigateTexts.quote password ++ "@" ++ host ++ ":18554/" ++
    stream.streamKey

def desiredInputs (recordAlias detectAlias : String) (shared : Bool) : List FrigateInput :=
  let input (aliasKey : String) (roles : List String) : FrigateInput :=
    { path := relayUrl aliasKey, roles, inputArgs := some "preset-rtsp-restream" }
  if shared then
    [input recordAlias ["record", "detect"]]
  else
    [input recordAlias ["record"], input detectAlias ["detect"]]

/-- `none` is a camera without a stream for each role. -/
def desiredCamera (selected : SelectedCamera) (password mediaHost : String) :
    Except ApiError (Option DesiredCamera) :=
  match streamForRole selected.camera "record", streamForRole selected.camera "detect" with
  | some record, some detect => do
      let size ← match selected.detectSize with
        | some size => .ok size
        | none => videoDimensions detect
      let sourceHost ← match FrigateTexts.sourceHost mediaHost with
        | some host => .ok host
        | none => .error { code := "media_host_unavailable" }
      let recordAlias := selected.key ++ "_record"
      let detectAlias := selected.key ++ "_detect"
      let secretFree : SecretFree := {
        cameraUuid := selected.camera.cameraUuid
        key := selected.key
        name := selected.camera.displayName
        recordStreamUuid := record.streamUuid
        detectStreamUuid := detect.streamUuid
        mediaHost
        inputs := desiredInputs recordAlias detectAlias (record.streamUuid = detect.streamUuid)
        detectSize := size
        live := [("Record", recordAlias), ("Detect", detectAlias)]
        streamKeys := [detectAlias, recordAlias] }
      pure (some { secretFree with
        streams := [(recordAlias, [streamSource password sourceHost record]),
          (detectAlias, [streamSource password sourceHost detect])]
        desiredHash := FrigateTexts.desiredHash secretFree })
  | _, _ => .ok none

end

/-! The comparison with Frigate. -/

/-- What the five calls before the loop, or at the end of a wait, have returned. -/
structure Snapshot where
  config : LiveConfig := {}
  rawPaths : RawPaths := {}
  rawConfig : RawConfig := {}
  runtimeStreams : List String := []
  stats : List (String × Bool) := []
  deriving DecidableEq, Repr

def Snapshot.running (snapshot : Snapshot) (key : String) : Bool :=
  (snapshot.stats.lookup key).isSome

def Snapshot.hasCamera (snapshot : Snapshot) (key : String) : Bool :=
  (snapshot.config.cameras.lookup key).isSome

def ownedCameraMismatch (desired : DesiredCamera) (snapshot : Snapshot) : Option String :=
  match snapshot.config.cameras.lookup desired.key with
  | none => some "camera_configuration_missing"
  | some actual =>
      if actual.friendlyName ≠ some desired.name then
        some "camera_name_mismatch"
      else if actual.detectSize.getD (0, 0) ≠ desired.detectSize then
        some "detect_settings_mismatch"
      else if !actual.live.isPerm desired.live then
        some "live_streams_mismatch"
      else if snapshot.rawPaths.inputs.lookup desired.key ≠
          some (desired.inputs.map fun input => (input.path, input.roles)) then
        some "ffmpeg_inputs_mismatch"
      else if ((snapshot.rawConfig.cameras.lookup desired.key).bind (·.detectFps)).isSome then
        some "detect_settings_mismatch"
      else
        none

def actualMismatch (desired : DesiredCamera) (snapshot : Snapshot) : Option String :=
  (ownedCameraMismatch desired snapshot).or <|
    if desired.streams.any fun (name, sources) =>
        snapshot.rawPaths.streams.lookup name ≠ some sources then
      some "saved_stream_mismatch"
    else if desired.streams.any fun (name, _) => name ∉ snapshot.runtimeStreams then
      some "runtime_stream_missing"
    else
      none

def actualMatches (desired : DesiredCamera) (snapshot : Snapshot) : Bool :=
  (actualMismatch desired snapshot).isNone

section
variable {σ : Type} (frigate : Frigate σ)

def takeSnapshot : Talk σ Snapshot := do
  let config ← ask frigate .config
  let rawPaths ← ask frigate .rawPaths
  let rawConfig ← ask frigate .rawConfig
  let runtimeStreams ← ask frigate .runtimeStreams
  let stats ← ask frigate .stats
  pure ⟨config, rawPaths, rawConfig, runtimeStreams, stats⟩

/-- One round of `_wait_for_camera_state`. -/
def pollCameraState (desired : DesiredCamera) : Talk σ Snapshot := do
  let snapshot ← takeSnapshot frigate
  let mismatch := (actualMismatch desired snapshot).or
    (if snapshot.running desired.key then none else some "camera_start_pending")
  match mismatch with
  | none => pure snapshot
  | some code => Program.fail (apiFailure code)

def waitForCameraState (desired : DesiredCamera) : Talk σ Snapshot := do
  let remaining ← Program.read fun session => frigate.patience session.frigate
  untilDeadline (pollCameraState frigate desired) remaining

end

/-! Imported entries. -/

def roleStream (camera : ConsumerCamera) (role : String) : Option ConsumerStream :=
  (camera.streams.filter fun stream => role ∈ stream.roles).getLast?

section
variable [FrigateTexts]

/-- `relay_url`. -/
def importedSource (consumers : Consumers) (host : String) (stream : ConsumerStream) : String :=
  streamSource consumers.password (if host.toList.contains ':' then "[" ++ host ++ "]" else host)
    stream

/-- The stream behind a source of the original entry. -/
def sourceStream (row : ImportRow) (camera : ConsumerCamera) (sourceId : String)
    (unmapped missing : Failure) : Except Failure ConsumerStream :=
  let found : Except Failure (Option ConsumerStream) :=
    match row.roles.find? (·.2 = sourceId) with
    | some (role, _) => .ok (roleStream camera role)
    | none => match row.streamMap.lookup sourceId with
      | some streamUuid => .ok (camera.streams.find? (·.streamUuid = streamUuid))
      | none => .error unmapped
  match found with
  | .error failure => .error failure
  | .ok none => .error missing
  | .ok (some stream) => .ok stream

def wrapSource (wrapper url : String) : List String :=
  [if wrapper = "" then url else "ffmpeg:" ++ url ++ wrapper]

/-- The inputs of the original entry with the relay in place of its sources. -/
def managedInputs (row : ImportRow) (recordAlias detectAlias : String) :
    Except Failure (List FrigateInput) :=
  (·.flatten) <$> row.original.inputs.mapM fun input =>
    let assigned := ["record", "detect"].filter (· ∈ input.roles)
    if assigned.isEmpty then
      .error (apiFailure "unsupported_input_roles")
    else
      .ok (assigned.map fun role =>
        { path := relayUrl (if role = "record" then recordAlias else detectAlias)
          roles := if "audio" ∈ input.roles ∧ some role = assigned.head? then [role, "audio"]
            else [role]
          inputArgs := some (input.inputArgs.getD "preset-rtsp-restream") })

/-- `build_managed`. -/
def buildManaged (consumers : Consumers) (camera : ConsumerCamera) (row : ImportRow)
    (host : String) : Except Failure (CameraEntry × StreamMap) :=
  match roleStream camera "record", roleStream camera "detect" with
  | some record, some detect =>
      if !camera.enabled then
        .error (apiFailure "stream_roles_missing")
      else
        match row.aliases.lookup "record", row.aliases.lookup "detect" with
        | some recordAlias, some detectAlias => do
            let source := importedSource consumers host
            let relays := setKey [(recordAlias, [source record])] detectAlias [source detect]
            let live ← row.live.mapM fun (aliasKey, spec) => do
              let stream ← sourceStream row camera spec.sourceId .raised
                (apiFailure "live_stream_disabled")
              pure (aliasKey, wrapSource spec.wrapper (source stream))
            let streams := mergeKeys relays live
            let missing := row.releasedStreams.filter fun (aliasKey, _) =>
              (streams.lookup aliasKey).isNone
            let released ← missing.mapM fun (aliasKey, _) => do
              let resolved ← FrigateTexts.releasedSource row aliasKey
              let stream ← sourceStream row camera resolved.sourceId
                (apiFailure "stream_roles_missing") (apiFailure "stream_roles_missing")
              pure (aliasKey, wrapSource resolved.wrapper (source stream))
            let inputs ← managedInputs row recordAlias detectAlias
            pure ({ row.original with inputs }, mergeKeys streams released)
        | _, _ => .error .raised
  | _, _ => .error (apiFailure "stream_roles_missing")

end

/-- `ImportStore.links` with its keys. -/
def importRows (tables : FrigateTables) (targetId : String) : List (String × ImportRow) :=
  let links := tables.links.filter (·.targetId = targetId)
  let pending := tables.handoffs.filter fun row =>
    row.targetId = targetId && !links.any (·.cameraKey = row.cameraKey)
  (pending ++ links).map fun row => (row.cameraKey, row.payload)

/-- What stays the same during one call: the target, the inventory and the host for an
address mode. -/
structure SyncScope (σ : Type) where
  frigate : Frigate σ
  targetId : String
  consumers : Consumers
  host : AddressMode → Except ApiError String

section
variable {σ : Type} [FrigateTexts] (scope : SyncScope σ)

/-- The streams an imported entry should have. -/
def importedStreams (camera : ConsumerCamera) (row : ImportRow) : Talk σ StreamMap := do
  let tables ← getTables
  let mode := ((tables.target scope.targetId).bind (·.addressMode)).getD .lan
  let host ← Program.ofExcept ((scope.host mode).mapError .api)
  let (_, streams) ← Program.ofExcept (buildManaged scope.consumers camera row host)
  pure streams

def writeStreams (streams : StreamMap) : Talk σ Unit := do
  send scope.frigate (.setConfig { streams := streams.map fun (name, sources) =>
    (name, some sources) })
  Program.each (fun (name, sources) =>
    send scope.frigate (.setRuntimeStream name (sources.headD ""))) streams

/-- The `try` body of `sync_imported`. -/
def syncLink (key : String) (row : ImportRow) (camera : ConsumerCamera) : Talk σ Unit := do
  let desired ← importedStreams scope camera row
  let raw ← ask scope.frigate .rawConfig
  match row.managedCamera with
  | none => Program.fail .raised
  | some managed =>
      let conflict : Talk σ Unit := amend (·.setFrigateSelectionError scope.targetId
        camera.cameraUuid (some "import_source_conflict"))
      if (raw.cameras.lookup key).map (·.inputs) ≠ some managed.inputs then
        conflict
      else if row.managedStreams.any fun (aliasKey, old) =>
          let held := raw.streams.lookup aliasKey
          held ≠ some old && held ≠ desired.lookup aliasKey then
        conflict
      else do
        if !desired.isPerm row.managedStreams then
          writeStreams scope desired
          persist (·.saveLink scope.targetId key { row with managedStreams := desired })
        amend (·.setFrigateSelectionError scope.targetId camera.cameraUuid none)

/-- A link whose camera is not in the inventory stops the call. -/
def syncRow (selected : List String) (key : String) (row : ImportRow) : Talk σ Unit :=
  match row.state, row.cameraUuid with
  | .active, some cameraUuid =>
      if cameraUuid ∉ selected then
        pure ()
      else
        match scope.consumers.cameras.find? (·.cameraUuid = cameraUuid) with
        | none => Program.fail .raised
        | some camera =>
            if !camera.enabled then
              pure ()
            else do
              match ← attempt (syncLink scope key row camera) with
              | .ok () => pure ()
              | .error error => amend (·.setFrigateSelectionError scope.targetId cameraUuid
                  (some error.code))
  | _, _ => pure ()

/-- The uuids of all imported cameras. -/
def syncImported : Talk σ (List String) := do
  let tables ← getTables
  let selected := (tables.selections.filter (·.targetId = scope.targetId)).map (·.cameraUuid)
  let links := importRows tables scope.targetId
  Program.each (fun (key, row) => syncRow scope selected key row) links
  pure (links.filterMap (·.2.cameraUuid))

/-! One camera. -/

structure Progress where
  snapshot : Snapshot
  applied : Nat := 0
  pending : Nat := 0
  deriving DecidableEq, Repr

def Progress.postponed (progress : Progress) : Progress :=
  { progress with pending := progress.pending + 1 }

def markApplied (cameraUuid : String) (progress : Progress) : Talk σ Progress := do
  reportApplied cameraUuid
  pure { progress with applied := progress.applied + 1 }

def setEnabled (key : String) (enabled : Bool) : FrigateWrite :=
  .setConfig {
    camera := some (key, { enabled := .set enabled })
    updateTopic := some ("config/cameras/" ++ key ++ "/enabled") }

/-- The `try` body of the disable branch. -/
def disableEntry (key : String) : Talk σ LiveConfig := do
  send scope.frigate (setEnabled key false)
  let verified ← ask scope.frigate .config
  if (verified.cameras.lookup key).bind (·.enabled) = some false then
    pure verified
  else
    Program.fail (apiFailure "camera_enabled_mismatch")

/-- The branch of a camera that is disabled in CamAdmiral. -/
def disableCamera (cameraUuid : String) (binding : Option FrigateBindingRow)
    (progress : Progress) : Talk σ Progress :=
  match binding with
  | none => markApplied cameraUuid progress
  | some binding =>
      let key := binding.frigateCameraKey
      match progress.snapshot.config.cameras.lookup key with
      | none => markApplied cameraUuid progress
      | some actual =>
          if actual.enabled = some false then
            markApplied cameraUuid progress
          else do
            amend (·.setFrigateCameraEnabledApplied scope.targetId cameraUuid false)
            persist (·.recordFrigateAttempt scope.targetId cameraUuid key
              binding.recordStreamUuid binding.detectStreamUuid binding.desiredHash)
            match ← attempt (disableEntry scope key) with
            | .error error =>
                amend (·.completeError scope.targetId cameraUuid error.code)
                pure progress.postponed
            | .ok verified =>
                amend (·.completeApplied scope.targetId cameraUuid
                  (binding.appliedHash.getD binding.desiredHash))
                markApplied cameraUuid
                  { progress with snapshot := { progress.snapshot with config := verified } }

/-- The update of an entry. What is there is not enabled by it, unless it was retired. -/
def cameraUpdate (desired : DesiredCamera) (snapshot : Snapshot) (retired : Option RetiredRow) :
    EntryChange :=
  let known := snapshot.hasCamera desired.key
  let savedFps := (snapshot.rawConfig.cameras.lookup desired.key).bind (·.detectFps)
  { enabled := if retired.isSome || !known then .set true else .keep
    friendlyName := .set desired.name
    inputs := some desired.inputs
    detectSize := .set desired.detectSize
    detectFps := if known && savedFps.isSome then .delete else .keep
    live := desired.live
    record := retired.elim .keep fun row => .restore row.restore.record
    dashboard := retired.elim .keep fun row => .restore row.restore.dashboard }

/-- `_requires_frigate_017_second_camera_restart`. -/
def requiresSecondCameraRestart (config : LiveConfig) (key : String) : Bool :=
  let version := config.version.toList
  ("0.17".toList.isPrefixOf version &&
    match version.drop 4 with
    | [] => true
    | next :: _ => next = '.' || next = '-') &&
    config.cameras.length = 1 && (config.cameras.lookup key).isNone

/-- The requests of the write branch, in their order. -/
def cameraWrites (desired : DesiredCamera) (snapshot : Snapshot)
    (binding : Option FrigateBindingRow) (retired : Option RetiredRow) (allowRestart : Bool) :
    List FrigateWrite :=
  let known := snapshot.hasCamera desired.key
  let restart := requiresSecondCameraRestart snapshot.config desired.key || retired.isSome
  [.setConfig {
      camera := some (desired.key, cameraUpdate desired snapshot retired)
      updateTopic := if known then none else some ("config/cameras/" ++ desired.key ++ "/add") }] ++
    (if known && binding.any (!·.cameraEnabledApplied) then [setEnabled desired.key true] else []) ++
    [.setConfig { streams := desired.streams.map fun (name, sources) => (name, some sources) }] ++
    (desired.streams.map fun (name, sources) => .setRuntimeStream name (sources.headD "")) ++
    if restart && allowRestart then [.restart] else []

/-- The `try` body of the write branch. -/
def writeEntry (desired : DesiredCamera) (snapshot : Snapshot)
    (binding : Option FrigateBindingRow) (retired : Option RetiredRow) (allowRestart : Bool) :
    Talk σ Snapshot := do
  Program.each (send scope.frigate) (cameraWrites desired snapshot binding retired allowRestart)
  waitForCameraState scope.frigate desired

def recordAttempt (desired : DesiredCamera) : Talk σ Unit :=
  persist (·.recordFrigateAttempt scope.targetId desired.cameraUuid desired.key
    desired.recordStreamUuid desired.detectStreamUuid desired.desiredHash)

/-- The end of an attempt. -/
def finishAttempt (desired : DesiredCamera) (progress : Progress)
    (outcome : Except ApiError Snapshot) (verified : FrigateTables → FrigateTables) :
    Talk σ Progress :=
  match outcome with
  | .error error => do
      amend (·.completeError scope.targetId desired.cameraUuid error.code)
      pure progress.postponed
  | .ok snapshot => do
      amend fun tables =>
        verified (tables.completeApplied scope.targetId desired.cameraUuid desired.desiredHash)
      markApplied desired.cameraUuid { progress with snapshot := snapshot }

/-- The entry exists as desired, but its worker is not running yet. -/
def awaitCamera (desired : DesiredCamera) (progress : Progress) : Talk σ Progress := do
  recordAttempt scope desired
  let outcome ← attempt (waitForCameraState scope.frigate desired)
  finishAttempt scope desired progress outcome id

def writeCamera (desired : DesiredCamera) (binding : Option FrigateBindingRow)
    (retired : Option RetiredRow) (allowRestart : Bool) (progress : Progress) :
    Talk σ Progress := do
  recordAttempt scope desired
  let outcome ← attempt
    (writeEntry scope desired progress.snapshot binding retired allowRestart)
  finishAttempt scope desired progress outcome fun tables =>
    let enabled := tables.setFrigateCameraEnabledApplied scope.targetId desired.cameraUuid true
    if retired.isSome then
      enabled.forgetRetiredFrigateCamera scope.targetId desired.key
    else
      enabled

/-- Nothing is left to do for the camera. -/
def isSettled (desired : DesiredCamera) (snapshot : Snapshot)
    (binding : Option FrigateBindingRow) (retired : Option RetiredRow) : Bool :=
  binding.any (fun row => row.cameraEnabledApplied &&
    row.appliedHash = some desired.desiredHash) &&
    retired.isNone && actualMatches desired snapshot && snapshot.running desired.key

def reportConflict (cameraUuid code : String) (progress : Progress) : Talk σ Progress := do
  amend (·.setFrigateSelectionError scope.targetId cameraUuid (some code))
  pure progress.postponed

/-- The branches of an enabled camera. -/
def applyDesired (desired : DesiredCamera) (binding : Option FrigateBindingRow)
    (allowRestart : Bool) (progress : Progress) : Talk σ Progress := do
  let snapshot := progress.snapshot
  let known := snapshot.hasCamera desired.key
  let aliasesExist := desired.streams.any fun (name, _) =>
    (snapshot.rawPaths.streams.lookup name).isSome || name ∈ snapshot.runtimeStreams
  let tables ← getTables
  let retired := tables.retiredFrigateCamera scope.targetId desired.key
  if binding.isNone && retired.isNone && (known || aliasesExist) then
    reportConflict scope desired.cameraUuid
      (if known then "camera_resource_conflict" else "stream_resource_conflict") progress
  else if retired.isSome && !allowRestart then
    pure progress.postponed
  else if isSettled desired snapshot binding retired then do
    if binding.any (·.status ≠ .applied) then
      amend (·.completeApplied scope.targetId desired.cameraUuid desired.desiredHash)
    markApplied desired.cameraUuid progress
  else if known && actualMatches desired snapshot && !snapshot.running desired.key &&
      retired.isNone then
    awaitCamera scope desired progress
  else
    writeCamera scope desired binding retired allowRestart progress

/-- One round of the loop. -/
def reconcileCamera (allowRestart : Bool) (selected : SelectedCamera) (progress : Progress) :
    Talk σ Progress := do
  let cameraUuid := selected.camera.cameraUuid
  amend (·.setFrigateSelectionError scope.targetId cameraUuid none)
  let tables ← getTables
  let binding := tables.frigateBinding scope.targetId cameraUuid
  if !selected.camera.enabled then
    disableCamera scope cameraUuid binding progress
  else do
    -- The host is not resolved inside a `try`.
    let host ← Program.ofExcept ((scope.host selected.addressMode).mapError .api)
    match desiredCamera selected scope.consumers.password host with
    | .error error => reportConflict scope cameraUuid error.code progress
    | .ok none => reportConflict scope cameraUuid "stream_roles_missing" progress
    | .ok (some desired) => applyDesired scope desired binding allowRestart progress

def reconcileCameras (allowRestart : Bool) : List SelectedCamera → Progress → Talk σ Progress
  | [], progress => pure progress
  | selected :: rest, progress => do
      let progress ← reconcileCamera scope allowRestart selected progress
      reconcileCameras allowRestart rest progress

/-- The cameras of a call: all that are selected, or one of them. -/
def scopeCameras (tables : FrigateTables) (only : Option String) : List SelectedCamera :=
  (selectedCameraInventory tables scope.consumers scope.targetId).filter fun selected =>
    only.all (· = selected.camera.cameraUuid)

/-- Everything before the loop: the imported cameras and what Frigate reports. -/
def inspectFrigate : Talk σ (List String × Snapshot) := do
  ask scope.frigate .capabilities
  let imported ← syncImported scope
  let snapshot ← takeSnapshot scope.frigate
  pure (imported, snapshot)

/-- `applied` and `pending`. -/
def reconcileFrigate (allowRestart : Bool) (only : Option String := none) :
    Talk σ (Nat × Nat) := do
  let tables ← getTables
  let cameras := scopeCameras scope tables only
  if cameras.isEmpty then
    pure (0, 0)
  else do
    let (imported, snapshot) ← inspectFrigate scope
    let progress ← reconcileCameras scope allowRestart
      (cameras.filter (·.camera.cameraUuid ∉ imported)) { snapshot }
    pure (progress.applied, progress.pending)

end

end CamAdmiral
