import CamAdmiral.ReconcileCore

/-!
Removal of managed resources: retiring a camera entry, `remove_frigate_camera` and
`full_sync_frigate`. A retired entry stays in Frigate, disabled, and the repository remembers
what to put back.
-/

namespace CamAdmiral

def keyPrefix : String := "camadmiral_"

def isRetiredCamera (entry : CameraEntry) : Bool :=
  entry.enabled = some false && entry.visibility.record = some false &&
    entry.visibility.dashboard = some false

def sortedNames (names : List String) : List String :=
  names.mergeSort fun first second => first ≤ second

structure ResourceKeys where
  cameras : List String
  streams : List String

def desiredResourceKeys (tables : FrigateTables) (consumers : Consumers) (targetId : String) :
    ResourceKeys :=
  let links := importRows tables targetId
  let imported := links.filterMap (·.2.cameraUuid)
  let owned := ((selectedCameraInventory tables consumers targetId).filter
    (·.camera.cameraUuid ∉ imported)).map (·.key)
  { cameras := owned ++ links.map Prod.fst
    streams := owned.flatMap (fun key => [key ++ "_record", key ++ "_detect"]) ++
      links.flatMap fun link => link.2.managedStreams.map Prod.fst }

section
variable {σ : Type} (scope : SyncScope σ)

def verificationFailed (stage resource : String) : Failure :=
  apiFailure "verification_failed" (some stage) (some resource)

def recordOff (key : String) : FrigateWrite :=
  .setConfig {
    camera := some (key, { record := .set false })
    updateTopic := some ("config/cameras/" ++ key ++ "/record") }

def hideEntry (key : String) : FrigateWrite :=
  .setConfig {
    camera := some (key, { enabled := .set false, dashboard := .set false })
    updateTopic := some ("config/cameras/" ++ key ++ "/enabled") }

def retireCamera (key : String) : Talk σ Unit := do
  let raw ← ask scope.frigate .rawConfig
  let saved := (raw.cameras.lookup key).getD {}
  persist (·.rememberRetiredFrigateCamera scope.targetId key saved.visibility)
  send scope.frigate (recordOff key)
  send scope.frigate (hideEntry key)
  let verified ← ask scope.frigate .rawConfig
  if (verified.cameras.lookup key).any isRetiredCamera then
    pure ()
  else
    Program.fail (verificationFailed "disable_camera" key)

structure FullSyncState where
  desiredCameras : List String
  staleCameras : List String
  staleConfigStreams : List String
  staleRuntimeStreams : List String
  deriving DecidableEq, Repr

/-- `stale_streams`. -/
def FullSyncState.staleStreams (state : FullSyncState) : List String :=
  sortedNames (state.staleConfigStreams ++
    state.staleRuntimeStreams.filter (· ∉ state.staleConfigStreams))

def fullSyncState : Talk σ FullSyncState := do
  let raw ← ask scope.frigate .rawConfig
  let runtimeStreams ← ask scope.frigate .runtimeStreams
  let tables ← getTables
  let desired := desiredResourceKeys tables scope.consumers scope.targetId
  let isRetired (key : String) (entry : CameraEntry) : Bool :=
    (tables.retiredFrigateCamera scope.targetId key).isSome && isRetiredCamera entry
  let stale (desired : List String) (names : List String) : List String :=
    sortedNames (names.filter fun name => startsWith name keyPrefix && name ∉ desired)
  pure {
    desiredCameras := desired.cameras
    staleCameras := stale desired.cameras
      ((raw.cameras.filter fun (key, entry) => !isRetired key entry).map Prod.fst)
    staleConfigStreams := stale desired.streams (raw.streams.map Prod.fst)
    staleRuntimeStreams := stale desired.streams runtimeStreams }

def deleteStreams (names : List String) (requiresRestart : Bool) : FrigateWrite :=
  .setConfig { streams := names.map fun name => (name, none), requiresRestart }

/-- Deletes what is still running; the errors by stream. -/
def deleteRuntimeStreams : List String → Talk σ (List (String × ApiError))
  | [] => pure []
  | name :: rest => do
      let outcome ← attempt (send scope.frigate (.deleteRuntimeStream name))
      let others ← deleteRuntimeStreams rest
      match outcome with
      | .ok () => pure others
      | .error error => pure ((name, error) :: others)

/-- `_wait_for_runtime_cleanup` with a number of rounds left: what remains at the end. -/
def waitForRuntimeCleanup (names : List String) : Nat → Talk σ (List String)
  | 0 => do
      let runtimeStreams ← ask scope.frigate .runtimeStreams
      pure (names.filter (· ∈ runtimeStreams))
  | remaining + 1 => do
      let runtimeStreams ← ask scope.frigate .runtimeStreams
      let left := names.filter (· ∈ runtimeStreams)
      if left.isEmpty then pure left else waitForRuntimeCleanup names remaining

/-- The error of a stream that is still running. -/
def cleanupFailure (errors : List (String × ApiError)) (name : String) : Failure :=
  match errors.lookup name with
  | some error => .api (error.withContext "remove_runtime_stream" (some name))
  | none => verificationFailed "verify_runtime_cleanup" name

def removeStaleConfig (state : FullSyncState) (restart : Bool) : Talk σ Unit :=
  if state.staleConfigStreams.isEmpty then
    pure ()
  else do
    let saved ← withContext "remove_stream_configuration" none do
      send scope.frigate (deleteStreams state.staleConfigStreams restart)
      ask scope.frigate .rawConfig
    match state.staleConfigStreams.filter fun name => (saved.streams.lookup name).isSome with
    | [] => pure ()
    | name :: _ =>
        Program.fail (verificationFailed "verify_stream_configuration" name)

def removeStaleRuntime (state : FullSyncState) : Talk σ Unit := do
  let runtimeStreams ← withContext "inspect_runtime_streams" none
    (ask scope.frigate .runtimeStreams)
  let errors ← deleteRuntimeStreams scope (state.staleStreams.filter (· ∈ runtimeStreams))
  let rounds ← Program.read fun session => scope.frigate.patience session.frigate
  match ← attempt (waitForRuntimeCleanup scope state.staleStreams rounds) with
  | .error error => match errors with
      | (name, deleteError) :: _ =>
          Program.fail (.api (deleteError.withContext "remove_runtime_stream" (some name)))
      | [] => Program.fail (.api (error.withContext "verify_runtime_cleanup" none))
  | .ok [] => pure ()
  | .ok (name :: _) => Program.fail (cleanupFailure errors name)

structure FullSyncResult where
  removedCameras : Nat
  removedStreams : Nat
  restartRecommended : Bool
  applied : Nat := 0
  pending : Nat := 0
  deriving DecidableEq, Repr

/-- The workers of cameras that are neither wanted nor retired. -/
def staleWorkers (desiredCameras : List String) (stats : List (String × Bool))
    (live : LiveConfig) : List String :=
  (stats.map Prod.fst).filter fun key => startsWith key keyPrefix && key ∉ desiredCameras &&
    !(live.cameras.lookup key).any isRetiredCamera

def verifyFullSync (restart : Bool) : Talk σ Unit := do
  let verified ← withContext "verify_cleanup" none (fullSyncState scope)
  let remaining := verified.staleCameras ++ verified.staleConfigStreams ++
    if restart then [] else verified.staleRuntimeStreams
  match remaining with
  | [] => pure ()
  | name :: _ =>
      Program.fail (verificationFailed "verify_cleanup" name)

def fullSyncFrigate [FrigateTexts] : Talk σ FullSyncResult := do
  let (state, stats) ← withContext "inspect_configuration" none do
    ask scope.frigate .capabilities
    let state ← fullSyncState scope
    let stats ← ask scope.frigate .stats
    pure (state, stats)
  let live ← ask scope.frigate .config
  let restart := !state.staleCameras.isEmpty ||
    !(staleWorkers state.desiredCameras stats live).isEmpty
  Program.each (fun key =>
    withContext "remove_camera" (some key) (retireCamera scope key)) state.staleCameras
  removeStaleConfig scope state restart
  if !restart then removeStaleRuntime scope state
  verifyFullSync scope restart
  let (applied, pending) ← withContext "reconcile_current_cameras" none
    (reconcileFrigate scope (!restart))
  pure ⟨state.staleCameras.length, state.staleStreams.length, restart, applied, pending⟩

/-! One camera. -/

/-- What `remove_frigate_camera` finds before it writes. -/
structure RemovalState where
  cameraExists : Bool
  configuredAliases : List String
  runtimeAliases : List String
  restartRecommended : Bool
  deriving DecidableEq, Repr

def inspectRemoval (key : String) : Talk σ RemovalState :=
  withContext "inspect_configuration" none do
    ask scope.frigate .capabilities
    let raw ← ask scope.frigate .rawConfig
    let runtimeStreams ← ask scope.frigate .runtimeStreams
    let stats ← ask scope.frigate .stats
    let aliases := [key ++ "_record", key ++ "_detect"]
    let cameraExists := (raw.cameras.lookup key).isSome
    pure {
      cameraExists
      configuredAliases := aliases.filter fun name => (raw.streams.lookup name).isSome
      runtimeAliases := aliases.filter (· ∈ runtimeStreams)
      restartRecommended := cameraExists || (stats.lookup key).isSome }

def removeRuntimeAliases (aliases : List String) : Talk σ Unit := do
  let errors ← deleteRuntimeStreams scope aliases
  let rounds ← Program.read fun session => scope.frigate.patience session.frigate
  let remaining ← withContext "verify_runtime_cleanup" none
    (waitForRuntimeCleanup scope aliases rounds)
  match remaining with
  | [] => pure ()
  | name :: _ => Program.fail (cleanupFailure errors name)

def verifyRemoval (key : String) (state : RemovalState) : Talk σ Unit := do
  let (raw, runtimeStreams) ← withContext "verify_cleanup" none do
    let raw ← ask scope.frigate .rawConfig
    let runtimeStreams ← ask scope.frigate .runtimeStreams
    pure (raw, runtimeStreams)
  if state.cameraExists && !(raw.cameras.lookup key).any isRetiredCamera then
    Program.fail (verificationFailed "verify_cleanup" key)
  else
    let aliases := [key ++ "_record", key ++ "_detect"]
    let remaining := (aliases.filter fun name => (raw.streams.lookup name).isSome) ++
      if state.restartRecommended then [] else aliases.filter (· ∈ runtimeStreams)
    match remaining with
    | [] => pure ()
    | name :: _ =>
        Program.fail (verificationFailed "verify_cleanup" name)

/-- Everything `remove_frigate_camera` does to Frigate. -/
def removeEntry (key : String) (state : RemovalState) : Talk σ Unit := do
  if state.cameraExists then
    withContext "disable_camera" (some key) (retireCamera scope key)
  if !state.configuredAliases.isEmpty then
    withContext "remove_stream_configuration" none
      (send scope.frigate (deleteStreams state.configuredAliases state.restartRecommended))
  if !state.restartRecommended then
    removeRuntimeAliases scope state.runtimeAliases
  verifyRemoval scope key state

def removeFrigateCamera (cameraUuid : String) : Talk σ FullSyncResult := do
  let tables ← getTables
  match tables.frigateBinding scope.targetId cameraUuid with
  | none =>
      amend (·.deselectFrigateCamera scope.targetId cameraUuid)
      pure ⟨0, 0, false, 0, 0⟩
  | some binding =>
      let key := binding.frigateCameraKey
      if (tables.importLink scope.targetId key).any (·.cameraUuid = some cameraUuid) then
        Program.fail (apiFailure "import_restore_required")
      else if !startsWith key keyPrefix then
        Program.fail (apiFailure "ownership_verification_failed")
      else do
        let state ← inspectRemoval scope key
        removeEntry scope key state
        amend (·.deselectFrigateCamera scope.targetId cameraUuid)
        amend (·.removeFrigateBinding scope.targetId cameraUuid)
        let removed := state.configuredAliases ++
          state.runtimeAliases.filter (· ∉ state.configuredAliases)
        pure ⟨if state.cameraExists then 1 else 0, removed.length, state.restartRecommended, 0, 0⟩

end

end CamAdmiral
