import CamAdmiral.ReconcileCore

/-!
`restore`: an imported entry, or one that a handoff has paused, is given back its original
configuration from the journal. Disabling a camera that the import created changes none of
Frigate's tables and is left out.
-/

namespace CamAdmiral

/-- An entry as an update: mappings are merged, so what it does not have is kept. -/
def CameraEntry.asChange (entry : CameraEntry) : EntryChange where
  enabled := entry.enabled.elim .keep .set
  friendlyName := entry.friendlyName.elim .keep .set
  inputs := some entry.inputs
  detectSize := entry.detectSize.elim .keep .set
  detectFps := entry.detectFps.elim .keep .set
  live := entry.live
  record := entry.visibility.record.elim .keep .set
  dashboard := entry.visibility.dashboard.elim .keep .set
  other := entry.other

/-- `_camera_write`; a missing entry has no `enabled` to look for. -/
def cameraWrite (row : ImportRow) (desired : CameraEntry) (current : Option CameraEntry) :
    Except Failure EntryChange :=
  if row.handoff && desired.enabled.isNone then
    match current with
    | none => .error .raised
    | some current => .ok (if current.enabled.isSome then
        { desired.asChange with enabled := .delete }
      else
        desired.asChange)
  else
    .ok desired.asChange

/-- What a restored alias should be; an alias may have had no sources. -/
def originalSources (row : ImportRow) : List (String × Option (List String)) :=
  mergeKeys (row.releasedStreams.map fun (name, sources) => (name, some sources))
    row.originalStreams

/-- The streams of the restoring write: relays that exist are deleted, unless the original
had them. A missing original is written as `null`. -/
def restoredStreams (row : ImportRow) (configured : StreamMap) :
    List (String × Option (List String)) :=
  let relays := (row.aliases.map Prod.snd).filter fun name => (configured.lookup name).isSome
  mergeKeys (mergeKeys [] (relays.map fun name => (name, none)))
    ((originalSources row).map fun (name, sources) => (name, some (sources.getD [])))

/-- Whether an alias holds something that CamAdmiral has not put there. -/
def streamsConflict (row : ImportRow) (actual : Option CameraEntry) (configured : StreamMap) :
    Bool :=
  let held (name : String) := configured.lookup name
  (row.managedStreams.any fun (name, value) =>
    !(row.handoff && actual = row.pausedCamera && held name = row.pausedStreams.lookup name) &&
      held name ≠ some value && held name ≠ ((originalSources row).lookup name).join) ||
  row.releasedStreams.any fun (name, value) =>
    held name ≠ row.pausedStreams.lookup name && held name ≠ some value &&
      held name ≠ row.managedStreams.lookup name

/-- Nothing of the import is left in Frigate. -/
def alreadyRestored (row : ImportRow) (actual : Option CameraEntry) (configured : StreamMap) :
    Bool :=
  !row.handoff && actual = some row.original &&
    !(row.aliases.any fun (_, name) => (configured.lookup name).isSome) &&
    row.originalStreams.all fun (name, value) => configured.lookup name = value

section
variable {σ : Type} (scope : SyncScope σ)

/-- `_restart`: a lost response may be that of a restart that has happened. -/
def restartFrigate : Talk σ Unit := do
  match ← attempt (send scope.frigate .restart) with
  | .ok () => pure ()
  | .error error =>
      if error.code ∈ ["target_unavailable", "invalid_response"] ||
          error.code = "request_rejected" && (error.upstreamStatus = some 502 ||
            error.upstreamStatus = some 503 || error.upstreamStatus = some 504)
      then
        pure ()
      else
        Program.fail (.api error)

/-- One round of `_wait_capture`. -/
def pollCapture (key : String) (expectedInputs : List FrigateInput) : Talk σ Unit := do
  let stats ← ask scope.frigate .stats
  if stats.lookup key = some true then do
    let rawPaths ← ask scope.frigate .rawPaths
    if (rawPaths.inputs.lookup key).getD [] =
        expectedInputs.map fun input => (input.path, input.roles) then
      pure ()
    else
      Program.fail (apiFailure "capture_verification_failed")
  else
    Program.fail (apiFailure "capture_verification_failed")

def restartAndWaitCapture (key : String) (expectedInputs : List FrigateInput) : Talk σ Unit := do
  restartFrigate scope
  let rounds ← Program.read fun session => scope.frigate.patience session.frigate
  match ← attempt (untilDeadline (pollCapture scope key expectedInputs) rounds) with
  | .ok () => pure ()
  | .error _ => Program.fail (apiFailure "capture_verification_failed")

/-- The camera of the row leaves the target. -/
def releaseCamera (cameraUuid : Option String) : Talk σ Unit :=
  match cameraUuid with
  | none => pure ()
  | some cameraUuid => do
      amend (·.deselectFrigateCamera scope.targetId cameraUuid)
      amend (·.removeFrigateBinding scope.targetId cameraUuid)

/-- The camera that a handoff has created: the one it recorded, or the one its candidate was
adopted as. Another target may use it by now. -/
def createdCamera (adoptedCamera : String → Option String) (row : ImportRow) :
    Talk σ (Option String) :=
  if row.handoff && row.createdCamera then do
    let cameraUuid := row.cameraUuid.or (row.candidateId.bind adoptedCamera)
    let tables ← getTables
    if tables.selections.any fun selection =>
        some selection.cameraUuid = cameraUuid && selection.targetId ≠ scope.targetId then
      Program.fail (apiFailure "restore_media_in_use")
    else
      pure cameraUuid
  else
    pure row.cameraUuid

/-- The write and what follows it. -/
def writeOriginal (key : String) (row : ImportRow) (change : EntryChange)
    (configured : StreamMap) : Talk σ Unit := do
  send scope.frigate (.setConfig {
    camera := some (key, change)
    streams := restoredStreams row configured
    requiresRestart := true })
  releaseCamera scope row.cameraUuid
  persist (·.saveLink scope.targetId key { row with state := .restored })
  restartAndWaitCapture scope key row.original.inputs
  Program.each (fun (_, name) => do
    let _ ← attempt (send scope.frigate (.deleteRuntimeStream name))
    pure ()) row.aliases
  amend (·.deleteLink scope.targetId key)

def restore (targetApiUrl : String) (adoptedCamera : String → Option String) (key : String) :
    Talk σ Unit := do
  let tables ← getTables
  match tables.importLink scope.targetId key with
  | none => Program.fail (apiFailure "import_not_found")
  | some row =>
      if row.targetApiUrl.getD targetApiUrl ≠ targetApiUrl then
        Program.fail (apiFailure "rollback_target_changed")
      else do
        let current ← ask scope.frigate .rawConfig
        let actual := current.cameras.lookup key
        if actual ∉ [some row.original, row.managedCamera, row.pausedCamera] then
          Program.fail (apiFailure "rollback_configuration_conflict")
        else if alreadyRestored row actual current.streams then do
          releaseCamera scope row.cameraUuid
          amend (·.deleteLink scope.targetId key)
        else if streamsConflict row actual current.streams then
          Program.fail (apiFailure "rollback_configuration_conflict")
        else do
          let cameraUuid ← createdCamera scope adoptedCamera row
          let change ← Program.ofExcept (cameraWrite row row.original actual)
          writeOriginal scope key { row with cameraUuid := cameraUuid } change current.streams

end

end CamAdmiral
