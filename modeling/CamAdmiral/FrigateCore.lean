import CamAdmiral.HandoffCore
import CamAdmiral.Mapping
import CamAdmiral.Programs

/-!
The conversation with one Frigate. Its state is a parameter: what it answers and whether a
call fails may depend on anything, as long as its saved configuration is only changed by the
calls of `/config/set`. A session is the repository's Frigate tables beside that state, with
a log of what was sent and of the cameras that were reported as applied.
-/

namespace CamAdmiral

/-- `FrigateApiError`. -/
structure ApiError where
  code : String
  stage : Option String := none
  resource : Option String := none
  upstreamStatus : Option Nat := none
  deriving DecidableEq, Repr

def ApiError.withContext (error : ApiError) (stage : String) (resource : Option String) :
    ApiError :=
  { error with stage := error.stage.or (some stage), resource := error.resource.or resource }

inductive Failure
  | api (error : ApiError)
  /-- Any other exception, such as an `IntegrityError`. -/
  | raised
  deriving DecidableEq, Repr

/-! What `/config/set` does to a saved configuration. -/

/-- A value of a configuration update; the empty string deletes its key. -/
inductive Change (α : Type)
  | keep
  | delete
  | set (value : α)
  deriving DecidableEq, Repr

def Change.apply {α : Type} (change : Change α) (held : Option α) : Option α :=
  match change with
  | .keep => held
  | .delete => none
  | .set value => some value

/-- A value that is put back, or deleted if there was none. -/
def Change.restore {α : Type} : Option α → Change α
  | none => .delete
  | some value => .set value

structure EntryChange where
  enabled : Change Bool := .keep
  friendlyName : Change String := .keep
  inputs : Option (List FrigateInput) := none
  detectSize : Change (Nat × Nat) := .keep
  detectFps : Change Nat := .keep
  live : List (String × String) := []
  record : Change Bool := .keep
  dashboard : Change Bool := .keep
  other : List (String × String) := []
  deriving DecidableEq, Repr

/-- Mappings are merged. -/
def mergeKeys {β : Type} (held added : List (String × β)) : List (String × β) :=
  added.foldl (fun mapping entry => setKey mapping entry.1 entry.2) held

def EntryChange.apply (change : EntryChange) (entry : CameraEntry) : CameraEntry where
  enabled := change.enabled.apply entry.enabled
  friendlyName := change.friendlyName.apply entry.friendlyName
  inputs := change.inputs.getD entry.inputs
  detectSize := change.detectSize.apply entry.detectSize
  detectFps := change.detectFps.apply entry.detectFps
  live := mergeKeys entry.live change.live
  visibility :=
    { record := change.record.apply entry.visibility.record
      dashboard := change.dashboard.apply entry.visibility.dashboard }
  other := mergeKeys entry.other change.other

/-- The body of a `/config/set` request: at most one camera entry, and go2rtc streams, where
`none` deletes an alias. -/
structure ConfigRequest where
  camera : Option (String × EntryChange) := none
  streams : List (String × Option (List String)) := []
  updateTopic : Option String := none
  requiresRestart : Bool := false
  deriving DecidableEq, Repr

def applyStreams (held : StreamMap) (changes : List (String × Option (List String))) :
    StreamMap :=
  changes.foldl (fun streams change => match change.2 with
    | none => eraseKey streams change.1
    | some sources => setKey streams change.1 sources) held

def ConfigRequest.apply (request : ConfigRequest) (raw : RawConfig) : RawConfig where
  cameras := match request.camera with
    | none => raw.cameras
    | some (key, change) => setKey raw.cameras key (change.apply ((raw.cameras.lookup key).getD {}))
  streams := applyStreams raw.streams request.streams

/-! The calls. -/

/-- `GET /api/config`, as far as CamAdmiral reads it. -/
structure LiveConfig where
  version : String := ""
  cameras : List (String × CameraEntry) := []
  deriving DecidableEq, Repr

/-- `GET /api/config/raw_paths`: the path and the roles of every input, and the streams. -/
structure RawPaths where
  inputs : List (String × List (String × List String)) := []
  streams : StreamMap := []
  deriving DecidableEq, Repr

inductive FrigateRead : Type → Type 1
  | capabilities : FrigateRead Unit
  | config : FrigateRead LiveConfig
  | rawPaths : FrigateRead RawPaths
  | rawConfig : FrigateRead RawConfig
  | runtimeStreams : FrigateRead (List String)
  /-- The cameras, and whether their `camera_fps` is positive. -/
  | stats : FrigateRead (List (String × Bool))

inductive FrigateWrite
  | setConfig (request : ConfigRequest)
  | setRuntimeStream (aliasKey source : String)
  | deleteRuntimeStream (aliasKey : String)
  | restart
  deriving DecidableEq, Repr

def FrigateWrite.apply (write : FrigateWrite) (raw : RawConfig) : RawConfig :=
  match write with
  | .setConfig request => request.apply raw
  | _ => raw

/-- A Frigate that nobody else edits. A call that fails may have had its effect. -/
structure Frigate (σ : Type) where
  saved : σ → RawConfig
  read : {α : Type} → FrigateRead α → Program ApiError σ α
  write : FrigateWrite → Program ApiError σ Unit
  /-- How many more times a waiting loop asks before its deadline. -/
  patience : σ → Nat
  read_saved : ∀ {α : Type} (request : FrigateRead α) (state : σ),
    saved (read request state).2 = saved state
  read_rawConfig : ∀ (state : σ) (raw : RawConfig),
    (read .rawConfig state).1 = .ok raw → raw = saved state
  write_done : ∀ (request : FrigateWrite) (state : σ),
    (write request state).1 = .ok () → saved (write request state).2 = request.apply (saved state)
  write_failed : ∀ (request : FrigateWrite) (state : σ),
    saved (write request state).2 = saved state ∨
      saved (write request state).2 = request.apply (saved state)

/-- What a Frigate reports that accepts every call. -/
structure PlainState where
  saved : RawConfig := {}
  live : LiveConfig := {}
  runtime : List String := []
  stats : List (String × Bool) := []
  deriving DecidableEq, Repr

def PlainState.read {α : Type} (request : FrigateRead α) (state : PlainState) : α :=
  match request with
  | .capabilities => ()
  | .config => state.live
  | .rawPaths =>
      { inputs := state.saved.cameras.map fun (key, entry) =>
          (key, entry.inputs.map fun input => (input.path, input.roles))
        streams := state.saved.streams }
  | .rawConfig => state.saved
  | .runtimeStreams => state.runtime
  | .stats => state.stats

def PlainState.write (write : FrigateWrite) (state : PlainState) : PlainState :=
  let saved := write.apply state.saved
  match write with
  | .setConfig request => { state with
      saved := saved
      live := { state.live with
        cameras := (request.apply { cameras := state.live.cameras }).cameras } }
  | .setRuntimeStream aliasKey _ =>
      { state with runtime := aliasKey :: state.runtime.filter (· ≠ aliasKey) }
  | .deleteRuntimeStream aliasKey =>
      { state with runtime := state.runtime.filter (· ≠ aliasKey) }
  | .restart => { state with live := { state.live with cameras := state.saved.cameras } }

/-- For concrete runs. It gives up a wait at once. -/
def plainFrigate : Frigate PlainState where
  saved := (·.saved)
  read request state := (.ok (state.read request), state)
  write request state := (.ok (), state.write request)
  patience _ := 0
  read_saved _ _ := rfl
  read_rawConfig _ _ isRead := (Except.ok.inj isRead).symm
  write_done request _ _ := by cases request <;> rfl
  write_failed request _ := .inr (by cases request <;> rfl)

inductive Event (σ : Type)
  | write (write : FrigateWrite) (before : σ)
  | applied (cameraUuid : String)

structure Session (σ : Type) where
  tables : FrigateTables
  frigate : σ
  log : List (Event σ) := []
  failures : List ApiError := []

abbrev Talk (σ α : Type) := Program Failure (Session σ) α

variable {σ α : Type}

def apiFailure (code : String) (stage resource : Option String := none) : Failure :=
  .api { code, stage, resource }

def ask (frigate : Frigate σ) (request : FrigateRead α) : Talk σ α := fun session =>
  match frigate.read request session.frigate with
  | (.ok value, later) => (.ok value, { session with frigate := later })
  | (.error error, later) => (.error (.api error),
      { session with frigate := later, failures := session.failures ++ [error] })

def send (frigate : Frigate σ) (write : FrigateWrite) : Talk σ Unit := fun session =>
  let log := session.log ++ [.write write session.frigate]
  match frigate.write write session.frigate with
  | (.ok (), later) => (.ok (), { session with frigate := later, log := log })
  | (.error error, later) => (.error (.api error),
      { session with frigate := later, log := log, failures := session.failures ++ [error] })

/-- An operation of the repository; a violated constraint is no `FrigateApiError`. -/
def persist (change : FrigateTables → Option FrigateTables) : Talk σ Unit := fun session =>
  match change session.tables with
  | some tables => (.ok (), { session with tables := tables })
  | none => (.error .raised, session)

def amend (change : FrigateTables → FrigateTables) : Talk σ Unit :=
  Program.modify fun session => { session with tables := change session.tables }

def getTables : Talk σ FrigateTables := Program.read (·.tables)

/-- `applied += 1`. -/
def reportApplied (cameraUuid : String) : Talk σ Unit :=
  Program.modify fun session => { session with log := session.log ++ [.applied cameraUuid] }

/-- `try … except FrigateApiError`. -/
def attempt (program : Talk σ α) : Talk σ (Except ApiError α) := fun session =>
  match program session with
  | (.ok value, later) => (.ok (.ok value), later)
  | (.error (.api error), later) => (.ok (.error error), later)
  | (.error .raised, later) => (.error .raised, later)

/-- A polling loop with a number of rounds left: the error of the last one is raised. -/
def untilDeadline (poll : Talk σ α) : Nat → Talk σ α
  | 0 => poll
  | remaining + 1 => do
      match ← attempt poll with
      | .ok value => pure value
      | .error _ => untilDeadline poll remaining

/-- `raise exc.with_context(…) from exc`. -/
def withContext (stage : String) (resource : Option String) (program : Talk σ α) : Talk σ α :=
  program.handle fun
    | .api error => Program.fail (.api (error.withContext stage resource))
    | .raised => Program.fail .raised

end CamAdmiral
