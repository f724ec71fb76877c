import CamAdmiral.StorageRuns
import Mathlib.Data.List.Sort

/-!
What the probers of the media module read and write: the sources of the managed streams and
the stored backoff of streams whose camera rejects its credentials.
-/

namespace CamAdmiral

structure ManagedSource where
  streamUuid : String
  streamKey : String
  cameraUuid : String
  uri : String
  username : String
  password : String
  credentialUuid : String
  deriving DecidableEq, Repr

/-- The keyword arguments of `managed_stream_sources`. -/
structure SourceOptions where
  includeAuthFailed : Bool := true
  includeDisabled : Bool := false
  cameraUuid : Option String := none
  roleBoundOnly : Bool := false
  boundRole : Option Role := none

/-- The WHERE clause, and the join with the bindings where a role is asked for. -/
def SourceOptions.select (options : SourceOptions) (repository : Repository)
    (camera : CameraRow) (stream : StreamRow) : Bool :=
  (options.includeAuthFailed || stream.healthStatus ≠ .authFailed) &&
    (options.includeDisabled || camera.enabled && stream.enabled) &&
    options.cameraUuid.all (· = stream.cameraUuid) &&
    (!options.roleBoundOnly && options.boundRole.isNone ||
      repository.bindings.any fun binding =>
        binding.streamUuid = stream.streamUuid && options.boundRole.all (· = binding.role))

section
variable [TextCase] [UrlText]

def managedSource (repository : Repository) (options : SourceOptions) (stream : StreamRow) :
    Option ManagedSource := do
  let profile ← rowAt ProfileRow.profileUuid repository.profiles stream.profileUuid
  let camera ← repository.camera stream.cameraUuid
  let credential ←
    rowAt CredentialRow.credentialUuid repository.credentials camera.credentialUuid
  if profile.uri.isSome && options.select repository camera stream then
    some {
      streamUuid := stream.streamUuid
      streamKey := stream.streamKey
      cameraUuid := stream.cameraUuid
      uri := sourceUri profile
      username := credential.username
      password := credential.password
      credentialUuid := credential.credentialUuid }
  else
    none

def ManagedSource.before (one two : ManagedSource) : Bool :=
  one.cameraUuid < two.cameraUuid ||
    one.cameraUuid = two.cameraUuid && one.streamKey ≤ two.streamKey

def managedStreamSources (repository : Repository) (options : SourceOptions) :
    List ManagedSource :=
  (repository.streams.filterMap (managedSource repository options)).insertionSort
    fun one two => one.before two

/-- What probing every source gives. -/
def probeSourceEntries (sources : List ManagedSource) (probe : ManagedSource → ProbeStatus) :
    List (String × ProbeStatus) :=
  sources.map fun source => (source.streamUuid, probe source)

/-- The results that `reconcile_and_probe` records once go2rtc serves the sources. -/
def reconcileAndProbe (repository : Repository) (probe : ManagedSource → ProbeStatus) :
    List (String × ProbeStatus) :=
  probeSourceEntries (managedStreamSources repository {}) probe

end

/-! The backoff of streams with rejected credentials. -/

structure AuthRetryRow where
  streamUuid : String
  attempts : Nat := 0
  nextAttempt : Nat
  deriving DecidableEq, Repr

/-- `INSERT OR IGNORE`. -/
def enrolAuthRetry (retries : List AuthRetryRow) (streamUuid : String) (nextAttempt : Nat) :
    List AuthRetryRow :=
  if (rowAt AuthRetryRow.streamUuid retries streamUuid).isSome then
    retries
  else
    retries ++ [⟨streamUuid, 0, nextAttempt⟩]

/-- What recording one result does to the table. -/
def recordAuthRetry (repository : Repository) (now : Nat) (retries : List AuthRetryRow)
    (result : String × ProbeStatus) : List AuthRetryRow :=
  if (repository.stream result.1).isNone then
    retries
  else if result.2 = .authFailed then
    enrolAuthRetry retries result.1 (now + 60)
  else if result.2 = .ready then
    retries.filter (·.streamUuid ≠ result.1)
  else
    retries

def authRetrySchedule (repository : Repository) (retries : List AuthRetryRow) (now : Nat) :
    List AuthRetryRow :=
  let kept := retries.filter fun row => !repository.streams.any fun stream =>
    stream.streamUuid = row.streamUuid && (stream.healthStatus ≠ .authFailed || !stream.enabled)
  (repository.streams.filter fun stream =>
    stream.healthStatus = .authFailed && stream.enabled).foldl
      (fun rows stream => enrolAuthRetry rows stream.streamUuid (now + 60)) kept

def retryDelay (attempts : Nat) : Nat :=
  match min attempts 2 with
  | 0 => 300
  | 1 => 900
  | _ => 1800

def AuthRetryRow.claimed (row : AuthRetryRow) (now : Nat) : AuthRetryRow :=
  { row with attempts := row.attempts + 1, nextAttempt := now + retryDelay row.attempts }

/-- Returns whether the attempt was due. -/
def claimAuthRetry (retries : List AuthRetryRow) (streamUuid : String) (now : Nat) :
    List AuthRetryRow × Bool :=
  match rowAt AuthRetryRow.streamUuid retries streamUuid with
  | none => (retries, false)
  | some row =>
      if row.nextAttempt ≤ now then
        (updateRow AuthRetryRow.streamUuid streamUuid (·.claimed now) retries, true)
      else
        (retries, false)

/-- The tables of a run and the backoff table beside them. -/
structure AuthSystem where
  history : StorageHistory := {}
  retries : List AuthRetryRow := []

inductive AuthAction
  | call (call : RepositoryCall)
  | authRetrySchedule (now : Nat)
  | claimAuthRetry (streamUuid : String) (now : Nat)

section
variable [TextCase] [UrlText]

/-- A call with the statements on the backoff table; its rows go with their streams. -/
def AuthSystem.call (system : AuthSystem) (call : RepositoryCall) : AuthSystem :=
  let after := system.history.call call
  let recorded := match call.action with
    | .recordProbeResults results =>
        results.foldl (recordAuthRetry system.history.repository call.timestamp) system.retries
    | _ => system.retries
  { history := after
    retries := recorded.filter fun row => (after.repository.stream row.streamUuid).isSome }

def authStep (system : AuthSystem) : AuthAction → AuthSystem
  | .call call => system.call call
  | .authRetrySchedule now =>
      { system with
        retries := authRetrySchedule system.history.repository system.retries now }
  | .claimAuthRetry streamUuid now =>
      { system with retries := (claimAuthRetry system.retries streamUuid now).1 }

end

end CamAdmiral
