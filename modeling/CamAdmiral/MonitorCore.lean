import CamAdmiral.MediaCore

/-!
The relay health monitor beside an operator who replaces the credentials of a camera. One
step is one transaction, one request to the relay or one future that ends, so the steps of a
cycle and of the operator interleave in every order. Each result carries the credentials it
was obtained with. The cached frames and the clock of the snapshots are left out: an action
says which sources are due.
-/

namespace CamAdmiral

structure Credentials where
  username : String
  password : String
  deriving DecidableEq, Repr

def ManagedSource.credentials (source : ManagedSource) : Credentials :=
  ⟨source.username, source.password⟩

/-- The credentials stored for a stream. -/
def storedCredentials (repository : Repository) (streamUuid : String) : Option Credentials := do
  let stream ← repository.stream streamUuid
  let camera ← repository.camera stream.cameraUuid
  let credential ←
    rowAt CredentialRow.credentialUuid repository.credentials camera.credentialUuid
  pure ⟨credential.username, credential.password⟩

structure MediaObservation where
  streamUuid : String
  status : ProbeStatus
  obtainedWith : Credentials
  deriving DecidableEq, Repr

/-- How a future ends; `busy` is `SnapshotBusyError`. -/
inductive ProbeVerdict
  | decoded
  | busy
  | failed
  deriving DecidableEq, Repr

/-- A submitted check of a source, with its verdict once it is done. -/
structure PendingProbe where
  source : ManagedSource
  finished : Option (ProbeVerdict × Credentials) := none
  deriving DecidableEq, Repr

def PendingProbe.streamUuid (pending : PendingProbe) : String := pending.source.streamUuid

def PendingProbe.cameraUuid (pending : PendingProbe) : String := pending.source.cameraUuid

/-- What go2rtc reports of a stream: whether it has consumers besides the snapshots, and the
producer with video and its packets. -/
structure RelayReport where
  streamKey : String
  externalConsumers : Bool
  video : Option (String × Nat)
  deriving DecidableEq, Repr

structure VideoSample where
  streamUuid : String
  producer : String
  packets : Nat
  deriving DecidableEq, Repr

structure FailureSample where
  streamUuid : String
  failures : Nat
  deriving DecidableEq, Repr

/-- What the monitor keeps between cycles. -/
structure MonitorMemory where
  videoSamples : List VideoSample := []
  failureSamples : List FailureSample := []
  pendingSnapshots : List PendingProbe := []
  pendingAuth : List PendingProbe := []
  deriving DecidableEq, Repr

/-! One cycle, statement by statement. -/

/-- The sample of an active stream: its result, if it has consumers, and what is remembered. -/
def activeSample (streamUuid : String) (previous : Option VideoSample) (report : RelayReport) :
    Option ProbeStatus × Option VideoSample :=
  if !report.externalConsumers then
    (none, none)
  else
    match report.video with
    | none => (some .failed, none)
    | some (producer, packets) =>
        if packets = 0 then
          (some .failed, none)
        else
          let advancing := previous.all fun sample =>
            sample.producer ≠ producer || sample.packets < packets
          (some (if advancing then .ready else .failed), some ⟨streamUuid, producer, packets⟩)

/-- The report of a source the relay serves, with the credentials it holds for it. -/
def relayReport (relay : List (String × Credentials)) (reports : List RelayReport)
    (source : ManagedSource) : Option (RelayReport × Credentials) := do
  let credentials ← relay.lookup source.streamKey
  let report ← rowAt RelayReport.streamKey reports source.streamKey
  pure (report, credentials)

def sampleSource (relay : List (String × Credentials)) (reports : List RelayReport)
    (state : List VideoSample × List MediaObservation) (source : ManagedSource) :
    List VideoSample × List MediaObservation :=
  let others := state.1.filter (·.streamUuid ≠ source.streamUuid)
  match relayReport relay reports source with
  | none => (others, state.2)
  | some (report, credentials) =>
      let (status, sample) := activeSample source.streamUuid
        (rowAt VideoSample.streamUuid state.1 source.streamUuid) report
      (others ++ sample.toList,
        state.2 ++ (status.map fun status =>
          (⟨source.streamUuid, status, credentials⟩ : MediaObservation)).toList)

/-- The streams with consumers, sampled through the relay. -/
def sampleRelay (relay : List (String × Credentials)) (reports : List RelayReport)
    (memory : MonitorMemory) (sources : List ManagedSource) :
    MonitorMemory × List MediaObservation :=
  let (samples, observations) :=
    sources.foldl (sampleSource relay reports) (memory.videoSamples, [])
  ({ memory with videoSamples := samples }, observations)

/-- The result of a snapshot that is done, unless its source has changed since. -/
def snapshotResult (current : List ManagedSource) (pending : PendingProbe) :
    Option MediaObservation := do
  let (verdict, credentials) ← pending.finished
  if rowAt ManagedSource.streamUuid current pending.streamUuid = some pending.source then
    match verdict with
    | .decoded => some ⟨pending.streamUuid, .ready, credentials⟩
    | .busy => none
    | .failed => some ⟨pending.streamUuid, .failed, credentials⟩
  else
    none

/-- `collect()` in `_sample_periodic_sources`. -/
def collectSnapshots (current : List ManagedSource) (memory : MonitorMemory) :
    MonitorMemory × List MediaObservation :=
  ({ memory with
      pendingSnapshots := memory.pendingSnapshots.filter (·.finished.isNone) },
    memory.pendingSnapshots.filterMap (snapshotResult current))

/-- The sources among `due` that are neither pending nor observed. -/
def submitSnapshots (due : List String) (current : List ManagedSource)
    (observed : List MediaObservation) (memory : MonitorMemory) : MonitorMemory :=
  { memory with
    pendingSnapshots := memory.pendingSnapshots ++
      (current.filter fun source => source.streamUuid ∈ due &&
        (rowAt PendingProbe.streamUuid memory.pendingSnapshots source.streamUuid).isNone &&
        (rowAt MediaObservation.streamUuid observed source.streamUuid).isNone).map
          fun source => { source := source } }

/-- A snapshot counts unless the stream is active and only the snapshot failed. -/
def mergeResult (active results : List MediaObservation) (result : MediaObservation) :
    List MediaObservation :=
  match rowAt MediaObservation.streamUuid active result.streamUuid with
  | some observed =>
      if observed.status ≠ .ready || result.status = .ready then
        upsertRow MediaObservation.streamUuid result (fun _ => result) results
      else
        results
  | none => upsertRow MediaObservation.streamUuid result (fun _ => result) results

def mergeResults (active periodic : List MediaObservation) : List MediaObservation :=
  periodic.foldl (mergeResult active) active

/-- Counts the failures in a row; the second one of a stream asks for a diagnosis, one stream
of a camera at a time. -/
def countFailure (sources : List ManagedSource)
    (state : List FailureSample × List ManagedSource) (result : MediaObservation) :
    List FailureSample × List ManagedSource :=
  let others := state.1.filter (·.streamUuid ≠ result.streamUuid)
  if result.status ≠ .failed then
    (others, state.2)
  else
    let failures := ((rowAt FailureSample.streamUuid state.1 result.streamUuid).map
      (·.failures)).getD 0 + 1
    match rowAt ManagedSource.streamUuid sources result.streamUuid with
    | none => state
    | some source =>
        if failures ≠ 2 then
          (others ++ [⟨result.streamUuid, failures⟩], state.2)
        else if state.2.any (·.cameraUuid = source.cameraUuid) then
          (others ++ [⟨result.streamUuid, 1⟩], state.2)
        else
          (others ++ [⟨result.streamUuid, 2⟩], state.2 ++ [source])

def countFailures (sources : List ManagedSource) (memory : MonitorMemory)
    (results : List MediaObservation) : MonitorMemory × List ManagedSource :=
  let (samples, suspects) := results.foldl (countFailure sources) (memory.failureSamples, [])
  ({ memory with failureSamples := samples }, suspects)

/-- `probe_source` with the credentials of each suspect; only a rejection is kept. -/
def diagnose (probe : ManagedSource → ProbeStatus) (suspects : List ManagedSource) :
    List MediaObservation :=
  suspects.filterMap fun source =>
    if probe source = .authFailed then
      some ⟨source.streamUuid, .authFailed, source.credentials⟩
    else
      none

/-- `results.update(auth_failures)`. -/
def updateResults (results found : List MediaObservation) : List MediaObservation :=
  found.foldl (fun results result =>
    upsertRow MediaObservation.streamUuid result (fun _ => result) results) results

/-- The samples of streams that are no longer active go. -/
def forgetInactive (sources : List ManagedSource) (memory : MonitorMemory) : MonitorMemory :=
  let active (streamUuid : String) : Bool := sources.any (·.streamUuid = streamUuid)
  { memory with
    videoSamples := memory.videoSamples.filter (active ·.streamUuid)
    failureSamples := memory.failureSamples.filter (active ·.streamUuid) }

/-! Steps. -/

/-- Where the monitor's thread stands, with its local variables. -/
inductive MonitorPhase
  | idle
  | scheduled (schedule : List AuthRetryRow)
  | retrying (schedule : List AuthRetryRow) (sources : List ManagedSource)
      (todo : List String)
  | claiming (schedule : List AuthRetryRow) (now : Nat) (todo : List ManagedSource)
  | retried
  | reading (sources : List ManagedSource)
  | relayed (sources : List ManagedSource) (active : List MediaObservation)
  | collected (sources : List ManagedSource) (active periodic : List MediaObservation)
  | submitted (sources : List ManagedSource) (active periodic : List MediaObservation)
  | diagnosing (sources : List ManagedSource) (results : List MediaObservation)
      (suspects : List ManagedSource)
  | recording (sources : List ManagedSource) (results : List MediaObservation)

/-- An observation as it was recorded, with the credentials stored at that moment. -/
structure Recording where
  observation : MediaObservation
  stored : Option Credentials
  deriving DecidableEq, Repr

/-- The tables, go2rtc's credentials of each stream and the monitor. -/
structure MonitorSystem where
  tables : AuthSystem := {}
  relay : List (String × Credentials) := []
  memory : MonitorMemory := {}
  phase : MonitorPhase := .idle
  probeWorkers : Nat := 4
  log : List Recording := []

inductive MonitorAction
  | authRetrySchedule (now : Nat)
  | readRetrySources
  | collectRetry (now : Nat) (uuids : Nat → String)
  | claimRetry
  | readSources
  | readRelay (reports : List RelayReport)
  | relayFails
  | collectSnapshots
  | submitSnapshots (due : List String)
  | collectAgain
  | diagnose (probe : ManagedSource → ProbeStatus)
  | record (timestamp : Nat) (uuids : Nat → String)
  | finishSnapshot (streamUuid : String) (verdict : ProbeVerdict)
  | finishAuth (cameraUuid : String) (verdict : ProbeVerdict)
  | replaceCameraCredentials (cameraUuid : String) (credentials : Credentials)
      (timestamp : Nat) (uuids : Nat → String)
  | reconcileStreams

section
variable [TextCase] [UrlText]

def MonitorSystem.repository (system : MonitorSystem) : Repository :=
  system.tables.history.repository

/-- `record_probe_results`. -/
def MonitorSystem.record (system : MonitorSystem) (results : List MediaObservation)
    (timestamp : Nat) (uuids : Nat → String) : MonitorSystem :=
  { system with
    tables := system.tables.call
      ⟨.recordProbeResults (results.map fun result => (result.streamUuid, result.status)),
        timestamp, uuids⟩
    log := system.log ++ results.map fun result =>
      ⟨result, storedCredentials system.repository result.streamUuid⟩ }

def MonitorMemory.finishSnapshot (memory : MonitorMemory) (relay : List (String × Credentials))
    (streamUuid : String) (verdict : ProbeVerdict) : MonitorMemory :=
  { memory with
    pendingSnapshots := updateRow PendingProbe.streamUuid streamUuid
      (fun pending => if pending.finished.isSome then pending else { pending with
        finished := some (verdict,
          (relay.lookup pending.source.streamKey).getD pending.source.credentials) })
      memory.pendingSnapshots }

def MonitorMemory.finishAuth (memory : MonitorMemory) (cameraUuid : String)
    (verdict : ProbeVerdict) : MonitorMemory :=
  { memory with
    pendingAuth := updateRow PendingProbe.cameraUuid cameraUuid
      (fun pending => if pending.finished.isSome then pending else { pending with
        finished := some (verdict, pending.source.credentials) })
      memory.pendingAuth }

/-- The pending login of a camera: collected if it is done, and recorded if it decoded a frame
and its source is unchanged. -/
def MonitorSystem.collectRetry (system : MonitorSystem) (schedule : List AuthRetryRow)
    (sources : List ManagedSource) (cameraUuid : String) (rest : List String)
    (timestamp : Nat) (uuids : Nat → String) : MonitorSystem :=
  match rowAt PendingProbe.cameraUuid system.memory.pendingAuth cameraUuid with
  | some ⟨source, some (verdict, credentials)⟩ =>
      let removed : MonitorSystem := { system with
        memory := { system.memory with
          pendingAuth := system.memory.pendingAuth.filter (·.cameraUuid ≠ cameraUuid) } }
      if verdict = .decoded &&
          rowAt ManagedSource.streamUuid sources source.streamUuid = some source then
        { removed.record [⟨source.streamUuid, .ready, credentials⟩] timestamp uuids with
          phase := .retrying schedule (sources.filter (·.streamUuid ≠ source.streamUuid)) rest }
      else
        { removed with phase := .retrying schedule sources rest }
  | _ => { system with phase := .retrying schedule sources rest }

def nextAttemptOf (schedule : List AuthRetryRow) (source : ManagedSource) : Nat :=
  ((rowAt AuthRetryRow.streamUuid schedule source.streamUuid).map (·.nextAttempt)).getD 0

/-- One due login: claimed and submitted, one at a time for each camera. -/
def MonitorSystem.claimRetry (system : MonitorSystem) (schedule : List AuthRetryRow)
    (now : Nat) (source : ManagedSource) (rest : List ManagedSource) : MonitorSystem :=
  let next : MonitorSystem := { system with phase := .claiming schedule now rest }
  if system.memory.pendingAuth.any (·.cameraUuid = source.cameraUuid) ||
      now < nextAttemptOf schedule source then
    next
  else
    let (retries, due) := CamAdmiral.claimAuthRetry system.tables.retries source.streamUuid now
    if due then
      { next with
        tables := { system.tables with retries := retries }
        memory := { system.memory with
          pendingAuth := system.memory.pendingAuth ++ [{ source := source }] } }
    else
      next

def probeCapacity (probeWorkers : Nat) : Nat := max 1 (min probeWorkers 4)

/-- A step that does not fit the phase does nothing. -/
def monitorStep (system : MonitorSystem) (action : MonitorAction) : MonitorSystem :=
  match action, system.phase with
  | .authRetrySchedule now, .idle =>
      let retries :=
        CamAdmiral.authRetrySchedule system.repository system.tables.retries now
      { system with
        tables := { system.tables with retries := retries }
        phase := if retries.isEmpty && system.memory.pendingAuth.isEmpty then .retried
          else .scheduled retries }
  | .readRetrySources, .scheduled schedule =>
      { system with
        phase := .retrying schedule
          ((managedStreamSources system.repository { roleBoundOnly := true }).filter fun source =>
            (rowAt AuthRetryRow.streamUuid schedule source.streamUuid).isSome)
          (system.memory.pendingAuth.map (·.cameraUuid)) }
  | .collectRetry timestamp uuids, .retrying schedule sources (cameraUuid :: rest) =>
      system.collectRetry schedule sources cameraUuid rest timestamp uuids
  | .collectRetry now _, .retrying schedule sources [] =>
      { system with
        phase := .claiming schedule now (sources.insertionSort fun one two =>
          nextAttemptOf schedule one ≤ nextAttemptOf schedule two) }
  | .claimRetry, .claiming schedule now (source :: rest) =>
      if probeCapacity system.probeWorkers ≤ system.memory.pendingAuth.length then
        { system with phase := .retried }
      else
        system.claimRetry schedule now source rest
  | .claimRetry, .claiming _ _ [] => { system with phase := .retried }
  | .readSources, .retried =>
      { system with
        phase := .reading (managedStreamSources system.repository
          { includeAuthFailed := false, roleBoundOnly := true }) }
  | .readRelay reports, .reading sources =>
      let (memory, active) := sampleRelay system.relay reports system.memory sources
      { system with memory := memory, phase := .relayed sources active }
  | .relayFails, .reading _ => { system with phase := .idle }
  | .collectSnapshots, .relayed sources active =>
      let (memory, periodic) := CamAdmiral.collectSnapshots sources system.memory
      { system with memory := memory, phase := .collected sources active periodic }
  | .submitSnapshots due, .collected sources active periodic =>
      { system with
        memory := CamAdmiral.submitSnapshots due sources periodic system.memory
        phase := .submitted sources active periodic }
  | .collectAgain, .submitted sources active periodic =>
      let (memory, later) := CamAdmiral.collectSnapshots sources system.memory
      let results := mergeResults active (periodic ++ later)
      let (counted, suspects) := countFailures sources memory results
      { system with memory := counted, phase := .diagnosing sources results suspects }
  | .diagnose probe, .diagnosing sources results suspects =>
      { system with
        memory := forgetInactive sources system.memory
        phase := .recording sources
          (updateResults results (CamAdmiral.diagnose probe suspects)) }
  | .record timestamp uuids, .recording _ results =>
      { system.record results timestamp uuids with phase := .idle }
  | .finishSnapshot streamUuid verdict, _ =>
      { system with memory := system.memory.finishSnapshot system.relay streamUuid verdict }
  | .finishAuth cameraUuid verdict, _ =>
      { system with memory := system.memory.finishAuth cameraUuid verdict }
  | .replaceCameraCredentials cameraUuid credentials timestamp uuids, _ =>
      { system with
        tables := system.tables.call
          ⟨.replaceCameraCredentials cameraUuid credentials.username credentials.password,
            timestamp, uuids⟩ }
  | .reconcileStreams, _ =>
      { system with
        relay := (managedStreamSources system.repository {}).map fun source =>
          (source.streamKey, source.credentials) }
  | _, _ => system

end

end CamAdmiral
