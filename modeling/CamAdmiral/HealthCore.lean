import CamAdmiral.MonitorCore
import CamAdmiral.Programs
import CamAdmiral.RelayActivity

/-!
The background checks of the relay health monitor: the pool of snapshots, the pool of logins, and
the cycles that collect and submit them. What the cycle is told by the repository, the relay, the
executors and the clock is its input, so the futures end at any time. The journal says what
happened to the pools.
-/

namespace CamAdmiral

/-! The pools. -/

/-- A submitted check, with a copy of its source; futures are numbered as they are submitted. -/
structure PendingCheck where
  future : Nat
  source : ManagedSource
  deriving DecidableEq, Repr

inductive CheckKind
  | snapshot
  | login
  deriving DecidableEq, Repr

/-- Snapshots are pending by stream, logins by camera. -/
def CheckKind.key (kind : CheckKind) (source : ManagedSource) : String :=
  match kind with
  | .snapshot => source.streamUuid
  | .login => source.cameraUuid

structure CheckPools where
  pendingSnapshots : List (String × PendingCheck) := []
  pendingAuth : List (String × PendingCheck) := []
  deriving DecidableEq, Repr

def CheckPools.pending (pools : CheckPools) : CheckKind → List (String × PendingCheck)
  | .snapshot => pools.pendingSnapshots
  | .login => pools.pendingAuth

def CheckPools.replace (pools : CheckPools) (pending : List (String × PendingCheck)) :
    CheckKind → CheckPools
  | .snapshot => { pools with pendingSnapshots := pending }
  | .login => { pools with pendingAuth := pending }

/-- What happens to a future. A finished check is recorded for a stream, whose source is the
current one at that moment. -/
inductive CheckEvent
  | submitted (future : Nat)
  | collected (future : Nat)
  | recorded (future : Nat) (streamUuid : String) (status : ProbeStatus)
      (current : Option ManagedSource)
  deriving DecidableEq, Repr

/-- An event and the pools after it. -/
structure JournalEntry where
  event : CheckEvent
  pools : CheckPools
  deriving DecidableEq, Repr

/-- The pools, what each future was submitted with, and all that has happened. -/
structure Checks where
  pools : CheckPools := {}
  submissions : List (CheckKind × ManagedSource) := []
  journal : List JournalEntry := []
  deriving DecidableEq, Repr

def Checks.events (checks : Checks) : List CheckEvent := checks.journal.map JournalEntry.event

def Checks.note (checks : Checks) (event : CheckEvent) : Checks :=
  { checks with journal := checks.journal ++ [⟨event, checks.pools⟩] }

def Checks.collect (checks : Checks) (kind : CheckKind) (entry : String × PendingCheck) :
    Checks :=
  { checks with
    pools := checks.pools.replace (eraseKey (checks.pools.pending kind) entry.1) kind }.note
      (.collected entry.2.future)

def Checks.submit (checks : Checks) (kind : CheckKind) (source : ManagedSource) : Checks :=
  { checks with
    pools := checks.pools.replace (setKey (checks.pools.pending kind) (kind.key source)
      ⟨checks.submissions.length, source⟩) kind
    submissions := checks.submissions ++ [(kind, source)] }.note
      (.submitted checks.submissions.length)

/-! The monitor. -/

structure RelayHealthMonitor where
  videoSamples : List (String × (String × Int)) := []
  failureSamples : List (String × Nat) := []
  frameProbeAttempts : List (String × ℚ) := []
  frameProbeRetries : List String := []
  checks : Checks := {}

/-- `PROBE_WORKERS` and the arguments of the constructor. -/
structure HealthOptions where
  probeWorkers : Int
  frameProbeInterval : ℚ
  frameProbeBatchSize : Int

def checkCapacity (probeWorkers : Int) : Nat := (max 1 (min probeWorkers 4)).toNat

/-- What one cycle is told. Each pass over a pool asks once whether a future is done. -/
structure HealthCycle where
  schedule : Except String (List (String × ℚ))
  retrySources : Except String (List ManagedSource)
  loginVerdicts : Nat → Option ProbeVerdict
  storeLogin : Nat → Except String Unit
  retryTime : ℚ
  claimAuthRetry : String → Except String Bool
  submitLogin : ManagedSource → Except String Unit
  sources : Except String (List ManagedSource)
  runtime : Except String (List (String × Option RelayStream))
  rtspAccessPassword : Except String String
  frameTime : ℚ
  firstVerdicts : Nat → Option ProbeVerdict
  submitSnapshot : ManagedSource → Except String Unit
  secondVerdicts : Nat → Option ProbeVerdict
  probeSource : ManagedSource → Option ProbeStatus
  storeResults : Except String Unit

abbrev HealthProgram := Program String RelayHealthMonitor

open Program

def changeChecks (change : Checks → Checks) : HealthProgram Unit :=
  modify fun monitor => { monitor with checks := change monitor.checks }

def changeRetries (change : List String → List String) : HealthProgram Unit :=
  modify fun monitor => { monitor with frameProbeRetries := change monitor.frameProbeRetries }

/-- A dictionary of the sources by their streams. -/
def sourcesByStream (sources : List ManagedSource) : List (String × ManagedSource) :=
  sources.foldl (fun found source => setKey found source.streamUuid source) []

/-! `_retry_authentication`. -/

/-- The body of the loop over the pending logins; the sources are a local variable. -/
def collectLogin (cycle : HealthCycle) (sources : List (String × ManagedSource))
    (entry : String × PendingCheck) : HealthProgram (List (String × ManagedSource)) :=
  match cycle.loginVerdicts entry.2.future with
  | none => pure sources
  | some verdict => do
      changeChecks (·.collect .login entry)
      let streamUuid := entry.2.source.streamUuid
      if sources.lookup streamUuid = some entry.2.source && verdict = .decoded then do
        ofExcept (cycle.storeLogin entry.2.future)
        changeChecks (·.note
          (.recorded entry.2.future streamUuid .ready (sources.lookup streamUuid)))
        pure (eraseKey sources streamUuid)
      else
        pure sources

def scheduledAt (schedule : List (String × ℚ)) (streamUuid : String) : ℚ :=
  (schedule.lookup streamUuid).getD 0

/-- The body of the loop over the due logins. -/
def submitLogin (cycle : HealthCycle) (schedule : List (String × ℚ))
    (entry : String × ManagedSource) : HealthProgram Unit := do
  let pending ← read (·.checks.pools.pendingAuth)
  if (pending.lookup entry.2.cameraUuid).isSome ||
      cycle.retryTime < scheduledAt schedule entry.1 then
    pure ()
  else do
    let claimed ← ofExcept (cycle.claimAuthRetry entry.1)
    if claimed then do
      ofExcept (cycle.submitLogin entry.2)
      changeChecks (·.submit .login entry.2)
    else
      pure ()

/-- The loop, which ends once every worker has a login. -/
def submitLogins (options : HealthOptions) (cycle : HealthCycle) (schedule : List (String × ℚ)) :
    List (String × ManagedSource) → HealthProgram Unit
  | [] => pure ()
  | entry :: rest => do
      let pending ← read (·.checks.pools.pendingAuth)
      if checkCapacity options.probeWorkers ≤ pending.length then
        pure ()
      else do
        submitLogin cycle schedule entry
        submitLogins options cycle schedule rest

def retryAuthentication (options : HealthOptions) (cycle : HealthCycle) : HealthProgram Unit := do
  let schedule ← ofExcept cycle.schedule
  let pending ← read (·.checks.pools.pendingAuth)
  if schedule = [] && pending = [] then
    pure ()
  else do
    let listed ← ofExcept cycle.retrySources
    let sources ← eachWith (collectLogin cycle)
      (sourcesByStream (listed.filter fun source => (schedule.lookup source.streamUuid).isSome))
      pending
    submitLogins options cycle schedule (sources.mergeSort fun first second =>
      scheduledAt schedule first.1 ≤ scheduledAt schedule second.1)

/-! `_sample_periodic_sources`. -/

/-- A result, with the check that it comes from if it comes from one. -/
structure CheckResult where
  status : ProbeStatus
  check : Option PendingCheck := none
  deriving DecidableEq, Repr

abbrev CheckResults := List (String × CheckResult)

/-- The body of the loop in `collect`. -/
def collectSnapshot (current : List (String × ManagedSource))
    (verdicts : Nat → Option ProbeVerdict) (results : CheckResults)
    (entry : String × PendingCheck) : HealthProgram CheckResults :=
  match verdicts entry.2.future with
  | none => pure results
  | some verdict => do
      changeChecks (·.collect .snapshot entry)
      if current.lookup entry.1 = some entry.2.source then
        match verdict with
        | .decoded => do
            changeRetries (·.filter (· ≠ entry.1))
            pure (setKey results entry.1 ⟨.ready, some entry.2⟩)
        | .busy => do
            changeRetries (·.insert entry.1)
            pure results
        | .failed => do
            changeRetries (·.insert entry.1)
            pure (setKey results entry.1 ⟨.failed, some entry.2⟩)
      else
        pure results

def collectPending (current : List (String × ManagedSource))
    (verdicts : Nat → Option ProbeVerdict) (results : CheckResults) :
    HealthProgram CheckResults := do
  let pending ← read (·.checks.pools.pendingSnapshots)
  eachWith (collectSnapshot current verdicts) results pending

/-- Neither pending nor just observed, and new, to be retried or old enough. -/
def isDue (options : HealthOptions) (monitor : RelayHealthMonitor) (results : CheckResults)
    (now : ℚ) (streamUuid : String) : Bool :=
  (monitor.checks.pools.pendingSnapshots.lookup streamUuid).isNone &&
    (results.lookup streamUuid).isNone &&
    match monitor.frameProbeAttempts.lookup streamUuid with
    | none => true
    | some previous => streamUuid ∈ monitor.frameProbeRetries ||
        max 0 options.frameProbeInterval ≤ now - previous

/-- Streams without an attempt first, then those with the oldest one. -/
def dueOrder (monitor : RelayHealthMonitor) (first second : ManagedSource) : Bool :=
  match monitor.frameProbeAttempts.lookup first.streamUuid,
      monitor.frameProbeAttempts.lookup second.streamUuid with
  | none, _ => true
  | some _, none => false
  | some attempt, some other => attempt ≤ other

/-- As many of the due sources as a batch and the free workers allow. -/
def dueSources (options : HealthOptions) (monitor : RelayHealthMonitor)
    (current : List (String × ManagedSource)) (results : CheckResults) (now : ℚ) :
    List ManagedSource :=
  let due := (current.filter fun entry => isDue options monitor results now entry.1).map Prod.snd
  let free : Int :=
    checkCapacity options.probeWorkers - monitor.checks.pools.pendingSnapshots.length
  (due.mergeSort (dueOrder monitor)).take (min (max 1 options.frameProbeBatchSize) free).toNat

/-- The body of the loop over the due sources. -/
def submitFrame (cycle : HealthCycle) (source : ManagedSource) : HealthProgram Unit := do
  modify fun monitor => { monitor with
    frameProbeAttempts := setKey monitor.frameProbeAttempts source.streamUuid cycle.frameTime }
  changeRetries (·.filter (· ≠ source.streamUuid))
  ofExcept (cycle.submitSnapshot source)
  changeChecks (·.submit .snapshot source)

def samplePeriodicSources (options : HealthOptions) (cycle : HealthCycle)
    (sources : List ManagedSource) : HealthProgram CheckResults := do
  let current := sourcesByStream sources
  let collected ← collectPending current cycle.firstVerdicts []
  let due ← read fun monitor => dueSources options monitor current collected cycle.frameTime
  each (submitFrame cycle) due
  collectPending current cycle.secondVerdicts collected

/-! `probe`. -/

/-- The result of a stream with consumers and its new video sample. -/
def videoResult (previous current : Option (String × Int)) :
    ProbeStatus × Option (String × Int) :=
  match current with
  | none => (.failed, none)
  | some sample =>
      if sample.2 ≤ 0 then (.failed, none)
      else
        let advancing := previous.all fun earlier =>
          earlier.1 ≠ sample.1 || earlier.2 < sample.2
        (if advancing then .ready else .failed, some sample)

/-- The body of the loop over the sources. -/
def sampleVideo (runtime : List (String × Option RelayStream))
    (state : List (String × (String × Int)) × CheckResults) (source : ManagedSource) :
    List (String × (String × Int)) × CheckResults :=
  let stream := runtimeStream runtime source.streamKey
  if hasExternalConsumers stream then
    let (status, sample) :=
      videoResult (state.1.lookup source.streamUuid) (activeVideoSample stream)
    (match sample with
      | some sample => setKey state.1 source.streamUuid sample
      | none => eraseKey state.1 source.streamUuid,
      setKey state.2 source.streamUuid { status := status })
  else
    (eraseKey state.1 source.streamUuid, state.2)

/-- A snapshot counts unless the stream is active and only the snapshot failed. -/
def mergeCheck (active : CheckResults) (state : CheckResults × List String)
    (entry : String × CheckResult) : CheckResults × List String :=
  match active.lookup entry.1 with
  | some observed =>
      if observed.status ≠ .ready || entry.2.status = .ready then
        (setKey state.1 entry.1 entry.2, state.2)
      else
        (state.1, state.2.filter (· ≠ entry.1))
  | none => (setKey state.1 entry.1 entry.2, state.2)

/-- Counts the failures in a row; the second one asks for a diagnosis, one stream of a camera at
a time. -/
def countCheck (current : List (String × ManagedSource))
    (state : List (String × Nat) × List (String × ManagedSource))
    (entry : String × CheckResult) : List (String × Nat) × List (String × ManagedSource) :=
  match current.lookup entry.1 with
  | none => state
  | some source =>
      if entry.2.status = .failed then
        let failures := (state.1.lookup entry.1).getD 0 + 1
        if failures ≠ 2 then (setKey state.1 entry.1 failures, state.2)
        else if (state.2.lookup source.cameraUuid).isSome then
          (setKey state.1 entry.1 1, state.2)
        else
          (setKey state.1 entry.1 2, setKey state.2 source.cameraUuid source)
      else
        (eraseKey state.1 entry.1, state.2)

/-- The rejections that `probe_source` finds; an executor needs at least one worker. -/
def diagnoseSources (options : HealthOptions) (cycle : HealthCycle)
    (suspects : List (String × ManagedSource)) : Except String CheckResults :=
  if suspects = [] then .ok []
  else if min options.probeWorkers suspects.length ≤ 0 then
    .error "max_workers must be greater than 0"
  else
    .ok (suspects.filterMap fun entry =>
      if cycle.probeSource entry.2 = some .authFailed then
        some (entry.2.streamUuid, { status := .authFailed })
      else
        none)

/-- Samples, counters and attempts of streams that are no longer active go. -/
def RelayHealthMonitor.forgetOthers (monitor : RelayHealthMonitor)
    (current : List (String × ManagedSource)) : RelayHealthMonitor :=
  let active (streamUuid : String) : Bool := (current.lookup streamUuid).isSome
  { monitor with
    videoSamples := monitor.videoSamples.filter (active ·.1)
    failureSamples := monitor.failureSamples.filter (active ·.1)
    frameProbeAttempts := monitor.frameProbeAttempts.filter (active ·.1)
    frameProbeRetries := monitor.frameProbeRetries.filter fun streamUuid =>
      (monitor.frameProbeAttempts.lookup streamUuid).isNone || active streamUuid }

/-- A result that comes from a check, as it is recorded. -/
def noteResult (current : List (String × ManagedSource)) (entry : String × CheckResult) :
    HealthProgram Unit :=
  match entry.2.check with
  | none => pure ()
  | some check => changeChecks (·.note
      (.recorded check.future entry.1 entry.2.status (current.lookup entry.1)))

def probe (options : HealthOptions) (cycle : HealthCycle) : HealthProgram CheckResults := do
  retryAuthentication options cycle
  let sources ← ofExcept cycle.sources
  let runtime ← ofExcept cycle.runtime
  let samples ← read (·.videoSamples)
  let (samples, active) := sources.foldl (sampleVideo runtime) (samples, [])
  modify fun monitor => { monitor with videoSamples := samples }
  let current := sourcesByStream sources
  let _ ← ofExcept cycle.rtspAccessPassword
  let periodic ← samplePeriodicSources options cycle sources
  let retries ← read (·.frameProbeRetries)
  let (results, retries) := periodic.foldl (mergeCheck active) (active, retries)
  changeRetries fun _ => retries
  let failures ← read (·.failureSamples)
  let (failures, suspects) := results.foldl (countCheck current) (failures, [])
  modify fun monitor => { monitor with failureSamples := failures }
  let rejections ← ofExcept (diagnoseSources options cycle suspects)
  modify (·.forgetOthers current)
  let results := rejections.foldl (fun results entry => setKey results entry.1 entry.2) results
  ofExcept cycle.storeResults
  each (noteResult current) results
  pure results

/-- The monitor after cycles that may raise. -/
def RelayHealthMonitor.after (options : HealthOptions) (monitor : RelayHealthMonitor)
    (cycles : List HealthCycle) : RelayHealthMonitor :=
  cycles.foldl (fun monitor cycle => (probe options cycle monitor).2) monitor

end CamAdmiral
