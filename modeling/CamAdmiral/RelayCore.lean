import CamAdmiral.FullSyncCore
import CamAdmiral.MediaCore
import CamAdmiral.SourceCredentials
import Mathlib.Data.List.MinMax

/-!
The relay that serves the managed streams, and the journal of what it should serve. go2rtc is a
parameter: what it answers and whether a request fails may depend on anything. A session is its
state beside the table `media_config_revisions`, with the calls that have marked a revision as
applied. Probing what is served is left out.
-/

namespace CamAdmiral

inductive RelayFailure
  /-- `HTTPError`. -/
  | http
  /-- `URLError`, `TimeoutError` or another `OSError`. -/
  | connection
  /-- Any other exception. -/
  | raised
  /-- The end of the process, which no handler sees. -/
  | killed
  deriving DecidableEq, Repr

/-- `except (HTTPError, URLError, TimeoutError, OSError)`. -/
def RelayFailure.isOsError : RelayFailure → Bool
  | .http | .connection => true
  | .raised | .killed => false

/-- `except Exception`. -/
def RelayFailure.isException (failure : RelayFailure) : Bool := failure ≠ .killed

/-! The requests. -/

/-- What is served, what the configuration file holds, and what is preloaded. -/
structure RelayState where
  served : StreamMap := []
  saved : StreamMap := []
  preloads : List String := []
  deriving DecidableEq, Repr

inductive RelayRead
  | api
  | streams
  | preloads
  deriving DecidableEq, Repr

/-- The JSON of a reply. The items of a list may be no texts. -/
inductive Listing
  | unreadable
  | mapping (names : List String)
  | sequence (items : List (Option String))
  | other
  deriving DecidableEq, Repr

inductive RelayWrite
  | putStream (name source : String)
  | deleteStream (name : String)
  | putPreload (name : String)
  | deletePreload (name : String)
  | patchConfig (streams : StreamMap)
  | restart
  deriving DecidableEq, Repr

/-- Streams that are put or deleted are also written to the file. -/
def RelayWrite.apply (request : RelayWrite) (relay : RelayState) : RelayState :=
  match request with
  | .putStream name source => { relay with
      served := setKey relay.served name [source]
      saved := setKey relay.saved name [source] }
  | .deleteStream name => { relay with
      served := eraseKey relay.served name
      saved := eraseKey relay.saved name }
  | .putPreload name => { relay with preloads := name :: relay.preloads.filter (· ≠ name) }
  | .deletePreload name => { relay with preloads := relay.preloads.filter (· ≠ name) }
  | .patchConfig streams => { relay with saved := mergeKeys relay.saved streams }
  | .restart => { relay with served := relay.saved }

/-- Each part is as it was or as it should be. -/
structure Partly (before after relay : RelayState) : Prop where
  served : relay.served = before.served ∨ relay.served = after.served
  saved : relay.saved = before.saved ∨ relay.saved = after.saved
  preloads : relay.preloads = before.preloads ∨ relay.preloads = after.preloads

/-- A go2rtc that nobody else talks to. A request that fails may have had its effect, or a part
of it. -/
structure Go2rtc (σ : Type) where
  state : σ → RelayState
  read : RelayRead → Program RelayFailure σ Listing
  write : RelayWrite → Program RelayFailure σ Unit
  read_state : ∀ request now, state (read request now).2 = state now
  read_streams : ∀ now names, (read .streams now).1 = .ok (.mapping names) →
    ∀ name, name ∈ names ↔ ((state now).served.lookup name).isSome = true
  read_preloads : ∀ now names, (read .preloads now).1 = .ok (.mapping names) →
    ∀ name, name ∈ names ↔ name ∈ (state now).preloads
  write_done : ∀ request now, (write request now).1 = .ok () →
    state (write request now).2 = request.apply (state now)
  write_failed : ∀ request now,
    Partly (state now) (request.apply (state now)) (state (write request now).2)

/-- A go2rtc that answers every request, for concrete runs. -/
def plainRelay : Go2rtc RelayState where
  state := id
  read request now := (.ok (.mapping (match request with
    | .api => []
    | .streams => now.served.map Prod.fst
    | .preloads => now.preloads)), now)
  write request now := (.ok (), request.apply now)
  read_state _ _ := rfl
  read_streams now names isRead name := by
    obtain rfl := Listing.mapping.inj (Except.ok.inj isRead)
    rw [List.mem_map]
    constructor
    · rintro ⟨entry, member, rfl⟩
      by_contra absent
      rw [Bool.not_eq_true, Option.isSome_eq_false_iff, Option.isNone_iff_eq_none,
        List.lookup_eq_none_iff] at absent
      exact absurd (absent entry member) (by simp)
    · intro isServed
      obtain ⟨sources, found⟩ := Option.isSome_iff_exists.mp isServed
      exact ⟨_, mem_of_lookup found, rfl⟩
  read_preloads now names isRead name := by
    obtain rfl := Listing.mapping.inj (Except.ok.inj isRead)
    rfl
  write_done _ _ _ := rfl
  write_failed _ _ := ⟨.inr rfl, .inr rfl, .inr rfl⟩

/-! The journal of revisions. -/

inductive RevisionStatus
  | desired
  | applied
  | failed
  deriving DecidableEq, Repr

/-- A source of a revision, which refers to its credentials. -/
structure TypedSource where
  streamUuid : String
  streamKey : String
  credentialRef : String
  scheme : List Char
  host : Option (List Char)
  port : Option Nat
  path : List Char
  query : List Char
  deriving DecidableEq, Repr

abbrev MediaConfig := List TypedSource

/-- The SHA-256 of a configuration as JSON. -/
class MediaDigest where
  digest : MediaConfig → String

structure RevisionRow where
  revisionId : Nat
  desiredHash : String
  config : MediaConfig
  status : RevisionStatus := .desired
  errorCode : Option String := none
  deriving DecidableEq, Repr

/-- `ORDER BY revision_id DESC LIMIT 1`. -/
def latestRevision (revisions : List RevisionRow) : Option RevisionRow :=
  revisions.argmax RevisionRow.revisionId

/-- `AUTOINCREMENT`, in a table that loses no rows. -/
def nextRevisionId (revisions : List RevisionRow) : Nat :=
  (latestRevision revisions).elim 1 (·.revisionId + 1)

def lastKnownGoodMediaRevision (revisions : List RevisionRow) : Option RevisionRow :=
  latestRevision (revisions.filter (·.status = .applied))

/-- `complete_media_revision` with a status that it accepts. -/
def completeRevision (revisions : List RevisionRow) (revisionId : Nat) (status : RevisionStatus)
    (errorCode : Option String) : List RevisionRow :=
  revisions.map fun row =>
    if row.revisionId = revisionId && row.status = .desired then
      { row with status := status, errorCode := errorCode }
    else
      row

/-- The revision of a configuration, with what is known of it. -/
def desiredRevision [MediaDigest] (revisions : List RevisionRow) (config : MediaConfig) :
    List RevisionRow × Nat × RevisionStatus :=
  let desiredHash := MediaDigest.digest config
  let known := (latestRevision revisions).filter fun latest =>
    latest.desiredHash = desiredHash && latest.status ≠ .failed
  match known with
  | some latest => (revisions, latest.revisionId, latest.status)
  | none =>
      let revisionId := nextRevisionId revisions
      (revisions ++ [{ revisionId, desiredHash, config }], revisionId, .desired)

section
variable [TextCase]

/-- `none` is a `ValueError`. -/
def typedSource (source : ManagedSource) : Option TypedSource := do
  let parsed ← urlsplit source.uri.toList
  let port ← parsed.port
  some {
    streamUuid := source.streamUuid
    streamKey := source.streamKey
    credentialRef := source.credentialUuid
    scheme := parsed.scheme
    host := parsed.hostname
    port := port
    path := parsed.path
    query := parsed.query }

def mediaConfig (sources : List ManagedSource) : Option MediaConfig :=
  (sources.mergeSort fun one two => one.streamKey ≤ two.streamKey).mapM typedSource

/-- The URI that go2rtc is given for a source. -/
def ManagedSource.relayUri (source : ManagedSource) : Option String :=
  (authenticatedRtspUri source.uri.toList source.username.toList source.password.toList).map
    String.ofList

end

/-! The calls. -/

/-- A revision that a call has marked as applied, with its sources, those that a recovery has
replaced, and go2rtc at that time. -/
structure Completion (σ : Type) where
  revisionId : Nat
  sources : List ManagedSource
  recovered : Option (List ManagedSource)
  relay : σ

structure MediaSession (σ : Type) where
  relay : σ
  revisions : List RevisionRow := []
  completions : List (Completion σ) := []

abbrev MediaTalk (σ α : Type) := Program RelayFailure (MediaSession σ) α

/-- A handler of some exceptions. -/
def catching {σ α : Type} (caught : RelayFailure → Bool) (program : MediaTalk σ α)
    (handler : RelayFailure → MediaTalk σ α) : MediaTalk σ α :=
  program.handle fun failure => if caught failure then handler failure else Program.fail failure

namespace Relay

variable {σ : Type} (go2rtc : Go2rtc σ)

def ask (request : RelayRead) : MediaTalk σ Listing := fun session =>
  let answer := go2rtc.read request session.relay
  (answer.1, { session with relay := answer.2 })

def send (request : RelayWrite) : MediaTalk σ Unit := fun session =>
  let answer := go2rtc.write request session.relay
  (answer.1, { session with relay := answer.2 })

def waitForGo2rtc : Nat → MediaTalk σ Unit
  | 0 => pure ()
  | remaining + 1 => catching RelayFailure.isOsError (do let _ ← ask go2rtc .api) fun failure =>
      if remaining = 0 then Program.fail failure else waitForGo2rtc remaining

def streamPrefix : String := "stream_"

/-- One item of the loop over what go2rtc serves. -/
def dropStale (desired : List String) (item : Option String) : MediaTalk σ Unit :=
  match item with
  | none => Program.fail .raised
  | some name =>
      if startsWith name streamPrefix && name ∉ desired then
        send go2rtc (.deleteStream name)
      else
        pure ()

/-- The items of a listing that is gone through, where nothing is served that cannot be read. -/
def servedItems : Listing → Except RelayFailure (List (Option String))
  | .unreadable => .ok []
  | .mapping names => .ok (names.map some)
  | .sequence items => .ok items
  | .other => .error .raised

/-- The names of a listing that has to be a mapping. -/
def listedNames : Listing → Except RelayFailure (List String)
  | .mapping names => .ok names
  | _ => .error .raised

def runtimeStreamKeys : MediaTalk σ (List String) := do
  let listing ← ask go2rtc .streams
  Program.ofExcept (listedNames listing)

def preloadStreamKeys : MediaTalk σ (List String) := do
  let listing ← ask go2rtc .preloads
  Program.ofExcept (listedNames listing)

def startPreload (streamKey : String) : MediaTalk σ Bool :=
  catching RelayFailure.isOsError (do send go2rtc (.putPreload streamKey); pure true) fun _ =>
    pure false

def reconcilePreloads (sources : List ManagedSource) : MediaTalk σ Unit := do
  let desired := sources.map (·.streamKey)
  let current ← preloadStreamKeys go2rtc
  Program.each (fun streamKey =>
    if startsWith streamKey streamPrefix then send go2rtc (.deletePreload streamKey) else pure ())
    (sortedNames (current.dedup.filter (· ∉ desired)))
  Program.each (fun streamKey => do let _ ← startPreload go2rtc streamKey)
    (sortedNames (desired.dedup.filter (· ∉ current)))

section
variable [TextCase]

def readableUri (source : ManagedSource) : Except RelayFailure String :=
  match source.relayUri with
  | some uri => .ok uri
  | none => .error .raised

def putSource (source : ManagedSource) : MediaTalk σ Unit := do
  let uri ← Program.ofExcept (readableUri source)
  send go2rtc (.putStream source.streamKey uri)

def reconcileStreams (sources : List ManagedSource) : MediaTalk σ Unit := do
  waitForGo2rtc go2rtc 20
  let listing ← ask go2rtc .streams
  let current ← Program.ofExcept (servedItems listing)
  Program.each (dropStale go2rtc (sources.map (·.streamKey))) current
  Program.each (putSource go2rtc) sources

/-- The streams of the configuration that `replace_streams` writes. -/
def persistedStreams (sources : List ManagedSource) : Except RelayFailure StreamMap := do
  let persisted ← sources.mapM fun source => do
    let uri ← readableUri source
    pure (source.streamKey, [uri])
  pure (mergeKeys [] persisted)

def replaceStreams (sources : List ManagedSource) : MediaTalk σ Unit := do
  waitForGo2rtc go2rtc 20
  let persisted ← Program.ofExcept (persistedStreams sources)
  if persisted.isEmpty then
    pure ()
  else do
    send go2rtc (.patchConfig persisted)
    -- The response may be lost with the process that would send it.
    catching (· = .connection) (send go2rtc .restart) fun _ => pure ()
    waitForGo2rtc go2rtc 50

variable [MediaDigest]

def recordDesiredMediaRevision (sources : List ManagedSource) :
    MediaTalk σ (Nat × RevisionStatus) := fun session =>
  match mediaConfig sources with
  | none => (.error .raised, session)
  | some config =>
      let recorded := desiredRevision session.revisions config
      (.ok recorded.2, { session with revisions := recorded.1 })

/-- `if revision_status == "desired": repository.complete_media_revision(…, "failed", …)`. -/
def failDesired (revision : Nat × RevisionStatus) (errorCode : String) : MediaTalk σ Unit :=
  if revision.2 = .desired then
    Program.modify fun session => { session with
      revisions := completeRevision session.revisions revision.1 .failed (some errorCode) }
  else
    pure ()

/-- The completion is noted beside the table. -/
def applyRevision (revisionId : Nat) (sources : List ManagedSource)
    (recovered : Option (List ManagedSource)) : MediaTalk σ Unit :=
  Program.modify fun session => { session with
    revisions := completeRevision session.revisions revisionId .applied none
    completions := session.completions ++ [⟨revisionId, sources, recovered, session.relay⟩] }

/-- `if revision_status == "desired": repository.complete_media_revision(…, "applied")`. -/
def applyDesired (revision : Nat × RevisionStatus) (sources : List ManagedSource)
    (recovered : Option (List ManagedSource)) : MediaTalk σ Unit :=
  if revision.2 = .desired then applyRevision revision.1 sources recovered else pure ()

/-- The attempt of `reconcile_and_probe`. -/
def serveSources (sources : List ManagedSource) : MediaTalk σ Unit := do
  reconcileStreams go2rtc sources
  reconcilePreloads go2rtc []
  let served ← runtimeStreamKeys go2rtc
  if sources.all (·.streamKey ∈ served) then
    pure ()
  else
    Program.fail .raised

/-- `reconcile_and_probe` up to its probes. -/
def reconcileAndProbe (sources : List ManagedSource) : MediaTalk σ Unit := do
  let revision ← recordDesiredMediaRevision sources
  catching RelayFailure.isException (serveSources go2rtc sources) fun failure => do
    failDesired revision "runtime_apply_failed"
    Program.fail failure
  applyDesired revision sources none

/-- Whether there was a drift. -/
def reconcileRuntimeDrift (sources : List ManagedSource) : MediaTalk σ Bool := do
  let desired := sources.map (·.streamKey)
  let current := (← runtimeStreamKeys go2rtc).filter (startsWith · streamPrefix)
  if current ⊆ desired && desired ⊆ current then
    pure false
  else do
    reconcileAndProbe go2rtc sources
    pure true

/-- The relay's part of `set_camera_stream_settings`. -/
def setCameraStreamSettings (sources : List ManagedSource) : MediaTalk σ Unit := do
  let revision ← recordDesiredMediaRevision sources
  reconcileStreams go2rtc sources
  replaceStreams go2rtc sources
  applyRevision revision.1 sources none

/-- The relay's part of `recover_inventory_addresses`, after the new sources are saved.
`verified` says whether the probes find every recovered stream ready. -/
def recoverInventoryAddresses (sources runtimeSources : List ManagedSource) (verified : Bool) :
    MediaTalk σ Unit := do
  let revision ← recordDesiredMediaRevision sources
  catching RelayFailure.isException
    (do
      replaceStreams go2rtc runtimeSources
      if verified then pure () else Program.fail .raised)
    fun failure => do
      failDesired revision "runtime_replacement_failed"
      Program.fail failure
  applyDesired revision sources (some runtimeSources)

/-- After the previous sources are saved again, go2rtc is given them as well. -/
def rollBackRuntime (rollbackSources : List ManagedSource) : MediaTalk σ Unit :=
  catching RelayFailure.isException (replaceStreams go2rtc rollbackSources) fun _ => pure ()

end

end Relay

/-! Runs. Every call reads the sources that the repository has by then. -/

structure MediaSystem (σ : Type) where
  history : StorageHistory := {}
  session : MediaSession σ

inductive MediaAction (σ : Type)
  | repository (call : RepositoryCall)
  /-- Whatever else happens to go2rtc between two calls, such as a restart. -/
  | relay (now : σ)
  | reconcileAndProbe
  | reconcileRuntimeDrift
  | setCameraStreamSettings
  | recoverInventoryAddresses (cameras : List String) (verified : Bool)
  | rollBackRuntime (cameras : List String)

section
variable {σ : Type} [TextCase] [UrlText]

def MediaSystem.sources (system : MediaSystem σ) : List ManagedSource :=
  managedStreamSources system.history.repository {}

def MediaSystem.sourcesOf (system : MediaSystem σ) (cameras : List String) :
    List ManagedSource :=
  system.sources.filter (·.cameraUuid ∈ cameras)

def mediaStep [MediaDigest] (go2rtc : Go2rtc σ) (system : MediaSystem σ) :
    MediaAction σ → MediaSystem σ
  | .repository call => { system with history := system.history.call call }
  | .relay now => { system with session := { system.session with relay := now } }
  | .reconcileAndProbe => { system with
      session := (Relay.reconcileAndProbe go2rtc system.sources system.session).2 }
  | .reconcileRuntimeDrift => { system with
      session := (Relay.reconcileRuntimeDrift go2rtc system.sources system.session).2 }
  | .setCameraStreamSettings => { system with
      session := (Relay.setCameraStreamSettings go2rtc system.sources system.session).2 }
  | .recoverInventoryAddresses cameras verified => { system with
      session := (Relay.recoverInventoryAddresses go2rtc system.sources
        (system.sourcesOf cameras) verified system.session).2 }
  | .rollBackRuntime cameras => { system with
      session := (Relay.rollBackRuntime go2rtc (system.sourcesOf cameras) system.session).2 }

/-- Nothing but go2rtc is there yet. -/
def MediaSystem.new (relay : σ) : MediaSystem σ where
  session := { relay }

/-- The calls of the repository draw uuids that are new. -/
def MediaAction.Fresh (system : MediaSystem σ) : MediaAction σ → Prop
  | .repository call => FreshCall system.history call
  | _ => True

/-- Nobody but CamAdmiral talks to go2rtc. -/
def MediaAction.IsCall : MediaAction σ → Prop
  | .relay _ => False
  | _ => True

/-- The systems that calls lead to, whatever go2rtc does between them. -/
abbrev MediaRun [MediaDigest] (go2rtc : Go2rtc σ)
    (allowed : MediaSystem σ → MediaAction σ → Prop) (start : MediaSystem σ) :
    MediaSystem σ → Prop :=
  Reaches (fun system action next => next = mediaStep go2rtc system action)
    (fun system action => action.Fresh system ∧ allowed system action) start

end

end CamAdmiral
