import CamAdmiral.MediaCore
import CamAdmiral.ReconcileCore
import CamAdmiral.SourceCredentials
import CamAdmiral.SourceIdentity
import Mathlib.Data.List.Dedup
import Mathlib.Data.List.Sort

/-!
The preview of an import: what each entry of Frigate's configuration captures and shows, which
camera of the repository it is, and whether it can be imported. The job that keeps the preview
is what `execute` starts from. The encryption of a job, its ONVIF settings and its public form
are left out.
-/

namespace CamAdmiral

/-- A source as `resolve_source` returns it, without its wrapper. -/
structure ImportSource where
  uri : String
  username : String
  password : String
  deriving DecidableEq, Repr

inductive ImportCategory
  | new
  | existing
  | managed
  | conflict
  deriving DecidableEq, Repr

inductive ImportStatus
  | ready
  | queued
  | pending
  | running
  | applied
  | alreadyManaged
  | error
  deriving DecidableEq, Repr

inductive ConfigurationStatus
  | unchanged
  | restored
  | restoreRequired
  deriving DecidableEq, Repr

inductive IdentityStatus
  | verified
  | unavailable
  deriving DecidableEq, Repr

/-- `phase`, with `stream_index` and `stream_total` where a stream is worked on. -/
structure ImportPhase where
  name : String
  stream : Option (Nat × Nat) := none
  deriving DecidableEq, Repr

/-- A row of a job. Its `row` is what the journal keeps of it. -/
structure ImportCamera where
  row : ImportRow
  name : String
  enabled : Bool := true
  category : ImportCategory := .new
  status : ImportStatus := .ready
  reason : Option String := none
  canImport : Bool := true
  canKeepExisting : Bool := false
  canRestore : Bool := false
  sources : List (String × ImportSource) := []
  matchSignature : Option String := none
  releaseRequired : Bool := false
  phase : Option ImportPhase := none
  configurationStatus : Option ConfigurationStatus := none
  identityStatus : Option IdentityStatus := none
  deriving DecidableEq, Repr

inductive JobStatus
  | preview
  | running
  | completed
  | error
  deriving DecidableEq, Repr

structure ImportJob where
  jobId : String
  apiUrl : String
  status : JobStatus := .preview
  selected : Option (List String) := none
  keepExisting : List String := []
  cameras : List ImportCamera := []
  deriving DecidableEq, Repr

/-! The sources of an entry. -/

def SourceError.code : SourceError → String
  | .unsupportedSource => "unsupported_source"
  | .unresolvedSecret => "unresolved_secret"
  | .relayCycle => "relay_cycle"
  | .multipleSourceFallbacks => "multiple_source_fallbacks"
  | .unsupportedSecretQuery => "unsupported_secret_query"
  | .invalidSource => "invalid_source"

/-- `digest(_rtsp_source_key(uri))` without the key. -/
class SourceDigest where
  digest : SourceKey → String

section
variable [TextCase]

attribute [local instance] parsedUrls

/-- `resolve_source`, with its wrapper; a failure is its code. -/
def resolveImport (value : String) (streams : StreamMap) :
    Except String (ImportSource × String) :=
  let known := streams.map fun stream =>
    (stream.1.toList, stream.2.map fun source => some source.toList)
  match resolveSource (some value.toList) known with
  | .error problem => .error problem.code
  | .ok resolved => .ok (
      { uri := String.ofList resolved.uri
        username := String.ofList resolved.username
        password := String.ofList resolved.password },
      String.ofList resolved.wrapper)

/-- `_rtsp_source_key` inside a `try` that turns a `ValueError` into this code. -/
def sourceKeyOf (uri : String) : Except String SourceKey :=
  match rtspSourceKey uri with
  | some key => .ok key
  | none => .error "unsupported_source"

variable [SourceDigest]

def sourceIdOf (source : ImportSource) : Except String String :=
  SourceDigest.digest <$> sourceKeyOf source.uri

/-- What `inspect_camera` has found so far. -/
structure Inspected where
  sources : List (String × ImportSource) := []
  roles : List (String × String) := []
  live : List (String × LiveSource) := []
  deriving DecidableEq, Repr

def inspectInput (streams : StreamMap) (found : Inspected) (input : FrigateInput) :
    Except String Inspected := do
  let (source, wrapper) ← resolveImport input.path streams
  if wrapper ≠ "" then
    throw "transcoded_capture_source"
  let sourceId ← sourceIdOf source
  let assigned := input.roles.filter (· ∈ ["record", "detect"])
  pure { found with
    sources := setKey found.sources sourceId source
    roles := assigned.foldl (fun roles role => setKey roles role sourceId) found.roles }

/-- `setdefault`. -/
def setMissing {β : Type} (mapping : List (String × β)) (key : String) (value : β) :
    List (String × β) :=
  if (mapping.lookup key).isSome then mapping else setKey mapping key value

/-- One role stands for the other. -/
def completeRoles (roles : List (String × String)) : List (String × String) :=
  let recorded := match roles.lookup "detect" with
    | some sourceId => setMissing roles "record" sourceId
    | none => roles
  match recorded.lookup "record" with
  | some sourceId => setMissing recorded "detect" sourceId
  | none => recorded

/-- The aliases of the live view: those of the entry, else the one with its key. -/
def shownAliases (key : String) (effective : CameraEntry) (streams : StreamMap) : List String :=
  let listed := (effective.live.map Prod.snd).dedup
  let shown := if listed.isEmpty && (streams.lookup key).isSome then [key] else listed
  List.insertionSort (· ≤ ·) shown

def inspectLive (streams : StreamMap) (found : Inspected) (aliasKey : String) :
    Except String Inspected :=
  match streams.lookup aliasKey with
  | none => .ok found
  | some [value] => do
      let (source, wrapper) ← resolveImport value streams
      let sourceId ← sourceIdOf source
      pure { found with
        sources := setMissing found.sources sourceId source
        live := setKey found.live aliasKey { sourceId, wrapper } }
  | some _ => .error "multiple_source_fallbacks"

def inspectCamera (key : String) (effective : CameraEntry) (streams : StreamMap) :
    Except String Inspected := do
  let captured ← effective.inputs.foldlM (inspectInput streams) {}
  if captured.roles.isEmpty then
    throw "missing_stream_roles"
  let complete := { captured with roles := completeRoles captured.roles }
  let found ← (shownAliases key effective streams).foldlM (inspectLive streams) complete
  if maxSources < found.sources.length then
    throw "too_many_sources"
  let logins := found.sources.map fun source => (source.2.username, source.2.password)
  if logins.dedup.length ≠ 1 then
    throw "different_stream_credentials"
  let hosts ← found.sources.mapM fun source => match UrlText.split source.2.uri with
    | some parts => Except.ok parts.host
    | none => Except.error "unsupported_source"
  if hosts.dedup.length ≠ 1 then
    throw "different_stream_hosts"
  pure found

end

/-! The camera of the repository. -/

/-- What `preview` reads besides Frigate: the managed sources, the inventory, the signature of
a camera, the bindings of the target and its import links. -/
structure ImportKnowledge where
  sources : List ManagedSource := []
  consumers : Consumers := {}
  matchSignature : String → String := id
  /-- The camera of a Frigate key. -/
  bindings : List (String × String) := []
  links : List (String × ImportRow) := []

/-- The roles of a camera's streams, the last one for a role. -/
def currentRoles (camera : ConsumerCamera) : List (String × String) :=
  (camera.streams.flatMap fun stream => stream.roles.map fun role =>
    (role, stream.streamUuid)).foldl (fun roles entry => setKey roles entry.1 entry.2) []

/-- The fields of a row that `preview` is at, and the code of the exception that ends it. -/
abbrev PreviewProgram := Program String ImportCamera

section
variable [TextCase] [SourceDigest]

attribute [local instance] parsedUrls

/-- The managed sources with the key of a source. -/
def matchingSources (managed : List ManagedSource) (source : ImportSource) :
    Except String (List ManagedSource) := do
  let key ← sourceKeyOf source.uri
  let keyed ← managed.mapM fun candidate => do
    let candidateKey ← sourceKeyOf candidate.uri
    pure (candidate, candidateKey)
  pure ((keyed.filter fun candidate => candidate.2 = key).map Prod.fst)

/-- The row of a camera that the repository has already. -/
def matchExisting (known : ImportKnowledge) (matched : List (String × ManagedSource))
    (cameraUuid : String) : PreviewProgram Unit := do
  if known.bindings.any (·.2 = cameraUuid) ||
      known.links.any (fun link => link.2.cameraUuid = some cameraUuid) then
    Program.fail "camera_already_linked"
  Program.modify fun camera => { camera with
    category := .existing
    matchSignature := some (known.matchSignature cameraUuid)
    row := { camera.row with
      cameraUuid := some cameraUuid
      streamMap := matched.map fun entry => (entry.1, entry.2.streamUuid) } }
  let camera ← Program.read id
  match known.consumers.cameras.find? (·.cameraUuid = cameraUuid) with
  | none => Program.fail "unsupported_source"
  | some held =>
      let expectedRoles := camera.row.roles.map fun role =>
        (role.1, (camera.row.streamMap.lookup role.2).getD "")
      let differs := matched.any (fun entry => (camera.sources.lookup entry.1).any fun source =>
          entry.2.username ≠ source.username || entry.2.password ≠ source.password) ||
        !expectedRoles.isPerm (currentRoles held) || !held.enabled
      Program.modify fun camera => if differs then
        { camera with
          category := .conflict
          reason := some "existing_settings_differ"
          canImport := false
          canKeepExisting := held.enabled }
      else
        camera

/-- The sources of the row among the managed ones. -/
def findExisting (known : ImportKnowledge) : PreviewProgram Unit := do
  let camera ← Program.read id
  let found ← Program.ofExcept (camera.sources.mapM fun source => do
    let candidates ← matchingSources known.sources source.2
    pure (source.1, candidates))
  match (found.flatMap fun entry => entry.2.map (·.cameraUuid)).dedup with
  | [] => pure ()
  | [cameraUuid] =>
      if found.any fun entry => entry.2.length ≠ 1 then
        Program.fail "ambiguous_source_match"
      else
        matchExisting known (found.flatMap fun entry => entry.2.map fun source =>
          (entry.1, source)) cameraUuid
  | _ => Program.fail "ambiguous_source_match"

/-- Another entry lists one of the live aliases. -/
def sharesLive (effective : List (String × CameraEntry)) (row : ImportRow) : Bool :=
  effective.any fun other => other.1 ≠ row.key &&
    row.live.any fun entry => entry.1 ∈ other.2.live.map Prod.snd

/-- The `try` body of a row. -/
def inspectRow (known : ImportKnowledge) (raw : RawConfig) (effective : LiveConfig)
    (actual : CameraEntry) (streams : StreamMap) : PreviewProgram Unit := do
  let camera ← Program.read id
  let found ← Program.ofExcept (inspectCamera camera.row.key actual streams)
  Program.modify fun camera => { camera with
    sources := found.sources
    row := { camera.row with
      roles := found.roles
      live := found.live
      originalStreams := found.live.map fun entry => (entry.1, raw.streams.lookup entry.1) } }
  let camera ← Program.read id
  if sharesLive effective.cameras camera.row then
    Program.fail "shared_live_alias"
  findExisting known
  Program.modify fun camera => if camera.enabled then
    camera
  else
    { camera with status := .pending, reason := some "disabled_camera", canImport := false }

/-- The row of an entry that CamAdmiral manages or imports already. -/
def linkedRow (known : ImportKnowledge) (camera : ImportCamera) : Option ImportCamera :=
  match known.links.lookup camera.row.key, known.bindings.lookup camera.row.key with
  | some link, _ =>
      let held := { camera with
        category := .managed
        canImport := false
        canRestore := true
        row := { camera.row with cameraUuid := link.cameraUuid } }
      some (if link.state ≠ .active then
        { held with category := .conflict, reason := some "incomplete_import_use_retry" }
      else
        held)
  | none, some cameraUuid => some { camera with
      category := .managed
      canImport := false
      row := { camera.row with cameraUuid := some cameraUuid } }
  | none, none => none

def previewCamera (known : ImportKnowledge) (raw : RawConfig) (effective : LiveConfig)
    (streams : StreamMap) (entry : String × CameraEntry) : ImportCamera :=
  let actual := (effective.cameras.lookup entry.1).getD entry.2
  let camera : ImportCamera := {
    row := { key := entry.1, cameraUuid := none, state := .preparing, original := entry.2 }
    name := (actual.friendlyName.filter (· ≠ "")).getD entry.1
    enabled := actual.enabled.getD true }
  match linkedRow known camera with
  | some linked => linked
  | none => match inspectRow known raw effective actual streams camera with
    | (.ok (), inspected) => inspected
    | (.error code, inspected) =>
        { inspected with category := .conflict, canImport := false, reason := some code }

end

def maxCameras : Nat := 256

/-- `start_job`. -/
def startJob (job : ImportJob) (selected keepExisting : List String) : ImportJob :=
  { job with
    status := .running
    selected := some selected
    keepExisting := keepExisting
    cameras := job.cameras.map fun camera =>
      if camera.row.key ∈ selected && camera.status ≠ .applied && camera.category ≠ .managed then
        if camera.enabled && (camera.canImport ||
            (camera.row.key ∈ keepExisting && camera.canKeepExisting)) then
          { camera with
            status := .queued
            phase := none
            reason := none
            configurationStatus := none
            identityStatus := none }
        else
          { camera with status := .pending, phase := none }
      else
        camera }

/-- `ImportStore.save_job`: the newest twenty jobs of the target stay, the newest first. -/
def saveJob (jobs : List ImportJob) (job : ImportJob) : List ImportJob :=
  (job :: jobs.filter (·.jobId ≠ job.jobId)).take 20

end CamAdmiral
