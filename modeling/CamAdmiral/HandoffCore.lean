import CamAdmiral.FrigateTables

/-!
The start of a handoff: which go2rtc aliases a Frigate entry reads, and the checks before
`_release_reader` pauses them. Frigate's answers to the later polling are left out.
-/

namespace CamAdmiral

/-- `urllib.parse.urlsplit` as the walk uses it: for an RTSP URL of the local relay at port
8554 its path without the leading slashes. The outer `none` is a `ValueError`. -/
class RelayUrls where
  localAlias : String → Option (Option String)

/-- The URLs that Frigate itself writes, for concrete runs. -/
@[reducible] def plainRelayUrls : RelayUrls where
  localAlias text :=
    let relay := "rtsp://127.0.0.1:8554/"
    some (if startsWith text relay then
      some (String.ofList ((text.toList.drop relay.length).takeWhile fun character =>
        character ≠ '?' && character ≠ '#'))
    else
      none)

inductive HandoffError
  | sourceUnavailable
  | configurationChangedRefreshPreview
  | unsafeHandoffSource
  | relayCycle
  | sharedHandoffSource
  /-- An exception that is no `FrigateApiError`. -/
  | raised
  deriving DecidableEq, Repr

/-- The parts of Frigate's saved configuration that the handoff looks at. -/
structure RawConfig where
  cameras : List (String × CameraEntry) := []
  streams : StreamMap := []
  deriving DecidableEq, Repr

def maxSources : Nat := 8

/-- The source of an `ffmpeg:` wrapper. -/
def unwrapSource (value : String) : String :=
  if startsWith value "ffmpeg:" then
    String.ofList ((value.toList.drop 7).takeWhile (· ≠ '#'))
  else
    value

/-- The results for all values; the first exception stops. -/
def collectAll {α : Type} (find : α → Except HandoffError (List String)) :
    List α → Except HandoffError (List String)
  | [] => .ok []
  | value :: rest => do
      let first ← find value
      let others ← collectAll find rest
      pure (first ++ others)

section
variable [RelayUrls]

/-- The alias a value names or points to, with its sources. -/
def relayReference (streams : StreamMap) (value : String) :
    Except HandoffError (Option (String × List String)) :=
  let source := unwrapSource value
  match streams.lookup source with
  | some sources => .ok (some (source, sources))
  | none =>
      match RelayUrls.localAlias source with
      | none => .error .raised
      | some aliasKey =>
          .ok (aliasKey.bind fun aliasKey =>
            (streams.lookup aliasKey).map fun sources => (aliasKey, sources))

/-- `visit` of `_media_aliases`; the trail may not grow past `MAX_SOURCES`. -/
def visit (streams : StreamMap) : Nat → List String → String →
    Except HandoffError (List String)
  | 0, _, _ => .error .unsafeHandoffSource
  | remaining + 1, trail, value => do
      match ← relayReference streams value with
      | none => pure []
      | some (aliasKey, sources) =>
          if aliasKey ∈ trail then
            throw .relayCycle
          else
            let nested ← collectAll (visit streams remaining (trail ++ [aliasKey])) sources
            pure (aliasKey :: nested)

def visitSource (streams : StreamMap) (value : String) : Except HandoffError (List String) :=
  visit streams (maxSources + 1) [] value

/-- The URL of an alias on Frigate's own relay. -/
def relayUrl (aliasKey : String) : String := "rtsp://127.0.0.1:8554/" ++ aliasKey

/-- `_media_aliases`. -/
def mediaAliases (camera : CameraEntry) (streams : StreamMap) :
    Except HandoffError (List String) := do
  let captured ← collectAll (visitSource streams) (camera.inputs.map (·.path))
  let live ← collectAll (fun aliasKey => visitSource streams (relayUrl aliasKey))
    ((camera.live.map Prod.snd).filter fun aliasKey => (streams.lookup aliasKey).isSome)
  pure (captured ++ live)

/-- Whether two sets of aliases meet. -/
def meets (aliases others : List String) : Bool := others.any (· ∈ aliases)

def checkOriginal (raw : RawConfig) (row : ImportRow) : Except HandoffError Unit :=
  let paused := row.handoff && (row.state = .paused || row.state = .applying)
  let expected := if paused then row.pausedCamera else some row.original
  let held (aliasKey : String) : Option (List String) := raw.streams.lookup aliasKey
  if raw.cameras.lookup row.key ≠ expected then
    .error .configurationChangedRefreshPreview
  else if raw.cameras.any fun (name, other) => name ≠ row.key &&
      row.live.any fun (aliasKey, _) => aliasKey ∈ other.live.map Prod.snd || name = aliasKey then
    .error .configurationChangedRefreshPreview
  else if row.originalStreams.any fun (aliasKey, value) =>
      held aliasKey ≠ (if paused && (row.releasedStreams.lookup aliasKey).isSome then
        row.pausedStreams.lookup aliasKey else value) then
    .error .configurationChangedRefreshPreview
  else if paused && row.pausedStreams.any fun (aliasKey, value) => held aliasKey ≠ some value then
    .error .configurationChangedRefreshPreview
  else
    .ok ()

/-- `{alias: streams[alias] for alias in aliases}`. -/
def releasedStreams (streams : StreamMap) (aliases : List String) :
    Except HandoffError StreamMap :=
  aliases.mapM fun aliasKey => match streams.lookup aliasKey with
    | some sources => .ok (aliasKey, sources)
    | none => .error .raised

/-- The row that is saved and the camera entry and streams that are written. -/
structure Release where
  row : ImportRow
  camera : CameraEntry
  streams : StreamMap
  deriving DecidableEq, Repr

/-- `_release_reader` up to its write. `cameraFps` is the frame rate of the entry. -/
def releaseReader (targetApiUrl : String) (row : ImportRow) (raw : RawConfig)
    (cameraFps : Nat) : Except HandoffError Release := do
  if cameraFps = 0 then
    throw .sourceUnavailable
  checkOriginal raw row
  let streams := raw.streams
  let read ← mediaAliases row.original streams
  let aliases := (read ++ row.originalStreams.map Prod.fst).dedup
  let _ ← collectAll (fun (name, other) => do
    let others ← if name ≠ row.key then mediaAliases other streams else pure []
    if meets aliases others then throw .sharedHandoffSource else pure []) raw.cameras
  let _ ← collectAll (fun (aliasKey, sources) => do
    let others ←
      if aliasKey ∉ aliases then collectAll (visitSource streams) sources else pure []
    if meets aliases others then throw .sharedHandoffSource else pure []) streams
  let released ← releasedStreams streams aliases
  let paused := { row.original with enabled := some false }
  let pausedStreams := aliases.map fun aliasKey =>
    (aliasKey, ["rtsp://127.0.0.1:1/camadmiral-handoff"])
  let releasing : ImportRow := { row with
    handoff := true
    state := .releasing
    pausedCamera := some paused
    releasedStreams := released
    pausedStreams := pausedStreams
    targetApiUrl := some targetApiUrl
    aliases := [] }
  checkOriginal raw releasing
  pure ⟨releasing, paused, pausedStreams⟩

end

end CamAdmiral
