import CamAdmiral.HandoffSharing
import CamAdmiral.PathWalk
import CamAdmiral.SourceCredentials

/-!
The aliases of go2rtc that a camera entry of Frigate reads: `_media_aliases` walks from the capture
inputs and the live streams of the entry, against the graph of the aliases.
-/

namespace CamAdmiral

/-- A value that stands where a source is expected; `none` is no text. -/
abbrev SourceValue := Option (List Char)

/-- A go2rtc stream is written as one source or as a list of them. -/
inductive StreamSources
  | single (source : SourceValue)
  | several (sources : List SourceValue)
  deriving DecidableEq, Repr

def StreamSources.list : StreamSources → List SourceValue
  | .single source => [source]
  | .several sources => sources

abbrev MediaStreams := List (List Char × StreamSources)

structure MediaInput where
  path : Option SourceValue
  deriving DecidableEq, Repr

/-- An input without a path has the empty one. -/
def MediaInput.source (input : MediaInput) : SourceValue := input.path.getD (some [])

/-- The parts of a camera entry that are walked; `live` holds the aliases of its live streams. -/
structure MediaEntry where
  inputs : List MediaInput := []
  live : List (List Char) := []
  deriving DecidableEq, Repr

def MediaStreams.has (streams : MediaStreams) (aliasKey : List Char) : Bool :=
  (streams.lookup aliasKey).isSome

def MediaStreams.sources (streams : MediaStreams) (aliasKey : List Char) : List SourceValue :=
  ((streams.lookup aliasKey).map StreamSources.list).getD []

/-- The URL that the walk of a live alias starts from. -/
def liveUrl (aliasKey : List Char) : List Char := "rtsp://127.0.0.1:8554/".toList ++ aliasKey

section
variable [TextCase]

/-- The path of a URL of the relay, without the leading slashes. The outer `none` is a
`ValueError`. -/
def relayPath (value : List Char) : Option (Option (List Char)) :=
  (urlsplit value).bind fun url =>
    (if isRtsp url.scheme then isRelay url else some false).map fun isLocal =>
      if isLocal then some (url.path.dropWhile (· = '/')) else none

/-- The alias that a value names, plainly or by a URL of the relay. -/
def aliasNamed (streams : MediaStreams) : SourceValue → Except HandoffError (Option (List Char))
  | none => .error .unsafeHandoffSource
  | some text =>
      let value := (unwrapFfmpeg text).1
      if streams.has value then .ok (some value)
      else
        match relayPath value with
        | none => .error .raised
        | some aliasKey => .ok (aliasKey.filter fun aliasKey => streams.has aliasKey)

/-- `visit`, with the empty trail. -/
def MediaStreams.visit (streams : MediaStreams) (value : SourceValue) :
    Except HandoffError (List (List Char)) :=
  pathWalk (aliasNamed streams) streams.sources .unsafeHandoffSource .relayCycle (maxSources + 1)
    [] value

/-- `_media_aliases`. -/
def MediaEntry.mediaAliases (camera : MediaEntry) (streams : MediaStreams) :
    Except HandoffError (List (List Char)) := do
  let captured ← collect streams.visit (camera.inputs.map (·.source))
  let live ← collect (fun aliasKey => streams.visit (some (liveUrl aliasKey)))
    (camera.live.filter fun aliasKey => streams.has aliasKey)
  pure (captured ++ live)

/-! What an entry reads. -/

/-- A source of the one alias names the other. -/
def AliasLeads (streams : MediaStreams) : List Char → List Char → Prop :=
  Leads (aliasNamed streams) streams.sources

/-- A capture input names the alias, or it is a live stream. -/
def MediaEntry.Shows (camera : MediaEntry) (streams : MediaStreams) (aliasKey : List Char) : Prop :=
  (∃ input ∈ camera.inputs, aliasNamed streams input.source = .ok (some aliasKey)) ∨
    (aliasKey ∈ camera.live ∧ streams.has aliasKey = true)

def MediaEntry.Reaches (camera : MediaEntry) (streams : MediaStreams)
    (aliasKey : List Char) : Prop :=
  ∃ shown, camera.Shows streams shown ∧ Relation.ReflTransGen (AliasLeads streams) shown aliasKey

/-- The walk returns nothing but the aliases that the entry reaches, all of them, and does not
return if one of them leads back to itself. -/
structure MediaEntry.WalkExact (camera : MediaEntry) (streams : MediaStreams) : Prop where
  exact : ∀ found, camera.mediaAliases streams = .ok found →
    ∀ aliasKey, aliasKey ∈ found ↔ camera.Reaches streams aliasKey
  cyclic : ∀ aliasKey, camera.Reaches streams aliasKey →
    Relation.TransGen (AliasLeads streams) aliasKey aliasKey →
      ∃ failure, camera.mediaAliases streams = .error failure

/-! When the walk is exact. -/

/-- The values that are walked: the capture inputs, and the URLs of the live streams. -/
def MediaEntry.starts (camera : MediaEntry) (streams : MediaStreams) : List SourceValue :=
  camera.inputs.map (·.source) ++
    (camera.live.filter fun aliasKey => streams.has aliasKey).map fun aliasKey =>
      some (liveUrl aliasKey)

/-- A walk from a start meets a value that cannot be read, is too deep or comes back to an alias
of its way. -/
def MediaEntry.Blocked (camera : MediaEntry) (streams : MediaStreams) : Prop :=
  ∃ value ∈ camera.starts streams,
    Obstructed (aliasNamed streams) streams.sources (maxSources + 1) [] value

/-- Each live stream is read from a start, and what its URL names is reached. -/
def MediaEntry.LiveUrlsLead (camera : MediaEntry) (streams : MediaStreams) : Prop :=
  ∀ aliasKey ∈ camera.live, streams.has aliasKey = true →
    (∃ value ∈ camera.starts streams, Reads (aliasNamed streams) streams.sources value aliasKey) ∧
      ∀ named, aliasNamed streams (some (liveUrl aliasKey)) = .ok (some named) →
        camera.Reaches streams named

variable {camera : MediaEntry} {streams : MediaStreams}

theorem mediaAliases_starts (camera : MediaEntry) (streams : MediaStreams) :
    camera.mediaAliases streams = collect streams.visit (camera.starts streams) := by
  rw [MediaEntry.starts, collect_append, collect_map fun aliasKey => some (liveUrl aliasKey)]
  rfl

theorem mediaAliases_failed_iff :
    (∃ failure, camera.mediaAliases streams = .error failure) ↔ camera.Blocked streams := by
  rw [mediaAliases_starts, collect_failed_iff, MediaEntry.Blocked]
  simp only [MediaStreams.visit, pathWalk_failed_iff]

/-- A walk that returns has found what its starts read. -/
theorem mediaAliases_reads {found : List (List Char)}
    (walked : camera.mediaAliases streams = .ok found) {aliasKey : List Char} :
    aliasKey ∈ found ↔ ∃ value ∈ camera.starts streams,
      Reads (aliasNamed streams) streams.sources value aliasKey := by
  rw [mediaAliases_starts] at walked
  rw [collect_found walked]
  constructor
  · rintro ⟨value, isStart, part, isPart, inPart⟩
    exact ⟨value, isStart, (pathWalk_found isPart).mp inPart⟩
  · rintro ⟨value, isStart, reads⟩
    obtain ⟨part, isPart⟩ := collect_part walked isStart
    exact ⟨value, isStart, part, isPart, (pathWalk_found isPart).mpr reads⟩

/-- A walk that returns has found no alias that leads back to itself. -/
theorem mediaAliases_acyclic {found : List (List Char)}
    (walked : camera.mediaAliases streams = .ok found) {aliasKey : List Char}
    (member : aliasKey ∈ found) : ¬ Relation.TransGen (AliasLeads streams) aliasKey aliasKey := by
  rw [mediaAliases_starts] at walked
  obtain ⟨value, _, part, isPart, inPart⟩ := (collect_found walked).mp member
  exact pathWalk_acyclic isPart inPart

theorem MediaEntry.Reaches.onward {aliasKey other : List Char}
    (reaches : camera.Reaches streams aliasKey)
    (leads : Relation.ReflTransGen (AliasLeads streams) aliasKey other) :
    camera.Reaches streams other := by
  obtain ⟨shown, isShown, before⟩ := reaches
  exact ⟨shown, isShown, before.trans leads⟩

omit [TextCase] in
theorem mem_starts {value : SourceValue} : value ∈ camera.starts streams ↔
    (∃ input ∈ camera.inputs, input.source = value) ∨
      ∃ aliasKey ∈ camera.live, streams.has aliasKey = true ∧ some (liveUrl aliasKey) = value := by
  rw [MediaEntry.starts, List.mem_append, List.mem_map, List.mem_map]
  simp only [List.mem_filter, and_assoc]

/-- The starts read what the entry reaches, where the URLs of its live streams lead to them. -/
theorem MediaEntry.LiveUrlsLead.reads_iff (lead : camera.LiveUrlsLead streams)
    {aliasKey : List Char} :
    (∃ value ∈ camera.starts streams,
      Reads (aliasNamed streams) streams.sources value aliasKey) ↔
      camera.Reaches streams aliasKey := by
  constructor
  · rintro ⟨value, isStart, first, isFirst, leads⟩
    rcases mem_starts.mp isStart with ⟨input, listed, rfl⟩ | ⟨live, isLive, known, rfl⟩
    · exact ⟨first, .inl ⟨input, listed, isFirst⟩, leads⟩
    · exact ((lead live isLive known).2 first isFirst).onward leads
  · rintro ⟨shown, ⟨input, listed, named⟩ | ⟨isLive, known⟩, leads⟩
    · exact ⟨input.source, mem_starts.mpr (.inl ⟨input, listed, rfl⟩), shown, named, leads⟩
    · obtain ⟨⟨value, isStart, reads⟩, _⟩ := lead shown isLive known
      exact ⟨value, isStart, reads.onward leads⟩

theorem walkExact_of_blocked (blocked : camera.Blocked streams) : camera.WalkExact streams := by
  obtain ⟨failure, failed⟩ := mediaAliases_failed_iff.mpr blocked
  refine ⟨?_, fun _ _ _ => ⟨failure, failed⟩⟩
  intro found walked
  rw [failed] at walked
  cases walked

theorem walkExact_of_lead (lead : camera.LiveUrlsLead streams) : camera.WalkExact streams := by
  have exact {found : List (List Char)} (walked : camera.mediaAliases streams = .ok found)
      (aliasKey : List Char) : aliasKey ∈ found ↔ camera.Reaches streams aliasKey :=
    (mediaAliases_reads walked).trans lead.reads_iff
  refine ⟨fun found walked => exact walked, ?_⟩
  intro aliasKey reaches cycle
  cases walked : camera.mediaAliases streams with
  | error failure => exact ⟨failure, rfl⟩
  | ok found =>
      exact absurd cycle (mediaAliases_acyclic walked ((exact walked aliasKey).mpr reaches))

theorem MediaEntry.WalkExact.lead (walk : camera.WalkExact streams)
    (clear : ¬ camera.Blocked streams) : camera.LiveUrlsLead streams := by
  cases walked : camera.mediaAliases streams with
  | error failure => exact absurd (mediaAliases_failed_iff.mp ⟨failure, walked⟩) clear
  | ok found =>
      intro aliasKey isLive known
      constructor
      · apply (mediaAliases_reads walked).mp
        exact (walk.exact found walked aliasKey).mpr ⟨aliasKey, .inr ⟨isLive, known⟩, .refl⟩
      · intro named isNamed
        apply (walk.exact found walked named).mp
        apply (mediaAliases_reads walked).mpr
        exact ⟨_, mem_starts.mpr (.inr ⟨aliasKey, isLive, known, rfl⟩), named, isNamed, .refl⟩

/-- The walk is exact if and only if it is blocked, or the URLs of the live streams lead to these
and to nothing else. -/
theorem media_walk_exact_iff (camera : MediaEntry) (streams : MediaStreams) :
    camera.WalkExact streams ↔ camera.Blocked streams ∨ camera.LiveUrlsLead streams := by
  constructor
  · intro walk
    by_cases blocked : camera.Blocked streams
    · exact .inl blocked
    · exact .inr (walk.lead blocked)
  · rintro (blocked | lead)
    · exact walkExact_of_blocked blocked
    · exact walkExact_of_lead lead

end

/-! The live stream of the porch has a number sign in its name. -/

def numberedStreams : MediaStreams :=
  [("porch #2".toList, .several [some "rtsp://10.0.0.5/main".toList])]

def numberedEntry : MediaEntry where
  inputs := [⟨some (some "rtsp://10.0.0.5/main".toList)⟩]
  live := ["porch #2".toList]

theorem numbered_stream_missed :
    let _ := asciiCase
    numberedEntry.mediaAliases numberedStreams = .ok [] ∧
      numberedEntry.Reaches numberedStreams "porch #2".toList ∧
      ¬ numberedEntry.WalkExact numberedStreams := by
  intro textCase
  have walked : numberedEntry.mediaAliases numberedStreams = .ok [] := by decide +kernel
  have reaches : numberedEntry.Reaches numberedStreams "porch #2".toList :=
    ⟨_, .inr ⟨List.mem_singleton.mpr rfl, rfl⟩, .refl⟩
  refine ⟨walked, reaches, ?_⟩
  intro walk
  exact absurd ((walk.exact [] walked _).mpr reaches) List.not_mem_nil

/-! Plain names. -/

section
variable [TextCase] {camera : MediaEntry} {streams : MediaStreams}

/-- A name that the URL of the relay carries as it is. -/
structure PlainName (aliasKey : List Char) : Prop where
  characters : ∀ character ∈ aliasKey, character ∉ ['?', '#', '\t', '\r', '\n']
  start : aliasKey.head? ≠ some '/'

def liveUrlParts (aliasKey : List Char) : SplitUrl where
  scheme := "rtsp".toList
  netloc := "127.0.0.1:8554".toList
  path := '/' :: aliasKey
  query := []
  fragment := []

omit [TextCase] in
theorem liveUrlParts_canonical {aliasKey : List Char} (plain : PlainName aliasKey) :
    Canonical (liveUrlParts aliasKey) where
  schemeStart := show "rtsp".toList.head?.any isAsciiAlpha = true by decide
  schemeRest := show "rtsp".toList.all isSchemeCharacter = true by decide
  schemeCase := show "rtsp".toList.map Char.toLower = "rtsp".toList by decide
  netloc := show ∀ character ∈ "127.0.0.1:8554".toList, isNetlocEnd character = false by decide
  path := .inr rfl
  pathEnd := by
    constructor
    all_goals
      intro member
      have inName := (List.mem_cons.mp member).resolve_left (by decide)
      exact plain.characters _ inName (by decide)
  queryEnd := List.not_mem_nil
  clean := by
    rintro character (inLocation | inPath | inQuery | inFragment)
    · have plainLocation : ∀ character ∈ "127.0.0.1:8554".toList,
          character ∉ ['\t', '\r', '\n'] := by decide
      exact plainLocation character inLocation
    · rcases List.mem_cons.mp inPath with rfl | inName
      · decide
      · intro dropped
        have outside := plain.characters character inName
        simp only [List.mem_cons] at dropped outside
        exact outside (.inr (.inr dropped))
    · cases inQuery
    · cases inFragment

omit [TextCase] in
theorem urlunsplit_plain {scheme : List Char} (someScheme : scheme ≠ [])
    (netloc aliasKey : List Char) :
    urlunsplit ⟨scheme, netloc, '/' :: aliasKey, [], []⟩ =
      (scheme ++ [':'] ++ '/' :: '/' :: netloc ++ ['/']) ++ aliasKey := by
  simp [urlunsplit, someScheme]

omit [TextCase] in
theorem urlsplit_liveUrl {aliasKey : List Char} (plain : PlainName aliasKey) :
    urlsplit (liveUrl aliasKey) = some (liveUrlParts aliasKey) := by
  have start : "rtsp://127.0.0.1:8554/".toList =
      "rtsp".toList ++ [':'] ++ '/' :: '/' :: "127.0.0.1:8554".toList ++ ['/'] := by decide +kernel
  have someScheme : "rtsp".toList ≠ [] := by decide
  have joined : urlunsplit (liveUrlParts aliasKey) = liveUrl aliasKey :=
    (urlunsplit_plain someScheme "127.0.0.1:8554".toList aliasKey).trans
      (congrArg (· ++ aliasKey) start.symm)
  have readable : netlocReadable (liveUrlParts aliasKey).netloc = true :=
    show netlocReadable "127.0.0.1:8554".toList = true by decide +kernel
  rw [← joined, urlsplit_urlunsplit (liveUrlParts_canonical plain), if_pos readable]

theorem isRelay_liveUrlParts [CharacterCase] (aliasKey : List Char) :
    isRelay (liveUrlParts aliasKey) = some true := by
  have info : hostinfo "127.0.0.1:8554".toList = ("127.0.0.1".toList, "8554".toList) := by
    decide +kernel
  have lowered : lowerHost "127.0.0.1".toList = "127.0.0.1".toList := by
    have ascii : lowerChars "127.0.0.1".toList = "127.0.0.1".toList.map Char.toLower :=
      lowerChars_ascii (by decide)
    rcases lowerHost_cases "127.0.0.1".toList with ⟨_, same⟩ | ⟨before, zone, split, _⟩
    · rw [same, ascii]
      decide
    · have zoned : '%' ∈ "127.0.0.1".toList := by simp [split]
      exact absurd zoned (by decide)
  have host : (liveUrlParts aliasKey).hostname = some "127.0.0.1".toList := by
    rw [SplitUrl.hostname, liveUrlParts, info]
    exact congrArg some lowered
  have port : (liveUrlParts aliasKey).port = some (some 8554) := by
    rw [SplitUrl.port, liveUrlParts, info]
    decide +kernel
  rw [isRelay, host, port]
  decide

/-- The URL of a live stream with a plain name leads back to the stream, unless another stream is
named by that URL. -/
theorem aliasNamed_liveUrl [CharacterCase] {aliasKey : List Char} (plain : PlainName aliasKey)
    (known : streams.has aliasKey = true) (unnamed : streams.has (liveUrl aliasKey) = false) :
    aliasNamed streams (some (liveUrl aliasKey)) = .ok (some aliasKey) := by
  have bare : (unwrapFfmpeg (liveUrl aliasKey)).1 = liveUrl aliasKey := rfl
  have path : ('/' :: aliasKey).dropWhile (· = '/') = aliasKey := by
    rw [List.dropWhile_cons_of_pos (by decide)]
    apply List.dropWhile_eq_self_iff.mpr
    intro nonempty isSlash
    apply plain.start
    rw [List.head?_eq_getElem?, List.getElem?_eq_getElem nonempty]
    simpa using isSlash
  have located : relayPath (liveUrl aliasKey) = some (some aliasKey) := by
    have isScheme : isRtsp (liveUrlParts aliasKey).scheme = true :=
      show isRtsp "rtsp".toList = true by decide
    rw [relayPath, urlsplit_liveUrl plain, Option.bind_some, if_pos isScheme,
      isRelay_liveUrlParts, Option.map_some, if_pos rfl]
    exact congrArg (fun path => some (some path)) path
  rw [aliasNamed]
  simp only [bare, unnamed, Bool.false_eq_true, if_false, located, Option.filter_some, known,
    if_true]

/-- The walk is exact for an entry whose live streams have plain names. -/
theorem walkExact_of_plain [CharacterCase]
    (plain : ∀ aliasKey ∈ camera.live, streams.has aliasKey = true →
      PlainName aliasKey ∧ streams.has (liveUrl aliasKey) = false) :
    camera.WalkExact streams := by
  apply walkExact_of_lead
  intro aliasKey isLive known
  obtain ⟨isPlain, unnamed⟩ := plain aliasKey isLive known
  have named := aliasNamed_liveUrl isPlain known unnamed
  constructor
  · exact ⟨_, mem_starts.mpr (.inr ⟨aliasKey, isLive, known, rfl⟩), aliasKey, named, .refl⟩
  · intro other isOther
    obtain rfl : aliasKey = other := Option.some.inj (Except.ok.inj (named.symm.trans isOther))
    exact ⟨aliasKey, .inr ⟨isLive, known⟩, .refl⟩

end

/-! The walk of the handoff, whose configuration holds texts only. -/

def textValue (text : String) : SourceValue := some text.toList

def textStreams (streams : StreamMap) : MediaStreams :=
  streams.map fun (aliasKey, sources) => (aliasKey.toList, .several (sources.map textValue))

def CameraEntry.media (camera : CameraEntry) : MediaEntry where
  inputs := camera.inputs.map fun input => ⟨some (textValue input.path)⟩
  live := camera.live.map fun entry => entry.2.toList

theorem lookup_textStreams (streams : StreamMap) (aliasKey : String) :
    (textStreams streams).lookup aliasKey.toList =
      (streams.lookup aliasKey).map fun sources => .several (sources.map textValue) := by
  induction streams with
  | nil => rfl
  | cons entry rest ih =>
      obtain ⟨name, sources⟩ := entry
      by_cases isName : aliasKey = name
      · subst isName
        simp [textStreams]
      · have notName : (aliasKey == name) = false := beq_false_of_ne isName
        have notText : (aliasKey.toList == name.toList) = false :=
          beq_false_of_ne fun same => isName (String.toList_injective same)
        rw [textStreams, List.map_cons, List.lookup_cons, List.lookup_cons, notName, notText]
        exact ih

theorem textStreams_has (streams : StreamMap) (aliasKey : String) :
    (textStreams streams).has aliasKey.toList = (streams.lookup aliasKey).isSome := by
  rw [MediaStreams.has, lookup_textStreams, Option.isSome_map]

theorem textStreams_sources {streams : StreamMap} {aliasKey : String} {sources : List String}
    (held : streams.lookup aliasKey = some sources) :
    (textStreams streams).sources aliasKey.toList = sources.map textValue := by
  rw [MediaStreams.sources, lookup_textStreams, held]
  rfl

theorem splitOnce_takeWhile (separator : Char) (text : List Char) :
    (splitOnce separator text).1 = text.takeWhile (· ≠ separator) := by
  by_cases present : separator ∈ text
  · rw [splitOnce, cut, if_pos present, Option.getD_some]
  · rw [splitOnce_absent present, eq_comm, List.takeWhile_eq_self_iff]
    intro character member
    exact decide_eq_true fun same => present (same ▸ member)

theorem unwrapFfmpeg_text (value : String) :
    (unwrapFfmpeg value.toList).1 = (unwrapSource value).toList := by
  rw [unwrapFfmpeg, unwrapSource, startsWith]
  split
  · rw [String.toList_ofList]
    exact splitOnce_takeWhile '#' (value.toList.drop 7)
  · rfl

theorem collect_collectAll {α β : Type} {find : β → Except HandoffError (List (List Char))}
    {walk : α → Except HandoffError (List String)} (change : α → β)
    (same : ∀ item, find (change item) = (walk item).map (List.map String.toList))
    (items : List α) :
    collect find (items.map change) =
      (collectAll walk items).map (List.map String.toList) := by
  induction items with
  | nil => rfl
  | cons first rest ih =>
      rw [List.map_cons, collect, collectAll, same first, ih]
      cases walk first with
      | error problem => rfl
      | ok part =>
          cases collectAll walk rest with
          | error problem => rfl
          | ok others => simp [bind, Except.bind, Except.map, pure, Except.pure]

section
variable [TextCase]

/-- `urlsplit` for the walk of the handoff. -/
@[reducible] def splitRelayUrls : RelayUrls where
  localAlias text := (relayPath text.toList).map (Option.map String.ofList)

theorem aliasNamed_text (streams : StreamMap) (value : String) :
    let _ := splitRelayUrls
    aliasNamed (textStreams streams) (textValue value) =
      (relayReference streams value).map (Option.map fun reference => reference.1.toList) := by
  intro urls
  have isLocal : RelayUrls.localAlias (unwrapSource value) =
      (relayPath (unwrapSource value).toList).map (Option.map String.ofList) := rfl
  rw [textValue, aliasNamed, unwrapFfmpeg_text, textStreams_has, relayReference, isLocal]
  cases held : streams.lookup (unwrapSource value) with
  | some sources => rfl
  | none =>
      cases located : relayPath (unwrapSource value).toList with
      | none => rfl
      | some pointed =>
          cases pointed with
          | none => rfl
          | some aliasKey =>
              have known := textStreams_has streams (String.ofList aliasKey)
              rw [String.toList_ofList] at known
              cases named : streams.lookup (String.ofList aliasKey) with
              | none => simp [known, named, Except.map]
              | some sources => simp [known, named, Except.map]

theorem visit_text (streams : StreamMap) (remaining : Nat) (trail : List String)
    (value : String) :
    let _ := splitRelayUrls
    pathWalk (aliasNamed (textStreams streams)) (textStreams streams).sources
        .unsafeHandoffSource .relayCycle remaining (trail.map String.toList) (textValue value) =
      (visit streams remaining trail value).map (List.map String.toList) := by
  intro urls
  induction remaining generalizing trail value with
  | zero => rfl
  | succ remaining ih =>
      rw [pathWalk, visit, aliasNamed_text]
      cases refers : relayReference streams value with
      | error problem => rfl
      | ok reference =>
          cases reference with
          | none => rfl
          | some reference =>
              obtain ⟨aliasKey, sources⟩ := reference
              have held := RefersTo.lookup refers
              have onTrail : aliasKey.toList ∈ trail.map String.toList ↔ aliasKey ∈ trail :=
                List.mem_map_of_injective fun _ _ same => String.toList_injective same
              have extended : trail.map String.toList ++ [aliasKey.toList] =
                  (trail ++ [aliasKey]).map String.toList := by simp
              simp only [Except.map, Option.map_some, bind, Except.bind, onTrail, extended,
                textStreams_sources held, collect_collectAll textValue (ih (trail ++ [aliasKey]))]
              split
              · rfl
              · cases collectAll (visit streams remaining (trail ++ [aliasKey])) sources <;> rfl

/-- On texts the walk is the one that the handoff makes. -/
theorem mediaAliases_text (camera : CameraEntry) (streams : StreamMap) :
    let _ := splitRelayUrls
    camera.media.mediaAliases (textStreams streams) =
      (mediaAliases camera streams).map (List.map String.toList) := by
  intro urls
  have visits (value : String) : (textStreams streams).visit (textValue value) =
      (visitSource streams value).map (List.map String.toList) :=
    visit_text streams (maxSources + 1) [] value
  have isUrl (aliasKey : String) :
      some (liveUrl aliasKey.toList) = textValue (relayUrl aliasKey) :=
    congrArg some String.toList_append.symm
  have inputs : camera.media.inputs.map (·.source) =
      (camera.inputs.map (·.path)).map textValue := by
    simp [CameraEntry.media, Function.comp_def, MediaInput.source]
  have live : (camera.media.live.filter fun aliasKey => (textStreams streams).has aliasKey) =
      ((camera.live.map Prod.snd).filter fun aliasKey =>
        (streams.lookup aliasKey).isSome).map String.toList := by
    have names : camera.media.live = (camera.live.map Prod.snd).map String.toList := by
      simp [CameraEntry.media, Function.comp_def]
    rw [names, List.filter_map]
    simp only [Function.comp_def, textStreams_has]
  rw [MediaEntry.mediaAliases, inputs, live, collect_collectAll textValue visits,
    collect_collectAll String.toList fun aliasKey => isUrl aliasKey ▸ visits (relayUrl aliasKey),
    mediaAliases]
  cases collectAll (visitSource streams) (camera.inputs.map (·.path)) with
  | error problem => rfl
  | ok captured =>
      cases collectAll (fun aliasKey => visitSource streams (relayUrl aliasKey))
          ((camera.live.map Prod.snd).filter fun aliasKey => (streams.lookup aliasKey).isSome) with
      | error problem => rfl
      | ok shown => simp [bind, Except.bind, Except.map, pure, Except.pure]

end

end CamAdmiral
