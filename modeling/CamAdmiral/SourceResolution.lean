import CamAdmiral.CredentialRoundTrip
import CamAdmiral.Programs
import CamAdmiral.Walks

/-!
The way of a source through the aliases of go2rtc to the endpoint that it is resolved to. A source
that is accepted has one such way, and no alias comes twice on it.
-/

namespace CamAdmiral

/-! The way of a source. -/

def isWrapped (text : List Char) : Bool := "ffmpeg:".toList.isPrefixOf text

/-- The text has options for its wrapper. -/
def hasOptions (text : List Char) : Bool := !(unwrapFfmpeg text).2.isEmpty

/-- The texts on a way. -/
def textsOf (steps : List (List Char × List Char)) (endpoint : List Char) : List (List Char) :=
  steps.map Prod.fst ++ [endpoint]

theorem hasOptions_iff {text : List Char} :
    hasOptions text = true ↔ (unwrapFfmpeg text).2 ≠ [] := by
  rw [hasOptions, Bool.not_eq_true', ← Bool.not_eq_true, List.isEmpty_iff]

theorem unwrapped_single (text : List Char) :
    (unwrapFfmpeg text).2 = [] ↔ (textsOf [] text).countP hasOptions = 0 := by
  have isWrapper := @hasOptions_iff text
  rw [textsOf, List.map_nil, List.nil_append, List.countP_singleton]
  by_cases empty : (unwrapFfmpeg text).2 = []
  · simp [empty, mt isWrapper.mp (not_not.mpr empty)]
  · simp [empty, isWrapper.mpr empty]

theorem countP_textsOf (check : List Char → Bool) (value : List Char) (label : List Char)
    (steps : List (List Char × List Char)) (endpoint : List Char) :
    (textsOf ((value, label) :: steps) endpoint).countP check =
      (textsOf steps endpoint).countP check + if check value then 1 else 0 := by
  rw [textsOf, List.map_cons, List.cons_append, List.countP_cons]
  rfl

section
variable [TextCase]

/-- The alias that a text names on the local relay, and the single source of that alias. -/
def aliasHop (streams : SourceStreams) (text : List Char) : Option (List Char × List Char) :=
  match urlsplit (unwrapFfmpeg text).1 with
  | none => none
  | some url =>
      if isRelay url = some true then
        match streams.lookup (url.path.dropWhile (· = '/')) with
        | some [some source] => some (url.path.dropWhile (· = '/'), source)
        | _ => none
      else
        none

/-- What the URL of an endpoint must be. -/
structure Supported (url : SplitUrl) : Prop where
  scheme : isRtsp url.scheme = true
  host : url.hostname.getD [] ≠ []
  fragment : url.fragment = []
  plainPath : hasSecretPath url.path = false
  plainQuery : (queryKeys url.query).any isSecretKey = false
  port : url.port ≠ none

/-- The checks along the way of a source: at most so many steps, none to an alias of the trail. -/
structure Admitted (streams : SourceStreams) (remaining : Nat) (trail : List (List Char))
    (value : List Char) (steps : List (List Char × List Char)) (endpoint : List Char)
    (original : SplitUrl) : Prop where
  walk : Walk (aliasHop streams) value steps endpoint
  splits : urlsplit (unwrapFfmpeg endpoint).1 = some original
  direct : isRelay original = some false
  supported : Supported original
  plain : ∀ text ∈ textsOf steps endpoint,
    '{' ∉ (unwrapFfmpeg text).1 ∧ '}' ∉ (unwrapFfmpeg text).1
  distinct : (steps.map Prod.snd).Nodup
  fresh : ∀ step ∈ steps, step.2 ∉ trail
  bounded : steps.length < remaining
  options : (textsOf steps endpoint).countP hasOptions ≤ 1

/-! What is resolved. -/

/-- The URL of the endpoint without credentials. -/
structure BareEndpoint (original url : SplitUrl) : Prop where
  scheme : isRtsp url.scheme = true ∧ url.scheme = original.scheme
  hostname : url.hostname ≠ none ∧ url.hostname = original.hostname
  noUserinfo : '@' ∉ url.netloc
  port : url.port = original.port
  path : url.path = original.path
  query : url.query = original.query
  noFragment : url.fragment = []
  notRelay : isRelay url = some false

/-- A source that is resolved is resolved to the endpoint of its only way, and one whose way comes
to an alias twice is not resolved. -/
def ResolvesAlong (streams : SourceStreams) (value : List Char) : Prop :=
  (∀ resolved, resolveSource (some value) streams = .ok resolved →
    ∃ steps endpoint original url, Walk (aliasHop streams) value steps endpoint ∧
      (∀ others middle, Walk (aliasHop streams) value others middle → others <+: steps) ∧
      (textsOf steps endpoint).countP isWrapped ≤ 1 ∧
      urlsplit (unwrapFfmpeg endpoint).1 = some original ∧
      urlsplit resolved.uri = some url ∧ BareEndpoint original url) ∧
  ∀ steps last, Walk (aliasHop streams) value steps last → ¬ (steps.map Prod.snd).Nodup →
    ∃ failure, resolveSource (some value) streams = .error failure

/-! The checks of the endpoint. -/

theorem directSource_iff {url : SplitUrl} {wrapper : List Char} {resolved : ResolvedSource} :
    directSource url wrapper = .ok resolved ↔ Supported url ∧ ∃ port, url.port = some port ∧
      resolved = {
        uri := urlunsplit { url with netloc := authority (url.hostname.getD []) port }
        username := unquote (url.username.getD [])
        password := unquote (url.password.getD [])
        wrapper := wrapper } := by
  simp only [directSource]
  constructor
  · intro accepted
    split at accepted
    · cases accepted
    · rename_i supported
      simp only [Bool.or_eq_true, Bool.not_eq_true', decide_eq_true_eq, not_or, ne_eq,
        not_not, Bool.not_eq_false] at supported
      split at accepted
      · cases accepted
      · rename_i plain
        rw [Bool.or_eq_true, not_or, Bool.not_eq_true, Bool.not_eq_true] at plain
        split at accepted
        · cases accepted
        · rename_i port isPort
          refine ⟨⟨supported.1.1, supported.1.2, supported.2, plain.1, plain.2, ?_⟩, port,
            isPort, (Except.ok.inj accepted).symm⟩
          rw [isPort]
          exact Option.some_ne_none port
  · rintro ⟨supported, port, isPort, rfl⟩
    rw [if_neg (by simp [supported.scheme, supported.host, supported.fragment]),
      if_neg (by simp [supported.plainPath, supported.plainQuery]), isPort]

theorem aliasHop_direct {streams : SourceStreams} {text : List Char} {url : SplitUrl}
    (splits : urlsplit (unwrapFfmpeg text).1 = some url) (direct : isRelay url = some false) :
    aliasHop streams text = none := by
  rw [aliasHop, splits]
  simp [direct]

theorem aliasHop_some {streams : SourceStreams} {text label source : List Char} :
    aliasHop streams text = some (label, source) ↔
      ∃ url, urlsplit (unwrapFfmpeg text).1 = some url ∧ isRelay url = some true ∧
        label = url.path.dropWhile (· = '/') ∧ streams.lookup label = some [some source] := by
  rw [aliasHop]
  constructor
  · intro hops
    split at hops
    · cases hops
    · rename_i url splits
      split at hops
      · rename_i relay
        split at hops
        · rename_i found
          cases hops
          exact ⟨url, splits, relay, rfl, found⟩
        · cases hops
      · cases hops
  · rintro ⟨url, splits, relay, rfl, found⟩
    rw [splits]
    simp only [relay, if_true, found]

/-! The way that a resolved source took. -/

/-- What a source at the end of a way is resolved to, with the options found along it. -/
structure ResolvedEnd (steps : List (List Char × List Char)) (endpoint : List Char)
    (original : SplitUrl) (resolved : ResolvedSource) : Prop where
  uri : ∃ port, original.port = some port ∧ resolved.uri =
    urlunsplit { original with netloc := authority (original.hostname.getD []) port }
  wrapper : resolved.wrapper = [] ↔ (textsOf steps endpoint).countP hasOptions = 0

/-- The checks that a source passes which is resolved. -/
theorem resolveSourceFrom_admitted {streams : SourceStreams} {remaining : Nat}
    {value : List Char} {trail : List (List Char)} {resolved : ResolvedSource}
    (accepted : resolveSourceFrom streams remaining (some value) trail = .ok resolved) :
    ∃ steps endpoint original, Admitted streams remaining trail value steps endpoint original ∧
      ResolvedEnd steps endpoint original resolved := by
  induction remaining generalizing value trail resolved with
  | zero => cases accepted
  | succ remaining ih =>
      rw [resolveSourceFrom] at accepted
      split at accepted
      · cases accepted
      · rename_i unbraced
        rw [Bool.or_eq_true, decide_eq_true_eq, decide_eq_true_eq, not_or] at unbraced
        split at accepted
        · cases accepted
        · rename_i url splits
          split at accepted
          · cases accepted
          · rename_i direct
            obtain ⟨supported, port, isPort, rfl⟩ := directSource_iff.mp accepted
            refine ⟨[], value, url, ⟨.stop value, splits, direct, supported, ?_, List.nodup_nil,
              fun _ member => absurd member List.not_mem_nil, Nat.succ_pos _, ?_⟩, ⟨port, isPort,
              rfl⟩, ?_⟩
            · intro text member
              rw [List.mem_singleton.mp member]
              exact unbraced
            · exact List.countP_le_length
            · exact unwrapped_single value
          · rename_i relay
            dsimp only at accepted
            split at accepted
            · cases accepted
            · rename_i untried
              split at accepted
              · rename_i source found
                obtain ⟨inner, isInner, isResolved⟩ := except_bind accepted
                cases source with
                | none => cases remaining <;> cases isInner
                | some next =>
                    obtain ⟨steps, endpoint, original, admitted, isEnd⟩ := ih isInner
                    have listed : streams.lookup (url.path.dropWhile (· = '/')) =
                        some [some next] := by
                      cases looked : streams.lookup (url.path.dropWhile (· = '/')) with
                      | none =>
                          rw [looked] at found
                          cases found
                      | some sources =>
                          rw [looked] at found
                          exact congrArg some found
                    have hop : aliasHop streams value =
                        some (url.path.dropWhile (· = '/'), next) :=
                      aliasHop_some.mpr ⟨url, splits, relay, rfl, listed⟩
                    have counted := countP_textsOf hasOptions value
                      (url.path.dropWhile (· = '/')) steps endpoint
                    have isWrapper := @hasOptions_iff value
                    split at isResolved
                    · cases isResolved
                    · rename_i compatible
                      obtain rfl := Except.ok.inj isResolved
                      have oneEmpty : (unwrapFfmpeg value).2 = [] ∨ inner.wrapper = [] := by
                        by_contra both
                        rw [not_or] at both
                        exact compatible (by simp [both.1, both.2])
                      refine ⟨(value, url.path.dropWhile (· = '/')) :: steps, endpoint, original,
                        ⟨.step hop admitted.walk, admitted.splits, admitted.direct,
                          admitted.supported, ?_, ?_, ?_, ?_, ?_⟩, isEnd.uri, ?_⟩
                      · intro text member
                        rcases List.mem_cons.mp member with rfl | later
                        · exact unbraced
                        · exact admitted.plain text later
                      · refine List.nodup_cons.mpr ⟨fun member => ?_, admitted.distinct⟩
                        obtain ⟨step, isStep, same⟩ := List.mem_map.mp member
                        apply admitted.fresh step isStep
                        rw [same]
                        exact List.mem_append_right _ (List.mem_singleton.mpr rfl)
                      · intro step member
                        rcases List.mem_cons.mp member with rfl | later
                        · exact untried
                        · exact fun inTrail => admitted.fresh step later
                            (List.mem_append_left _ inTrail)
                      · exact Nat.succ_lt_succ admitted.bounded
                      · rw [counted]
                        rcases oneEmpty with empty | empty
                        · rw [if_neg (mt isWrapper.mp (not_not.mpr empty))]
                          exact admitted.options
                        · rw [isEnd.wrapper.mp empty]
                          split <;> omega
                      · rw [counted]
                        by_cases empty : (unwrapFfmpeg value).2 = []
                        · rw [if_neg (mt isWrapper.mp (not_not.mpr empty)), Nat.add_zero]
                          simpa [empty] using isEnd.wrapper
                        · rw [if_pos (isWrapper.mpr empty)]
                          simp [empty]
              · cases accepted

/-- A source that passes the checks is resolved. -/
theorem Admitted.resolves {streams : SourceStreams} {remaining : Nat}
    {trail : List (List Char)} {value : List Char} {steps : List (List Char × List Char)}
    {endpoint : List Char} {original : SplitUrl}
    (admitted : Admitted streams remaining trail value steps endpoint original) :
    ∃ resolved, resolveSourceFrom streams remaining (some value) trail = .ok resolved ∧
      ResolvedEnd steps endpoint original resolved := by
  induction steps generalizing value remaining trail with
  | nil =>
      obtain ⟨walk, splits, direct, supported, plain, _, _, bounded, _⟩ := admitted
      cases walk
      obtain ⟨remaining, rfl⟩ := Nat.exists_eq_succ_of_ne_zero (Nat.ne_of_gt bounded)
      obtain ⟨port, isPort⟩ := Option.ne_none_iff_exists'.mp supported.port
      have unbraced := plain endpoint (List.mem_singleton.mpr rfl)
      let resolved : ResolvedSource := {
        uri := urlunsplit { original with
          netloc := authority (original.hostname.getD []) port }
        username := unquote (original.username.getD [])
        password := unquote (original.password.getD [])
        wrapper := (unwrapFfmpeg endpoint).2 }
      have accepted : directSource original (unwrapFfmpeg endpoint).2 = .ok resolved :=
        directSource_iff.mpr ⟨supported, port, isPort, rfl⟩
      refine ⟨resolved, ?_, ⟨port, isPort, rfl⟩, ?_⟩
      · rw [resolveSourceFrom, if_neg (by simp [unbraced]), splits]
        simp only [direct]
        exact accepted
      · exact unwrapped_single endpoint
  | cons first rest ih =>
      obtain ⟨walk, splits, direct, supported, plain, distinct, fresh, bounded, options⟩ := admitted
      obtain ⟨remaining, rfl⟩ :=
        Nat.exists_eq_succ_of_ne_zero (Nat.ne_of_gt (Nat.zero_lt_of_lt bounded))
      cases walk with
      | step goes continued =>
          rename_i later label
          obtain ⟨url, isUrl, relay, rfl, found⟩ := aliasHop_some.mp goes
          rw [countP_textsOf] at options
          obtain ⟨unlisted, others⟩ := List.nodup_cons.mp distinct
          have untried := fresh _ List.mem_cons_self
          obtain ⟨inner, isInner, isEnd⟩ := @ih remaining
            (trail ++ [url.path.dropWhile (· = '/')]) later
            ⟨continued, splits, direct, supported,
              fun text member => plain text (List.mem_cons_of_mem _ member), others,
              fun step member inTrail => by
                rcases List.mem_append.mp inTrail with isOld | isNew
                · exact fresh step (List.mem_cons_of_mem _ member) isOld
                · exact unlisted (List.mem_map.mpr ⟨step, member, List.mem_singleton.mp isNew⟩),
              Nat.lt_of_succ_lt_succ bounded, by omega⟩
          have unbraced := plain value List.mem_cons_self
          have isWrapper := @hasOptions_iff value
          have compatible : (unwrapFfmpeg value).2 = [] ∨ inner.wrapper = [] := by
            by_contra both
            rw [not_or, isEnd.wrapper] at both
            rw [if_pos (isWrapper.mpr both.1)] at options
            omega
          refine ⟨{ inner with
            wrapper := if (unwrapFfmpeg value).2 ≠ [] then (unwrapFfmpeg value).2
              else inner.wrapper }, ?_, isEnd.uri, ?_⟩
          · rw [resolveSourceFrom, if_neg (by simp [unbraced]), isUrl]
            simp only [relay, if_neg untried, found, Option.getD_some, isInner]
            have passes : ¬ (decide ((unwrapFfmpeg value).2 ≠ []) &&
                decide (inner.wrapper ≠ [])) = true := by
              rcases compatible with empty | empty <;> simp [empty]
            exact if_neg passes
          · rw [countP_textsOf]
            by_cases empty : (unwrapFfmpeg value).2 = []
            · rw [if_neg (mt isWrapper.mp (not_not.mpr empty)), Nat.add_zero]
              simpa [empty] using isEnd.wrapper
            · rw [if_pos (isWrapper.mpr empty)]
              simp [empty]

/-! The endpoint without credentials. -/

variable [CharacterCase]

theorem bareEndpoint_iff {text uri : List Char} {original : SplitUrl} {port : Option Nat}
    (splits : urlsplit text = some original) (supported : Supported original)
    (direct : isRelay original = some false) (isPort : original.port = some port)
    (isUri : uri = urlunsplit { original with
      netloc := authority (original.hostname.getD []) port }) :
    (∃ url, urlsplit uri = some url ∧ BareEndpoint original url) ↔
      original.port ≠ some (some 0) ∧
        ∀ host, original.hostname = some host → Rewritable host := by
  obtain ⟨host, isName⟩ : ∃ host, original.hostname = some host := by
    cases isName : original.hostname with
    | none => exact absurd (by rw [isName]; rfl) supported.host
    | some host => exact ⟨host, rfl⟩
  have someScheme := isRtsp_scheme supported.scheme
  have isHost := hostname_text splits someScheme isName
  have located : original.netloc ≠ [] := by
    intro empty
    rw [SplitUrl.hostname, empty] at isName
    cases isName
  have stripped := urlsplit_relocated (urlsplit_canonical splits someScheme located).1 isHost
    infoText_nil port
  have isReadable := location_readable isHost infoText_nil port
  rw [List.nil_append] at stripped isReadable
  rw [isName, Option.getD_some] at isUri
  rw [← isUri] at stripped
  by_cases rewritable : Rewritable host
  · rw [if_pos (isReadable.mpr rewritable)] at stripped
    have parts := relocated_parts isHost (sourcePort_bound isPort) rewritable infoText_nil
      { original with netloc := authority host port } rfl
    rw [hostname_lowered isName, ← isName] at parts
    constructor
    · rintro ⟨url, isUrl, bare⟩
      rw [stripped] at isUrl
      obtain rfl := Option.some.inj isUrl
      have kept := bare.port
      rw [parts.2, isPort] at kept
      refine ⟨?_, fun other isOther => ?_⟩
      · rw [isPort]
        exact fun zero => writtenPort_eq.mp (Option.some.inj kept) (Option.some.inj zero)
      · rw [isName] at isOther
        rw [← Option.some.inj isOther]
        exact rewritable
    · rintro ⟨nonzero, _⟩
      have samePort : writtenPort port = port :=
        writtenPort_eq.mpr fun zero => nonzero (isPort.trans (congrArg some zero))
      rw [samePort, ← isPort] at parts
      refine ⟨_, stripped, ⟨supported.scheme, rfl⟩, ⟨?_, parts.1⟩, ?_, parts.2, rfl, rfl,
        supported.fragment, ?_⟩
      · rw [parts.1, isName]
        exact Option.some_ne_none host
      · have plain := hostAndPort_plain (authority host port)
        rwa [← List.nil_append (authority host port),
          hostAndPort_location isHost infoText_nil port] at plain
      · rw [isRelay, parts.1, parts.2]
        exact direct
  · rw [if_neg (mt isReadable.mp rewritable)] at stripped
    constructor
    · rintro ⟨url, isUrl, _⟩
      rw [stripped] at isUrl
      cases isUrl
    · rintro ⟨_, writable⟩
      exact absurd (writable host isName) rewritable

theorem ResolvesAlong.writable {streams : SourceStreams} {value : List Char}
    (resolves : ResolvesAlong streams value) {steps : List (List Char × List Char)}
    {endpoint : List Char} {original : SplitUrl}
    (admitted : Admitted streams (maxSources + 1) [] value steps endpoint original) :
    (textsOf steps endpoint).countP isWrapped ≤ 1 ∧ original.port ≠ some (some 0) ∧
      ∀ host, original.hostname = some host → Rewritable host := by
  obtain ⟨resolved, accepted, isEnd⟩ := admitted.resolves
  obtain ⟨port, isPort, isUri⟩ := isEnd.uri
  obtain ⟨others, last, lastUrl, url, walk, longest, wrappers, splits, isUrl, bare⟩ :=
    resolves.1 resolved accepted
  -- The way that the source is said to take is the one that passes the checks.
  obtain ⟨rest, rfl, continued⟩ := admitted.walk.continues
    (aliasHop_direct admitted.splits admitted.direct) walk
  have whole := longest _ endpoint admitted.walk
  have nothing : rest = [] := by
    have bound := whole.length_le
    rw [List.length_append] at bound
    exact List.eq_nil_of_length_eq_zero (by omega)
  subst nothing
  cases continued
  rw [admitted.splits] at splits
  obtain rfl := Option.some.inj splits
  rw [List.append_nil]
  exact ⟨wrappers, (bareEndpoint_iff admitted.splits admitted.supported admitted.direct isPort
    isUri).mp ⟨url, isUrl, bare⟩⟩

/-- A source resolves along its way exactly if, where it passes the checks, there is at most one
wrapper on the way and the endpoint can be written again. -/
theorem resolves_along_iff {streams : SourceStreams} {value : List Char} :
    ResolvesAlong streams value ↔ ∀ steps endpoint original,
      Admitted streams (maxSources + 1) [] value steps endpoint original →
        (textsOf steps endpoint).countP isWrapped ≤ 1 ∧ original.port ≠ some (some 0) ∧
          ∀ host, original.hostname = some host → Rewritable host := by
  constructor
  · exact fun resolves steps endpoint original admitted => resolves.writable admitted
  · intro condition
    constructor
    · intro resolved accepted
      obtain ⟨steps, endpoint, original, admitted, isEnd⟩ := resolveSourceFrom_admitted accepted
      obtain ⟨port, isPort, isUri⟩ := isEnd.uri
      obtain ⟨wrappers, writable⟩ := condition steps endpoint original admitted
      obtain ⟨url, isUrl, bare⟩ := (bareEndpoint_iff admitted.splits admitted.supported
        admitted.direct isPort isUri).mpr writable
      refine ⟨steps, endpoint, original, url, admitted.walk, ?_, wrappers, admitted.splits, isUrl,
        bare⟩
      intro others middle part
      obtain ⟨rest, isSteps, _⟩ := admitted.walk.continues
        (aliasHop_direct admitted.splits admitted.direct) part
      exact ⟨rest, isSteps.symm⟩
    · intro steps last part repeated
      cases accepted : resolveSource (some value) streams with
      | error failure => exact ⟨failure, rfl⟩
      | ok resolved =>
          obtain ⟨whole, endpoint, original, admitted, _⟩ := resolveSourceFrom_admitted accepted
          obtain ⟨rest, rfl, _⟩ := admitted.walk.continues
            (aliasHop_direct admitted.splits admitted.direct) part
          have distinct := admitted.distinct
          rw [List.map_append] at distinct
          exact absurd (List.nodup_append.mp distinct).1 repeated

end

/-! An alias of a wrapped source, a wrapper around a wrapped source, and a host with a bracket. -/

def wrappedStreams : SourceStreams :=
  [("a".toList, [some "ffmpeg:rtsp://192.0.2.1/main#audio=opus".toList])]

def wrappedSteps (value : String) : List (List Char × List Char) := [(value.toList, "a".toList)]

def wrappedEndpoint : SplitUrl where
  scheme := "rtsp".toList
  netloc := "192.0.2.1".toList
  path := "/main".toList
  query := []
  fragment := []

theorem wrapped_walk {value : String}
    (hop : letI := asciiCase; aliasHop wrappedStreams value.toList =
      some ("a".toList, "ffmpeg:rtsp://192.0.2.1/main#audio=opus".toList)) :
    letI := asciiCase
    Walk (aliasHop wrappedStreams) value.toList (wrappedSteps value)
      "ffmpeg:rtsp://192.0.2.1/main#audio=opus".toList :=
  .step hop (.stop _)

theorem wrapped_alias_resolves :
    letI := asciiCase
    ResolvesAlong wrappedStreams "rtsp://localhost:8554/a".toList := by
  let _ := asciiCase
  have lawful := asciiCase_characters
  apply resolves_along_iff.mpr
  intro steps endpoint original admitted
  have walk := @wrapped_walk "rtsp://localhost:8554/a" (by decide +kernel)
  have splits : urlsplit (unwrapFfmpeg "ffmpeg:rtsp://192.0.2.1/main#audio=opus".toList).1 =
      some wrappedEndpoint := by decide +kernel
  have ends := @aliasHop_direct _ wrappedStreams _ _ splits (by decide +kernel)
  obtain ⟨rfl, rfl⟩ := walk.unique ends admitted.walk
    (aliasHop_direct admitted.splits admitted.direct)
  have same := admitted.splits
  rw [splits] at same
  obtain rfl := Option.some.inj same
  refine ⟨by decide +kernel, by decide +kernel, fun host isHost => ?_⟩
  have isName : wrappedEndpoint.hostname = some "192.0.2.1".toList := by decide +kernel
  rw [isName] at isHost
  obtain rfl := Option.some.inj isHost
  exact .inr (by decide)

def bracketEndpoint : SplitUrl where
  scheme := "rtsp".toList
  netloc := "[v1.a[b]".toList
  path := "/main".toList
  query := []
  fragment := []

/-- Two wrappers of which one has no options are resolved, and a host of the form for future
versions is written without its brackets. -/
theorem wrapped_twice_resolved :
    letI := asciiCase
    ¬ ResolvesAlong wrappedStreams "ffmpeg:rtsp://localhost:8554/a".toList ∧
      ¬ ResolvesAlong [] "rtsp://[v1.a[b]/main".toList := by
  let _ := asciiCase
  have lawful := asciiCase_characters
  constructor
  · intro resolves
    have admitted : Admitted wrappedStreams (maxSources + 1) []
        "ffmpeg:rtsp://localhost:8554/a".toList (wrappedSteps "ffmpeg:rtsp://localhost:8554/a")
        "ffmpeg:rtsp://192.0.2.1/main#audio=opus".toList wrappedEndpoint := by
      refine ⟨wrapped_walk (by decide +kernel), by decide +kernel, by decide +kernel,
        ⟨by decide +kernel, by decide +kernel, rfl, by decide +kernel, by decide +kernel,
          by decide +kernel⟩, by decide +kernel, by decide +kernel, by decide +kernel,
        by decide, by decide +kernel⟩
    have wrappers : (textsOf (wrappedSteps "ffmpeg:rtsp://localhost:8554/a")
        "ffmpeg:rtsp://192.0.2.1/main#audio=opus".toList).countP isWrapped = 2 := by
      decide +kernel
    have single := (resolves.writable admitted).1
    omega
  · intro resolves
    have admitted : Admitted [] (maxSources + 1) [] "rtsp://[v1.a[b]/main".toList []
        "rtsp://[v1.a[b]/main".toList bracketEndpoint := by
      refine ⟨.stop _, by decide +kernel, by decide +kernel,
        ⟨by decide +kernel, by decide +kernel, rfl, by decide +kernel, by decide +kernel,
          by decide +kernel⟩, by decide +kernel, List.nodup_nil, by decide +kernel, by decide,
        by decide +kernel⟩
    have isName : bracketEndpoint.hostname = some "v1.a[b".toList := by decide +kernel
    rcases (resolves.writable admitted).2.2 _ isName with colon | plain
    · exact absurd colon (by decide)
    · exact plain.1 (by decide)

end CamAdmiral
