import CamAdmiral.HandoffCore
import CamAdmiral.NetworkLocation

/-!
The source of an imported camera, taken apart into a URI without credentials, a user name and a
password, and the URI put together from the three again.
-/

namespace CamAdmiral

/-! Sources of Frigate. -/

inductive SourceError
  | unsupportedSource
  | unresolvedSecret
  | relayCycle
  | multipleSourceFallbacks
  | unsupportedSecretQuery
  | invalidSource
  deriving DecidableEq, Repr

structure ResolvedSource where
  uri : List Char
  username : List Char
  password : List Char
  wrapper : List Char
  deriving DecidableEq, Repr

/-- The go2rtc streams; `none` is a source that is no text. -/
abbrev SourceStreams := List (List Char × List (Option (List Char)))

/-- The source inside an `ffmpeg:` wrapper, and the options of the wrapper. -/
def unwrapFfmpeg (value : List Char) : List Char × List Char :=
  if "ffmpeg:".toList.isPrefixOf value then
    let rest := value.drop 7
    ((splitOnce '#' rest).1, if '#' ∈ rest then '#' :: (splitOnce '#' rest).2 else [])
  else
    (value, [])

/-! The texts that `re.I` finds. -/

/-- Two characters outside ASCII fold to a letter of the patterns. -/
def foldsTo (letter character : Char) : Bool :=
  character.toLower = letter || (letter = 's' && character = 'ſ') ||
    (letter = 'k' && character = '\u212A')

def startsFolded : List Char → List Char → Bool
  | [], _ => true
  | _ :: _, [] => false
  | letter :: word, character :: text => foldsTo letter character && startsFolded word text

def secretWords : List String := ["password", "passwd", "pwd", "token", "secret", "pass"]

def hasSecretPath (path : List Char) : Bool :=
  path.tails.any fun rest => secretWords.any fun word => startsFolded (word.toList ++ ['=']) rest

/-- `$` also matches before a newline at the end. -/
def isSecretKey (key : List Char) : Bool :=
  (secretWords ++ ["auth"]).any fun word => startsFolded word.toList key &&
    decide (key.drop word.length ∈ [[], ['\n']])

/-- The keys of `parse_qsl`, which skips fields without a value. -/
def queryKeys (query : List Char) : List (List Char) :=
  (query.splitOn '&').filterMap fun field =>
    ((cut '=' field).filter (·.2 ≠ [])).map fun parts =>
      unquote (parts.1.map fun character => if character = '+' then ' ' else character)

def isRtsp (scheme : List Char) : Bool := scheme ∈ ["rtsp".toList, "rtsps".toList]

section
variable [TextCase]

/-- Whether the source is a stream of the go2rtc beside Frigate; `none` is a `ValueError`. -/
def isRelay (url : SplitUrl) : Option Bool :=
  if url.hostname.getD [] ∈ ["localhost".toList, "127.0.0.1".toList, "::1".toList] then
    url.port.map fun port => (port.filter (· ≠ 0)).getD 554 = 8554
  else
    some false

def directSource (url : SplitUrl) (wrapper : List Char) : Except SourceError ResolvedSource :=
  let host := url.hostname.getD []
  if !isRtsp url.scheme || host = [] || url.fragment ≠ [] then .error .unsupportedSource
  else if hasSecretPath url.path || (queryKeys url.query).any isSecretKey then
    .error .unsupportedSecretQuery
  else
    match url.port with
    | none => .error .invalidSource
    | some port =>
        .ok { uri := urlunsplit { url with netloc := authority host port }
              username := unquote (url.username.getD [])
              password := unquote (url.password.getD [])
              wrapper := wrapper }

/-- The first argument is how many more entries the trail may have. -/
def resolveSourceFrom (streams : SourceStreams) :
    Nat → Option (List Char) → List (List Char) → Except SourceError ResolvedSource
  | 0, _, _ => .error .unsupportedSource
  | _ + 1, none, _ => .error .unsupportedSource
  | remaining + 1, some text, trail =>
      let value := (unwrapFfmpeg text).1
      let wrapper := (unwrapFfmpeg text).2
      if '{' ∈ value || '}' ∈ value then .error .unresolvedSecret
      else
        match urlsplit value with
        | none => .error .invalidSource
        | some url =>
            match isRelay url with
            | none => .error .invalidSource
            | some false => directSource url wrapper
            | some true =>
                let relay := url.path.dropWhile (· = '/')
                if relay ∈ trail then .error .relayCycle
                else
                  match (streams.lookup relay).getD [none] with
                  | [source] => do
                      let resolved ← resolveSourceFrom streams remaining source (trail ++ [relay])
                      if wrapper ≠ [] && resolved.wrapper ≠ [] then
                        .error .unsupportedSource
                      else
                        .ok { resolved with
                          wrapper := if wrapper ≠ [] then wrapper else resolved.wrapper }
                  | _ => .error .multipleSourceFallbacks

def resolveSource (value : Option (List Char)) (streams : SourceStreams) :
    Except SourceError ResolvedSource :=
  resolveSourceFrom streams (maxSources + 1) value []

/-! The URI with credentials. -/

def userinfo (username password : List Char) : List Char :=
  if username = [] then []
  else quote username ++ (if password = [] then [] else ':' :: quote password) ++ ['@']

/-- `none` is a `ValueError`. -/
def authenticatedRtspUri (uri username password : List Char) : Option (List Char) := do
  let parsed ← urlsplit uri
  let host := parsed.hostname.getD []
  if !isRtsp parsed.scheme || host = [] then none
  else
    let port ← parsed.port
    some (urlunsplit { parsed with
      netloc := userinfo username password ++ authority host port
      fragment := [] })

end

end CamAdmiral
