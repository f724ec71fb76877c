import CamAdmiral.FaultJournal
import CamAdmiral.NetworkLocation
import CamAdmiral.ProbeReplies
import CamAdmiral.RecoveryCore

/-!
`inspect_onvif_candidate`: a camera is asked for its services, its profiles and the URI of each
profile, and whatever URL it names is checked against its address. What the camera answers may
depend on all that it was asked before. The journal says what the inspection has looked at.
-/

namespace CamAdmiral

/-! Addresses. -/

inductive IpAddress
  | v4 (value : Nat)
  | v6 (value : Nat) (scope : List Char)
  deriving DecidableEq, Repr

/-- `is_private`, whose tables differ between versions of the interpreter. -/
class PrivateAddresses where
  isPrivate : IpAddress → Bool

def hexDigit (digit : Char) : Nat :=
  if digit.toLower.toNat < 97 then digit.toNat - 48 else digit.toLower.toNat - 87

/-- The numbers of the groups between colons; `none` stands for an empty one. -/
def ipv6Numbers (text : List Char) : List (Option Nat) :=
  (text.splitOn ':').flatMap fun part =>
    if part = [] then [none]
    else
      match ipv4Value part with
      | some value => [some (value / 65536), some (value % 65536)]
      | none => [some (part.foldl (fun value digit => value * 16 + hexDigit digit) 0)]

def ipv6Value (text : List Char) : Option Nat :=
  if isIpv6Number text then
    let numbers := ipv6Numbers text
    let before := (numbers.takeWhile Option.isSome).filterMap id
    let after := (numbers.reverse.takeWhile Option.isSome).reverse.filterMap id
    let skipped := List.replicate (8 - before.length - after.length) 0
    let groups := if numbers.all Option.isSome then before else before ++ skipped ++ after
    some (groups.foldl (fun value group => value * 65536 + group) 0)
  else
    none

/-- `ipaddress.ip_address`; `none` is a `ValueError`. -/
def ipAddress (text : List Char) : Option IpAddress :=
  if '/' ∈ text then none
  else
    match ipv4Value text with
    | some value => some (.v4 value)
    | none =>
        match cut '%' text with
        | some (address, scope) =>
            if scope = [] ∨ '%' ∈ scope then none
            else (ipv6Value address).map fun value => .v6 value scope
        | none => (ipv6Value text).map fun value => .v6 value []

example : ipAddress "fe80::1%eth0".toList = some (.v6 (0xfe80 * 2 ^ 112 + 1) "eth0".toList) ∧
    ipAddress "::ffff:192.0.2.1".toList = some (.v6 (0xffff * 2 ^ 32 + 0xc0000201) []) ∧
    ipAddress "1::".toList = some (.v6 (2 ^ 112) []) ∧ ipAddress "10.0.0.9".toList =
      some (.v4 0x0a000009) ∧ ipAddress "[".toList = none := by decide +kernel

/-! SOAP. -/

inductive SoapElement where
  | element (tag : String) (attributes : List (String × String)) (text : Option String)
      (children : List SoapElement)
  deriving Repr

def SoapElement.tag : SoapElement → String
  | .element tag _ _ _ => tag

def SoapElement.attributes : SoapElement → List (String × String)
  | .element _ attributes _ _ => attributes

def SoapElement.text : SoapElement → Option String
  | .element _ _ text _ => text

mutual

/-- The element and what is below it, in document order. -/
def SoapElement.iter : SoapElement → List SoapElement
  | .element tag attributes text children =>
      .element tag attributes text children :: SoapElement.iterAll children

def SoapElement.iterAll : List SoapElement → List SoapElement
  | [] => []
  | child :: rest => child.iter ++ SoapElement.iterAll rest

end

def SoapElement.isNamed (element : SoapElement) (name : String) : Bool :=
  decide (localName element.tag = name.toList)

/-- What `fromstring` makes of the bytes of a reply, as for the replies to a probe. -/
inductive SoapPayload
  | tree (root : SoapElement)
  | malformed
  | undecodable
  deriving Repr

inductive SoapBody
  | getServices
  | getProfiles
  | getStreamUri (token : String)
  deriving DecidableEq, Repr

/-- How a request is signed: not, with a security header, or by HTTP digest. -/
inductive SoapSignature
  | plain
  | header (username password : String)
  | digest (username password : String)
  deriving DecidableEq, Repr

structure SoapRequest where
  url : List Char
  body : SoapBody
  signature : SoapSignature
  deriving DecidableEq, Repr

structure SoapResponse where
  status : Nat
  payload : SoapPayload
  /-- The response has a challenge for the digest scheme. -/
  offersDigest : Bool
  deriving Repr

/-- The outcome of sending a request: `failed` is an exception that is neither an HTTP error nor
an `OSError`, such as those of `http.client`. -/
inductive SoapReply
  | response (response : SoapResponse)
  | unreachable
  | failed
  deriving Repr

/-- The replies of a camera to the requests of one inspection, of which the last is new. -/
abbrev CameraAnswers := List SoapRequest → SoapReply

/-! What an inspection looks at. -/

inductive Consulted
  | reply (request : SoapRequest) (reply : SoapReply)
  | payload (payload : SoapPayload)
  | url (text : List Char)
  | address (text : List Char)
  deriving Repr

/-- An item from which an exception comes that is no `OnvifInspectionError`. -/
def Consulted.faulty : Consulted → Bool
  | .reply _ .failed => true
  | .reply _ _ => false
  | .payload .undecodable => true
  | .payload _ => false
  | .url text => (urlsplit text).isNone
  | .address text => (ipAddress text).isNone

def requestsOf (journal : List Consulted) : List SoapRequest :=
  journal.filterMap fun item => match item with
    | .reply request _ => some request
    | _ => none

abbrev Inspection (α : Type) := Program InspectionFailure (List Consulted) α

namespace Inspection

def refuse {α : Type} (code : String) : Inspection α := Program.fail (.refused code)

def raise {α : Type} : Inspection α := Program.fail .raised

/-- `urllib.parse.urlsplit`. -/
def splitUrl (text : List Char) : Inspection SplitUrl := do
  Program.note (.url text)
  match urlsplit text with
  | some url => pure url
  | none => raise

/-- `ipaddress.ip_address`. -/
def parseAddress (text : List Char) : Inspection IpAddress := do
  Program.note (.address text)
  match ipAddress text with
  | some address => pure address
  | none => raise

/-- `ET.fromstring`, without the root where the payload is malformed. -/
def fromstring (payload : SoapPayload) : Inspection (Option SoapElement) := do
  Program.note (.payload payload)
  match payload with
  | .tree root => pure (some root)
  | .malformed => pure none
  | .undecodable => raise

/-- `_send_request`. -/
def sendRequest (answers : CameraAnswers) (request : SoapRequest) : Inspection SoapResponse := do
  let asked ← Program.read requestsOf
  let reply := answers (asked ++ [request])
  Program.note (.reply request reply)
  match reply with
  | .response response => pure response
  | .unreachable => refuse "unreachable"
  | .failed => raise

/-! Requests. -/

def digestChallenge (response : SoapResponse) : Bool :=
  response.status = 401 && response.offersDigest

def faultText (root : SoapElement) : String :=
  String.intercalate " " ((root.iter.filter fun child =>
    ["Value", "Text", "Reason", "Subcode"].any child.isNamed).map fun child => textOf child.text)

def faultMarkers : List String :=
  ["notauthorized", "not authorized", "unauthorized", "authenticate", "credentials"]

/-- `_first_text`, with the empty text where there is none. -/
def firstText (element : SoapElement) (name : String) : String :=
  let holder := element.iter.find? fun child => child.isNamed name && textOf child.text ≠ ""
  (holder.map fun child => strip (textOf child.text)).getD ""

section
variable [TextCase]

/-- `_is_auth_fault`. -/
def isAuthFault (response : SoapResponse) : Inspection Bool :=
  if response.status = 401 ∨ response.status = 403 then
    pure true
  else do
    match ← fromstring response.payload with
    | some root => pure (faultMarkers.any (containsText (TextCase.lower (faultText root))))
    | none => pure false

/-- The second request of `_soap_post`, for a camera that rejects the header without a status that
says so, and whether it is the one with a digest. -/
def retryUnsigned (answers : CameraAnswers) (url : List Char) (body : SoapBody)
    (credentials : String × String) (response : SoapResponse) :
    Inspection (SoapResponse × Bool) := do
  if response.status ≠ 200 ∧ response.status ≠ 400 then
    pure (response, false)
  else if !(← isAuthFault response) || digestChallenge response then
    pure (response, false)
  else
    let challenge ← sendRequest answers ⟨url, body, .plain⟩
    if digestChallenge challenge then
      let answered ← sendRequest answers ⟨url, body, .digest credentials.1 credentials.2⟩
      pure (answered, true)
    else
      pure (challenge, false)

/-- The requests of `_soap_post`, up to the response that it reads. -/
def exchange (answers : CameraAnswers) (url : List Char) (body : SoapBody) :
    Option (String × String) → Inspection SoapResponse
  | none => sendRequest answers ⟨url, body, .plain⟩
  | some credentials => do
      let first ← sendRequest answers ⟨url, body, .header credentials.1 credentials.2⟩
      let (response, attempted) ← retryUnsigned answers url body credentials first
      if !attempted && digestChallenge response then
        sendRequest answers ⟨url, body, .digest credentials.1 credentials.2⟩
      else
        pure response

/-- `_soap_post`. -/
def soapPost (answers : CameraAnswers) (url : List Char) (body : SoapBody)
    (credentials : Option (String × String)) : Inspection SoapElement := do
  let response ← exchange answers url body credentials
  if ← isAuthFault response then
    refuse "credentials_required"
  else if response.status ≠ 200 then
    refuse "onvif_error"
  else
    match ← fromstring response.payload with
    | none => refuse "invalid_response"
    | some root => if root.iter.any (·.isNamed "Fault") then refuse "onvif_error" else pure root

/-! URLs that a camera names. -/

/-- An HTTP URL without credentials at the address of the camera. -/
def isEndpointOf (address : IpAddress) (url : SplitUrl) : Bool :=
  (url.scheme = "http".toList || url.scheme = "https".toList) && url.username.getD [] = [] &&
    url.password.getD [] = [] && ipAddress (url.hostname.getD []) = some address

def withoutFragment (url : SplitUrl) : List Char := urlunsplit { url with fragment := [] }

/-- The loop of `_safe_candidate_url`. -/
def firstEndpoint (address : IpAddress) : List String → Inspection (List Char)
  | [] => refuse "unsafe_endpoint"
  | value :: rest => do
      let url ← splitUrl value.toList
      if isEndpointOf address url then pure (withoutFragment url) else firstEndpoint address rest

/-- `_safe_candidate_url`. -/
def safeCandidateUrl [PrivateAddresses] (candidate : Device) (onvif : Onvif) :
    Inspection (List Char) := do
  let address ← parseAddress candidate.ip.toList
  if !PrivateAddresses.isPrivate address then
    refuse "unsafe_endpoint"
  else
    firstEndpoint address onvif.serviceUrls

def mediaNamespace : String := "http://www.onvif.org/ver10/media/wsdl"

def stripSlashes (text : List Char) : List Char := (text.reverse.dropWhile (· = '/')).reverse

/-- The URLs of the media services that the camera lists. -/
def listedMediaUrls (root : SoapElement) : List (List Char) :=
  (root.iter.filter (·.isNamed "Service")).filterMap fun service =>
    let address := firstText service "XAddr"
    if stripSlashes (firstText service "Namespace").toList = stripSlashes mediaNamespace.toList ∧
        address ≠ "" then
      some address.toList
    else
      none

/-- `_media_service_urls`: the usual paths come after what the camera lists. -/
def mediaServiceUrls (root : SoapElement) (deviceUrl : List Char) :
    Inspection (List (List Char)) := do
  let device ← splitUrl deviceUrl
  let base := urlunsplit ⟨device.scheme, device.netloc, [], [], []⟩
  let usual := ["/onvif/media_service", "/onvif/Media", "/onvif/media"].map fun path =>
    base ++ path.toList
  pure (usual.foldl (fun urls url => if urls.any (· = url) then urls else urls ++ [url])
    (listedMediaUrls root))

/-- `_safe_service_url`, for all URLs. -/
def safeServiceUrls (candidateIp : List Char) : List (List Char) → Inspection (List (List Char))
  | [] => pure []
  | value :: rest => do
      let url ← splitUrl value
      let safe ← safeServiceUrls candidateIp rest
      match ipAddress candidateIp with
      | some address =>
          pure (if isEndpointOf address url then withoutFragment url :: safe else safe)
      | none => pure safe

/-- `_safe_rtsp_uri`. -/
def safeRtspUri (value candidateIp : List Char) : Inspection (Option (List Char)) := do
  let url ← splitUrl value
  let named := url.hostname.getD []
  let host := if named = "0.0.0.0".toList then candidateIp else named
  if url.scheme ≠ "rtsp".toList ∧ url.scheme ≠ "rtsps".toList then
    pure none
  else if ipAddress host = none ∨ ipAddress host ≠ ipAddress candidateIp then
    pure none
  else
    match url.port with
    | none => pure none
    | some port =>
        pure (some (urlunsplit { url with netloc := authority host port, fragment := [] }))

/-! Profiles. -/

def maxProfiles : Nat := 16

/-- The tokens of `_profiles`. -/
def profileTokens (root : SoapElement) : List String :=
  ((root.iter.filter (·.isNamed "Profiles")).filterMap fun element =>
    let token := textOf (element.attributes.lookup "token")
    let other := textOf (element.attributes.lookup "Token")
    if token ≠ "" then some token else if other ≠ "" then some other else none).take maxProfiles

/-- What a media service answers, or the code with which it is passed over. -/
def askProfiles (answers : CameraAnswers) (credentials : Option (String × String))
    (url : List Char) : Inspection (Except String SoapElement) :=
  Program.handle
    (do
      let response ← soapPost answers url .getProfiles credentials
      pure (.ok response))
    fun failure => match failure with
      | .raised => raise
      | .refused code =>
          if code = "credentials_required" then refuse code else pure (.error code)

/-- The first of the media services that reports profiles, with their tokens. -/
def findProfiles (answers : CameraAnswers) (credentials : Option (String × String))
    (lastError : Option String) : List (List Char) → Inspection (List Char × List String)
  | [] => refuse (lastError.getD "no_profiles")
  | url :: rest => do
      match ← askProfiles answers credentials url with
      | .error code => findProfiles answers credentials (some code) rest
      | .ok response =>
          if profileTokens response = [] then findProfiles answers credentials lastError rest
          else pure (url, profileTokens response)

/-- The URIs of the profiles; an empty one stands for none. -/
def streamUris (answers : CameraAnswers) (credentials : Option (String × String))
    (url candidateIp : List Char) : List String → Inspection (List (String × String))
  | [] => pure []
  | token :: rest => do
      let response ← soapPost answers url (.getStreamUri token) credentials
      let value := firstText response "Uri"
      let uri ← if value = "" then pure none else safeRtspUri value.toList candidateIp
      let later ← streamUris answers credentials url candidateIp rest
      pure ((token, String.ofList (uri.getD [])) :: later)

/-- `inspect_onvif_candidate`: the tokens and URIs of the profiles. -/
def inspectOnvifCandidate [PrivateAddresses] (answers : CameraAnswers) (candidate : Device)
    (credentials : Option (String × String)) : Inspection (List (String × String)) := do
  match candidate.onvif with
  | none => refuse "not_onvif"
  | some onvif =>
      let deviceUrl ← safeCandidateUrl candidate onvif
      let services ← soapPost answers deviceUrl .getServices credentials
      let urls ← mediaServiceUrls services deviceUrl
      let safe ← safeServiceUrls candidate.ip.toList urls
      let (url, tokens) ← findProfiles answers credentials none safe
      streamUris answers credentials url candidate.ip.toList tokens

end

end Inspection

end CamAdmiral
