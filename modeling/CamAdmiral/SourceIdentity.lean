import CamAdmiral.NetworkLocation
import CamAdmiral.NetworkSettings
import CamAdmiral.RecoveryCore
import Mathlib.Data.List.Infix

/-!
The URL of a stream that is entered by hand, and the key that tells whether two sources are the
same. The key is computed from the entered URL, from a stored URL, and from the columns a stored
URL is divided into.
-/

namespace CamAdmiral

/-- `urllib.parse` as the URL splitting has it. -/
@[reducible] def parsedUrls [TextCase] : UrlText where
  split text := do
    let url ← urlsplit text.toList
    let port ← url.port
    pure {
      scheme := some (String.ofList url.scheme)
      host := url.hostname.map String.ofList
      port := port
      path := some (String.ofList url.path)
      query := some (String.ofList url.query) }
  unsplit parts := String.ofList (urlunsplit {
    scheme := (textOf parts.scheme).toList
    netloc := authority (textOf parts.host).toList parts.port
    path := (textOf parts.path).toList
    query := (textOf parts.query).toList
    fragment := [] })
  hostname text := String.ofList (((urlsplit text.toList).bind SplitUrl.hostname).getD [])

/-! The host of an entered URL. -/

inductive DnsAnswer
  | addresses (addresses : List Nat)
  | late
  | failed
  deriving DecidableEq, Repr

/-- What the network answers: the private interfaces, none where they cannot be read, and the
IPv4 addresses of a name. -/
structure DirectHosts where
  interfaces : List LanInterface
  resolve : List Char → DnsAnswer

def isLoopback (address : Nat) : Bool := address / 2 ^ 24 = 127

def isLinkLocal (address : Nat) : Bool := address / 2 ^ 16 = 169 * 256 + 254

def isMulticast (address : Nat) : Bool := address / 2 ^ 28 = 14

def permittedDirectIpv4 (address : Nat) (interfaces : List LanInterface) : Bool :=
  privateRanges.any (·.contains address) &&
    !(isLoopback address || isLinkLocal address || isMulticast address || address = 0) &&
    interfaces.all fun interface => address ∉ [interface.address,
      interface.network.networkAddress, interface.network.broadcastAddress]

def isLabelCharacter (character : Char) : Bool :=
  ('a' ≤ character && character ≤ 'z') || ('0' ≤ character && character ≤ '9')

/-- `DNS_LABEL.fullmatch`. -/
def isDnsLabel (label : List Char) : Bool :=
  label.head?.any isLabelCharacter && label.getLast?.any isLabelCharacter &&
    label.length ≤ 63 && label.all fun character => isLabelCharacter character || character = '-'

def resolveDirectRtspHostname (hosts : DirectHosts) (host : List Char) :
    Except String (List Nat) :=
  match hosts.resolve host with
  | .late => .error "The RTSP hostname did not resolve in time."
  | .failed => .error "The RTSP hostname could not be resolved."
  | .addresses [] => .error "The RTSP hostname did not resolve to an IPv4 address."
  | .addresses addresses => .ok addresses

def validateDirectRtspHost (hosts : DirectHosts) (host : List Char) : Except String Unit :=
  match ipv4Address (String.ofList host) with
  | some literal =>
      if permittedDirectIpv4 literal hosts.interfaces then .ok ()
      else .error "Only private LAN RTSP addresses can be added."
  | none =>
      if host.all fun character => ('0' ≤ character && character ≤ '9') || character = '.' then
        .error "Enter a valid RTSP hostname or private IPv4 address."
      else if host.length > 253 || (host.splitOn '.').any fun label => !isDnsLabel label then
        .error "Enter a valid ASCII RTSP hostname."
      else do
        let addresses ← resolveDirectRtspHostname hosts host
        if addresses.any fun address => !permittedDirectIpv4 address hosts.interfaces then
          .error "The RTSP hostname must resolve only to private LAN addresses."
        else
          .ok ()

/-! The entered URL. -/

structure DirectSource where
  normalized : String
  key : SourceKey
  host : String
  deriving DecidableEq, Repr

/-- The default port takes the place of zero. -/
def directPort (parsedPort : Option Nat) : Nat := (parsedPort.filter (· ≠ 0)).getD 554

/-- What is returned for a host that is accepted. -/
def builtSource (parsed : SplitUrl) (parsedPort : Option Nat) (host : List Char) : DirectSource :=
  let path := if parsed.path = [] then ['/'] else parsed.path
  {
    normalized := String.ofList (urlunsplit {
      scheme := "rtsp".toList
      netloc := match parsedPort with
        | none => host
        | some _ => host ++ ':' :: Nat.toDigits 10 (directPort parsedPort)
      path := path
      query := parsed.query
      fragment := [] })
    key := {
      host := String.ofList host
      port := directPort parsedPort
      path := String.ofList path
      query := String.ofList parsed.query }
    host := String.ofList host }

section
variable [TextCase]

/-- The host in lower case without the dot that ends it. -/
def directHost (hostname : List Char) : List Char :=
  let host := lowerChars hostname
  if host.getLast? = some '.' then host.dropLast else host

/-- The checks of the divided URL, with host validation. -/
def normalizeParsed (hosts : DirectHosts) (parsed : SplitUrl) (parsedPort : Option Nat) :
    Except String DirectSource :=
  let port := directPort parsedPort
  if lowerChars parsed.scheme ≠ "rtsp".toList || parsed.hostname.getD [] = [] then
    .error "Stream URLs must start with rtsp:// and include a host."
  else if parsed.username.isSome || parsed.password.isSome then
    .error "Enter the username and password in their separate fields."
  else if parsed.fragment ≠ [] then
    .error "RTSP stream URLs cannot include a fragment."
  else if ¬ (1 ≤ port ∧ port ≤ 65535) then .error "Enter a valid RTSP port."
  else
    let host := directHost (parsed.hostname.getD [])
    if ¬ host.all fun character => character.toNat < 128 then
      .error "Enter a valid ASCII RTSP hostname."
    else if host = [] then .error "Stream URLs must include a host."
    else do
      validateDirectRtspHost hosts host
      .ok (builtSource parsed parsedPort host)

/-- `_normalize_direct_rtsp_url` with host validation. -/
def normalizeDirectRtspUrl (hosts : DirectHosts) (value : String) : Except String DirectSource :=
  let entered := (strip value).toList
  if entered = [] then .error "Enter a complete RTSP URL."
  else if ¬ "://".toList <:+: entered then
    .error "Enter a complete RTSP URL. To find a camera by IP, use Scan network."
  else if '\\' ∈ entered || entered.any fun character =>
      character.toNat < 32 || character.toNat = 127 then
    .error "Enter a valid RTSP URL."
  else
    match urlsplit entered with
    | none => .error "Enter a valid RTSP URL."
    | some parsed =>
        match parsed.port with
        | none => .error "Enter a valid RTSP URL."
        | some port => normalizeParsed hosts parsed port

end

/-! The text of an accepted host. -/

/-- A character of a name or an IPv4 address in lower case. -/
structure HostCharacter (character : Char) : Prop where
  ascii : character.toNat < 128
  lowered : character.toLower = character
  plain : character ∉ [':', '%', '@', '[', ']', '/', '?', '#', '\t', '\r', '\n', '\\']
  printable : 32 < character.toNat ∧ character.toNat ≠ 127

/-- A host without a dot at its end that needs no brackets. -/
structure PlainHost (host : List Char) : Prop where
  nonempty : host ≠ []
  characters : ∀ character ∈ host, HostCharacter character
  ends : host.getLast? ≠ some '.'

theorem hostCharacter_digit {character : Char}
    (digit : 48 ≤ character.toNat ∧ character.toNat ≤ 57) : HostCharacter character := by
  refine ⟨by omega, ?_, ?_, by omega⟩
  · rcases toLower_cases character with same | ⟨_, _, _⟩
    · exact same
    · omega
  · intro listed
    have far : ∀ other ∈ [':', '%', '@', '[', ']', '/', '?', '#', '\t', '\r', '\n', '\\'],
        ¬ (48 ≤ other.toNat ∧ other.toNat ≤ 57) := by decide
    exact far character listed digit

theorem hostCharacter_label {character : Char} (isLabel : isLabelCharacter character = true) :
    HostCharacter character := by
  simp only [isLabelCharacter, Bool.or_eq_true, Bool.and_eq_true, decide_eq_true_eq] at isLabel
  rcases isLabel with ⟨low, high⟩ | digit
  · have above : ('a' : Char).toNat ≤ character.toNat := low
    have below : character.toNat ≤ ('z' : Char).toNat := high
    have first : ('a' : Char).toNat = 97 := rfl
    have last : ('z' : Char).toNat = 122 := rfl
    refine ⟨by omega, ?_, ?_, by omega⟩
    · rcases toLower_cases character with same | ⟨_, _, _⟩
      · exact same
      · omega
    · intro listed
      have far : ∀ other ∈ [':', '%', '@', '[', ']', '/', '?', '#', '\t', '\r', '\n', '\\'],
          ¬ (97 ≤ other.toNat ∧ other.toNat ≤ 122) := by decide
      exact far character listed ⟨by omega, by omega⟩
  · exact hostCharacter_digit digit

theorem hostCharacter_dot : HostCharacter '.' := ⟨by decide, by decide, by decide, by decide⟩

theorem ipv4Address_value {text : String} (isAddress : (ipv4Address text).isSome = true) :
    (ipv4Value text.toList).isSome = true := by
  rw [ipv4Address] at isAddress
  split at isAddress
  · cases isAddress
  · exact isAddress

/-- A list that ends with a member is one with the member at its end. -/
theorem eq_concat_of_getLast? {α : Type*} {items : List α} {last : α}
    (isLast : items.getLast? = some last) : ∃ start, items = start ++ [last] :=
  ⟨items.dropLast, (List.dropLast_append_getLast? last isLast).symm⟩

theorem plainHost_address {address : List Char}
    (isAddress : (ipv4Value address).isSome = true) : PlainHost address := by
  refine ⟨?_, ?_, ?_⟩
  · rintro rfl
    exact absurd isAddress (by decide)
  · intro character member
    rcases ipv4Value_chars isAddress member with rfl | digit
    · exact hostCharacter_dot
    · exact hostCharacter_digit digit
  · intro isLast
    obtain ⟨start, rfl⟩ := eq_concat_of_getLast? isLast
    rw [ipv4Value_last] at isAddress
    cases isAddress

theorem isDnsLabel_characters {label : List Char} (isLabel : isDnsLabel label = true)
    {character : Char} (member : character ∈ label) : HostCharacter character := by
  simp only [isDnsLabel, Bool.and_eq_true, List.all_eq_true, Bool.or_eq_true,
    decide_eq_true_eq] at isLabel
  rcases isLabel.2 character member with isLabelled | rfl
  · exact hostCharacter_label isLabelled
  · exact ⟨by decide, by decide, by decide, by decide⟩

theorem validateDirectRtspHost_plain {hosts : DirectHosts} {host : List Char}
    (nonempty : host ≠ []) (accepted : validateDirectRtspHost hosts host = .ok ()) :
    PlainHost host := by
  rw [validateDirectRtspHost] at accepted
  split at accepted
  · rename_i literal isLiteral
    have isAddress : (ipv4Address (String.ofList host)).isSome = true := by rw [isLiteral]; rfl
    have isValue := ipv4Address_value isAddress
    rw [String.toList_ofList] at isValue
    exact plainHost_address isValue
  · split at accepted
    · cases accepted
    · split at accepted
      · cases accepted
      · rename_i labelled
        rw [Bool.or_eq_true, not_or, Bool.not_eq_true, Bool.not_eq_true, List.any_eq_false]
          at labelled
        have labels : ∀ label ∈ host.splitOn '.', isDnsLabel label = true := by
          intro label member
          simpa using labelled.2 label member
        refine ⟨nonempty, ?_, ?_⟩
        · intro character member
          rcases mem_splitOn '.' member with rfl | ⟨label, isPart, inPart⟩
          · exact hostCharacter_dot
          · exact isDnsLabel_characters (labels label isPart) inPart
        · intro isLast
          obtain ⟨start, rfl⟩ := eq_concat_of_getLast? isLast
          have empty := labels [] (by rw [splitOn_concat]; simp)
          exact absurd empty (by decide)

theorem PlainHost.absent {host : List Char} (isHost : PlainHost host) {character : Char}
    (special : character ∈ [':', '%', '@', '[', ']', '/', '?', '#', '\t', '\r', '\n', '\\']) :
    character ∉ host :=
  fun member => (isHost.characters character member).plain special

theorem PlainHost.text {host : List Char} (isHost : PlainHost host) : HostText host := by
  have noColon : ':' ∉ host := isHost.absent (by decide)
  refine ⟨isHost.nonempty, ?_, fun colon => absurd colon noColon,
    fun _ => .inl (isHost.absent (by decide))⟩
  intro character member
  have isCharacter := isHost.characters character member
  have plain := isCharacter.plain
  simp only [List.mem_cons, List.not_mem_nil, or_false, not_or] at plain
  refine ⟨?_, plain.2.2.1, ?_, ascii_compat isCharacter.ascii⟩
  · rw [isNetlocEnd, decide_eq_false_iff_not]
    simp [plain]
  · simp [plain]

theorem PlainHost.rewritable {host : List Char} (isHost : PlainHost host) : Rewritable host :=
  .inr ⟨isHost.absent (by decide), isHost.absent (by decide)⟩

/-- Text without a dot at its end keeps its end. -/
theorem stripDots_ends {text : List Char} (ends : text.getLast? ≠ some '.') :
    stripDots (String.ofList text) = String.ofList text := by
  rw [stripDots, String.toList_ofList]
  cases isReversed : text.reverse with
  | nil =>
      rw [List.reverse_eq_nil_iff.mp isReversed]
      rfl
  | cons last others =>
      have isText : text = others.reverse ++ [last] := by
        rw [← List.reverse_reverse text, isReversed, List.reverse_cons]
      have other : last ≠ '.' := by
        rintro rfl
        exact ends (by rw [isText, List.getLast?_concat])
      rw [List.dropWhile_cons_of_neg (by simpa using other), isText, List.reverse_cons]

/-! A source with its host and port, as every function builds it. -/

/-- The parts of a source that do not depend on its host. -/
structure SourceBase (base : SplitUrl) : Prop where
  canonical : Canonical base
  scheme : base.scheme = "rtsp".toList
  path : base.path ≠ []
  fragment : base.fragment = []

def locatedAt (base : SplitUrl) (host : List Char) (port : Option Nat) : SplitUrl :=
  { base with netloc := authority host port }

def locatedText (base : SplitUrl) (host : List Char) (port : Option Nat) : String :=
  String.ofList (urlunsplit (locatedAt base host port))

/-- A host in any case and what `urlsplit` reads of it. -/
structure ReadAs [TextCase] (host lowered : List Char) : Prop where
  text : HostText host
  rewritable : Rewritable host
  nonempty : lowered ≠ []
  lowerHost : lowerHost host = lowered
  lowerChars : lowerChars lowered = lowered
  ends : lowered.getLast? ≠ some '.'

section
variable [TextCase] [CharacterCase]

theorem PlainHost.lowerChars {host : List Char} (isHost : PlainHost host) :
    CamAdmiral.lowerChars host = host := by
  rw [lowerChars_ascii fun character member => (isHost.characters character member).ascii]
  conv_rhs => rw [← List.map_id host]
  exact List.map_congr_left fun character member => (isHost.characters character member).lowered

theorem PlainHost.readAs {host : List Char} (isHost : PlainHost host) : ReadAs host host := by
  refine ⟨isHost.text, isHost.rewritable, isHost.nonempty, ?_, isHost.lowerChars, isHost.ends⟩
  have absent : '%' ∉ host := isHost.absent (by decide)
  rw [lowerHost, splitOnce_absent absent, if_neg absent, List.append_nil]
  exact isHost.lowerChars

/-- An IPv4 address, or an IPv6 address without a zone. -/
def IsAddress (address : List Char) : Prop :=
  (ipv4Value address).isSome = true ∨ isIpv6Number address = true

theorem readAs_ipv6 {address : List Char} (isNumber : isIpv6Number address = true) :
    ReadAs address (address.map Char.toLower) := by
  have characters : ∀ character ∈ address, character.toNat < 128 ∧
      character ∉ ['%', '@', '[', ']', '/', '?', '#', '\t', '\r', '\n'] := by
    intro character member
    refine ⟨isIpv6Number_ascii isNumber member, fun listed => ?_⟩
    have known : ∀ other ∈ ['%', '@', '[', ']', '/', '?', '#', '\t', '\r', '\n'],
        isHexDigit other = false ∧ other ≠ ':' ∧ other ≠ '.' := by decide
    obtain ⟨notHex, notColon, notDot⟩ := known character listed
    rcases isIpv6Number_chars isNumber member with hex | colon | dot
    · rw [notHex] at hex
      cases hex
    · exact notColon colon
    · exact notDot dot
  have absent {character : Char}
      (listed : character ∈ ['%', '@', '[', ']', '/', '?', '#', '\t', '\r', '\n']) :
      character ∉ address := fun member => (characters character member).2 listed
  have lower : lowerHost address = address.map Char.toLower := by
    rw [lowerHost, splitOnce_absent (absent (by decide)), if_neg (absent (by decide)),
      List.append_nil]
    exact lowerChars_ascii fun character member => (characters character member).1
  have isLowered := isIpv6Number_lower isNumber
  have nonempty : address ≠ [] := by
    rintro rfl
    exact absurd isNumber (by decide)
  refine ⟨⟨nonempty, ?_, ?_, fun _ => .inl (absent (by decide))⟩,
    .inr ⟨absent (by decide), absent (by decide)⟩, by simpa using nonempty, lower, ?_, ?_⟩
  · intro character member
    have listed := (characters character member).2
    simp only [List.mem_cons, List.not_mem_nil, or_false, not_or] at listed
    refine ⟨?_, listed.2.1, ?_, ascii_compat (characters character member).1⟩
    · rw [isNetlocEnd, decide_eq_false_iff_not]
      simp [listed]
    · simp [listed]
  · intro _
    refine ⟨absent (by decide), ?_⟩
    have start : ∀ rest, address ≠ 'v' :: rest := by
      simpa using @isIpv6Number_start _ [] isNumber
    have noSlash : '/' ∉ address := absent (by decide)
    rw [isBracketedHost_address start, isIpv6, cut_eq_none.mpr (absent (by decide))]
    simp [noSlash, isNumber]
  · rw [lowerChars_ascii fun character => isIpv6Number_ascii isLowered, List.map_map]
    exact List.map_congr_left fun character _ => toLower_toLower character
  · intro isLast
    obtain ⟨start, isStart⟩ := eq_concat_of_getLast? isLast
    rw [isStart, isIpv6Number_last] at isLowered
    cases isLowered

theorem readAs_address {address : List Char} (isAddress : IsAddress address) :
    ReadAs address (address.map Char.toLower) := by
  rcases isAddress with isAddress | isNumber
  · rw [ipv4Value_lower isAddress]
    exact (plainHost_address isAddress).readAs
  · exact readAs_ipv6 isNumber

end

section
variable [TextCase]

theorem located_split {base : SplitUrl} (isBase : SourceBase base) {host lowered : List Char}
    (isHost : ReadAs host lowered) {port : Option Nat} (nonzero : port ≠ some 0)
    (bound : ∀ number ∈ port, number ≤ 65535) :
    urlsplit (urlunsplit (locatedAt base host port)) = some (locatedAt base host port) ∧
      (locatedAt base host port).hostname = some lowered ∧
      (locatedAt base host port).port = some port := by
  have splits := urlsplit_relocated isBase.canonical isHost.text infoText_nil port
  rw [if_pos ((location_readable isHost.text infoText_nil port).mpr isHost.rewritable)] at splits
  have parts := relocated_parts isHost.text bound isHost.rewritable infoText_nil
    (locatedAt base host port) rfl
  rw [isHost.lowerHost, writtenPort_eq.mpr nonzero] at parts
  exact ⟨splits, parts⟩

attribute [local instance] parsedUrls

/-- The parts of a text that can be split. -/
theorem parsedUrls_split {text : String} {url : SplitUrl} {port : Option Nat}
    (splits : urlsplit text.toList = some url) (isPort : url.port = some port) :
    UrlText.split text = some {
      scheme := some (String.ofList url.scheme)
      host := url.hostname.map String.ofList
      port := port
      path := some (String.ofList url.path)
      query := some (String.ofList url.query) } := by
  simp only [UrlText.split, splits, isPort, Option.bind_eq_bind, Option.bind_some]
  rfl

theorem located_parts {base : SplitUrl} (isBase : SourceBase base) {host lowered : List Char}
    (isHost : ReadAs host lowered) {port : Option Nat} (nonzero : port ≠ some 0)
    (bound : ∀ number ∈ port, number ≤ 65535) :
    UrlText.split (locatedText base host port) = some {
      scheme := some "rtsp"
      host := some (String.ofList lowered)
      port := port
      path := some (String.ofList base.path)
      query := some (String.ofList base.query) } := by
  obtain ⟨splits, isName, isPort⟩ := located_split isBase isHost nonzero bound
  have sameText : (locatedText base host port).toList = urlunsplit (locatedAt base host port) :=
    String.toList_ofList
  rw [parsedUrls_split (by rw [sameText]; exact splits) isPort, isName]
  simp only [locatedAt, isBase.scheme, String.ofList_toList, Option.map_some]

variable [CharacterCase]

theorem lowerChars_rtsp : lowerChars "rtsp".toList = "rtsp".toList := by
  rw [lowerChars_ascii (by decide)]
  decide

/-- The key of a source has its host in lower case and the default port if none is written. -/
theorem located_key {base : SplitUrl} (isBase : SourceBase base) {host lowered : List Char}
    (isHost : ReadAs host lowered) {port : Option Nat} (nonzero : port ≠ some 0)
    (bound : ∀ number ∈ port, number ≤ 65535) :
    rtspSourceKey (locatedText base host port) = some {
      host := String.ofList lowered
      port := port.getD 554
      path := String.ofList base.path
      query := String.ofList base.query } := by
  have parts := located_parts isBase isHost nonzero bound
  have scheme : TextCase.lower "rtsp" = "rtsp" := by
    have lower := lowerChars_rtsp
    rw [lowerChars, String.ofList_toList] at lower
    exact String.toList_injective lower
  have sameHost : TextCase.lower (String.ofList lowered) = String.ofList lowered := by
    have lower := isHost.lowerChars
    rw [lowerChars] at lower
    exact String.toList_injective (by rw [lower, String.toList_ofList])
  have someHost : String.ofList lowered ≠ "" := by
    intro empty
    have same := congrArg String.toList empty
    rw [String.toList_ofList] at same
    exact isHost.nonempty same
  have somePath : String.ofList base.path ≠ "" := by
    intro empty
    have same := congrArg String.toList empty
    rw [String.toList_ofList] at same
    exact isBase.path same
  have samePort : (if port.getD 0 = 0 then 554 else port.getD 0) = port.getD 554 := by
    rcases port with _ | _ | number
    · rfl
    · exact absurd rfl nonzero
    · rfl
  simp only [rtspSourceKey, parts, Option.bind_eq_bind, Option.bind_some, textOf,
    Option.getD_some, scheme, sameHost, someHost, somePath, samePort, stripDots_ends isHost.ends]
  simp

end

/-! What an accepted URL is divided into. -/

def locatedSource (base : SplitUrl) (host : List Char) (port : Option Nat) : DirectSource where
  normalized := locatedText base host port
  key := {
    host := String.ofList host
    port := port.getD 554
    path := String.ofList base.path
    query := String.ofList base.query }
  host := String.ofList host

/-- The parts of an accepted URL that do not depend on its host. -/
def sourceBase (parsed : SplitUrl) : SplitUrl :=
  { parsed with
    scheme := "rtsp".toList
    path := if parsed.path = [] then ['/'] else parsed.path
    fragment := [] }

/-- The port that is written for an accepted URL. -/
def sourcePort (parsedPort : Option Nat) : Option Nat :=
  parsedPort.map fun _ => directPort parsedPort

theorem sourcePort_getD (parsedPort : Option Nat) :
    (sourcePort parsedPort).getD 554 = directPort parsedPort := by
  cases parsedPort with
  | none => rfl
  | some number => rfl

theorem sourcePort_nonzero (parsedPort : Option Nat) : sourcePort parsedPort ≠ some 0 := by
  rcases parsedPort with _ | _ | number
  · exact nofun
  · exact nofun
  · exact nofun

theorem sourcePort_eq {port : Option Nat} (nonzero : port ≠ some 0) : sourcePort port = port := by
  rcases port with _ | _ | number
  · rfl
  · exact absurd rfl nonzero
  · rfl

theorem builtSource_located {host : List Char} (isHost : PlainHost host) (parsed : SplitUrl)
    (parsedPort : Option Nat) :
    builtSource parsed parsedPort host =
      locatedSource (sourceBase parsed) host (sourcePort parsedPort) := by
  have unbracketed : bracketed host = host := if_neg (isHost.absent (by decide))
  have location : (match parsedPort with
      | none => host
      | some _ => host ++ ':' :: Nat.toDigits 10 (directPort parsedPort)) =
        authority host (sourcePort parsedPort) := by
    rw [authority, unbracketed]
    rcases parsedPort with _ | _ | number
    · exact (List.append_nil host).symm
    · rfl
    · rfl
  simp only [builtSource, locatedSource, sourcePort_getD, location]
  rfl

section
variable [TextCase]

/-- The checks that a divided URL passes. -/
structure Checked (hosts : DirectHosts) (parsed : SplitUrl) (parsedPort : Option Nat) : Prop where
  scheme : lowerChars parsed.scheme = "rtsp".toList
  hostname : parsed.hostname.getD [] ≠ []
  username : parsed.username = none
  password : parsed.password = none
  fragment : parsed.fragment = []
  port : 1 ≤ directPort parsedPort ∧ directPort parsedPort ≤ 65535
  ascii : (directHost (parsed.hostname.getD [])).all (fun character => character.toNat < 128) = true
  nonempty : directHost (parsed.hostname.getD []) ≠ []
  valid : validateDirectRtspHost hosts (directHost (parsed.hostname.getD [])) = .ok ()

theorem normalizeParsed_eq_ok {hosts : DirectHosts} {parsed : SplitUrl} {parsedPort : Option Nat}
    {source : DirectSource} :
    normalizeParsed hosts parsed parsedPort = .ok source ↔ Checked hosts parsed parsedPort ∧
      source = builtSource parsed parsedPort (directHost (parsed.hostname.getD [])) := by
  constructor
  · intro accepted
    simp only [normalizeParsed] at accepted
    split at accepted
    · cases accepted
    · rename_i supported
      simp only [Bool.or_eq_true, decide_eq_true_eq, not_or, ne_eq, not_not] at supported
      split at accepted
      · cases accepted
      · rename_i anonymous
        simp only [Bool.or_eq_true, not_or, Bool.not_eq_true, Option.isSome_eq_false_iff,
          Option.isNone_iff_eq_none] at anonymous
        split at accepted
        · cases accepted
        · rename_i unfragmented
          split at accepted
          · cases accepted
          · rename_i inRange
            split at accepted
            · cases accepted
            · rename_i ascii
              split at accepted
              · cases accepted
              · rename_i nonempty
                cases isValid : validateDirectRtspHost hosts
                    (directHost (parsed.hostname.getD [])) with
                | error message =>
                    rw [isValid] at accepted
                    cases accepted
                | ok _ =>
                    rw [isValid] at accepted
                    exact ⟨⟨supported.1, supported.2, anonymous.1, anonymous.2,
                      not_not.mp unfragmented, not_not.mp inRange, not_not.mp ascii, nonempty,
                      isValid⟩, (Except.ok.inj accepted).symm⟩
  · rintro ⟨checked, rfl⟩
    have inRange := checked.port
    simp only [normalizeParsed, checked.scheme, checked.hostname, checked.username,
      checked.password, checked.fragment, checked.ascii, checked.nonempty, checked.valid]
    simp [inRange]
    rfl

/-- The checks of the entered text. -/
structure Entered (text : List Char) : Prop where
  complete : "://".toList <:+: text
  printable : ∀ character ∈ text,
    character ≠ '\\' ∧ 32 ≤ character.toNat ∧ character.toNat ≠ 127

theorem normalizeDirectRtspUrl_eq_ok {hosts : DirectHosts} {value : String}
    {source : DirectSource} :
    normalizeDirectRtspUrl hosts value = .ok source ↔
      Entered (strip value).toList ∧ ∃ parsed port,
        urlsplit (strip value).toList = some parsed ∧ parsed.port = some port ∧
        Checked hosts parsed port ∧
        source = builtSource parsed port (directHost (parsed.hostname.getD [])) := by
  constructor
  · intro accepted
    simp only [normalizeDirectRtspUrl] at accepted
    split at accepted
    · cases accepted
    · split at accepted
      · cases accepted
      · rename_i complete
        split at accepted
        · cases accepted
        · rename_i printable
          rw [Bool.or_eq_true, not_or, decide_eq_true_eq, Bool.not_eq_true, List.any_eq_false]
            at printable
          have isEntered : Entered (strip value).toList := by
            refine ⟨not_not.mp complete, fun character member => ⟨?_, ?_⟩⟩
            · rintro rfl
              exact printable.1 member
            · have seen := printable.2 character member
              simp only [Bool.or_eq_true, decide_eq_true_eq, not_or, not_lt] at seen
              exact seen
          split at accepted
          · cases accepted
          · rename_i parsed splits
            split at accepted
            · cases accepted
            · rename_i port isPort
              exact ⟨isEntered, parsed, port, splits, isPort, normalizeParsed_eq_ok.mp accepted⟩
  · rintro ⟨isEntered, parsed, port, splits, isPort, checked⟩
    have nonempty : (strip value).toList ≠ [] := by
      intro empty
      have short := isEntered.complete.length_le
      rw [empty] at short
      exact absurd short (by decide)
    have noBackslash : '\\' ∉ (strip value).toList :=
      fun member => (isEntered.printable _ member).1 rfl
    have printable : ((strip value).toList.any fun character =>
        character.toNat < 32 || character.toNat = 127) = false := by
      rw [List.any_eq_false]
      intro character member
      have seen := (isEntered.printable character member).2
      simp only [Bool.or_eq_true, decide_eq_true_eq, not_or, not_lt]
      exact seen
    simp only [normalizeDirectRtspUrl, if_neg nonempty, not_true_eq_false, isEntered.complete,
      if_false, noBackslash, printable, splits, isPort, decide_false, Bool.or_false,
      Bool.false_eq_true]
    exact normalizeParsed_eq_ok.mpr checked

end

/-! What is left of the entered text at its end. -/

/-- The part that ends the URL. -/
def sourceEnd (url : SplitUrl) : List Char := if url.query = [] then url.path else url.query

def EndsInText (url : SplitUrl) : Prop :=
  ∀ character ∈ (sourceEnd url).getLast?, isSpace character = false

instance (url : SplitUrl) : Decidable (EndsInText url) :=
  inferInstanceAs (Decidable (∀ character ∈ (sourceEnd url).getLast?, isSpace character = false))

theorem endsInText_sourceBase (parsed : SplitUrl) :
    EndsInText (sourceBase parsed) ↔ EndsInText parsed := by
  rw [EndsInText, EndsInText, sourceEnd, sourceEnd, sourceBase]
  by_cases unqueried : parsed.query = []
  · rw [if_pos unqueried, if_pos unqueried]
    by_cases empty : parsed.path = []
    · rw [if_pos empty, empty]
      have slash : ∀ character ∈ (['/'] : List Char).getLast?, isSpace character = false := by
        decide
      exact iff_of_true slash nofun
    · rw [if_neg empty]
  · rw [if_neg unqueried, if_neg unqueried]

/-- Without a fragment and an empty query, the part is the end of the text. -/
theorem urlsplit_ends {text : List Char} {url : SplitUrl} (splits : urlsplit text = some url)
    (isEntered : Entered text) (unhashed : '#' ∉ text) (queried : '?' ∈ text → url.query ≠ [])
    (ends : ∀ character ∈ text.getLast?, isSpace character = false) : EndsInText url := by
  have cleaned : cleanUrl text <:+ text := by
    have kept : (text.dropWhile fun character => character.toNat ≤ 32).filter
        (fun character => character ∉ ['\t', '\r', '\n']) =
          text.dropWhile fun character => character.toNat ≤ 32 := by
      apply List.filter_eq_self.mpr
      intro character member
      have low := (isEntered.printable character
        ((List.dropWhile_sublist _).subset member)).2.1
      have controls : ∀ other ∈ ['\t', '\r', '\n'], other.toNat < 32 := by decide
      rw [decide_eq_true_eq]
      intro listed
      have := controls character listed
      omega
    rw [cleanUrl, kept]
    exact List.dropWhile_suffix _
  have inText := urlsplit_suffix splits fun member => unhashed (cleaned.subset member)
  have inEnd : sourceEnd url <:+ text := by
    rw [sourceEnd]
    split
    · rename_i unqueried
      exact (inText.2 fun member => queried (cleaned.subset member) unqueried).trans cleaned
    · exact inText.1.trans cleaned
  intro character isLast
  obtain ⟨start, isText⟩ := inEnd
  apply ends
  rw [← isText, List.getLast?_append, Option.mem_def.mp isLast]
  rfl

/-! A source that is written again. -/

theorem located_text {base : SplitUrl} (isBase : SourceBase base) (host : List Char)
    (port : Option Nat) :
    urlunsplit (locatedAt base host port) = "rtsp://".toList ++ (authority host port ++
      (base.path ++ if base.query = [] then [] else '?' :: base.query)) := by
  have path : ¬ (base.path ≠ [] ∧ base.path.head? ≠ some '/') := by
    rintro ⟨_, start⟩
    rcases isBase.canonical.path with empty | slash
    · exact isBase.path empty
    · exact start slash
  simp only [urlunsplit, locatedAt, isBase.scheme, isBase.fragment, if_neg path]
  simp

theorem located_end {base : SplitUrl} (isBase : SourceBase base) (host : List Char)
    (port : Option Nat) :
    ∃ start, urlunsplit (locatedAt base host port) = 'r' :: (start ++ sourceEnd base) := by
  rw [located_text isBase, sourceEnd]
  by_cases unqueried : base.query = []
  · refine ⟨"tsp://".toList ++ authority host port, ?_⟩
    rw [if_pos unqueried, if_pos unqueried]
    simp
  · refine ⟨"tsp://".toList ++ (authority host port ++ (base.path ++ ['?'])), ?_⟩
    rw [if_neg unqueried, if_neg unqueried]
    simp

theorem located_character {base : SplitUrl} (isBase : SourceBase base) {host : List Char}
    (isHost : PlainHost host) {port : Option Nat} {character : Char}
    (member : character ∈ urlunsplit (locatedAt base host port)) :
    HostCharacter character ∨ character ∈ [':', '/'] ∨ character ∈ base.path ∨
      (base.query ≠ [] ∧ (character = '?' ∨ character ∈ base.query)) := by
  rw [located_text isBase, List.mem_append, List.mem_append, List.mem_append] at member
  rcases member with inScheme | inAuthority | inPath | inQuery
  · have known : ∀ other ∈ "rtsp://".toList,
        isLabelCharacter other = true ∨ other ∈ [':', '/'] := by decide
    rcases known character inScheme with isLabel | listed
    · exact .inl (hostCharacter_label isLabel)
    · exact .inr (.inl listed)
  · rcases authority_character inAuthority with inHost | ⟨_, colon⟩ | inPort
    · exact .inl (isHost.characters character inHost)
    · exact absurd colon (isHost.absent (by decide))
    · rcases portText_chars inPort with rfl | digit
      · exact .inr (.inl (by decide))
      · exact .inl (hostCharacter_digit digit)
  · exact .inr (.inr (.inl inPath))
  · right; right; right
    split at inQuery
    · cases inQuery
    · rename_i queried
      exact ⟨queried, List.mem_cons.mp inQuery⟩

theorem located_unhashed {base : SplitUrl} (isBase : SourceBase base) {host : List Char}
    (isHost : PlainHost host) (port : Option Nat) :
    '#' ∉ urlunsplit (locatedAt base host port) := by
  intro member
  rcases located_character isBase isHost member with isCharacter | listed | inPath | ⟨_, inQuery⟩
  · exact isCharacter.plain (by decide)
  · exact absurd listed (by decide)
  · exact isBase.canonical.pathEnd.2 inPath
  · rcases inQuery with same | inQuery
    · exact absurd same (by decide)
    · exact isBase.canonical.queryEnd inQuery

theorem located_queried {base : SplitUrl} (isBase : SourceBase base) {host : List Char}
    (isHost : PlainHost host) (port : Option Nat)
    (member : '?' ∈ urlunsplit (locatedAt base host port)) : base.query ≠ [] := by
  rcases located_character isBase isHost member with isCharacter | listed | inPath | ⟨queried, _⟩
  · exact absurd (by decide) isCharacter.plain
  · exact absurd listed (by decide)
  · exact absurd inPath isBase.canonical.pathEnd.1
  · exact queried

theorem located_entered {base : SplitUrl} (isBase : SourceBase base) {host : List Char}
    (isHost : PlainHost host) (port : Option Nat)
    (printable : ∀ character, character ∈ base.path ∨ character ∈ base.query →
      character ≠ '\\' ∧ 32 ≤ character.toNat ∧ character.toNat ≠ 127) :
    Entered (urlunsplit (locatedAt base host port)) := by
  constructor
  · rw [located_text isBase]
    exact ⟨"rtsp".toList, authority host port ++
      (base.path ++ if base.query = [] then [] else '?' :: base.query), by simp⟩
  · intro character member
    rcases located_character isBase isHost member with
      isCharacter | listed | inPath | ⟨_, rfl | inQuery⟩
    · refine ⟨?_, by have := isCharacter.printable; omega, isCharacter.printable.2⟩
      rintro rfl
      exact isCharacter.plain (by decide)
    · have known : ∀ other ∈ [':', '/'],
          other ≠ '\\' ∧ 32 ≤ other.toNat ∧ other.toNat ≠ 127 := by decide
      exact known character listed
    · exact printable character (.inl inPath)
    · decide
    · exact printable character (.inr inQuery)

/-- Stripping keeps a source that ends in text. -/
theorem strip_located {base : SplitUrl} (isBase : SourceBase base) (host : List Char)
    (port : Option Nat) (ends : EndsInText base) :
    strip (locatedText base host port) = locatedText base host port := by
  obtain ⟨start, isText⟩ := located_end isBase host port
  have someEnd : sourceEnd base ≠ [] := by
    rw [sourceEnd]
    split
    · exact isBase.path
    · assumption
  apply strip_eq_self
  · intro character isFirst
    rw [locatedText, String.toList_ofList, isText] at isFirst
    obtain rfl : 'r' = character := Option.some.inj isFirst
    decide
  · intro character isLast
    apply ends
    rw [locatedText, String.toList_ofList, isText, List.getLast?_cons,
      List.getLast?_append] at isLast
    cases isEnd : (sourceEnd base).getLast? with
    | none => exact absurd (List.getLast?_eq_none_iff.mp isEnd) someEnd
    | some last =>
        rw [isEnd] at isLast
        exact isLast

section
variable [TextCase] [CharacterCase]

theorem directHost_plain {host : List Char} (isHost : PlainHost host) : directHost host = host := by
  rw [directHost, isHost.lowerChars, if_neg isHost.ends]

theorem located_checked {base : SplitUrl} (isBase : SourceBase base) {host : List Char}
    (isHost : PlainHost host) {port : Option Nat} (nonzero : port ≠ some 0)
    (bound : ∀ number ∈ port, number ≤ 65535) {hosts : DirectHosts}
    (valid : validateDirectRtspHost hosts host = .ok ()) :
    Checked hosts (locatedAt base host port) port := by
  obtain ⟨_, isName, _⟩ := located_split isBase isHost.readAs nonzero bound
  have name : (locatedAt base host port).hostname.getD [] = host := by rw [isName]; rfl
  have same := directHost_plain isHost
  have plain : '@' ∉ authority host port := by
    have whole := hostAndPort_location isHost.text infoText_nil port
    rw [List.nil_append] at whole
    rw [← whole]
    exact hostAndPort_plain _
  have uncut : cutLast '@' (locatedAt base host port).netloc = none := cutLast_eq_none.mpr plain
  refine ⟨?_, ?_, ?_, ?_, isBase.fragment, ?_, ?_, ?_, ?_⟩
  · exact (congrArg lowerChars isBase.scheme).trans lowerChars_rtsp
  · rw [name]
    exact isHost.nonempty
  · rw [SplitUrl.username, uncut]
    rfl
  · rw [SplitUrl.password, uncut]
    rfl
  · rw [← sourcePort_getD, sourcePort_eq nonzero]
    cases port with
    | none => exact ⟨by decide, by decide⟩
    | some number =>
        have small := bound number rfl
        have positive : number ≠ 0 := fun zero => nonzero (by rw [zero])
        exact ⟨Nat.pos_of_ne_zero positive, small⟩
  · rw [name, same, List.all_eq_true]
    exact fun character member => decide_eq_true (isHost.characters character member).ascii
  · rw [name, same]
    exact isHost.nonempty
  · rw [name, same]
    exact valid

/-- A source that ends in text is accepted again as it is. -/
theorem located_again {base : SplitUrl} (isBase : SourceBase base) {host : List Char}
    (isHost : PlainHost host) {port : Option Nat} (nonzero : port ≠ some 0)
    (bound : ∀ number ∈ port, number ≤ 65535) {hosts : DirectHosts}
    (valid : validateDirectRtspHost hosts host = .ok ())
    (printable : ∀ character, character ∈ base.path ∨ character ∈ base.query →
      character ≠ '\\' ∧ 32 ≤ character.toNat ∧ character.toNat ≠ 127)
    (ends : EndsInText base) :
    normalizeDirectRtspUrl hosts (locatedText base host port) =
      .ok (locatedSource base host port) := by
  obtain ⟨splits, isName, isPort⟩ := located_split isBase isHost.readAs nonzero bound
  have sameText : (strip (locatedText base host port)).toList =
      urlunsplit (locatedAt base host port) := by
    rw [strip_located isBase host port ends, locatedText, String.toList_ofList]
  have name : (locatedAt base host port).hostname.getD [] = host := by rw [isName]; rfl
  apply normalizeDirectRtspUrl_eq_ok.mpr
  rw [sameText]
  refine ⟨located_entered isBase isHost port printable, _, port, splits, isPort,
    located_checked isBase isHost nonzero bound valid, ?_⟩
  rw [name, directHost_plain isHost, builtSource_located isHost, sourcePort_eq nonzero]
  have sameBase : locatedAt (sourceBase (locatedAt base host port)) host port =
      locatedAt base host port := by
    simp only [locatedAt, sourceBase, if_neg isBase.path, isBase.scheme, isBase.fragment]
  have samePath : (sourceBase (locatedAt base host port)).path = base.path :=
    if_neg isBase.path
  simp only [locatedSource, locatedText, sameBase, samePath]
  rfl

attribute [local instance] parsedUrls

omit [CharacterCase] in
theorem unsplit_located {base : SplitUrl} (isBase : SourceBase base) (host : String)
    (port : Option Nat) :
    UrlText.unsplit {
      scheme := some "rtsp"
      host := some host
      port := port
      path := some (String.ofList base.path)
      query := some (String.ofList base.query) } = locatedText base host.toList port := by
  simp only [UrlText.unsplit, textOf, Option.getD_some, String.toList_ofList, locatedText,
    locatedAt, isBase.scheme, isBase.fragment]

omit [CharacterCase] in
/-- Only the host of a source is replaced. -/
theorem located_replaced {base : SplitUrl} (isBase : SourceBase base) {host lowered : List Char}
    (isHost : ReadAs host lowered) {port : Option Nat} (nonzero : port ≠ some 0)
    (bound : ∀ number ∈ port, number ≤ 65535) (address : String) :
    replaceHost (locatedText base host port) address =
      some (locatedText base address.toList port) := by
  rw [replaceHost, located_parts isBase isHost nonzero bound, Option.map_some]
  exact congrArg some (unsplit_located isBase address port)

omit [CharacterCase] in
/-- The columns of a source are put together to the same source. -/
theorem located_stored {base : SplitUrl} (isBase : SourceBase base) {host : List Char}
    (isHost : ReadAs host host) {port : Option Nat} (nonzero : port ≠ some 0)
    (bound : ∀ number ∈ port, number ≤ 65535) :
    ∃ parts, sourceParts (some (locatedText base host port)) = some parts ∧
      ∀ profile : ProfileRow, profile.source = parts →
        sourceUri profile = locatedText base host port := by
  have someText : locatedText base host port ≠ "" := by
    intro empty
    obtain ⟨start, isText⟩ := located_end isBase host port
    have same := congrArg String.toList empty
    rw [locatedText, String.toList_ofList, isText] at same
    cases same
  have someHost : String.ofList host ≠ "" := by
    intro empty
    have same := congrArg String.toList empty
    rw [String.toList_ofList] at same
    exact isHost.nonempty same
  have parts : sourceParts (some (locatedText base host port)) = some {
      scheme := some "rtsp"
      host := some (String.ofList host)
      port := port
      path := some (String.ofList base.path)
      query := some (String.ofList base.query) } := by
    rw [sourceParts]
    exact (if_neg someText).trans (located_parts isBase isHost nonzero bound)
  refine ⟨_, parts, fun profile isSource => ?_⟩
  rw [sourceUri, isSource, if_pos (by simpa using someHost), unsplit_located isBase,
    String.toList_ofList]

/-- A source keeps its identity: it is accepted again as it is, it has the key it was accepted
with, which its columns have too, and every address can take the place of its host and give it
back. -/
structure SourceIdentityKept (hosts : DirectHosts) (source : DirectSource) : Prop where
  again : ∃ second, normalizeDirectRtspUrl hosts source.normalized = .ok second ∧
    second.normalized = source.normalized
  key : rtspSourceKey source.normalized = some source.key
  stored : ∃ parts, sourceParts (some source.normalized) = some parts ∧
    ∀ profile : ProfileRow, profile.source = parts →
      rtspSourceKey (sourceUri profile) = rtspSourceKey source.normalized
  moved : ∀ address : String, IsAddress address.toList →
    ∃ movedTo, replaceHost source.normalized address = some movedTo ∧
      rtspSourceKey movedTo = some { source.key with
        host := String.ofList (address.toList.map Char.toLower) } ∧
      ∃ back, replaceHost movedTo source.host = some back ∧ rtspSourceKey back = some source.key

/-- What an accepted URL is divided into. -/
theorem checked_located {hosts : DirectHosts} {text : List Char} {parsed : SplitUrl}
    {port : Option Nat} (splits : urlsplit text = some parsed) (isPort : parsed.port = some port)
    (checked : Checked hosts parsed port) :
    SourceBase (sourceBase parsed) ∧ PlainHost (directHost (parsed.hostname.getD [])) ∧
      ∀ number ∈ sourcePort port, number ≤ 65535 := by
  have isHost := validateDirectRtspHost_plain checked.nonempty checked.valid
  have someScheme : parsed.scheme ≠ [] := by
    intro empty
    have isRtsp := checked.scheme
    rw [empty, lowerChars_ascii (by decide)] at isRtsp
    exact absurd isRtsp (by decide)
  have located : parsed.netloc ≠ [] := by
    intro empty
    apply checked.hostname
    rw [SplitUrl.hostname, empty]
    rfl
  obtain ⟨canonical, _⟩ := urlsplit_canonical splits someScheme located
  have schemeStart : "rtsp".toList.head?.any isAsciiAlpha = true := by decide
  have schemeRest : "rtsp".toList.all isSchemeCharacter = true := by decide
  have schemeCase : "rtsp".toList.map Char.toLower = "rtsp".toList := by decide
  refine ⟨⟨⟨schemeStart, schemeRest, schemeCase, canonical.netloc, ?_, ?_, canonical.queryEnd,
    ?_⟩, rfl, ?_, rfl⟩, isHost, ?_⟩
  · by_cases empty : parsed.path = []
    · exact .inr (by simp [sourceBase, empty])
    · exact .inr (by simpa [sourceBase, empty] using canonical.path)
  · by_cases empty : parsed.path = []
    · simp [sourceBase, empty]
    · simpa [sourceBase, empty] using canonical.pathEnd
  · intro character member
    rcases member with inNetloc | inPath | inQuery | inFragment
    · exact canonical.clean character (.inl inNetloc)
    · by_cases empty : parsed.path = []
      · rw [sourceBase, if_pos empty, List.mem_singleton] at inPath
        rw [inPath]
        decide
      · rw [sourceBase, if_neg empty] at inPath
        exact canonical.clean character (.inr (.inl inPath))
    · exact canonical.clean character (.inr (.inr (.inl inQuery)))
    · cases inFragment
  · by_cases empty : parsed.path = []
    · simp [sourceBase, empty]
    · simp [sourceBase, empty]
  · intro number isNumber
    cases port with
    | none => cases isNumber
    | some written =>
        obtain rfl : directPort (some written) = number := Option.some.inj isNumber
        exact checked.port.2

/-- A source that is accepted again as it is ends in text. -/
theorem ends_of_again {base : SplitUrl} (isBase : SourceBase base) {host : List Char}
    (isHost : PlainHost host) {port : Option Nat} (nonzero : port ≠ some 0)
    (bound : ∀ number ∈ port, number ≤ 65535) {hosts : DirectHosts} {second : DirectSource}
    (accepted : normalizeDirectRtspUrl hosts (locatedText base host port) = .ok second)
    (same : second.normalized = locatedText base host port) : EndsInText base := by
  obtain ⟨isEntered, parsed, parsedPort, splits, isPort, checked, rfl⟩ :=
    normalizeDirectRtspUrl_eq_ok.mp accepted
  obtain ⟨secondBase, secondHost, secondBound⟩ := checked_located splits isPort checked
  rw [builtSource_located secondHost] at same
  have sameSplit : locatedAt (sourceBase parsed) (directHost (parsed.hostname.getD []))
      (sourcePort parsedPort) = locatedAt base host port := by
    have sameText := congrArg (fun text : String => urlsplit text.toList) same
    simp only [locatedSource, locatedText, String.toList_ofList,
      (located_split secondBase secondHost.readAs (sourcePort_nonzero parsedPort) secondBound).1,
      (located_split isBase isHost.readAs nonzero bound).1] at sameText
    exact Option.some.inj sameText
  have samePath : (sourceBase parsed).path = base.path := by
    have inSplit := congrArg SplitUrl.path sameSplit
    exact inSplit
  have sameQuery : parsed.query = base.query := by
    have inSplit := congrArg SplitUrl.query sameSplit
    exact inSplit
  have subset : (strip (locatedText base host port)).toList ⊆
      urlunsplit (locatedAt base host port) := by
    have inText := strip_subset (locatedText base host port)
    rwa [locatedText, String.toList_ofList] at inText
  have ends : EndsInText parsed := by
    apply urlsplit_ends splits isEntered
    · exact fun member => located_unhashed isBase isHost port (subset member)
    · intro member
      rw [sameQuery]
      exact located_queried isBase isHost port (subset member)
    · exact strip_last _
  have endsBase := (endsInText_sourceBase parsed).mpr ends
  rw [EndsInText, sourceEnd, samePath, show (sourceBase parsed).query = base.query from sameQuery]
    at endsBase
  exact endsBase

/-- An accepted source keeps its identity exactly if no white space ends its query, or its path
where there is no query. -/
theorem source_identity_kept_iff {hosts : DirectHosts} {value : String} {source : DirectSource}
    {parsed : SplitUrl} (splits : urlsplit (strip value).toList = some parsed)
    (accepted : normalizeDirectRtspUrl hosts value = .ok source) :
    SourceIdentityKept hosts source ↔ EndsInText parsed := by
  obtain ⟨isEntered, other, port, otherSplits, isPort, checked, rfl⟩ :=
    normalizeDirectRtspUrl_eq_ok.mp accepted
  obtain rfl : parsed = other := Option.some.inj (splits.symm.trans otherSplits)
  obtain ⟨isBase, isHost, bound⟩ := checked_located splits isPort checked
  have nonzero := sourcePort_nonzero port
  have isRead := isHost.readAs
  rw [builtSource_located isHost]
  constructor
  · intro kept
    obtain ⟨second, again, same⟩ := kept.again
    exact (endsInText_sourceBase parsed).mp
      (ends_of_again isBase isHost nonzero bound again same)
  · intro ends
    have printable : ∀ character,
        character ∈ (sourceBase parsed).path ∨ character ∈ (sourceBase parsed).query →
          character ≠ '\\' ∧ 32 ≤ character.toNat ∧ character.toNat ≠ 127 := by
      obtain ⟨inPath, inQuery⟩ := urlsplit_subset splits
      rintro character (member | member)
      · by_cases empty : parsed.path = []
        · rw [sourceBase, if_pos empty, List.mem_singleton] at member
          rw [member]
          decide
        · rw [sourceBase, if_neg empty] at member
          exact isEntered.printable character (inPath member)
      · exact isEntered.printable character (inQuery member)
    refine ⟨⟨_, located_again isBase isHost nonzero bound checked.valid printable
      ((endsInText_sourceBase parsed).mpr ends), rfl⟩, ?_, ?_, ?_⟩
    · exact located_key isBase isRead nonzero bound
    · obtain ⟨parts, isParts, rebuilt⟩ := located_stored isBase isRead nonzero bound
      exact ⟨parts, isParts, fun profile isSource => congrArg _ (rebuilt profile isSource)⟩
    · intro address isAddress
      have atAddress := readAs_address isAddress
      refine ⟨_, located_replaced isBase isRead nonzero bound address,
        located_key isBase atAddress nonzero bound, _,
        located_replaced isBase atAddress nonzero bound _, ?_⟩
      have name : (String.ofList (directHost (parsed.hostname.getD []))).toList =
          directHost (parsed.hostname.getD []) := String.toList_ofList
      exact (congrArg _ (congrArg (locatedText _ · _) name)).trans
        (located_key isBase isRead nonzero bound)

end

def unresolvedHosts : DirectHosts := { interfaces := [], resolve := fun _ => .failed }

def enteredParts : SplitUrl where
  scheme := "rtsp".toList
  netloc := "192.168.1.20.:0".toList
  path := "/Main".toList
  query := "channel=1".toList
  fragment := []

/-- A source entered with a dot after its host, a port of zero and an empty fragment. -/
theorem entered_source_kept :
    letI := asciiCase
    SourceIdentityKept unresolvedHosts {
      normalized := "rtsp://192.168.1.20:554/Main?channel=1"
      key := { host := "192.168.1.20", port := 554, path := "/Main", query := "channel=1" }
      host := "192.168.1.20" } := by
  let _ := asciiCase
  have lawful := asciiCase_characters
  have splits : urlsplit (strip " RTSP://192.168.1.20.:0/Main?channel=1# ").toList =
      some enteredParts := by decide +kernel
  exact (source_identity_kept_iff splits (by decide +kernel)).mpr (by decide +kernel)

/-- White space in front of an empty query is kept at the end of the source, where it is stripped
the next time. -/
theorem spaced_source_changed :
    ¬ ∀ (_ : TextCase) (_ : CharacterCase) (hosts : DirectHosts) (value : String)
      (source : DirectSource), normalizeDirectRtspUrl hosts value = .ok source →
        SourceIdentityKept hosts source := by
  let _ := asciiCase
  intro always
  have accepted : normalizeDirectRtspUrl unresolvedHosts "rtsp://192.168.1.20/main ?" = .ok {
      normalized := "rtsp://192.168.1.20/main "
      key := { host := "192.168.1.20", port := 554, path := "/main ", query := "" }
      host := "192.168.1.20" } := by decide +kernel
  obtain ⟨second, again, same⟩ :=
    (always asciiCase asciiCase_characters unresolvedHosts _ _ accepted).again
  have stripped : normalizeDirectRtspUrl unresolvedHosts "rtsp://192.168.1.20/main " = .ok {
      normalized := "rtsp://192.168.1.20/main"
      key := { host := "192.168.1.20", port := 554, path := "/main", query := "" }
      host := "192.168.1.20" } := by decide +kernel
  rw [stripped] at again
  rw [← Except.ok.inj again] at same
  exact absurd same (by decide)

end CamAdmiral
