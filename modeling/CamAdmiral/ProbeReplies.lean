import CamAdmiral.LanScan
import CamAdmiral.PartialFold
import CamAdmiral.TargetedMerge
import CamAdmiral.UrlQuote
import Mathlib.Data.List.Infix

/-!
The replies to a WS-Discovery probe. The scopes of a reply are URLs a device chose freely, and
one of them that cannot be split ends the collection of all replies.
-/

namespace CamAdmiral

/-! XML elements, as `xml.etree.ElementTree` gives them. -/

inductive XmlElement where
  | element (tag : String) (text : Option String) (children : List XmlElement)
  deriving Repr

def XmlElement.tag : XmlElement → String
  | .element tag _ _ => tag

def XmlElement.text : XmlElement → Option String
  | .element _ text _ => text

mutual

/-- The element and what is below it, in document order. -/
def XmlElement.iter : XmlElement → List XmlElement
  | .element tag text children => .element tag text children :: XmlElement.iterAll children

def XmlElement.iterAll : List XmlElement → List XmlElement
  | [] => []
  | child :: rest => child.iter ++ XmlElement.iterAll rest

end

/-- What `fromstring` makes of the bytes of a reply: an element, a `ParseError`, or the error
that an encoding raises which it does not read. -/
inductive Payload
  | tree (root : XmlElement)
  | malformed
  | undecodable
  deriving Repr

/-! Parsing one reply. -/

def localName (tag : String) : List Char :=
  match cutLast '}' tag.toList with
  | some parts => parts.2
  | none => tag.toList

def elementText (element : XmlElement) (name : String) : String :=
  let holder := element.iter.find? fun child =>
    localName child.tag = name.toList && textOf child.text ≠ ""
  (holder.map fun child => strip (textOf child.text)).getD ""

/-- `str.split()`. -/
def splitWords (text : String) : List String :=
  ((text.toList.splitOnP isSpace).filter (· ≠ [])).map String.ofList

def containsText (text part : String) : Bool := decide (part.toList <:+: text.toList)

def endsWith (text ending : String) : Bool := ending.toList.isSuffixOf text.toList

structure ScopeMetadata where
  name : Option String := none
  hardware : Option String := none
  deriving DecidableEq, Repr

section
variable [TextCase]

/-- `none` is the `ValueError` of `urlsplit`. -/
def scopeMetadataStep (metadata : ScopeMetadata) (scope : String) : Option ScopeMetadata := do
  let parsed ← urlsplit scope.toList
  let parts := ((parsed.path.splitOn '/').filter (· ≠ [])).map fun part =>
    String.ofList (unquote part)
  match parts.reverse with
  | last :: previous :: _ =>
      let key := TextCase.lower previous
      let value := strip last
      if value = "" then some metadata
      else if key = "name" then some { metadata with name := metadata.name <|> some value }
      else if key = "hardware" then
        some { metadata with hardware := metadata.hardware <|> some value }
      else some metadata
  | _ => some metadata

def scopeMetadata (scopes : List String) : Option ScopeMetadata :=
  scopes.foldlM scopeMetadataStep {}

def isProbeMatch (element : XmlElement) : Bool :=
  decide (localName element.tag = "ProbeMatch".toList)

/-- A location is private and not kept. -/
def probeScopes (element : XmlElement) : List String :=
  (splitWords (elementText element "Scopes")).filter fun scope =>
    !containsText (TextCase.lower scope) "/location/"

def probeMatch (element : XmlElement) : Option Onvif :=
  (scopeMetadata (probeScopes element)).map fun metadata =>
    { endpointReference := orNone (elementText element "Address")
      serviceUrls := sortedUnion (splitWords (elementText element "XAddrs")) []
      scopes := probeScopes element
      types := splitWords (elementText element "Types")
      name := metadata.name
      model := metadata.hardware }

/-- The matches with the address of the sender; `none` is an exception. -/
def parseProbeMatches (payload : Payload) (sender : String) : Option (List (String × Onvif)) :=
  match payload with
  | .tree root => (root.iter.filter isProbeMatch).mapM fun element =>
      (probeMatch element).map fun onvif => (sender, onvif)
  | .malformed => some []
  | .undecodable => none

def isOnvifCamera (onvif : Onvif) : Bool :=
  ((onvif.types.map TextCase.lower).any fun value =>
      endsWith value ":networkvideotransmitter" || value = "tds:device") ||
    ((onvif.scopes.map TextCase.lower).any fun value =>
      startsWith value "onvif://www.onvif.org/") ||
    (onvif.serviceUrls.map TextCase.lower).any fun value => containsText value "/onvif/"

/-! Collecting the replies of one interface. -/

structure Reply where
  payload : Payload
  sender : String
  deriving Repr

def matchKey (found : String × Onvif) : String := found.2.endpointReference.getD found.1

def joinedMatch (existing found : String × Onvif) : String × Onvif :=
  (existing.1, { existing.2 with
    serviceUrls := sortedUnion existing.2.serviceUrls found.2.serviceUrls
    scopes := sortedUnion existing.2.scopes found.2.scopes
    types := sortedUnion existing.2.types found.2.types })

def learnMatch (discovered : List (String × String × Onvif)) (found : String × Onvif) :
    List (String × String × Onvif) :=
  if isOnvifCamera found.2 then
    match discovered.lookup (matchKey found) with
    | none => setKey discovered (matchKey found) found
    | some existing => setKey discovered (matchKey found) (joinedMatch existing found)
  else
    discovered

def receiveReply (discovered : List (String × String × Onvif)) (reply : Reply) :
    Option (List (String × String × Onvif)) :=
  (parseProbeMatches reply.payload reply.sender).map (·.foldl learnMatch discovered)

/-- The replies are those that came before the deadline. -/
def discoverOnvif (replies : List Reply) : Option (List (String × Onvif)) :=
  (replies.foldlM receiveReply []).map fun discovered =>
    addressOrder Prod.fst (discovered.map Prod.snd)

/-! When a reply is parsed. -/

/-- The scopes of every match in the element, locations apart, can be split. -/
def ScopesReadable (root : XmlElement) : Prop :=
  ∀ element ∈ root.iter, isProbeMatch element = true →
    ∀ scope ∈ probeScopes element, LocationReadable scope.toList

def Payload.Readable : Payload → Prop
  | .tree root => ScopesReadable root
  | .malformed => True
  | .undecodable => False

theorem scopeMetadataStep_isSome (metadata : ScopeMetadata) (scope : String) :
    (scopeMetadataStep metadata scope).isSome = true ↔ LocationReadable scope.toList := by
  rw [← urlsplit_isSome]
  cases splits : urlsplit scope.toList with
  | none => simp [scopeMetadataStep, splits]
  | some parsed =>
      simp only [scopeMetadataStep, splits, Option.bind_eq_bind, Option.bind_some,
        Option.isSome_some, iff_true]
      split
      · split_ifs <;> rfl
      · rfl

theorem probeMatch_isSome (element : XmlElement) : (probeMatch element).isSome = true ↔
    ∀ scope ∈ probeScopes element, LocationReadable scope.toList := by
  rw [probeMatch, Option.isSome_map, scopeMetadata, foldlM_isSome scopeMetadataStep_isSome]

theorem parseProbeMatches_isSome (payload : Payload) (sender : String) :
    (parseProbeMatches payload sender).isSome = true ↔ payload.Readable := by
  cases payload with
  | tree root =>
      simp only [parseProbeMatches, mapM_isSome, List.mem_filter, Option.isSome_map,
        probeMatch_isSome, Payload.Readable, ScopesReadable, and_imp]
  | malformed => simp [parseProbeMatches, Payload.Readable]
  | undecodable => simp [parseProbeMatches, Payload.Readable]

theorem receiveReply_isSome (discovered : List (String × String × Onvif)) (reply : Reply) :
    (receiveReply discovered reply).isSome = true ↔ reply.payload.Readable := by
  rw [receiveReply, Option.isSome_map, parseProbeMatches_isSome]

theorem discoverOnvif_isSome (replies : List Reply) :
    (discoverOnvif replies).isSome = true ↔ ∀ reply ∈ replies, reply.payload.Readable := by
  rw [discoverOnvif, Option.isSome_map, foldlM_isSome receiveReply_isSome]

end

/-! What is returned of a match. -/

/-- The entry is kept under the key of the match and has its URLs, scopes and types. -/
structure Joins (existing found : String × Onvif) : Prop where
  key : matchKey existing = matchKey found
  serviceUrls : found.2.serviceUrls ⊆ existing.2.serviceUrls
  scopes : found.2.scopes ⊆ existing.2.scopes
  types : found.2.types ⊆ existing.2.types

theorem mem_sortedUnion {first second : List String} {text : String} :
    text ∈ sortedUnion first second ↔ text ∈ first ∨ text ∈ second := by
  rw [sortedUnion, List.mem_mergeSort, List.mem_dedup, List.mem_append]

theorem joinedMatch_keeps {existing earlier : String × Onvif} (found : String × Onvif)
    (joins : Joins existing earlier) : Joins (joinedMatch existing found) earlier := by
  refine ⟨joins.key, ?_, ?_, ?_⟩
  · intro url member
    exact mem_sortedUnion.mpr (.inl (joins.serviceUrls member))
  · intro scope member
    exact mem_sortedUnion.mpr (.inl (joins.scopes member))
  · intro type member
    exact mem_sortedUnion.mpr (.inl (joins.types member))

theorem joinedMatch_joins {existing found : String × Onvif}
    (same : matchKey existing = matchKey found) : Joins (joinedMatch existing found) found := by
  refine ⟨same, ?_, ?_, ?_⟩
  · intro url member
    exact mem_sortedUnion.mpr (.inr member)
  · intro scope member
    exact mem_sortedUnion.mpr (.inr member)
  · intro type member
    exact mem_sortedUnion.mpr (.inr member)

section
variable [TextCase]

/-- Every camera that a reply names is part of an entry. -/
def CamerasReturned (replies : List Reply) (returned : List (String × Onvif)) : Prop :=
  ∀ reply ∈ replies, ∀ parsed, parseProbeMatches reply.payload reply.sender = some parsed →
    ∀ found ∈ parsed, isOnvifCamera found.2 = true → ∃ existing ∈ returned, Joins existing found

/-- An entry is kept under its own key, and the earlier cameras are part of one. -/
structure Collected (earlier : List (String × Onvif))
    (discovered : List (String × String × Onvif)) : Prop where
  keyed : ∀ key existing, discovered.lookup key = some existing → matchKey existing = key
  cameras : ∀ found ∈ earlier, isOnvifCamera found.2 = true →
    ∃ existing, discovered.lookup (matchKey found) = some existing ∧ Joins existing found

theorem learnMatch_collected {earlier : List (String × Onvif)}
    {discovered : List (String × String × Onvif)} (collected : Collected earlier discovered)
    (found : String × Onvif) :
    Collected (earlier ++ [found]) (learnMatch discovered found) := by
  by_cases camera : isOnvifCamera found.2 = true
  · -- The entry that takes the place under the key of the match.
    obtain ⟨entry, learned, joins, keeps⟩ : ∃ entry,
        learnMatch discovered found = setKey discovered (matchKey found) entry ∧
        Joins entry found ∧ ∀ other, matchKey other = matchKey found →
          (∃ existing, discovered.lookup (matchKey other) = some existing ∧
            Joins existing other) → Joins entry other := by
      cases held : discovered.lookup (matchKey found) with
      | none =>
          refine ⟨found, by simp [learnMatch, camera, held],
            ⟨rfl, fun _ => id, fun _ => id, fun _ => id⟩, ?_⟩
          rintro other same ⟨existing, isHeld, _⟩
          rw [same, held] at isHeld
          cases isHeld
      | some existing =>
          refine ⟨joinedMatch existing found, by simp [learnMatch, camera, held],
            joinedMatch_joins (collected.keyed _ _ held), ?_⟩
          rintro other same ⟨kept, isHeld, joins⟩
          rw [same, held, Option.some.injEq] at isHeld
          subst isHeld
          exact joinedMatch_keeps found joins
    rw [learned]
    constructor
    · intro key existing isHeld
      rw [lookup_setKey] at isHeld
      split at isHeld
      · rename_i isKey
        obtain rfl := Option.some.inj isHeld
        rw [isKey, joins.key]
      · exact collected.keyed key existing isHeld
    · intro other member isCamera
      rw [lookup_setKey]
      by_cases same : matchKey other = matchKey found
      · rw [if_pos same]
        refine ⟨entry, rfl, ?_⟩
        rcases List.mem_append.mp member with before | last
        · exact keeps other same (collected.cameras other before isCamera)
        · rw [List.mem_singleton.mp last]
          exact joins
      · rw [if_neg same]
        rcases List.mem_append.mp member with before | last
        · exact collected.cameras other before isCamera
        · rw [List.mem_singleton.mp last] at same
          exact absurd rfl same
  · have unchanged : learnMatch discovered found = discovered := by
      rw [learnMatch, if_neg camera]
    rw [unchanged]
    refine ⟨collected.keyed, ?_⟩
    intro other member isCamera
    rcases List.mem_append.mp member with before | last
    · exact collected.cameras other before isCamera
    · rw [List.mem_singleton.mp last] at isCamera
      exact absurd isCamera camera

theorem learnMatches_collected {earlier : List (String × Onvif)}
    {discovered : List (String × String × Onvif)} (collected : Collected earlier discovered)
    (parsed : List (String × Onvif)) :
    Collected (earlier ++ parsed) (parsed.foldl learnMatch discovered) := by
  induction parsed generalizing earlier discovered with
  | nil =>
      rw [List.append_nil]
      exact collected
  | cons found rest ih =>
      have learned := ih (learnMatch_collected collected found)
      rwa [List.append_assoc, List.singleton_append] at learned

/-- The matches of the replies so far. -/
def parsedMatches (replies : List Reply) : List (String × Onvif) :=
  replies.flatMap fun reply => (parseProbeMatches reply.payload reply.sender).getD []

theorem discoverOnvif_returned {replies : List Reply} {returned : List (String × Onvif)}
    (returns : discoverOnvif replies = some returned) : CamerasReturned replies returned := by
  obtain ⟨discovered, received, rfl⟩ := Option.map_eq_some_iff.mp returns
  have collected : Collected (parsedMatches replies) discovered := by
    refine foldlM_invariant (fun earlier => Collected (parsedMatches earlier))
      ⟨by simp, by simp [parsedMatches]⟩ ?_ received
    intro earlier state reply reached held step
    obtain ⟨parsed, isParsed, rfl⟩ := Option.map_eq_some_iff.mp step
    have learned := learnMatches_collected held parsed
    simpa [parsedMatches, isParsed] using learned
  intro reply member parsed isParsed found isFound camera
  obtain ⟨existing, isHeld, joins⟩ := collected.cameras found
    (List.mem_flatMap.mpr ⟨reply, member, by rwa [isParsed]⟩) camera
  refine ⟨existing, ?_, joins⟩
  rw [addressOrder, List.mem_insertionSort, List.mem_map]
  exact ⟨(matchKey found, existing), mem_of_lookup isHeld, rfl⟩

/-- A reply is parsed exactly if its scopes can be split, and the cameras of all replies are
returned exactly if that holds of each reply. -/
theorem probe_replies_returned_iff :
    (∀ root sender, (∃ parsed, parseProbeMatches (.tree root) sender = some parsed) ↔
      ScopesReadable root) ∧
    ∀ replies, (∃ returned, discoverOnvif replies = some returned ∧
        CamerasReturned replies returned) ↔
      ∀ reply ∈ replies, reply.payload.Readable := by
  constructor
  · intro root sender
    rw [← Option.isSome_iff_exists]
    exact parseProbeMatches_isSome (.tree root) sender
  · intro replies
    rw [← discoverOnvif_isSome, Option.isSome_iff_exists]
    constructor
    · rintro ⟨returned, returns, _⟩
      exact ⟨returned, returns⟩
    · rintro ⟨returned, returns⟩
      exact ⟨returned, returns, discoverOnvif_returned returns⟩

end

/-! The reply of one device that loses those of the others. -/

def probeReply (address scopes : String) : XmlElement :=
  .element "Envelope" none [.element "ProbeMatch" none
    [.element "Address" (some address) [], .element "Types" (some "tds:Device") [],
      .element "Scopes" (some scopes) []]]

def unreadableReply : XmlElement := probeReply "urn:uuid:b" "onvif://[x/name/cam"

/-- A scope with an unbalanced bracket raises, and the reply of the other camera is lost. -/
theorem unreadable_scope_raises :
    (¬ ∀ (_ : TextCase) (root : XmlElement) (sender : String),
      ∃ parsed, parseProbeMatches (.tree root) sender = some parsed) ∧
    ¬ ∀ (_ : TextCase) (replies : List Reply),
      ∃ returned, discoverOnvif replies = some returned ∧ CamerasReturned replies returned := by
  let _ := asciiCase
  constructor
  · intro always
    obtain ⟨parsed, isParsed⟩ := always asciiCase unreadableReply "192.168.1.21"
    have raises : parseProbeMatches (.tree unreadableReply) "192.168.1.21" = none := by
      decide +kernel
    rw [raises] at isParsed
    cases isParsed
  · intro always
    let other : Reply := ⟨.tree (probeReply "urn:uuid:a" "onvif://cam/name/door"), "192.168.1.20"⟩
    obtain ⟨returned, returns, _⟩ :=
      always asciiCase [other, ⟨.tree unreadableReply, "192.168.1.21"⟩]
    have raises : discoverOnvif [other, ⟨.tree unreadableReply, "192.168.1.21"⟩] = none := by
      decide +kernel
    rw [raises] at returns
    cases returns

end CamAdmiral
