import CamAdmiral.UrlHost
import CamAdmiral.UrlQuote

/-!
Network locations put together from a host and a port, behind credentials or not. Brackets are
written around a host with a colon, a port is left out if it is absent or zero. What `urlsplit`
gave as a host is read back from such a location, unless it has a bracket and no colon.
-/

namespace CamAdmiral

def bracketed (host : List Char) : List Char := if ':' ∈ host then '[' :: host ++ [']'] else host

/-- A port is added unless it is absent or zero. -/
def portText (port : Option Nat) : List Char :=
  match port with
  | some number => if number = 0 then [] else ':' :: Nat.toDigits 10 number
  | none => []

def authority (host : List Char) (port : Option Nat) : List Char := bracketed host ++ portText port

/-- A host that can be written without its own brackets, or has a colon and gets them. -/
def Rewritable (host : List Char) : Prop := ':' ∈ host ∨ ('[' ∉ host ∧ ']' ∉ host)

/-! Parts of a network location. -/

theorem hostAndPort_append {location : List Char} (plain : '@' ∉ location) {info : List Char}
    (ends : info = [] ∨ ∃ user, info = user ++ ['@']) :
    hostAndPort (info ++ location) = location := by
  rcases ends with rfl | ⟨user, rfl⟩
  · rw [List.nil_append, hostAndPort, cutLast_eq_none.mpr plain]
  · have isCut : cutLast '@' (user ++ ['@'] ++ location) = some (user, location) :=
      cutLast_eq_some.mpr ⟨by simp, plain⟩
    rw [hostAndPort, isCut]

theorem hostAndPort_suffix (netloc : List Char) : hostAndPort netloc <:+ netloc := by
  rw [hostAndPort]
  split
  · rename_i parts isParts
    obtain ⟨isNetloc, _⟩ := cutLast_eq_some.mp isParts
    rw [isNetloc]
    exact (List.suffix_cons '@' _).trans (List.suffix_append _ _)
  · exact List.suffix_rfl

theorem hostAndPort_plain (netloc : List Char) : '@' ∉ hostAndPort netloc := by
  rw [hostAndPort]
  split
  · rename_i parts isParts
    exact (cutLast_eq_some.mp isParts).2
  · rename_i absent
    exact cutLast_eq_none.mp absent

/-- The port that is written. -/
def writtenPort (port : Option Nat) : Option Nat := port.filter (· ≠ 0)

theorem writtenPort_eq {port : Option Nat} : writtenPort port = port ↔ port ≠ some 0 := by
  rcases port with _ | _ | number
  · exact iff_of_true rfl nofun
  · exact iff_of_false nofun fun nonzero => nonzero rfl
  · exact iff_of_true rfl nofun

theorem portText_cases (port : Option Nat) :
    (portText port = [] ∧ writtenPort port = none) ∨
      ∃ number, port = some number ∧ writtenPort port = some number ∧
        portText port = ':' :: Nat.toDigits 10 number := by
  cases port with
  | none => exact .inl ⟨rfl, rfl⟩
  | some number =>
      cases number with
      | zero => exact .inl ⟨rfl, rfl⟩
      | succ number => exact .inr ⟨number + 1, rfl, rfl, rfl⟩

theorem portText_chars {port : Option Nat} {character : Char} (member : character ∈ portText port) :
    character = ':' ∨ 48 ≤ character.toNat ∧ character.toNat ≤ 57 := by
  rcases portText_cases port with ⟨empty, _⟩ | ⟨number, _, _, isText⟩
  · rw [empty] at member
    cases member
  · rw [isText] at member
    exact (List.mem_cons.mp member).imp id toDigits_digits

theorem portText_writtenPort (port : Option Nat) : portText (writtenPort port) = portText port := by
  rcases portText_cases port with ⟨empty, written⟩ | ⟨number, isPort, written, _⟩
  · rw [empty, written]
    rfl
  · rw [written, isPort]

theorem port_portText {port : Option Nat} (bound : ∀ number ∈ port, number ≤ 65535)
    {url : SplitUrl} (text : (hostinfo url.netloc).2 = (portText port).tail) :
    url.port = some (writtenPort port) := by
  rw [SplitUrl.port, text]
  rcases portText_cases port with ⟨empty, written⟩ | ⟨number, isPort, written, isText⟩
  · rw [empty, written]
    rfl
  · rw [isText, written, List.tail_cons]
    have small : number ≤ 65535 := bound number isPort
    simp [isDecimal_toDigits, decimal_toDigits, small]

theorem hostinfo_authority {host : List Char} (closing : ':' ∈ host → ']' ∉ host)
    (opening : ':' ∉ host → '[' ∉ host) {location : List Char} (port : Option Nat)
    (isLocation : hostAndPort location = authority host port) :
    hostinfo location = (host, (portText port).tail) := by
  have noBracket : '[' ∉ portText port := by
    intro member
    rcases portText_chars member with same | ⟨_, high⟩
    · exact absurd same (by decide)
    · exact absurd high (by decide)
  rw [hostinfo, isLocation, authority, bracketed]
  by_cases colon : ':' ∈ host
  · have isCut : cut '[' ('[' :: host ++ [']'] ++ portText port) =
        some ([], host ++ ']' :: portText port) := by
      have first := @cut_append '[' [] List.not_mem_nil (host ++ ']' :: portText port)
      simpa using first
    rw [if_pos colon, isCut]
    simp only [splitOnce_append (closing colon)]
    rcases portText_cases port with ⟨empty, _⟩ | ⟨number, _, _, isText⟩
    · rw [empty]
      rfl
    · have first := @splitOnce_append ':' [] List.not_mem_nil (Nat.toDigits 10 number)
      rw [List.nil_append] at first
      rw [isText, first, List.tail_cons]
  · have absent : '[' ∉ host ++ portText port := by
      rw [List.mem_append, not_or]
      exact ⟨opening colon, noBracket⟩
    rw [if_neg colon, cut_eq_none.mpr absent]
    rcases portText_cases port with ⟨empty, _⟩ | ⟨number, _, _, isText⟩
    · rw [empty, List.append_nil]
      exact splitOnce_absent colon
    · rw [isText, List.tail_cons]
      exact splitOnce_append colon _

theorem sourcePort_bound {url : SplitUrl} {port : Option Nat} (isPort : url.port = some port) :
    ∀ number ∈ port, number ≤ 65535 := by
  intro number isNumber
  obtain rfl : port = some number := isNumber
  simp only [SplitUrl.port] at isPort
  split at isPort
  · cases isPort
  · split at isPort
    · rename_i checked
      obtain rfl := Option.some.inj (Option.some.inj isPort)
      rw [Bool.and_eq_true, decide_eq_true_eq] at checked
      exact checked.2
    · cases isPort

theorem hostinfo_suffix (netloc : List Char) {character : Char}
    (member : character ∈ (hostinfo netloc).1) : character ∈ hostAndPort netloc := by
  rw [hostinfo] at member
  split at member
  · rename_i before bracketed isCut
    obtain ⟨isLocation, _⟩ := cut_eq_some.mp isCut
    rw [isLocation]
    exact List.mem_append_right _
      (List.mem_cons_of_mem _ ((splitOnce_first_start ']' bracketed).subset member))
  · exact (splitOnce_first_start ':' _).subset member

/-- The host that the network location holds, in brackets or in front of a colon. -/
theorem hostinfo_brackets {netloc : List Char} (readable : netlocReadable netloc = true) :
    (']' ∉ (hostinfo netloc).1 ∧ isBracketedHost (hostinfo netloc).1 = true) ∨
      (':' ∉ (hostinfo netloc).1 ∧ '[' ∉ (hostinfo netloc).1) := by
  rw [netlocReadable, Bool.and_eq_true] at readable
  have brackets := readable.1
  rw [hostinfo]
  cases isCut : cut '[' (hostAndPort netloc) with
  | none =>
      right
      exact ⟨splitOnce_first_absent ':' _,
        fun member => cut_eq_none.mp isCut ((splitOnce_first_start ':' _).subset member)⟩
  | some parts =>
      obtain ⟨before, bracketed⟩ := parts
      obtain ⟨isLocation, _⟩ := cut_eq_some.mp isCut
      have opened : '[' ∈ netloc := by
        apply (hostAndPort_suffix netloc).subset
        rw [isLocation]
        simp
      left
      refine ⟨splitOnce_first_absent ']' bracketed, ?_⟩
      rw [bracketsReadable] at brackets
      split at brackets
      · simp only [isCut, Bool.and_eq_true] at brackets
        have isHost := brackets.2
        change isBracketedHost (splitOnce ']' bracketed).1 = true
        rw [splitOnce]
        cases isClosed : cut ']' bracketed with
        | none =>
            rw [isClosed] at isHost
            exact isHost
        | some halves =>
            simp only [isClosed, Bool.and_eq_true] at isHost
            exact isHost.2
      · rw [Bool.and_eq_true, decide_eq_true_eq] at brackets
        exact absurd opened brackets.1

/-! The characters of a network location put together again. -/

/-- Nothing, or quoted credentials with the sign that ends them. -/
structure InfoText (info : List Char) : Prop where
  ends : info = [] ∨ ∃ user, info = user ++ ['@']
  plain : ∀ character ∈ info, isAlwaysSafe character = true ∨ character ∈ ['%', ':', '@']

theorem infoText_nil : InfoText [] := ⟨.inl rfl, fun _ member => absurd member List.not_mem_nil⟩

/-- What the characters of a network location put together again are not. -/
structure LocationCharacter (character : Char) : Prop where
  netloc : isNetlocEnd character = false
  clean : character ∉ ['\t', '\r', '\n']
  compat : character.toNat ∉ compatDelimiters

theorem locationCharacter_ascii {character : Char} (ascii : character.toNat < 128)
    (others : ∀ other ∈ ['/', '?', '#', '\t', '\r', '\n'], character ≠ other) :
    LocationCharacter character := by
  refine ⟨?_, ?_, ?_⟩
  · rw [isNetlocEnd, decide_eq_false_iff_not]
    intro listed
    have sub : ['/', '?', '#'] ⊆ ['/', '?', '#', '\t', '\r', '\n'] := by decide
    exact others character (sub listed) rfl
  · intro listed
    have sub : ['\t', '\r', '\n'] ⊆ ['/', '?', '#', '\t', '\r', '\n'] := by decide
    exact others character (sub listed) rfl
  · exact ascii_compat ascii

theorem infoText_character {info : List Char} (isInfo : InfoText info) {character : Char}
    (member : character ∈ info) :
    LocationCharacter character ∧ character ≠ '[' ∧ character ≠ ']' := by
  rcases isInfo.plain character member with safe | listed
  · have unsafeOther : ∀ other ∈ ['/', '?', '#', '\t', '\r', '\n', '[', ']'],
        isAlwaysSafe other = false := by decide
    have different : ∀ other ∈ ['/', '?', '#', '\t', '\r', '\n', '[', ']'], character ≠ other := by
      rintro other isOther rfl
      rw [unsafeOther character isOther] at safe
      cases safe
    exact ⟨locationCharacter_ascii (alwaysSafe_plain safe).2
      fun other isOther => different other (by
        have sub : ['/', '?', '#', '\t', '\r', '\n'] ⊆
          ['/', '?', '#', '\t', '\r', '\n', '[', ']'] := by decide
        exact sub isOther), different '[' (by decide), different ']' (by decide)⟩
  · have known : ∀ other ∈ ['%', ':', '@'], other.toNat < 128 ∧
        (∀ ends ∈ ['/', '?', '#', '\t', '\r', '\n'], other ≠ ends) ∧ other ≠ '[' ∧ other ≠ ']' := by
      decide
    obtain ⟨ascii, others, opening, closing⟩ := known character listed
    exact ⟨locationCharacter_ascii ascii others, opening, closing⟩

theorem authority_character {host : List Char} {port : Option Nat} {character : Char}
    (member : character ∈ authority host port) :
    character ∈ host ∨ (character ∈ ['[', ']'] ∧ ':' ∈ host) ∨ character ∈ portText port := by
  rw [authority, bracketed, List.mem_append] at member
  rcases member with inHost | inPort
  · split at inHost
    · rename_i colon
      simp only [List.cons_append, List.mem_cons, List.mem_append, List.not_mem_nil,
        or_false] at inHost
      rcases inHost with rfl | inHost | rfl
      · exact .inr (.inl ⟨by decide, colon⟩)
      · exact .inl inHost
      · exact .inr (.inl ⟨by decide, colon⟩)
    · exact .inl inHost
  · exact .inr (.inr inPort)

theorem portText_character {port : Option Nat} {character : Char}
    (member : character ∈ portText port) :
    LocationCharacter character ∧ character ≠ '[' ∧ character ≠ ']' ∧ character ≠ '@' := by
  rcases portText_chars member with rfl | ⟨low, high⟩
  · exact ⟨locationCharacter_ascii (by decide) (by decide), by decide, by decide, by decide⟩
  · have digit {other : Char} (far : ¬ (48 ≤ other.toNat ∧ other.toNat ≤ 57)) :
        character ≠ other := by
      rintro rfl
      exact far ⟨low, high⟩
    refine ⟨locationCharacter_ascii (by omega) ?_, digit (by decide), digit (by decide),
      digit (by decide)⟩
    have far : ∀ other ∈ ['/', '?', '#', '\t', '\r', '\n'],
        ¬ (48 ≤ other.toNat ∧ other.toNat ≤ 57) := by decide
    exact fun other isOther => digit (far other isOther)

/-- A host that can stand in a network location. -/
structure HostText (host : List Char) : Prop where
  nonempty : host ≠ []
  plain : ∀ character ∈ host, isNetlocEnd character = false ∧ character ≠ '@' ∧
    character ∉ ['\t', '\r', '\n'] ∧ character.toNat ∉ compatDelimiters
  closing : ':' ∈ host → ']' ∉ host ∧ isBracketedHost host = true
  single : ':' ∉ host → '[' ∉ host ∨ ']' ∉ host

theorem location_character {host info : List Char} (isHost : HostText host)
    (isInfo : InfoText info) (port : Option Nat) {character : Char}
    (member : character ∈ info ++ authority host port) : LocationCharacter character := by
  rw [List.mem_append] at member
  rcases member with inInfo | inAuthority
  · exact (infoText_character isInfo inInfo).1
  · rcases authority_character inAuthority with inHost | ⟨listed, _⟩ | inPort
    · obtain ⟨netloc, _, clean, compat⟩ := isHost.plain character inHost
      exact ⟨netloc, clean, compat⟩
    · have known : ∀ other ∈ ['[', ']'], other.toNat < 128 ∧
          ∀ ends ∈ ['/', '?', '#', '\t', '\r', '\n'], other ≠ ends := by decide
      exact locationCharacter_ascii (known character listed).1 (known character listed).2
    · exact (portText_character inPort).1

theorem hostAndPort_location {host info : List Char} (isHost : HostText host)
    (isInfo : InfoText info) (port : Option Nat) :
    hostAndPort (info ++ authority host port) = authority host port := by
  apply hostAndPort_append _ isInfo.ends
  intro member
  rcases authority_character member with inHost | ⟨listed, _⟩ | inPort
  · exact (isHost.plain '@' inHost).2.1 rfl
  · exact absurd listed (by decide)
  · exact (portText_character inPort).2.2.2 rfl

/-- The location is readable exactly if the host needs no brackets or gets them. -/
theorem location_readable {host info : List Char} (isHost : HostText host)
    (isInfo : InfoText info) (port : Option Nat) :
    netlocReadable (info ++ authority host port) = true ↔ Rewritable host := by
  have compat : ((info ++ authority host port).all
      fun character => character.toNat ∉ compatDelimiters) = true :=
    List.all_eq_true.mpr fun character member =>
      decide_eq_true (location_character isHost isInfo port member).compat
  rw [netlocReadable, compat, Bool.and_true]
  by_cases colon : ':' ∈ host
  · have isBracketed : info ++ authority host port =
        info ++ '[' :: (host ++ ']' :: portText port) := by
      rw [authority, bracketed, if_pos colon]
      simp
    have location := hostAndPort_location isHost isInfo port
    rw [authority, bracketed, if_pos colon] at location
    have isCut : cut '[' ('[' :: host ++ [']'] ++ portText port) =
        some ([], host ++ ']' :: portText port) := by
      have first := @cut_append '[' [] List.not_mem_nil (host ++ ']' :: portText port)
      simpa using first
    have isPort : ((portText port).isEmpty || (portText port).head? = some ':') = true := by
      rcases portText_cases port with ⟨empty, _⟩ | ⟨number, _, _, isText⟩
      · rw [empty]
        rfl
      · rw [isText]
        rfl
    have readable : bracketsReadable (info ++ authority host port) = true := by
      rw [bracketsReadable, if_pos (by rw [isBracketed]; simp), authority, bracketed,
        if_pos colon, location, isCut]
      simp only [cut_append (isHost.closing colon).1, isPort, (isHost.closing colon).2]
      rfl
    exact ⟨fun _ => .inl colon, fun _ => readable⟩
  · have only {bracket : Char} (isBracket : bracket = '[' ∨ bracket = ']') :
        bracket ∈ info ++ authority host port ↔ bracket ∈ host := by
      rw [List.mem_append]
      constructor
      · rintro (inInfo | inAuthority)
        · have different := (infoText_character isInfo inInfo).2
          rcases isBracket with rfl | rfl
          · exact absurd rfl different.1
          · exact absurd rfl different.2
        · rcases authority_character inAuthority with inHost | ⟨_, inside⟩ | inPort
          · exact inHost
          · exact absurd inside colon
          · have different := (portText_character inPort).2
            rcases isBracket with rfl | rfl
            · exact absurd rfl different.1
            · exact absurd rfl different.2.1
      · intro inHost
        right
        rw [authority, bracketed, if_neg colon]
        exact List.mem_append_left _ inHost
    have notBoth : ¬ ('[' ∈ info ++ authority host port ∧
        ']' ∈ info ++ authority host port) := by
      rw [only (.inl rfl), only (.inr rfl)]
      rintro ⟨opening, closing⟩
      rcases isHost.single colon with absent | absent
      · exact absent opening
      · exact absent closing
    rw [bracketsReadable, if_neg notBoth, Bool.and_eq_true, decide_eq_true_eq, decide_eq_true_eq,
      only (.inl rfl), only (.inr rfl)]
    exact ⟨.inr, fun rewritable => rewritable.resolve_left colon⟩

/-- A URL with another network location splits as far as that location is readable. -/
theorem urlsplit_relocated {url : SplitUrl} (canonical : Canonical url) {host : List Char}
    (isHost : HostText host) {info : List Char} (isInfo : InfoText info) (port : Option Nat) :
    urlsplit (urlunsplit { url with netloc := info ++ authority host port }) =
      if netlocReadable (info ++ authority host port) = true then
        some { url with netloc := info ++ authority host port }
      else none := by
  have location {character : Char} (member : character ∈ info ++ authority host port) :=
    location_character isHost isInfo port member
  have whole : Canonical { url with netloc := info ++ authority host port } := by
    refine ⟨canonical.schemeStart, canonical.schemeRest, canonical.schemeCase, ?_, canonical.path,
      canonical.pathEnd, canonical.queryEnd, ?_⟩
    · exact fun _ member => (location member).netloc
    · intro character member
      rcases member with inNetloc | inRest
      · exact (location inNetloc).clean
      · exact canonical.clean character (.inr inRest)
  exact urlsplit_urlunsplit whole

section
variable [TextCase]

theorem relocated_parts {host : List Char} {port : Option Nat} (isHost : HostText host)
    (bound : ∀ number ∈ port, number ≤ 65535) (rewritable : Rewritable host) {info : List Char}
    (isInfo : InfoText info) (url : SplitUrl)
    (isLocation : url.netloc = info ++ authority host port) :
    url.hostname = some (lowerHost host) ∧ url.port = some (writtenPort port) := by
  have parts : hostinfo url.netloc = (host, (portText port).tail) := by
    rw [isLocation]
    apply hostinfo_authority (fun colon => (isHost.closing colon).1) _ port
      (hostAndPort_location isHost isInfo port)
    intro noColon
    exact (rewritable.resolve_left noColon).1
  constructor
  · simp only [SplitUrl.hostname, parts, if_neg isHost.nonempty]
  · exact port_portText bound (congrArg Prod.snd parts)

variable [CharacterCase]

theorem hostname_lowered {host : List Char} {url : SplitUrl} (isHost : url.hostname = some host) :
    lowerHost host = host := by
  simp only [SplitUrl.hostname] at isHost
  split at isHost
  · cases isHost
  · obtain rfl := Option.some.inj isHost
    exact lowerHost_lowerHost _

/-- The host of a split URL can be written and read again. -/
theorem hostname_text {text host : List Char} {url : SplitUrl}
    (splits : urlsplit text = some url) (someScheme : url.scheme ≠ [])
    (isHost : url.hostname = some host) : HostText host := by
  simp only [SplitUrl.hostname] at isHost
  split at isHost
  · cases isHost
  · rename_i nonempty
    obtain rfl := Option.some.inj isHost
    have located : url.netloc ≠ [] := by
      intro empty
      rw [empty] at nonempty
      exact nonempty rfl
    obtain ⟨canonical, readable⟩ := urlsplit_canonical splits someScheme located
    have special {character : Char} (isSpecial : isUrlSpecial character = true)
        (member : character ∈ lowerHost (hostinfo url.netloc).1) :
        character ∈ hostAndPort url.netloc :=
      hostinfo_suffix url.netloc (lowerHost_special isSpecial member)
    have inNetloc {character : Char} (member : character ∈ hostAndPort url.netloc) :
        character ∈ url.netloc := (hostAndPort_suffix url.netloc).subset member
    refine ⟨lowerHost_nonempty nonempty, ?_, ?_, ?_⟩
    · intro character member
      refine ⟨?_, ?_, ?_, ?_⟩
      · by_contra isEnd
        have listed := isEnd
        rw [Bool.not_eq_false, isNetlocEnd, decide_eq_true_eq] at listed
        have isSpecial : ∀ other ∈ ['/', '?', '#'], isUrlSpecial other = true := by decide
        exact isEnd (canonical.netloc _ (inNetloc (special (isSpecial _ listed) member)))
      · rintro rfl
        exact hostAndPort_plain url.netloc (special (by decide) member)
      · intro listed
        have isSpecial : ∀ other ∈ ['\t', '\r', '\n'], isUrlSpecial other = true := by decide
        exact canonical.clean _ (.inl (inNetloc (special (isSpecial _ listed) member))) listed
      · intro listed
        have isSpecial : isUrlSpecial character = true := by simp [isUrlSpecial, listed]
        rw [netlocReadable, Bool.and_eq_true] at readable
        have absent := List.all_eq_true.mp readable.2 _ (inNetloc (special isSpecial member))
        exact of_decide_eq_true absent listed
    · intro colon
      rcases hostinfo_brackets readable with ⟨unclosed, isBracketed⟩ | ⟨noColon, _⟩
      · exact ⟨fun member => unclosed (lowerHost_special (by decide) member),
          isBracketedHost_lowerHost isBracketed⟩
      · exact absurd (lowerHost_special (by decide) colon) noColon
    · intro _
      rcases hostinfo_brackets readable with ⟨unclosed, _⟩ | ⟨_, unopened⟩
      · exact .inr fun member => unclosed (lowerHost_special (by decide) member)
      · exact .inl fun member => unopened (lowerHost_special (by decide) member)

end

end CamAdmiral
