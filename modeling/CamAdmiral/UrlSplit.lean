import CamAdmiral.TextLaws
import Mathlib.Data.List.TakeWhile

/-!
`urllib.parse.urlsplit` and `urlunsplit` on lists of characters, the checks of the network
location, and the properties of a split URL that divide it further.
-/

namespace CamAdmiral

/-! A condition on the characters of a text is checked on the text, not on all characters. -/

instance (priority := high) decidableTextAll {p : Char → Prop} [DecidablePred p]
    (text : List Char) : Decidable (∀ character ∈ text, p character) := List.decidableBAll p text

instance (priority := high) decidableOptionAll {p : Char → Prop} [DecidablePred p]
    (value : Option Char) : Decidable (∀ character ∈ value, p character) :=
  decidable_of_iff (∀ character ∈ value.toList, p character) (by simp)

/-- `str.partition` at the first separator; `none` where it does not occur. -/
def cut (separator : Char) (text : List Char) : Option (List Char × List Char) :=
  if separator ∈ text then
    some (text.takeWhile (· ≠ separator), (text.dropWhile (· ≠ separator)).tail)
  else
    none

/-- `str.rpartition`, at the last separator. -/
def cutLast (separator : Char) (text : List Char) : Option (List Char × List Char) :=
  (cut separator text.reverse).map fun parts => (parts.2.reverse, parts.1.reverse)

theorem cut_eq_none {separator : Char} {text : List Char} :
    cut separator text = none ↔ separator ∉ text := by
  simp [cut]

theorem cut_append {separator : Char} {before : List Char} (absent : separator ∉ before)
    (after : List Char) : cut separator (before ++ separator :: after) = some (before, after) := by
  have passes : ∀ character ∈ before, decide (character ≠ separator) = true := by
    intro character member
    apply decide_eq_true
    rintro rfl
    exact absent member
  rw [cut, if_pos (by simp), List.takeWhile_append_of_pos passes,
    List.dropWhile_append_of_pos passes]
  simp

theorem cut_eq_some {separator : Char} {text before after : List Char} :
    cut separator text = some (before, after) ↔
      text = before ++ separator :: after ∧ separator ∉ before := by
  constructor
  · intro found
    have present : separator ∈ text := by
      by_contra absent
      rw [cut_eq_none.mpr absent] at found
      cases found
    obtain ⟨first, rest, rfl, absent⟩ := List.eq_append_cons_of_mem present
    rw [cut_append absent, Option.some.injEq, Prod.mk.injEq] at found
    obtain ⟨rfl, rfl⟩ := found
    exact ⟨rfl, absent⟩
  · rintro ⟨rfl, absent⟩
    exact cut_append absent after

theorem cutLast_eq_none {separator : Char} {text : List Char} :
    cutLast separator text = none ↔ separator ∉ text := by
  rw [cutLast, Option.map_eq_none_iff, cut_eq_none, List.mem_reverse]

theorem cutLast_eq_some {separator : Char} {text before after : List Char} :
    cutLast separator text = some (before, after) ↔
      text = before ++ separator :: after ∧ separator ∉ after := by
  rw [cutLast, Option.map_eq_some_iff]
  constructor
  · rintro ⟨⟨first, rest⟩, found, same⟩
    obtain ⟨rfl, rfl⟩ := Prod.mk.inj same
    obtain ⟨isText, absent⟩ := cut_eq_some.mp found
    refine ⟨?_, by rwa [List.mem_reverse]⟩
    rw [← List.reverse_reverse text, isText]
    simp
  · rintro ⟨rfl, absent⟩
    refine ⟨(after.reverse, before.reverse), cut_eq_some.mpr ⟨by simp, ?_⟩, by simp⟩
    rwa [List.mem_reverse]

/-! `ipaddress.IPv6Address`, as far as a text is one. -/

def isHexDigit (character : Char) : Bool :=
  ('0' ≤ character && character ≤ '9') || ('a' ≤ character && character ≤ 'f') ||
    ('A' ≤ character && character ≤ 'F')

def isHextet (part : List Char) : Bool :=
  !part.isEmpty && part.all isHexDigit && part.length ≤ 4

/-- The groups of an address; one in dotted form at the end stands for two. -/
def ipv6Groups (text : List Char) : Option (List (List Char)) :=
  let parts := text.splitOn ':'
  if parts.length < 3 then none
  else
    match parts.getLast? with
    | some last =>
        if '.' ∈ last then
          if (ipv4Value last).isSome then some (parts.dropLast ++ [['0'], ['0']]) else none
        else some parts
    | none => none

/-- The groups around a `::`, of which an empty one may only stand at the end of the address. -/
def isAroundSkip (before after : List (List Char)) : Bool :=
  let high := if before = [[]] then [] else before
  let low := if after = [[]] then [] else after
  high.all isHextet && low.all isHextet && high.length + low.length ≤ 7

def isIpv6Number (text : List Char) : Bool :=
  match ipv6Groups text with
  | none => false
  | some groups =>
      match (groups.tail.dropLast).findIdx? (·.isEmpty) with
      | some index => isAroundSkip (groups.take (index + 1)) (groups.drop (index + 2))
      | none => groups.all isHextet && groups.length = 8

def isIpv6 (text : List Char) : Bool :=
  '/' ∉ text &&
    match cut '%' text with
    | some (address, scope) => !scope.isEmpty && '%' ∉ scope && isIpv6Number address
    | none => isIpv6Number text

example : isIpv6 "fe80::1%eth0".toList ∧ isIpv6 "::ffff:192.0.2.1".toList ∧
    ¬ isIpv6 "1::2::3".toList ∧ ¬ isIpv6 "192.0.2.1".toList := by decide

/-! The network location. -/

/-- `_check_bracketed_host`. -/
def isBracketedHost (host : List Char) : Bool :=
  match host with
  | 'v' :: rest =>
      match rest.dropWhile isHexDigit with
      | '.' :: tail => !(rest.takeWhile isHexDigit).isEmpty && !tail.isEmpty
      | _ => false
  | _ => isIpv6 host

/-- What follows the last `@`. -/
def hostAndPort (netloc : List Char) : List Char :=
  match cutLast '@' netloc with
  | some parts => parts.2
  | none => netloc

/-- `_check_bracketed_netloc` and the test that both brackets occur or none. -/
def bracketsReadable (netloc : List Char) : Bool :=
  if '[' ∈ netloc ∧ ']' ∈ netloc then
    match cut '[' (hostAndPort netloc) with
    | some (before, bracketed) =>
        before.isEmpty &&
          match cut ']' bracketed with
          | some (host, port) => (port.isEmpty || port.head? = some ':') && isBracketedHost host
          | none => isBracketedHost bracketed
    | none => isBracketedHost ((hostAndPort netloc).takeWhile (· ≠ ':'))
  else
    '[' ∉ netloc && ']' ∉ netloc

/-- The characters whose NFKC form has a delimiter, which `_checknetloc` rejects. -/
def compatDelimiters : List Nat :=
  [0x2047, 0x2048, 0x2049, 0x2100, 0x2101, 0x2105, 0x2106, 0x2A74, 0xFE13, 0xFE16, 0xFE55, 0xFE56,
    0xFE5F, 0xFE6B, 0xFF03, 0xFF0F, 0xFF1A, 0xFF1F, 0xFF20]

theorem ascii_compat {character : Char} (ascii : character.toNat < 128) :
    character.toNat ∉ compatDelimiters := by
  intro member
  have least : ∀ code ∈ compatDelimiters, 128 ≤ code := by decide
  have := least _ member
  omega

def netlocReadable (netloc : List Char) : Bool :=
  bracketsReadable netloc && netloc.all fun character => character.toNat ∉ compatDelimiters

/-! Splitting. -/

structure SplitUrl where
  scheme : List Char
  netloc : List Char
  path : List Char
  query : List Char
  fragment : List Char
  deriving DecidableEq, Repr

def isAsciiAlpha (character : Char) : Bool :=
  ('a' ≤ character && character ≤ 'z') || ('A' ≤ character && character ≤ 'Z')

def isSchemeCharacter (character : Char) : Bool :=
  isAsciiAlpha character || ('0' ≤ character && character ≤ '9') || character ∈ ['+', '-', '.']

def schemeSplit (url : List Char) : List Char × List Char :=
  match cut ':' url with
  | some (scheme, rest) =>
      if scheme.head?.any isAsciiAlpha && scheme.all isSchemeCharacter then
        (scheme.map Char.toLower, rest)
      else
        ([], url)
  | none => ([], url)

/-- The text before a separator and the one after it, which is empty where there is none. -/
def splitOnce (separator : Char) (text : List Char) : List Char × List Char :=
  (cut separator text).getD (text, [])

def isNetlocEnd (character : Char) : Bool := character ∈ ['/', '?', '#']

/-- The start and the characters that `urlsplit` drops. -/
def cleanUrl (text : List Char) : List Char :=
  (text.dropWhile fun character => character.toNat ≤ 32).filter fun character =>
    character ∉ ['\t', '\r', '\n']

def splitRest (scheme netloc rest : List Char) : SplitUrl where
  scheme := scheme
  netloc := netloc
  path := (splitOnce '?' (splitOnce '#' rest).1).1
  query := (splitOnce '?' (splitOnce '#' rest).1).2
  fragment := (splitOnce '#' rest).2

/-- `none` is a `ValueError`. -/
def urlsplit (text : List Char) : Option SplitUrl :=
  let split := schemeSplit (cleanUrl text)
  match split.2 with
  | '/' :: '/' :: rest =>
      let netloc := rest.takeWhile (!isNetlocEnd ·)
      if netlocReadable netloc then
        some (splitRest split.1 netloc (rest.dropWhile (!isNetlocEnd ·)))
      else
        none
  | rest => some (splitRest split.1 [] rest)

/-- `urlunsplit` of a URL with a network location. -/
def urlunsplit (url : SplitUrl) : List Char :=
  let path := if url.path ≠ [] ∧ url.path.head? ≠ some '/' then '/' :: url.path else url.path
  (if url.scheme = [] then [] else url.scheme ++ [':']) ++ '/' :: '/' :: url.netloc ++ path ++
    (if url.query = [] then [] else '?' :: url.query) ++
    (if url.fragment = [] then [] else '#' :: url.fragment)

def SplitUrl.username (url : SplitUrl) : Option (List Char) :=
  (cutLast '@' url.netloc).map fun parts => (splitOnce ':' parts.1).1

def SplitUrl.password (url : SplitUrl) : Option (List Char) :=
  (cutLast '@' url.netloc).bind fun parts => (cut ':' parts.1).map Prod.snd

/-- `_hostinfo`, with an empty text where there is no port. -/
def hostinfo (netloc : List Char) : List Char × List Char :=
  match cut '[' (hostAndPort netloc) with
  | some (_, bracketed) =>
      ((splitOnce ']' bracketed).1, (splitOnce ':' (splitOnce ']' bracketed).2).2)
  | none => splitOnce ':' (hostAndPort netloc)

/-- `none` is a `ValueError`, `some none` an absent port. -/
def SplitUrl.port (url : SplitUrl) : Option (Option Nat) :=
  let port := (hostinfo url.netloc).2
  if port = [] then some none
  else if isDecimal port && decimal port ≤ 65535 then some (some (decimal port))
  else none

/-- The case of a zone is kept. -/
def lowerHost [TextCase] (host : List Char) : List Char :=
  (TextCase.lower (String.ofList (splitOnce '%' host).1)).toList ++
    if '%' ∈ host then '%' :: (splitOnce '%' host).2 else []

def SplitUrl.hostname [TextCase] (url : SplitUrl) : Option (List Char) :=
  let host := (hostinfo url.netloc).1
  if host = [] then none else some (lowerHost host)

/-- A network location in the text is readable. -/
def LocationReadable (text : List Char) : Prop :=
  ∀ rest, (schemeSplit (cleanUrl text)).2 = '/' :: '/' :: rest →
    netlocReadable (rest.takeWhile (!isNetlocEnd ·)) = true

theorem urlsplit_isSome {text : List Char} :
    (urlsplit text).isSome = true ↔ LocationReadable text := by
  simp only [urlsplit, LocationReadable]
  split
  · rename_i rest isRest
    constructor
    · intro splits other same
      rw [isRest] at same
      obtain rfl : rest = other := by simpa using same
      by_contra unreadable
      rw [if_neg unreadable] at splits
      cases splits
    · intro readable
      rw [if_pos (readable rest isRest)]
      rfl
  · rename_i noLocation
    exact ⟨fun _ rest same => absurd same (noLocation rest), fun _ => rfl⟩

/-! Splitting what was put together. -/

theorem splitOnce_append {separator : Char} {before : List Char} (absent : separator ∉ before)
    (after : List Char) : splitOnce separator (before ++ separator :: after) = (before, after) := by
  rw [splitOnce, cut_append absent, Option.getD_some]

theorem splitOnce_absent {separator : Char} {text : List Char} (absent : separator ∉ text) :
    splitOnce separator text = (text, []) := by
  rw [splitOnce, cut_eq_none.mpr absent, Option.getD_none]

theorem splitOnce_cases (separator : Char) (text : List Char) :
    (separator ∉ text ∧ splitOnce separator text = (text, [])) ∨
      ∃ before after, text = before ++ separator :: after ∧ separator ∉ before ∧
        splitOnce separator text = (before, after) := by
  cases isCut : cut separator text with
  | none =>
      have absent := cut_eq_none.mp isCut
      exact .inl ⟨absent, splitOnce_absent absent⟩
  | some parts =>
      obtain ⟨before, after⟩ := parts
      obtain ⟨rfl, absent⟩ := cut_eq_some.mp isCut
      exact .inr ⟨before, after, rfl, absent, splitOnce_append absent after⟩

theorem splitOnce_first_absent (separator : Char) (text : List Char) :
    separator ∉ (splitOnce separator text).1 := by
  rcases splitOnce_cases separator text with ⟨absent, same⟩ | ⟨before, after, _, absent, same⟩
  · rw [same]
    exact absent
  · rw [same]
    exact absent

theorem splitOnce_first_start (separator : Char) (text : List Char) :
    (splitOnce separator text).1 <+: text := by
  rcases splitOnce_cases separator text with ⟨_, same⟩ | ⟨before, after, rfl, _, same⟩
  · rewrite [same]
    exact List.prefix_rfl
  · rw [same]
    exact List.prefix_append before _

theorem splitOnce_second_end (separator : Char) (text : List Char) :
    (splitOnce separator text).2 <:+ text := by
  rcases splitOnce_cases separator text with ⟨_, same⟩ | ⟨before, after, rfl, _, same⟩
  · rw [same]
    exact List.nil_suffix
  · rw [same]
    exact (List.suffix_cons separator after).trans (List.suffix_append before _)

/-- A URL with a scheme and a network location that `urlsplit` gives back unchanged, if the
network location is readable. -/
structure Canonical (url : SplitUrl) : Prop where
  schemeStart : url.scheme.head?.any isAsciiAlpha = true
  schemeRest : url.scheme.all isSchemeCharacter = true
  schemeCase : url.scheme.map Char.toLower = url.scheme
  netloc : ∀ character ∈ url.netloc, isNetlocEnd character = false
  path : url.path = [] ∨ url.path.head? = some '/'
  pathEnd : '?' ∉ url.path ∧ '#' ∉ url.path
  queryEnd : '#' ∉ url.query
  clean : ∀ character, character ∈ url.netloc ∨ character ∈ url.path ∨ character ∈ url.query ∨
    character ∈ url.fragment → character ∉ ['\t', '\r', '\n']

theorem schemeCharacter_plain {character : Char} (isScheme : isSchemeCharacter character = true) :
    character ≠ ':' ∧ character ∉ ['\t', '\r', '\n'] ∧ ¬ character.toNat ≤ 32 := by
  refine ⟨?_, ?_, ?_⟩
  · rintro rfl
    exact absurd isScheme (by decide)
  · intro listed
    simp only [List.mem_cons, List.not_mem_nil, or_false] at listed
    rcases listed with rfl | rfl | rfl
    · exact absurd isScheme (by decide)
    · exact absurd isScheme (by decide)
    · exact absurd isScheme (by decide)
  · intro control
    have bounds {low high : Char} (within : (low ≤ character && character ≤ high) = true) :
        low.toNat ≤ character.toNat := by
      rw [Bool.and_eq_true, decide_eq_true_eq, decide_eq_true_eq] at within
      exact within.1
    simp only [isSchemeCharacter, isAsciiAlpha, Bool.or_eq_true, decide_eq_true_eq,
      List.mem_cons, List.not_mem_nil, or_false] at isScheme
    rcases isScheme with ((lower | upper) | digit) | rfl | rfl | rfl
    · have := bounds lower
      have : ('a' : Char).toNat = 97 := rfl
      omega
    · have := bounds upper
      have : ('A' : Char).toNat = 65 := rfl
      omega
    · have := bounds digit
      have : ('0' : Char).toNat = 48 := rfl
      omega
    · exact absurd control (by decide)
    · exact absurd control (by decide)
    · exact absurd control (by decide)

theorem toLower_letter (character : Char) :
    character.toLower = character ∨ isAsciiAlpha character.toLower = true := by
  rcases toLower_cases character with same | ⟨lower, upper, shifted⟩
  · exact .inl same
  · have low : ('a' : Char).toNat = 97 := rfl
    have high : ('z' : Char).toNat = 122 := rfl
    have within : 'a' ≤ character.toLower ∧ character.toLower ≤ 'z' := by
      constructor
      · change ('a' : Char).toNat ≤ character.toLower.toNat
        omega
      · change character.toLower.toNat ≤ ('z' : Char).toNat
        omega
    right
    simp [isAsciiAlpha, within]

/-- Lower case does not change what kind of scheme character a letter is. -/
theorem schemeCharacter_toLower (character : Char) :
    (isAsciiAlpha character = true → isAsciiAlpha character.toLower = true) ∧
      (isSchemeCharacter character = true → isSchemeCharacter character.toLower = true) := by
  rcases toLower_letter character with same | letter
  · rw [same]
    exact ⟨id, id⟩
  · refine ⟨fun _ => letter, fun _ => ?_⟩
    simp [isSchemeCharacter, letter]

theorem schemeSplit_scheme {text : List Char} (nonempty : (schemeSplit text).1 ≠ []) :
    (schemeSplit text).1.head?.any isAsciiAlpha = true ∧
      (schemeSplit text).1.all isSchemeCharacter = true ∧
      (schemeSplit text).1.map Char.toLower = (schemeSplit text).1 := by
  rw [schemeSplit] at nonempty ⊢
  split
  · rename_i scheme rest isCut
    rw [isCut] at nonempty
    simp only at nonempty
    split at nonempty
    · rename_i plain
      rw [if_pos plain]
      rw [Bool.and_eq_true, List.all_eq_true] at plain
      refine ⟨?_, ?_, ?_⟩
      · cases scheme with
        | nil => exact absurd plain.1 (by decide)
        | cons first others => exact (schemeCharacter_toLower first).1 plain.1
      · rw [List.all_eq_true]
        intro character member
        obtain ⟨upper, isUpper, rfl⟩ := List.mem_map.mp member
        exact (schemeCharacter_toLower upper).2 (plain.2 upper isUpper)
      · rw [List.map_map]
        apply List.map_congr_left
        intro character _
        exact toLower_toLower character
    · exact absurd rfl nonempty
  · rename_i isCut
    rw [isCut] at nonempty
    exact absurd rfl nonempty

theorem schemeSplit_suffix (text : List Char) : (schemeSplit text).2 <:+ text := by
  rw [schemeSplit]
  split
  · rename_i scheme rest isCut
    split
    · obtain ⟨rfl, _⟩ := cut_eq_some.mp isCut
      exact (List.suffix_cons ':' rest).trans (List.suffix_append scheme _)
    · exact List.suffix_rfl
  · exact List.suffix_rfl

/-- Path, query and fragment come from the end of the text. -/
theorem urlsplit_rest {text : List Char} {url : SplitUrl} (splits : urlsplit text = some url) :
    ∃ rest, rest <:+ cleanUrl text ∧ url = splitRest url.scheme url.netloc rest := by
  have whole := schemeSplit_suffix (cleanUrl text)
  simp only [urlsplit] at splits
  split at splits
  · rename_i rest isRest
    rw [isRest] at whole
    split at splits
    · obtain rfl := Option.some.inj splits
      exact ⟨_, (List.dropWhile_suffix _).trans
        ((List.suffix_append ['/', '/'] rest).trans whole), rfl⟩
    · cases splits
  · obtain rfl := Option.some.inj splits
    exact ⟨_, whole, rfl⟩

/-- The query ends the text where there is no fragment, and so does the path without a query. -/
theorem urlsplit_suffix {text : List Char} {url : SplitUrl} (splits : urlsplit text = some url)
    (unhashed : '#' ∉ cleanUrl text) :
    url.query <:+ cleanUrl text ∧ ('?' ∉ cleanUrl text → url.path <:+ cleanUrl text) := by
  obtain ⟨rest, inText, isUrl⟩ := urlsplit_rest splits
  have noHash : splitOnce '#' rest = (rest, []) :=
    splitOnce_absent fun member => unhashed (inText.subset member)
  rw [isUrl]
  simp only [splitRest, noHash]
  refine ⟨(splitOnce_second_end '?' rest).trans inText, fun unasked => ?_⟩
  rw [splitOnce_absent fun member => unasked (inText.subset member)]
  exact inText

/-- The characters of the path and the query are characters of the text. -/
theorem urlsplit_subset {text : List Char} {url : SplitUrl} (splits : urlsplit text = some url) :
    url.path ⊆ text ∧ url.query ⊆ text := by
  obtain ⟨rest, inText, isUrl⟩ := urlsplit_rest splits
  have cleaned : rest ⊆ text := by
    intro character member
    exact (List.dropWhile_sublist _).subset (List.mem_filter.mp (inText.subset member)).1
  rw [isUrl]
  exact ⟨fun character member => cleaned ((splitOnce_first_start '#' rest).subset
      ((splitOnce_first_start '?' _).subset member)),
    fun character member => cleaned ((splitOnce_first_start '#' rest).subset
      ((splitOnce_second_end '?' _).subset member))⟩

/-- A split URL with a scheme and a network location is canonical. -/
theorem urlsplit_canonical {text : List Char} {url : SplitUrl} (splits : urlsplit text = some url)
    (someScheme : url.scheme ≠ []) (located : url.netloc ≠ []) :
    Canonical url ∧ netlocReadable url.netloc = true := by
  simp only [urlsplit] at splits
  split at splits
  · rename_i rest isRest
    split at splits
    · rename_i readable
      obtain rfl := Option.some.inj splits
      refine ⟨?_, readable⟩
      have inText : rest <:+ cleanUrl text := by
        have whole := schemeSplit_suffix (cleanUrl text)
        rw [isRest] at whole
        exact (List.suffix_append ['/', '/'] rest).trans whole
      have clean : ∀ character ∈ rest, character ∉ ['\t', '\r', '\n'] := by
        intro character member
        exact of_decide_eq_true (List.mem_filter.mp (inText.subset member)).2
      let tail := rest.dropWhile (!isNetlocEnd ·)
      have inTail : tail <:+ rest := List.dropWhile_suffix _
      have hashed : (splitOnce '#' tail).1 <+: tail := splitOnce_first_start '#' tail
      have inPath : (splitOnce '?' (splitOnce '#' tail).1).1 <+: (splitOnce '#' tail).1 :=
        splitOnce_first_start '?' _
      have inQuery : (splitOnce '?' (splitOnce '#' tail).1).2 <:+ (splitOnce '#' tail).1 :=
        splitOnce_second_end '?' _
      have inFragment : (splitOnce '#' tail).2 <:+ tail := splitOnce_second_end '#' tail
      have scheme := schemeSplit_scheme someScheme
      have pathEnd : '?' ∉ (splitOnce '?' (splitOnce '#' tail).1).1 ∧
          '#' ∉ (splitOnce '?' (splitOnce '#' tail).1).1 :=
        ⟨splitOnce_first_absent '?' _,
          fun member => splitOnce_first_absent '#' tail (inPath.subset member)⟩
      refine ⟨scheme.1, scheme.2.1, scheme.2.2, ?_, ?_, pathEnd, ?_, ?_⟩
      · intro character member
        simpa using List.mem_takeWhile_imp member
      · -- The tail starts with one of the ends, of which the path has only the slash.
        cases isPath : (splitOnce '?' (splitOnce '#' tail).1).1 with
        | nil => exact .inl isPath
        | cons first others =>
            right
            change (splitOnce '?' (splitOnce '#' tail).1).1.head? = some '/'
            rw [isPath, List.head?_cons, Option.some.injEq]
            obtain ⟨after, isTail⟩ := inPath.trans hashed
            have starts : first ∈ tail.head? := by
              rw [← isTail, isPath]
              rfl
            have isEnd := head_dropWhile (!isNetlocEnd ·) rest first starts
            simp only [Bool.not_eq_false', isNetlocEnd, decide_eq_true_eq, List.mem_cons,
              List.not_mem_nil, or_false] at isEnd
            rw [isPath] at pathEnd
            rcases isEnd with slash | rfl | rfl
            · exact slash
            · exact absurd List.mem_cons_self pathEnd.1
            · exact absurd List.mem_cons_self pathEnd.2
      · exact fun member => splitOnce_first_absent '#' tail (inQuery.subset member)
      · intro character member
        apply clean
        rcases member with inNetloc | inThePath | inTheQuery | inTheFragment
        · exact (List.takeWhile_sublist _).subset inNetloc
        · exact inTail.subset (hashed.subset (inPath.subset inThePath))
        · exact inTail.subset (hashed.subset (inQuery.subset inTheQuery))
        · exact inTail.subset (inFragment.subset inTheFragment)
    · cases splits
  · obtain rfl := Option.some.inj splits
    exact absurd rfl located

theorem Canonical.rest {url : SplitUrl} (canonical : Canonical url) :
    splitRest url.scheme url.netloc (url.path ++
      (if url.query = [] then [] else '?' :: url.query) ++
      (if url.fragment = [] then [] else '#' :: url.fragment)) = url := by
  have question : splitOnce '?' (url.path ++ if url.query = [] then [] else '?' :: url.query) =
      (url.path, url.query) := by
    split
    · rename_i empty
      rw [List.append_nil, empty]
      exact splitOnce_absent canonical.pathEnd.1
    · exact splitOnce_append canonical.pathEnd.1 url.query
  have unhashed : '#' ∉ url.path ++ if url.query = [] then [] else '?' :: url.query := by
    rw [List.mem_append, not_or]
    refine ⟨canonical.pathEnd.2, ?_⟩
    split
    · exact List.not_mem_nil
    · rw [List.mem_cons, not_or]
      exact ⟨by decide, canonical.queryEnd⟩
  have hash : splitOnce '#' (url.path ++ (if url.query = [] then [] else '?' :: url.query) ++
      if url.fragment = [] then [] else '#' :: url.fragment) =
      (url.path ++ (if url.query = [] then [] else '?' :: url.query), url.fragment) := by
    by_cases empty : url.fragment = []
    · rw [if_pos empty, List.append_nil, empty]
      exact splitOnce_absent unhashed
    · rw [if_neg empty]
      exact splitOnce_append unhashed url.fragment
  rw [splitRest, hash]
  simp only [question]

theorem urlsplit_urlunsplit {url : SplitUrl} (canonical : Canonical url) :
    urlsplit (urlunsplit url) = if netlocReadable url.netloc = true then some url else none := by
  have someScheme : url.scheme ≠ [] := by
    intro empty
    have start := canonical.schemeStart
    rw [empty] at start
    cases start
  have joined : urlunsplit url = url.scheme ++ ':' :: '/' :: '/' :: (url.netloc ++
      (url.path ++ (if url.query = [] then [] else '?' :: url.query) ++
        if url.fragment = [] then [] else '#' :: url.fragment)) := by
    have path : ¬ (url.path ≠ [] ∧ url.path.head? ≠ some '/') := by
      rintro ⟨nonempty, start⟩
      rcases canonical.path with empty | slash
      · exact nonempty empty
      · exact start slash
    simp only [urlunsplit, if_neg path, if_neg someScheme, List.append_assoc, List.cons_append,
      List.nil_append]
  have schemeClean : ∀ character ∈ url.scheme, character ≠ ':' ∧
      character ∉ ['\t', '\r', '\n'] ∧ ¬ character.toNat ≤ 32 := fun character member =>
    schemeCharacter_plain (List.all_eq_true.mp canonical.schemeRest character member)
  have kept : ∀ character ∈ urlunsplit url, decide (character ∉ ['\t', '\r', '\n']) = true := by
    intro character member
    apply decide_eq_true
    have plain := canonical.clean character
    rw [joined] at member
    simp only [List.mem_append, List.mem_cons] at member
    rcases member with inScheme | rfl | rfl | rfl | inNetloc | (inPath | inQuery) | inFragment
    · exact (schemeClean character inScheme).2.1
    · decide
    · decide
    · decide
    · exact plain (.inl inNetloc)
    · exact plain (.inr (.inl inPath))
    · split at inQuery
      · cases inQuery
      · rcases List.mem_cons.mp inQuery with rfl | inQuery
        · decide
        · exact plain (.inr (.inr (.inl inQuery)))
    · split at inFragment
      · cases inFragment
      · rcases List.mem_cons.mp inFragment with rfl | inFragment
        · decide
        · exact plain (.inr (.inr (.inr inFragment)))
  have cleaned : cleanUrl (urlunsplit url) = urlunsplit url := by
    have start : (urlunsplit url).dropWhile (fun character => character.toNat ≤ 32) =
        urlunsplit url := by
      rw [joined]
      obtain ⟨first, others, isScheme⟩ := List.exists_cons_of_ne_nil someScheme
      have printable := (schemeClean first (by rw [isScheme]; exact List.mem_cons_self)).2.2
      rw [isScheme, List.cons_append, List.dropWhile_cons_of_neg]
      simpa using printable
    rw [cleanUrl, start]
    exact List.filter_eq_self.mpr kept
  have split : schemeSplit (urlunsplit url) = (url.scheme, '/' :: '/' :: (url.netloc ++
      (url.path ++ (if url.query = [] then [] else '?' :: url.query) ++
        if url.fragment = [] then [] else '#' :: url.fragment))) := by
    rw [schemeSplit, joined, cut_append fun member => (schemeClean ':' member).1 rfl]
    simp only [canonical.schemeStart, canonical.schemeRest, canonical.schemeCase, Bool.and_self,
      if_true]
  have stops : ∀ character ∈ (url.path ++ (if url.query = [] then [] else '?' :: url.query) ++
      if url.fragment = [] then [] else '#' :: url.fragment).head?,
      isNetlocEnd character = true := by
    intro character isHead
    rcases canonical.path with empty | slash
    · rw [empty, List.nil_append] at isHead
      split at isHead
      · split at isHead
        · cases isHead
        · obtain rfl : '#' = character := by simpa using isHead
          rfl
      · obtain rfl : '?' = character := by simpa using isHead
        rfl
    · obtain ⟨others, isPath⟩ : ∃ others, url.path = '/' :: others := by
        cases isPath : url.path with
        | nil =>
            rw [isPath] at slash
            cases slash
        | cons first others =>
            rw [isPath, List.head?_cons, Option.some.injEq] at slash
            exact ⟨others, by rw [slash]⟩
      rw [isPath] at isHead
      obtain rfl : '/' = character := by simpa using isHead
      rfl
  have passes : ∀ character ∈ url.netloc, (!isNetlocEnd character) = true := by
    intro character member
    rw [canonical.netloc character member]
    rfl
  have netloc : ∀ rest : List Char, (∀ character ∈ rest.head?, isNetlocEnd character = true) →
      (url.netloc ++ rest).takeWhile (!isNetlocEnd ·) = url.netloc ∧
        (url.netloc ++ rest).dropWhile (!isNetlocEnd ·) = rest := by
    intro rest ends
    rw [List.takeWhile_append_of_pos passes, List.dropWhile_append_of_pos passes]
    cases rest with
    | nil => simp
    | cons first others =>
        have isEnd := ends first rfl
        simp [isEnd]
  obtain ⟨taken, dropped⟩ := netloc _ stops
  simp only [urlsplit, cleaned, split, taken, dropped, canonical.rest]

end CamAdmiral
