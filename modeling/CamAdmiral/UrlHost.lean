import CamAdmiral.UrlSplit
import Mathlib.Data.List.Forall2

/-!
Host names in lower case. What `urlsplit` accepts as a host it accepts in lower case as well, and
lower case brings in no delimiter.
-/

namespace CamAdmiral

/-! Splitting at a separator. -/

theorem mem_splitOn (separator : Char) {character : Char} {text : List Char}
    (member : character ∈ text) :
    character = separator ∨ ∃ part ∈ text.splitOn separator, character ∈ part := by
  induction text with
  | nil => cases member
  | cons first rest ih =>
      rw [List.splitOn, List.splitOnP_cons_eq_if_modifyHead]
      by_cases isSeparator : first = separator
      · rcases List.mem_cons.mp member with same | later
        · exact .inl (same.trans isSeparator)
        · rcases ih later with same | ⟨part, isPart, inPart⟩
          · exact .inl same
          · refine .inr ⟨part, ?_, inPart⟩
            rw [if_pos (beq_iff_eq.mpr isSeparator)]
            exact List.mem_cons_of_mem _ isPart
      · rw [if_neg fun same => isSeparator (beq_iff_eq.mp same)]
        obtain ⟨head, others, isSplit⟩ :=
          List.exists_cons_of_ne_nil (List.splitOnP_ne_nil (· == separator) rest)
        rw [List.splitOn, isSplit] at ih
        rw [isSplit, List.modifyHead_cons]
        rcases List.mem_cons.mp member with rfl | later
        · exact .inr ⟨_, List.mem_cons_self, List.mem_cons_self⟩
        · rcases ih later with same | ⟨part, isPart, inPart⟩
          · exact .inl same
          · rcases List.mem_cons.mp isPart with rfl | isOther
            · exact .inr ⟨_, List.mem_cons_self, List.mem_cons_of_mem _ inPart⟩
            · exact .inr ⟨part, List.mem_cons_of_mem _ isOther, inPart⟩

theorem splitOn_concat (separator : Char) (text : List Char) :
    (text ++ [separator]).splitOn separator = text.splitOn separator ++ [[]] := by
  induction text with
  | nil => simp [List.splitOn, List.splitOnP_cons_eq_if_modifyHead]
  | cons first rest ih =>
      simp only [List.splitOn] at ih
      simp only [List.splitOn, List.cons_append, List.splitOnP_cons_eq_if_modifyHead, ih]
      split
      · rfl
      · cases isSplit : List.splitOnP (· == separator) rest with
        | nil => exact absurd isSplit (List.splitOnP_ne_nil _ _)
        | cons head others => rfl

/-- The last part ends like the text. -/
theorem splitOn_last {separator last : Char} (isPlain : last ≠ separator) (text : List Char) :
    ∃ parts part, (text ++ [last]).splitOn separator = parts ++ [part ++ [last]] := by
  induction text with
  | nil => exact ⟨[], [], by simp [List.splitOn, List.splitOnP_cons_eq_if_modifyHead, isPlain]⟩
  | cons first rest ih =>
      obtain ⟨parts, part, isSplit⟩ := ih
      simp only [List.splitOn] at isSplit
      simp only [List.splitOn, List.cons_append, List.splitOnP_cons_eq_if_modifyHead, isSplit]
      split
      · exact ⟨[] :: parts, part, rfl⟩
      · cases parts with
        | nil => exact ⟨[], first :: part, rfl⟩
        | cons head others => exact ⟨(first :: head) :: others, part, rfl⟩

theorem splitOn_map {change : Char → Char} {separator : Char}
    (keeps : ∀ character, change character = separator ↔ character = separator)
    (text : List Char) :
    (text.map change).splitOn separator = (text.splitOn separator).map (List.map change) := by
  induction text with
  | nil => rfl
  | cons first rest ih =>
      simp only [List.splitOn] at ih
      simp only [List.splitOn, List.map_cons, List.splitOnP_cons_eq_if_modifyHead, ih, beq_iff_eq,
        keeps]
      split
      · rfl
      · cases List.splitOnP (· == separator) rest <;> rfl

/-! Addresses in lower case. -/

theorem toLower_eq_iff (separator : Char) (fixed : separator.toNat < 65) (character : Char) :
    character.toLower = separator ↔ character = separator := by
  rcases toLower_cases character with same | ⟨lower, upper, shifted⟩
  · rw [same]
  · constructor
    · rintro rfl
      omega
    · rintro rfl
      omega

theorem isHexDigit_iff (character : Char) : isHexDigit character = true ↔
    (48 ≤ character.toNat ∧ character.toNat ≤ 57) ∨ (97 ≤ character.toNat ∧
      character.toNat ≤ 102) ∨ (65 ≤ character.toNat ∧ character.toNat ≤ 70) := by
  simp only [isHexDigit, Bool.or_eq_true, Bool.and_eq_true, decide_eq_true_eq, or_assoc]
  exact Iff.rfl

theorem isHexDigit_toLower (character : Char) :
    isHexDigit character.toLower = isHexDigit character := by
  rw [Bool.eq_iff_iff, isHexDigit_iff, isHexDigit_iff]
  rcases toLower_cases character with same | ⟨lower, upper, shifted⟩
  · rw [same]
  · omega

theorem isHextet_lower (part : List Char) : isHextet (part.map Char.toLower) = isHextet part := by
  have same : isHexDigit ∘ Char.toLower = isHexDigit := funext isHexDigit_toLower
  simp only [isHextet, List.isEmpty_map, List.all_map, same, List.length_map]

theorem isAroundSkip_lower (before after : List (List Char)) :
    isAroundSkip (before.map (List.map Char.toLower)) (after.map (List.map Char.toLower)) =
      isAroundSkip before after := by
  have alone (groups : List (List Char)) :
      (if groups.map (List.map Char.toLower) = [[]] then []
        else groups.map (List.map Char.toLower)) =
      (if groups = [[]] then [] else groups).map (List.map Char.toLower) := by
    have same : groups.map (List.map Char.toLower) = [[]] ↔ groups = [[]] := by
      rw [List.map_eq_singleton_iff]
      simp
    simp only [same]
    split <;> rfl
  have hextets : isHextet ∘ List.map Char.toLower = isHextet := funext isHextet_lower
  simp only [isAroundSkip, alone, List.all_map, hextets, List.length_map]

theorem isDecimal_digits {digits : List Char} (isNumber : isDecimal digits = true)
    {digit : Char} (member : digit ∈ digits) : 48 ≤ digit.toNat ∧ digit.toNat ≤ 57 := by
  rw [isDecimal, Bool.and_eq_true] at isNumber
  have within := List.all_eq_true.mp isNumber.2 digit member
  rw [Bool.and_eq_true, decide_eq_true_eq, decide_eq_true_eq] at within
  exact within

theorem parseOctet_digits {octet : List Char} {value : Nat}
    (parsed : parseOctet octet = some value) : isDecimal octet = true := by
  rw [parseOctet] at parsed
  split at parsed
  · rename_i checked
    simp only [Bool.and_eq_true] at checked
    exact checked.1.1.1
  · cases parsed

/-- A dotted address has digits and dots only. -/
theorem ipv4Value_chars {text : List Char} (isAddress : (ipv4Value text).isSome = true)
    {character : Char} (member : character ∈ text) :
    character = '.' ∨ 48 ≤ character.toNat ∧ character.toNat ≤ 57 := by
  rcases mem_splitOn '.' member with same | ⟨part, isPart, inPart⟩
  · exact .inl same
  · right
    rw [ipv4Value] at isAddress
    split at isAddress
    · rename_i first second third fourth isSplit
      rw [isSplit] at isPart
      have octet : ∀ part ∈ [first, second, third, fourth], isDecimal part = true := by
        obtain ⟨value, isValue⟩ := Option.isSome_iff_exists.mp isAddress
        simp only [Option.bind_eq_bind, Option.bind_eq_some_iff] at isValue
        obtain ⟨a, isFirst, b, isSecond, c, isThird, d, isFourth, _⟩ := isValue
        simp [parseOctet_digits isFirst, parseOctet_digits isSecond, parseOctet_digits isThird,
          parseOctet_digits isFourth]
      exact isDecimal_digits (octet part isPart) inPart
    · cases isAddress

/-- An address does not end with a dot. -/
theorem ipv4Value_last (text : List Char) : ipv4Value (text ++ ['.']) = none := by
  rw [ipv4Value, splitOn_concat]
  split
  · rename_i first second third fourth isSplit
    have isLast : fourth = [] := by
      have last := congrArg List.getLast? isSplit
      simpa using last.symm
    rw [isLast]
    cases parseOctet first with
    | none => rfl
    | some _ =>
        cases parseOctet second with
        | none => rfl
        | some _ =>
            cases parseOctet third with
            | none => rfl
            | some _ => rfl
  · rfl

theorem ipv4Value_lower {text : List Char} (isAddress : (ipv4Value text).isSome = true) :
    text.map Char.toLower = text := by
  conv_rhs => rw [← List.map_id text]
  apply List.map_congr_left
  intro character member
  rcases toLower_cases character with same | ⟨lower, upper, _⟩
  · exact same
  · rcases ipv4Value_chars isAddress member with rfl | ⟨_, high⟩
    · rfl
    · omega

theorem ipv6Groups_lower {text : List Char} {groups : List (List Char)}
    (grouped : ipv6Groups text = some groups) :
    ipv6Groups (text.map Char.toLower) = some (groups.map (List.map Char.toLower)) := by
  have colon := splitOn_map (toLower_eq_iff ':' (by decide)) text
  have dot (last : List Char) : '.' ∈ last.map Char.toLower ↔ '.' ∈ last := by
    simp only [List.mem_map, toLower_eq_iff '.' (by decide)]
    simp
  simp only [ipv6Groups, colon, List.length_map, List.getLast?_map] at grouped ⊢
  split at grouped
  · cases grouped
  · rename_i long
    rw [if_neg long]
    cases isLast : (text.splitOn ':').getLast? with
    | none =>
        rw [isLast] at grouped
        cases grouped
    | some last =>
        simp only [isLast, Option.map_some, dot] at grouped ⊢
        split at grouped
        · rename_i dotted
          rw [if_pos dotted]
          split at grouped
          · rename_i isAddress
            obtain rfl := Option.some.inj grouped
            rw [ipv4Value_lower isAddress, if_pos isAddress, List.map_append, List.map_dropLast]
            rfl
          · cases grouped
        · rename_i undotted
          obtain rfl := Option.some.inj grouped
          rw [if_neg undotted]

theorem isIpv6Number_lower {text : List Char} (isNumber : isIpv6Number text = true) :
    isIpv6Number (text.map Char.toLower) = true := by
  rw [isIpv6Number] at isNumber ⊢
  cases grouped : ipv6Groups text with
  | none =>
      rw [grouped] at isNumber
      cases isNumber
  | some groups =>
      have empty : (fun part : List Char => part.isEmpty) ∘ List.map Char.toLower =
          fun part => part.isEmpty := by
        funext part
        exact List.isEmpty_map
      have hextets : isHextet ∘ List.map Char.toLower = isHextet := funext isHextet_lower
      rw [grouped] at isNumber
      simp only [ipv6Groups_lower grouped, ← List.map_tail, ← List.map_dropLast,
        List.findIdx?_map, empty, ← List.map_take, ← List.map_drop, isAroundSkip_lower,
        List.all_map, hextets, List.length_map]
      exact isNumber

/-- The groups of an address have hexadecimal digits only. -/
theorem groups_hex {groups : List (List Char)}
    (isNumber : (match (groups.tail.dropLast).findIdx? (·.isEmpty) with
      | some index => isAroundSkip (groups.take (index + 1)) (groups.drop (index + 2))
      | none => groups.all isHextet && groups.length = 8) = true)
    {group : List Char} (member : group ∈ groups) : group.all isHexDigit = true := by
  have hextet {part : List Char} (checked : isHextet part = true) :
      part.all isHexDigit = true := by
    rw [isHextet, Bool.and_eq_true, Bool.and_eq_true] at checked
    exact checked.1.2
  have side {parts : List (List Char)} {part : List Char}
      (checked : (if parts = [[]] then [] else parts).all isHextet = true)
      (isPart : part ∈ parts) : part.all isHexDigit = true := by
    split at checked
    · rename_i alone
      rw [alone, List.mem_singleton] at isPart
      rw [isPart]
      rfl
    · exact hextet (List.all_eq_true.mp checked part isPart)
  split at isNumber
  · rename_i index isIndex
    rw [isAroundSkip, Bool.and_eq_true, Bool.and_eq_true] at isNumber
    obtain ⟨⟨before, after⟩, _⟩ := isNumber
    obtain ⟨position, bound, rfl⟩ := List.getElem_of_mem member
    rcases lt_trichotomy position (index + 1) with early | rfl | late
    · apply side before
      rw [List.mem_take_iff_getElem]
      exact ⟨position, by omega, rfl⟩
    · -- The group at the skip is empty.
      obtain ⟨_, isEmpty, _⟩ := List.findIdx?_eq_some_iff_getElem.mp isIndex
      rw [List.getElem_dropLast, List.getElem_tail, List.isEmpty_iff] at isEmpty
      rw [isEmpty]
      rfl
    · apply side after
      rw [List.mem_drop_iff_getElem]
      exact ⟨position - (index + 2), by omega, by congr 1; omega⟩
  · rw [Bool.and_eq_true] at isNumber
    exact hextet (List.all_eq_true.mp isNumber.1 group member)

theorem isIpv6Number_chars {text : List Char} (isNumber : isIpv6Number text = true)
    {character : Char} (member : character ∈ text) :
    isHexDigit character = true ∨ character = ':' ∨ character = '.' := by
  rcases mem_splitOn ':' member with rfl | ⟨part, isPart, inPart⟩
  · exact .inr (.inl rfl)
  · rw [isIpv6Number] at isNumber
    cases grouped : ipv6Groups text with
    | none =>
        rw [grouped] at isNumber
        cases isNumber
    | some groups =>
        simp only [grouped] at isNumber
        simp only [ipv6Groups] at grouped
        split at grouped
        · cases grouped
        · split at grouped
          · rename_i last isLast
            have isParts := List.dropLast_append_getLast? last isLast
            split at grouped
            · split at grouped
              · rename_i isAddress
                obtain rfl := Option.some.inj grouped
                rw [← isParts, List.mem_append, List.mem_singleton] at isPart
                rcases isPart with early | rfl
                · have hex := groups_hex isNumber (List.mem_append_left _ early)
                  exact .inl (List.all_eq_true.mp hex character inPart)
                · rcases ipv4Value_chars isAddress inPart with dot | digit
                  · exact .inr (.inr dot)
                  · exact .inl ((isHexDigit_iff character).mpr (.inl digit))
              · cases grouped
            · obtain rfl := Option.some.inj grouped
              exact .inl (List.all_eq_true.mp (groups_hex isNumber isPart) character inPart)
          · cases grouped

theorem isIpv6Number_ascii {text : List Char} (isNumber : isIpv6Number text = true)
    {character : Char} (member : character ∈ text) : character.toNat < 128 := by
  rcases isIpv6Number_chars isNumber member with hex | rfl | rfl
  · have digit := (isHexDigit_iff character).mp hex
    omega
  · decide
  · decide

theorem isIpv6Number_last (text : List Char) : isIpv6Number (text ++ ['.']) = false := by
  obtain ⟨parts, part, isSplit⟩ := splitOn_last (by decide : '.' ≠ ':') text
  have ungrouped : ipv6Groups (text ++ ['.']) = none := by
    simp only [ipv6Groups, isSplit]
    split
    · rfl
    · simp [ipv4Value_last]
  rw [isIpv6Number, ungrouped]

/-- An address does not start like a host of a future version. -/
theorem isIpv6Number_start {text after : List Char} (isNumber : isIpv6Number text = true)
    (rest : List Char) : text ++ after ≠ 'v' :: rest := by
  cases text with
  | nil => exact absurd isNumber (by decide)
  | cons first others =>
      intro same
      obtain rfl := (List.cons.inj same).1
      rcases isIpv6Number_chars isNumber List.mem_cons_self with hex | colon | dot
      · exact absurd hex (by decide)
      · exact absurd colon (by decide)
      · exact absurd dot (by decide)

theorem isBracketedHost_address {host : List Char} (plain : ∀ rest, host ≠ 'v' :: rest) :
    isBracketedHost host = isIpv6 host := by
  rw [isBracketedHost]
  exact plain

/-- `v`, a version in hexadecimal digits, a dot and any text. -/
theorem isBracketedHost_future {version tail : List Char} (hex : version.all isHexDigit = true)
    (versioned : version ≠ []) (nonempty : tail ≠ []) :
    isBracketedHost ('v' :: version ++ '.' :: tail) = true := by
  have digits : ∀ character ∈ version, isHexDigit character = true := List.all_eq_true.mp hex
  have dot : isHexDigit '.' = false := by decide
  simp only [isBracketedHost, List.cons_append, List.takeWhile_append_of_pos digits,
    List.dropWhile_append_of_pos digits, List.dropWhile_cons, List.takeWhile_cons, dot,
    Bool.false_eq_true, if_false, List.append_nil]
  simp [versioned, nonempty]

theorem isBracketedHost_version {rest : List Char}
    (isHost : isBracketedHost ('v' :: rest) = true) :
    ∃ version tail, rest = version ++ '.' :: tail ∧ version.all isHexDigit = true ∧
      version ≠ [] ∧ tail ≠ [] := by
  simp only [isBracketedHost] at isHost
  split at isHost
  · rename_i tail isTail
    refine ⟨rest.takeWhile isHexDigit, tail, ?_, List.all_takeWhile, ?_, ?_⟩
    · rw [← isTail, List.takeWhile_append_dropWhile]
    · simp_all
    · simp_all
  · cases isHost

/-! `str.lower` on host names. -/

/-- A character of ASCII that is no letter or digit, or one whose NFKC form has a delimiter. -/
def isUrlSpecial (character : Char) : Bool :=
  (character.toNat < 128 && !isAsciiAlpha character &&
    !('0' ≤ character && character ≤ '9')) || character.toNat ∈ compatDelimiters

structure LowerImage (character : Char) (image : List Char) : Prop where
  nonempty : image ≠ []
  ascii : character.toNat < 128 → image = [character.toLower]
  special : ∀ other ∈ image, isUrlSpecial other = true → other = character

def lowerChars [TextCase] (text : List Char) : List Char :=
  (TextCase.lower (String.ofList text)).toList

/-- `str.lower` gives every character an image, which may depend on the text around it. -/
class CharacterCase [TextCase] : Prop extends LawfulTextCase where
  images : ∀ text, ∃ images, List.Forall₂ LowerImage text images ∧ lowerChars text = images.flatten

theorem images_special {text : List Char} {images : List (List Char)}
    (related : List.Forall₂ LowerImage text images) {character : Char}
    (special : isUrlSpecial character = true) (member : character ∈ images.flatten) :
    character ∈ text := by
  induction related with
  | nil => cases member
  | cons isImage _ ih =>
      rw [List.flatten_cons, List.mem_append] at member
      rcases member with inFirst | inRest
      · rw [isImage.special character inFirst special]
        exact List.mem_cons_self
      · exact List.mem_cons_of_mem _ (ih inRest)

/-- Text of ASCII at the start has the images of `Char.toLower`. -/
theorem images_append {start rest : List Char} {images : List (List Char)}
    (related : List.Forall₂ LowerImage (start ++ rest) images)
    (ascii : ∀ character ∈ start, character.toNat < 128) :
    ∃ others, List.Forall₂ LowerImage rest others ∧
      images.flatten = start.map Char.toLower ++ others.flatten := by
  induction start generalizing images with
  | nil => exact ⟨images, related, rfl⟩
  | cons first more ih =>
      cases related with
      | cons isImage others =>
          obtain ⟨left, isLeft, flat⟩ := ih others fun character member =>
            ascii character (List.mem_cons_of_mem _ member)
          refine ⟨left, isLeft, ?_⟩
          rw [List.flatten_cons, isImage.ascii (ascii first List.mem_cons_self), flat]
          rfl

theorem images_nonempty {text : List Char} {images : List (List Char)}
    (related : List.Forall₂ LowerImage text images) (nonempty : text ≠ []) :
    images.flatten ≠ [] := by
  cases related with
  | nil => exact absurd rfl nonempty
  | cons isImage _ =>
      rw [List.flatten_cons]
      exact List.append_ne_nil_of_left_ne_nil isImage.nonempty _

section
variable [TextCase] [CharacterCase]

theorem lowerChars_special {text : List Char} {character : Char}
    (special : isUrlSpecial character = true) (member : character ∈ lowerChars text) :
    character ∈ text := by
  obtain ⟨images, related, same⟩ := CharacterCase.images text
  rw [same] at member
  exact images_special related special member

theorem lowerChars_append {start : List Char}
    (ascii : ∀ character ∈ start, character.toNat < 128) (rest : List Char) :
    ∃ image, lowerChars (start ++ rest) = start.map Char.toLower ++ image ∧
      (rest ≠ [] → image ≠ []) ∧ (rest = [] → image = []) := by
  obtain ⟨images, related, same⟩ := CharacterCase.images (start ++ rest)
  obtain ⟨others, isRest, flat⟩ := images_append related ascii
  refine ⟨others.flatten, same.trans flat, images_nonempty isRest, ?_⟩
  rintro rfl
  cases isRest
  rfl

theorem lowerChars_nonempty {text : List Char} (nonempty : text ≠ []) :
    lowerChars text ≠ [] := by
  obtain ⟨images, related, same⟩ := CharacterCase.images text
  rw [same]
  exact images_nonempty related nonempty

theorem lowerChars_ascii {text : List Char} (ascii : ∀ character ∈ text, character.toNat < 128) :
    lowerChars text = text.map Char.toLower := by
  obtain ⟨image, same, _, empty⟩ := lowerChars_append ascii []
  rw [List.append_nil, empty rfl, List.append_nil] at same
  exact same

theorem lowerChars_lowerChars (text : List Char) :
    lowerChars (lowerChars text) = lowerChars text := by
  rw [lowerChars, lowerChars, String.ofList_toList, LawfulTextCase.lower_lower]

omit [CharacterCase] in
/-- A zone follows the first percent sign and keeps its case. -/
theorem lowerHost_cases (host : List Char) :
    ('%' ∉ host ∧ lowerHost host = lowerChars host) ∨
      ∃ before zone, host = before ++ '%' :: zone ∧ '%' ∉ before ∧
        lowerHost host = lowerChars before ++ '%' :: zone := by
  rcases splitOnce_cases '%' host with ⟨absent, same⟩ | ⟨before, zone, rfl, absent, same⟩
  · refine .inl ⟨absent, ?_⟩
    rw [lowerHost, same, if_neg absent, List.append_nil]
    rfl
  · refine .inr ⟨before, zone, rfl, absent, ?_⟩
    rw [lowerHost, same, if_pos (by simp)]
    rfl

theorem lowerHost_special {host : List Char} {character : Char}
    (special : isUrlSpecial character = true) (member : character ∈ lowerHost host) :
    character ∈ host := by
  rcases lowerHost_cases host with ⟨_, same⟩ | ⟨before, zone, rfl, _, same⟩
  · rw [same] at member
    exact lowerChars_special special member
  · rw [same, List.mem_append] at member
    rw [List.mem_append]
    exact member.imp (lowerChars_special special) id

theorem lowerHost_nonempty {host : List Char} (nonempty : host ≠ []) : lowerHost host ≠ [] := by
  rcases lowerHost_cases host with ⟨_, same⟩ | ⟨before, zone, rfl, _, same⟩
  · rw [same]
    exact lowerChars_nonempty nonempty
  · rw [same]
    simp

theorem lowerHost_lowerHost (host : List Char) : lowerHost (lowerHost host) = lowerHost host := by
  have percent {text : List Char} (absent : '%' ∉ text) : '%' ∉ lowerChars text :=
    fun member => absent (lowerChars_special (by decide) member)
  rcases lowerHost_cases host with ⟨absent, same⟩ | ⟨before, zone, rfl, absent, same⟩
  · rw [same, lowerHost, splitOnce_absent (percent absent), if_neg (percent absent),
      List.append_nil]
    exact lowerChars_lowerChars host
  · rw [same, lowerHost, splitOnce_append (percent absent), if_pos (by simp)]
    change lowerChars (lowerChars before) ++ '%' :: zone = _
    rw [lowerChars_lowerChars]

theorem lowerHost_future {version tail : List Char} (hex : version.all isHexDigit = true)
    (nonempty : tail ≠ []) :
    ∃ rest, rest ≠ [] ∧ lowerHost ('v' :: version ++ '.' :: tail) =
      'v' :: version.map Char.toLower ++ '.' :: rest := by
  let start := 'v' :: version ++ ['.']
  have isHost : 'v' :: version ++ '.' :: tail = start ++ tail := by simp [start]
  have lowered (rest : List Char) : start.map Char.toLower ++ rest =
      'v' :: version.map Char.toLower ++ '.' :: rest := by simp [start]
  have plain : ∀ character ∈ start, character.toNat < 128 ∧ character ≠ '%' := by
    intro character member
    simp only [start, List.cons_append, List.mem_cons, List.mem_append, List.not_mem_nil,
      or_false] at member
    rcases member with rfl | inVersion | rfl
    · decide
    · have digit := (isHexDigit_iff character).mp (List.all_eq_true.mp hex character inVersion)
      refine ⟨by omega, ?_⟩
      rintro rfl
      exact absurd digit (by decide)
    · decide
  have ascii : ∀ character ∈ start, character.toNat < 128 := fun character member =>
    (plain character member).1
  rw [isHost]
  rcases lowerHost_cases (start ++ tail) with ⟨_, same⟩ | ⟨before, zone, split, _, same⟩
  · obtain ⟨image, isImage, someImage, _⟩ := lowerChars_append ascii tail
    exact ⟨image, someImage nonempty, by rw [same, isImage, lowered]⟩
  · -- The percent sign comes after the start.
    obtain ⟨early, rfl, _⟩ : ∃ early, before = start ++ early ∧ tail = early ++ '%' :: zone := by
      rcases List.append_eq_append_iff.mp split with ⟨early, isBefore, isTail⟩ |
          ⟨late, isStart, isZone⟩
      · exact ⟨early, isBefore, isTail⟩
      · cases late with
        | nil => exact ⟨[], by simpa using isStart.symm, by simpa using isZone.symm⟩
        | cons first others =>
            obtain rfl := (List.cons.inj isZone).1
            exact absurd rfl (plain '%' (by simp [isStart])).2
    obtain ⟨image, isImage, _, _⟩ := lowerChars_append ascii early
    refine ⟨image ++ '%' :: zone, by simp, ?_⟩
    rw [same, isImage, List.append_assoc, lowered]

/-- A host that may stand in brackets may do so in lower case. -/
theorem isBracketedHost_lowerHost {host : List Char} (isHost : isBracketedHost host = true) :
    isBracketedHost (lowerHost host) = true := by
  by_cases future : ∃ rest, host = 'v' :: rest
  · obtain ⟨rest, rfl⟩ := future
    obtain ⟨version, tail, rfl, hex, versioned, nonempty⟩ := isBracketedHost_version isHost
    obtain ⟨lowered, someText, same⟩ := lowerHost_future hex nonempty
    rw [← List.cons_append, same]
    apply isBracketedHost_future
    · have digits : isHexDigit ∘ Char.toLower = isHexDigit := funext isHexDigit_toLower
      rw [List.all_map, digits]
      exact hex
    · simpa using versioned
    · exact someText
  · push Not at future
    rw [isBracketedHost_address future, isIpv6, Bool.and_eq_true, decide_eq_true_eq] at isHost
    obtain ⟨noSlash, isAddress⟩ := isHost
    have slash : decide ('/' ∉ lowerHost host) = true :=
      decide_eq_true fun member => noSlash (lowerHost_special (by decide) member)
    rcases lowerHost_cases host with ⟨absent, same⟩ | ⟨before, zone, rfl, absent, same⟩
    · simp only [cut_eq_none.mpr absent] at isAddress
      have ascii : lowerChars host = host.map Char.toLower :=
        lowerChars_ascii fun character => isIpv6Number_ascii isAddress
      have lowered := isIpv6Number_lower isAddress
      have still : '%' ∉ lowerHost host :=
        fun member => absent (lowerHost_special (by decide) member)
      rw [isBracketedHost_address, isIpv6, slash, cut_eq_none.mpr still, same, ascii]
      · exact lowered
      · rw [same, ascii]
        simpa using @isIpv6Number_start _ [] lowered
    · simp only [cut_append absent] at isAddress
      rw [Bool.and_eq_true, Bool.and_eq_true] at isAddress
      have ascii : lowerChars before = before.map Char.toLower :=
        lowerChars_ascii fun character => isIpv6Number_ascii isAddress.2
      have lowered := isIpv6Number_lower isAddress.2
      have still : '%' ∉ before.map Char.toLower := by
        rw [← ascii]
        exact fun member => absent (lowerChars_special (by decide) member)
      rw [isBracketedHost_address, isIpv6, slash, same, ascii, cut_append still]
      · simp only [Bool.true_and, Bool.and_eq_true]
        exact ⟨isAddress.1, lowered⟩
      · rw [same, ascii]
        exact isIpv6Number_start lowered

end

theorem letter_notSpecial {character : Char} (letter : isAsciiAlpha character = true) :
    isUrlSpecial character = false := by
  have ascii : character.toNat < 128 := by
    simp only [isAsciiAlpha, Bool.or_eq_true, Bool.and_eq_true, decide_eq_true_eq] at letter
    rcases letter with ⟨_, upper⟩ | ⟨_, upper⟩
    · have below : character.toNat ≤ ('z' : Char).toNat := upper
      have : ('z' : Char).toNat = 122 := rfl
      omega
    · have below : character.toNat ≤ ('Z' : Char).toNat := upper
      have : ('Z' : Char).toNat = 90 := rfl
      omega
  have listed := ascii_compat ascii
  simp [isUrlSpecial, letter, listed]

theorem asciiCase_characters : @CharacterCase asciiCase := by
  let _ := asciiCase
  have lawful := asciiCase_lawful
  refine ⟨fun text => ⟨text.map fun character => [character.toLower], ?_, ?_⟩⟩
  · induction text with
    | nil => exact .nil
    | cons character rest ih =>
        refine .cons ⟨by simp, fun _ => rfl, ?_⟩ ih
        intro other isImage special
        obtain rfl := List.mem_singleton.mp isImage
        rcases toLower_letter character with same | letter
        · exact same
        · rw [letter_notSpecial letter] at special
          cases special
  · have same : lowerChars text = text.map Char.toLower := by
      rw [lowerChars]
      change (String.ofList ((String.ofList text).toList.map Char.toLower)).toList = _
      rw [String.toList_ofList, String.toList_ofList]
    rw [same, ← List.flatMap_def, List.map_eq_flatMap]

end CamAdmiral
