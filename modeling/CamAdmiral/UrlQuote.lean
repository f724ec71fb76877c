import CamAdmiral.UrlSplit

/-!
`urllib.parse.quote` with no safe characters and `urllib.parse.unquote`, whose bytes are decoded
as UTF-8 with `errors="replace"`.
-/

namespace CamAdmiral

def hexValue (digit : Char) : Nat :=
  if digit ≤ '9' then digit.toNat - '0'.toNat
  else if digit ≤ 'F' then digit.toNat - 'A'.toNat + 10
  else digit.toNat - 'a'.toNat + 10

/-- The bytes of the escapes and of the ASCII characters; other characters stand for themselves. -/
def unquoteItems : List Char → List (UInt8 ⊕ Char)
  | [] => []
  | '%' :: high :: low :: rest =>
      if isHexDigit high && isHexDigit low then
        .inl (UInt8.ofNat (hexValue high * 16 + hexValue low)) :: unquoteItems rest
      else
        .inl (UInt8.ofNat '%'.toNat) :: unquoteItems (high :: low :: rest)
  | character :: rest =>
      (if character.toNat < 128 then .inl (UInt8.ofNat character.toNat) else .inr character) ::
        unquoteItems rest

def isContinuation (byte : UInt8) : Bool := 0x80 ≤ byte && byte ≤ 0xBF

/-- Whether the second byte may follow the first in a sequence of three or four bytes. -/
def mayFollow (first second : UInt8) : Bool :=
  if first = 0xE0 then 0xA0 ≤ second && second ≤ 0xBF
  else if first = 0xED then 0x80 ≤ second && second ≤ 0x9F
  else if first = 0xF0 then 0x90 ≤ second && second ≤ 0xBF
  else if first = 0xF4 then 0x80 ≤ second && second ≤ 0x8F
  else isContinuation second

/-- How many bytes one replacement character stands for. -/
def replacedBytes (bytes : List UInt8) : Nat :=
  match bytes with
  | first :: second :: rest =>
      if 0xE0 ≤ first && first ≤ 0xF4 && mayFollow first second then
        if 0xF0 ≤ first && rest.head?.any isContinuation then 3 else 2
      else 1
  | _ => 1

def decodeReplaceFrom : Nat → List UInt8 → List Char
  | 0, _ => []
  | _, [] => []
  | fuel + 1, bytes =>
      match bytes.toByteArray.utf8DecodeChar? 0 with
      | some character => character :: decodeReplaceFrom fuel (bytes.drop character.utf8Size)
      | none => '\uFFFD' :: decodeReplaceFrom fuel (bytes.drop (replacedBytes bytes))

/-- `bytes.decode("utf-8", "replace")`. -/
def decodeReplace (bytes : List UInt8) : List Char := decodeReplaceFrom bytes.length bytes

def decodeItems (pending : List UInt8) : List (UInt8 ⊕ Char) → List Char
  | [] => decodeReplace pending
  | .inl byte :: rest => decodeItems (pending ++ [byte]) rest
  | .inr character :: rest => decodeReplace pending ++ character :: decodeItems [] rest

def unquote (text : List Char) : List Char := decodeItems [] (unquoteItems text)

def isAlwaysSafe (character : Char) : Bool :=
  isAsciiAlpha character || ('0' ≤ character && character ≤ '9') ||
    character ∈ ['_', '.', '-', '~']

def hexUpper (value : Nat) : Char :=
  Char.ofNat (if value < 10 then '0'.toNat + value else 'A'.toNat + (value - 10))

def quoteByte (byte : UInt8) : List Char :=
  if isAlwaysSafe (Char.ofNat byte.toNat) then [Char.ofNat byte.toNat]
  else ['%', hexUpper (byte.toNat / 16), hexUpper (byte.toNat % 16)]

/-- `quote(text, safe="")`. -/
def quote (text : List Char) : List Char :=
  (text.flatMap String.utf8EncodeChar).flatMap quoteByte

/-! Unquoting what was quoted. -/

theorem hexUpper_digit : ∀ value : Fin 16,
    isHexDigit (hexUpper value) = true ∧ hexValue (hexUpper value) = value := by
  decide

theorem alwaysSafe_plain {character : Char} (safe : isAlwaysSafe character = true) :
    character ≠ '%' ∧ character.toNat < 128 := by
  have bound {low high : Char} (within : (low ≤ character && character ≤ high) = true) :
      character.toNat ≤ high.toNat := by
    rw [Bool.and_eq_true, decide_eq_true_eq, decide_eq_true_eq] at within
    exact within.2
  constructor
  · rintro rfl
    exact absurd safe (by decide)
  · simp only [isAlwaysSafe, isAsciiAlpha, Bool.or_eq_true, decide_eq_true_eq, List.mem_cons,
      List.not_mem_nil, or_false] at safe
    rcases safe with ((lower | upper) | digit) | rfl | rfl | rfl | rfl
    · have := bound lower
      have : ('z' : Char).toNat = 122 := rfl
      omega
    · have := bound upper
      have : ('Z' : Char).toNat = 90 := rfl
      omega
    · have := bound digit
      have : ('9' : Char).toNat = 57 := rfl
      omega
    · decide
    · decide
    · decide
    · decide

theorem unquoteItems_quoteByte (byte : UInt8) (rest : List Char) :
    unquoteItems (quoteByte byte ++ rest) = .inl byte :: unquoteItems rest := by
  have small : byte.toNat < 256 := byte.toNat_lt
  have valid : byte.toNat.isValidChar := .inl (by omega)
  have isCharacter : (Char.ofNat byte.toNat).toNat = byte.toNat := by
    rw [Char.ofNat, dif_pos valid]
    rfl
  rw [quoteByte]
  split
  · rename_i safe
    obtain ⟨notPercent, ascii⟩ := alwaysSafe_plain safe
    rw [List.singleton_append, unquoteItems.eq_3 _ _ (by
      intro _ _ _ isPercent
      exact absurd isPercent notPercent)]
    rw [if_pos ascii, isCharacter, UInt8.ofNat_toNat]
  · have high := hexUpper_digit ⟨byte.toNat / 16, by omega⟩
    have low := hexUpper_digit ⟨byte.toNat % 16, by omega⟩
    have whole : byte.toNat / 16 * 16 + byte.toNat % 16 = byte.toNat := by omega
    simp only [List.cons_append, List.nil_append, unquoteItems, high.1, low.1, high.2, low.2,
      Bool.and_self, if_true, whole, UInt8.ofNat_toNat]

theorem unquoteItems_quote (bytes : List UInt8) :
    unquoteItems (bytes.flatMap quoteByte) = bytes.map .inl := by
  induction bytes with
  | nil => rfl
  | cons byte rest ih =>
      rw [List.flatMap_cons, unquoteItems_quoteByte, ih, List.map_cons]

theorem decodeItems_bytes (pending bytes : List UInt8) :
    decodeItems pending (bytes.map .inl) = decodeReplace (pending ++ bytes) := by
  induction bytes generalizing pending with
  | nil => rw [List.append_nil]; rfl
  | cons byte rest ih =>
      rw [List.map_cons, decodeItems, ih, List.append_assoc, List.singleton_append]

/-- Valid UTF-8 is decoded character by character. -/
theorem decodeReplaceFrom_encoded (text : List Char) {fuel : Nat}
    (enough : (text.flatMap String.utf8EncodeChar).length ≤ fuel) :
    decodeReplaceFrom fuel (text.flatMap String.utf8EncodeChar) = text := by
  induction text generalizing fuel with
  | nil => cases fuel <;> rfl
  | cons character rest ih =>
      rw [List.flatMap_cons] at enough ⊢
      rw [List.length_append, String.length_utf8EncodeChar] at enough
      have positive := character.utf8Size_pos
      cases fuel with
      | zero => omega
      | succ fuel =>
          obtain ⟨first, others, isFirst⟩ :=
            List.exists_cons_of_ne_nil (String.utf8EncodeChar_ne_nil (c := character))
          have decoded : (String.utf8EncodeChar character ++
              rest.flatMap String.utf8EncodeChar).toByteArray.utf8DecodeChar? 0 =
                some character := by
            rw [List.toByteArray_append]
            exact ByteArray.utf8DecodeChar?_utf8EncodeChar_append
          have dropped : (String.utf8EncodeChar character ++
              rest.flatMap String.utf8EncodeChar).drop character.utf8Size =
                rest.flatMap String.utf8EncodeChar := by
            rw [← String.length_utf8EncodeChar, List.drop_left]
          rw [decodeReplaceFrom.eq_3 _ _ (by simp [isFirst]), decoded]
          simp only [dropped]
          rw [ih (by omega)]

theorem unquote_quote (text : List Char) : unquote (quote text) = text := by
  rw [unquote, quote, unquoteItems_quote, decodeItems_bytes, List.nil_append, decodeReplace,
    decodeReplaceFrom_encoded text le_rfl]

/-- Quoted text has no delimiter of a URL. -/
theorem quote_plain {text : List Char} {character : Char} (member : character ∈ quote text) :
    isAlwaysSafe character = true ∨ character = '%' := by
  obtain ⟨byte, _, isQuoted⟩ := List.mem_flatMap.mp member
  rw [quoteByte] at isQuoted
  split at isQuoted
  · rename_i safe
    rw [List.mem_singleton.mp isQuoted]
    exact .inl safe
  · have hex : ∀ value : Fin 16, isAlwaysSafe (hexUpper value) = true := by decide
    have small : byte.toNat < 256 := byte.toNat_lt
    simp only [List.mem_cons, List.not_mem_nil, or_false] at isQuoted
    rcases isQuoted with rfl | rfl | rfl
    · exact .inr rfl
    · exact .inl (hex ⟨byte.toNat / 16, by omega⟩)
    · exact .inl (hex ⟨byte.toNat % 16, by omega⟩)

theorem quote_eq_nil {text : List Char} : quote text = [] ↔ text = [] := by
  constructor
  · intro empty
    rw [← unquote_quote text, empty]
    rfl
  · rintro rfl
    rfl

end CamAdmiral
