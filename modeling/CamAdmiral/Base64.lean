import Mathlib.Data.List.Basic

/-!
Base64 and hexadecimal text as bytes. The decoder of base64 skips what is not in the alphabet
and stops at the padding that completes a group of four; if it is strict it refuses both.
-/

namespace CamAdmiral

/-! The alphabet. -/

def base64Digit (byte : UInt8) : Option Nat :=
  let code := byte.toNat
  if 65 ≤ code ∧ code ≤ 90 then some (code - 65)
  else if 97 ≤ code ∧ code ≤ 122 then some (code - 71)
  else if 48 ≤ code ∧ code ≤ 57 then some (code + 4)
  else if code = 43 then some 62
  else if code = 47 then some 63
  else none

def base64Character (digit : Nat) : UInt8 :=
  if digit < 26 then UInt8.ofNat (digit + 65)
  else if digit < 52 then UInt8.ofNat (digit + 71)
  else if digit < 62 then UInt8.ofNat (digit - 4)
  else if digit = 62 then 43
  else 47

/-- `=`. -/
def base64Pad : UInt8 := 61

theorem base64Digit_ascii {byte : UInt8} (isDigit : (base64Digit byte).isSome = true) :
    byte.toNat < 128 := by
  by_contra high
  have undigit : base64Digit byte = none := by
    simp only [base64Digit]
    rw [if_neg (by omega), if_neg (by omega), if_neg (by omega), if_neg (by omega),
      if_neg (by omega)]
  rw [undigit] at isDigit
  cases isDigit

/-! The encoder. -/

def b64encode : List UInt8 → List UInt8
  | first :: second :: third :: rest =>
      base64Character (first.toNat / 4) ::
        base64Character (first.toNat % 4 * 16 + second.toNat / 16) ::
        base64Character (second.toNat % 16 * 4 + third.toNat / 64) ::
        base64Character (third.toNat % 64) :: b64encode rest
  | [first, second] => [base64Character (first.toNat / 4),
      base64Character (first.toNat % 4 * 16 + second.toNat / 16),
      base64Character (second.toNat % 16 * 4), base64Pad]
  | [first] => [base64Character (first.toNat / 4), base64Character (first.toNat % 4 * 16),
      base64Pad, base64Pad]
  | [] => []

/-! The decoder. -/

/-- The loop of `a2b_base64`: the digits of the group so far, the bits left of the last one, the
pads since then, and whether any padding was seen. `none` is an error. -/
def decodeGroups (strict : Bool) (position left pads : Nat) (padded : Bool) :
    List UInt8 → Option (List UInt8)
  | [] => if position = 0 then some [] else none
  | byte :: rest =>
      if byte = base64Pad then
        if 2 ≤ position ∧ 4 ≤ position + (pads + 1) then
          if strict ∧ rest ≠ [] then none else some []
        else
          decodeGroups strict position left (if 2 ≤ position then pads + 1 else pads) true rest
      else
        match base64Digit byte with
        | none => if strict then none else decodeGroups strict position left pads padded rest
        | some digit =>
            if strict ∧ padded then none
            else
              match position with
              | 0 => decodeGroups strict 1 digit 0 padded rest
              | 1 => (decodeGroups strict 2 (digit % 16) 0 padded rest).map
                  (UInt8.ofNat (left * 4 + digit / 16) :: ·)
              | 2 => (decodeGroups strict 3 (digit % 4) 0 padded rest).map
                  (UInt8.ofNat (left * 16 + digit / 4) :: ·)
              | _ => (decodeGroups strict 0 0 0 padded rest).map
                  (UInt8.ofNat (left * 64 + digit) :: ·)

def a2bBase64 (strict : Bool) (text : List UInt8) : Option (List UInt8) :=
  if strict ∧ text.head? = some base64Pad then none else decodeGroups strict 0 0 0 false text

/-! Digits are read back. -/

theorem base64Digit_character {digit : Nat} (small : digit < 64) :
    base64Digit (base64Character digit) = some digit ∧ base64Character digit ≠ base64Pad := by
  have all : ∀ digit < 64, base64Digit (base64Character digit) = some digit ∧
      base64Character digit ≠ base64Pad := by decide
  exact all digit small

section
variable {strict : Bool} {left pads : Nat} {rest : List UInt8} {digit : Nat}

theorem decodeGroups_first (small : digit < 64) :
    decodeGroups strict 0 left pads false (base64Character digit :: rest) =
      decodeGroups strict 1 digit 0 false rest := by
  simp [decodeGroups, base64Digit_character small]

theorem decodeGroups_second (small : digit < 64) :
    decodeGroups strict 1 left pads false (base64Character digit :: rest) =
      (decodeGroups strict 2 (digit % 16) 0 false rest).map
        (UInt8.ofNat (left * 4 + digit / 16) :: ·) := by
  simp [decodeGroups, base64Digit_character small]

theorem decodeGroups_third (small : digit < 64) :
    decodeGroups strict 2 left pads false (base64Character digit :: rest) =
      (decodeGroups strict 3 (digit % 4) 0 false rest).map
        (UInt8.ofNat (left * 16 + digit / 4) :: ·) := by
  simp [decodeGroups, base64Digit_character small]

theorem decodeGroups_fourth (small : digit < 64) :
    decodeGroups strict 3 left pads false (base64Character digit :: rest) =
      (decodeGroups strict 0 0 0 false rest).map (UInt8.ofNat (left * 64 + digit) :: ·) := by
  simp [decodeGroups, base64Digit_character small]

end

theorem ofNat_byte {byte : UInt8} {value : Nat} (same : value = byte.toNat) :
    UInt8.ofNat value = byte := by
  rw [same, UInt8.ofNat_toNat]

/-- What is encoded is decoded, strictly or not. -/
theorem decodeGroups_encoded (strict : Bool) (left pads : Nat) (bytes : List UInt8) :
    decodeGroups strict 0 left pads false (b64encode bytes) = some bytes := by
  induction bytes using b64encode.induct generalizing left pads with
  | case1 first second third rest ih =>
      have firstBound := first.toNat_lt
      have secondBound := second.toNat_lt
      have thirdBound := third.toNat_lt
      rw [b64encode, decodeGroups_first (by omega), decodeGroups_second (by omega),
        decodeGroups_third (by omega), decodeGroups_fourth (by omega), ih]
      simp only [Option.map_some, Option.some.injEq, List.cons.injEq, and_true]
      exact ⟨ofNat_byte (by omega), ofNat_byte (by omega), ofNat_byte (by omega)⟩
  | case2 first second =>
      have firstBound := first.toNat_lt
      have secondBound := second.toNat_lt
      rw [b64encode, decodeGroups_first (by omega), decodeGroups_second (by omega),
        decodeGroups_third (by omega)]
      have stops (left : Nat) : decodeGroups strict 3 left 0 false [base64Pad] = some [] := by
        simp [decodeGroups]
      rw [stops]
      simp only [Option.map_some, Option.some.injEq, List.cons.injEq, and_true]
      exact ⟨ofNat_byte (by omega), ofNat_byte (by omega)⟩
  | case3 first =>
      have firstBound := first.toNat_lt
      rw [b64encode, decodeGroups_first (by omega), decodeGroups_second (by omega)]
      have stops (left : Nat) :
          decodeGroups strict 2 left 0 false [base64Pad, base64Pad] = some [] := by
        simp [decodeGroups]
      rw [stops]
      simp only [Option.map_some, Option.some.injEq, List.cons.injEq, and_true]
      exact ofNat_byte (by omega)
  | case4 => rfl

/-! How much is decoded. -/

/-- Every character gives at most one byte. -/
theorem length_decodeGroups {strict : Bool} {position left pads : Nat} {padded : Bool}
    {text decoded : List UInt8}
    (isDecoded : decodeGroups strict position left pads padded text = some decoded) :
    decoded.length ≤ text.countP (· ≠ base64Pad) := by
  induction text generalizing position left pads padded decoded with
  | nil =>
      rw [decodeGroups] at isDecoded
      split at isDecoded
      · rw [← Option.some.inj isDecoded]
        exact Nat.zero_le _
      · cases isDecoded
  | cons byte rest ih =>
      rw [decodeGroups] at isDecoded
      split at isDecoded
      · rename_i isPad
        have same : (byte :: rest).countP (· ≠ base64Pad) = rest.countP (· ≠ base64Pad) :=
          List.countP_cons_of_neg (by simpa using isPad)
        split at isDecoded
        · split at isDecoded
          · cases isDecoded
          · rw [← Option.some.inj isDecoded]
            exact Nat.zero_le _
        · rw [same]
          exact ih isDecoded
      · rename_i notPad
        have more : (byte :: rest).countP (· ≠ base64Pad) = rest.countP (· ≠ base64Pad) + 1 :=
          List.countP_cons_of_pos (by simpa using notPad)
        have grown {position left pads : Nat} {padded : Bool} {added : UInt8}
            (isMapped : (decodeGroups strict position left pads padded rest).map (added :: ·) =
              some decoded) : decoded.length ≤ rest.countP (· ≠ base64Pad) + 1 := by
          obtain ⟨tail, isTail, rfl⟩ := Option.map_eq_some_iff.mp isMapped
          exact Nat.succ_le_succ (ih isTail)
        rw [more]
        split at isDecoded
        · split at isDecoded
          · cases isDecoded
          · exact Nat.le_succ_of_le (ih isDecoded)
        · split at isDecoded
          · cases isDecoded
          · split at isDecoded
            · exact Nat.le_succ_of_le (ih isDecoded)
            · exact grown isDecoded
            · exact grown isDecoded
            · exact grown isDecoded

/-- Text of digits only is decoded if they make up whole groups. -/
theorem decodeGroups_digits {strict : Bool} {position : Nat} (inGroup : position < 4)
    (left pads : Nat) {text : List UInt8}
    (digits : ∀ byte ∈ text, (base64Digit byte).isSome = true) :
    (decodeGroups strict position left pads false text).map List.length =
      if (position + text.length) % 4 = 0 then
        some ((position + text.length) / 4 * 3 - (position - 1))
      else none := by
  induction text generalizing position left pads with
  | nil =>
      rw [decodeGroups, List.length_nil, Nat.add_zero, Nat.mod_eq_of_lt inGroup]
      by_cases empty : position = 0
      · rw [if_pos empty, if_pos empty, empty]
        rfl
      · rw [if_neg empty, if_neg empty]
        rfl
  | cons byte rest ih =>
      have isDigit := digits byte List.mem_cons_self
      have others : ∀ byte ∈ rest, (base64Digit byte).isSome = true :=
        fun other member => digits other (List.mem_cons_of_mem byte member)
      have notPad : byte ≠ base64Pad := by
        rintro rfl
        exact absurd isDigit (by decide)
      obtain ⟨digit, isValue⟩ := Option.isSome_iff_exists.mp isDigit
      have counted {added : UInt8} (decoded : Option (List UInt8)) :
          (decoded.map (added :: ·)).map List.length =
            (decoded.map List.length).map Nat.succ := by
        rw [Option.map_map, Option.map_map]
        rfl
      rw [decodeGroups, if_neg notPad, isValue, List.length_cons]
      simp only [Bool.false_eq_true, and_false, if_false]
      obtain rfl | rfl | rfl | rfl : position = 0 ∨ position = 1 ∨ position = 2 ∨ position = 3 := by
        omega
      · simp only [ih (show 1 < 4 by decide) digit 0 others]
        rw [show 0 + (rest.length + 1) = 1 + rest.length by omega]
      · simp only [counted, ih (show 2 < 4 by decide) _ 0 others]
        rw [show 1 + (rest.length + 1) = 2 + rest.length by omega]
        split
        · rw [Option.map_some]
          exact congrArg some (by omega)
        · rfl
      · simp only [counted, ih (show 3 < 4 by decide) _ 0 others]
        rw [show 2 + (rest.length + 1) = 3 + rest.length by omega]
        split
        · rw [Option.map_some]
          exact congrArg some (by omega)
        · rfl
      · simp only [counted, ih (show 0 < 4 by decide) 0 0 others]
        by_cases whole : (0 + rest.length) % 4 = 0
        · rw [if_pos whole, if_pos (by omega), Option.map_some]
          exact congrArg some (by omega)
        · rw [if_neg whole, if_neg (by omega)]
          rfl

/-! Text without its padding. -/

theorem base64Character_digit {digit : Nat} (small : digit < 64) :
    (base64Digit (base64Character digit)).isSome = true := by
  rw [(base64Digit_character small).1]
  rfl

/-- The digits of the encoding. -/
def unpadded (text : List UInt8) : List UInt8 := text.filter (· ≠ base64Pad)

theorem unpadded_encode_digits (bytes : List UInt8) :
    ∀ byte ∈ unpadded (b64encode bytes), (base64Digit byte).isSome = true := by
  intro byte member
  obtain ⟨inText, notPad⟩ := List.mem_filter.mp member
  rw [decide_eq_true_eq] at notPad
  induction bytes using b64encode.induct with
  | case1 first second third rest ih =>
      have firstBound := first.toNat_lt
      have secondBound := second.toNat_lt
      have thirdBound := third.toNat_lt
      simp only [b64encode, List.mem_cons] at inText
      rcases inText with rfl | rfl | rfl | rfl | inRest
      · exact base64Character_digit (by omega)
      · exact base64Character_digit (by omega)
      · exact base64Character_digit (by omega)
      · exact base64Character_digit (by omega)
      · exact ih (List.mem_filter.mpr ⟨inRest, decide_eq_true notPad⟩) inRest
  | case2 first second =>
      have firstBound := first.toNat_lt
      have secondBound := second.toNat_lt
      simp only [b64encode, List.mem_cons, List.not_mem_nil, or_false] at inText
      rcases inText with rfl | rfl | rfl | isPad
      · exact base64Character_digit (by omega)
      · exact base64Character_digit (by omega)
      · exact base64Character_digit (by omega)
      · exact absurd isPad notPad
  | case3 first =>
      have firstBound := first.toNat_lt
      simp only [b64encode, List.mem_cons, List.not_mem_nil, or_false] at inText
      rcases inText with rfl | rfl | isPad | isPad
      · exact base64Character_digit (by omega)
      · exact base64Character_digit (by omega)
      · exact absurd isPad notPad
      · exact absurd isPad notPad
  | case4 => cases inText

/-- The padding completes the last group. -/
theorem b64encode_padding (bytes : List UInt8) :
    ∃ pads, b64encode bytes = unpadded (b64encode bytes) ++ List.replicate pads base64Pad ∧
      (unpadded (b64encode bytes)).length * 3 = bytes.length * 4 + pads ∧ pads < 3 ∧
      (bytes.length + pads) % 3 = 0 := by
  have keep {digit : Nat} (small : digit < 64) (rest : List UInt8) :
      unpadded (base64Character digit :: rest) = base64Character digit :: unpadded rest :=
    List.filter_cons_of_pos (decide_eq_true (base64Digit_character small).2)
  induction bytes using b64encode.induct with
  | case1 first second third rest ih =>
      have firstBound := first.toNat_lt
      have secondBound := second.toNat_lt
      have thirdBound := third.toNat_lt
      obtain ⟨pads, same, counted, few, whole⟩ := ih
      refine ⟨pads, ?_, ?_, few, ?_⟩
      · rw [b64encode, keep (by omega), keep (by omega), keep (by omega), keep (by omega)]
        simp only [List.cons_append]
        rw [← same]
      · rw [b64encode, keep (by omega), keep (by omega), keep (by omega), keep (by omega)]
        simp only [List.length_cons]
        omega
      · simp only [List.length_cons]
        omega
  | case2 first second =>
      have firstBound := first.toNat_lt
      have secondBound := second.toNat_lt
      refine ⟨1, ?_, ?_, by decide, by simp⟩
      · rw [b64encode, keep (by omega), keep (by omega), keep (by omega)]
        rfl
      · rw [b64encode, keep (by omega), keep (by omega), keep (by omega)]
        rfl
  | case3 first =>
      have firstBound := first.toNat_lt
      refine ⟨2, ?_, ?_, by decide, by simp⟩
      · rw [b64encode, keep (by omega), keep (by omega)]
        rfl
      · rw [b64encode, keep (by omega), keep (by omega)]
        rfl
  | case4 => exact ⟨0, rfl, rfl, by decide, rfl⟩

/-! Hexadecimal text. -/

def hexDigitValue (byte : UInt8) : Option Nat :=
  let code := byte.toNat
  if 48 ≤ code ∧ code ≤ 57 then some (code - 48)
  else if 65 ≤ code ∧ code ≤ 70 then some (code - 55)
  else if 97 ≤ code ∧ code ≤ 102 then some (code - 87)
  else none

/-- ASCII white space. -/
def isByteSpace (byte : UInt8) : Bool :=
  (9 ≤ byte.toNat && byte.toNat ≤ 13) || byte.toNat = 32

/-- `bytes.fromhex`, which skips white space between the bytes. -/
def fromHex : List UInt8 → Option (List UInt8)
  | [] => some []
  | byte :: rest =>
      if isByteSpace byte then fromHex rest
      else
        match rest with
        | [] => none
        | next :: others =>
            match hexDigitValue byte, hexDigitValue next with
            | some high, some low => (fromHex others).map (UInt8.ofNat (high * 16 + low) :: ·)
            | _, _ => none

/-- Two digits for each byte, in any case. -/
inductive HexText : List UInt8 → List UInt8 → Prop
  | nil : HexText [] []
  | cons {byte high low : UInt8} {bytes text : List UInt8}
      (isHigh : hexDigitValue high = some (byte.toNat / 16))
      (isLow : hexDigitValue low = some (byte.toNat % 16)) (rest : HexText bytes text) :
      HexText (byte :: bytes) (high :: low :: text)

theorem hexDigit_class {byte : UInt8} {value : Nat} (isDigit : hexDigitValue byte = some value) :
    isByteSpace byte = false ∧ (base64Digit byte).isSome = true := by
  have all : ∀ code < 256, (hexDigitValue (UInt8.ofNat code)).isSome = true →
      isByteSpace (UInt8.ofNat code) = false ∧
        (base64Digit (UInt8.ofNat code)).isSome = true := by
    decide +kernel
  have known := all byte.toNat byte.toNat_lt
  rw [UInt8.ofNat_toNat] at known
  exact known (by rw [isDigit]; rfl)

theorem HexText.decoded {bytes text : List UInt8} (isHex : HexText bytes text) :
    fromHex text = some bytes := by
  induction isHex with
  | nil => rfl
  | @cons byte high low bytes text isHigh isLow _ ih =>
      have bound := byte.toNat_lt
      rw [fromHex, (hexDigit_class isHigh).1, if_neg Bool.false_ne_true]
      simp only [isHigh, isLow, ih, Option.map_some, Option.some.injEq, List.cons.injEq, and_true]
      exact ofNat_byte (by omega)

theorem HexText.length {bytes text : List UInt8} (isHex : HexText bytes text) :
    text.length = 2 * bytes.length := by
  induction isHex with
  | nil => rfl
  | cons _ _ _ ih =>
      simp only [List.length_cons]
      omega

theorem HexText.digits {bytes text : List UInt8} (isHex : HexText bytes text) :
    ∀ byte ∈ text, isByteSpace byte = false ∧ (base64Digit byte).isSome = true := by
  induction isHex with
  | nil => exact nofun
  | cons isHigh isLow _ ih =>
      intro byte member
      rcases List.mem_cons.mp member with rfl | member
      · exact hexDigit_class isHigh
      · rcases List.mem_cons.mp member with rfl | member
        · exact hexDigit_class isLow
        · exact ih byte member

/-- Every byte of the result takes two characters. -/
theorem length_fromHex {text bytes : List UInt8} (isDecoded : fromHex text = some bytes) :
    2 * bytes.length ≤ text.length := by
  induction text using fromHex.induct generalizing bytes with
  | case1 =>
      rw [fromHex] at isDecoded
      rw [← Option.some.inj isDecoded]
      exact Nat.zero_le _
  | case2 byte rest space ih =>
      rw [fromHex.eq_def] at isDecoded
      simp only [space, if_true] at isDecoded
      have := ih isDecoded
      rw [List.length_cons]
      omega
  | case3 byte space =>
      rw [fromHex] at isDecoded
      simp only [space] at isDecoded
      cases isDecoded
  | case4 byte space next others high low isHigh isLow ih =>
      rw [fromHex] at isDecoded
      simp only [space, isHigh, isLow] at isDecoded
      obtain ⟨tail, isTail, rfl⟩ := Option.map_eq_some_iff.mp isDecoded
      have := ih isTail
      simp only [List.length_cons]
      omega
  | case5 byte space next others undigits =>
      rw [fromHex] at isDecoded
      simp only [space, Bool.false_eq_true, if_false] at isDecoded
      cases isDecoded

end CamAdmiral
