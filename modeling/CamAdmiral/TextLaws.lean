import CamAdmiral.TextCore
import Mathlib.Data.List.DropRight

/-!
Laws of `str.strip`, and those of `str.lower` that hold whatever Unicode tables the
interpreter has.
-/

namespace CamAdmiral

/-- `str.lower` has nothing left to do on its own result and brings no white space to the ends
of a text. -/
class LawfulTextCase [TextCase] : Prop where
  lower_lower : ∀ text, TextCase.lower (TextCase.lower text) = TextCase.lower text
  strip_lower : ∀ text, strip text = text → strip (TextCase.lower text) = TextCase.lower text

/-! `str.strip`. -/

/-- Dropping at the end does not uncover a dropped character at the start. -/
theorem dropWhile_reverse_dropWhile {α : Type*} (drops : α → Bool) (rest : List α)
    (stops : ∀ first ∈ rest.head?, drops first = false) :
    ((rest.reverse.dropWhile drops).reverse).dropWhile drops =
      (rest.reverse.dropWhile drops).reverse := by
  obtain ⟨suffix, same⟩ := List.dropWhile_suffix (l := rest.reverse) drops
  have split : (rest.reverse.dropWhile drops).reverse ++ suffix.reverse = rest := by
    rw [← List.reverse_append, same, List.reverse_reverse]
  cases kept : (rest.reverse.dropWhile drops).reverse with
  | nil => rfl
  | cons first others =>
      rw [kept] at split
      have isFirst : first ∈ rest.head? := by
        rw [← split]
        rfl
      rw [List.dropWhile_cons, stops first isFirst]
      rfl

theorem head_dropWhile {α : Type*} (drops : α → Bool) (rest : List α) :
    ∀ first ∈ (rest.dropWhile drops).head?, drops first = false := by
  intro first isFirst
  induction rest with
  | nil => cases isFirst
  | cons head tail ih =>
      cases dropped : drops head with
      | true => exact ih (by simpa [List.dropWhile_cons, dropped] using isFirst)
      | false =>
          obtain rfl : head = first := by simpa [List.dropWhile_cons, dropped] using isFirst
          exact dropped

theorem strip_strip (text : String) : strip (strip text) = strip text := by
  simp only [strip, String.toList_ofList]
  rw [dropWhile_reverse_dropWhile isSpace (text.toList.dropWhile isSpace)
    (head_dropWhile isSpace _), List.reverse_reverse, List.dropWhile_idempotent]

/-- A list is kept exactly if neither end is dropped. -/
theorem dropEnds_eq_self {α : Type*} {drops : α → Bool} {items : List α} :
    ((items.dropWhile drops).reverse.dropWhile drops).reverse = items ↔
      (∀ first ∈ items.head?, drops first = false) ∧
        ∀ last ∈ items.getLast?, drops last = false := by
  constructor
  · intro kept
    have started : items.dropWhile drops = items := by
      apply (List.dropWhile_sublist drops).eq_of_length_le
      calc items.length
          = ((items.dropWhile drops).reverse.dropWhile drops).length := by
            conv_lhs => rw [← kept, List.length_reverse]
        _ ≤ (items.dropWhile drops).reverse.length := (List.dropWhile_sublist drops).length_le
        _ = (items.dropWhile drops).length := List.length_reverse
    refine ⟨?_, fun last isLast => ?_⟩
    · rw [← started]
      exact head_dropWhile drops items
    · rw [← kept, List.getLast?_reverse] at isLast
      exact head_dropWhile drops _ last isLast
  · rintro ⟨starts, ends⟩
    have stays {others : List α} (plain : ∀ first ∈ others.head?, drops first = false) :
        others.dropWhile drops = others := by
      cases others with
      | nil => rfl
      | cons first rest =>
          rw [List.dropWhile_cons_of_neg]
          simpa using plain first rfl
    rw [stays starts, stays (by rwa [List.head?_reverse]), List.reverse_reverse]

/-- Text without white space at its ends is kept. -/
theorem strip_eq_self {text : String}
    (starts : ∀ character ∈ text.toList.head?, isSpace character = false)
    (ends : ∀ character ∈ text.toList.getLast?, isSpace character = false) :
    strip text = text := by
  rw [strip, dropEnds_eq_self.mpr ⟨starts, ends⟩, String.ofList_toList]

/-- What is left has no white space at its end. -/
theorem strip_last (text : String) :
    ∀ character ∈ (strip text).toList.getLast?, isSpace character = false := by
  intro character isLast
  rw [strip, String.toList_ofList, List.getLast?_reverse] at isLast
  exact head_dropWhile isSpace _ character isLast

theorem strip_subset (text : String) : (strip text).toList ⊆ text.toList := by
  intro character member
  rw [strip, String.toList_ofList, List.mem_reverse] at member
  have inRest := (List.dropWhile_sublist _).subset member
  exact (List.dropWhile_sublist _).subset (List.mem_reverse.mp inRest)

/-! `str.lower` on ASCII text. -/

theorem toLower_cases (character : Char) :
    character.toLower = character ∨ (65 ≤ character.toNat ∧ character.toNat ≤ 90 ∧
      character.toLower.toNat = character.toNat + 32) := by
  unfold Char.toLower
  split
  · rename_i upper
    simp only [ge_iff_le, UInt32.le_iff_toNat_le, Char.toNat_val] at upper
    have lowest : ('A' : Char).toNat = 65 := rfl
    have highest : ('Z' : Char).toNat = 90 := rfl
    have shift : ('a'.val - 'A'.val).toNat = 32 := rfl
    refine .inr ⟨by omega, by omega, ?_⟩
    rw [← Char.toNat_val, UInt32.toNat_add, shift, Char.toNat_val]
    omega
  · exact .inl rfl

theorem toLower_toLower (character : Char) : character.toLower.toLower = character.toLower := by
  rcases toLower_cases character with same | ⟨_, _, shifted⟩
  · rw [same, same]
  · rcases toLower_cases character.toLower with same | ⟨_, _, _⟩
    · exact same
    · omega

theorem isSpace_toLower (character : Char) : isSpace character.toLower = isSpace character := by
  rcases toLower_cases character with same | ⟨lower, upper, shifted⟩
  · rw [same]
  · simp only [isSpace, shifted]
    rw [Bool.eq_iff_iff]
    simp only [Bool.or_eq_true, Bool.and_eq_true, decide_eq_true_eq, beq_iff_eq]
    omega

theorem strip_map {change : Char → Char}
    (sameSpace : ∀ character, isSpace (change character) = isSpace character) (text : String) :
    strip (String.ofList (text.toList.map change)) =
      String.ofList ((strip text).toList.map change) := by
  have same : isSpace ∘ change = isSpace := funext sameSpace
  simp only [strip, String.toList_ofList, List.dropWhile_map, same, ← List.map_reverse]

/-! Numbers in decimal. -/

theorem digitChar_toNat : ∀ digit : Fin 10, (Nat.digitChar digit).toNat = 48 + digit := by
  decide

theorem decimal_concat (digits : List Char) (digit : Char) :
    decimal (digits ++ [digit]) = decimal digits * 10 + (digit.toNat - '0'.toNat) := by
  rw [decimal, List.foldl_append]
  rfl

theorem toDigits_digits {number : Nat} {digit : Char} (member : digit ∈ Nat.toDigits 10 number) :
    48 ≤ digit.toNat ∧ digit.toNat ≤ 57 := by
  have isDigit := Nat.isDigit_of_mem_toDigits (by decide) (by decide) member
  rw [Char.isDigit, Bool.and_eq_true, decide_eq_true_eq, decide_eq_true_eq] at isDigit
  exact isDigit

theorem isDecimal_toDigits (number : Nat) : isDecimal (Nat.toDigits 10 number) = true := by
  rw [isDecimal, Bool.and_eq_true]
  refine ⟨by simp, List.all_eq_true.mpr ?_⟩
  intro digit member
  rw [Bool.and_eq_true, decide_eq_true_eq, decide_eq_true_eq]
  exact toDigits_digits member

theorem decimal_toDigits (number : Nat) : decimal (Nat.toDigits 10 number) = number := by
  have zero : ('0' : Char).toNat = 48 := rfl
  induction number using Nat.strongRecOn with
  | _ number ih =>
      rw [Nat.toDigits_eq_if (by decide)]
      split
      · rename_i small
        have digit : (Nat.digitChar number).toNat = 48 + number := digitChar_toNat ⟨number, small⟩
        have alone := decimal_concat [] (Nat.digitChar number)
        rw [List.nil_append] at alone
        rw [alone, digit, zero, decimal, List.foldl_nil]
        omega
      · rename_i large
        have digit : (Nat.digitChar (number % 10)).toNat = 48 + number % 10 :=
          digitChar_toNat ⟨number % 10, Nat.mod_lt _ (by decide)⟩
        rw [decimal_concat, ih (number / 10) (by omega), digit, zero]
        omega

theorem asciiCase_lawful : @LawfulTextCase asciiCase := by
  let _ := asciiCase
  have lower (text : String) :
      TextCase.lower text = String.ofList (text.toList.map Char.toLower) := rfl
  constructor
  · intro text
    simp only [lower, String.toList_ofList, List.map_map]
    congr 2
    exact funext toLower_toLower
  · intro text stripped
    rw [lower, strip_map isSpace_toLower, stripped]

end CamAdmiral
