import Mathlib.Data.List.Basic

/-!
Substitution of the matches of a pattern, from left to right: after a match the search goes on
behind it. A pattern sees the character before a position and the text from it.
-/

namespace CamAdmiral

variable {α : Type*}

/-- The length of the match at a position, which is not empty, and what takes its place. -/
abbrev Finder (α : Type*) := Option α → List α → Option (Nat × List α)

/-- The substitution after some characters that a match has taken. -/
def substituteFrom (find : Finder α) : Nat → Option α → List α → List α
  | _, _, [] => []
  | skipped + 1, _, character :: rest => substituteFrom find skipped (some character) rest
  | 0, previous, character :: rest =>
      match find previous (character :: rest) with
      | none => character :: substituteFrom find 0 (some character) rest
      | some (taken, replacement) =>
          replacement ++ substituteFrom find (taken - 1) (some character) rest

def substitute (find : Finder α) (text : List α) : List α := substituteFrom find 0 none text

/-- The last character of a text, or the one before it. -/
def lastOr (previous : Option α) (text : List α) : Option α := text.getLast?.or previous

theorem lastOr_cons (previous : Option α) (character : α) (rest : List α) :
    lastOr previous (character :: rest) = lastOr (some character) rest := by
  rw [lastOr, lastOr, List.getLast?_cons]
  cases rest.getLast? <;> rfl

theorem lastOr_append (previous : Option α) (first second : List α) :
    lastOr previous (first ++ second) = lastOr (lastOr previous first) second := by
  rw [lastOr, lastOr, lastOr, List.getLast?_append, Option.or_assoc]

theorem lastOr_concat (previous : Option α) (text : List α) (character : α) :
    lastOr previous (text ++ [character]) = some character := by
  rw [lastOr, List.getLast?_concat]
  rfl

variable {find : Finder α}

theorem substituteFrom_none {previous : Option α} {character : α} {rest : List α}
    (unfound : find previous (character :: rest) = none) :
    substituteFrom find 0 previous (character :: rest) =
      character :: substituteFrom find 0 (some character) rest := by
  rw [substituteFrom, unfound]

theorem substituteFrom_some {previous : Option α} {character : α} {rest replacement : List α}
    {taken : Nat} (found : find previous (character :: rest) = some (taken, replacement)) :
    substituteFrom find 0 previous (character :: rest) =
      replacement ++ substituteFrom find (taken - 1) (some character) rest := by
  rw [substituteFrom, found]

theorem substituteFrom_skipped (skipped : List α) (previous : Option α) (rest : List α) :
    substituteFrom find skipped.length previous (skipped ++ rest) =
      substituteFrom find 0 (lastOr previous skipped) rest := by
  induction skipped generalizing previous with
  | nil => rfl
  | cons character others ih =>
      rw [List.length_cons, List.cons_append, substituteFrom, ih, lastOr_cons]

/-- A match of a part of the text is replaced, and the search goes on behind it. -/
theorem substituteFrom_match {previous : Option α} {part rest replacement : List α}
    (nonempty : part ≠ [])
    (found : find previous (part ++ rest) = some (part.length, replacement)) :
    substituteFrom find 0 previous (part ++ rest) =
      replacement ++ substituteFrom find 0 (lastOr previous part) rest := by
  cases part with
  | nil => exact absurd rfl nonempty
  | cons character others =>
      rw [List.cons_append] at found ⊢
      rw [substituteFrom_some found, List.length_cons, Nat.add_sub_cancel,
        substituteFrom_skipped, lastOr_cons]

/-- A part of the text without a match stays. -/
theorem substituteFrom_passed {previous : Option α} {part rest : List α}
    (unfound : ∀ earlier character later, part = earlier ++ character :: later →
      find (lastOr previous earlier) (character :: later ++ rest) = none) :
    substituteFrom find 0 previous (part ++ rest) =
      part ++ substituteFrom find 0 (lastOr previous part) rest := by
  induction part generalizing previous with
  | nil => rfl
  | cons character others ih =>
      have first : find previous (character :: (others ++ rest)) = none :=
        unfound [] character others rfl
      rw [List.cons_append, substituteFrom_none first, lastOr_cons, List.cons_append, ih]
      rintro earlier other later rfl
      rw [← lastOr_cons previous]
      exact unfound (character :: earlier) other later rfl

/-! Text around a place. A position before the place is open if what the pattern finds there may
depend on what follows the place. -/

section
variable {Open : Option α → List α → Prop}

/-- A suffix of the text before the place is open. -/
def Opens (Open : Option α → List α → Prop) (previous : Option α) (before : List α) : Prop :=
  ∃ earlier rest, before = earlier ++ rest ∧ Open (lastOr previous earlier) rest

theorem Opens.cons {previous : Option α} {character : α} {rest : List α}
    (opened : Opens Open (some character) rest) : Opens Open previous (character :: rest) := by
  obtain ⟨earlier, later, rfl, isOpen⟩ := opened
  exact ⟨character :: earlier, later, rfl, (lastOr_cons previous character earlier).symm ▸ isOpen⟩

/-- Where a position is not open, the pattern finds what it finds without the following text, and
its match takes no open position. -/
structure Separates (find : Finder α) (Open : Option α → List α → Prop) (following : List α) :
    Prop where
  same : ∀ previous character rest, ¬ Open previous (character :: rest) →
    find previous (character :: (rest ++ following)) = find previous (character :: rest)
  inside : ∀ previous text taken replacement,
    find previous text = some (taken, replacement) → taken ≤ text.length
  passes : ∀ previous text taken replacement, ¬ Open previous text →
    find previous text = some (taken, replacement) → ∀ earlier rest, text = earlier ++ rest →
      earlier.length < taken → ¬ Open (lastOr previous earlier) rest

variable {previous : Option α} {before following other : List α}

/-- Without an open position, the text before the place is substituted alone. -/
theorem Separates.append (separates : Separates find Open following)
    (closed : ¬ Opens Open previous before) :
    substituteFrom find 0 previous (before ++ following) =
      substituteFrom find 0 previous before ++
        substituteFrom find 0 (lastOr previous before) following := by
  suffices general : ∀ skipped, skipped ≤ before.length →
      substituteFrom find skipped previous (before ++ following) =
        substituteFrom find skipped previous before ++
          substituteFrom find 0 (lastOr previous before) following from
    general 0 (Nat.zero_le _)
  induction before generalizing previous with
  | nil =>
      intro skipped within
      rw [Nat.le_zero.mp within]
      rfl
  | cons character rest ih =>
      intro skipped within
      have closedRest := ih fun opened => closed opened.cons
      rw [lastOr_cons, List.cons_append]
      cases skipped with
      | succ skipped => exact closedRest skipped (Nat.le_of_succ_le_succ within)
      | zero =>
          have same := separates.same previous character rest fun isOpen =>
            closed ⟨[], character :: rest, rfl, isOpen⟩
          cases found : find previous (character :: rest) with
          | none =>
              rw [substituteFrom_none (same.trans found), substituteFrom_none found,
                closedRest 0 (Nat.zero_le _), List.cons_append]
          | some part =>
              have inside := separates.inside previous _ part.1 part.2 found
              rw [List.length_cons] at inside
              rw [substituteFrom_some (same.trans found), substituteFrom_some found,
                closedRest (part.1 - 1) (by omega), List.append_assoc]

/-- From an open position on, two following texts that give the same give the same from the
start. -/
theorem Separates.opened (separates : Separates find Open following)
    (separatesOther : Separates find Open other)
    (here : ∀ previous rest, Open previous rest →
      substituteFrom find 0 previous (rest ++ following) =
        substituteFrom find 0 previous (rest ++ other))
    (opened : Opens Open previous before) :
    substituteFrom find 0 previous (before ++ following) =
      substituteFrom find 0 previous (before ++ other) := by
  obtain ⟨earlier, rest, rfl, isOpen⟩ := opened
  suffices general : ∀ skipped, skipped ≤ earlier.length →
      substituteFrom find skipped previous (earlier ++ rest ++ following) =
        substituteFrom find skipped previous (earlier ++ rest ++ other) from
    general 0 (Nat.zero_le _)
  induction earlier generalizing previous with
  | nil =>
      intro skipped within
      rw [Nat.le_zero.mp within]
      exact here previous rest isOpen
  | cons character later ih =>
      intro skipped within
      rw [lastOr_cons] at isOpen
      have laterSame := ih isOpen
      simp only [List.cons_append]
      cases skipped with
      | succ skipped => exact laterSame skipped (Nat.le_of_succ_le_succ within)
      | zero =>
          by_cases first : Open previous (character :: (later ++ rest))
          · exact here previous (character :: (later ++ rest)) first
          · have same := separates.same previous character (later ++ rest) first
            have sameOther := separatesOther.same previous character (later ++ rest) first
            cases found : find previous (character :: (later ++ rest)) with
            | none =>
                rw [substituteFrom_none (same.trans found),
                  substituteFrom_none (sameOther.trans found), laterSame 0 (Nat.zero_le _)]
            | some part =>
                have before : part.1 ≤ (character :: later).length := by
                  by_contra beyond
                  refine separates.passes previous _ part.1 part.2 first found
                    (character :: later) rest rfl (Nat.lt_of_not_le beyond) ?_
                  rw [lastOr_cons]
                  exact isOpen
                rw [List.length_cons] at before
                rw [substituteFrom_some (same.trans found),
                  substituteFrom_some (sameOther.trans found), laterSame (part.1 - 1) (by omega)]

end

end CamAdmiral
