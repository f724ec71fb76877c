import Mathlib.Logic.Function.Basic

/-!
A document that several holders change in parts of their own, each with a record of how to put
its part back. Outside the parts the document is as it was at the start; what a record says
about its part depends on that part alone.
-/

namespace CamAdmiral

variable {κ ρ α γ : Type*}

/-- The part that a holder has with a record, and what has to be true of the document then. -/
structure Custody (κ ρ α γ : Type*) where
  part : κ → ρ → α → Prop
  kept : κ → ρ → (α → γ) → Prop
  onlyPart : ∀ {holder record} {held later : α → γ},
    (∀ place, part holder record place → later place = held place) →
      kept holder record held → kept holder record later

namespace Custody

variable (custody : Custody κ ρ α γ)

/-- The records account for every difference between the document and its start. -/
structure Accounts (start : α → γ) (records : κ → Option ρ) (held : α → γ) : Prop where
  apart : ∀ {holder other record otherRecord place}, records holder = some record →
    records other = some otherRecord → custody.part holder record place →
      custody.part other otherRecord place → holder = other
  kept : ∀ {holder record}, records holder = some record → custody.kept holder record held
  outside : ∀ place, (∀ holder record, records holder = some record →
    ¬ custody.part holder record place) → held place = start place

namespace Accounts

variable {custody} {start held later : α → γ} {records laterRecords : κ → Option ρ}
  {holder : κ} {record : ρ}

theorem nothing (none : ∀ holder, records holder = none) :
    custody.Accounts start records start where
  apart isRecord := by
    rw [none] at isRecord
    cases isRecord
  kept isRecord := by
    rw [none] at isRecord
    cases isRecord
  outside _ _ := rfl

/-- What is outside of every part now was so before, or belongs to a holder that has let go. -/
theorem outside_of (accounts : custody.Accounts start records held)
    (others : ∀ other, other ≠ holder → laterRecords other = records other) {place : α}
    (isFree : ∀ other otherRecord, laterRecords other = some otherRecord →
      ¬ custody.part other otherRecord place)
    (covers : ∀ earlier, records holder = some earlier → custody.part holder earlier place →
      held place = start place) : held place = start place := by
  by_cases inEarlier : ∃ earlier, records holder = some earlier ∧ custody.part holder earlier place
  · obtain ⟨earlier, isEarlier, inPart⟩ := inEarlier
    exact covers earlier isEarlier inPart
  · refine accounts.outside place fun other otherRecord isOther inOther => ?_
    by_cases same : other = holder
    · subst same
      exact inEarlier ⟨otherRecord, isOther, inOther⟩
    · exact isFree other otherRecord ((others other same).trans isOther) inOther

/-- A holder changes its own part, and what it records about that part. -/
theorem replace {next : ρ} (accounts : custody.Accounts start records held)
    (isRecord : records holder = some record) (isNext : laterRecords holder = some next)
    (others : ∀ other, other ≠ holder → laterRecords other = records other)
    (samePart : ∀ place, custody.part holder next place ↔ custody.part holder record place)
    (only : ∀ place, ¬ custody.part holder record place → later place = held place)
    (isKept : custody.kept holder next later) :
    custody.Accounts start laterRecords later := by
  have found {other : κ} {otherRecord : ρ} {place : α}
      (isOther : laterRecords other = some otherRecord)
      (inOther : custody.part other otherRecord place) :
      ∃ earlier, records other = some earlier ∧ custody.part other earlier place := by
    by_cases same : other = holder
    · subst same
      obtain rfl := Option.some.inj (isOther.symm.trans isNext)
      exact ⟨record, isRecord, (samePart place).mp inOther⟩
    · exact ⟨otherRecord, (others other same).symm.trans isOther, inOther⟩
  refine ⟨fun isFirst isSecond inFirst inSecond => ?_, fun {other otherRecord} isOther => ?_,
    fun place isFree => ?_⟩
  · obtain ⟨_, isFirst, inFirst⟩ := found isFirst inFirst
    obtain ⟨_, isSecond, inSecond⟩ := found isSecond inSecond
    exact accounts.apart isFirst isSecond inFirst inSecond
  · by_cases same : other = holder
    · subst same
      obtain rfl := Option.some.inj (isOther.symm.trans isNext)
      exact isKept
    · have isEarlier := (others other same).symm.trans isOther
      refine custody.onlyPart (fun place inOther => only place fun inHolder => ?_)
        (accounts.kept isEarlier)
      exact same (accounts.apart isEarlier isRecord inOther inHolder)
  · have outside : ¬ custody.part holder record place := fun inHolder =>
      isFree holder next isNext ((samePart place).mpr inHolder)
    rw [only place outside]
    refine accounts.outside_of others isFree fun earlier isEarlier inEarlier => ?_
    obtain rfl := Option.some.inj (isEarlier.symm.trans isRecord)
    exact absurd inEarlier outside

theorem write (accounts : custody.Accounts start records held)
    (isRecord : records holder = some record)
    (only : ∀ place, ¬ custody.part holder record place → later place = held place)
    (isKept : custody.kept holder record later) : custody.Accounts start records later :=
  accounts.replace isRecord isRecord (fun _ _ => rfl) (fun _ => Iff.rfl) only isKept

/-- A holder starts a record, or puts one in the place of its own: nobody else has what the new
one adds, and the new one gives nothing back that differs from the start. -/
theorem save (accounts : custody.Accounts start records held)
    (isSaved : laterRecords holder = some record)
    (others : ∀ other, other ≠ holder → laterRecords other = records other)
    (free : ∀ other otherRecord place, other ≠ holder → records other = some otherRecord →
      custody.part holder record place → ¬ custody.part other otherRecord place)
    (covers : ∀ earlier place, records holder = some earlier → custody.part holder earlier place →
      custody.part holder record place ∨ held place = start place)
    (isKept : custody.kept holder record held) :
    custody.Accounts start laterRecords held where
  apart {first second firstRecord secondRecord place} isFirst isSecond inFirst inSecond := by
    by_cases firstHolder : first = holder <;> by_cases secondHolder : second = holder
    · exact firstHolder.trans secondHolder.symm
    · subst firstHolder
      obtain rfl := Option.some.inj (isFirst.symm.trans isSaved)
      rw [others second secondHolder] at isSecond
      exact absurd inSecond (free second secondRecord place secondHolder isSecond inFirst)
    · subst secondHolder
      obtain rfl := Option.some.inj (isSecond.symm.trans isSaved)
      rw [others first firstHolder] at isFirst
      exact absurd inFirst (free first firstRecord place firstHolder isFirst inSecond)
    · rw [others first firstHolder] at isFirst
      rw [others second secondHolder] at isSecond
      exact accounts.apart isFirst isSecond inFirst inSecond
  kept {other otherRecord} isOther := by
    by_cases same : other = holder
    · subst same
      obtain rfl := Option.some.inj (isOther.symm.trans isSaved)
      exact isKept
    · rw [others other same] at isOther
      exact accounts.kept isOther
  outside place isFree := accounts.outside_of others isFree fun earlier isEarlier inPart =>
    (covers earlier place isEarlier inPart).resolve_left (isFree holder record isSaved)

/-- A holder that has put its part back drops its record. -/
theorem drop (accounts : custody.Accounts start records held)
    (isDropped : laterRecords holder = none)
    (others : ∀ other, other ≠ holder → laterRecords other = records other)
    (restored : ∀ earlier place, records holder = some earlier →
      custody.part holder earlier place → held place = start place) :
    custody.Accounts start laterRecords held where
  apart {first second firstRecord secondRecord place} isFirst isSecond inFirst inSecond := by
    have notHolder {other : κ} {otherRecord : ρ} (isOther : laterRecords other = some otherRecord) :
        other ≠ holder := by
      rintro rfl
      rw [isDropped] at isOther
      cases isOther
    rw [others first (notHolder isFirst)] at isFirst
    rw [others second (notHolder isSecond)] at isSecond
    exact accounts.apart isFirst isSecond inFirst inSecond
  kept {other otherRecord} isOther := by
    by_cases same : other = holder
    · rw [same, isDropped] at isOther
      cases isOther
    · rw [others other same] at isOther
      exact accounts.kept isOther
  outside place isFree := accounts.outside_of others isFree fun earlier isEarlier inPart =>
    restored earlier place isEarlier inPart

/-- The document and the records may be given by other functions with the same values. -/
theorem congr (accounts : custody.Accounts start records held)
    (sameRecords : ∀ holder, laterRecords holder = records holder)
    (sameHeld : ∀ place, later place = held place) :
    custody.Accounts start laterRecords later := by
  obtain rfl : laterRecords = records := funext sameRecords
  obtain rfl : later = held := funext sameHeld
  exact accounts

end Accounts

end Custody

end CamAdmiral
