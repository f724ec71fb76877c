import Mathlib.Data.Option.Basic

/-!
Partial descriptions: values for some of the fields, where a missing one says nothing. One
description extends another, two of them disagree on a field both know, and two that do not
disagree have a common extension.
-/

namespace CamAdmiral

variable {ι α : Type*}

/-- `fuller` knows whatever `known` knows. -/
def Extends (fuller known : ι → Option α) : Prop :=
  ∀ field value, known field = some value → fuller field = some value

def Disagree (first second : ι → Option α) : Prop :=
  ∃ field one two, first field = some one ∧ second field = some two ∧ one ≠ two

theorem Extends.refl (known : ι → Option α) : Extends known known :=
  fun _ _ knows => knows

theorem Extends.trans {first second third : ι → Option α} (one : Extends second first)
    (two : Extends third second) : Extends third first :=
  fun field value knows => two field value (one field value knows)

theorem Disagree.symm {first second : ι → Option α} (disagree : Disagree first second) :
    Disagree second first := by
  obtain ⟨field, one, two, isOne, isTwo, differ⟩ := disagree
  exact ⟨field, two, one, isTwo, isOne, differ.symm⟩

/-- What the first knows, and the second where the first does not. -/
def merged (first second : ι → Option α) (field : ι) : Option α := first field <|> second field

theorem merged_extends_first (first second : ι → Option α) :
    Extends (merged first second) first := by
  intro field value knows
  simp [merged, knows]

theorem merged_extends_second {first second : ι → Option α}
    (agree : ¬ Disagree first second) : Extends (merged first second) second := by
  intro field value knows
  cases known : first field with
  | none => simp [merged, known, knows]
  | some other =>
      have same : other = value := by
        by_contra differ
        exact agree ⟨field, other, value, known, knows, differ⟩
      simp [merged, known, same]

end CamAdmiral
