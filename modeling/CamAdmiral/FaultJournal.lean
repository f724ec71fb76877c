import CamAdmiral.Programs

/-!
Programs that keep a journal of what they look at, where some items make them fail beyond repair.
Such a program is honest when its fatal failure and a faulty item in its journal go together.
-/

namespace CamAdmiral

namespace Program

variable {ε ι α β : Type} {faulty : ι → Bool} {fatal : ε}

def note (item : ι) : Program ε (List ι) Unit := modify fun journal => journal ++ [item]

def Clean (faulty : ι → Bool) (journal : List ι) : Prop := ∀ item ∈ journal, faulty item = false

/-- From a clean journal the program fails fatally exactly when it has noted a faulty item. -/
def Honest (faulty : ι → Bool) (fatal : ε) (program : Program ε (List ι) α) : Prop :=
  ∀ journal, Clean faulty journal →
    ((program journal).1 = .error fatal ↔ ¬ Clean faulty (program journal).2)

theorem Honest.bind {program : Program ε (List ι) α} {next : α → Program ε (List ι) β}
    (early : Honest faulty fatal program) (late : ∀ value, Honest faulty fatal (next value)) :
    Honest faulty fatal (program >>= next) := by
  intro journal clean
  have first := early journal clean
  change (andThen program next journal).1 = _ ↔ ¬ Clean faulty (andThen program next journal).2
  unfold andThen
  cases ends : program journal with
  | mk result later =>
      rw [ends] at first
      cases result with
      | ok value =>
          have stillClean : Clean faulty later := not_not.mp (mt first.mpr nofun)
          exact late value later stillClean
      | error failure =>
          simp only [Except.error.injEq] at first ⊢
          exact first

/-- A handler that does not hold up the fatal failure. -/
theorem Honest.handle {program : Program ε (List ι) α} {handler : ε → Program ε (List ι) α}
    (early : Honest faulty fatal program) (lets : handler fatal = fail fatal)
    (late : ∀ failure, failure ≠ fatal → Honest faulty fatal (handler failure)) :
    Honest faulty fatal (program.handle handler) := by
  intro journal clean
  have first := early journal clean
  unfold Program.handle
  cases ends : program journal with
  | mk result later =>
      rw [ends] at first
      cases result with
      | ok value => exact first
      | error failure =>
          by_cases same : failure = fatal
          · subst same
            simp only [lets]
            exact first
          · have stillClean : Clean faulty later := by
              apply not_not.mp (mt first.mpr _)
              exact fun failed => same (Except.error.inj failed)
            exact late failure same later stillClean

end Program

end CamAdmiral
