import Mathlib.Logic.Relation

/-!
Runs of a system that takes one action after another. `allowed` restricts the actions of a
run by the state they are taken in, so a theorem about all runs covers exactly the runs
whose every step meets that condition.
-/

namespace CamAdmiral

variable {σ α : Type*}

/-- The states that allowed steps lead to. -/
inductive Reaches (step : σ → α → σ → Prop) (allowed : σ → α → Prop) (start : σ) : σ → Prop
  | start : Reaches step allowed start start
  | step {state next : σ} (run : Reaches step allowed start state) (action : α)
      (permitted : allowed state action) (taken : step state action next) :
      Reaches step allowed start next

variable {step : σ → α → σ → Prop} {allowed : σ → α → Prop} {start state : σ}

theorem Reaches.invariant (run : Reaches step allowed start state) (Invariant : σ → Prop)
    (initial : Invariant start)
    (preserved : ∀ state action next, Invariant state → allowed state action →
      step state action next → Invariant next) : Invariant state := by
  induction run with
  | start => exact initial
  | step _ _ permitted taken ih => exact preserved _ _ _ ih permitted taken

/-- What every step keeps under an invariant, a run keeps from its start to its end. -/
theorem Reaches.related (run : Reaches step allowed start state) (Invariant : σ → Prop)
    (Kept : σ → σ → Prop) (initial : Invariant start)
    (preserved : ∀ state action next, Invariant state → allowed state action →
      step state action next → Invariant next)
    (reflexive : Kept start start)
    (extended : ∀ state action next, Invariant state → Kept start state →
      allowed state action → step state action next → Kept start next) : Kept start state := by
  induction run with
  | start => exact reflexive
  | step earlier _ permitted taken ih =>
      exact extended _ _ _ (earlier.invariant Invariant initial preserved) ih permitted taken

/-- The state a list of actions leads to, if each of them can be taken. -/
def runActions (act : σ → α → Option σ) : σ → List α → Option σ
  | state, [] => some state
  | state, action :: rest => (act state action).bind fun next => runActions act next rest

/-- Every action of the list is allowed where it is taken. -/
def Permitted (act : σ → α → σ) (allowed : σ → α → Prop) : σ → List α → Prop
  | _, [] => True
  | state, action :: rest =>
      allowed state action ∧ Permitted act allowed (act state action) rest

instance {act : σ → α → σ} [∀ state action, Decidable (allowed state action)] :
    ∀ state actions, Decidable (Permitted act allowed state actions)
  | _, [] => instDecidableTrue
  | state, action :: rest =>
      haveI : Decidable (Permitted act allowed (act state action) rest) :=
        instDecidablePermitted (act state action) rest
      inferInstanceAs (Decidable (allowed state action ∧ _))

theorem Reaches.of_permitted {act : σ → α → σ} {actions : List α}
    (permitted : Permitted act allowed start actions) :
    Reaches (fun state action next => next = act state action) allowed start
      (actions.foldl act start) := by
  suffices continued : ∀ state, Reaches (fun state action next => next = act state action)
      allowed start state → Permitted act allowed state actions →
      Reaches (fun state action next => next = act state action) allowed start
        (actions.foldl act state) from continued start .start permitted
  clear permitted
  induction actions with
  | nil => exact fun state run _ => run
  | cons action rest ih =>
      intro state run permitted
      exact ih _ (run.step action permitted.1 rfl) permitted.2

/-- Without a condition every list of actions is a run. -/
theorem Reaches.of_actions {act : σ → α → σ} (start : σ) (actions : List α) :
    Reaches (fun state action next => next = act state action) (fun _ _ => True) start
      (actions.foldl act start) := by
  refine .of_permitted ?_
  induction actions generalizing start with
  | nil => trivial
  | cons action rest ih => exact ⟨trivial, ih (act start action)⟩

end CamAdmiral
