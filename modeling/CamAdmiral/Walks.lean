import Mathlib.Data.List.Infix

/-!
Walks along a partial function, which says where to go next and under which label. The walks from
one place follow each other, so a walk that ends where there is nowhere to go has all others as
starts.
-/

namespace CamAdmiral

variable {α κ : Type*}

/-- The places that a walk leaves, with the labels of its steps. -/
inductive Walk (next : α → Option (κ × α)) : α → List (α × κ) → α → Prop
  | stop (place : α) : Walk next place [] place
  | step {place later last : α} {label : κ} {steps : List (α × κ)}
      (goes : next place = some (label, later)) (rest : Walk next later steps last) :
      Walk next place ((place, label) :: steps) last

variable {next : α → Option (κ × α)}

theorem Walk.stuck {place last : α} {steps : List (α × κ)} (walk : Walk next place steps last)
    (ends : next place = none) : steps = [] ∧ last = place := by
  cases walk with
  | stop => exact ⟨rfl, rfl⟩
  | step goes rest =>
      rw [ends] at goes
      cases goes

/-- Every walk is the start of one that ends where there is nowhere to go. -/
theorem Walk.continues {place last middle : α} {steps others : List (α × κ)}
    (whole : Walk next place steps last) (ends : next last = none)
    (part : Walk next place others middle) :
    ∃ rest, steps = others ++ rest ∧ Walk next middle rest last := by
  induction part generalizing steps with
  | stop => exact ⟨steps, rfl, whole⟩
  | step goes rest ih =>
      cases whole with
      | stop =>
          rw [ends] at goes
          cases goes
      | step goes' rest' =>
          rw [goes] at goes'
          cases goes'
          obtain ⟨left, rfl, continued⟩ := ih rest'
          exact ⟨left, rfl, continued⟩

theorem Walk.unique {place first second : α} {steps others : List (α × κ)}
    (walk : Walk next place steps first) (ends : next first = none)
    (other : Walk next place others second) (stops : next second = none) :
    others = steps ∧ second = first := by
  obtain ⟨rest, rfl, continued⟩ := walk.continues ends other
  obtain ⟨rfl, same⟩ := continued.stuck stops
  exact ⟨(List.append_nil others).symm, same.symm⟩

end CamAdmiral
