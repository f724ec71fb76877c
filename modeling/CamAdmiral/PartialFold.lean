import Mathlib.Data.List.Induction

/-!
Loops over a list whose step may fail, as folds in `Option`. A loop returns exactly if every
step does, and what every step keeps holds of the items so far.
-/

namespace CamAdmiral

variable {α β σ : Type*}

theorem mapM_isSome {step : α → Option β} (items : List α) :
    (items.mapM step).isSome = true ↔ ∀ item ∈ items, (step item).isSome = true := by
  induction items with
  | nil => simp
  | cons item rest ih =>
      rw [List.forall_mem_cons, ← ih, List.mapM_cons]
      cases step item <;> cases List.mapM step rest <;> simp

theorem mem_mapM {change : α → Option β} {items : List α} {results : List β}
    (done : items.mapM change = some results) {result : β} (member : result ∈ results) :
    ∃ item ∈ items, change item = some result := by
  induction items generalizing results with
  | nil =>
      obtain rfl : [] = results := by simpa using done
      cases member
  | cons item rest ih =>
      simp only [List.mapM_cons, Option.bind_eq_bind, Option.bind_eq_some_iff, pure,
        Option.some.injEq] at done
      obtain ⟨first, isFirst, later, isLater, rfl⟩ := done
      rcases List.mem_cons.mp member with rfl | isOther
      · exact ⟨item, List.mem_cons_self, isFirst⟩
      · obtain ⟨other, isMember, changed⟩ := ih isLater isOther
        exact ⟨other, List.mem_cons_of_mem _ isMember, changed⟩

theorem foldlM_isSome {step : σ → α → Option σ} {passes : α → Prop}
    (each : ∀ state item, (step state item).isSome = true ↔ passes item) (items : List α)
    (state : σ) : (items.foldlM step state).isSome = true ↔ ∀ item ∈ items, passes item := by
  induction items generalizing state with
  | nil => simp
  | cons item rest ih =>
      rw [List.forall_mem_cons, ← each state item, List.foldlM_cons]
      cases next : step state item with
      | none => simp
      | some reached => simpa using ih reached

/-- The invariant speaks about the items so far. -/
theorem foldlM_invariant {step : σ → α → Option σ} (Holds : List α → σ → Prop) {start : σ}
    (first : Holds [] start)
    (each : ∀ earlier state item reached, Holds earlier state → step state item = some reached →
      Holds (earlier ++ [item]) reached) {items : List α} {reached : σ}
    (returned : items.foldlM step start = some reached) : Holds items reached := by
  induction items using List.reverseRecOn generalizing reached with
  | nil =>
      obtain rfl : start = reached := by simpa using returned
      exact first
  | append_singleton items item ih =>
      rw [List.foldlM_append] at returned
      obtain ⟨state, isState, last⟩ := Option.bind_eq_some_iff.mp returned
      apply each items state item reached (ih isState)
      simpa using last

end CamAdmiral
