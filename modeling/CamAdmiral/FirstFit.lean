import Mathlib.Data.List.Induction

/-!
Merging by first fit: every item is absorbed by the first kept record it fits, and is kept
itself where it fits none.
-/

namespace CamAdmiral

variable {ρ σ : Type*}

def firstFit (fits : ρ → ρ → Bool) (absorb : ρ → ρ → ρ) : List ρ → ρ → List ρ
  | [], item => [item]
  | first :: rest, item =>
      if fits first item then absorb first item :: rest
      else first :: firstFit fits absorb rest item

def firstFits (fits : ρ → ρ → Bool) (absorb : ρ → ρ → ρ) (items : List ρ) : List ρ :=
  items.foldl (firstFit fits absorb) []

variable {fits : ρ → ρ → Bool} {absorb : ρ → ρ → ρ}

/-- What one item does to the kept records. -/
inductive FitStep (fits : ρ → ρ → Bool) (absorb : ρ → ρ → ρ) (item : ρ) :
    List ρ → List ρ → Prop
  | append {kept} (unfit : ∀ record ∈ kept, fits record item = false) :
      FitStep fits absorb item kept (kept ++ [item])
  | absorb {before record after} (earlier : ∀ other ∈ before, fits other item = false)
      (fit : fits record item = true) :
      FitStep fits absorb item (before ++ record :: after)
        (before ++ absorb record item :: after)

theorem firstFit_step (kept : List ρ) (item : ρ) :
    FitStep fits absorb item kept (firstFit fits absorb kept item) := by
  induction kept with
  | nil => exact .append (by simp)
  | cons first rest ih =>
      rw [firstFit]
      by_cases fit : fits first item = true
      · rw [if_pos fit]
        exact FitStep.absorb (List.forall_mem_nil _) fit
      · rw [if_neg fit]
        have unfit := eq_false_of_ne_true fit
        generalize firstFit fits absorb rest item = after at ih
        cases ih with
        | append others =>
            exact FitStep.append (List.forall_mem_cons.mpr ⟨unfit, others⟩)
        | absorb earlier found =>
            rw [← List.cons_append, ← List.cons_append]
            exact FitStep.absorb (List.forall_mem_cons.mpr ⟨unfit, earlier⟩) found

/-- An item that fits a record leaves everything after it alone. -/
theorem firstFit_append {kept : List ρ} {item : ρ} (fit : ∃ record ∈ kept, fits record item = true)
    (after : List ρ) :
    firstFit fits absorb (kept ++ after) item = firstFit fits absorb kept item ++ after := by
  induction kept with
  | nil => simp at fit
  | cons first rest ih =>
      rw [List.cons_append, firstFit, firstFit]
      split
      · rfl
      · rename_i unfit
        have later : ∃ record ∈ rest, fits record item = true := by
          obtain ⟨record, member, found⟩ := fit
          rcases List.mem_cons.mp member with rfl | member
          · exact absurd found unfit
          · exact ⟨record, member, found⟩
        rw [ih later, List.cons_append]

theorem firstFit_append_of_unfit {kept : List ρ} {item : ρ}
    (unfit : ∀ record ∈ kept, fits record item = false) (after : List ρ) :
    firstFit fits absorb (kept ++ after) item = kept ++ firstFit fits absorb after item := by
  induction kept with
  | nil => rfl
  | cons first rest ih =>
      have later := ih fun record member => unfit record (List.mem_cons_of_mem _ member)
      rw [List.cons_append, firstFit, unfit first List.mem_cons_self, if_neg Bool.false_ne_true,
        later, List.cons_append]

theorem firstFits_concat (items : List ρ) (item : ρ) :
    firstFits fits absorb (items ++ [item]) =
      firstFit fits absorb (firstFits fits absorb items) item := by
  rw [firstFits, List.foldl_append]
  rfl

/-- Merging commutes with a view of the records that keeps fits and absorptions. -/
theorem firstFits_map {viewFits : σ → σ → Bool} {viewAbsorb : σ → σ → σ} (view : ρ → σ)
    (sameFits : ∀ record item, viewFits (view record) (view item) = fits record item)
    (sameAbsorb : ∀ record item, fits record item = true →
      viewAbsorb (view record) (view item) = view (absorb record item)) (items : List ρ) :
    firstFits viewFits viewAbsorb (items.map view) = (firstFits fits absorb items).map view := by
  have one (kept : List ρ) (item : ρ) :
      firstFit viewFits viewAbsorb (kept.map view) (view item) =
        (firstFit fits absorb kept item).map view := by
    induction kept with
    | nil => rfl
    | cons first rest ih =>
        rw [List.map_cons, firstFit, firstFit, sameFits]
        by_cases fit : fits first item = true
        · rw [if_pos fit, if_pos fit, sameAbsorb first item fit, List.map_cons]
        · rw [if_neg fit, if_neg fit, ih, List.map_cons]
  induction items using List.reverseRecOn with
  | nil => rfl
  | append_singleton items item ih =>
      rw [List.map_append, List.map_singleton, firstFits_concat, firstFits_concat, ih, one]

end CamAdmiral
