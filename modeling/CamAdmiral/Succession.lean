import Mathlib.Data.List.Forall2
import Mathlib.Data.List.Nodup
import Mathlib.Data.List.Perm.Basic

/-!
Lists in which every element of an older list has exactly one successor. `Succession R
older newer extra` says that `newer` holds, in some order, one `R`-successor of each
element of `older` and the elements of `extra`. The relation ignores the order of all
three lists, so sorting and splitting keep it.
-/

namespace CamAdmiral

variable {α β γ : Type*}

def Succession (R : α → β → Prop) (older : List α) (newer extra : List β) : Prop :=
  ∃ successors, List.Forall₂ R older successors ∧ newer.Perm (successors ++ extra)

theorem Succession.refl {R : α → α → Prop} (reflexive : ∀ element, R element element)
    (elements : List α) : Succession R elements elements [] :=
  ⟨elements, List.forall₂_same.mpr fun element _ => reflexive element, by simp⟩

theorem Succession.perm_older {R : α → β → Prop} {older reordered : List α}
    {newer extra : List β} (succession : Succession R older newer extra)
    (order : reordered.Perm older) : Succession R reordered newer extra := by
  obtain ⟨successors, related, split⟩ := succession
  obtain ⟨moved, relatedMoved, movedPerm⟩ := List.perm_comp_forall₂ order related
  exact ⟨moved, relatedMoved, split.trans (movedPerm.symm.append_right extra)⟩

theorem Succession.perm_newer {R : α → β → Prop} {older : List α}
    {newer reordered extra : List β} (succession : Succession R older newer extra)
    (order : reordered.Perm newer) : Succession R older reordered extra := by
  obtain ⟨successors, related, split⟩ := succession
  exact ⟨successors, related, order.trans split⟩

theorem Succession.append {R : α → β → Prop} {firstOlder secondOlder : List α}
    {firstNewer secondNewer firstExtra secondExtra : List β}
    (first : Succession R firstOlder firstNewer firstExtra)
    (second : Succession R secondOlder secondNewer secondExtra) :
    Succession R (firstOlder ++ secondOlder) (firstNewer ++ secondNewer)
      (firstExtra ++ secondExtra) := by
  obtain ⟨firstSuccessors, firstRelated, firstSplit⟩ := first
  obtain ⟨secondSuccessors, secondRelated, secondSplit⟩ := second
  refine ⟨firstSuccessors ++ secondSuccessors, List.rel_append firstRelated secondRelated, ?_⟩
  apply (firstSplit.append secondSplit).trans
  simp only [List.append_assoc]
  apply List.Perm.append_left
  rw [← List.append_assoc, ← List.append_assoc]
  exact List.perm_append_comm.append_right _

theorem Succession.map {R : α → β → Prop} {S : α → γ → Prop} {older : List α}
    {newer extra : List β} (succession : Succession R older newer extra) (change : β → γ)
    (kept : ∀ old new, R old new → S old (change new)) :
    Succession S older (newer.map change) (extra.map change) := by
  obtain ⟨successors, related, split⟩ := succession
  refine ⟨successors.map change, ?_, ?_⟩
  · rw [List.forall₂_map_right_iff]
    exact related.imp kept
  · rw [← List.map_append]
    exact split.map change

/-- A second succession carries the extra elements of the first along. -/
theorem Succession.trans {R : α → β → Prop} {S : β → γ → Prop} {T : α → γ → Prop}
    {older : List α} {middle middleExtra : List β} {newer newerExtra : List γ}
    (first : Succession R older middle middleExtra)
    (second : Succession S middle newer newerExtra)
    (composed : ∀ old between new, R old between → S between new → T old new) :
    ∃ carried, List.Forall₂ S middleExtra carried ∧
      Succession T older newer (carried ++ newerExtra) := by
  obtain ⟨firstSuccessors, firstRelated, firstSplit⟩ := first
  obtain ⟨secondSuccessors, secondRelated, secondSplit⟩ := second.perm_older firstSplit.symm
  have carriedRelated : List.Forall₂ S middleExtra
      (secondSuccessors.drop firstSuccessors.length) := by
    simpa using List.forall₂_drop firstSuccessors.length secondRelated
  have keptRelated : List.Forall₂ S firstSuccessors
      (secondSuccessors.take firstSuccessors.length) := by
    simpa using List.forall₂_take firstSuccessors.length secondRelated
  refine ⟨_, carriedRelated, secondSuccessors.take firstSuccessors.length, ?_, ?_⟩
  · apply List.forall₂_iff_get.mpr
    have firstLengths := firstRelated.length_eq
    have keptLengths := keptRelated.length_eq
    refine ⟨firstLengths.trans keptLengths, ?_⟩
    intro index olderBound newerBound
    have middleBound : index < firstSuccessors.length := by omega
    exact composed _ _ _ (firstRelated.get olderBound middleBound)
      (keptRelated.get middleBound newerBound)
  · rw [← List.append_assoc, List.take_append_drop]
    exact secondSplit

theorem labels_of_forall₂ {R : α → β → Prop} {older : List α} {successors : List β}
    (related : List.Forall₂ R older successors) (oldLabel : α → γ) (newLabel : β → γ)
    (inherited : ∀ old ∈ older, ∀ new, R old new → newLabel new = oldLabel old) :
    successors.map newLabel = older.map oldLabel := by
  induction related with
  | nil => rfl
  | cons same _ ih =>
      simp only [List.map_cons]
      rw [inherited _ (by simp) _ same, ih fun old member => inherited old (by simp [member])]

/-- A label that successors inherit appears once for each older element. -/
theorem Succession.labels {R : α → β → Prop} {older : List α} {newer extra : List β}
    (succession : Succession R older newer extra) (oldLabel : α → γ) (newLabel : β → γ)
    (inherited : ∀ old ∈ older, ∀ new, R old new → newLabel new = oldLabel old) :
    (newer.map newLabel).Perm (older.map oldLabel ++ extra.map newLabel) := by
  obtain ⟨successors, related, split⟩ := succession
  rw [← labels_of_forall₂ related oldLabel newLabel inherited, ← List.map_append]
  exact split.map newLabel

/-! Successions made by matching: each item takes at most one element of the older list,
named by its position, and the elements no item took are carried over. -/

section Matching

variable {older : List α} {items : List β} {found : List (Option Nat)}

def takenPairs (older : List α) (found : List (Option Nat)) : List (α × Nat) :=
  found.filterMap fun index => index.bind fun position =>
    (older[position]?).map fun element => (element, position)

theorem takenPairs_positions (bounded : ∀ position, some position ∈ found →
    position < older.length) : (takenPairs older found).map Prod.snd = found.filterMap id := by
  induction found with
  | nil => rfl
  | cons index rest ih =>
      have tail := ih fun position member => bounded position (by simp [member])
      cases index with
      | none => simpa [takenPairs] using tail
      | some position =>
          have bound := bounded position (by simp)
          simpa [takenPairs, bound] using tail

theorem zipIdx_nodup (elements : List α) : elements.zipIdx.Nodup := by
  apply List.Nodup.of_map Prod.snd
  rw [List.zipIdx_map_snd]
  exact List.nodup_range'

theorem taken_perm (bounded : ∀ position, some position ∈ found → position < older.length)
    (distinct : (found.filterMap id).Nodup) :
    older.zipIdx.Perm (takenPairs older found ++
      older.zipIdx.filter fun (_, position) => some position ∉ found) := by
  have takenNodup : (takenPairs older found).Nodup := by
    apply List.Nodup.of_map Prod.snd
    rw [takenPairs_positions bounded]
    exact distinct
  have takenMember (element : α) (position : Nat) :
      (element, position) ∈ takenPairs older found ↔
        some position ∈ found ∧ older[position]? = some element := by
    simp only [takenPairs, List.mem_filterMap, Option.bind_eq_some_iff, Option.map_eq_some_iff,
      Prod.mk.injEq]
    constructor
    · rintro ⟨index, member, _, same, _, get, rfl, rfl⟩
      exact ⟨same ▸ member, get⟩
    · rintro ⟨member, get⟩
      exact ⟨some position, member, position, rfl, element, get, rfl, rfl⟩
  apply (List.perm_ext_iff_of_nodup (zipIdx_nodup older) ?_).mpr
  · rintro ⟨element, position⟩
    simp only [List.mem_append, takenMember, List.mem_filter, List.mem_zipIdx_iff_getElem?,
      decide_eq_true_eq]
    tauto
  · apply List.Nodup.append takenNodup ((zipIdx_nodup older).filter _)
    rintro ⟨element, position⟩ isTaken isLeft
    exact (by simpa using (List.mem_filter.mp isLeft).2 : some position ∉ found)
      ((takenMember element position).mp isTaken).1

theorem taken_succession {R : α → γ → Prop} (take : Option α → β → Nat → γ)
    (takes : ∀ old item position, R old (take (some old) item position)) (offset : Nat)
    (bounded : ∀ position, some position ∈ found → position < older.length)
    (sameLength : items.length = found.length) :
    Succession R ((takenPairs older found).map Prod.fst)
      (((items.zip found).zipIdx offset).map fun ((item, index), position) =>
        take (index.bind (older[·]?)) item position)
      ((((items.zip found).zipIdx offset).filter fun ((_, index), _) => index = none).map
        fun ((item, _), position) => take none item position) := by
  induction items generalizing found offset with
  | nil =>
      have empty : found = [] := by simpa using sameLength.symm
      exact ⟨[], by simp [takenPairs, empty], by simp⟩
  | cons item items ih =>
      cases found with
      | nil => simp at sameLength
      | cons index found =>
          obtain ⟨successors, related, split⟩ := ih (offset + 1)
            (fun position member => bounded position (List.mem_cons_of_mem _ member))
            (by simpa using sameLength)
          cases index with
          | none =>
              refine ⟨successors, by simpa [takenPairs] using related, ?_⟩
              simpa using (split.cons (take none item offset)).trans List.perm_middle.symm
          | some position =>
              have bound := bounded position (by simp)
              refine ⟨take (some older[position]) item offset :: successors, ?_, ?_⟩
              · simpa [takenPairs, bound] using And.intro (takes _ _ _) related
              · simpa [bound] using split

/-- Matched elements are succeeded by the item that took them, the others by themselves. -/
theorem Succession.of_matching {R : α → γ → Prop} (take : Option α → β → Nat → γ)
    (leave : α → Nat → γ) (takes : ∀ old item position, R old (take (some old) item position))
    (leaves : ∀ old position, R old (leave old position))
    (bounded : ∀ position, some position ∈ found → position < older.length)
    (distinct : (found.filterMap id).Nodup) (sameLength : items.length = found.length) :
    Succession R older
      (((items.zip found).zipIdx.map fun ((item, index), position) =>
          take (index.bind (older[·]?)) item position) ++
        (older.zipIdx.filter fun (_, position) => some position ∉ found).map
          fun (element, position) => leave element position)
      (((items.zip found).zipIdx.filter fun ((_, index), _) => index = none).map
        fun ((item, _), position) => take none item position) := by
  have left : Succession R
      ((older.zipIdx.filter fun (_, position) => some position ∉ found).map Prod.fst)
      ((older.zipIdx.filter fun (_, position) => some position ∉ found).map
        fun (element, position) => leave element position) [] := by
    refine ⟨_, ?_, by rw [List.append_nil]⟩
    rw [List.forall₂_map_left_iff, List.forall₂_map_right_iff]
    exact List.forall₂_same.mpr fun pair _ => leaves _ _
  have split := (taken_perm bounded distinct).map Prod.fst
  rw [List.zipIdx_map_fst, List.map_append] at split
  simpa using ((taken_succession take takes 0 bounded sameLength).append left).perm_older split

end Matching

end CamAdmiral
