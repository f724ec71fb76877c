import CamAdmiral.Mapping
import Mathlib

/-!
A mapping that is too full gives up its oldest entries, one at a time: the first of the entries
with the smallest age stamp goes, until the mapping is no longer over its limits.
-/

namespace CamAdmiral

variable {κ β τ : Type*} [DecidableEq κ] [LinearOrder τ]
variable {tooFull : List (κ × β) → Bool} {stamp : β → τ} {mapping kept : List (κ × β)}

omit [DecidableEq κ] in
theorem minOn?_spec {oldest : κ × β}
    (found : mapping.minOn? (fun entry => stamp entry.2) = some oldest) :
    oldest ∈ mapping ∧ ∀ entry ∈ mapping, stamp oldest.2 ≤ stamp entry.2 := by
  refine ⟨List.minOn?_mem found, ?_⟩
  intro entry member
  have least := List.apply_get_minOn?_le_of_mem (f := fun entry : κ × β => stamp entry.2) member
  simpa only [found, Option.get_some] using least

theorem length_eraseKey_lt {entry : κ × β} (member : entry ∈ mapping) :
    (eraseKey mapping entry.1).length < mapping.length := by
  apply List.length_filter_lt_length_iff_exists.mpr
  exact ⟨entry, member, by simp⟩

/-- There is no oldest entry of an empty mapping. -/
def evictOldest (tooFull : List (κ × β) → Bool) (stamp : β → τ) (mapping : List (κ × β)) :
    Option (List (κ × β)) :=
  if tooFull mapping then
    match _found : mapping.minOn? fun entry => stamp entry.2 with
    | none => none
    | some oldest => evictOldest tooFull stamp (eraseKey mapping oldest.1)
  else some mapping
termination_by mapping.length
decreasing_by exact length_eraseKey_lt (minOn?_spec _found).1

theorem evictOldest_ended (ended : tooFull mapping = false) :
    evictOldest tooFull stamp mapping = some mapping := by
  rw [evictOldest, if_neg (by simp [ended])]

theorem evictOldest_step {oldest : κ × β} (full : tooFull mapping = true)
    (found : mapping.minOn? (fun entry => stamp entry.2) = some oldest) :
    evictOldest tooFull stamp mapping = evictOldest tooFull stamp (eraseKey mapping oldest.1) := by
  rw [evictOldest, if_pos full]
  split
  · rename_i missing
    rw [missing] at found
    cases found
  · rename_i held foundHeld
    rw [Option.some.inj (foundHeld.symm.trans found)]

/-- What holds of the mappings of the loop: the one it ends with, and the one before each turn. -/
theorem evictOldest_induction (stamp : β → τ) {motive : List (κ × β) → Prop}
    (empty : tooFull [] = false)
    (done : ∀ mapping, tooFull mapping = false → motive mapping)
    (turn : ∀ mapping oldest, tooFull mapping = true → oldest ∈ mapping →
      (∀ entry ∈ mapping, stamp oldest.2 ≤ stamp entry.2) →
      evictOldest tooFull stamp mapping = evictOldest tooFull stamp (eraseKey mapping oldest.1) →
      motive (eraseKey mapping oldest.1) → motive mapping)
    (mapping : List (κ × β)) : motive mapping := by
  induction size : mapping.length using Nat.strongRecOn generalizing mapping with
  | ind size ih =>
      cases full : tooFull mapping with
      | false => exact done mapping full
      | true =>
          cases found : mapping.minOn? fun entry => stamp entry.2 with
          | none =>
              have isEmpty : mapping = [] := by
                by_contra notEmpty
                have isSome : (mapping.minOn? fun entry => stamp entry.2).isSome = true :=
                  List.isSome_minOn?_iff.mpr notEmpty
                rw [found] at isSome
                cases isSome
              rw [isEmpty, empty] at full
              cases full
          | some oldest =>
              obtain ⟨member, least⟩ := minOn?_spec found
              refine turn mapping oldest full member least (evictOldest_step full found) ?_
              exact ih _ (size ▸ length_eraseKey_lt member) _ rfl

/-- The loop ends, within its limits. -/
theorem evictOldest_ends (stamp : β → τ) (empty : tooFull [] = false) (mapping : List (κ × β)) :
    ∃ kept, evictOldest tooFull stamp mapping = some kept ∧ tooFull kept = false := by
  induction mapping using evictOldest_induction stamp empty with
  | done mapping ended => exact ⟨mapping, evictOldest_ended ended, ended⟩
  | turn mapping oldest full member least step ih => rwa [step]

theorem evictOldest_sublist (empty : tooFull [] = false)
    (result : evictOldest tooFull stamp mapping = some kept) : kept.Sublist mapping := by
  induction mapping using evictOldest_induction stamp empty with
  | done mapping ended =>
      rw [evictOldest_ended ended] at result
      rw [Option.some.inj result]
  | turn mapping oldest full member least step ih =>
      exact (ih (step ▸ result)).trans List.filter_sublist

/-- What goes is no newer than what stays. -/
theorem evictOldest_keeps_newer (empty : tooFull [] = false)
    (distinct : (mapping.map Prod.fst).Nodup)
    (result : evictOldest tooFull stamp mapping = some kept) {gone stays : κ × β}
    (listed : gone ∈ mapping) (isGone : gone ∉ kept) (isKept : stays ∈ kept) :
    stamp gone.2 ≤ stamp stays.2 := by
  induction mapping using evictOldest_induction stamp empty with
  | done mapping ended =>
      rw [evictOldest_ended ended] at result
      exact absurd (Option.some.inj result ▸ listed) isGone
  | turn mapping oldest full member least step ih =>
      rw [step] at result
      by_cases isOldest : gone.1 = oldest.1
      · have same : gone = oldest := List.inj_on_of_nodup_map distinct listed member isOldest
        have stayed := (evictOldest_sublist empty result).subset isKept
        exact same ▸ least stays (mem_eraseKey.mp stayed).1
      · exact ih (distinct.sublist (List.filter_sublist.map _)) result
          (mem_eraseKey.mpr ⟨listed, isOldest⟩)

/-- An entry newer than all others stays, where it could be kept alone. -/
theorem evictOldest_keeps_newest (empty : tooFull [] = false) {newest : κ × β}
    (alone : tooFull [newest] = false) (distinct : (mapping.map Prod.fst).Nodup)
    (listed : newest ∈ mapping)
    (older : ∀ entry ∈ mapping, entry ≠ newest → stamp entry.2 < stamp newest.2)
    (result : evictOldest tooFull stamp mapping = some kept) : newest ∈ kept := by
  induction mapping using evictOldest_induction stamp empty with
  | done mapping ended =>
      rw [evictOldest_ended ended] at result
      exact Option.some.inj result ▸ listed
  | turn mapping oldest full member least step ih =>
      rw [step] at result
      by_cases isOldest : newest.1 = oldest.1
      · -- The newest entry is the oldest one only when it is alone, within the limits.
        have same : newest = oldest := List.inj_on_of_nodup_map distinct listed member isOldest
        have others (entry : κ × β) (isEntry : entry ∈ mapping) : entry = newest := by
          by_contra other
          exact absurd (older entry isEntry other) (not_lt.mpr (same ▸ least entry isEntry))
        have single : mapping = [newest] := by
          apply List.perm_singleton.mp
          apply (List.perm_ext_iff_of_nodup distinct.of_map (List.nodup_singleton newest)).mpr
          intro entry
          rw [List.mem_singleton]
          exact ⟨others entry, fun isNewest => isNewest ▸ listed⟩
        rw [single, alone] at full
        cases full
      · exact ih (distinct.sublist (List.filter_sublist.map _))
          (mem_eraseKey.mpr ⟨listed, isOldest⟩)
          (fun entry stays => older entry (mem_eraseKey.mp stays).1) result

end CamAdmiral
