import Mathlib.Data.List.Basic

/-!
Positions of a filtered list in the whole list. What is found by position in the one is found
in the other if the filter keeps everything that can be found.
-/

namespace CamAdmiral

variable {α : Type*}

/-- The position in the list of what stands at a position of the filtered list. -/
def keptPosition (keep : α → Bool) : List α → Nat → Nat
  | [], position => position
  | head :: rest, position =>
      if keep head then
        match position with
        | 0 => 0
        | later + 1 => keptPosition keep rest later + 1
      else
        keptPosition keep rest position + 1

theorem getElem?_keptPosition (keep : α → Bool) (list : List α) (position : Nat) :
    list[keptPosition keep list position]? = (list.filter keep)[position]? := by
  induction list generalizing position with
  | nil => rfl
  | cons head rest ih =>
      cases kept : keep head with
      | false => simp [keptPosition, kept, ih]
      | true =>
          cases position with
          | zero => simp [keptPosition, kept]
          | succ later => simp [keptPosition, kept, ih]

theorem keptPosition_lt (keep : α → Bool) (list : List α) {first second : Nat}
    (earlier : first < second) : keptPosition keep list first < keptPosition keep list second := by
  induction list generalizing first second with
  | nil => exact earlier
  | cons head rest ih =>
      cases kept : keep head with
      | false =>
          have later := ih earlier
          simp only [keptPosition, kept, Bool.false_eq_true, if_false]
          omega
      | true =>
          cases second with
          | zero => omega
          | succ second =>
              cases first with
              | zero => simp [keptPosition, kept]
              | succ first =>
                  have later := ih (Nat.lt_of_succ_lt_succ earlier)
                  simp only [keptPosition, kept, if_true]
                  omega

theorem keptPosition_injective (keep : α → Bool) (list : List α) :
    Function.Injective (keptPosition keep list) := by
  intro first second same
  rcases Nat.lt_trichotomy first second with earlier | equal | later
  · have bound := keptPosition_lt keep list earlier
    omega
  · exact equal
  · have bound := keptPosition_lt keep list later
    omega

/-- The positions of the members that pass the test. -/
def positionsWhere (test : α → Bool) (list : List α) : List Nat :=
  (list.zipIdx.filter fun entry => test entry.1).map Prod.snd

theorem positionsWhere_cons (test : α → Bool) (head : α) (rest : List α) :
    positionsWhere test (head :: rest) =
      (if test head then [0] else []) ++ (positionsWhere test rest).map (· + 1) := by
  have shifted : (rest.zipIdx 1).filter (fun entry => test entry.1) =
      (rest.zipIdx.filter fun entry => test entry.1).map fun entry => (entry.1, entry.2 + 1) := by
    rw [List.zipIdx_succ, List.filter_map]
    rfl
  simp only [positionsWhere, List.zipIdx_cons, List.filter_cons, Nat.zero_add, shifted]
  split <;> simp [Function.comp_def]

theorem positionsWhere_filter {keep test : α → Bool} {list : List α}
    (keeps : ∀ member ∈ list, test member = true → keep member = true) :
    positionsWhere test list =
      (positionsWhere test (list.filter keep)).map (keptPosition keep list) := by
  induction list with
  | nil => rfl
  | cons head rest ih =>
      have later := ih fun member isMember => keeps member (List.mem_cons_of_mem _ isMember)
      cases kept : keep head with
      | false =>
          have untested : test head = false := by
            by_contra tested
            have impossible := keeps head List.mem_cons_self (by simpa using tested)
            rw [kept] at impossible
            cases impossible
          have shifts : keptPosition keep (head :: rest) =
              fun position => keptPosition keep rest position + 1 := by
            funext position
            simp [keptPosition, kept]
          rw [positionsWhere_cons, List.filter_cons_of_neg (by simp [kept]), untested, later,
            shifts]
          simp [Function.comp_def]
      | true =>
          have starts : keptPosition keep (head :: rest) 0 = 0 := by simp [keptPosition, kept]
          have shifts : keptPosition keep (head :: rest) ∘ (· + 1) =
              (· + 1) ∘ keptPosition keep rest := by
            funext position
            simp [keptPosition, kept]
          rw [positionsWhere_cons, List.filter_cons_of_pos kept, positionsWhere_cons,
            List.map_append, List.map_map, shifts, ← List.map_map, ← later]
          cases tested : test head <;> simp [starts]

theorem findIdx?_filter {keep test : α → Bool} {list : List α}
    (keeps : ∀ member ∈ list, test member = true → keep member = true) :
    list.findIdx? test = ((list.filter keep).findIdx? test).map (keptPosition keep list) := by
  induction list with
  | nil => rfl
  | cons head rest ih =>
      have later := ih fun member isMember => keeps member (List.mem_cons_of_mem _ isMember)
      cases kept : keep head with
      | false =>
          have untested : test head = false := by
            by_contra tested
            have impossible := keeps head List.mem_cons_self (by simpa using tested)
            rw [kept] at impossible
            cases impossible
          rw [List.findIdx?_cons, List.filter_cons_of_neg (by simp [kept]), untested, later]
          cases (rest.filter keep).findIdx? test <;> simp [keptPosition, kept]
      | true =>
          rw [List.findIdx?_cons, List.filter_cons_of_pos kept, List.findIdx?_cons, later]
          cases tested : test head with
          | true => simp [keptPosition, kept]
          | false => cases (rest.filter keep).findIdx? test <;> simp [keptPosition, kept]

end CamAdmiral
