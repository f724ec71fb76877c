import Mathlib.Data.List.Nodup
import Mathlib.Data.List.Perm.Basic

/-!
A first-come choice: every item takes, in list order, what it chooses among the values
nobody took before it. Which item gets which value is independent of the order of the items
exactly if no two of them choose the same value while everything is free.
-/

namespace CamAdmiral

variable {α β : Type*}

/-- `choose taken item` is what `item` takes, if anything. -/
structure FirstCome (choose : List β → α → Option β) : Prop where
  free : ∀ {taken item value}, choose taken item = some value → value ∉ taken
  first : ∀ {taken item value}, choose [] item = some value → value ∉ taken →
    choose taken item = some value
  nothing : ∀ {taken item}, choose [] item = none → choose taken item = none

def greedy (choose : List β → α → Option β) : List β → List α → List (Option β)
  | _, [] => []
  | taken, item :: rest =>
      let chosen := choose taken item
      chosen :: greedy choose (chosen.toList ++ taken) rest

theorem greedy_length (choose : List β → α → Option β) (taken : List β) (items : List α) :
    (greedy choose taken items).length = items.length := by
  induction items generalizing taken with
  | nil => rfl
  | cons item rest ih => simp [greedy, ih]

/-- A choice among renamed values runs like the choice it renames. -/
theorem greedy_map {γ : Type*} {choose : List β → α → Option β} {other : List γ → α → Option γ}
    (rename : β → γ) {items : List α}
    (same : ∀ taken, ∀ item ∈ items, other (taken.map rename) item =
      (choose taken item).map rename) (taken : List β) :
    greedy other (taken.map rename) items =
      (greedy choose taken items).map (Option.map rename) := by
  induction items generalizing taken with
  | nil => rfl
  | cons item rest ih =>
      have later := ih (fun taken item member => same taken item (List.mem_cons_of_mem _ member))
        ((choose taken item).toList ++ taken)
      have chosen : ((choose taken item).toList ++ taken).map rename =
          ((choose taken item).map rename).toList ++ taken.map rename := by
        cases choose taken item <;> simp
      rw [chosen] at later
      simp only [greedy, List.map_cons, same taken item List.mem_cons_self, later]

/-- No value is taken twice, and none that was taken before. -/
theorem FirstCome.distinct {choose : List β → α → Option β} (firstCome : FirstCome choose)
    (taken : List β) (items : List α) :
    ((greedy choose taken items).filterMap id).Nodup ∧
      ∀ value, some value ∈ greedy choose taken items → value ∉ taken := by
  induction items generalizing taken with
  | nil => simp [greedy]
  | cons item rest ih =>
      obtain ⟨restDistinct, restFree⟩ := ih ((choose taken item).toList ++ taken)
      simp only [greedy, List.mem_cons]
      cases found : choose taken item with
      | none =>
          rw [found] at restDistinct restFree
          refine ⟨by simpa using restDistinct, ?_⟩
          rintro value (impossible | later)
          · simp at impossible
          · simpa using restFree value later
      | some chosen =>
          rw [found] at restDistinct restFree
          constructor
          · simp only [List.filterMap_cons_some (f := id) rfl, List.nodup_cons]
            refine ⟨?_, restDistinct⟩
            intro again
            have free := restFree chosen (by simpa using again)
            simp at free
          · rintro value (same | later)
            · obtain rfl : value = chosen := by simpa using same
              exact firstCome.free found
            · intro isTaken
              exact restFree value later (by simp [isTaken])

/-- Items that choose different values all get them. -/
theorem FirstCome.all_first {choose : List β → α → Option β} (firstCome : FirstCome choose)
    {taken : List β} {items : List α} (apart : (items.filterMap (choose [])).Nodup)
    (free : ∀ value ∈ items.filterMap (choose []), value ∉ taken) :
    greedy choose taken items = items.map (choose []) := by
  induction items generalizing taken with
  | nil => rfl
  | cons item rest ih =>
      cases wanted : choose [] item with
      | none =>
          rw [List.filterMap_cons_none wanted] at apart free
          simp only [greedy, List.map_cons, firstCome.nothing wanted]
          exact congrArg _ (ih apart free)
      | some value =>
          rw [List.filterMap_cons_some wanted] at apart free
          have got := firstCome.first wanted (free value List.mem_cons_self)
          simp only [greedy, List.map_cons, got, wanted]
          refine congrArg _ (ih (List.nodup_cons.mp apart).2 ?_)
          intro other member isTaken
          simp only [Option.toList_some, List.singleton_append, List.mem_cons] at isTaken
          rcases isTaken with same | earlier
          · subst other
            exact (List.nodup_cons.mp apart).1 member
          · exact free other (List.mem_cons_of_mem value member) earlier

/-! Orders of the same items, each named by its position in one of them. -/

def assignment (choose : List β → α → Option β) (order : List (α × Nat)) :
    List (Nat × Option β) :=
  (order.map Prod.snd).zip (greedy choose [] (order.map Prod.fst))

def OrderIndependent (choose : List β → α → Option β) (items : List α) : Prop :=
  ∀ order, order.Perm items.zipIdx →
    (assignment choose order).Perm (assignment choose items.zipIdx)

theorem assignment_values (choose : List β → α → Option β) (order : List (α × Nat)) :
    (assignment choose order).map Prod.snd = greedy choose [] (order.map Prod.fst) := by
  rw [assignment, List.map_snd_zip]
  simp [greedy_length]

/-- The item an order begins with gets its first choice. -/
theorem first_assigned (choose : List β → α → Option β) (item : α) (position : Nat)
    (rest : List (α × Nat)) :
    (position, choose [] item) ∈ assignment choose ((item, position) :: rest) := by
  simp [assignment, greedy]

/-- Some order begins with any given position. -/
theorem order_from {items : List α} {position : Nat} {item : α}
    (get : items[position]? = some item) :
    ∃ rest, ((item, position) :: rest).Perm items.zipIdx := by
  obtain ⟨before, after, split⟩ := List.append_of_mem
    (List.mk_mem_zipIdx_iff_getElem?.mpr get)
  exact ⟨before ++ after, by rw [split]; exact List.perm_middle.symm⟩

/-- A value is assigned to one position. -/
theorem FirstCome.assigned_once {choose : List β → α → Option β}
    (firstCome : FirstCome choose) {order : List (α × Nat)} {first second : Nat} {value : β}
    (firstMember : (first, some value) ∈ assignment choose order)
    (secondMember : (second, some value) ∈ assignment choose order) : first = second := by
  by_contra different
  obtain ⟨before, after, split⟩ := List.append_of_mem firstMember
  have elsewhere : (second, some value) ∈ before ++ after := by
    rw [split, List.mem_append, List.mem_cons] at secondMember
    rcases secondMember with early | same | late
    · exact List.mem_append_left after early
    · exact (different (Prod.mk.inj same).1.symm).elim
    · exact List.mem_append_right before late
  have values := (firstCome.distinct [] (order.map Prod.fst)).1
  rw [← assignment_values, split, List.filterMap_map, List.filterMap_append,
    List.filterMap_cons_some (b := value) (by simp), List.nodup_middle, List.nodup_cons,
    ← List.filterMap_append] at values
  exact values.1 (List.mem_filterMap.mpr ⟨_, elsewhere, by simp⟩)

/-- Two items with one first choice: whichever an order begins with gets it. -/
theorem FirstCome.order_independent_iff {choose : List β → α → Option β}
    (firstCome : FirstCome choose) (items : List α) :
    OrderIndependent choose items ↔ (items.filterMap (choose [])).Nodup := by
  constructor
  · intro independent
    have assigned {position : Nat} {item : α} (get : items[position]? = some item) :
        (position, choose [] item) ∈ assignment choose items.zipIdx := by
      obtain ⟨rest, reordered⟩ := order_from get
      exact (independent _ reordered).mem_iff.mp (first_assigned choose item position rest)
    rw [List.Nodup, List.pairwise_filterMap, List.pairwise_iff_getElem]
    rintro first second firstBound secondBound earlier value firstWants other secondWants rfl
    have firstGets := assigned (List.getElem?_eq_getElem firstBound)
    have secondGets := assigned (List.getElem?_eq_getElem secondBound)
    rw [firstWants] at firstGets
    rw [secondWants] at secondGets
    have same := firstCome.assigned_once firstGets secondGets
    omega
  · intro apart order reordered
    have asWanted {listed : List (α × Nat)} (perm : listed.Perm items.zipIdx) :
        assignment choose listed =
          listed.map fun entry => (entry.2, choose [] entry.1) := by
      have same : (listed.map Prod.fst).Perm items := by
        simpa using perm.map Prod.fst
      rw [assignment, firstCome.all_first
        (((same.filterMap (choose [])).nodup_iff).mpr apart) (by simp), List.map_map,
        List.zip_map']
      rfl
    rw [asWanted reordered, asWanted (List.Perm.refl _)]
    exact reordered.map _

end CamAdmiral
