import Mathlib.Algebra.Order.Group.Defs
import Mathlib.Algebra.Order.Group.MinMax
import Mathlib.Data.List.Sort

/-!
A log of values over time as stretches that tile a window. Every stretch holds the value of the
last entry that is not later, and stretches cut to a part of the window tile that part.
-/

namespace CamAdmiral

variable {τ ν : Type*}

/-- A value from its start up to, but not at, its finish. -/
structure Stretch (τ ν : Type*) where
  start : τ
  finish : τ
  value : ν
  deriving DecidableEq, Repr

section
variable [LinearOrder τ]

def Stretch.Covers (stretch : Stretch τ ν) (time : τ) : Prop :=
  stretch.start ≤ time ∧ time < stretch.finish

/-- The stretches follow each other without a gap, and none is empty. -/
def Tiles (start finish : τ) : List (Stretch τ ν) → Prop
  | [] => start = finish
  | stretch :: rest =>
      stretch.start = start ∧ stretch.start < stretch.finish ∧ Tiles stretch.finish finish rest

theorem Tiles.le {start finish : τ} {stretches : List (Stretch τ ν)}
    (tiles : Tiles start finish stretches) : start ≤ finish := by
  induction stretches generalizing start with
  | nil => exact le_of_eq tiles
  | cons stretch rest ih =>
      obtain ⟨rfl, nonempty, others⟩ := tiles
      exact nonempty.le.trans (ih others)

theorem Tiles.within {start finish : τ} {stretches : List (Stretch τ ν)}
    (tiles : Tiles start finish stretches) {stretch : Stretch τ ν} (member : stretch ∈ stretches) :
    start ≤ stretch.start ∧ stretch.start < stretch.finish ∧ stretch.finish ≤ finish := by
  induction stretches generalizing start with
  | nil => cases member
  | cons first rest ih =>
      obtain ⟨rfl, nonempty, others⟩ := tiles
      rcases List.mem_cons.mp member with rfl | member
      · exact ⟨le_refl _, nonempty, others.le⟩
      · obtain ⟨after, inner, before⟩ := ih others member
        exact ⟨nonempty.le.trans after, inner, before⟩

theorem Tiles.concat {start middle : τ} {stretches : List (Stretch τ ν)}
    (tiles : Tiles start middle stretches) {finish : τ} (after : middle < finish) (value : ν) :
    Tiles start finish (stretches ++ [⟨middle, finish, value⟩]) := by
  induction stretches generalizing start with
  | nil =>
      obtain rfl : start = middle := tiles
      exact ⟨rfl, after, rfl⟩
  | cons stretch rest ih =>
      obtain ⟨same, nonempty, others⟩ := tiles
      exact ⟨same, nonempty, ih others⟩

/-- Every time of the window is covered by one stretch. -/
theorem Tiles.covered {start finish : τ} {stretches : List (Stretch τ ν)}
    (tiles : Tiles start finish stretches) {time : τ} (after : start ≤ time)
    (before : time < finish) :
    ∃ stretch ∈ stretches, stretch.Covers time ∧
      ∀ other ∈ stretches, other.Covers time → other = stretch := by
  induction stretches generalizing start with
  | nil => exact absurd (after.trans_lt before) (lt_irrefl start ∘ (tiles ▸ ·))
  | cons first rest ih =>
      obtain ⟨rfl, nonempty, others⟩ := tiles
      by_cases early : time < first.finish
      · refine ⟨first, List.mem_cons_self, ⟨after, early⟩, fun other member covers => ?_⟩
        rcases List.mem_cons.mp member with same | member
        · exact same
        · exact absurd (early.trans_le ((others.within member).1.trans covers.1)) (lt_irrefl time)
      · obtain ⟨stretch, member, covers, unique⟩ := ih others (not_lt.mp early)
        refine ⟨stretch, List.mem_cons_of_mem first member, covers, fun other isOther shown => ?_⟩
        rcases List.mem_cons.mp isOther with rfl | isOther
        · exact absurd shown.2 early
        · exact unique other isOther shown

/-! The stretches of a log. -/

/-- The stretches from a cursor, where a value already holds, to the finish. -/
def logStretches (finish cursor : τ) (value : ν) : List (τ × ν) → List (Stretch τ ν)
  | [] => if cursor < finish then [⟨cursor, finish, value⟩] else []
  | (time, next) :: rest =>
      (if cursor < time then [⟨cursor, time, value⟩] else []) ++
        logStretches finish time next rest

/-- The value of the last entry that is not later. -/
def logValue (value : ν) (entries : List (τ × ν)) (time : τ) : ν :=
  ((entries.filter (·.1 ≤ time)).getLast?.map Prod.snd).getD value

theorem logStretches_tiles {finish cursor : τ} (value : ν) {entries : List (τ × ν)}
    (ordered : entries.Pairwise fun earlier later => earlier.1 ≤ later.1)
    (bounds : ∀ entry ∈ entries, cursor ≤ entry.1 ∧ entry.1 ≤ finish) (inside : cursor ≤ finish) :
    Tiles cursor finish (logStretches finish cursor value entries) := by
  induction entries generalizing cursor value with
  | nil =>
      rw [logStretches]
      split
      · rename_i before
        exact ⟨rfl, before, rfl⟩
      · rename_i notBefore
        exact le_antisymm inside (not_lt.mp notBefore)
  | cons entry rest ih =>
      obtain ⟨time, next⟩ := entry
      rw [List.pairwise_cons] at ordered
      have atEntry := bounds (time, next) List.mem_cons_self
      have others : Tiles time finish (logStretches finish time next rest) :=
        ih next ordered.2 (fun other member =>
          ⟨ordered.1 other member, (bounds other (List.mem_cons_of_mem _ member)).2⟩) atEntry.2
      rw [logStretches]
      split
      · rename_i before
        exact ⟨rfl, before, others⟩
      · rename_i notBefore
        obtain rfl : cursor = time := le_antisymm atEntry.1 (not_lt.mp notBefore)
        exact others

theorem logValue_before {value : ν} {entries : List (τ × ν)} {time : τ}
    (later : ∀ entry ∈ entries, time < entry.1) : logValue value entries time = value := by
  have none : entries.filter (·.1 ≤ time) = [] := by
    rw [List.filter_eq_nil_iff]
    intro entry member isEarly
    exact absurd (of_decide_eq_true isEarly) (not_le.mpr (later entry member))
  rw [logValue, none]
  rfl

theorem logValue_cons {value next : ν} {entries : List (τ × ν)} {first time : τ}
    (early : first ≤ time) :
    logValue value ((first, next) :: entries) time = logValue next entries time := by
  rw [logValue, List.filter_cons_of_pos (by simpa using early), List.getLast?_cons, logValue]
  cases (entries.filter (·.1 ≤ time)).getLast? with
  | none => rfl
  | some last => rfl

/-- Every stretch holds the value of the log. -/
theorem logStretches_value {finish cursor : τ} {value : ν} {entries : List (τ × ν)}
    (ordered : entries.Pairwise fun earlier later => earlier.1 ≤ later.1)
    (bounds : ∀ entry ∈ entries, cursor ≤ entry.1 ∧ entry.1 ≤ finish) {stretch : Stretch τ ν}
    (member : stretch ∈ logStretches finish cursor value entries) {time : τ}
    (covers : stretch.Covers time) : stretch.value = logValue value entries time := by
  induction entries generalizing cursor value with
  | nil =>
      rw [logStretches] at member
      split at member
      · rw [List.mem_singleton.mp member]
        rfl
      · cases member
  | cons entry rest ih =>
      obtain ⟨first, next⟩ := entry
      rw [List.pairwise_cons] at ordered
      have atEntry := bounds (first, next) List.mem_cons_self
      have inRest : ∀ other ∈ rest, first ≤ other.1 ∧ other.1 ≤ finish := fun other isOther =>
        ⟨ordered.1 other isOther, (bounds other (List.mem_cons_of_mem _ isOther)).2⟩
      rw [logStretches, List.mem_append] at member
      rcases member with before | after
      · split at before
        · rw [List.mem_singleton] at before
          subst before
          rw [logValue_before]
          intro other isOther
          rcases List.mem_cons.mp isOther with rfl | isOther
          · exact covers.2
          · exact covers.2.trans_le (ordered.1 other isOther)
        · cases before
      · have started := ((logStretches_tiles next ordered.2 inRest atEntry.2).within after).1
        rw [logValue_cons (started.trans covers.1)]
        exact ih ordered.2 inRest after

/-! Stretches cut to a part of the window. -/

/-- What is left of a stretch between two times. -/
def clip (start finish : τ) (stretch : Stretch τ ν) : Option (Stretch τ ν) :=
  if max stretch.start start < min stretch.finish finish then
    some ⟨max stretch.start start, min stretch.finish finish, stretch.value⟩
  else
    none

/-- The parts of stretches that tile a window tile what of it lies between two times. -/
theorem Tiles.clipped {first last start finish : τ} {stretches : List (Stretch τ ν)}
    (tiles : Tiles first last stretches) (nonempty : start < finish) (inside : finish ≤ last) :
    (finish ≤ first → stretches.filterMap (clip start finish) = []) ∧
      (first < finish →
        Tiles (max first start) finish (stretches.filterMap (clip start finish))) := by
  induction stretches generalizing first with
  | nil =>
      obtain rfl : first = last := tiles
      exact ⟨fun _ => rfl, fun before => absurd before (not_lt.mpr inside)⟩
  | cons stretch rest ih =>
      obtain ⟨rfl, held, others⟩ := tiles
      obtain ⟨past, cut⟩ := ih others
      constructor
      · intro beyond
        have empty : clip start finish stretch = none := by
          rw [clip, if_neg]
          exact not_lt.mpr ((min_le_right _ _).trans (beyond.trans (le_max_left _ _)))
        rw [List.filterMap_cons_none empty, past (beyond.trans held.le)]
      · intro before
        by_cases early : stretch.finish ≤ start
        · have empty : clip start finish stretch = none := by
            rw [clip, if_neg]
            exact not_lt.mpr ((min_le_left _ _).trans (early.trans (le_max_right _ _)))
          have same : max stretch.start start = max stretch.finish start := by
            rw [max_eq_right early, max_eq_right (held.le.trans early)]
          rw [List.filterMap_cons_none empty, same]
          exact cut (early.trans_lt nonempty)
        · rw [not_le] at early
          have overlap : max stretch.start start < min stretch.finish finish :=
            lt_min (max_lt held early) (max_lt before nonempty)
          have left : clip start finish stretch =
              some ⟨max stretch.start start, min stretch.finish finish, stretch.value⟩ := by
            rw [clip, if_pos overlap]
          rw [List.filterMap_cons_some left]
          refine ⟨rfl, overlap, ?_⟩
          by_cases more : stretch.finish < finish
          · have tail := cut more
            rw [max_eq_left early.le] at tail
            rw [min_eq_left more.le]
            exact tail
          · rw [min_eq_right (not_lt.mp more), past (not_lt.mp more)]
            rfl

end

/-! Time that counts. -/

section
variable [AddCommGroup τ]

/-- The time of the stretches whose value counts. -/
def countedTime (counts : ν → Bool) (stretches : List (Stretch τ ν)) : τ :=
  stretches.foldr (fun stretch total =>
    if counts stretch.value then stretch.finish - stretch.start + total else total) 0

theorem countedTime_cons (counts : ν → Bool) (stretch : Stretch τ ν)
    (rest : List (Stretch τ ν)) :
    countedTime counts (stretch :: rest) =
      if counts stretch.value then stretch.finish - stretch.start + countedTime counts rest
      else countedTime counts rest := rfl

variable [LinearOrder τ] [IsOrderedAddMonoid τ]

theorem Tiles.countedTime_le {start finish : τ} {stretches : List (Stretch τ ν)}
    (tiles : Tiles start finish stretches) (counts : ν → Bool) :
    countedTime counts stretches ≤ finish - start := by
  induction stretches generalizing start with
  | nil =>
      obtain rfl : start = finish := tiles
      rw [sub_self]
      exact le_refl _
  | cons stretch rest ih =>
      obtain ⟨rfl, nonempty, others⟩ := tiles
      have whole : stretch.finish - stretch.start + (finish - stretch.finish) =
          finish - stretch.start := by
        rw [add_comm, sub_add_sub_cancel]
      rw [countedTime_cons, ← whole]
      split
      · exact add_le_add_right (ih others) _
      · exact (ih others).trans (le_add_of_nonneg_left (sub_nonneg.mpr nonempty.le))

theorem Tiles.countedTime_mono {start finish : τ} {stretches : List (Stretch τ ν)}
    (tiles : Tiles start finish stretches) {fewer more : ν → Bool}
    (implied : ∀ value, fewer value = true → more value = true) :
    countedTime fewer stretches ≤ countedTime more stretches := by
  induction stretches generalizing start with
  | nil => exact le_refl _
  | cons stretch rest ih =>
      obtain ⟨rfl, nonempty, others⟩ := tiles
      rw [countedTime_cons, countedTime_cons]
      split
      · rename_i isCounted
        rw [if_pos (implied _ isCounted)]
        exact add_le_add_right (ih others) _
      · split
        · exact (ih others).trans (le_add_of_nonneg_left (sub_nonneg.mpr nonempty.le))
        · exact ih others

end

end CamAdmiral
