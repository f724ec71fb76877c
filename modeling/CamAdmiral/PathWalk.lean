import Mathlib.Logic.Relation
import Mathlib.Data.List.Basic

/-!
A walk over keys that are named by values, each key leading to values again. The walk keeps no set
of the keys it has seen: it carries the trail of the keys above it, fails when a key comes back on
its own trail or the trail is too long, and visits a key again on every other way to it.
-/

namespace CamAdmiral

variable {V K ε : Type*} [DecidableEq K]

/-- The keys found for all values; the first failure stops. -/
def collect (find : V → Except ε (List K)) : List V → Except ε (List K)
  | [] => .ok []
  | value :: rest => do
      let first ← find value
      let others ← collect find rest
      pure (first ++ others)

/-- `name` is the key that a value names, if any, and `below` the values of a key. The number is
how many more keys the trail may have. -/
def pathWalk (name : V → Except ε (Option K)) (below : K → List V) (tooDeep cyclic : ε) :
    Nat → List K → V → Except ε (List K)
  | 0, _, _ => .error tooDeep
  | remaining + 1, trail, value => do
      match ← name value with
      | none => pure []
      | some key =>
          if key ∈ trail then
            throw cyclic
          else
            let nested ← collect (pathWalk name below tooDeep cyclic remaining (trail ++ [key]))
              (below key)
            pure (key :: nested)

/-- The graph of the keys. -/
def Leads (name : V → Except ε (Option K)) (below : K → List V) (key next : K) : Prop :=
  ∃ value ∈ below key, name value = .ok (some next)

/-- The value names a key that leads to this one. -/
def Reads (name : V → Except ε (Option K)) (below : K → List V) (value : V) (key : K) : Prop :=
  ∃ first, name value = .ok (some first) ∧ Relation.ReflTransGen (Leads name below) first key

/-- What makes a walk fail, with so many more keys for the trail. -/
inductive Obstructed (name : V → Except ε (Option K)) (below : K → List V) :
    Nat → List K → V → Prop
  | deep {trail : List K} {value : V} : Obstructed name below 0 trail value
  | unreadable {remaining : Nat} {trail : List K} {value : V} {problem : ε}
      (fails : name value = .error problem) : Obstructed name below (remaining + 1) trail value
  | cyclic {remaining : Nat} {trail : List K} {value : V} {key : K}
      (named : name value = .ok (some key)) (returns : key ∈ trail) :
      Obstructed name below (remaining + 1) trail value
  | further {remaining : Nat} {trail : List K} {value inner : V} {key : K}
      (named : name value = .ok (some key)) (member : inner ∈ below key)
      (obstructed : Obstructed name below remaining (trail ++ [key]) inner) :
      Obstructed name below (remaining + 1) trail value

/-! All values. -/

section
variable {find : V → Except ε (List K)} {values : List V}

omit [DecidableEq K] in
theorem collect_failed_iff :
    (∃ problem, collect find values = .error problem) ↔
      ∃ value ∈ values, ∃ problem, find value = .error problem := by
  induction values with
  | nil => simp [collect]
  | cons first rest ih =>
      rw [List.exists_mem_cons_iff, ← ih]
      cases isFirst : find first with
      | error problem => simp [collect, isFirst, bind, Except.bind]
      | ok part =>
          cases isRest : collect find rest with
          | error problem => simp [collect, isFirst, isRest, bind, Except.bind]
          | ok others => simp [collect, isFirst, isRest, bind, Except.bind, pure, Except.pure]

omit [DecidableEq K] in
theorem collect_part {found : List K} (done : collect find values = .ok found) {value : V}
    (member : value ∈ values) : ∃ part, find value = .ok part := by
  cases isPart : find value with
  | ok part => exact ⟨part, rfl⟩
  | error problem =>
      obtain ⟨_, failed⟩ := collect_failed_iff.mpr ⟨value, member, problem, isPart⟩
      rw [done] at failed
      cases failed

omit [DecidableEq K] in
theorem collect_found {found : List K} (done : collect find values = .ok found) {key : K} :
    key ∈ found ↔ ∃ value ∈ values, ∃ part, find value = .ok part ∧ key ∈ part := by
  induction values generalizing found with
  | nil =>
      obtain rfl := Except.ok.inj done
      simp
  | cons first rest ih =>
      simp only [collect] at done
      cases isFirst : find first with
      | error problem => simp [isFirst, bind, Except.bind] at done
      | ok part =>
          cases isRest : collect find rest with
          | error problem => simp [isFirst, isRest, bind, Except.bind] at done
          | ok others =>
              simp only [isFirst, isRest, bind, Except.bind, pure, Except.pure,
                Except.ok.injEq] at done
              subst done
              rw [List.mem_append, List.exists_mem_cons_iff, ih isRest]
              simp [isFirst]

omit [DecidableEq K] in
theorem collect_append (others : List V) : collect find (values ++ others) = (do
    let found ← collect find values
    let more ← collect find others
    pure (found ++ more)) := by
  induction values with
  | nil => cases isRest : collect find others <;> simp [collect, isRest, bind, Except.bind, pure,
      Except.pure]
  | cons first rest ih =>
      cases isFirst : find first with
      | error problem => simp [collect, isFirst, bind, Except.bind]
      | ok part =>
          cases isRest : collect find rest <;> cases isOther : collect find others <;>
            simp [collect, ih, isFirst, isRest, isOther, bind, Except.bind, pure, Except.pure]

omit [DecidableEq K] in
theorem collect_map {α : Type*} (change : α → V) (items : List α) :
    collect find (items.map change) = collect (fun item => find (change item)) items := by
  induction items with
  | nil => rfl
  | cons first rest ih => rw [List.map_cons, collect, collect, ih]

end

/-! The keys that a value reads. -/

section
variable {name : V → Except ε (Option K)} {below : K → List V} {value : V}

omit [DecidableEq K] in
theorem Reads.of_unnamed (named : name value = .ok none) (key : K) :
    ¬ Reads name below value key := by
  rintro ⟨first, isFirst, _⟩
  rw [named] at isFirst
  cases isFirst

omit [DecidableEq K] in
theorem Reads.onward {key other : K} (reads : Reads name below value key)
    (leads : Relation.ReflTransGen (Leads name below) key other) :
    Reads name below value other := by
  obtain ⟨first, isFirst, before⟩ := reads
  exact ⟨first, isFirst, before.trans leads⟩

omit [DecidableEq K] in
theorem reads_iff {key : K} (named : name value = .ok (some key)) {other : K} :
    Reads name below value other ↔
      other = key ∨ ∃ inner ∈ below key, Reads name below inner other := by
  have onward : (∃ inner ∈ below key, Reads name below inner other) ↔
      ∃ next, Leads name below key next ∧
        Relation.ReflTransGen (Leads name below) next other := by
    constructor
    · rintro ⟨inner, member, next, isNext, leads⟩
      exact ⟨next, ⟨inner, member, isNext⟩, leads⟩
    · rintro ⟨next, ⟨inner, member, isNext⟩, leads⟩
      exact ⟨inner, member, next, isNext, leads⟩
  have start : Reads name below value other ↔
      Relation.ReflTransGen (Leads name below) key other := by
    constructor
    · rintro ⟨first, isFirst, leads⟩
      obtain rfl : key = first := Option.some.inj (Except.ok.inj (named.symm.trans isFirst))
      exact leads
    · exact fun leads => ⟨key, named, leads⟩
  rw [start, onward, Relation.ReflTransGen.cases_head_iff, eq_comm]

end

/-! What a walk returns. -/

section
variable {name : V → Except ε (Option K)} {below : K → List V} {tooDeep cyclic : ε}
variable {remaining : Nat} {trail found : List K} {value : V}

/-- A walk that returns has found nothing, or the key that the value names and what the walks from
its values have found. -/
theorem pathWalk_ok_iff :
    pathWalk name below tooDeep cyclic (remaining + 1) trail value = .ok found ↔
      (name value = .ok none ∧ found = []) ∨
        ∃ key nested, name value = .ok (some key) ∧ key ∉ trail ∧
          collect (pathWalk name below tooDeep cyclic remaining (trail ++ [key])) (below key) =
            .ok nested ∧ found = key :: nested := by
  cases named : name value with
  | error problem => simp [pathWalk, named, bind, Except.bind]
  | ok reference =>
      cases reference with
      | none => simp [pathWalk, named, bind, Except.bind, pure, Except.pure, eq_comm]
      | some key =>
          by_cases returns : key ∈ trail
          · simp [pathWalk, named, returns, bind, Except.bind, throw, throwThe, MonadExceptOf.throw]
          · cases inner : collect (pathWalk name below tooDeep cyclic remaining (trail ++ [key]))
              (below key) with
            | error problem => simp [pathWalk, named, returns, inner, bind, Except.bind]
            | ok nested =>
                simp [pathWalk, named, returns, inner, bind, Except.bind, pure, Except.pure,
                  eq_comm]

theorem pathWalk_failed_iff :
    (∃ problem, pathWalk name below tooDeep cyclic remaining trail value = .error problem) ↔
      Obstructed name below remaining trail value := by
  induction remaining generalizing trail value with
  | zero => exact ⟨fun _ => .deep, fun _ => ⟨tooDeep, rfl⟩⟩
  | succ remaining ih =>
      constructor
      · rintro ⟨problem, failed⟩
        by_contra clear
        cases named : name value with
        | error problem => exact clear (.unreadable named)
        | ok reference =>
            cases reference with
            | none => simp [pathWalk, named, bind, Except.bind, pure, Except.pure] at failed
            | some key =>
                have fresh : key ∉ trail := fun returns => clear (.cyclic named returns)
                cases inner : collect (pathWalk name below tooDeep cyclic remaining
                    (trail ++ [key])) (below key) with
                | error problem =>
                    obtain ⟨lower, member, fails⟩ := collect_failed_iff.mp ⟨problem, inner⟩
                    exact clear (.further named member (ih.mp fails))
                | ok nested =>
                    rw [pathWalk_ok_iff.mpr (.inr ⟨key, nested, named, fresh, inner, rfl⟩)]
                      at failed
                    cases failed
      · intro obstructed
        cases walked : pathWalk name below tooDeep cyclic (remaining + 1) trail value with
        | error problem => exact ⟨problem, rfl⟩
        | ok found =>
            rcases pathWalk_ok_iff.mp walked with
              ⟨named, _⟩ | ⟨key, nested, named, fresh, inner, _⟩
            · cases obstructed with
              | unreadable fails => simp [named] at fails
              | cyclic other _ => simp [named] at other
              | further other _ _ => simp [named] at other
            · cases obstructed with
              | unreadable fails => simp [named] at fails
              | cyclic other returns =>
                  obtain rfl : key = _ := by simpa [named] using other
                  exact absurd returns fresh
              | further other member obstructed =>
                  obtain rfl : key = _ := by simpa [named] using other
                  obtain ⟨problem, failed⟩ := ih.mpr obstructed
                  obtain ⟨part, isPart⟩ := collect_part inner member
                  rw [isPart] at failed
                  cases failed

/-- A walk that returns has found exactly the keys that its value reads. -/
theorem pathWalk_found
    (walked : pathWalk name below tooDeep cyclic remaining trail value = .ok found) {key : K} :
    key ∈ found ↔ Reads name below value key := by
  induction remaining generalizing trail found value key with
  | zero => cases walked
  | succ remaining ih =>
      rcases pathWalk_ok_iff.mp walked with
        ⟨named, rfl⟩ | ⟨first, nested, named, _, inner, rfl⟩
      · simp [Reads.of_unnamed named]
      · rw [List.mem_cons, reads_iff named, collect_found inner]
        apply or_congr_right
        constructor
        · rintro ⟨lower, member, part, isPart, inPart⟩
          exact ⟨lower, member, (ih isPart).mp inPart⟩
        · rintro ⟨lower, member, reads⟩
          obtain ⟨part, isPart⟩ := collect_part inner member
          exact ⟨lower, member, part, isPart, (ih isPart).mpr reads⟩

theorem pathWalk_fresh
    (walked : pathWalk name below tooDeep cyclic remaining trail value = .ok found) {key : K}
    (member : key ∈ found) : key ∉ trail := by
  induction remaining generalizing trail found value with
  | zero => cases walked
  | succ remaining ih =>
      rcases pathWalk_ok_iff.mp walked with
        ⟨_, rfl⟩ | ⟨first, nested, _, fresh, inner, rfl⟩
      · cases member
      · rcases List.mem_cons.mp member with rfl | inNested
        · exact fresh
        · obtain ⟨lower, _, part, isPart, inPart⟩ := (collect_found inner).mp inNested
          exact fun onTrail => ih isPart inPart (List.mem_append_left _ onTrail)

/-- No key that a walk has found leads back to itself. -/
theorem pathWalk_acyclic
    (walked : pathWalk name below tooDeep cyclic remaining trail value = .ok found) {key : K}
    (member : key ∈ found) : ¬ Relation.TransGen (Leads name below) key key := by
  induction remaining generalizing trail found value with
  | zero => cases walked
  | succ remaining ih =>
      rcases pathWalk_ok_iff.mp walked with
        ⟨_, rfl⟩ | ⟨first, nested, named, _, inner, rfl⟩
      · cases member
      · rcases List.mem_cons.mp member with rfl | inNested
        · intro cycle
          -- What comes back to the key is found below it, past the key itself.
          obtain ⟨next, ⟨lower, listed, isNext⟩, back⟩ := Relation.TransGen.head'_iff.mp cycle
          have reads : Reads name below lower key := ⟨next, isNext, back⟩
          obtain ⟨part, isPart⟩ := collect_part inner listed
          exact pathWalk_fresh isPart ((pathWalk_found isPart).mpr reads)
            (List.mem_append_right _ (List.mem_singleton.mpr rfl))
        · obtain ⟨lower, _, part, isPart, inPart⟩ := (collect_found inner).mp inNested
          exact ih isPart inPart

end

end CamAdmiral
