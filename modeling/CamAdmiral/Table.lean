import Mathlib.Data.List.Nodup

/-!
Tables as lists of rows. A key that is unique in a table finds at most one row, and the
lemmas say what the statements that change a table do to the row found at a key.
-/

namespace CamAdmiral

variable {α κ : Type*}

/-- A primary key or a UNIQUE constraint. -/
def Unique (key : α → κ) (rows : List α) : Prop := (rows.map key).Nodup

theorem Unique.eq {key : α → κ} {rows : List α} (unique : Unique key rows) {first second : α}
    (firstMember : first ∈ rows) (secondMember : second ∈ rows)
    (same : key first = key second) : first = second :=
  List.inj_on_of_nodup_map unique firstMember secondMember same

theorem Unique.filter {key : α → κ} {rows : List α} (unique : Unique key rows)
    (keep : α → Bool) : Unique key (rows.filter keep) :=
  unique.sublist (List.filter_sublist.map key)

theorem Unique.map {key : α → κ} {rows : List α} (unique : Unique key rows) (change : α → α)
    (sameKey : ∀ row, key (change row) = key row) : Unique key (rows.map change) := by
  simpa [Unique, Function.comp_def, sameKey] using unique

theorem Unique.append {key : α → κ} {rows : List α} (unique : Unique key rows) {added : α}
    (fresh : ∀ row ∈ rows, key row ≠ key added) : Unique key (rows ++ [added]) := by
  simp only [Unique, List.map_append, List.map_cons, List.map_nil]
  refine List.Nodup.append unique (List.nodup_singleton _) ?_
  intro label isOld isNew
  obtain ⟨row, member, rfl⟩ := List.mem_map.mp isOld
  exact fresh row member (List.mem_singleton.mp isNew)

variable [DecidableEq κ]

/-! The rows of one owner, named by a column, under statements about another owner. -/

theorem filter_map_others {column : α → κ} (rows : List α) {change : α → α} {owner : κ}
    (sameColumn : ∀ row, column (change row) = column row)
    (untouched : ∀ row ∈ rows, column row = owner → change row = row) :
    (rows.map change).filter (fun row => column row = owner) =
      rows.filter fun row => column row = owner := by
  induction rows with
  | nil => rfl
  | cons row rest ih =>
      have tail := ih fun other member => untouched other (List.mem_cons_of_mem _ member)
      by_cases owned : column row = owner
      · simp [owned, tail, untouched row List.mem_cons_self owned]
      · simp [sameColumn, owned, tail]

theorem filter_append_others {column : α → κ} (rows : List α) {added : α} {owner : κ}
    (other : column added ≠ owner) :
    (rows ++ [added]).filter (fun row => column row = owner) =
      rows.filter fun row => column row = owner := by
  simp [List.filter_append, other]

theorem filter_filter_others {column : α → κ} (rows : List α) {keep : α → Bool} {owner : κ}
    (kept : ∀ row ∈ rows, column row = owner → keep row = true) :
    (rows.filter keep).filter (fun row => column row = owner) =
      rows.filter fun row => column row = owner := by
  rw [List.filter_filter]
  apply List.filter_congr
  intro row member
  by_cases owned : column row = owner
  · simp [owned, kept row member owned]
  · simp [owned]

/-- The row a SELECT by key fetches. -/
def rowAt (key : α → κ) (rows : List α) (wanted : κ) : Option α :=
  rows.find? fun row => key row = wanted

theorem rowAt_some {key : α → κ} {rows : List α} {wanted : κ} {row : α}
    (found : rowAt key rows wanted = some row) : row ∈ rows ∧ key row = wanted :=
  ⟨List.mem_of_find?_eq_some found, by simpa using List.find?_some found⟩

theorem rowAt_none {key : α → κ} {rows : List α} {wanted : κ} :
    rowAt key rows wanted = none ↔ ∀ row ∈ rows, key row ≠ wanted := by
  simp [rowAt, List.find?_eq_none]

theorem rowAt_isSome {key : α → κ} {rows : List α} {row : α} (member : row ∈ rows) :
    ∃ found, rowAt key rows (key row) = some found := by
  cases found : rowAt key rows (key row) with
  | none => exact absurd rfl (rowAt_none.mp found row member)
  | some other => exact ⟨other, rfl⟩

theorem Unique.rowAt_eq {key : α → κ} {rows : List α} (unique : Unique key rows) {row : α}
    (member : row ∈ rows) : rowAt key rows (key row) = some row := by
  obtain ⟨other, found⟩ : ∃ found, rowAt key rows (key row) = some found := rowAt_isSome member
  obtain ⟨otherMember, same⟩ := rowAt_some found
  rw [found, unique.eq otherMember member same]

/-- A WHERE on a unique key. -/
theorem Unique.filter_key {key : α → κ} {rows : List α} (unique : Unique key rows)
    (wanted : κ) : rows.filter (fun row => key row = wanted) = (rowAt key rows wanted).toList := by
  induction rows with
  | nil => rfl
  | cons row rest ih =>
      obtain ⟨others, tail⟩ := List.nodup_cons.mp unique
      by_cases same : key row = wanted
      · subst same
        have absent : rest.filter (fun other => key other = key row) = [] := by
          rw [List.filter_eq_nil_iff]
          intro other member same
          have sameKey := of_decide_eq_true same
          exact others (sameKey ▸ List.mem_map_of_mem member)
        simp [rowAt, absent]
      · have found := ih tail
        simp only [rowAt] at found ⊢
        rw [List.filter_cons_of_neg (by simpa using same), found,
          List.find?_cons_of_neg (by simpa using same)]

theorem rowAt_map {key : α → κ} (rows : List α) (change : α → α)
    (sameKey : ∀ row, key (change row) = key row) (wanted : κ) :
    rowAt key (rows.map change) wanted = (rowAt key rows wanted).map change := by
  simp [rowAt, List.find?_map, Function.comp_def, sameKey]

theorem Unique.rowAt_filter {key : α → κ} {rows : List α} (unique : Unique key rows)
    (keep : α → Bool) (wanted : κ) :
    rowAt key (rows.filter keep) wanted = (rowAt key rows wanted).filter keep := by
  cases found : rowAt key rows wanted with
  | none =>
      apply rowAt_none.mpr
      intro row member
      exact rowAt_none.mp found row (List.mem_filter.mp member).1
  | some row =>
      obtain ⟨member, rfl⟩ := rowAt_some found
      cases kept : keep row with
      | true =>
          rw [(unique.filter keep).rowAt_eq (List.mem_filter.mpr ⟨member, kept⟩),
            Option.filter_some_pos kept]
      | false =>
          rw [Option.filter_some_neg (by simp [kept])]
          apply rowAt_none.mpr
          intro other otherMember same
          obtain ⟨isOther, otherKept⟩ := List.mem_filter.mp otherMember
          rw [unique.eq isOther member same, kept] at otherKept
          exact absurd otherKept (by simp)

/-- A filter that only looks at the key. -/
theorem rowAt_filter_key {key : α → κ} (rows : List α) (keep : κ → Bool) {wanted : κ}
    (kept : keep wanted = true) :
    rowAt key (rows.filter fun row => keep (key row)) wanted = rowAt key rows wanted := by
  rw [rowAt, rowAt, List.find?_filter]
  congr 1
  funext row
  by_cases same : key row = wanted <;> simp [same, kept]

theorem rowAt_append (key : α → κ) (rows : List α) (added : α) (wanted : κ) :
    rowAt key (rows ++ [added]) wanted =
      (rowAt key rows wanted <|> if key added = wanted then some added else none) := by
  rw [rowAt, List.find?_append, ← rowAt]
  by_cases same : key added = wanted <;> simp [same]

/-! `INSERT ... ON CONFLICT(key) DO UPDATE` and `UPDATE ... WHERE key = ?`. -/

def updateRow (key : α → κ) (wanted : κ) (change : α → α) (rows : List α) : List α :=
  rows.map fun row => if key row = wanted then change row else row

def upsertRow (key : α → κ) (added : α) (change : α → α) (rows : List α) : List α :=
  if (rowAt key rows (key added)).isSome then
    updateRow key (key added) change rows
  else
    rows ++ [added]

theorem upsertRow_absent {key : α → κ} {rows : List α} {added : α} (change : α → α)
    (absent : rowAt key rows (key added) = none) :
    upsertRow key added change rows = rows ++ [added] := by
  simp [upsertRow, absent]

theorem rowAt_updateRow {key : α → κ} (rows : List α) (change : α → α)
    (sameKey : ∀ row, key (change row) = key row) (updated wanted : κ) :
    rowAt key (updateRow key updated change rows) wanted =
      if wanted = updated then (rowAt key rows wanted).map change else rowAt key rows wanted := by
  have keeps (row : α) : key (if key row = updated then change row else row) = key row := by
    split
    · exact sameKey row
    · rfl
  rw [updateRow, rowAt_map rows _ keeps]
  cases found : rowAt key rows wanted with
  | none => simp
  | some row =>
      obtain ⟨_, rfl⟩ := rowAt_some found
      by_cases isUpdated : key row = updated <;> simp [isUpdated]

theorem rowAt_upsertRow {key : α → κ} (rows : List α) {added : α} {change : α → α}
    (sameKey : ∀ row, key (change row) = key row) (wanted : κ) :
    rowAt key (upsertRow key added change rows) wanted =
      if wanted = key added then some ((rowAt key rows wanted).elim added change)
      else rowAt key rows wanted := by
  rw [upsertRow]
  cases found : rowAt key rows (key added) with
  | none =>
      simp only [Option.isSome_none, Bool.false_eq_true, if_false, rowAt_append]
      by_cases same : wanted = key added
      · subst same
        simp [found]
      · simp [same, Ne.symm same]
  | some row =>
      simp only [Option.isSome_some, if_true, rowAt_updateRow rows change sameKey]
      by_cases same : wanted = key added
      · subst same
        simp [found]
      · simp [same]

theorem Unique.updateRow {key : α → κ} {rows : List α} (unique : Unique key rows)
    (wanted : κ) {change : α → α} (sameKey : ∀ row, key (change row) = key row) :
    Unique key (updateRow key wanted change rows) := by
  apply unique.map
  intro row
  split
  · exact sameKey row
  · rfl

theorem Unique.upsertRow {key : α → κ} {rows : List α} (unique : Unique key rows)
    (added : α) {change : α → α} (sameKey : ∀ row, key (change row) = key row) :
    Unique key (upsertRow key added change rows) := by
  rw [CamAdmiral.upsertRow]
  split
  · exact unique.updateRow _ sameKey
  · rename_i absent
    simp only [Option.isSome_iff_ne_none, ne_eq, not_not] at absent
    exact unique.append (rowAt_none.mp absent)

theorem mem_updateRow {key : α → κ} {rows : List α} {wanted : κ} {change : α → α} {row : α} :
    row ∈ updateRow key wanted change rows ↔
      (row ∈ rows ∧ key row ≠ wanted) ∨
        ∃ original ∈ rows, key original = wanted ∧ row = change original := by
  simp only [updateRow, List.mem_map]
  constructor
  · rintro ⟨original, member, rfl⟩
    by_cases isWanted : key original = wanted
    · exact .inr ⟨original, member, isWanted, by simp [isWanted]⟩
    · exact .inl (by simp [isWanted, member])
  · rintro (⟨member, isOther⟩ | ⟨original, member, isWanted, rfl⟩)
    · exact ⟨row, member, by simp [isOther]⟩
    · exact ⟨original, member, by simp [isWanted]⟩

theorem mem_upsertRow {key : α → κ} {added row : α} {rows : List α}
    (member : row ∈ upsertRow key added (fun _ => added) rows) : row ∈ rows ∨ row = added := by
  rw [upsertRow] at member
  split at member
  · rcases mem_updateRow.mp member with ⟨isOld, _⟩ | ⟨_, _, _, rfl⟩
    · exact .inl isOld
    · exact .inr rfl
  · rcases List.mem_append.mp member with isOld | isNew
    · exact .inl isOld
    · exact .inr (List.mem_singleton.mp isNew)

end CamAdmiral
