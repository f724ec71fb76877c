import Mathlib.Data.List.Nodup

/-!
Mappings as lists of keys and values, the way a YAML or JSON object is written: setting a
key keeps its place, a new key comes last.
-/

namespace CamAdmiral

variable {κ β : Type*} [DecidableEq κ]

def setKey (mapping : List (κ × β)) (key : κ) (value : β) : List (κ × β) :=
  if (mapping.lookup key).isSome then
    mapping.map fun entry => if entry.1 = key then (key, value) else entry
  else
    mapping ++ [(key, value)]

def eraseKey (mapping : List (κ × β)) (key : κ) : List (κ × β) :=
  mapping.filter fun entry => entry.1 ≠ key

theorem mem_of_lookup {mapping : List (κ × β)} {key : κ} {value : β}
    (found : mapping.lookup key = some value) : (key, value) ∈ mapping := by
  obtain ⟨before, after, rfl, _⟩ := List.lookup_eq_some_iff.mp found
  simp

theorem lookup_setKey (mapping : List (κ × β)) (key other : κ) (value : β) :
    (setKey mapping key value).lookup other =
      if other = key then some value else mapping.lookup other := by
  have changed (mapping : List (κ × β)) :
      (mapping.map fun entry => if entry.1 = key then (key, value) else entry).lookup other =
        if other = key then (mapping.lookup key).map fun _ => value
        else mapping.lookup other := by
    induction mapping with
    | nil => split <;> rfl
    | cons entry rest ih =>
        obtain ⟨name, held⟩ := entry
        by_cases isKey : name = key
        · by_cases same : other = key
          · simp [isKey, same]
          · have notKey : (other == key) = false := beq_false_of_ne same
            simpa [isKey, same, List.lookup_cons, notKey] using ih
        · by_cases isName : other = name
          · simp [isName, isKey]
          · have notName : (other == name) = false := beq_false_of_ne isName
            have notKey : (key == name) = false := beq_false_of_ne (Ne.symm isKey)
            simpa [isKey, List.lookup_cons, notName, notKey] using ih
  unfold setKey
  cases held : mapping.lookup key with
  | some _ =>
      rw [Option.isSome_some, if_pos rfl, changed, held]
      rfl
  | none =>
      rw [Option.isSome_none, if_neg Bool.false_ne_true, List.lookup_append]
      by_cases same : other = key
      · simp [same, held]
      · have notKey : (other == key) = false := beq_false_of_ne same
        simp [same, List.lookup_cons, notKey]

theorem lookup_eraseKey (mapping : List (κ × β)) (key other : κ) :
    (eraseKey mapping key).lookup other =
      if other = key then none else mapping.lookup other := by
  induction mapping with
  | nil => split <;> rfl
  | cons entry rest ih =>
      obtain ⟨name, held⟩ := entry
      rw [eraseKey] at ih ⊢
      by_cases isKey : name = key
      · by_cases same : other = key
        · simpa [isKey, same] using ih
        · have notKey : (other == key) = false := beq_false_of_ne same
          simpa [isKey, same, List.lookup_cons, notKey] using ih
      · by_cases isName : other = name
        · simp [isName, isKey]
        · have notName : (other == name) = false := beq_false_of_ne isName
          simpa [isKey, List.lookup_cons, notName] using ih

theorem mem_setKey {mapping : List (κ × β)} {key : κ} {value : β} {entry : κ × β}
    (member : entry ∈ setKey mapping key value) : entry ∈ mapping ∨ entry = (key, value) := by
  unfold setKey at member
  split at member
  · obtain ⟨held, isHeld, rfl⟩ := List.mem_map.mp member
    split
    · exact .inr rfl
    · exact .inl isHeld
  · rcases List.mem_append.mp member with isHeld | isNew
    · exact .inl isHeld
    · exact .inr (List.mem_singleton.mp isNew)

theorem setKey_fresh {mapping : List (κ × β)} {key : κ} (fresh : mapping.lookup key = none)
    (value : β) : setKey mapping key value = mapping ++ [(key, value)] := by
  rw [setKey, fresh, Option.isSome_none, if_neg Bool.false_ne_true]

theorem mem_eraseKey {mapping : List (κ × β)} {key : κ} {entry : κ × β} :
    entry ∈ eraseKey mapping key ↔ entry ∈ mapping ∧ entry.1 ≠ key := by
  rw [eraseKey, List.mem_filter, decide_eq_true_eq]

theorem lookup_filter_kept {mapping : List (κ × β)} {keep : κ × β → Bool} {key : κ}
    (kept : ∀ value, keep (key, value) = true) :
    (mapping.filter keep).lookup key = mapping.lookup key := by
  induction mapping with
  | nil => rfl
  | cons entry rest ih =>
      obtain ⟨name, value⟩ := entry
      by_cases isKey : key = name
      · subst isKey
        rw [List.filter_cons_of_pos (kept value), List.lookup_cons_self, List.lookup_cons_self]
      · have notKey : (key == name) = false := beq_false_of_ne isKey
        rw [List.filter_cons]
        split
        · rw [List.lookup_cons, List.lookup_cons, notKey, ih]
        · rw [List.lookup_cons, notKey, ih]

theorem lookup_filter_gone {mapping : List (κ × β)} {keep : κ × β → Bool} {key : κ}
    (gone : ∀ value, keep (key, value) = false) : (mapping.filter keep).lookup key = none := by
  cases found : (mapping.filter keep).lookup key with
  | none => rfl
  | some value =>
      have passes := (List.mem_filter.mp (mem_of_lookup found)).2
      rw [gone value] at passes
      cases passes

theorem lookup_isSome {mapping : List (κ × β)} {key : κ} :
    (mapping.lookup key).isSome ↔ key ∈ mapping.map Prod.fst := by
  induction mapping with
  | nil => exact iff_of_false Bool.false_ne_true List.not_mem_nil
  | cons entry rest ih =>
      obtain ⟨name, value⟩ := entry
      by_cases same : key = name
      · simp [same]
      · have other : (key == name) = false := beq_false_of_ne same
        simpa [List.lookup_cons, other, same] using ih

theorem lookup_absent {mapping : List (κ × β)} {key : κ}
    (absent : key ∉ mapping.map Prod.fst) : mapping.lookup key = none :=
  Option.not_isSome_iff_eq_none.mp fun known => absent (lookup_isSome.mp known)

theorem lookup_of_mem {mapping : List (κ × β)} {entry : κ × β}
    (distinct : (mapping.map Prod.fst).Nodup) (member : entry ∈ mapping) :
    mapping.lookup entry.1 = some entry.2 := by
  obtain ⟨value, isValue⟩ := Option.isSome_iff_exists.mp
    (lookup_isSome.mpr (List.mem_map_of_mem (f := Prod.fst) member))
  have same := List.inj_on_of_nodup_map distinct member (mem_of_lookup isValue) rfl
  rw [isValue, same]

theorem setKey_distinct {mapping : List (κ × β)} {key : κ} {value : β}
    (distinct : (mapping.map Prod.fst).Nodup) :
    ((setKey mapping key value).map Prod.fst).Nodup := by
  unfold setKey
  split
  · have same : (mapping.map fun entry => if entry.1 = key then (key, value) else entry).map
        Prod.fst = mapping.map Prod.fst := by
      rw [List.map_map]
      refine List.map_congr_left fun entry _ => ?_
      change (if entry.1 = key then (key, value) else entry).1 = entry.1
      split
      · exact Eq.symm ‹_›
      · rfl
    rwa [same]
  · rename_i isNew
    rw [List.map_append]
    refine List.Nodup.append distinct (List.nodup_singleton _) fun name isHeld isKey => ?_
    obtain rfl := List.mem_singleton.mp isKey
    exact isNew (lookup_isSome.mpr isHeld)

end CamAdmiral
