import CamAdmiral.Mapping
import Mathlib.Data.List.Induction
import Mathlib.Data.List.Nodup
import Mathlib.Data.List.Perm.Basic

/-!
Values gathered under keys in order of arrival, as in a dictionary of lists. A key holds exactly
its values and is listed once.
-/

namespace CamAdmiral

variable {κ α β : Type*} [DecidableEq κ]

/-- `defaultdict(list)`: what is held under a key. -/
def groupAt (groups : List (κ × List β)) (key : κ) : List β := (groups.lookup key).getD []

def groupAdd (groups : List (κ × List β)) (key : κ) (value : β) : List (κ × List β) :=
  setKey groups key (groupAt groups key ++ [value])

def gather (key : α → Option κ) (value : α → β) (items : List α) : List (κ × List β) :=
  items.foldl (fun groups item =>
    match key item with
    | some named => groupAdd groups named (value item)
    | none => groups) []

/-- The only member of a list. -/
def sole : List α → Option α
  | [single] => some single
  | _ => none

theorem sole_eq_some {items : List α} {single : α} :
    sole items = some single ↔ items = [single] := by
  match items with
  | [] => simp [sole]
  | [_] => simp [sole]
  | _ :: _ :: _ => simp [sole]

/-- One item alone passes the test. -/
theorem map_filter_eq_singleton {items : List α} (distinct : items.Nodup) {passes : α → Bool}
    {value : α → β} {held : β} :
    (items.filter passes).map value = [held] ↔
      ∃ item ∈ items, value item = held ∧ passes item = true ∧
        ∀ other ∈ items, passes other = true → other = item := by
  constructor
  · intro single
    obtain ⟨item, isSingle, isHeld⟩ := List.map_eq_singleton_iff.mp single
    have member {other : α} : (other ∈ items ∧ passes other = true) ↔ other = item := by
      rw [← List.mem_filter, isSingle, List.mem_singleton]
    exact ⟨item, (member.mpr rfl).1, isHeld, (member.mpr rfl).2,
      fun other listed passed => member.mp ⟨listed, passed⟩⟩
  · rintro ⟨item, listed, rfl, passed, alone⟩
    have single : items.filter passes = [item] := by
      apply List.perm_singleton.mp
      apply (List.perm_ext_iff_of_nodup (distinct.filter passes) (List.nodup_singleton item)).mpr
      intro other
      rw [List.mem_filter, List.mem_singleton]
      constructor
      · exact fun found => alone other found.1 found.2
      · rintro rfl
        exact ⟨listed, passed⟩
    rw [single, List.map_singleton]

theorem keys_setKey (mapping : List (κ × β)) (key : κ) (value : β) :
    (setKey mapping key value).map Prod.fst =
      if key ∈ mapping.map Prod.fst then mapping.map Prod.fst
      else mapping.map Prod.fst ++ [key] := by
  have present : (mapping.lookup key).isSome = true ↔ key ∈ mapping.map Prod.fst := by
    simp only [List.lookup_isSome_iff, beq_iff_eq, List.mem_map]
    constructor
    · rintro ⟨entry, member, isKey⟩
      exact ⟨entry, member, isKey.symm⟩
    · rintro ⟨entry, member, isKey⟩
      exact ⟨entry, member, isKey.symm⟩
  by_cases member : key ∈ mapping.map Prod.fst
  · rw [setKey, if_pos (present.mpr member), if_pos member, List.map_map]
    apply List.map_congr_left
    intro entry _
    by_cases isKey : entry.1 = key <;> simp [isKey]
  · rw [setKey, if_neg fun found => member (present.mp found), if_neg member]
    simp

theorem nodup_setKey {mapping : List (κ × β)} (distinct : (mapping.map Prod.fst).Nodup)
    (key : κ) (value : β) : ((setKey mapping key value).map Prod.fst).Nodup := by
  rw [keys_setKey]
  split
  · exact distinct
  · rename_i absent
    refine List.nodup_append.mpr ⟨distinct, List.nodup_singleton key, ?_⟩
    intro other member last isLast same
    rw [List.mem_singleton.mp isLast] at same
    exact absent (same ▸ member)

theorem mem_iff_lookup {mapping : List (κ × β)} (distinct : (mapping.map Prod.fst).Nodup)
    {key : κ} {value : β} : (key, value) ∈ mapping ↔ mapping.lookup key = some value := by
  induction mapping with
  | nil => simp
  | cons entry rest ih =>
      obtain ⟨name, held⟩ := entry
      obtain ⟨unlisted, others⟩ := List.nodup_cons.mp distinct
      rw [List.mem_cons, List.lookup_cons, Prod.mk.injEq, ih others]
      by_cases isName : key = name
      · subst isName
        have absent : rest.lookup key ≠ some value := by
          intro found
          exact unlisted (List.mem_map.mpr ⟨_, (ih others).mpr found, rfl⟩)
        simp [absent, eq_comm]
      · have notName : (key == name) = false := beq_false_of_ne isName
        simp [isName, notName]

theorem gather_concat (key : α → Option κ) (value : α → β) (items : List α) (item : α) :
    gather key value (items ++ [item]) =
      match key item with
      | some named => groupAdd (gather key value items) named (value item)
      | none => gather key value items := by
  rw [gather, List.foldl_append]
  rfl

theorem nodup_gather (key : α → Option κ) (value : α → β) (items : List α) :
    ((gather key value items).map Prod.fst).Nodup := by
  induction items using List.reverseRecOn with
  | nil => exact List.nodup_nil
  | append_singleton items item ih =>
      rw [gather_concat]
      split
      · exact nodup_setKey ih _ _
      · exact ih

theorem groupAt_gather (key : α → Option κ) (value : α → β) (items : List α) (named : κ) :
    groupAt (gather key value items) named =
      (items.filter fun item => key item = some named).map value := by
  induction items using List.reverseRecOn with
  | nil => rfl
  | append_singleton items item ih =>
      rw [gather_concat, List.filter_append, List.map_append, ← ih]
      cases isKey : key item with
      | none => simp [isKey]
      | some other =>
          by_cases same : named = other
          · simp [groupAdd, groupAt, lookup_setKey, isKey, same]
          · simp [groupAdd, groupAt, lookup_setKey, isKey, same, Ne.symm same]

/-- No key is held without a value. -/
theorem lookup_gather_ne_nil (key : α → Option κ) (value : α → β) (items : List α) (named : κ) :
    (gather key value items).lookup named ≠ some [] := by
  induction items using List.reverseRecOn with
  | nil => simp [gather]
  | append_singleton items item ih =>
      rw [gather_concat]
      split
      · rw [groupAdd, lookup_setKey]
        split
        · simp
        · exact ih
      · exact ih

theorem mem_gather {key : α → Option κ} {value : α → β} {items : List α} {named : κ}
    {values : List β} :
    (named, values) ∈ gather key value items ↔
      values ≠ [] ∧ (items.filter fun item => key item = some named).map value = values := by
  rw [mem_iff_lookup (nodup_gather key value items), ← groupAt_gather, groupAt]
  have held := lookup_gather_ne_nil key value items named
  cases found : (gather key value items).lookup named with
  | none => simp [eq_comm]
  | some listed =>
      rw [found] at held
      rw [Option.some.injEq, Option.getD_some]
      constructor
      · rintro rfl
        exact ⟨fun empty => held (by rw [empty]), rfl⟩
      · exact fun same => same.2

/-- Entries set one after the other. -/
def assignAll (mapping entries : List (κ × β)) : List (κ × β) :=
  entries.foldl (fun mapping entry => setKey mapping entry.1 entry.2) mapping

/-- If no key is set to two values, the mapping holds exactly the entries. -/
theorem lookup_assignAll {entries : List (κ × β)}
    (functional : ∀ key first second, (key, first) ∈ entries → (key, second) ∈ entries →
      first = second) {key : κ} {value : β} :
    (assignAll [] entries).lookup key = some value ↔ (key, value) ∈ entries := by
  induction entries using List.reverseRecOn with
  | nil => simp [assignAll]
  | append_singleton entries entry ih =>
      obtain ⟨name, held⟩ := entry
      have earlier := ih fun key first second isFirst isSecond =>
        functional key first second (List.mem_append_left _ isFirst)
          (List.mem_append_left _ isSecond)
      rw [assignAll] at earlier
      rw [assignAll, List.foldl_append, List.foldl_cons, List.foldl_nil, lookup_setKey]
      by_cases isName : key = name
      · subst isName
        rw [if_pos rfl, Option.some.injEq]
        constructor
        · rintro rfl
          simp
        · intro member
          exact functional key held value (by simp) member
      · rw [if_neg isName, earlier]
        simp [isName]

end CamAdmiral
