import CamAdmiral.ImportRestoreCore

/-!
What a request of `/config/set` makes of the streams and of an entry: the aliases it names have
the sources it gives, the others keep theirs, and an entry written over one with the same
tuning is the entry that was meant.
-/

namespace CamAdmiral

/-! Mappings that are written over each other. -/

theorem lookup_mergeKeys_of {β : Type} {held added : List (String × β)} {name : String}
    {value : β} (only : ∀ other, (name, other) ∈ added → other = value)
    (member : name ∈ added.map Prod.fst) :
    (mergeKeys held added).lookup name = some value := by
  suffices given : ∀ held : List (String × β), name ∈ added.map Prod.fst ∨
      held.lookup name = some value → (mergeKeys held added).lookup name = some value from
    given held (.inl member)
  clear member
  induction added with
  | nil =>
      rintro held (never | isHeld)
      · cases never
      · exact isHeld
  | cons first rest ih =>
      intro held either
      refine ih (fun other isOther => only other (List.mem_cons_of_mem _ isOther)) _ ?_
      rw [lookup_setKey]
      by_cases isName : name = first.1
      · subst isName
        right
        rw [if_pos rfl, only first.2 List.mem_cons_self]
      · rw [if_neg isName]
        exact either.imp_left fun member => (List.mem_cons.mp member).resolve_left isName

theorem lookup_mergeKeys_other {β : Type} {held added : List (String × β)} {name : String}
    (absent : name ∉ added.map Prod.fst) :
    (mergeKeys held added).lookup name = held.lookup name := by
  induction added generalizing held with
  | nil => rfl
  | cons first rest ih =>
      simp only [List.map_cons, List.mem_cons, not_or] at absent
      change (mergeKeys (setKey held first.1 first.2) rest).lookup name = _
      rw [ih absent.2, lookup_setKey, if_neg absent.1]

/-- Keys that a mapping has already are written in their places. -/
theorem mergeKeys_self {β : Type} {held : List (String × β)}
    (distinct : (held.map Prod.fst).Nodup) : mergeKeys held held = held := by
  suffices kept : ∀ added : List (String × β), (∀ entry ∈ added, entry ∈ held) →
      mergeKeys held added = held from kept held fun _ => id
  intro added
  induction added with
  | nil => exact fun _ => rfl
  | cons first rest ih =>
      intro within
      have isHeld := lookup_of_mem distinct (within first List.mem_cons_self)
      have same : setKey held first.1 first.2 = held := by
        rw [setKey, isHeld, Option.isSome_some, if_pos rfl]
        refine (List.map_congr_left fun entry member => ?_).trans (List.map_id held)
        split
        · rename_i isKey
          exact (List.inj_on_of_nodup_map distinct member
            (within first List.mem_cons_self) isKey).symm
        · rfl
      change mergeKeys (setKey held first.1 first.2) rest = held
      rw [same]
      exact ih fun entry member => within entry (List.mem_cons_of_mem _ member)

theorem mergeKeys_keys {β : Type} (held added : List (String × β)) (name : String) :
    name ∈ (mergeKeys held added).map Prod.fst ↔
      name ∈ held.map Prod.fst ∨ name ∈ added.map Prod.fst := by
  induction added generalizing held with
  | nil => simp [mergeKeys]
  | cons first rest ih =>
      have isSet : name ∈ (setKey held first.1 first.2).map Prod.fst ↔
          name = first.1 ∨ name ∈ held.map Prod.fst := by
        rw [← lookup_isSome, ← lookup_isSome, lookup_setKey]
        split <;> simp_all
      refine (ih (setKey held first.1 first.2)).trans ?_
      rw [isSet, List.map_cons, List.mem_cons]
      tauto

theorem mergeKeys_distinct {β : Type} {held : List (String × β)} (added : List (String × β))
    (distinct : (held.map Prod.fst).Nodup) :
    ((mergeKeys held added).map Prod.fst).Nodup := by
  induction added generalizing held with
  | nil => exact distinct
  | cons first rest ih => exact ih (setKey_distinct distinct)

theorem lookup_applyStream (held : StreamMap) (change : String × Option (List String))
    (name : String) :
    (applyStreams held [change]).lookup name =
      if name = change.1 then change.2 else held.lookup name := by
  obtain ⟨key, sources⟩ := change
  cases sources with
  | none => exact lookup_eraseKey held key name
  | some sources => exact lookup_setKey held key name sources

theorem lookup_applyStreams_of {held : StreamMap} {changes : List (String × Option (List String))}
    {name : String} {value : Option (List String)}
    (only : ∀ other, (name, other) ∈ changes → other = value)
    (member : name ∈ changes.map Prod.fst) : (applyStreams held changes).lookup name = value := by
  suffices given : ∀ held : StreamMap, name ∈ changes.map Prod.fst ∨ held.lookup name = value →
      (applyStreams held changes).lookup name = value from given held (.inl member)
  clear member
  induction changes with
  | nil =>
      rintro held (never | isHeld)
      · cases never
      · exact isHeld
  | cons first rest ih =>
      intro held either
      change (applyStreams (applyStreams held [first]) rest).lookup name = value
      refine ih (fun other isOther => only other (List.mem_cons_of_mem _ isOther)) _ ?_
      rw [lookup_applyStream]
      by_cases isName : name = first.1
      · subst isName
        right
        rw [if_pos rfl, only first.2 List.mem_cons_self]
      · rw [if_neg isName]
        exact either.imp_left fun member => (List.mem_cons.mp member).resolve_left isName

theorem lookup_applyStreams_other {held : StreamMap}
    {changes : List (String × Option (List String))} {name : String}
    (absent : name ∉ changes.map Prod.fst) :
    (applyStreams held changes).lookup name = held.lookup name := by
  induction changes generalizing held with
  | nil => rfl
  | cons first rest ih =>
      simp only [List.map_cons, List.mem_cons, not_or] at absent
      change (applyStreams (applyStreams held [first]) rest).lookup name = _
      rw [ih absent.2, lookup_applyStream, if_neg absent.1]

theorem lookup_applyStreams {held : StreamMap} {changes : List (String × Option (List String))}
    (distinct : (changes.map Prod.fst).Nodup) (name : String) :
    (applyStreams held changes).lookup name = (changes.lookup name).getD (held.lookup name) := by
  by_cases isKey : name ∈ changes.map Prod.fst
  · obtain ⟨value, isValue⟩ := Option.isSome_iff_exists.mp (lookup_isSome.mpr isKey)
    rw [isValue, Option.getD_some]
    refine lookup_applyStreams_of (fun other isOther => ?_) isKey
    exact Option.some.inj ((lookup_of_mem distinct isOther).symm.trans isValue)
  · rw [lookup_applyStreams_other isKey, lookup_absent isKey, Option.getD_none]

/-- A write that deletes nothing. -/
theorem lookup_writtenStreams {held streams : StreamMap}
    (distinct : (streams.map Prod.fst).Nodup) (name : String) :
    (applyStreams held (streams.map fun stream => (stream.1, some stream.2))).lookup name =
      (streams.lookup name).or (held.lookup name) := by
  have sameKeys : (streams.map fun stream => (stream.1, some stream.2)).map Prod.fst =
      streams.map Prod.fst := by
    rw [List.map_map]
    rfl
  have sameLookup : (streams.map fun stream => (stream.1, some stream.2)).lookup name =
      (streams.lookup name).map some := by
    by_cases isKey : name ∈ streams.map Prod.fst
    · obtain ⟨sources, isSources⟩ := Option.isSome_iff_exists.mp (lookup_isSome.mpr isKey)
      have member := List.mem_map_of_mem (f := fun stream : String × List String =>
        (stream.1, some stream.2)) (mem_of_lookup isSources)
      rw [isSources, lookup_of_mem (sameKeys ▸ distinct) member, Option.map_some]
    · rw [lookup_absent isKey, lookup_absent (sameKeys ▸ isKey), Option.map_none]
  rw [lookup_applyStreams (sameKeys ▸ distinct), sameLookup]
  cases streams.lookup name <;> rfl

/-! An entry over another one. -/

/-- The entries differ in their inputs and in whether they are enabled. -/
def CameraEntry.SameTuning (first second : CameraEntry) : Prop :=
  first = { second with enabled := first.enabled, inputs := first.inputs }

theorem asChange_apply {desired held : CameraEntry} (same : held.SameTuning desired)
    (live : (desired.live.map Prod.fst).Nodup) (other : (desired.other.map Prod.fst).Nodup) :
    desired.asChange.apply held =
      { desired with enabled := desired.enabled.or held.enabled } := by
  rw [CameraEntry.SameTuning] at same
  rw [same]
  obtain ⟨enabled, name, inputs, size, fps, shown, visibility, rest⟩ := desired
  obtain ⟨record, dashboard⟩ := visibility
  simp only [CameraEntry.asChange, EntryChange.apply, Option.getD_some, mergeKeys_self live,
    mergeKeys_self other, CameraEntry.mk.injEq, true_and, and_true]
  refine ⟨?_, ?_, ?_, ?_, ?_⟩
  · cases enabled <;> rfl
  · cases name <;> rfl
  · cases size <;> rfl
  · cases fps <;> rfl
  · cases record <;> cases dashboard <;> rfl

theorem cameraWrite_apply {row : ImportRow} {desired held : CameraEntry} {change : EntryChange}
    (isChange : cameraWrite row desired (some held) = .ok change)
    (same : held.SameTuning desired)
    (plain : row.handoff = false → held.enabled = desired.enabled)
    (live : (desired.live.map Prod.fst).Nodup) (other : (desired.other.map Prod.fst).Nodup) :
    change.apply held = desired := by
  have merged := asChange_apply same live other
  unfold cameraWrite at isChange
  cases isEnabled : desired.enabled with
  | some enabled =>
      have isPlain : (row.handoff && desired.enabled.isNone) = false := by simp [isEnabled]
      rw [isPlain, if_neg Bool.false_ne_true] at isChange
      obtain rfl := Except.ok.inj isChange
      rw [merged, isEnabled, Option.some_or, ← isEnabled]
  | none =>
      rw [isEnabled, Option.none_or] at merged
      cases isHandoff : row.handoff with
      | false =>
          have isPlain : (row.handoff && desired.enabled.isNone) = false := by simp [isHandoff]
          rw [isPlain, if_neg Bool.false_ne_true] at isChange
          obtain rfl := Except.ok.inj isChange
          rw [merged, plain isHandoff]
      | true =>
          rw [isHandoff, isEnabled, Option.isNone_none, Bool.and_self, if_pos rfl] at isChange
          dsimp only at isChange
          cases isHeld : held.enabled with
          | none =>
              rw [isHeld, Option.isSome_none, if_neg Bool.false_ne_true] at isChange
              obtain rfl := Except.ok.inj isChange
              rw [merged, isHeld, ← isEnabled]
          | some enabled =>
              rw [isHeld, Option.isSome_some, if_pos rfl] at isChange
              obtain rfl := Except.ok.inj isChange
              have deleted : ({ desired.asChange with enabled := .delete } :
                  EntryChange).apply held =
                  { desired.asChange.apply held with enabled := none } := rfl
              rw [deleted, merged, ← isEnabled]

end CamAdmiral
