import CamAdmiral.PartialFold
import CamAdmiral.RecoveryCore
import CamAdmiral.StorageEffects

/-!
What a recovery attempt makes of the stored sources of the cameras: the forward updates, the
rollback, and when the two together leave every column as it was.
-/

namespace CamAdmiral

/-- The columns of a profile that say where its stream comes from. -/
structure SourceColumns where
  token : String
  uri : Option String
  source : SourceParts
  deriving DecidableEq, Repr

def ProfileRow.columns (profile : ProfileRow) : SourceColumns :=
  ⟨profile.profileToken, profile.uri, profile.source⟩

def sourceColumns (repository : Repository) (cameraUuid : String) : List SourceColumns :=
  (repository.profiles.filter (·.cameraUuid = cameraUuid)).map ProfileRow.columns

theorem sourceColumns_profiles {before after : Repository}
    (same : after.profiles = before.profiles) (cameraUuid : String) :
    sourceColumns after cameraUuid = sourceColumns before cameraUuid := by
  rw [sourceColumns, same]
  rfl

/-! One write. -/

section
variable [UrlText]

/-- The columns of a profile after its camera's sources are updated. -/
def movedColumns (sources : List (String × String)) (columns : SourceColumns) : SourceColumns :=
  match (sources.lookup columns.token).bind fun uri =>
      (sourceParts (some uri)).map fun source => (uri, source) with
  | some (uri, source) => ⟨columns.token, some uri, source⟩
  | none => columns

theorem movedColumns_token (sources : List (String × String)) (columns : SourceColumns) :
    (movedColumns sources columns).token = columns.token := by
  simp only [movedColumns]
  split <;> rfl

theorem lookup_parsed {sources : List (String × String)}
    {parsed : List (String × String × SourceParts)}
    (done : (sources.mapM fun (token, uri) =>
      (sourceParts (some uri)).map fun source => (token, uri, source)) = some parsed)
    (token : String) :
    parsed.lookup token = (sources.lookup token).bind fun uri =>
      (sourceParts (some uri)).map fun source => (uri, source) := by
  induction sources generalizing parsed with
  | nil =>
      obtain rfl : [] = parsed := by simpa using done
      rfl
  | cons item rest ih =>
      obtain ⟨first, uri⟩ := item
      simp only [List.mapM_cons, Option.bind_eq_bind, Option.bind_eq_some_iff,
        Option.map_eq_some_iff, pure, Option.some.injEq] at done
      obtain ⟨_, ⟨source, isSource, rfl⟩, later, isLater, rfl⟩ := done
      rw [List.lookup_cons, List.lookup_cons]
      by_cases isFirst : token = first
      · simp [isFirst, isSource]
      · simp [beq_eq_false_iff_ne.mpr isFirst, ih isLater]

theorem parsed_iff {sources : List (String × String)} :
    (∃ parsed, (sources.mapM fun (token, uri) =>
      (sourceParts (some uri)).map fun source => (token, uri, source)) = some parsed) ↔
      ∀ item ∈ sources, (sourceParts (some item.2)).isSome = true := by
  rw [← Option.isSome_iff_exists, mapM_isSome]
  simp only [Option.isSome_map]

theorem saveSources_columns {repository : Repository} {cameraUuid : String}
    {sources : List (String × String)} {parsed : List (String × String × SourceParts)}
    (done : (sources.mapM fun (token, uri) =>
      (sourceParts (some uri)).map fun source => (token, uri, source)) = some parsed)
    (owner : String) :
    sourceColumns (saveSources repository cameraUuid parsed) owner =
      if owner = cameraUuid then (sourceColumns repository owner).map (movedColumns sources)
      else sourceColumns repository owner := by
  have sameCamera (profile : ProfileRow) :
      (sourcedProfile cameraUuid parsed profile).cameraUuid = profile.cameraUuid :=
    congrArg Prod.fst (sourcedProfile_same cameraUuid parsed profile).1
  rw [saveSources_eq]
  simp only [sourceColumns, List.filter_map, Function.comp_def, sameCamera, List.map_map]
  split
  · rename_i isOwner
    subst isOwner
    apply List.map_congr_left
    intro profile member
    have owned : profile.cameraUuid = owner := of_decide_eq_true (List.mem_filter.mp member).2
    simp only [sourcedProfile, lookup_parsed done, movedColumns, ProfileRow.columns]
    cases (sources.lookup profile.profileToken).bind fun uri =>
        (sourceParts (some uri)).map fun source => (uri, source) with
    | none => rfl
    | some moved => simp only [owned, if_true]
  · rename_i differs
    apply List.map_congr_left
    intro profile member
    have owned : profile.cameraUuid = owner := of_decide_eq_true (List.mem_filter.mp member).2
    have foreign : profile.cameraUuid ≠ cameraUuid := owned ▸ differs
    simp only [sourcedProfile, ProfileRow.columns]
    split
    · rw [if_neg foreign]
    · rfl

/-- The update is stored exactly if its tokens are known and its URIs can be read. -/
theorem updateProfileSources_columns (repository : Repository) (cameraUuid : String)
    (sources : List (String × String)) (timestamp : Nat) (fresh : String) :
    ((∃ result, updateProfileSources repository cameraUuid sources timestamp fresh =
        .ok result) ↔
      (∀ item ∈ sources, ∃ columns ∈ sourceColumns repository cameraUuid,
        columns.token = item.1) ∧
      ∀ item ∈ sources, (sourceParts (some item.2)).isSome = true) ∧
    ∀ result, updateProfileSources repository cameraUuid sources timestamp fresh = .ok result →
      ∀ owner, sourceColumns result owner =
        if owner = cameraUuid then (sourceColumns repository owner).map (movedColumns sources)
        else sourceColumns repository owner := by
  have known (token : String) :
      (rowAt ProfileRow.key repository.profiles (cameraUuid, token)).isSome = true ↔
        ∃ columns ∈ sourceColumns repository cameraUuid, columns.token = token := by
    constructor
    · intro found
      obtain ⟨profile, isProfile⟩ := Option.isSome_iff_exists.mp found
      obtain ⟨member, key⟩ := rowAt_some isProfile
      simp only [ProfileRow.key, Prod.mk.injEq] at key
      refine ⟨profile.columns, List.mem_map_of_mem (List.mem_filter.mpr ⟨member, ?_⟩), key.2⟩
      simp [key.1]
    · rintro ⟨columns, member, rfl⟩
      obtain ⟨profile, isProfile, rfl⟩ := List.mem_map.mp member
      obtain ⟨listed, owned⟩ := List.mem_filter.mp isProfile
      have isKey : profile.key = (cameraUuid, profile.columns.token) := by
        simp only [ProfileRow.key, of_decide_eq_true owned]
        rfl
      rw [← isKey]
      exact Option.isSome_iff_exists.mpr (rowAt_isSome listed)
  simp only [updateProfileSources]
  split
  · rename_i empty
    obtain rfl := List.isEmpty_iff.mp empty
    refine ⟨by simp, ?_⟩
    intro result done owner
    obtain rfl := Except.ok.inj done
    have unmoved : movedColumns [] = id := by
      funext columns
      rfl
    rw [unmoved, List.map_id]
    split <;> rfl
  split
  · rename_i unknown
    refine ⟨?_, by simp⟩
    simp only [Bool.not_eq_true', List.all_eq_false] at unknown
    obtain ⟨item, member, missing⟩ := unknown
    constructor
    · simp
    · rintro ⟨listed, _⟩
      exact absurd ((known item.1).mpr (listed item member)) missing
  · rename_i listed
    simp only [Bool.not_eq_true', Bool.not_eq_false, List.all_eq_true] at listed
    have allKnown : ∀ item ∈ sources, ∃ columns ∈ sourceColumns repository cameraUuid,
        columns.token = item.1 := fun item member => (known item.1).mp (listed item member)
    cases parsed : sources.mapM fun (token, uri) =>
        (sourceParts (some uri)).map fun source => (token, uri, source) with
    | none =>
        refine ⟨?_, by simp⟩
        constructor
        · simp
        · rintro ⟨_, readable⟩
          obtain ⟨rows, isParsed⟩ := parsed_iff.mpr readable
          cases parsed.symm.trans isParsed
    | some rows =>
        refine ⟨⟨fun _ => ⟨allKnown, parsed_iff.mp ⟨rows, parsed⟩⟩, fun _ => ⟨_, rfl⟩⟩, ?_⟩
        intro result done owner
        obtain rfl := Except.ok.inj done
        obtain ⟨events, incidents, tables⟩ := transition_tables
          (saveSources repository cameraUuid rows) cameraUuid timestamp fresh
        rw [tables, ← saveSources_columns parsed]
        rfl

/-! Writes for several plans in turn. -/

/-- The sources of the plans were written one after the other. -/
structure Written (before after : Repository) (sources : RecoveryPlan → List (String × String))
    (plans : List RecoveryPlan) : Prop where
  moved : ∀ plan ∈ plans, sourceColumns after plan.cameraUuid =
    (sourceColumns before plan.cameraUuid).map (movedColumns (sources plan))
  others : ∀ owner, (∀ plan ∈ plans, plan.cameraUuid ≠ owner) →
    sourceColumns after owner = sourceColumns before owner

theorem Written.nothing (repository : Repository)
    (sources : RecoveryPlan → List (String × String)) :
    Written repository repository sources [] := ⟨by simp, fun _ _ => rfl⟩

theorem Written.cons {first second third : Repository}
    {sources : RecoveryPlan → List (String × String)} {plan : RecoveryPlan}
    {rest : List RecoveryPlan}
    (one : ∀ owner, sourceColumns second owner = if owner = plan.cameraUuid then
      (sourceColumns first owner).map (movedColumns (sources plan)) else
      sourceColumns first owner)
    (apart : ∀ other ∈ rest, other.cameraUuid ≠ plan.cameraUuid)
    (later : Written second third sources rest) :
    Written first third sources (plan :: rest) := by
  constructor
  · intro other member
    rcases List.mem_cons.mp member with rfl | isLater
    · rw [later.others other.cameraUuid apart, one, if_pos rfl]
    · rw [later.moved other isLater, one, if_neg (apart other isLater)]
  · intro owner outside
    rw [List.forall_mem_cons] at outside
    rw [later.others owner outside.2, one, if_neg (Ne.symm outside.1)]

omit [UrlText] in
theorem openAddressIncident_profiles (repository : Repository) (cameraUuid : String)
    (timestamp : Nat) (fresh : String) :
    (openAddressIncident repository cameraUuid timestamp fresh).1.profiles =
      repository.profiles := by
  simp only [openAddressIncident]
  split <;> rfl

/-- The attempt raises at this plan. -/
def RecoveryPlan.raises (fault : Option RecoveryStep) (plan : RecoveryPlan) : Bool :=
  fault = some (.openIncident plan.cameraUuid) || fault = some (.updateSources plan.cameraUuid) ||
    plan.updates.any fun item => (sourceParts (some item.2)).isNone

/-- The plans whose sources are stored before an exception. -/
def committedPlans (fault : Option RecoveryStep) (plans : List RecoveryPlan) :
    List RecoveryPlan :=
  plans.takeWhile fun plan => !plan.raises fault

/-- Every token of the updates is a profile of the camera. -/
def KnownTokens (repository : Repository) (plan : RecoveryPlan) : Prop :=
  ∀ item ∈ plan.updates, ∃ columns ∈ sourceColumns repository plan.cameraUuid,
    columns.token = item.1

variable [TextCase]

omit [TextCase] in
theorem updatePlans_written (fault : Option RecoveryStep) (timestamp : Nat)
    (uuids : Nat → String) {plans : List RecoveryPlan} {repository : Repository}
    (position : Nat) (distinct : (plans.map (·.cameraUuid)).Nodup)
    (known : ∀ plan ∈ plans, KnownTokens repository plan) :
    let progress := updatePlans fault timestamp uuids repository plans position
    progress.updated = committedPlans fault plans ∧
      progress.finished = !plans.any (·.raises fault) ∧
      Written repository progress.repository (·.updates) progress.updated := by
  induction plans generalizing repository position with
  | nil => exact ⟨rfl, rfl, Written.nothing repository _⟩
  | cons plan rest ih =>
      rw [List.map_cons, List.nodup_cons] at distinct
      rw [List.forall_mem_cons] at known
      have sameOpened := sourceColumns_profiles (openAddressIncident_profiles repository
        plan.cameraUuid timestamp (uuids position))
      have stopped (stops : plan.raises fault = true) : committedPlans fault (plan :: rest) = [] ∧
          (plan :: rest).any (·.raises fault) = true := by
        simp [committedPlans, stops]
      have untouched : Written repository
          (openAddressIncident repository plan.cameraUuid timestamp (uuids position)).1
          (·.updates) [] := ⟨by simp, fun owner _ => sameOpened owner⟩
      simp only [updatePlans]
      split
      · rename_i isFault
        obtain ⟨none, some⟩ := stopped (by simp [RecoveryPlan.raises, isFault])
        exact ⟨none.symm, by simp [some], Written.nothing repository _⟩
      split
      · rename_i isFault
        obtain ⟨none, some⟩ := stopped (by simp [RecoveryPlan.raises, isFault])
        exact ⟨none.symm, by simp [some], untouched⟩
      rename_i opens updates
      obtain ⟨stored_iff, columns⟩ := updateProfileSources_columns
        (openAddressIncident repository plan.cameraUuid timestamp (uuids position)).1
        plan.cameraUuid plan.updates timestamp (uuids (position + 1))
      split
      · rename_i problem failed
        have unreadable : plan.raises fault = true := by
          by_contra readable
          simp only [RecoveryPlan.raises, Bool.or_eq_true, not_or, List.any_eq_true,
            not_exists, not_and, Option.isNone_iff_eq_none, Bool.not_eq_true] at readable
          obtain ⟨result, done⟩ := stored_iff.mpr ⟨by rw [sameOpened]; exact known.1,
            fun item member => Option.isSome_iff_ne_none.mpr (readable.2 item member)⟩
          cases failed.symm.trans done
        obtain ⟨none, some⟩ := stopped unreadable
        exact ⟨none.symm, by simp [some], untouched⟩
      · rename_i next done
        have moved := columns next done
        have readable := (stored_iff.mp ⟨next, done⟩).2
        have goesOn : plan.raises fault = false := by
          simp only [RecoveryPlan.raises, opens, updates, decide_false, Bool.false_or,
            List.any_eq_false]
          intro item member
          rw [Bool.not_eq_true, Option.isNone_eq_false_iff]
          exact readable item member
        have knownNext : ∀ other ∈ rest, KnownTokens next other := by
          intro other member item listed
          obtain ⟨columns, isColumns, same⟩ := known.2 other member item listed
          have differs : other.cameraUuid ≠ plan.cameraUuid := fun same =>
            distinct.1 (same ▸ List.mem_map_of_mem member)
          exact ⟨columns, by rw [moved, if_neg differs, sameOpened]; exact isColumns, same⟩
        obtain ⟨updated, finished, written⟩ := ih (position + 2) distinct.2 knownNext
        refine ⟨?_, ?_, ?_⟩
        · rw [updated, committedPlans, committedPlans,
            List.takeWhile_cons_of_pos (by simp [goesOn])]
        · simp [finished, goesOn]
        · refine Written.cons ?_ ?_ written
          · intro owner
            rw [moved, sameOpened]
          · intro other member same
            rw [updated, committedPlans] at member
            exact distinct.1 (same ▸ List.mem_map_of_mem (List.takeWhile_subset _ member))

omit [TextCase] in
theorem rollbackPlans_written {timestamp : Nat} {uuids : Nat → String}
    {plans : List RecoveryPlan} {repository after : Repository} {position : Nat}
    (distinct : (plans.map (·.cameraUuid)).Nodup)
    (done : rollbackPlans timestamp uuids repository plans position = some after) :
    Written repository after (·.previousSources) plans ∧
      ∀ plan ∈ plans, ∀ item ∈ plan.previousSources,
        (sourceParts (some item.2)).isSome = true := by
  induction plans generalizing repository position with
  | nil =>
      obtain rfl := Option.some.inj done
      exact ⟨Written.nothing repository _, by simp⟩
  | cons plan rest ih =>
      rw [List.map_cons, List.nodup_cons] at distinct
      simp only [rollbackPlans] at done
      obtain ⟨stored_iff, columns⟩ := updateProfileSources_columns repository plan.cameraUuid
        plan.previousSources timestamp (uuids position)
      split at done
      · cases done
      · rename_i next stored
        obtain ⟨later, readable⟩ := ih distinct.2 done
        refine ⟨Written.cons (columns next stored) ?_ later, ?_⟩
        · intro other member same
          exact distinct.1 (same ▸ List.mem_map_of_mem member)
        · rw [List.forall_mem_cons]
          exact ⟨(stored_iff.mp ⟨next, stored⟩).2, readable⟩

end

end CamAdmiral
