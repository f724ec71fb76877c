import CamAdmiral.RecoveryPlanning
import CamAdmiral.RecoveryRollback
import CamAdmiral.StorageRuns
import Mathlib.Data.List.TakeWhile

/-!
A recovery moves the sources of all planned cameras or leaves the stored sources of all of
them alone: exactly when that holds.
-/

namespace CamAdmiral

/-- The planned camera has this result and no other one. -/
def HasResult (results : List RecoveryResult) (plan : RecoveryPlan)
    (status : RecoveryStatus) : Prop :=
  plan.result status ∈ results ∧
    ∀ result ∈ results, result.cameraUuid = plan.cameraUuid → result.status = status

section
variable [UrlText]

/-- The new sources of the plan are stored. -/
def HasSources (repository : Repository) (plan : RecoveryPlan) : Prop :=
  ∀ token uri, plan.updates.lookup token = some uri →
    ∃ source, sourceParts (some uri) = some source ∧
      ⟨token, some uri, source⟩ ∈ sourceColumns repository plan.cameraUuid

/-- Every planned camera has moved, or every one has the sources it had. -/
def AllOrNothing (before after : Repository) (plans : List RecoveryPlan)
    (results : List RecoveryResult) : Prop :=
  (∀ plan ∈ plans, HasResult results plan .recovered ∧ HasSources after plan) ∨
  ∀ plan ∈ plans, HasResult results plan .runtimeFailed ∧
    sourceColumns after plan.cameraUuid = sourceColumns before plan.cameraUuid

/-- The columns of every profile with a URI are those its URI gives, and no profile without
one is among the updates. -/
def Restorable (repository : Repository) (plan : RecoveryPlan) : Prop :=
  ∀ pair ∈ cameraStreams repository plan.cameraUuid,
    (∀ uri ∈ pair.2.givenUri, sourceParts (some uri) = some pair.2.source) ∧
      (pair.2.givenUri = none → plan.updates.lookup pair.2.profileToken = none)

/-- An exception is raised after the planning. -/
def attemptRaises (fault : Option RecoveryStep) (plans : List RecoveryPlan) : Bool :=
  plans.any (·.raises fault) || laterSteps.any (fault = some ·)

/-! The update and its rollback on one profile. -/

theorem movedColumns_some {sources : List (String × String)} (columns : SourceColumns)
    {uri : String} {source : SourceParts}
    (listed : sources.lookup columns.token = some uri)
    (readable : sourceParts (some uri) = some source) :
    movedColumns sources columns = ⟨columns.token, some uri, source⟩ := by
  rw [movedColumns, listed, Option.bind_some, readable, Option.map_some]

theorem movedColumns_none {sources : List (String × String)} (columns : SourceColumns)
    (absent : sources.lookup columns.token = none) : movedColumns sources columns = columns := by
  rw [movedColumns, absent, Option.bind_none]

omit [UrlText] in
theorem givenUri_some {profile : ProfileRow} {uri : String}
    (given : profile.givenUri = some uri) : profile.uri = some uri :=
  (Option.filter_eq_some_iff.mp given).1

/-- The rollback restores a profile exactly if its columns are those of its URI, or it has
none and was not updated. -/
theorem profile_restored_iff {repository : Repository} {plan : RecoveryPlan}
    (schema : Schema repository) (planned : Planned repository plan)
    (readable : ∀ item ∈ plan.updates, (sourceParts (some item.2)).isSome = true)
    (readableBefore : ∀ item ∈ plan.previousSources, (sourceParts (some item.2)).isSome = true)
    {pair : AdoptedStream} (member : pair ∈ cameraStreams repository plan.cameraUuid) :
    movedColumns plan.previousSources (movedColumns plan.updates pair.2.columns) =
        pair.2.columns ↔
      (∀ uri ∈ pair.2.givenUri, sourceParts (some uri) = some pair.2.source) ∧
        (pair.2.givenUri = none → plan.updates.lookup pair.2.profileToken = none) := by
  -- Another stream with this token has this profile.
  have sameProfile {other : AdoptedStream}
      (isOther : other ∈ cameraStreams repository plan.cameraUuid)
      (sameToken : other.2.profileToken = pair.2.profileToken) : other.2 = pair.2 := by
    obtain ⟨otherMember, otherCamera⟩ := schema.cameraStreams_profile isOther
    obtain ⟨pairMember, pairCamera⟩ := schema.cameraStreams_profile member
    exact schema.profile_unique otherMember pairMember (otherCamera.trans pairCamera.symm)
      sameToken
  have sameToken : (movedColumns plan.updates pair.2.columns).token = pair.2.profileToken :=
    movedColumns_token _ _
  cases given : pair.2.givenUri with
  | some uri =>
      cases listed : plan.previousSources.lookup pair.2.profileToken with
      | none =>
          rw [planned.unlisted pair member listed] at given
          cases given
      | some previous =>
          obtain ⟨other, isOther, otherToken, otherUri⟩ := planned.previous _ _ listed
          rw [sameProfile isOther otherToken, given, Option.some.injEq] at otherUri
          subst otherUri
          obtain ⟨source, isSource⟩ : ∃ source, sourceParts (some uri) = some source :=
            Option.isSome_iff_exists.mp (readableBefore _ (mem_of_lookup listed))
          rw [movedColumns_some _ (sameToken ▸ listed) isSource, sameToken]
          simp [isSource, ProfileRow.columns, givenUri_some given]
  | none =>
      have unlisted : plan.previousSources.lookup pair.2.profileToken = none := by
        cases listed : plan.previousSources.lookup pair.2.profileToken with
        | none => rfl
        | some previous =>
            obtain ⟨other, isOther, otherToken, otherUri⟩ := planned.previous _ _ listed
            rw [sameProfile isOther otherToken, given] at otherUri
            cases otherUri
      rw [movedColumns_none _ (sameToken ▸ unlisted)]
      simp only [Option.not_mem_none, false_implies, implies_true, true_and, forall_const]
      constructor
      · intro restored
        by_contra updated
        obtain ⟨uri, listed⟩ := Option.ne_none_iff_exists'.mp updated
        obtain ⟨source, isSource⟩ : ∃ source, sourceParts (some uri) = some source :=
          Option.isSome_iff_exists.mp (readable _ (mem_of_lookup listed))
        obtain ⟨other, isOther, otherToken, nonempty⟩ :=
          planned.updates _ (mem_of_lookup listed)
        rw [sameProfile isOther otherToken] at nonempty
        rw [movedColumns_some pair.2.columns listed isSource] at restored
        have isUri : pair.2.uri = some uri := (congrArg SourceColumns.uri restored).symm
        simp [ProfileRow.givenUri, isUri, Option.filter, nonempty given] at given
      · intro untouched
        exact movedColumns_none pair.2.columns untouched

theorem camera_restored_iff {repository : Repository} {plan : RecoveryPlan}
    (schema : Schema repository) (planned : Planned repository plan)
    (readable : ∀ item ∈ plan.updates, (sourceParts (some item.2)).isSome = true)
    (readableBefore : ∀ item ∈ plan.previousSources,
      (sourceParts (some item.2)).isSome = true) :
    ((sourceColumns repository plan.cameraUuid).map (movedColumns plan.updates)).map
        (movedColumns plan.previousSources) = sourceColumns repository plan.cameraUuid ↔
      Restorable repository plan := by
  have pointwise : ((sourceColumns repository plan.cameraUuid).map
      (movedColumns plan.updates)).map (movedColumns plan.previousSources) =
        sourceColumns repository plan.cameraUuid ↔
      ∀ columns ∈ sourceColumns repository plan.cameraUuid,
        movedColumns plan.previousSources (movedColumns plan.updates columns) = columns := by
    conv_lhs => rw [List.map_map, ← List.map_id (sourceColumns repository plan.cameraUuid),
      List.map_map]
    exact List.map_inj_left
  rw [pointwise]
  constructor
  · intro restored pair member
    obtain ⟨isProfile, owned⟩ := schema.cameraStreams_profile member
    exact (profile_restored_iff schema planned readable readableBefore member).mp
      (restored _ (List.mem_map_of_mem (List.mem_filter.mpr ⟨isProfile, by simp [owned]⟩)))
  · intro restorable columns member
    obtain ⟨profile, isProfile, rfl⟩ := List.mem_map.mp member
    obtain ⟨listed, owned⟩ := List.mem_filter.mp isProfile
    by_cases streamed : ∃ pair ∈ cameraStreams repository plan.cameraUuid,
        pair.2.profileToken = profile.profileToken
    · obtain ⟨pair, isPair, sameToken⟩ := streamed
      obtain ⟨pairMember, pairCamera⟩ := schema.cameraStreams_profile isPair
      obtain rfl := schema.profile_unique pairMember listed
        (pairCamera.trans (of_decide_eq_true owned).symm) sameToken
      exact (profile_restored_iff schema planned readable readableBefore isPair).mpr
        (restorable pair isPair)
    · -- A profile without a stream is in neither map.
      have notUpdated : plan.updates.lookup profile.profileToken = none := by
        by_contra updated
        obtain ⟨uri, found⟩ := Option.ne_none_iff_exists'.mp updated
        obtain ⟨pair, isPair, sameToken, _⟩ := planned.updates _ (mem_of_lookup found)
        exact streamed ⟨pair, isPair, sameToken⟩
      have notRestored : plan.previousSources.lookup profile.profileToken = none := by
        by_contra restored
        obtain ⟨uri, found⟩ := Option.ne_none_iff_exists'.mp restored
        obtain ⟨pair, isPair, sameToken, _⟩ := planned.previous _ _ found
        exact streamed ⟨pair, isPair, sameToken⟩
      rw [movedColumns_none profile.columns notUpdated,
        movedColumns_none profile.columns notRestored]

/-! The statements that leave the profiles alone. -/

omit [UrlText] in
theorem recordTransitions_profiles (timestamp : Nat) (uuids : Nat → String)
    (affected : List String) (repository : Repository) (position : Nat) :
    (recordTransitions repository timestamp uuids affected position).profiles =
      repository.profiles := by
  induction affected generalizing repository position with
  | nil => rfl
  | cons cameraUuid rest ih =>
      obtain ⟨events, incidents, tables⟩ :=
        transition_tables repository cameraUuid timestamp (uuids position)
      rw [recordTransitions, ih, tables]

omit [UrlText] in
theorem recordProbeResults_profiles (repository : Repository)
    (results : List (String × ProbeStatus)) (timestamp : Nat) (uuids : Nat → String) :
    (recordProbeResults repository results timestamp uuids).profiles = repository.profiles := by
  have stored (affected : List String) :
      (storeProbeResults repository affected results).1.profiles = repository.profiles := by
    induction results generalizing repository affected with
    | nil => rfl
    | cons result rest ih =>
        simp only [storeProbeResults]
        split <;> rw [ih]
  rw [recordProbeResults, recordTransitions_profiles, stored]

omit [UrlText] in
theorem resolveIncidents_profiles (timestamp : Nat) (incidents : List String)
    (repository : Repository) :
    (incidents.foldl (resolveAddressIncident · · timestamp) repository).profiles =
      repository.profiles := by
  induction incidents generalizing repository with
  | nil => rfl
  | cons incidentUuid rest ih =>
      rw [List.foldl_cons, ih, resolveAddressIncident]
      split
      · split <;> rfl
      · rfl

/-! The attempt. -/

omit [UrlText] in
theorem Planned.knownTokens {repository : Repository} {plan : RecoveryPlan}
    (schema : Schema repository) (planned : Planned repository plan) :
    KnownTokens repository plan := by
  intro item member
  obtain ⟨pair, isPair, sameToken, _⟩ := planned.updates item member
  obtain ⟨isProfile, owned⟩ := schema.cameraStreams_profile isPair
  exact ⟨_, List.mem_map_of_mem (List.mem_filter.mpr ⟨isProfile, by simp [owned]⟩), sameToken⟩

theorem HasSources.of_moved {before after : Repository} {plan : RecoveryPlan}
    (known : KnownTokens before plan)
    (readable : ∀ item ∈ plan.updates, (sourceParts (some item.2)).isSome = true)
    (moved : sourceColumns after plan.cameraUuid =
      (sourceColumns before plan.cameraUuid).map (movedColumns plan.updates)) :
    HasSources after plan := by
  intro token uri found
  obtain ⟨source, isSource⟩ : ∃ source, sourceParts (some uri) = some source :=
    Option.isSome_iff_exists.mp (readable _ (mem_of_lookup found))
  obtain ⟨columns, isColumns, rfl⟩ := known _ (mem_of_lookup found)
  refine ⟨source, isSource, ?_⟩
  rw [moved, ← movedColumns_some columns found isSource]
  exact List.mem_map_of_mem isColumns

omit [UrlText] in
theorem hasResult_attempt {repository : Repository} {cameras : List CameraRow}
    {verdicts : List Verdict} (assessed : Assessed repository cameras verdicts)
    (status : RecoveryStatus) {plan : RecoveryPlan} (member : plan ∈ plansOf verdicts) :
    HasResult (rejectionsOf verdicts ++ (plansOf verdicts).map (·.result status)) plan
      status := by
  refine ⟨List.mem_append_right _ (List.mem_map_of_mem (f := (·.result status)) member), ?_⟩
  intro result isResult same
  rcases List.mem_append.mp isResult with isRejected | isPlanned
  · exact absurd same (assessed.apart plan member result isRejected)
  · obtain ⟨other, _, rfl⟩ := List.mem_map.mp isPlanned
    rfl

theorem RecoveryPlan.readable {fault : Option RecoveryStep} {plan : RecoveryPlan}
    (goesOn : plan.raises fault = false) :
    ∀ item ∈ plan.updates, (sourceParts (some item.2)).isSome = true := by
  intro item member
  simp only [RecoveryPlan.raises, Bool.or_eq_false_iff, List.any_eq_false] at goesOn
  exact Option.isSome_iff_ne_none.mpr fun unreadable => goesOn.2 item member (by simp [unreadable])

/-- An attempt that raises nothing stores the new sources of every plan. -/
theorem attempt_succeeds {repository after : Repository} {plans : List RecoveryPlan}
    {results : List RecoveryResult} {fault : Option RecoveryStep} {timestamp : Nat}
    {uuids : Nat → Nat → String} (distinct : (plans.map (·.cameraUuid)).Nodup)
    (known : ∀ plan ∈ plans, KnownTokens repository plan)
    (smooth : attemptRaises fault plans = false)
    (done : attemptRecovery repository plans fault timestamp uuids = some (after, results)) :
    results = plans.map (·.result .recovered) ∧ ∀ plan ∈ plans, HasSources after plan := by
  obtain ⟨updated, finished, written⟩ := updatePlans_written fault timestamp (uuids 0) 0
    distinct known
  simp only [attemptRaises, Bool.or_eq_false_iff] at smooth
  have goesOn {plan : RecoveryPlan} (member : plan ∈ plans) : plan.raises fault = false := by
    simpa using List.any_eq_false.mp smooth.1 plan member
  have all : committedPlans fault plans = plans := by
    rw [committedPlans, List.takeWhile_eq_self_iff]
    intro plan member
    simp [goesOn member]
  rw [updated, all] at written
  simp only [attemptRecovery, finished, smooth.1, smooth.2, Bool.not_false, Bool.and_self,
    if_true, Option.some.injEq, Prod.mk.injEq] at done
  obtain ⟨rfl, rfl⟩ := done
  refine ⟨rfl, fun plan member => ?_⟩
  refine HasSources.of_moved (known plan member) (RecoveryPlan.readable (goesOn member)) ?_
  rw [← written.moved plan member]
  apply sourceColumns_profiles
  rw [resolveIncidents_profiles, recordProbeResults_profiles]

/-- An attempt that raises restores the cameras it has updated as far as they can be. -/
theorem attempt_fails {repository after : Repository} {plans : List RecoveryPlan}
    {results : List RecoveryResult} {fault : Option RecoveryStep} {timestamp : Nat}
    {uuids : Nat → Nat → String} (schema : Schema repository)
    (planned : ∀ plan ∈ plans, Planned repository plan)
    (distinct : (plans.map (·.cameraUuid)).Nodup)
    (raised : attemptRaises fault plans = true)
    (done : attemptRecovery repository plans fault timestamp uuids = some (after, results)) :
    results = plans.map (·.result .runtimeFailed) ∧
      ((∀ plan ∈ plans, sourceColumns after plan.cameraUuid =
        sourceColumns repository plan.cameraUuid) ↔
      ∀ plan ∈ committedPlans fault plans, Restorable repository plan) := by
  obtain ⟨updated, finished, written⟩ := updatePlans_written fault timestamp (uuids 0) 0
    distinct fun plan member => (planned plan member).knownTokens schema
  have stopped : ((updatePlans fault timestamp (uuids 0) repository plans 0).finished &&
      !laterSteps.any (fault = some ·)) = false := by
    rw [finished, ← Bool.not_or, Bool.not_eq_false']
    exact raised
  simp only [attemptRecovery, stopped, Bool.false_eq_true, if_false, Option.map_eq_some_iff,
    Prod.mk.injEq] at done
  obtain ⟨restored, rolledBack, rfl, rfl⟩ := done
  rw [updated] at rolledBack written
  have committedDistinct : ((committedPlans fault plans).map (·.cameraUuid)).Nodup :=
    distinct.sublist ((List.takeWhile_sublist _).map _)
  obtain ⟨back, readableBefore⟩ := rollbackPlans_written committedDistinct rolledBack
  have isPlan {plan : RecoveryPlan} (member : plan ∈ committedPlans fault plans) :
      plan ∈ plans := List.takeWhile_subset _ member
  have camera_iff {plan : RecoveryPlan} (member : plan ∈ committedPlans fault plans) :
      sourceColumns restored plan.cameraUuid = sourceColumns repository plan.cameraUuid ↔
        Restorable repository plan := by
    have goesOn : plan.raises fault = false := by
      simpa using List.mem_takeWhile_imp member
    rw [back.moved plan member, written.moved plan member]
    exact camera_restored_iff schema (planned plan (isPlan member))
      (RecoveryPlan.readable goesOn) (readableBefore plan member)
  refine ⟨rfl, ?_⟩
  constructor
  · intro same plan member
    exact (camera_iff member).mp (same plan (isPlan member))
  · intro restorable plan member
    by_cases committed : ∃ other ∈ committedPlans fault plans,
        other.cameraUuid = plan.cameraUuid
    · obtain ⟨other, isOther, same⟩ := committed
      rw [← same]
      exact (camera_iff isOther).mpr (restorable other isOther)
    · have outside : ∀ other ∈ committedPlans fault plans,
          other.cameraUuid ≠ plan.cameraUuid := fun other isOther same =>
        committed ⟨other, isOther, same⟩
      rw [back.others _ outside, written.others _ outside]

variable [TextCase]

/-- A recovery is all or nothing on the stored sources exactly if nothing raises after the
planning, or every camera updated before can be restored from its previous sources. -/
theorem recovery_all_or_nothing_iff {repository after : Repository} {world : RecoveryWorld}
    {devices : List Device} {links : List (String × Device)} {fault : Option RecoveryStep}
    {timestamp : Nat} {uuids : Nat → Nat → String} {verdicts : List Verdict}
    {results : List RecoveryResult} (schema : Schema repository)
    (planning : planRecovery repository world devices links = some verdicts)
    (done : recoverInventoryAddresses repository world devices links fault timestamp uuids =
      some (after, results)) :
    AllOrNothing repository after (plansOf verdicts) results ↔
      attemptRaises fault (plansOf verdicts) = false ∨
      ∀ plan ∈ committedPlans fault (plansOf verdicts), Restorable repository plan := by
  have assessed : Assessed repository repository.cameras verdicts :=
    assessCameras_assessed schema.cameraIds planning
  have distinct : ((plansOf verdicts).map (·.cameraUuid)).Nodup :=
    assessed.plans.nodup schema.cameraIds
  rw [recoverInventoryAddresses, planning, Option.bind_eq_bind, Option.bind_some] at done
  split at done
  · rename_i none
    rw [List.isEmpty_iff] at none
    rw [none]
    simp [AllOrNothing, committedPlans]
  rename_i planned
  simp only [Option.bind_eq_bind, Option.bind_eq_some_iff, Option.some.injEq,
    Prod.mk.injEq] at done
  obtain ⟨⟨stored, attempted⟩, attempt, rfl, rfl⟩ := done
  cases raised : attemptRaises fault (plansOf verdicts) with
  | false =>
      obtain ⟨rfl, moved⟩ := attempt_succeeds distinct
        (fun plan member => (assessed.planned plan member).knownTokens schema) raised attempt
      simp only [true_or, iff_true]
      exact .inl fun plan member =>
        ⟨hasResult_attempt assessed .recovered member, moved plan member⟩
  | true =>
      obtain ⟨rfl, restored_iff⟩ := attempt_fails schema assessed.planned distinct raised attempt
      rw [← restored_iff, AllOrNothing]
      simp only [Bool.true_eq_false, false_or]
      constructor
      · rintro (moved | restored)
        · obtain ⟨plan, member⟩ := List.exists_mem_of_ne_nil (plansOf verdicts) fun empty =>
            planned (by rw [empty, List.isEmpty_nil])
          have failed := hasResult_attempt assessed .runtimeFailed member
          have contradictory := (moved plan member).1.2 _ failed.1 rfl
          cases contradictory
        · exact fun plan member => (restored plan member).2
      · intro restored
        exact .inr fun plan member =>
          ⟨hasResult_attempt assessed .runtimeFailed member, restored plan member⟩

end

/-! The front door at a new address, where both of its sources are found and can be probed. -/

def atNewAddress : RecoveryWorld where
  due _ _ := true
  inspect _ _ _ := .ok [("main", "rtsp://10.0.0.9/main"), ("sub", "rtsp://10.0.0.9/sub")]
  probe _ _ _ := some .ready

def movedDevice : Device where
  candidateUuid := "front"
  ip := "10.0.0.9"
  mac := some "00:11:22:33:44:55"
  status := some .online

/-- Draws from the letters after that of the adoption. -/
def attemptUuids (supply : Nat) : Nat → String := uuidSupply (if supply = 0 then 'b' else 'c')

/-- The recovery of the moved device, with the relay refusing its new streams. -/
def refusedRecovery (repository : Repository) : Option (Repository × List RecoveryResult) :=
  let _ := asciiCase
  let _ := plainUrls
  recoverInventoryAddresses repository atNewAddress [movedDevice] [] (some .replaceStreams) 5
    attemptUuids

def movedPlan : RecoveryPlan where
  cameraUuid := "a"
  previousAddress := "10.0.0.5"
  currentAddress := "10.0.0.9"
  updates := [("main", "rtsp://10.0.0.9/main"), ("sub", "rtsp://10.0.0.9/sub")]
  previousSources := [("main", "rtsp://10.0.0.5/main"), ("sub", "rtsp://10.0.0.5/sub")]
  probeResults := [("main", .ready), ("sub", .ready)]

instance [UrlText] (repository : Repository) (plan : RecoveryPlan) :
    Decidable (Restorable repository plan) := by
  unfold Restorable
  infer_instance

theorem front_door_recovery_undone :
    let _ := plainUrls
    ∃ after results, refusedRecovery adoptedOnce.repository = some (after, results) ∧
      AllOrNothing adoptedOnce.repository after [movedPlan] results := by
  have restorable : let _ := plainUrls
      ∀ plan ∈ committedPlans (some .replaceStreams) (plansOf [.planned movedPlan]),
        Restorable adoptedOnce.repository plan := by
    decide +kernel
  intro urls
  let _ := asciiCase
  have schema : Schema adoptedOnce.repository := storageRun_schema adoptedOnce_run
  have planning : planRecovery adoptedOnce.repository atNewAddress [movedDevice] [] =
      some [.planned movedPlan] := by decide +kernel
  have ends : (refusedRecovery adoptedOnce.repository).isSome = true := by decide +kernel
  obtain ⟨⟨after, results⟩, done⟩ := Option.isSome_iff_exists.mp ends
  refine ⟨after, results, done, ?_⟩
  exact (recovery_all_or_nothing_iff schema planning done).mpr (.inr restorable)

/-- The front door, adopted while its sub profile had no URI. -/
def subWithoutUri : StorageHistory :=
  let _ := asciiCase
  let _ := plainUrls
  StorageHistory.call {} ⟨.adopt { frontDoor with
    profiles := [⟨"main", some "rtsp://10.0.0.5/main", "onvif"⟩, ⟨"sub", none, "onvif"⟩]
    roles := fun _ => some "main" }, 1, uuidSupply 'a'⟩

/-- The rollback leaves the new address in the profile that had no URI. -/
theorem rollback_keeps_new_source :
    ¬ ∀ (_ : TextCase) (_ : UrlText) (history : StorageHistory) (world : RecoveryWorld)
      (devices : List Device) (links : List (String × Device)) (fault : Option RecoveryStep)
      (timestamp : Nat) (uuids : Nat → Nat → String) (verdicts : List Verdict)
      (after : Repository) (results : List RecoveryResult),
      StorageRun FreshCall {} history →
      planRecovery history.repository world devices links = some verdicts →
      recoverInventoryAddresses history.repository world devices links fault timestamp uuids =
        some (after, results) →
      AllOrNothing history.repository after (plansOf verdicts) results := by
  intro claimed
  let text := asciiCase
  let urls := plainUrls
  have run : StorageRun FreshCall {} subWithoutUri :=
    Reaches.start.step _ (freshCall_uuidSupply _ (by simp [usedUuids]) (Nat.zero_le 1)) rfl
  let plan : RecoveryPlan := { movedPlan with
    previousSources := [("main", "rtsp://10.0.0.5/main")] }
  have planning : planRecovery subWithoutUri.repository atNewAddress [movedDevice] [] =
      some [.planned plan] := by decide +kernel
  have ends : (refusedRecovery subWithoutUri.repository).isSome = true := by decide +kernel
  obtain ⟨⟨after, results⟩, done⟩ := Option.isSome_iff_exists.mp ends
  have failed : (refusedRecovery subWithoutUri.repository).map (·.2) =
      some [plan.result .runtimeFailed] := by decide +kernel
  have mixed : (refusedRecovery subWithoutUri.repository).map
      (fun ended => sourceColumns ended.1 "a") ≠
        some (sourceColumns subWithoutUri.repository "a") := by decide +kernel
  rw [done] at failed mixed
  rcases claimed text urls subWithoutUri atNewAddress [movedDevice] [] (some .replaceStreams) 5
      attemptUuids _ after results run planning done with recovered | restored
  · have stated := (recovered plan (List.mem_singleton_self _)).1.1
    obtain rfl : results = [plan.result .runtimeFailed] := Option.some.inj failed
    simp [RecoveryPlan.result] at stated
  · exact mixed (congrArg some (restored plan (List.mem_singleton_self _)).2)

end CamAdmiral
