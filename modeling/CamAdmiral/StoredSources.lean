import CamAdmiral.RecoveryIncidents

/-!
A source is stored only after its URI was parsed, so every URI in the store can be parsed again.
That is why neither the planning for an RTSP camera nor a rollback raises.
-/

namespace CamAdmiral

section
variable [TextCase] [UrlText]

/-- `_source_parts` reads the URI of every profile. -/
def SourcesRead (repository : Repository) : Prop :=
  ∀ profile ∈ repository.profiles, (sourceParts profile.uri).isSome = true

/-! The operations of the repository. -/

omit [TextCase] in
theorem SourcesRead.subset {before after : Repository} (sources : SourcesRead before)
    (kept : after.profiles ⊆ before.profiles) : SourcesRead after :=
  fun profile member => sources profile (kept member)

omit [TextCase] in
theorem SourcesRead.same {before after : Repository} (sources : SourcesRead before)
    (same : after.profiles = before.profiles) : SourcesRead after := by
  rw [SourcesRead, same]
  exact sources

omit [TextCase] in
theorem SourcesRead.transition {repository : Repository} (sources : SourcesRead repository)
    (cameraUuid : String) (timestamp : Nat) (fresh : String) :
    SourcesRead (recordCameraHealthTransition repository cameraUuid timestamp fresh) := by
  obtain ⟨events, incidents, tables⟩ := transition_tables repository cameraUuid timestamp fresh
  rw [tables]
  exact sources

omit [TextCase] in
theorem SourcesRead.storeProfile {repository : Repository} (sources : SourcesRead repository)
    (cameraUuid : String) {profile : ProfileInput} (readable : (sourceParts profile.uri).isSome)
    (source : SourceParts) (fresh : String) :
    SourcesRead (CamAdmiral.storeProfile repository cameraUuid profile source fresh).1 := by
  intro row member
  simp only [CamAdmiral.storeProfile] at member
  split at member
  · obtain ⟨old, isOld, rfl⟩ := List.mem_map.mp member
    split
    · exact readable
    · exact sources old isOld
  · rcases List.mem_append.mp member with isOld | isNew
    · exact sources row isOld
    · obtain rfl := List.mem_singleton.mp isNew
      exact readable

omit [TextCase] in
theorem SourcesRead.upsertProfiles {cameraUuid : String} {custom : Bool} {uuids : Nat → String}
    {profiles : List ProfileInput} {repository after : Repository}
    {streamsByToken result : List (String × String)} {position : Nat}
    (sources : SourcesRead repository)
    (done : CamAdmiral.upsertProfiles repository cameraUuid custom uuids streamsByToken profiles
      position = some (after, result)) : SourcesRead after := by
  induction profiles generalizing repository streamsByToken position with
  | nil =>
      obtain ⟨rfl, _⟩ : repository = after ∧ streamsByToken = result := by
        simpa [CamAdmiral.upsertProfiles] using done
      exact sources
  | cons profile rest ih =>
      simp only [CamAdmiral.upsertProfiles, Option.bind_eq_bind, Option.bind_eq_some_iff] at done
      obtain ⟨source, isSource, later⟩ := done
      have stored := sources.storeProfile cameraUuid (Option.isSome_of_eq_some isSource) source
        (uuids position)
      refine ih (stored.subset ?_) later
      rw [upsertProfile, (storeStream_same _ _ _ _ _).2]
      exact List.Subset.refl _

theorem SourcesRead.adopt {repository after : Repository} (sources : SourcesRead repository)
    {request : AdoptRequest} {timestamp : Nat} {uuids : Nat → String}
    (done : CamAdmiral.adopt repository request timestamp uuids = .ok after) :
    SourcesRead after := by
  obtain ⟨stored, streamsByToken, _, _, loop, rfl⟩ := adopt_statements done
  obtain ⟨bindings, tables⟩ := bindRoles_tables stored
    (adoptedUuid repository request.candidateUuid (uuids 0))
    (adoptedRoles (nameCamera repository request uuids)
      (adoptedUuid repository request.candidateUuid (uuids 0))
      (adoptedCustom repository request.candidateUuid) request.roles) streamsByToken
  rw [tables]
  apply SourcesRead.transition
  have pruned : SourcesRead (pruneProfiles (deleteBindings (nameCamera repository request uuids)
      (adoptedUuid repository request.candidateUuid (uuids 0)))
      (adoptedUuid repository request.candidateUuid (uuids 0))
      (request.profiles.map (·.token))) := by
    apply sources.subset
    rw [pruneProfiles]
    split
    · exact List.Subset.refl _
    · exact List.filter_sublist.subset
  have read : SourcesRead stored := pruned.upsertProfiles loop
  exact read

omit [TextCase] in
theorem SourcesRead.update {repository after : Repository} (sources : SourcesRead repository)
    {cameraUuid : String} {updates : List (String × String)} {timestamp : Nat} {fresh : String}
    (done : updateProfileSources repository cameraUuid updates timestamp fresh = .ok after) :
    SourcesRead after := by
  simp only [updateProfileSources] at done
  split at done
  · obtain rfl := Except.ok.inj done
    exact sources
  split at done
  · cases done
  split at done
  · cases done
  rename_i parsed isParsed
  obtain rfl := Except.ok.inj done
  apply SourcesRead.transition
  rw [saveSources_eq]
  intro row member
  obtain ⟨old, isOld, rfl⟩ := List.mem_map.mp member
  simp only [sourcedProfile]
  split
  · rename_i uri source listed
    split
    · obtain ⟨update, _, found⟩ := mem_mapM isParsed (mem_of_lookup listed)
      obtain ⟨parts, isParts, same⟩ := Option.map_eq_some_iff.mp found
      simp only [Prod.mk.injEq] at same
      rw [← same.2.1, isParts]
      rfl
    · exact sources old isOld
  · exact sources old isOld

theorem SourcesRead.perform {repository after : Repository} (sources : SourcesRead repository)
    {call : RepositoryCall} (done : CamAdmiral.perform repository call = .ok after) :
    SourcesRead after := by
  obtain ⟨action, timestamp, uuids⟩ := call
  cases action with
  | adopt request => exact sources.adopt done
  | setStreamSettings cameraUuid enabled roles =>
      simp only [CamAdmiral.perform, setStreamSettings] at done
      split at done
      · cases done
      split at done
      · cases done
      split at done
      · split at done
        · obtain rfl := Except.ok.inj done
          apply SourcesRead.transition
          exact sources
        · cases done
      · cases done
  | setCameraEnabled cameraUuid enabled =>
      obtain rfl := Except.ok.inj done
      simp only [setCameraEnabled]
      split
      · exact sources
      · apply SourcesRead.transition
        exact sources
  | replaceCameraCredentials cameraUuid username password =>
      obtain rfl := Except.ok.inj done
      simp only [replaceCameraCredentials]
      split
      · exact sources
      · apply SourcesRead.transition
        exact sources
  | updateProfileSources cameraUuid updates => exact sources.update done
  | recordProbeResults results =>
      obtain rfl := Except.ok.inj done
      exact sources.same (recordProbeResults_profiles repository results _ uuids)
  | unadoptCamera cameraUuid =>
      simp only [CamAdmiral.perform, unadoptCamera, pure, Except.pure, throw, throwThe,
        MonadExceptOf.throw] at done
      split at done
      · obtain rfl := Except.ok.inj done
        exact sources
      split at done
      · cases done
      split at done
      · cases done
      · obtain rfl := Except.ok.inj done
        exact sources.subset (List.filter_sublist.subset)
  | setFrigateStreams rows =>
      simp only [CamAdmiral.perform, setFrigateStreams] at done
      split at done
      · obtain rfl := Except.ok.inj done
        exact sources
      · cases done

/-! Recovery calls. -/

omit [TextCase] in
theorem updateTrace_sources (fault : Option RecoveryStep) (timestamp : Nat)
    (uuids : Nat → String) (plans : List RecoveryPlan) {system : RecoverySystem}
    (position : Nat) (sources : SourcesRead system.repository) :
    ∀ state ∈ updateTrace fault timestamp uuids system plans position,
      SourcesRead state.repository := by
  induction plans generalizing system position with
  | nil => simp [updateTrace]
  | cons plan rest ih =>
      have opened : SourcesRead (openAddressIncident system.repository plan.cameraUuid timestamp
          (uuids position)).1 := by
        have same := openAddressIncident_profiles system.repository plan.cameraUuid timestamp
          (uuids position)
        exact sources.same same
      intro state member
      simp only [updateTrace] at member
      split at member
      · cases member
      split at member
      · obtain rfl := List.mem_singleton.mp member
        exact opened
      split at member
      · obtain rfl := List.mem_singleton.mp member
        exact opened
      rename_i next done
      rcases List.mem_cons.mp member with rfl | member
      · exact opened
      rcases List.mem_cons.mp member with rfl | isLater
      · exact opened.update done
      · exact ih _ (opened.update done) state isLater

omit [TextCase] in
theorem resolveTrace_sources (timestamp : Nat) (pairs : List (RecoveryPlan × String))
    {system : RecoverySystem} (sources : SourcesRead system.repository) :
    ∀ state ∈ resolveTrace timestamp system pairs, SourcesRead state.repository := by
  induction pairs generalizing system with
  | nil => simp [resolveTrace]
  | cons pair rest ih =>
      have resolved : SourcesRead (resolveAddressIncident system.repository pair.2 timestamp) := by
        have same := resolveIncidents_profiles timestamp [pair.2] system.repository
        exact sources.same same
      intro state member
      rcases List.mem_cons.mp member with rfl | isLater
      · exact resolved
      · exact ih resolved state isLater

omit [TextCase] in
theorem rollbackTrace_sources (timestamp : Nat) (uuids : Nat → String)
    (plans : List RecoveryPlan) {system : RecoverySystem} (position : Nat)
    (sources : SourcesRead system.repository) :
    ∀ state ∈ rollbackTrace timestamp uuids system plans position,
      SourcesRead state.repository := by
  induction plans generalizing system position with
  | nil => simp [rollbackTrace]
  | cons plan rest ih =>
      intro state member
      simp only [rollbackTrace] at member
      split at member
      · cases member
      rename_i next done
      rcases List.mem_cons.mp member with rfl | isLater
      · exact sources.update done
      · exact ih _ (sources.update done) state isLater

theorem SourcesRead.recover {system : RecoverySystem} (sources : SourcesRead system.repository)
    (call : RecoveryCall) : SourcesRead (system.recover call).repository := by
  simp only [RecoverySystem.recover]
  split
  · exact sources
  rename_i verdicts _
  split
  · exact sources
  have trace : ∀ state ∈ attemptTrace system (plansOf verdicts) call.fault call.timestamp
      call.uuids, SourcesRead state.repository := by
    have updates := updateTrace_sources call.fault call.timestamp (call.uuids 0)
      (plansOf verdicts) 0 sources
    have reached := last_of_all (fun state : RecoverySystem => SourcesRead state.repository)
      sources updates
    intro state member
    simp only [attemptTrace, List.mem_append] at member
    rcases member with isUpdate | isRest
    · exact updates state isUpdate
    split at isRest
    · have same := recordProbeResults_profiles
        ((updateTrace call.fault call.timestamp (call.uuids 0) system (plansOf verdicts)
          0).getLastD system).repository
        (empiricalResults system.repository (plansOf verdicts)) call.timestamp (call.uuids 1)
      have recorded := reached.same same
      rcases List.mem_cons.mp isRest with rfl | isResolve
      · exact recorded
      · exact resolveTrace_sources call.timestamp _ recorded state isResolve
    · exact rollbackTrace_sources call.timestamp (call.uuids 1) _ 0 reached state isRest
  split
  · exact last_of_all (fun state : RecoverySystem => SourcesRead state.repository) sources trace
  · exact last_of_all (fun state : RecoverySystem => SourcesRead state.repository) sources
      fun state member => trace state (List.mem_of_mem_take member)

omit [TextCase] in
theorem SourcesRead.given {repository : Repository} (sources : SourcesRead repository)
    {cameraUuid uri : String} {pair : AdoptedStream}
    (member : pair ∈ cameraStreams repository cameraUuid) (given : pair.2.givenUri = some uri) :
    (sourceParts (some uri)).isSome = true ∧ (UrlText.split uri).isSome = true := by
  obtain ⟨_, _, found⟩ := mem_cameraStreams.mp member
  obtain ⟨stored, named⟩ := Option.filter_eq_some_iff.mp given
  have read := sources pair.2 (rowAt_some found).1
  rw [stored] at read
  refine ⟨read, ?_⟩
  rwa [sourceParts, if_neg (of_decide_eq_true named)] at read

omit [TextCase] in
theorem SourcesRead.proposeRtsp {repository : Repository} (sources : SourcesRead repository)
    (candidate : Device) (cameraUuid : String) :
    CamAdmiral.proposeRtsp candidate (cameraStreams repository cameraUuid) ≠ .raised := by
  intro raised
  simp only [CamAdmiral.proposeRtsp] at raised
  split at raised
  · cases raised
  · rename_i stuck
    have moved := Option.isNone_iff_eq_none.mpr stuck
    rw [← Option.not_isSome, Bool.not_eq_true', ← Bool.not_eq_true, mapM_isSome] at moved
    refine absurd ?_ moved
    rintro ⟨token, uri⟩ member
    obtain ⟨pair, isPair, found⟩ := List.mem_filterMap.mp member
    obtain ⟨_, given, same⟩ := Option.map_eq_some_iff.mp found
    simp only [Prod.mk.injEq] at same
    rw [same.2] at given
    rw [Option.isSome_map, replaceHost, Option.isSome_map]
    exact (sources.given isPair given).2

/-- The camera has a profile of this token. -/
def HasToken (repository : Repository) (cameraUuid token : String) : Prop :=
  ∃ columns ∈ sourceColumns repository cameraUuid, columns.token = token

omit [TextCase] in
theorem HasToken.moved {before after : Repository} {cameraUuid token : String}
    {sources : List (String × String)} (known : HasToken before cameraUuid token)
    (moved : sourceColumns after cameraUuid =
      (sourceColumns before cameraUuid).map (movedColumns sources)) :
    HasToken after cameraUuid token := by
  obtain ⟨columns, member, same⟩ := known
  refine ⟨movedColumns sources columns, ?_, (movedColumns_token sources columns).trans same⟩
  rw [moved]
  exact List.mem_map_of_mem member

omit [TextCase] in
theorem HasToken.written {before after : Repository} {cameraUuid token : String}
    {sources : RecoveryPlan → List (String × String)} {plans : List RecoveryPlan}
    (known : HasToken before cameraUuid token)
    (written : Written before after sources plans) : HasToken after cameraUuid token := by
  by_cases moved : ∃ plan ∈ plans, plan.cameraUuid = cameraUuid
  · obtain ⟨plan, member, rfl⟩ := moved
    exact known.moved (written.moved plan member)
  · rw [HasToken, written.others cameraUuid fun plan member same => moved ⟨plan, member, same⟩]
    exact known

end

end CamAdmiral
