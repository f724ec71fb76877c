import CamAdmiral.MonitorCore

/-!
Which credentials the recorded observations were obtained with, over every interleaving of
the monitor's cycles with replacements of credentials.
-/

namespace CamAdmiral

/-- The sources whose results the monitor is about to record. -/
def MonitorPhase.sources : MonitorPhase → List ManagedSource
  | .retrying _ sources _ | .reading sources | .relayed sources _ | .collected sources _ _
  | .submitted sources _ _ | .diagnosing sources _ _ | .recording sources _ => sources
  | .idle | .scheduled _ | .claiming _ _ _ | .retried => []

def MonitorPhase.observations : MonitorPhase → List MediaObservation
  | .relayed _ active => active
  | .collected _ active periodic | .submitted _ active periodic => active ++ periodic
  | .diagnosing _ results _ | .recording _ results => results
  | _ => []

def MonitorPhase.suspects : MonitorPhase → List ManagedSource
  | .diagnosing _ _ suspects => suspects
  | _ => []

/-- The check was made with the credentials of its source. -/
def PendingProbe.Own (pending : PendingProbe) : Prop :=
  ∀ verdict credentials, pending.finished = some (verdict, credentials) →
    credentials = pending.source.credentials

def ObtainedFrom (sources : List ManagedSource) (result : MediaObservation) : Prop :=
  ∃ source ∈ sources, source.streamUuid = result.streamUuid ∧
    source.credentials = result.obtainedWith

/-! What the functions of a cycle make of the observations. -/

/-- The relay serves the sources with the credentials they were read with. -/
def RelayCurrent (relay : List (String × Credentials)) (source : ManagedSource) : Prop :=
  (relay.lookup source.streamKey).all (· = source.credentials) = true

theorem RelayCurrent.held {relay : List (String × Credentials)} {source : ManagedSource}
    (current : RelayCurrent relay source) {credentials : Credentials}
    (held : relay.lookup source.streamKey = some credentials) :
    credentials = source.credentials := by
  simpa [RelayCurrent, held] using current

theorem sampleRelay_obtained {relay : List (String × Credentials)}
    {reports : List RelayReport} {memory : MonitorMemory} {sources : List ManagedSource}
    (current : ∀ source ∈ sources, RelayCurrent relay source) :
    ∀ result ∈ (sampleRelay relay reports memory sources).2, ObtainedFrom sources result := by
  suffices general : ∀ (todo : List ManagedSource)
      (state : List VideoSample × List MediaObservation), todo ⊆ sources →
      (∀ result ∈ state.2, ObtainedFrom sources result) →
      ∀ result ∈ (todo.foldl (sampleSource relay reports) state).2,
        ObtainedFrom sources result from
    general sources (memory.videoSamples, []) (List.Subset.refl _) (by simp)
  intro todo
  induction todo with
  | nil => exact fun state _ obtained => obtained
  | cons source rest ih =>
      intro state within obtained
      refine ih _ (fun _ member => within (List.mem_cons_of_mem _ member)) ?_
      have isSource : source ∈ sources := within List.mem_cons_self
      intro result member
      simp only [sampleSource] at member
      split at member
      · exact obtained result member
      · rename_i report credentials reported
        simp only [List.mem_append, Option.mem_toList, Option.map_eq_some_iff] at member
        rcases member with isOld | ⟨status, _, rfl⟩
        · exact obtained result isOld
        · simp only [relayReport, Option.bind_eq_bind, Option.bind_eq_some_iff, pure,
            Option.some.injEq, Prod.mk.injEq] at reported
          obtain ⟨held, isHeld, _, _, _, rfl⟩ := reported
          exact ⟨source, isSource, rfl, ((current source isSource).held isHeld).symm⟩

theorem collectSnapshots_obtained {sources : List ManagedSource} {memory : MonitorMemory}
    (own : ∀ pending ∈ memory.pendingSnapshots, pending.Own) :
    ∀ result ∈ (collectSnapshots sources memory).2, ObtainedFrom sources result := by
  intro result member
  obtain ⟨pending, isPending, collected⟩ := List.mem_filterMap.mp member
  simp only [snapshotResult, Option.bind_eq_bind, Option.bind_eq_some_iff] at collected
  obtain ⟨⟨verdict, credentials⟩, finished, isResult⟩ := collected
  split at isResult
  · rename_i same
    have isOwn := own pending isPending verdict credentials finished
    have isSource := (rowAt_some same).1
    split at isResult
    · obtain rfl := Option.some.inj isResult
      exact ⟨pending.source, isSource, rfl, isOwn.symm⟩
    · cases isResult
    · obtain rfl := Option.some.inj isResult
      exact ⟨pending.source, isSource, rfl, isOwn.symm⟩
  · cases isResult

theorem mem_mergeResults {active periodic : List MediaObservation} {result : MediaObservation}
    (member : result ∈ mergeResults active periodic) :
    result ∈ active ∨ result ∈ periodic := by
  suffices general : ∀ (todo results : List MediaObservation),
      result ∈ todo.foldl (mergeResult active) results →
      result ∈ results ∨ result ∈ todo from
    general periodic active member
  intro todo
  induction todo with
  | nil => exact fun results isResult => .inl isResult
  | cons first rest ih =>
      intro results isResult
      rcases ih _ isResult with merged | later
      · simp only [mergeResult] at merged
        split at merged
        · split at merged
          · rcases mem_upsertRow merged with isOld | rfl
            · exact .inl isOld
            · exact .inr List.mem_cons_self
          · exact .inl merged
        · rcases mem_upsertRow merged with isOld | rfl
          · exact .inl isOld
          · exact .inr List.mem_cons_self
      · exact .inr (List.mem_cons_of_mem _ later)

theorem mem_updateResults {results found : List MediaObservation} {result : MediaObservation}
    (member : result ∈ updateResults results found) : result ∈ results ∨ result ∈ found := by
  induction found generalizing results with
  | nil => exact .inl member
  | cons first rest ih =>
      rcases ih member with updated | later
      · rcases mem_upsertRow updated with isOld | rfl
        · exact .inl isOld
        · exact .inr List.mem_cons_self
      · exact .inr (List.mem_cons_of_mem _ later)

theorem countFailures_suspects {sources : List ManagedSource} {memory : MonitorMemory}
    {results : List MediaObservation} :
    (countFailures sources memory results).2 ⊆ sources := by
  suffices general : ∀ (todo : List MediaObservation)
      (state : List FailureSample × List ManagedSource), state.2 ⊆ sources →
      (todo.foldl (countFailure sources) state).2 ⊆ sources from
    general results (memory.failureSamples, []) (List.nil_subset _)
  intro todo
  induction todo with
  | nil => exact fun state within => within
  | cons first rest ih =>
      intro state within
      apply ih
      simp only [countFailure]
      split
      · exact within
      split
      · exact within
      · rename_i source found
        split
        · exact within
        split
        · exact within
        · intro suspect member
          rcases List.mem_append.mp member with isOld | isNew
          · exact within isOld
          · obtain rfl := List.mem_singleton.mp isNew
            exact (rowAt_some found).1

theorem diagnose_obtained {probe : ManagedSource → ProbeStatus}
    {suspects sources : List ManagedSource} (within : suspects ⊆ sources) :
    ∀ result ∈ diagnose probe suspects, ObtainedFrom sources result := by
  intro result member
  obtain ⟨source, isSuspect, diagnosed⟩ := List.mem_filterMap.mp member
  split at diagnosed
  · obtain rfl := Option.some.inj diagnosed
    exact ⟨source, within isSuspect, rfl, rfl⟩
  · cases diagnosed

/-! The stored credentials. -/

/-- The statements that only change what a probe decides about the streams. -/
structure SameLogins (before after : Repository) : Prop where
  cameras : after.cameras = before.cameras
  credentials : after.credentials = before.credentials
  streams : ∀ streamUuid, (after.stream streamUuid).map StreamRow.cameraUuid =
    (before.stream streamUuid).map StreamRow.cameraUuid

theorem SameLogins.refl (repository : Repository) : SameLogins repository repository :=
  ⟨rfl, rfl, fun _ => rfl⟩

theorem SameLogins.trans {first second third : Repository} (one : SameLogins first second)
    (two : SameLogins second third) : SameLogins first third :=
  ⟨two.cameras.trans one.cameras, two.credentials.trans one.credentials,
    fun streamUuid => (two.streams streamUuid).trans (one.streams streamUuid)⟩

theorem SameLogins.storedCredentials {before after : Repository}
    (same : SameLogins before after) (streamUuid : String) :
    storedCredentials after streamUuid = storedCredentials before streamUuid := by
  have byCamera (repository : Repository) : CamAdmiral.storedCredentials repository streamUuid =
      ((repository.stream streamUuid).map StreamRow.cameraUuid).bind fun cameraUuid =>
        (repository.camera cameraUuid).bind fun camera =>
          (rowAt CredentialRow.credentialUuid repository.credentials
            camera.credentialUuid).map fun credential =>
              ⟨credential.username, credential.password⟩ := by
    rw [CamAdmiral.storedCredentials, Option.bind_map]
    congr 1
    funext stream
    rw [Function.comp_apply]
    congr 1
    funext camera
    exact Option.map_eq_bind.symm
  rw [byCamera after, byCamera before, same.streams]
  simp only [Repository.camera, same.cameras, same.credentials]

theorem sameLogins_transitions (repository : Repository) (timestamp : Nat)
    (uuids : Nat → String) (affected : List String) (position : Nat) :
    SameLogins repository (recordTransitions repository timestamp uuids affected position) := by
  induction affected generalizing repository position with
  | nil => exact SameLogins.refl repository
  | cons cameraUuid rest ih =>
      refine SameLogins.trans ?_ (ih _ _)
      obtain ⟨events, incidents, tables⟩ :=
        transition_tables repository cameraUuid timestamp (uuids position)
      rw [tables]
      exact ⟨rfl, rfl, fun _ => rfl⟩

theorem probed_uuid (status : ProbeStatus) (streamUuid : String) (row : StreamRow) :
    (if row.streamUuid = streamUuid then probedStream status row else row).streamUuid =
      row.streamUuid := by
  split <;> rfl

theorem storeProbeResults_logins (results : List (String × ProbeStatus))
    (repository : Repository) (affected : List String) :
    SameLogins repository (storeProbeResults repository affected results).1 ∧
      (Unique StreamRow.streamUuid repository.streams →
        Unique StreamRow.streamUuid (storeProbeResults repository affected results).1.streams) ∧
      ∀ row ∈ repository.streams, row.streamUuid ∉ results.map Prod.fst →
        row ∈ (storeProbeResults repository affected results).1.streams := by
  induction results generalizing repository affected with
  | nil => exact ⟨SameLogins.refl repository, id, fun row member _ => member⟩
  | cons result rest ih =>
      obtain ⟨streamUuid, status⟩ := result
      simp only [storeProbeResults]
      split
      · obtain ⟨logins, unique, others⟩ := ih repository affected
        exact ⟨logins, unique, fun row member outside => others row member fun later =>
          outside (List.mem_cons_of_mem _ later)⟩
      · have probed : SameLogins repository { repository with
            streams := repository.streams.map fun row =>
              if row.streamUuid = streamUuid then probedStream status row else row } := by
          refine ⟨rfl, rfl, fun wanted => ?_⟩
          simp only [Repository.stream, rowAt_map _ _ (probed_uuid status streamUuid),
            Option.map_map]
          congr 1
          funext row
          simp only [Function.comp_apply]
          split <;> rfl
        obtain ⟨logins, unique, others⟩ := ih _ _
        refine ⟨probed.trans logins, ?_, ?_⟩
        · exact fun isUnique => unique (isUnique.map _ (probed_uuid status streamUuid))
        · intro row member outside
          rw [List.map_cons, List.mem_cons, not_or] at outside
          refine others row (List.mem_map.mpr ⟨row, member, if_neg outside.1⟩) outside.2

section
variable [TextCase] [UrlText]

omit [TextCase] in
/-- A source is read with the credentials stored for its stream. -/
theorem managedStreamSources_stored {repository : Repository}
    (unique : Unique StreamRow.streamUuid repository.streams) {options : SourceOptions}
    {source : ManagedSource} (member : source ∈ managedStreamSources repository options) :
    storedCredentials repository source.streamUuid = some source.credentials := by
  rw [managedStreamSources, List.mem_insertionSort, List.mem_filterMap] at member
  obtain ⟨stream, isStream, read⟩ := member
  simp only [managedSource, Option.bind_eq_bind, Option.bind_eq_some_iff] at read
  obtain ⟨profile, _, camera, isCamera, credential, isCredential, selected⟩ := read
  split at selected
  · obtain rfl := Option.some.inj selected
    simp only [storedCredentials, Repository.stream, unique.rowAt_eq isStream,
      Option.bind_eq_bind, Option.bind_some, isCamera, isCredential]
    rfl
  · cases selected

theorem record_repository (system : MonitorSystem) (results : List MediaObservation)
    (timestamp : Nat) (uuids : Nat → String) :
    (system.record results timestamp uuids).repository =
      recordProbeResults system.repository
        (results.map fun result => (result.streamUuid, result.status)) timestamp uuids := rfl

theorem record_logins (system : MonitorSystem) (results : List MediaObservation) (timestamp : Nat)
    (uuids : Nat → String) :
    SameLogins system.repository (system.record results timestamp uuids).repository := by
  rw [record_repository, recordProbeResults]
  exact (storeProbeResults_logins _ _ _).1.trans (sameLogins_transitions _ _ _ _ _)

theorem record_unique {system : MonitorSystem}
    (unique : Unique StreamRow.streamUuid system.repository.streams)
    (results : List MediaObservation) (timestamp : Nat) (uuids : Nat → String) :
    Unique StreamRow.streamUuid
      (system.record results timestamp uuids).repository.streams := by
  rw [record_repository, recordProbeResults, transitions_streams]
  exact (storeProbeResults_logins _ _ _).2.1 unique

theorem record_others {system : MonitorSystem} {results : List MediaObservation}
    {timestamp : Nat} {uuids : Nat → String} {row : StreamRow}
    (member : row ∈ system.repository.streams)
    (outside : ∀ result ∈ results, result.streamUuid ≠ row.streamUuid) :
    row ∈ (system.record results timestamp uuids).repository.streams := by
  rw [record_repository, recordProbeResults, transitions_streams]
  refine (storeProbeResults_logins _ _ _).2.2 row member ?_
  simp only [List.map_map, List.mem_map, Function.comp_apply, not_exists, not_and]
  exact outside

/-! Steps. -/

/-- No replacement changes the credentials of a stream whose source was read for results that
are still to be recorded, and go2rtc holds the credentials of the sources it is sampled for. -/
def Undisturbed (system : MonitorSystem) (action : MonitorAction) : Prop :=
  match action with
  | .replaceCameraCredentials _ _ _ _ => ∀ source ∈ system.phase.sources,
      storedCredentials (monitorStep system action).repository source.streamUuid =
        storedCredentials system.repository source.streamUuid
  | .readRelay _ => ∀ source ∈ system.phase.sources, RelayCurrent system.relay source
  | .finishSnapshot streamUuid _ => ∀ pending ∈ system.memory.pendingSnapshots,
      pending.streamUuid = streamUuid → RelayCurrent system.relay pending.source
  | _ => True

instance (system : MonitorSystem) : ∀ action, Decidable (Undisturbed system action)
  | .replaceCameraCredentials cameraUuid credentials timestamp uuids =>
      inferInstanceAs (Decidable (∀ source ∈ system.phase.sources,
        storedCredentials (monitorStep system (.replaceCameraCredentials cameraUuid credentials
          timestamp uuids)).repository source.streamUuid =
        storedCredentials system.repository source.streamUuid))
  | .readRelay _ => inferInstanceAs (Decidable (∀ source ∈ system.phase.sources,
      (system.relay.lookup source.streamKey).all (· = source.credentials) = true))
  | .finishSnapshot streamUuid _ =>
      inferInstanceAs (Decidable (∀ pending ∈ system.memory.pendingSnapshots,
        pending.streamUuid = streamUuid →
        (system.relay.lookup pending.source.streamKey).all (· = pending.source.credentials) =
          true))
  | .authRetrySchedule _ | .readRetrySources | .collectRetry _ _ | .claimRetry | .readSources
  | .relayFails | .collectSnapshots | .submitSnapshots _ | .collectAgain | .diagnose _
  | .record _ _ | .finishAuth _ _ | .reconcileStreams => instDecidableTrue

/-- The credentials of every observation that is kept, and of those recorded so far. -/
structure MonitorInvariant (system : MonitorSystem) : Prop where
  unique : Unique StreamRow.streamUuid system.repository.streams
  snapshots : ∀ pending ∈ system.memory.pendingSnapshots, pending.Own
  auths : ∀ pending ∈ system.memory.pendingAuth, pending.Own
  window : ∀ source ∈ system.phase.sources,
    storedCredentials system.repository source.streamUuid = some source.credentials
  observed : ∀ result ∈ system.phase.observations, ObtainedFrom system.phase.sources result
  suspects : system.phase.suspects ⊆ system.phase.sources
  log : ∀ entry ∈ system.log, entry.stored = some entry.observation.obtainedWith

/-- Recording observations of sources that are still current. -/
theorem MonitorInvariant.record {system : MonitorSystem} (invariant : MonitorInvariant system)
    (results : List MediaObservation)
    (obtained : ∀ result ∈ results, ObtainedFrom system.phase.sources result) (timestamp : Nat)
    (uuids : Nat → String) : MonitorInvariant (system.record results timestamp uuids) := by
  refine ⟨record_unique invariant.unique results timestamp uuids, invariant.snapshots,
    invariant.auths, ?_, invariant.observed, invariant.suspects, ?_⟩
  · intro source member
    rw [(record_logins system results timestamp uuids).storedCredentials]
    exact invariant.window source member
  · intro entry member
    rcases List.mem_append.mp member with isOld | isNew
    · exact invariant.log entry isOld
    · obtain ⟨result, isResult, rfl⟩ := List.mem_map.mp isNew
      obtain ⟨source, isSource, sameUuid, credentials⟩ := obtained result isResult
      show storedCredentials system.repository result.streamUuid = some result.obtainedWith
      rw [← sameUuid, ← credentials]
      exact invariant.window source isSource

omit [TextCase] [UrlText] in
/-- A step that only changes the memory and goes to a phase with observations of its
sources. -/
theorem MonitorInvariant.advance {system : MonitorSystem} (invariant : MonitorInvariant system)
    (retries : List AuthRetryRow) (relay : List (String × Credentials)) {memory : MonitorMemory}
    {phase : MonitorPhase} (snapshots : ∀ pending ∈ memory.pendingSnapshots, pending.Own)
    (auths : ∀ pending ∈ memory.pendingAuth, pending.Own)
    (window : ∀ source ∈ phase.sources, source ∈ system.phase.sources ∨
      storedCredentials system.repository source.streamUuid = some source.credentials)
    (observed : ∀ result ∈ phase.observations, ObtainedFrom phase.sources result)
    (suspects : phase.suspects ⊆ phase.sources) :
    MonitorInvariant { system with
      tables := { system.tables with retries := retries }
      relay := relay
      memory := memory
      phase := phase } := by
  refine ⟨invariant.unique, snapshots, auths, ?_, observed, suspects, invariant.log⟩
  intro source member
  rcases window source member with isOld | stored
  · exact invariant.window source isOld
  · exact stored

omit [TextCase] [UrlText] in
theorem pendingProbe_own {pending : PendingProbe} (fresh : pending.finished = none) :
    pending.Own := by
  intro verdict credentials finished
  rw [fresh] at finished
  cases finished

omit [TextCase] [UrlText] in
theorem submitSnapshots_own {due : List String} {sources : List ManagedSource}
    {observed : List MediaObservation} {memory : MonitorMemory}
    (own : ∀ pending ∈ memory.pendingSnapshots, pending.Own) :
    ∀ pending ∈ (submitSnapshots due sources observed memory).pendingSnapshots,
      pending.Own := by
  intro pending member
  rcases List.mem_append.mp member with isOld | isNew
  · exact own pending isOld
  · obtain ⟨source, _, rfl⟩ := List.mem_map.mp isNew
    exact pendingProbe_own rfl

omit [TextCase] [UrlText] in
theorem finishSnapshot_own {relay : List (String × Credentials)} {memory : MonitorMemory}
    {streamUuid : String} {verdict : ProbeVerdict}
    (own : ∀ pending ∈ memory.pendingSnapshots, pending.Own)
    (current : ∀ pending ∈ memory.pendingSnapshots, pending.streamUuid = streamUuid →
      RelayCurrent relay pending.source) :
    ∀ pending ∈ (memory.finishSnapshot relay streamUuid verdict).pendingSnapshots,
      pending.Own := by
  intro pending member
  rcases mem_updateRow.mp member with ⟨isOld, _⟩ | ⟨original, isOriginal, same, rfl⟩
  · exact own pending isOld
  · split
    · exact own original isOriginal
    · intro found credentials finished
      rw [Option.some.injEq, Prod.mk.injEq] at finished
      rw [← finished.2]
      cases held : relay.lookup original.source.streamKey with
      | none => rfl
      | some credentials => exact (current original isOriginal same).held held

omit [TextCase] [UrlText] in
theorem finishAuth_own {memory : MonitorMemory} {cameraUuid : String} {verdict : ProbeVerdict}
    (own : ∀ pending ∈ memory.pendingAuth, pending.Own) :
    ∀ pending ∈ (memory.finishAuth cameraUuid verdict).pendingAuth, pending.Own := by
  intro pending member
  rcases mem_updateRow.mp member with ⟨isOld, _⟩ | ⟨original, isOriginal, _, rfl⟩
  · exact own pending isOld
  · split
    · exact own original isOriginal
    · intro found credentials finished
      rw [Option.some.injEq, Prod.mk.injEq] at finished
      exact finished.2.symm

theorem collectRetry_invariant {system : MonitorSystem} (invariant : MonitorInvariant system)
    {schedule : List AuthRetryRow} {sources : List ManagedSource} {cameraUuid : String}
    {rest : List String}
    (isPhase : system.phase = .retrying schedule sources (cameraUuid :: rest))
    (timestamp : Nat) (uuids : Nat → String) :
    MonitorInvariant (system.collectRetry schedule sources cameraUuid rest timestamp uuids) := by
  have sourced : system.phase.sources = sources := by rw [isPhase]; rfl
  have waiting {todo : List String} : MonitorInvariant { system with
      phase := .retrying schedule sources todo } :=
    invariant.advance system.tables.retries system.relay invariant.snapshots invariant.auths
      (fun source member => .inl (sourced ▸ member)) (by simp [MonitorPhase.observations])
      (List.nil_subset _)
  rw [MonitorSystem.collectRetry]
  split
  · rename_i source verdict credentials found
    obtain ⟨isPending, _⟩ := rowAt_some found
    have own := invariant.auths _ isPending verdict credentials rfl
    have removed : MonitorInvariant { system with
        memory := { system.memory with
          pendingAuth := system.memory.pendingAuth.filter (·.cameraUuid ≠ cameraUuid) } } :=
      { invariant with
        auths := fun pending member =>
          invariant.auths pending (List.mem_filter.mp member).1 }
    dsimp only
    split
    · rename_i accepted
      simp only [Bool.and_eq_true, decide_eq_true_eq] at accepted
      have isSource : source ∈ system.phase.sources := sourced ▸ (rowAt_some accepted.2).1
      have recorded := removed.record [⟨source.streamUuid, .ready, credentials⟩] (by
          rintro result member
          obtain rfl := List.mem_singleton.mp member
          exact ⟨source, isSource, rfl, own.symm⟩) timestamp uuids
      refine ⟨recorded.unique, recorded.snapshots, recorded.auths, ?_,
        by simp [MonitorPhase.observations], List.nil_subset _, recorded.log⟩
      intro other member
      have isOther : other ∈ sources := (List.mem_filter.mp member).1
      exact recorded.window other (sourced ▸ isOther)
    · exact { removed with
        window := fun other member => removed.window other (sourced ▸ member)
        observed := by simp [MonitorPhase.observations]
        suspects := List.nil_subset _ }
  · exact waiting

omit [TextCase] [UrlText] in
theorem claimRetry_invariant {system : MonitorSystem} (invariant : MonitorInvariant system)
    (schedule : List AuthRetryRow) (now : Nat) (source : ManagedSource)
    (rest : List ManagedSource) :
    MonitorInvariant (system.claimRetry schedule now source rest) := by
  have waiting : MonitorInvariant { system with phase := .claiming schedule now rest } :=
    invariant.advance system.tables.retries system.relay invariant.snapshots invariant.auths
      (by simp [MonitorPhase.sources]) (by simp [MonitorPhase.observations])
      (List.nil_subset _)
  rw [MonitorSystem.claimRetry]
  split
  · exact waiting
  dsimp only
  split
  · refine { waiting with auths := ?_ }
    intro pending member
    rcases List.mem_append.mp member with isOld | isNew
    · exact invariant.auths pending isOld
    · obtain rfl := List.mem_singleton.mp isNew
      exact pendingProbe_own rfl
  · exact waiting

omit [TextCase] [UrlText] in
theorem replaced_unique {repository : Repository}
    (unique : Unique StreamRow.streamUuid repository.streams)
    (cameraUuid username password : String) (timestamp : Nat) (fresh : String) :
    Unique StreamRow.streamUuid (replaceCameraCredentials repository cameraUuid username
      password timestamp fresh).1.streams := by
  rw [replaceCameraCredentials]
  split
  · exact unique
  · rw [transition_streams]
    apply unique.map
    intro row
    split <;> rfl

theorem monitorStep_invariant {system : MonitorSystem} {action : MonitorAction}
    (invariant : MonitorInvariant system) (undisturbed : Undisturbed system action) :
    MonitorInvariant (monitorStep system action) := by
  have moved {phase : MonitorPhase} (window : ∀ source ∈ phase.sources,
        storedCredentials system.repository source.streamUuid = some source.credentials)
      (observed : phase.observations = []) (suspects : phase.suspects = []) :
      MonitorInvariant { system with phase := phase } :=
    invariant.advance system.tables.retries system.relay invariant.snapshots invariant.auths
      (fun source member => .inr (window source member)) (by simp [observed])
      (by simp [suspects])
  have current (options : SourceOptions) :
      ∀ source ∈ managedStreamSources system.repository options,
        storedCredentials system.repository source.streamUuid = some source.credentials :=
    fun source member => managedStreamSources_stored invariant.unique member
  have collected (sources : List ManagedSource) :
      ∀ pending ∈ (collectSnapshots sources system.memory).1.pendingSnapshots, pending.Own :=
    fun pending member => invariant.snapshots pending (List.mem_filter.mp member).1
  unfold monitorStep
  split
  · refine invariant.advance _ system.relay invariant.snapshots invariant.auths ?_ ?_ ?_
    · intro source member
      split at member <;> simp [MonitorPhase.sources] at member
    · intro result member
      split at member <;> simp [MonitorPhase.observations] at member
    · split <;> exact List.nil_subset _
  · exact moved (fun source member => current _ source (List.mem_filter.mp member).1) rfl rfl
  · rename_i timestamp uuids schedule sources cameraUuid rest isPhase
    exact collectRetry_invariant invariant isPhase timestamp uuids
  · exact moved (by simp [MonitorPhase.sources]) rfl rfl
  · split
    · exact moved (by simp [MonitorPhase.sources]) rfl rfl
    · exact claimRetry_invariant invariant _ _ _ _
  · exact moved (by simp [MonitorPhase.sources]) rfl rfl
  · exact moved (current _) rfl rfl
  · rename_i reports sources isPhase
    have window := invariant.window
    simp only [Undisturbed, isPhase] at undisturbed
    rw [isPhase] at window
    exact invariant.advance system.tables.retries system.relay invariant.snapshots
      invariant.auths (fun source member => .inr (window source member))
      (sampleRelay_obtained undisturbed) (List.nil_subset _)
  · exact moved (by simp [MonitorPhase.sources]) rfl rfl
  · rename_i sources active isPhase
    refine invariant.advance _ system.relay (collected sources) invariant.auths
      (fun source member => .inl (by rwa [isPhase])) ?_ (List.nil_subset _)
    intro result member
    rcases List.mem_append.mp member with isActive | isPeriodic
    · have observed := invariant.observed
      rw [isPhase] at observed
      exact observed result isActive
    · exact collectSnapshots_obtained invariant.snapshots result isPeriodic
  · rename_i due sources active periodic isPhase
    have observed := invariant.observed
    rw [isPhase] at observed
    exact invariant.advance _ system.relay (submitSnapshots_own invariant.snapshots)
      invariant.auths (fun source member => .inl (by rwa [isPhase])) observed
      (List.nil_subset _)
  · rename_i sources active periodic isPhase
    refine invariant.advance _ system.relay (collected sources) invariant.auths
      (fun source member => .inl (by rwa [isPhase])) ?_ countFailures_suspects
    intro result member
    have observed := invariant.observed
    rw [isPhase] at observed
    rcases mem_mergeResults member with isActive | isPeriodic
    · exact observed result (List.mem_append_left _ isActive)
    rcases List.mem_append.mp isPeriodic with isEarlier | isLater
    · exact observed result (List.mem_append_right _ isEarlier)
    · exact collectSnapshots_obtained invariant.snapshots result isLater
  · rename_i probe sources results suspects isPhase
    have observed := invariant.observed
    have within := invariant.suspects
    rw [isPhase] at observed within
    refine invariant.advance _ system.relay invariant.snapshots invariant.auths
      (fun source member => .inl (by rwa [isPhase])) ?_ (List.nil_subset _)
    intro result member
    rcases mem_updateResults member with isResult | isFound
    · exact observed result isResult
    · exact diagnose_obtained within result isFound
  · rename_i timestamp uuids sources results isPhase
    have observed := invariant.observed
    rw [isPhase] at observed
    have recorded := invariant.record results (by rwa [isPhase]) timestamp uuids
    exact { recorded with
      window := by simp [MonitorPhase.sources]
      observed := by simp [MonitorPhase.observations]
      suspects := List.nil_subset _ }
  · exact { invariant with
      snapshots := finishSnapshot_own invariant.snapshots undisturbed }
  · exact { invariant with auths := finishAuth_own invariant.auths }
  · rename_i cameraUuid credentials timestamp uuids _
    refine { invariant with unique := ?_, window := ?_ }
    · exact replaced_unique invariant.unique _ _ _ _ _
    · intro source member
      exact (undisturbed source member).trans (invariant.window source member)
  · exact { invariant with }
  · exact invariant

/-- What a step does to the tables: nothing, the operator's update, or one recording. -/
theorem monitorStep_effect (system : MonitorSystem) (action : MonitorAction) :
    ((monitorStep system action).repository = system.repository ∧
      (monitorStep system action).log = system.log) ∨
    (∃ cameraUuid credentials timestamp uuids,
      action = .replaceCameraCredentials cameraUuid credentials timestamp uuids) ∨
    ∃ results timestamp uuids,
      (monitorStep system action).repository =
        (system.record results timestamp uuids).repository ∧
      (monitorStep system action).log = (system.record results timestamp uuids).log := by
  unfold monitorStep
  split
  case h_3 timestamp uuids schedule sources cameraUuid rest isPhase =>
    rw [MonitorSystem.collectRetry]
    split
    · dsimp only
      split
      · exact .inr (.inr ⟨_, timestamp, uuids, rfl, rfl⟩)
      · exact .inl ⟨rfl, rfl⟩
    · exact .inl ⟨rfl, rfl⟩
  case h_5 schedule now source rest isPhase =>
    split
    · exact .inl ⟨rfl, rfl⟩
    · rw [MonitorSystem.claimRetry]
      split
      · exact .inl ⟨rfl, rfl⟩
      dsimp only
      split <;> exact .inl ⟨rfl, rfl⟩
  case h_14 timestamp uuids sources results isPhase =>
    exact .inr (.inr ⟨results, timestamp, uuids, rfl, rfl⟩)
  case h_17 =>
    rename_i cameraUuid credentials timestamp uuids
    exact .inr (.inl ⟨cameraUuid, credentials, timestamp, uuids, rfl⟩)
  all_goals exact .inl ⟨rfl, rfl⟩

abbrev MonitorRun (allowed : MonitorSystem → MonitorAction → Prop) (start : MonitorSystem) :
    MonitorSystem → Prop :=
  Reaches (fun system action next => next = monitorStep system action) allowed start

/-- A monitor that has just started. -/
structure MonitorStarted (system : MonitorSystem) : Prop where
  unique : Unique StreamRow.streamUuid system.repository.streams
  memory : system.memory = {}
  phase : system.phase = .idle
  log : system.log = []

omit [TextCase] [UrlText] in
theorem MonitorStarted.invariant {system : MonitorSystem} (started : MonitorStarted system) :
    MonitorInvariant system := by
  obtain ⟨unique, memory, phase, log⟩ := started
  refine ⟨unique, ?_, ?_, ?_, ?_, ?_, ?_⟩
  · simp [memory]
  · simp [memory]
  · simp [phase, MonitorPhase.sources]
  · simp [phase, MonitorPhase.observations]
  · simp [phase, MonitorPhase.suspects]
  · simp [log]

/-- In every undisturbed run each observation is recorded while the credentials it was obtained
with are stored, and only that, or the operator, changes the stored health. -/
theorem recorded_observations_current {start system : MonitorSystem}
    (started : MonitorStarted start) (run : MonitorRun Undisturbed start system) :
    (∀ entry ∈ system.log, entry.stored = some entry.observation.obtainedWith) ∧
    ∀ action, Undisturbed system action →
      (∀ cameraUuid credentials timestamp uuids,
        action ≠ .replaceCameraCredentials cameraUuid credentials timestamp uuids) →
      (∀ row ∈ system.repository.streams, row ∉ (monitorStep system action).repository.streams →
        ∃ entry ∈ (monitorStep system action).log, entry.observation.streamUuid =
          row.streamUuid ∧ storedCredentials system.repository row.streamUuid =
            some entry.observation.obtainedWith) ∧
      ((monitorStep system action).log = system.log →
        (monitorStep system action).repository = system.repository) := by
  have kept : ∀ {later}, MonitorRun Undisturbed start later → MonitorInvariant later := by
    intro later further
    apply further.invariant MonitorInvariant started.invariant
    rintro system action _ invariant undisturbed rfl
    exact monitorStep_invariant invariant undisturbed
  refine ⟨(kept run).log, ?_⟩
  intro action undisturbed notReplaced
  have later := (kept (run.step action undisturbed rfl)).log
  rcases monitorStep_effect system action with ⟨same, _⟩ | ⟨cameraUuid, credentials, timestamp,
    uuids, replaced⟩ | ⟨results, timestamp, uuids, recorded, logged⟩
  · exact ⟨fun row member gone => absurd (same ▸ member) gone, fun _ => same⟩
  · exact absurd replaced (notReplaced _ _ _ _)
  · constructor
    · intro row member gone
      rw [recorded] at gone
      have : ∃ result ∈ results, result.streamUuid = row.streamUuid := by
        by_contra outside
        push Not at outside
        exact gone (record_others member outside)
      obtain ⟨result, isResult, sameStream⟩ := this
      have isEntry : (⟨result, storedCredentials system.repository result.streamUuid⟩ :
          Recording) ∈ (monitorStep system action).log := by
        rw [logged]
        exact List.mem_append_right _ (List.mem_map.mpr ⟨result, isResult, rfl⟩)
      exact ⟨_, isEntry, sameStream, sameStream ▸ later _ isEntry⟩
    · intro unchanged
      have nothing : results = [] := by
        rw [logged, MonitorSystem.record] at unchanged
        simpa using unchanged
      rw [recorded, nothing]
      rfl

end

/-! The front door loses its video while a viewer is connected. -/

def frontDoorMonitored : MonitorSystem where
  tables := ⟨adoptedOnce, []⟩

/-- A cycle up to its diagnoses in which the main stream has a viewer but no video. -/
def videoLost : List MonitorAction :=
  [.authRetrySchedule 2, .readSources, .readRelay [⟨"stream_aaaaa", true, none⟩],
    .collectSnapshots, .submitSnapshots [], .collectAgain]

/-- The camera refuses the credentials of every source it is probed with. -/
def loginRefused : MonitorAction := .diagnose fun _ => .authFailed

/-- Two cycles; the second one asks for a diagnosis of the main stream. -/
def twoFailures : List MonitorAction :=
  .reconcileStreams :: videoLost ++ [loginRefused, .record 3 (uuidSupply 'b')] ++ videoLost

theorem frontDoor_started : MonitorStarted frontDoorMonitored := by
  let _ := asciiCase
  let _ := plainUrls
  exact ⟨(storageRun_schema adoptedOnce_run).streamIds, rfl, rfl, rfl⟩

/-- The second cycle runs undisturbed, so the rejection it records is of the stored login. -/
theorem rejected_login_current :
    let _ := asciiCase
    let _ := plainUrls
    let system := (twoFailures ++ [loginRefused, .record 5 (uuidSupply 'c')]).foldl monitorStep
      frontDoorMonitored
    system.log.map (fun entry => (entry.observation.status, entry.stored)) =
        [(.failed, some ⟨"viewer", "secret"⟩), (.authFailed, some ⟨"viewer", "secret"⟩)] ∧
      ∀ entry ∈ system.log, entry.stored = some entry.observation.obtainedWith := by
  have permitted :
      let _ := asciiCase
      let _ := plainUrls
      Permitted monitorStep Undisturbed frontDoorMonitored
        (twoFailures ++ [loginRefused, .record 5 (uuidSupply 'c')]) := by decide +kernel
  intro text urls system
  exact ⟨by decide +kernel,
    (recorded_observations_current frontDoor_started (Reaches.of_permitted permitted)).1⟩

/-- The operator replaces the credentials while the main stream is being diagnosed. -/
def loginReplaced : List MonitorAction :=
  twoFailures ++ [.replaceCameraCredentials "a" ⟨"viewer", "changed"⟩ 4 (uuidSupply 'c'),
    loginRefused]

/-- The rejection of the old login is recorded for the stream that has a new one. -/
theorem superseded_login_recorded :
    let _ := asciiCase
    let _ := plainUrls
    let before := loginReplaced.foldl monitorStep frontDoorMonitored
    let after := monitorStep before (.record 5 (uuidSupply 'd'))
    MonitorStarted frontDoorMonitored ∧
      MonitorRun (fun _ _ => True) frontDoorMonitored after ∧
      after.log = before.log ++ [⟨⟨"aaaaa", .authFailed, ⟨"viewer", "secret"⟩⟩,
        some ⟨"viewer", "changed"⟩⟩] ∧
      (before.repository.stream "aaaaa").map (·.healthStatus) = some .unknown ∧
      (after.repository.stream "aaaaa").map (·.healthStatus) = some .authFailed ∧
      after.repository.incidents.map (·.kind) = [.authenticationFailed] := by
  have log :
      let _ := asciiCase
      let _ := plainUrls
      let before := loginReplaced.foldl monitorStep frontDoorMonitored
      (monitorStep before (.record 5 (uuidSupply 'd'))).log = before.log ++
        [⟨⟨"aaaaa", .authFailed, ⟨"viewer", "secret"⟩⟩, some ⟨"viewer", "changed"⟩⟩] := by
    decide +kernel
  intro text urls before after
  have run : MonitorRun (fun _ _ => True) frontDoorMonitored before :=
    Reaches.of_permitted (by decide +kernel)
  exact ⟨frontDoor_started, run.step _ trivial rfl, log, by decide +kernel, by decide +kernel,
    by decide +kernel⟩

end CamAdmiral
