import CamAdmiral.StorageRuns

/-!
The health of a stream as a function of what happened to it. The calls leave marks on the
streams they name: a result of a probe, or a reset. A mark says nothing about the stored
counter and status; `StreamHealth` ties these to the marks.
-/

namespace CamAdmiral

inductive StreamMark
  | result (status : ProbeStatus)
  | reset
  deriving DecidableEq, Repr

/-- Results that count as failures: all but `ready` and `idle`. -/
def StreamMark.failing : StreamMark → Bool
  | .result .ready | .result .idle | .reset => false
  | .result .authFailed | .result .failed => true

/-- The failures since the last passing result or reset; the marks are in order of time. -/
def failureRun (marks : List StreamMark) : Nat :=
  (marks.reverse.takeWhile StreamMark.failing).length

/-- The last passing result since the last reset. -/
def lastPassing (marks : List StreamMark) : Option StreamMark :=
  (marks.reverse.takeWhile (· ≠ .reset)).find? fun mark => !mark.failing

structure StreamHealth (marks : List StreamMark) (stream : StreamRow) : Prop where
  failures : stream.consecutiveFailures = failureRun marks
  offline : stream.healthStatus = .offline → 3 ≤ stream.consecutiveFailures
  degraded : stream.healthStatus = .degraded → stream.consecutiveFailures = 2
  healthy : stream.healthStatus = .healthy → stream.consecutiveFailures ≤ 1
  unknown : stream.healthStatus = .unknown → stream.consecutiveFailures ≤ 1
  authFailed : stream.healthStatus = .authFailed → 1 ≤ stream.consecutiveFailures
  ready : stream.healthStatus = .healthy → lastPassing marks = some (.result .ready)

/-! One mark. -/

theorem failureRun_append (marks : List StreamMark) (mark : StreamMark) :
    failureRun (marks ++ [mark]) = if mark.failing then failureRun marks + 1 else 0 := by
  simp only [failureRun, List.reverse_append, List.reverse_singleton, List.singleton_append,
    List.takeWhile_cons]
  split <;> simp

theorem lastPassing_failing (marks : List StreamMark) {mark : StreamMark}
    (failing : mark.failing = true) : lastPassing (marks ++ [mark]) = lastPassing marks := by
  have notReset : mark ≠ .reset := by
    rintro rfl
    cases failing
  simp [lastPassing, notReset, failing]

theorem lastPassing_passing (marks : List StreamMark) {status : ProbeStatus}
    (passing : (StreamMark.result status).failing = false) :
    lastPassing (marks ++ [.result status]) = some (.result status) := by
  simp [lastPassing, passing]

/-- A stream whose counter and status were set back, or that was just stored. -/
def StreamRow.untried (stream : StreamRow) : Prop :=
  stream.healthStatus = .unknown ∧ stream.consecutiveFailures = 0

theorem pending_untried (stream : StreamRow) : stream.pending.untried := ⟨rfl, rfl⟩

theorem streamHealth_untried (marks : List StreamMark) {stream : StreamRow}
    (untried : stream.untried) (run : failureRun marks = 0) : StreamHealth marks stream := by
  obtain ⟨status, failures⟩ := untried
  constructor
  · rw [failures, run]
  all_goals
    intro isStatus
    rw [status] at isStatus
    first | omega | cases isStatus

/-- Resets, however many, leave an untried stream where it is. -/
theorem streamHealth_reset (earlier : List StreamMark) {resets : List StreamMark}
    (only : ∀ mark ∈ resets, mark = .reset) (someReset : resets ≠ []) {stream : StreamRow}
    (untried : stream.untried) : StreamHealth (earlier ++ resets) stream := by
  apply streamHealth_untried _ untried
  rw [← List.dropLast_append_getLast someReset, ← List.append_assoc, failureRun_append,
    only _ (List.getLast_mem someReset)]
  rfl

theorem StreamHealth.probed {marks : List StreamMark} {stream : StreamRow}
    (health : StreamHealth marks stream) (status : ProbeStatus) :
    StreamHealth (marks ++ [.result status]) (probedStream status stream) := by
  have run := failureRun_append marks (.result status)
  cases status with
  | ready =>
      have passed := @lastPassing_passing marks .ready rfl
      constructor <;> simp [probedStream, run, passed, StreamMark.failing]
  | idle => exact streamHealth_untried _ ⟨rfl, rfl⟩ run
  | authFailed =>
      constructor <;> simp [probedStream, run, StreamMark.failing, health.failures]
  | failed =>
      have passed := @lastPassing_failing marks (.result .failed) rfl
      have failures : (probedStream .failed stream).consecutiveFailures =
          stream.consecutiveFailures + 1 := rfl
      -- The first failure keeps a healthy stream healthy; the thresholds decide the others.
      have outcome : ((probedStream .failed stream).healthStatus = .offline ∧
            3 ≤ stream.consecutiveFailures + 1) ∨
          ((probedStream .failed stream).healthStatus = .degraded ∧
            stream.consecutiveFailures + 1 = 2) ∨
          ((probedStream .failed stream).healthStatus = .healthy ∧
            stream.consecutiveFailures + 1 ≤ 1 ∧ stream.healthStatus = .healthy) ∨
          ((probedStream .failed stream).healthStatus = .unknown ∧
            stream.consecutiveFailures + 1 ≤ 1) := by
        by_cases three : 3 ≤ stream.consecutiveFailures + 1
        · exact .inl ⟨by simp [probedStream, three], three⟩
        by_cases two : 2 ≤ stream.consecutiveFailures + 1
        · exact .inr (.inl ⟨by simp [probedStream, three, two], by omega⟩)
        by_cases wasHealthy : stream.healthStatus = .healthy
        · exact .inr (.inr (.inl ⟨by simp [probedStream, three, two, wasHealthy], by omega,
            wasHealthy⟩))
        · exact .inr (.inr (.inr ⟨by simp [probedStream, three, two, wasHealthy], by omega⟩))
      have counted : (probedStream .failed stream).consecutiveFailures =
          failureRun (marks ++ [.result .failed]) := by
        rw [failures, run, health.failures]
        rfl
      rcases outcome with ⟨status, bound⟩ | ⟨status, bound⟩ | ⟨status, bound, wasHealthy⟩ |
        ⟨status, bound⟩
      · constructor <;> simp [status, ← counted, failures]
        omega
      · constructor <;> simp [status, ← counted, failures]
        omega
      · have stillReady := passed.trans (health.ready wasHealthy)
        constructor <;> simp [status, ← counted, failures, stillReady]
        omega
      · constructor <;> simp [status, ← counted, failures]
        omega

/-! The marks of a call. -/

/-- The marks on one stream. -/
def marksOn (marks : List (String × StreamMark)) (streamUuid : String) : List StreamMark :=
  (marks.filter (·.1 = streamUuid)).map (·.2)

def resetsOf (streams : List StreamRow) : List (String × StreamMark) :=
  streams.map fun stream => (stream.streamUuid, .reset)

/-- The streams of the camera behind the tokens. -/
def streamsBehind (repository : Repository) (cameraUuid : String) (tokens : List String) :
    List StreamRow :=
  tokens.filterMap (streamAt repository cameraUuid)

/-- What a call that commits does to the streams it names: a result for every stored stream
it has a result of, a reset for the streams whose camera, credentials or source it renews. -/
def callMarks [TextCase] [UrlText] (before : Repository) (call : RepositoryCall) :
    List (String × StreamMark) :=
  match perform before call with
  | .error _ => []
  | .ok after =>
      match call.action with
      | .recordProbeResults results =>
          (results.filter fun result => (before.stream result.1).isSome).map fun result =>
            (result.1, .result result.2)
      | .replaceCameraCredentials cameraUuid _ _ =>
          resetsOf (before.streams.filter (·.cameraUuid = cameraUuid))
      | .updateProfileSources cameraUuid sources =>
          resetsOf (streamsBehind before cameraUuid (sources.map Prod.fst))
      | .adopt request =>
          resetsOf (streamsBehind after
            (adoptedUuid before request.candidateUuid (call.uuids 0))
            (request.profiles.map (·.token)))
      | _ => []

theorem marksOn_append (earlier later : List (String × StreamMark)) (streamUuid : String) :
    marksOn (earlier ++ later) streamUuid = marksOn earlier streamUuid ++
      marksOn later streamUuid := by
  simp [marksOn]

theorem marksOn_resetsOf (streams : List StreamRow) (streamUuid : String) :
    ∀ mark ∈ marksOn (resetsOf streams) streamUuid, mark = .reset := by
  intro mark member
  simp only [marksOn, resetsOf, List.mem_map, List.mem_filter] at member
  obtain ⟨_, ⟨⟨stream, _, rfl⟩, _⟩, rfl⟩ := member
  rfl

theorem marksOn_resetsOf_eq_nil {streams : List StreamRow} {streamUuid : String} :
    marksOn (resetsOf streams) streamUuid = [] ↔
      ∀ stream ∈ streams, stream.streamUuid ≠ streamUuid := by
  simp [marksOn, resetsOf, List.filter_eq_nil_iff]

/-- Every stream stands as its marks say. -/
def HealthMarked (marks : List (String × StreamMark)) (repository : Repository) : Prop :=
  ∀ stream ∈ repository.streams, StreamHealth (marksOn marks stream.streamUuid) stream

theorem StreamHealth.same {marks : List StreamMark} {old stream : StreamRow}
    (health : StreamHealth marks old) (status : stream.healthStatus = old.healthStatus)
    (failures : stream.consecutiveFailures = old.consecutiveFailures) :
    StreamHealth marks stream := by
  obtain ⟨counted, offline, degraded, healthy, unknown, authFailed, ready⟩ := health
  rw [← status, ← failures] at *
  exact ⟨counted, offline, degraded, healthy, unknown, authFailed, ready⟩

/-- Streams that a call neither stores nor resets. -/
theorem HealthMarked.unmarked {marks : List (String × StreamMark)} {before after : Repository}
    (marked : HealthMarked marks before)
    (same : ∀ stream ∈ after.streams, ∃ old ∈ before.streams,
      old.streamUuid = stream.streamUuid ∧ stream.healthStatus = old.healthStatus ∧
        stream.consecutiveFailures = old.consecutiveFailures) :
    HealthMarked (marks ++ []) after := by
  intro stream member
  obtain ⟨old, isOld, sameUuid, status, failures⟩ := same stream member
  rw [List.append_nil, ← sameUuid]
  exact (marked old isOld).same status failures

/-- Of the streams of a table that was there before, exactly those in `streams` are reset. -/
theorem HealthMarked.resets {marks : List (String × StreamMark)} {before after : Repository}
    (marked : HealthMarked marks before) (streams : List StreamRow)
    (each : ∀ stream ∈ after.streams,
      ((∃ reset ∈ streams, reset.streamUuid = stream.streamUuid) ∧ stream.untried) ∨
        (stream ∈ before.streams ∧ ∀ reset ∈ streams, reset.streamUuid ≠ stream.streamUuid)) :
    HealthMarked (marks ++ resetsOf streams) after := by
  intro stream member
  rw [marksOn_append]
  rcases each stream member with ⟨⟨reset, isReset, same⟩, untried⟩ | ⟨isOld, unmarked⟩
  · refine streamHealth_reset _ (marksOn_resetsOf streams _) ?_ untried
    rw [Ne, marksOn_resetsOf_eq_nil]
    exact fun none_ => none_ reset isReset same
  · rw [marksOn_resetsOf_eq_nil.mpr unmarked, List.append_nil]
    exact marked stream isOld

theorem HealthMarked.transition {marks : List (String × StreamMark)} {repository : Repository}
    (marked : HealthMarked marks repository) (cameraUuid : String) (timestamp : Nat)
    (fresh : String) :
    HealthMarked marks (recordCameraHealthTransition repository cameraUuid timestamp fresh) := by
  rw [HealthMarked, transition_streams]
  exact marked

theorem HealthMarked.storeProbeResults (results : List (String × ProbeStatus))
    {marks : List (String × StreamMark)} {repository : Repository}
    (marked : HealthMarked marks repository) (affected : List String) :
    HealthMarked
      (marks ++ (results.filter fun result => (repository.stream result.1).isSome).map
        fun result => (result.1, .result result.2))
      (storeProbeResults repository affected results).1 := by
  induction results generalizing marks repository affected with
  | nil => simpa [CamAdmiral.storeProbeResults] using marked
  | cons result rest ih =>
      obtain ⟨streamUuid, status⟩ := result
      cases found : repository.stream streamUuid with
      | none => simpa [CamAdmiral.storeProbeResults, found] using ih marked affected
      | some probed =>
          have sameUuid (row : StreamRow) :
              (if row.streamUuid = streamUuid then probedStream status row else row).streamUuid =
                row.streamUuid := by
            split <;> rfl
          let stored : Repository := { repository with
            streams := repository.streams.map fun row =>
              if row.streamUuid = streamUuid then probedStream status row else row }
          have next : HealthMarked (marks ++ [(streamUuid, .result status)]) stored := by
            intro stream member
            obtain ⟨row, isRow, rfl⟩ := List.mem_map.mp member
            have health := marked row isRow
            rw [sameUuid, marksOn_append]
            by_cases isProbed : row.streamUuid = streamUuid
            · simpa [isProbed, marksOn] using health.probed status
            · simpa [isProbed, marksOn, Ne.symm isProbed] using health
          have sameStreams (wanted : String) :
              (stored.stream wanted).isSome = (repository.stream wanted).isSome := by
            rw [Repository.stream, rowAt_map _ _ sameUuid, Option.isSome_map]
            rfl
          have later := ih next
            (if probed.cameraUuid ∈ affected then affected else affected ++ [probed.cameraUuid])
          simp only [sameStreams, List.append_assoc, List.singleton_append] at later
          simpa [CamAdmiral.storeProbeResults, found] using later

/-! Adoption. -/

/-- The stream that storing a profile names is untried. -/
theorem storeStream_untried {repository : Repository} {cameraUuid profileUuid : String}
    {custom : Bool} {fresh : String}
    (unused : ∀ row ∈ repository.streams, row.streamUuid ≠ fresh) :
    ∀ row ∈ (storeStream repository cameraUuid profileUuid custom fresh).1.streams,
      row.streamUuid = (storeStream repository cameraUuid profileUuid custom fresh).2 →
      row.untried := by
  intro row member named
  simp only [storeStream] at member named
  cases isStream : rowAt StreamRow.profileUuid repository.streams profileUuid with
  | some stream =>
      simp only [isStream] at member named
      obtain ⟨old, isOld, rfl⟩ := List.mem_map.mp member
      by_cases same : old.streamUuid = stream.streamUuid
      · rw [if_pos same]
        exact pending_untried old
      · rw [if_neg same] at named
        exact absurd named same
  | none =>
      simp only [isStream] at member named
      rcases List.mem_append.mp member with isOld | isNew
      · exact absurd named (unused row isOld)
      · obtain rfl := List.mem_singleton.mp isNew
        exact ⟨rfl, rfl⟩

section
variable [UrlText]

/-- The streams behind the stored tokens are untried. -/
theorem upsertProfiles_untried {cameraUuid : String} {custom : Bool} {uuids : Nat → String}
    {profiles : List ProfileInput} {repository after : Repository}
    {streamsByToken result : List (String × String)} {position : Nat}
    (distinct : Function.Injective uuids) (schema : Schema repository)
    (listed : ∃ camera ∈ repository.cameras, camera.cameraUuid = cameraUuid)
    (unused : UnusedFrom repository uuids position)
    (done : upsertProfiles repository cameraUuid custom uuids streamsByToken profiles position =
      some (after, result)) (visited : List String)
    (visitedUntried : ∀ token ∈ visited, ∀ stream,
      streamAt repository cameraUuid token = some stream → stream.untried) :
    ∀ token ∈ visited ++ profiles.map (·.token), ∀ stream,
      streamAt after cameraUuid token = some stream → stream.untried := by
  induction profiles generalizing repository streamsByToken position visited with
  | nil =>
      obtain ⟨rfl, _⟩ : repository = after ∧ streamsByToken = result := by
        simpa [upsertProfiles] using done
      simpa using visitedUntried
  | cons profile rest ih =>
      simp only [upsertProfiles, Option.bind_eq_bind, Option.bind_eq_some_iff] at done
      obtain ⟨source, _, later⟩ := done
      have stored := upsertProfile_stored schema listed profile source custom
        (unused.profiles position (by omega)) (unused.streams (position + 1) (by omega))
      have sameStreams := (storeProfile_same repository cameraUuid profile source
        (uuids position)).2
      have untried : ∀ row ∈ (upsertProfile repository cameraUuid profile source custom
            (uuids position) (uuids (position + 1))).1.streams,
          row.streamUuid = (upsertProfile repository cameraUuid profile source custom
            (uuids position) (uuids (position + 1))).2 → row.untried := by
        have unusedStream : ∀ row ∈ (storeProfile repository cameraUuid profile source
            (uuids position)).1.streams, row.streamUuid ≠ uuids (position + 1) := by
          rw [sameStreams]
          exact unused.streams (position + 1) (by omega)
        exact storeStream_untried unusedStream
      have tokens := ih stored.schema (by rwa [stored.same.cameras])
        (stored.unusedFrom distinct unused) later (visited ++ [profile.token]) (by
          intro token member stream found
          by_cases isToken : token = profile.token
          · subst isToken
            have named := stored.stream
            rw [found, Option.map_some, Option.some.injEq] at named
            exact untried stream (streamAt_some found).1 named
          · have isVisited : token ∈ visited := by simpa [isToken] using member
            rw [stored.upserted.others cameraUuid token (by simp [isToken])] at found
            exact visitedUntried token isVisited stream found)
      simpa using tokens

end

section
variable [TextCase] [UrlText]

theorem HealthMarked.adopt {marks : List (String × StreamMark)} {repository result : Repository}
    (marked : HealthMarked marks repository) (schema : Schema repository)
    {request : AdoptRequest} {timestamp : Nat} {uuids : Nat → String}
    (unused : UnusedUuids repository uuids)
    (done : adopt repository request timestamp uuids = .ok result) :
    HealthMarked (marks ++ resetsOf (streamsBehind result
      (adoptedUuid repository request.candidateUuid (uuids 0))
      (request.profiles.map (·.token)))) result := by
  obtain ⟨stored, streamsByToken, _, referenced, loop, isResult⟩ := adopt_statements done
  have start := prepared schema request unused referenced
  generalize adoptedUuid repository request.candidateUuid (uuids 0) = cameraUuid at *
  generalize pruneProfiles (deleteBindings (nameCamera repository request uuids) cameraUuid)
    cameraUuid (request.profiles.map (·.token)) = pruned at *
  have listed : ∃ row ∈ pruned.cameras, row.cameraUuid = cameraUuid := by
    obtain ⟨camera, isCamera, _⟩ := start.settings
    exact ⟨camera, rowAt_some isCamera⟩
  have unusedFrom : UnusedFrom pruned uuids 3 :=
    ⟨fun later _ row member => unused.profiles later row (start.profiles member),
      fun later _ row member => unused.streams later row (start.streams member)⟩
  obtain ⟨profiles, _, _⟩ := upsertProfiles_stored unused.distinct start.schema listed
    unusedFrom (fun token streamUuid found => by simp at found) loop
  have untried := upsertProfiles_untried unused.distinct start.schema listed unusedFrom loop
    [] (by simp)
  -- What follows the loop leaves profiles and streams as they are.
  obtain ⟨streams, at_⟩ : result.streams = stored.streams ∧
      ∀ token, streamAt result cameraUuid token = streamAt stored cameraUuid token := by
    obtain ⟨bindings, tables⟩ := bindRoles_tables stored cameraUuid
      (adoptedRoles (nameCamera repository request uuids) cameraUuid
        (adoptedCustom repository request.candidateUuid) request.roles) streamsByToken
    obtain ⟨events, incidents, transition⟩ := transition_tables
      { stored with bindings := bindings } cameraUuid timestamp (uuids 2)
    rw [isResult, tables, transition]
    exact ⟨rfl, fun _ => rfl⟩
  apply marked.resets
  intro stream member
  rw [streams] at member
  obtain ⟨token, found⟩ := profiles.schema.streamAt_of_mem member
  by_cases offered : stream.cameraUuid = cameraUuid ∧ token ∈ request.profiles.map (·.token)
  · obtain ⟨rfl, isToken⟩ := offered
    refine .inl ⟨⟨stream, ?_, rfl⟩, untried token (by simpa using isToken) stream found⟩
    exact List.mem_filterMap.mpr ⟨token, isToken, (at_ token).trans found⟩
  · refine .inr ⟨?_, ?_⟩
    · have earlier := profiles.upserted.others stream.cameraUuid token offered
      rw [found] at earlier
      exact start.streams (streamAt_some earlier.symm).1
    · intro reset isReset same
      obtain ⟨other, isOther, isStream⟩ := List.mem_filterMap.mp isReset
      rw [at_] at isStream
      have sameToken := profiles.schema.streamAt_injective isStream found same
      simp only [Prod.mk.injEq] at sameToken
      exact offered ⟨sameToken.1.symm, sameToken.2 ▸ isOther⟩

/-! The other calls. -/

omit [TextCase] [UrlText] in
theorem HealthMarked.replaceCameraCredentials {marks : List (String × StreamMark)}
    {repository : Repository} (marked : HealthMarked marks repository)
    (schema : Schema repository) (cameraUuid username password : String) (timestamp : Nat)
    (fresh : String) :
    HealthMarked (marks ++ resetsOf (repository.streams.filter (·.cameraUuid = cameraUuid)))
      (replaceCameraCredentials repository cameraUuid username password timestamp fresh).1 := by
  simp only [CamAdmiral.replaceCameraCredentials]
  cases known : repository.camera cameraUuid with
  | none =>
      have noStream : repository.streams.filter (·.cameraUuid = cameraUuid) = [] := by
        rw [List.filter_eq_nil_iff]
        intro stream member owned
        obtain ⟨profile, isProfile, _, sameCamera⟩ := schema.streamProfile stream member
        obtain ⟨camera, isCamera, same⟩ := schema.profileCamera profile isProfile
        exact rowAt_none.mp known camera isCamera
          ((same.trans sameCamera).trans (of_decide_eq_true owned))
      simpa [noStream, resetsOf] using marked
  | some camera =>
      apply HealthMarked.transition
      apply marked.resets
      intro stream member
      obtain ⟨row, isRow, rfl⟩ := List.mem_map.mp member
      by_cases owned : row.cameraUuid = cameraUuid
      · rw [if_pos owned]
        exact .inl ⟨⟨row, List.mem_filter.mpr ⟨isRow, decide_eq_true owned⟩, rfl⟩,
          pending_untried row⟩
      · rw [if_neg owned]
        refine .inr ⟨isRow, fun reset isReset same => ?_⟩
        obtain ⟨resetMember, resetOwned⟩ := List.mem_filter.mp isReset
        exact owned (schema.streamIds.eq resetMember isRow same ▸ of_decide_eq_true resetOwned)

omit [TextCase] in
theorem parsedSources_token {sources : List (String × String)}
    {parsed : List (String × String × SourceParts)} {token : String}
    (done : sources.mapM (fun source =>
      (sourceParts (some source.2)).map fun parts => (source.1, source.2, parts)) = some parsed) :
    (parsed.lookup token).isSome = true ↔ token ∈ sources.map Prod.fst := by
  induction sources generalizing parsed with
  | nil =>
      obtain rfl : [] = parsed := by simpa using done
      simp
  | cons source rest ih =>
      simp only [List.mapM_cons, Option.bind_eq_bind, Option.bind_eq_some_iff,
        Option.map_eq_some_iff, Option.pure_def, Option.some.injEq] at done
      obtain ⟨first, ⟨parts, _, rfl⟩, later, isLater, rfl⟩ := done
      rw [List.lookup_cons, List.map_cons, List.mem_cons, ← ih isLater]
      by_cases isToken : token = source.1
      · simp [isToken]
      · simp [isToken, beq_eq_false_iff_ne.mpr isToken]

omit [TextCase] in
theorem HealthMarked.saveSources {marks : List (String × StreamMark)}
    {repository : Repository} (marked : HealthMarked marks repository)
    (schema : Schema repository) (cameraUuid : String) {sources : List (String × String)}
    {parsed : List (String × String × SourceParts)}
    (done : sources.mapM (fun source =>
      (sourceParts (some source.2)).map fun parts => (source.1, source.2, parts)) = some parsed) :
    HealthMarked
      (marks ++ resetsOf (streamsBehind repository cameraUuid (sources.map Prod.fst)))
      (saveSources repository cameraUuid parsed) := by
  rw [saveSources_eq]
  apply marked.resets
  intro stream member
  obtain ⟨row, isRow, rfl⟩ := List.mem_map.mp member
  have sameProfile := sourcedProfile_same cameraUuid parsed
  by_cases sourced : ∃ token ∈ sources.map Prod.fst,
      streamAt repository cameraUuid token = some row
  · obtain ⟨token, isToken, found⟩ := sourced
    obtain ⟨_, profile, isProfile, key, owns⟩ := streamAt_some found
    have changed : sourcedStream cameraUuid parsed
        (repository.profiles.map (sourcedProfile cameraUuid parsed)) row = row.pending := by
      refine if_pos ?_
      rw [Bool.and_eq_true, decide_eq_true_eq, List.any_eq_true]
      refine ⟨schema.streamAt_camera found, sourcedProfile cameraUuid parsed profile,
        List.mem_map_of_mem isProfile, ?_⟩
      have sameKey := (sameProfile profile).1.trans key
      simp only [ProfileRow.key, Prod.mk.injEq] at sameKey
      simp only [(sameProfile profile).2, owns, sameKey, decide_true, Bool.true_and]
      exact (parsedSources_token done).mpr isToken
    rw [changed]
    exact .inl ⟨⟨row, List.mem_filterMap.mpr ⟨token, isToken, found⟩, rfl⟩, pending_untried row⟩
  · have unchanged : sourcedStream cameraUuid parsed
        (repository.profiles.map (sourcedProfile cameraUuid parsed)) row = row := by
      refine if_neg ?_
      rw [Bool.and_eq_true, decide_eq_true_eq, List.any_eq_true]
      rintro ⟨owned, changed, isChanged, names⟩
      obtain ⟨profile, isProfile, rfl⟩ := List.mem_map.mp isChanged
      simp only [Bool.and_eq_true, decide_eq_true_eq] at names
      obtain ⟨⟨owns, camera⟩, listed⟩ := names
      have key := (sameProfile profile).1
      simp only [ProfileRow.key, Prod.mk.injEq] at key
      rw [key.2, parsedSources_token done] at listed
      refine sourced ⟨profile.profileToken, listed, ?_⟩
      have atKey : rowAt ProfileRow.key repository.profiles (cameraUuid, profile.profileToken) =
          some profile := by
        rw [← camera, key.1]
        exact schema.profileKeys.rowAt_eq isProfile
      rw [streamAt, atKey, Option.bind_some, ← (sameProfile profile).2, owns]
      exact schema.streamProfiles.rowAt_eq isRow
    rw [unchanged]
    refine .inr ⟨isRow, fun reset isReset same => ?_⟩
    obtain ⟨token, isToken, found⟩ := List.mem_filterMap.mp isReset
    obtain rfl := schema.streamIds.eq (streamAt_some found).1 isRow same
    exact sourced ⟨token, isToken, found⟩

theorem HealthMarked.perform {marks : List (String × StreamMark)} {before after : Repository}
    {call : RepositoryCall} (marked : HealthMarked marks before) (schema : Schema before)
    (unused : UnusedUuids before call.uuids) (done : perform before call = .ok after) :
    HealthMarked (marks ++ callMarks before call) after := by
  simp only [callMarks, done]
  obtain ⟨action, timestamp, uuids⟩ := call
  cases action with
  | adopt request => exact marked.adopt schema unused done
  | setStreamSettings cameraUuid enabled roles =>
      simp only [CamAdmiral.perform, setStreamSettings] at done
      split at done
      · cases done
      split at done
      · cases done
      split at done
      · split at done
        · obtain rfl := Except.ok.inj done
          apply marked.unmarked
          intro stream member
          rw [transition_streams] at member
          obtain ⟨row, isRow, rfl⟩ := List.mem_map.mp member
          refine ⟨row, isRow, ?_⟩
          split <;> exact ⟨rfl, rfl, rfl⟩
        · cases done
      · cases done
  | setCameraEnabled cameraUuid enabled =>
      obtain rfl := Except.ok.inj done
      apply marked.unmarked
      intro stream member
      refine ⟨stream, ?_, rfl, rfl, rfl⟩
      simp only [setCameraEnabled] at member
      split at member
      · exact member
      · rwa [transition_streams] at member
  | replaceCameraCredentials cameraUuid username password =>
      obtain rfl := Except.ok.inj done
      exact marked.replaceCameraCredentials schema cameraUuid username password timestamp _
  | updateProfileSources cameraUuid sources =>
      simp only [CamAdmiral.perform, updateProfileSources] at done
      split at done
      · rename_i nothing
        obtain rfl := Except.ok.inj done
        obtain rfl : sources = [] := List.isEmpty_iff.mp nothing
        simpa [streamsBehind, resetsOf] using marked
      split at done
      · cases done
      split at done
      · cases done
      · rename_i parsed isParsed
        obtain rfl := Except.ok.inj done
        exact (marked.saveSources schema cameraUuid isParsed).transition _ _ _
  | recordProbeResults results =>
      obtain rfl := Except.ok.inj done
      have stored := marked.storeProbeResults results []
      simp only [HealthMarked, recordProbeResults, transitions_streams]
      exact stored
  | unadoptCamera cameraUuid =>
      simp only [CamAdmiral.perform, unadoptCamera, pure, Except.pure, throw, throwThe,
        MonadExceptOf.throw] at done
      apply marked.unmarked
      intro stream member
      refine ⟨stream, ?_, rfl, rfl, rfl⟩
      split at done
      · obtain rfl := Except.ok.inj done
        exact member
      split at done
      · cases done
      split at done
      · cases done
      · obtain rfl := Except.ok.inj done
        have owned := (List.mem_filter.mp member).1
        exact (List.mem_filter.mp owned).1
  | setFrigateStreams rows =>
      simp only [CamAdmiral.perform, setFrigateStreams] at done
      apply marked.unmarked
      intro stream member
      refine ⟨stream, ?_, rfl, rfl, rfl⟩
      split at done
      · obtain rfl := Except.ok.inj done
        exact member
      · cases done

/-! Runs. -/

/-- A history with the marks its calls left, in order of time. -/
structure MarkedHistory where
  history : StorageHistory := {}
  marks : List (String × StreamMark) := []

def MarkedHistory.call (marked : MarkedHistory) (call : RepositoryCall) : MarkedHistory :=
  { history := marked.history.call call
    marks := marked.marks ++ callMarks marked.history.repository call }

abbrev MarkedRun (start : MarkedHistory) : MarkedHistory → Prop :=
  Reaches (fun marked call next => next = marked.call call)
    (fun marked call => FreshCall marked.history call) start

theorem stream_health_determined {marked : MarkedHistory} (run : MarkedRun {} marked)
    {stream : StreamRow} (stored : stream ∈ marked.history.repository.streams) :
    StreamHealth (marksOn marked.marks stream.streamUuid) stream := by
  suffices invariant : Schema marked.history.repository ∧
      HealthMarked marked.marks marked.history.repository from invariant.2 stream stored
  apply run.invariant (fun marked => Schema marked.history.repository ∧
    HealthMarked marked.marks marked.history.repository)
  · exact ⟨schema_empty, by simp [HealthMarked]⟩
  rintro before call _ ⟨schema, earlier⟩ fresh rfl
  refine ⟨schema_call schema fresh, ?_⟩
  simp only [MarkedHistory.call, StorageHistory.call, commit]
  cases done : perform before.history.repository call with
  | ok next => exact earlier.perform schema fresh.unused done
  | error problem => simpa [callMarks, done] using earlier

end

/-- The main stream of the front door: ready, then three failures. -/
theorem front_door_marked :
    let _ := asciiCase
    let _ := plainUrls
    let probed (letter : Char) (timestamp : Nat) (status : ProbeStatus) : RepositoryCall :=
      ⟨.recordProbeResults [("aaaaa", status)], timestamp, uuidSupply letter⟩
    let marked := [⟨.adopt frontDoor, 1, uuidSupply 'a'⟩, probed 'b' 2 .ready,
      probed 'c' 3 .failed, probed 'd' 4 .authFailed, probed 'e' 5 .failed].foldl
      MarkedHistory.call {}
    marksOn marked.marks "aaaaa" = [.reset, .result .ready, .result .failed, .result .authFailed,
        .result .failed] ∧
      ∃ stream ∈ marked.history.repository.streams, stream.streamUuid = "aaaaa" ∧
        stream.healthStatus = .offline ∧
        StreamHealth (marksOn marked.marks "aaaaa") stream := by
  intro _ _ probed marked
  have run : MarkedRun {} marked := by
    apply Reaches.of_permitted
    refine ⟨?_, ?_, ?_, ?_, ?_, trivial⟩
    all_goals exact freshCall_uuidSupply _ (by decide +kernel) (by decide)
  obtain ⟨stream, found⟩ : ∃ stream, marked.history.repository.stream "aaaaa" = some stream :=
    Option.isSome_iff_exists.mp (by decide +kernel)
  obtain ⟨member, same⟩ := rowAt_some found
  have offline : (marked.history.repository.stream "aaaaa").map (·.healthStatus) =
      some .offline := by decide +kernel
  rw [found] at offline
  refine ⟨by decide +kernel, stream, member, same, by simpa using offline, ?_⟩
  rw [← same]
  exact stream_health_determined run member

end CamAdmiral
