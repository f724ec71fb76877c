import CamAdmiral.MediaCore

/-!
How long a rejected login stays recorded. A stream whose health is `auth_failed` is checked
again on a backoff of its own, which every other prober should leave alone.
-/

namespace CamAdmiral

def AuthSystem.retry (system : AuthSystem) (streamUuid : String) : Option AuthRetryRow :=
  rowAt AuthRetryRow.streamUuid system.retries streamUuid

/-- The stored row of the stream says that its camera rejects the credentials. -/
def FailingRow (repository : Repository) (stream row : StreamRow) : Prop :=
  row ∈ repository.streams ∧ row.streamUuid = stream.streamUuid ∧
    row.cameraUuid = stream.cameraUuid ∧ row.healthStatus = .authFailed

def Failing (repository : Repository) (stream : StreamRow) : Prop :=
  ∃ row, FailingRow repository stream row

/-- A decoded frame, new credentials, new sources or another adoption of the camera; or the
camera goes, and the stream with it. -/
def Leaves (stream : StreamRow) (system : AuthSystem) : AuthAction → Prop
  | .call call =>
      match call.action with
      | .recordProbeResults results => (stream.streamUuid, .ready) ∈ results
      | .replaceCameraCredentials cameraUuid _ _ => cameraUuid = stream.cameraUuid
      | .updateProfileSources cameraUuid _ => cameraUuid = stream.cameraUuid
      | .adopt request =>
          cameraOf system.history.repository request.candidateUuid = some stream.cameraUuid
      | .unadoptCamera cameraUuid => cameraUuid = stream.cameraUuid
      | _ => False
  | _ => False

/-- The operator turns the stream off. -/
def Disables (stream : StreamRow) : AuthAction → Prop
  | .call call =>
      match call.action with
      | .setStreamSettings cameraUuid enabled _ =>
          cameraUuid = stream.cameraUuid ∧ stream.streamUuid ∉ enabled
      | _ => False
  | _ => False

/-! The table of streams. -/

theorem SameCamera.mem_streams {before after : Repository} {cameraUuid : String}
    (same : SameCamera before after cameraUuid) {row : StreamRow} (member : row ∈ before.streams)
    (owned : row.cameraUuid = cameraUuid) : row ∈ after.streams := by
  have listed : row ∈ before.streams.filter fun row => row.cameraUuid = cameraUuid :=
    List.mem_filter.mpr ⟨member, decide_eq_true owned⟩
  rw [← same.streams] at listed
  exact (List.mem_filter.mp listed).1

/-- A call on one other camera. -/
theorem otherCamera_streams {before after : Repository} {cameraUuid fresh : String}
    {timestamp : Nat} (effect : after = before ∨ ∃ changed, Touches before changed [cameraUuid] ∧
      SameSettings before changed ∧
      after = recordCameraHealthTransition changed cameraUuid timestamp fresh)
    {row : StreamRow} (member : row ∈ before.streams) (other : cameraUuid ≠ row.cameraUuid) :
    row ∈ after.streams := by
  rcases effect with rfl | ⟨changed, touches, _, rfl⟩
  · exact member
  · rw [transition_streams]
    exact (touches.others row.cameraUuid (by simp [Ne.symm other])).mem_streams member rfl

theorem storeProbeResults_failing {stream : StreamRow} (results : List (String × ProbeStatus))
    (rejected : ∀ status, (stream.streamUuid, status) ∈ results → status = .authFailed)
    {repository : Repository} (affected : List String) {row : StreamRow}
    (failing : FailingRow repository stream row) :
    ∃ kept, FailingRow (storeProbeResults repository affected results).1 stream kept ∧
      kept.enabled = row.enabled := by
  induction results generalizing repository affected row with
  | nil => exact ⟨row, failing, rfl⟩
  | cons result rest ih =>
      obtain ⟨streamUuid, status⟩ := result
      have later : ∀ status, (stream.streamUuid, status) ∈ rest → status = .authFailed :=
        fun status member => rejected status (List.mem_cons_of_mem _ member)
      simp only [storeProbeResults]
      split
      · exact ih later affected failing
      · obtain ⟨member, sameUuid, sameCamera, failed⟩ := failing
        let probed : StreamRow :=
          if row.streamUuid = streamUuid then probedStream status row else row
        have still : FailingRow { repository with
            streams := repository.streams.map fun row =>
              if row.streamUuid = streamUuid then probedStream status row else row }
              stream probed := by
          refine ⟨List.mem_map_of_mem member, ?_⟩
          by_cases isRow : row.streamUuid = streamUuid
          · obtain rfl : status = .authFailed :=
              rejected status (by simp [← isRow, sameUuid])
            simp [probed, isRow, probedStream, ← sameUuid, sameCamera]
          · simp only [probed, if_neg isRow]
            exact ⟨sameUuid, sameCamera, failed⟩
        obtain ⟨kept, isKept, sameEnabled⟩ := ih later _ still
        refine ⟨kept, isKept, sameEnabled.trans ?_⟩
        simp only [probed]
        split <;> rfl

section
variable [TextCase] [UrlText]

/-- Only the calls that may end a failure, and probes with another result, change the row. -/
theorem perform_failing {history : StorageHistory} {call : RepositoryCall} {after : Repository}
    (schema : Schema history.repository) (fresh : FreshCall history call)
    {stream row : StreamRow} (failing : FailingRow history.repository stream row)
    {retries : List AuthRetryRow} (stays : ¬ Leaves stream ⟨history, retries⟩ (.call call))
    (rejected : ∀ results, call.action = .recordProbeResults results →
      ∀ status, (stream.streamUuid, status) ∈ results → status = .authFailed)
    (done : perform history.repository call = .ok after) :
    ∃ kept, FailingRow after stream kept ∧
      (row.enabled = true → ¬ Disables stream (.call call) → kept.enabled = true) := by
  have unmoved {cameraUuid : String} {timestamp : Nat} {uuid : String}
      (effect : after = history.repository ∨ ∃ changed,
        Touches history.repository changed [cameraUuid] ∧
        SameSettings history.repository changed ∧
        after = recordCameraHealthTransition changed cameraUuid timestamp uuid)
      (other : cameraUuid ≠ stream.cameraUuid) :
      ∃ kept, FailingRow after stream kept ∧
        (row.enabled = true → ¬ Disables stream (.call call) → kept.enabled = true) := by
    obtain ⟨member, sameUuid, sameCamera, failed⟩ := failing
    exact ⟨row, ⟨otherCamera_streams effect member (by rwa [sameCamera]), sameUuid, sameCamera,
      failed⟩, fun enabled _ => enabled⟩
  obtain ⟨action, timestamp, uuids⟩ := call
  cases action with
  | adopt request =>
      obtain ⟨changed, adopted, rfl⟩ := adopt_adopted schema fresh.unused done
      have other : adoptedUuid history.repository request.candidateUuid (uuids 0) ≠
          stream.cameraUuid := by
        obtain ⟨member, _, sameCamera, _⟩ := failing
        intro same
        rw [adoptedUuid] at same
        cases known : cameraOf history.repository request.candidateUuid with
        | some cameraUuid =>
            rw [known, Option.getD_some] at same
            exact stays (by simp only [Leaves, known, same])
        | none =>
            rw [known, Option.getD_none] at same
            obtain ⟨profile, isProfile, _, owns⟩ := schema.streamProfile row member
            obtain ⟨camera, isCamera, isOwner⟩ := schema.profileCamera profile isProfile
            exact fresh.unused.cameras 0 camera isCamera
              (isOwner.trans (owns.trans (sameCamera.trans same.symm)))
      obtain ⟨member, sameUuid, sameCamera, failed⟩ := failing
      refine ⟨row, ⟨?_, sameUuid, sameCamera, failed⟩, fun enabled _ => enabled⟩
      rw [transition_streams]
      exact (adopted.others _ other).mem_streams member sameCamera
  | setStreamSettings cameraUuid enabled roles =>
      obtain ⟨changed, chosen, _, isChosen, rfl⟩ := setStreamSettings_effect schema done
      obtain ⟨member, sameUuid, sameCamera, failed⟩ := failing
      obtain ⟨token, found⟩ := schema.streamAt_of_mem member
      have moved := isChosen.streams row.cameraUuid token
      rw [found, Option.map_some] at moved
      refine ⟨if row.cameraUuid = cameraUuid then
        { row with enabled := decide (row.streamUuid ∈ enabled) } else row, ⟨?_, ?_, ?_, ?_⟩, ?_⟩
      · rw [transition_streams]
        exact (streamAt_some moved).1
      · split <;> exact sameUuid
      · split <;> exact sameCamera
      · split <;> exact failed
      · intro wasEnabled notDisabled
        split
        · rename_i isCamera
          simp only [Disables, not_and, not_not] at notDisabled
          rw [decide_eq_true_eq, sameUuid]
          exact notDisabled (isCamera.symm.trans sameCamera)
        · exact wasEnabled
  | setCameraEnabled cameraUuid enabled =>
      obtain rfl := Except.ok.inj done
      refine ⟨row, ?_, fun enabled _ => enabled⟩
      simp only [setCameraEnabled]
      split
      · exact failing
      · simp only [FailingRow, transition_streams]
        exact failing
  | replaceCameraCredentials cameraUuid username password =>
      obtain rfl := Except.ok.inj done
      exact unmoved (replaceCameraCredentials_effect schema cameraUuid username password _ _)
        (by simpa [Leaves] using stays)
  | updateProfileSources cameraUuid sources =>
      exact unmoved (updateProfileSources_effect schema done) (by simpa [Leaves] using stays)
  | recordProbeResults results =>
      obtain rfl := Except.ok.inj done
      obtain ⟨kept, isKept, sameEnabled⟩ :=
        storeProbeResults_failing results (rejected results rfl) [] failing
      refine ⟨kept, ?_, fun enabled _ => sameEnabled.trans enabled⟩
      simp only [recordProbeResults, FailingRow, transitions_streams]
      exact isKept
  | unadoptCamera cameraUuid =>
      have other : stream.cameraUuid ≠ cameraUuid := by
        simpa [Leaves, eq_comm] using stays
      simp only [perform] at done
      cases deleted : unadoptCamera history.repository cameraUuid with
      | error problem => simp [deleted, Except.map] at done
      | ok result =>
          obtain ⟨remaining, existed⟩ := result
          obtain rfl : remaining = after := by simpa [deleted, Except.map] using done
          obtain ⟨member, sameUuid, sameCamera, failed⟩ := failing
          refine ⟨row, ⟨?_, sameUuid, sameCamera, failed⟩, fun enabled _ => enabled⟩
          rcases unadoptCamera_effect schema deleted with rfl | removed
          · exact member
          · exact (removed.others _ other).mem_streams member sameCamera
  | setFrigateStreams rows =>
      simp only [perform, setFrigateStreams] at done
      split at done
      · obtain rfl := Except.ok.inj done
        exact ⟨row, failing, fun enabled _ => enabled⟩
      · cases done

/-- A call leaves the row where it is, whether it commits or not. -/
theorem call_failing {history : StorageHistory} {call : RepositoryCall}
    (schema : Schema history.repository) (fresh : FreshCall history call)
    {stream row : StreamRow} (failing : FailingRow history.repository stream row)
    {retries : List AuthRetryRow} (stays : ¬ Leaves stream ⟨history, retries⟩ (.call call))
    (rejected : ∀ results, call.action = .recordProbeResults results →
      ∀ status, (stream.streamUuid, status) ∈ results → status = .authFailed) :
    ∃ kept, FailingRow (history.call call).repository stream kept ∧
      (row.enabled = true → ¬ Disables stream (.call call) → kept.enabled = true) := by
  simp only [StorageHistory.call, commit]
  split
  · rename_i after done
    exact perform_failing schema fresh failing stays rejected done
  · exact ⟨row, failing, fun enabled _ => enabled⟩

end

/-! The backoff table. -/

theorem enrolAuthRetry_kept {retries : List AuthRetryRow} {streamUuid : String}
    {row : AuthRetryRow} (found : rowAt AuthRetryRow.streamUuid retries streamUuid = some row)
    (other : String) (nextAttempt : Nat) :
    rowAt AuthRetryRow.streamUuid (enrolAuthRetry retries other nextAttempt) streamUuid =
      some row := by
  rw [enrolAuthRetry]
  split
  · exact found
  · rw [rowAt_append, found]
    rfl

theorem recordAuthRetries_kept {repository : Repository} {now : Nat} {streamUuid : String}
    {row : AuthRetryRow} (results : List (String × ProbeStatus))
    (rejected : (streamUuid, .ready) ∉ results) {retries : List AuthRetryRow}
    (found : rowAt AuthRetryRow.streamUuid retries streamUuid = some row) :
    rowAt AuthRetryRow.streamUuid (results.foldl (recordAuthRetry repository now) retries)
      streamUuid = some row := by
  induction results generalizing retries with
  | nil => exact found
  | cons result rest ih =>
      obtain ⟨other, status⟩ := result
      refine ih (fun member => rejected (List.mem_cons_of_mem _ member)) ?_
      rw [recordAuthRetry]
      split
      · exact found
      split
      · exact enrolAuthRetry_kept found _ _
      split
      · rename_i isReady
        have differs : streamUuid ≠ other := by
          rintro rfl
          exact rejected (by simp [← show status = .ready from isReady])
        rw [rowAt_filter_key retries (fun key => decide (key ≠ other)) (by simpa)]
        exact found
      · exact found

theorem authRetrySchedule_kept {repository : Repository} (schema : Schema repository)
    {stream failed : StreamRow} (failing : FailingRow repository stream failed)
    (enabled : failed.enabled = true) {retries : List AuthRetryRow} {row : AuthRetryRow}
    (found : rowAt AuthRetryRow.streamUuid retries stream.streamUuid = some row) (now : Nat) :
    rowAt AuthRetryRow.streamUuid (authRetrySchedule repository retries now)
      stream.streamUuid = some row := by
  obtain ⟨member, sameUuid, _, isFailed⟩ := failing
  have enrolled (streams : List StreamRow) {rows : List AuthRetryRow}
      (isFound : rowAt AuthRetryRow.streamUuid rows stream.streamUuid = some row) :
      rowAt AuthRetryRow.streamUuid
        (streams.foldl (fun rows stream => enrolAuthRetry rows stream.streamUuid (now + 60))
          rows) stream.streamUuid = some row := by
    induction streams generalizing rows with
    | nil => exact isFound
    | cons first rest ih => exact ih (enrolAuthRetry_kept isFound _ _)
  apply enrolled
  rw [rowAt_filter_key retries (fun key => !repository.streams.any fun other =>
    decide (other.streamUuid = key) && (decide (other.healthStatus ≠ .authFailed) ||
      !other.enabled))]
  · exact found
  · simp only [Bool.not_eq_true', List.any_eq_false, Bool.and_eq_true, decide_eq_true_eq,
      not_and]
    intro other isOther same
    obtain rfl := schema.streamIds.eq isOther member (same.trans sameUuid.symm)
    simp [isFailed, enabled]

theorem claimAuthRetry_row {retries : List AuthRetryRow} {streamUuid : String}
    {row : AuthRetryRow} (found : rowAt AuthRetryRow.streamUuid retries streamUuid = some row)
    (claimed : String) (now : Nat) :
    rowAt AuthRetryRow.streamUuid (claimAuthRetry retries claimed now).1 streamUuid = some row ∨
      claimed = streamUuid ∧ row.nextAttempt ≤ now ∧
        rowAt AuthRetryRow.streamUuid (claimAuthRetry retries claimed now).1 streamUuid =
          some (row.claimed now) := by
  rw [claimAuthRetry]
  split
  · exact .inl found
  · rename_i other isOther
    split
    · rename_i isDue
      dsimp only
      rw [rowAt_updateRow retries (·.claimed now) (fun _ => rfl), found, Option.map_some]
      by_cases same : streamUuid = claimed
      · subst same
        rw [found, Option.some.injEq] at isOther
        subst isOther
        exact .inr ⟨rfl, isDue, if_pos rfl⟩
      · exact .inl (if_neg same)
    · exact .inl found

/-! Runs. -/

section
variable [TextCase] [UrlText]

def AuthFresh (system : AuthSystem) : AuthAction → Prop
  | .call call => FreshCall system.history call
  | _ => True

/-- No result but `ready` or another rejection is recorded for a stream whose health is
`auth_failed`. -/
def SparesFailures (system : AuthSystem) : AuthAction → Prop
  | .call call => ∀ results, call.action = .recordProbeResults results →
      ∀ stream ∈ system.history.repository.streams, stream.healthStatus = .authFailed →
        ∀ status, (stream.streamUuid, status) ∈ results →
          status = .ready ∨ status = .authFailed
  | _ => True

abbrev AuthRun (allowed : AuthSystem → AuthAction → Prop) (start : AuthSystem) :
    AuthSystem → Prop :=
  Reaches (fun system action next => next = authStep system action) allowed start

theorem authStep_schema {system : AuthSystem} {action : AuthAction}
    (schema : Schema system.history.repository) (fresh : AuthFresh system action) :
    Schema (authStep system action).history.repository := by
  cases action with
  | call call => exact schema_call schema fresh
  | authRetrySchedule now => exact schema
  | claimAuthRetry streamUuid now => exact schema

/-- One step: the failure stays, and the attempts of an enabled stream change by a claim of
that stream only. -/
theorem authStep_failing {system : AuthSystem} {action : AuthAction}
    (schema : Schema system.history.repository) (fresh : AuthFresh system action)
    (spares : SparesFailures system action) {stream row : StreamRow}
    (failing : FailingRow system.history.repository stream row)
    (stays : ¬ Leaves stream system action) :
    ∃ kept, FailingRow (authStep system action).history.repository stream kept ∧
      (row.enabled = true → ¬ Disables stream action → kept.enabled = true ∧
        ∀ retry, system.retry stream.streamUuid = some retry →
          (authStep system action).retry stream.streamUuid = some retry ∨
            ∃ now, action = .claimAuthRetry stream.streamUuid now ∧ retry.nextAttempt ≤ now ∧
              (authStep system action).retry stream.streamUuid = some (retry.claimed now)) := by
  cases action with
  | call call =>
      have rejected : ∀ results, call.action = .recordProbeResults results →
          ∀ status, (stream.streamUuid, status) ∈ results → status = .authFailed := by
        intro results isRecord status member
        rw [← failing.2.1] at member
        rcases spares results isRecord row failing.1 failing.2.2.2 status member with rfl | rfl
        · rw [failing.2.1] at member
          exact absurd (by simpa only [Leaves, isRecord] using member) stays
        · rfl
      obtain ⟨kept, isKept, enabledKept⟩ := call_failing schema fresh failing stays rejected
      refine ⟨kept, isKept, fun enabled notDisabled => ⟨enabledKept enabled notDisabled, ?_⟩⟩
      intro retry found
      refine .inl ?_
      have listed : ((system.history.call call).repository.stream stream.streamUuid).isSome := by
        obtain ⟨found, isFound⟩ : ∃ found, rowAt StreamRow.streamUuid
            (system.history.call call).repository.streams kept.streamUuid = some found :=
          rowAt_isSome isKept.1
        rw [Repository.stream, ← isKept.2.1, isFound]
        rfl
      simp only [AuthSystem.retry, authStep, AuthSystem.call]
      rw [rowAt_filter_key _ (fun key =>
        ((system.history.call call).repository.stream key).isSome) listed]
      split
      · rename_i results isRecord
        refine recordAuthRetries_kept results ?_ found
        intro isReady
        exact stays (by simpa only [Leaves, isRecord] using isReady)
      · exact found
  | authRetrySchedule now =>
      exact ⟨row, failing, fun enabled _ => ⟨enabled, fun retry found =>
        .inl (authRetrySchedule_kept schema failing enabled found now)⟩⟩
  | claimAuthRetry streamUuid now =>
      refine ⟨row, failing, fun enabled _ => ⟨enabled, fun retry found => ?_⟩⟩
      rcases claimAuthRetry_row found streamUuid now with same | ⟨rfl, isDue, claimed⟩
      · exact .inl same
      · exact .inr ⟨now, rfl, isDue, claimed⟩

theorem authRun_schema {allowed : AuthSystem → AuthAction → Prop}
    (fresh : ∀ system action, allowed system action → AuthFresh system action)
    {start system : AuthSystem} (schema : Schema start.history.repository)
    (run : AuthRun allowed start system) : Schema system.history.repository := by
  apply run.invariant (fun system => Schema system.history.repository) schema
  rintro system action _ schema permitted rfl
  exact authStep_schema schema (fresh system action permitted)

/-- The steps that record no other result for a failed stream. -/
def Sparing (system : AuthSystem) (action : AuthAction) : Prop :=
  AuthFresh system action ∧ SparesFailures system action

/-- The steps among them that do not end the failure of this stream. -/
def Staying (stream : StreamRow) (system : AuthSystem) (action : AuthAction) : Prop :=
  Sparing system action ∧ ¬ Leaves stream system action

/-- A successful claim is what moves a stored attempt. -/
def ClaimedFrom (before after : AuthRetryRow) : Prop :=
  ∃ now, before.nextAttempt ≤ now ∧ after = before.claimed now

theorem staying_failing {start later : AuthSystem} (schema : Schema start.history.repository)
    {stream : StreamRow} (failing : Failing start.history.repository stream)
    (run : AuthRun (Staying stream) start later) : Failing later.history.repository stream := by
  have kept : Schema later.history.repository ∧ Failing later.history.repository stream := by
    apply run.invariant (fun system =>
      Schema system.history.repository ∧ Failing system.history.repository stream)
      ⟨schema, failing⟩
    rintro system action _ ⟨schema, row, failing⟩ ⟨⟨fresh, spares⟩, stays⟩ rfl
    obtain ⟨kept, isKept, _⟩ := authStep_failing schema fresh spares failing stays
    exact ⟨authStep_schema schema fresh, kept, isKept⟩
  exact kept.2

/-- Along steps that leave the stream enabled, `Kept` holds of its stored attempt once claims
of the stream keep it. -/
theorem staying_retry {start later : AuthSystem} (schema : Schema start.history.repository)
    {stream row : StreamRow} (failing : FailingRow start.history.repository stream row)
    (enabled : row.enabled = true) {allowed : AuthSystem → AuthAction → Prop}
    (staying : ∀ system action, allowed system action → Staying stream system action)
    (untouched : ∀ system action, allowed system action → ¬ Disables stream action)
    (Kept : AuthRetryRow → Prop)
    (claims : ∀ system now retry, allowed system (.claimAuthRetry stream.streamUuid now) →
      retry.nextAttempt ≤ now → Kept retry → Kept (retry.claimed now))
    {retry : AuthRetryRow} (initial : Kept retry)
    (found : start.retry stream.streamUuid = some retry) (run : AuthRun allowed start later) :
    ∃ kept, later.retry stream.streamUuid = some kept ∧ Kept kept := by
  have held : Schema later.history.repository ∧
      (∃ row, FailingRow later.history.repository stream row ∧ row.enabled = true) ∧
      ∃ kept, later.retry stream.streamUuid = some kept ∧ Kept kept := by
    apply run.invariant (fun system => Schema system.history.repository ∧
      (∃ row, FailingRow system.history.repository stream row ∧ row.enabled = true) ∧
      ∃ kept, system.retry stream.streamUuid = some kept ∧ Kept kept)
      ⟨schema, ⟨row, failing, enabled⟩, retry, found, initial⟩
    rintro system action _ ⟨schema, ⟨row, failing, enabled⟩, stored, isStored, kept⟩ permitted rfl
    obtain ⟨⟨fresh, spares⟩, stays⟩ := staying system action permitted
    obtain ⟨next, isNext, retries⟩ := authStep_failing schema fresh spares failing stays
    obtain ⟨stillEnabled, moved⟩ := retries enabled (untouched system action permitted)
    refine ⟨authStep_schema schema fresh, ⟨next, isNext, stillEnabled⟩, ?_⟩
    rcases moved stored isStored with same | ⟨now, rfl, isDue, claimed⟩
    · exact ⟨stored, same, kept⟩
    · exact ⟨_, claimed, claims system now stored permitted isDue kept⟩
  exact held.2.2

/-- In every run that spares failed streams, a failure ends by one of the named calls only and
the stored attempt of an enabled stream moves by claims of it only. -/
theorem auth_failure_sticky {start : AuthSystem} (run : AuthRun Sparing {} start)
    {stream : StreamRow} (member : stream ∈ start.history.repository.streams)
    (failed : stream.healthStatus = .authFailed) :
    (∀ later, AuthRun (Staying stream) start later →
      Failing later.history.repository stream) ∧
    (stream.enabled = true → ∀ retry, start.retry stream.streamUuid = some retry →
      (∀ later, AuthRun (fun system action => Staying stream system action ∧
          ¬ Disables stream action) start later →
        ∃ kept, later.retry stream.streamUuid = some kept ∧
          Relation.ReflTransGen ClaimedFrom retry kept) ∧
      ∀ later, AuthRun (fun system action => Staying stream system action ∧
          ¬ Disables stream action ∧ ∀ now, action ≠ .claimAuthRetry stream.streamUuid now)
          start later →
        later.retry stream.streamUuid = some retry) := by
  have schema := authRun_schema (fun _ _ permitted => permitted.1) schema_empty run
  have failing : FailingRow start.history.repository stream stream :=
    ⟨member, rfl, rfl, failed⟩
  refine ⟨fun later further => staying_failing schema ⟨stream, failing⟩ further, ?_⟩
  intro enabled retry found
  constructor
  · intro later further
    refine staying_retry schema failing enabled (fun _ _ permitted => permitted.1)
      (fun _ _ permitted => permitted.2) (Relation.ReflTransGen ClaimedFrom retry) ?_ .refl
      found further
    intro system now stored _ isDue moved
    exact moved.tail ⟨now, isDue, rfl⟩
  · intro later further
    obtain ⟨kept, isKept, rfl⟩ := staying_retry schema failing enabled
      (fun _ _ permitted => permitted.1) (fun _ _ permitted => permitted.2.1)
      (fun stored => stored = retry) (fun _ now _ permitted _ _ =>
        absurd rfl (permitted.2.2 now)) rfl found further
    exact isKept

end

/-- The front door after its camera has rejected the login for the main stream, and the first
check of the backoff. -/
def loginRejected : AuthSystem :=
  let _ := asciiCase
  let _ := plainUrls
  let rejected := authStep ⟨adoptedOnce, []⟩
    (.call ⟨.recordProbeResults [("aaaaa", .authFailed)], 2, uuidSupply 'b'⟩)
  authStep rejected (.claimAuthRetry "aaaaa" 62)

theorem loginRejected_run :
    let _ := asciiCase
    let _ := plainUrls
    AuthRun Sparing {} loginRejected := by
  intro text urls
  have adopted : AuthRun Sparing {} ⟨adoptedOnce, []⟩ := by
    refine Reaches.start.step (.call ⟨.adopt frontDoor, 1, uuidSupply 'a'⟩) ⟨?_, ?_⟩ rfl
    · exact freshCall_uuidSupply _ (by simp [usedUuids]) (Nat.zero_le 1)
    · intro results isRecord
      cases isRecord
  have rejected := adopted.step
    (.call ⟨.recordProbeResults [("aaaaa", .authFailed)], 2, uuidSupply 'b'⟩)
    ⟨freshCall_uuidSupply _ (by decide +kernel) (by decide +kernel), by
      intro results isRecord stream _ _ status member
      obtain rfl := RepositoryAction.recordProbeResults.inj isRecord
      exact .inr (congrArg Prod.snd (List.mem_singleton.mp member))⟩
    rfl
  exact rejected.step (.claimAuthRetry "aaaaa" 62) ⟨trivial, trivial⟩ rfl

/-- A probe of the other stream fails. -/
def siblingFailed : AuthAction :=
  .call ⟨.recordProbeResults [("aaaaaaa", .failed)], 70, uuidSupply 'c'⟩

/-- The login of the main stream is then still due at 362. -/
theorem sibling_failure_spares_backoff :
    let _ := asciiCase
    let _ := plainUrls
    ∃ stream ∈ loginRejected.history.repository.streams, stream.streamUuid = "aaaaa" ∧
      Failing (authStep loginRejected siblingFailed).history.repository stream ∧
      (authStep loginRejected siblingFailed).retry "aaaaa" = some ⟨"aaaaa", 1, 362⟩ := by
  intro text urls
  obtain ⟨stream, member, isMain, failed, enabled⟩ :
      ∃ stream ∈ loginRejected.history.repository.streams, stream.streamUuid = "aaaaa" ∧
        stream.healthStatus = .authFailed ∧ stream.enabled = true := by decide +kernel
  have others : ∀ other ∈ loginRejected.history.repository.streams,
      other.healthStatus = .authFailed → other.streamUuid ≠ "aaaaaaa" := by decide +kernel
  have spares : Sparing loginRejected siblingFailed := by
    refine ⟨freshCall_uuidSupply _ (by decide +kernel) (by decide +kernel), ?_⟩
    intro results isRecord other isOther otherFailed status recorded
    obtain rfl := RepositoryAction.recordProbeResults.inj isRecord
    exact absurd (congrArg Prod.fst (List.mem_singleton.mp recorded))
      (others other isOther otherFailed)
  have stays : Staying stream loginRejected siblingFailed :=
    ⟨spares, by simp [Leaves, siblingFailed]⟩
  obtain ⟨sticky, backoff⟩ := auth_failure_sticky loginRejected_run member failed
  obtain ⟨_, unclaimed⟩ := backoff enabled ⟨"aaaaa", 1, 362⟩ (by rw [isMain]; decide +kernel)
  refine ⟨stream, member, isMain, sticky _ (Reaches.start.step _ stays rfl), ?_⟩
  have kept := unclaimed _ (Reaches.start.step siblingFailed
    ⟨stays, by simp [Disables, siblingFailed], by simp [siblingFailed]⟩ rfl)
  rwa [isMain] at kept

/-- Media are reconciled, for whatever camera; the main stream cannot be served. -/
def mediaReconciled : AuthAction :=
  let _ := asciiCase
  let _ := plainUrls
  .call ⟨.recordProbeResults (reconcileAndProbe loginRejected.history.repository
    fun source => if source.streamUuid = "aaaaa" then .failed else .ready), 70, uuidSupply 'c'⟩

/-- The failure of the main stream is gone, and with the next schedule its backoff. -/
theorem reconcile_resets_backoff :
    let _ := asciiCase
    let _ := plainUrls
    let reconciled := authStep loginRejected mediaReconciled
    AuthRun AuthFresh {} loginRejected ∧ AuthFresh loginRejected mediaReconciled ∧
      loginRejected.retry "aaaaa" = some ⟨"aaaaa", 1, 362⟩ ∧
      (∃ stream ∈ loginRejected.history.repository.streams, stream.streamUuid = "aaaaa" ∧
        stream.healthStatus = .authFailed ∧ stream.enabled = true ∧
        ¬ Leaves stream loginRejected mediaReconciled ∧
        ¬ Failing reconciled.history.repository stream) ∧
      (authStep reconciled (.authRetrySchedule 71)).retry "aaaaa" = none := by
  intro text urls reconciled
  have run : AuthRun AuthFresh {} loginRejected := by
    apply loginRejected_run.invariant (AuthRun AuthFresh {}) .start
    rintro system action _ run permitted rfl
    exact run.step action permitted.1 rfl
  have results : reconcileAndProbe loginRejected.history.repository
      (fun source => if source.streamUuid = "aaaaa" then .failed else .ready) =
      [("aaaaa", .failed), ("aaaaaaa", .ready)] := by decide +kernel
  have healed : ∀ row ∈ reconciled.history.repository.streams,
      row.healthStatus ≠ .authFailed := by decide +kernel
  obtain ⟨stream, member, isMain, failed, enabled⟩ :
      ∃ stream ∈ loginRejected.history.repository.streams, stream.streamUuid = "aaaaa" ∧
        stream.healthStatus = .authFailed ∧ stream.enabled = true := by decide +kernel
  refine ⟨run, ?_, by decide +kernel, ⟨stream, member, isMain, failed, enabled, ?_, ?_⟩,
    by decide +kernel⟩
  · exact freshCall_uuidSupply _ (by decide +kernel) (by decide +kernel)
  · intro leaves
    have recorded : (stream.streamUuid, ProbeStatus.ready) ∈
        [("aaaaa", ProbeStatus.failed), ("aaaaaaa", .ready)] := results ▸ leaves
    rw [isMain] at recorded
    exact absurd recorded (by decide)
  · rintro ⟨row, isRow, _, _, stillFailed⟩
    exact healed row isRow stillFailed

end CamAdmiral
