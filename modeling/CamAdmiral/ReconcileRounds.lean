import CamAdmiral.ReconcileTurns

/-!
What one round of the reconcile loop can do, once for all branches: the attempts with their
course of writes, and the tables, which a round only changes at its own camera.
-/

namespace CamAdmiral

/-! The tables. -/

/-- Only rows of the camera have changed, and none of the retired entries. -/
structure OnlyCamera (targetId cameraUuid : String) (before after : FrigateTables) : Prop where
  targets : after.targets = before.targets
  retired : after.retired = before.retired
  links : after.links = before.links
  handoffs : after.handoffs = before.handoffs
  owners : after.selections.map SelectionRow.owner = before.selections.map SelectionRow.owner
  others : ∀ other, other ≠ cameraUuid →
    after.frigateBinding targetId other = before.frigateBinding targetId other

namespace OnlyCamera

variable {targetId cameraUuid : String}

theorem refl (tables : FrigateTables) : OnlyCamera targetId cameraUuid tables tables :=
  ⟨rfl, rfl, rfl, rfl, rfl, fun _ _ => rfl⟩

theorem trans {first second third : FrigateTables}
    (early : OnlyCamera targetId cameraUuid first second)
    (late : OnlyCamera targetId cameraUuid second third) :
    OnlyCamera targetId cameraUuid first third where
  targets := late.targets.trans early.targets
  retired := late.retired.trans early.retired
  links := late.links.trans early.links
  handoffs := late.handoffs.trans early.handoffs
  owners := late.owners.trans early.owners
  others other isOther := (late.others other isOther).trans (early.others other isOther)

theorem selectionError (tables : FrigateTables) (code : Option String) :
    OnlyCamera targetId cameraUuid tables
      (tables.setFrigateSelectionError targetId cameraUuid code) := by
  refine ⟨rfl, rfl, rfl, rfl, ?_, fun _ _ => rfl⟩
  simp only [FrigateTables.setFrigateSelectionError, updateRow, List.map_map]
  apply List.map_congr_left
  intro row _
  dsimp only [Function.comp_apply]
  split <;> rfl

/-- A change of the binding of the camera. -/
theorem updateBinding (tables : FrigateTables)
    {change : FrigateBindingRow → FrigateBindingRow}
    (sameOwner : ∀ row, (change row).owner = row.owner) :
    OnlyCamera targetId cameraUuid tables { tables with
      bindings := updateRow FrigateBindingRow.owner (targetId, cameraUuid) change
        tables.bindings } := by
  refine ⟨rfl, rfl, rfl, rfl, rfl, ?_⟩
  intro other isOther
  unfold FrigateTables.frigateBinding
  rw [rowAt_updateRow _ _ sameOwner, if_neg]
  simpa using isOther

theorem completeApplied (tables : FrigateTables) (appliedHash : String) :
    OnlyCamera targetId cameraUuid tables
      (tables.completeApplied targetId cameraUuid appliedHash) :=
  updateBinding tables fun _ => rfl

theorem completeError (tables : FrigateTables) (code : String) :
    OnlyCamera targetId cameraUuid tables (tables.completeError targetId cameraUuid code) :=
  updateBinding tables fun _ => rfl

theorem setFrigateCameraEnabledApplied (tables : FrigateTables) (enabled : Bool) :
    OnlyCamera targetId cameraUuid tables
      (tables.setFrigateCameraEnabledApplied targetId cameraUuid enabled) :=
  updateBinding tables fun _ => rfl

end OnlyCamera

/-- An attempt is only recorded for a key that no other camera has. -/
theorem recordFrigateAttempt_only {before after : FrigateTables}
    {targetId cameraUuid key recordUuid detectUuid hash : String}
    (isRecorded : before.recordFrigateAttempt targetId cameraUuid key recordUuid detectUuid hash =
      some after) :
    OnlyCamera targetId cameraUuid before after ∧
      before.keyTaken targetId cameraUuid key = false ∧
      ∃ row, after.frigateBinding targetId cameraUuid = some row ∧
        row.frigateCameraKey = key ∧ row.cameraEnabledApplied =
          ((before.frigateBinding targetId cameraUuid).map (·.cameraEnabledApplied)).getD true := by
  unfold FrigateTables.recordFrigateAttempt at isRecorded
  cases isTaken : before.keyTaken targetId cameraUuid key with
  | true =>
      rw [isTaken, if_pos rfl] at isRecorded
      cases isRecorded
  | false =>
      rw [isTaken, if_neg Bool.false_ne_true] at isRecorded
      obtain rfl := Option.some.inj isRecorded
      refine ⟨⟨rfl, rfl, rfl, rfl, rfl, ?_⟩, rfl, ?_⟩
      · intro other isOther
        unfold FrigateTables.frigateBinding
        rw [rowAt_upsertRow, if_neg]
        · simpa [FrigateBindingRow.owner] using isOther
        · exact fun _ => rfl
      · unfold FrigateTables.frigateBinding
        rw [rowAt_upsertRow]
        · refine ⟨_, if_pos rfl, ?_⟩
          cases rowAt FrigateBindingRow.owner before.bindings (targetId, cameraUuid) <;>
            exact ⟨rfl, rfl⟩
        · exact fun _ => rfl

/-! Sending a list of writes. -/

variable {σ : Type} {frigate : Frigate σ}

theorem writes_sendAll (writes : List FrigateWrite) :
    Writes frigate (Program.each (send frigate) writes) writes := by
  have each : Writes frigate (Program.each (send frigate) writes) (writes.map id) :=
    writes_each writes_send writes
  rwa [List.map_id] at each

theorem send_failures {write : FrigateWrite} {session later : Session σ} {failure : Failure}
    (isFailed : send frigate write session = (.error failure, later)) :
    later.failures ≠ session.failures := by
  unfold send at isFailed
  cases isSent : frigate.write write session.frigate with
  | mk result after =>
      rw [isSent] at isFailed
      cases result with
      | ok value => cases isFailed
      | error error =>
          obtain ⟨_, rfl⟩ := Prod.mk.inj isFailed
          simp

/-- Only a failing call stops the writes. -/
theorem sendAll_failures {writes : List FrigateWrite} {session later : Session σ}
    {failure : Failure}
    (isFailed : Program.each (send frigate) writes session = (.error failure, later)) :
    later.failures ≠ session.failures := by
  induction writes generalizing session with
  | nil => cases isFailed
  | cons first rest ih =>
      rcases Program.bind_error.mp isFailed with stopped | ⟨_, between, isSent, isFailed⟩
      · exact send_failures stopped
      · intro unchanged
        have early := ((writes_send first).of_ok isSent).failures
        have late := ((writes_sendAll rest).of_error isFailed).1.failures
        rw [unchanged] at late
        have same := early.eq_of_length_le late.length_le
        exact ih isFailed (unchanged.trans same)

/-- Writes and then reads: when only the reads have failed, everything is sent. -/
theorem sendAll_then {α : Type} {writes : List FrigateWrite} {tail : Talk σ α}
    (reads : Writes frigate tail []) {session later : Session σ} {failure : Failure}
    (isFailed : (do Program.each (send frigate) writes; tail) session = (.error failure, later))
    (unchanged : later.failures = session.failures) :
    Course frigate writes true session later := by
  rcases Program.bind_error.mp isFailed with stopped | ⟨_, between, isSent, isFailed⟩
  · exact absurd unchanged (sendAll_failures stopped)
  · have quiet := (reads.of_error isFailed).1.nil_quiet
    simpa using ((writes_sendAll writes).of_ok isSent).append (.quiet quiet)

theorem each_single {ε τ β : Type} (program : β → Program ε τ Unit) (only : β) :
    Program.each program [only] = program only := by
  funext state
  change Program.andThen (program only) _ state = _
  unfold Program.andThen
  split
  case h_1 isDone => exact isDone.symm
  case h_2 isFailed => exact isFailed.symm

/-! Attempts. -/

variable (scope : SyncScope σ)

/-- An attempt to bring a camera about: it is recorded, the writes are sent and Frigate is
asked whether they have taken effect. -/
inductive Attempted (cameraUuid : String) (prepare : FrigateTables → Option FrigateTables)
    (writes : List FrigateWrite) (seen : Snapshot → Session σ → Prop)
    (complete : FrigateTables → FrigateTables) (progress : Progress) (session : Session σ) :
    Except Failure Progress × Session σ → Prop
  | refused (isRefused : prepare session.tables = none) :
      Attempted cameraUuid prepare writes seen complete progress session (.error .raised, session)
  | failed {tables : FrigateTables} {later : Session σ} {code : String}
      (isPrepared : prepare session.tables = some tables)
      (course : Course scope.frigate writes false { session with tables := tables } later)
      (sent : later.failures = session.failures →
        Course scope.frigate writes true { session with tables := tables } later) :
      Attempted cameraUuid prepare writes seen complete progress session
        (.ok progress.postponed, { later with
          tables := later.tables.completeError scope.targetId cameraUuid code })
  | verified {tables : FrigateTables} {later : Session σ} {snapshot : Snapshot}
      (isPrepared : prepare session.tables = some tables)
      (course : Course scope.frigate writes true { session with tables := tables } later)
      (isSeen : seen snapshot later) :
      Attempted cameraUuid prepare writes seen complete progress session
        (.ok { progress with snapshot := snapshot, applied := progress.applied + 1 },
          { later with
            tables := complete later.tables
            log := later.log ++ [.applied cameraUuid] })

/-- How the attempts of all branches run. -/
theorem attempted_of_writes {α : Type} {cameraUuid : String}
    {prepare : FrigateTables → Option FrigateTables} {writes : List FrigateWrite}
    {seen : Snapshot → Session σ → Prop} {complete : FrigateTables → FrigateTables}
    {progress : Progress} {tail : Talk σ α} (reads : Writes scope.frigate tail [])
    {finish : Except ApiError α → Talk σ Progress} (next : α → Snapshot)
    (onError : ∀ error session, finish (.error error) session =
      (.ok progress.postponed, { session with
        tables := session.tables.completeError scope.targetId cameraUuid error.code }))
    (onValue : ∀ value session, finish (.ok value) session =
      (.ok { progress with snapshot := next value, applied := progress.applied + 1 },
        { session with
          tables := complete session.tables
          log := session.log ++ [.applied cameraUuid] }))
    (onSeen : ∀ {value session later}, tail session = (.ok value, later) →
      seen (next value) later) (session : Session σ) :
    Attempted scope cameraUuid prepare writes seen complete progress session
      ((do
        persist prepare
        let outcome ← attempt (do Program.each (send scope.frigate) writes; tail)
        finish outcome) session) := by
  cases isPrepared : prepare session.tables with
  | none =>
      have isRefused : persist prepare session = (.error .raised, session) := by
        rw [persist, isPrepared]
      rw [Program.bind_of_error isRefused]
      exact .refused isPrepared
  | some tables =>
      have isRecorded : persist prepare session =
          (.ok (), { session with tables := tables }) := by
        rw [persist, isPrepared]
      rw [Program.bind_of_ok isRecorded]
      have sends : Writes scope.frigate
          (do Program.each (send scope.frigate) writes; tail) writes := by
        simpa using (writes_sendAll writes).bind fun _ => reads
      obtain ⟨outcome, later, isOutcome, course, isValue⟩ :=
        sends.attempt { session with tables := tables }
      rw [Program.bind_of_ok isOutcome]
      cases outcome with
      | error error =>
          rw [onError]
          exact .failed isPrepared course (sendAll_then reads (attempt_error isOutcome))
      | ok value =>
          rw [onValue]
          obtain ⟨_, between, _, isSeen⟩ := Program.bind_ok.mp (isValue value rfl)
          exact .verified isPrepared course (onSeen isSeen)

/-- What an attempt has logged: some of the writes, and all of them if no call failed. -/
theorem Attempted.events {cameraUuid : String} {prepare : FrigateTables → Option FrigateTables}
    {writes : List FrigateWrite} {seen : Snapshot → Session σ → Prop}
    {complete : FrigateTables → FrigateTables} {progress : Progress} {session : Session σ}
    {result : Except Failure Progress × Session σ}
    (attempted : Attempted scope cameraUuid prepare writes seen complete progress session result) :
    ∃ events, result.2.log = session.log ++ events ∧
      (∀ event ∈ events, event = .applied cameraUuid ∨
        (prepare session.tables).isSome = true ∧
          ∃ write ∈ writes, ∃ state, event = .write write state) ∧
      ((prepare session.tables).isSome = true → result.2.failures = session.failures →
        ∀ write ∈ writes, ∃ state, Event.write write state ∈ events) := by
  have written {tables : FrigateTables} {later : Session σ} {succeeded : Bool}
      (course : Course scope.frigate writes succeeded { session with tables := tables } later) :
      ∃ events, later.log = session.log ++ events ∧
        ∀ event ∈ events, ∃ write ∈ writes, ∃ state, event = .write write state := by
    obtain ⟨events, isLog, each⟩ := course.events
    refine ⟨events, isLog, fun event member => ?_⟩
    obtain ⟨index, write, state, isEvent, isWrite, _⟩ := each event member
    exact ⟨write, List.mem_of_getElem? isWrite, state, isEvent⟩
  cases attempted with
  | refused isRefused => exact ⟨[], by simp, by simp, by simp [isRefused]⟩
  | @failed tables later code isPrepared course sent =>
      obtain ⟨events, isLog, each⟩ := written course
      refine ⟨events, isLog, fun event member => .inr ⟨by simp [isPrepared], each event member⟩,
        fun _ unchanged write member => ?_⟩
      obtain ⟨others, isOthers, state, isSent⟩ := (sent unchanged).mem_log member
      rw [List.append_cancel_left (isLog.symm.trans isOthers)]
      exact ⟨state, isSent⟩
  | @verified tables later snapshot isPrepared course isSeen =>
      obtain ⟨events, isLog, each⟩ := written course
      refine ⟨events ++ [.applied cameraUuid], by simp [isLog], fun event member => ?_,
        fun _ _ write member => ?_⟩
      · rcases List.mem_append.mp member with isWrite | isApplied
        · exact .inr ⟨by simp [isPrepared], each event isWrite⟩
        · exact .inl (List.mem_singleton.mp isApplied)
      · obtain ⟨others, isOthers, state, isSent⟩ := course.mem_log member
        rw [List.append_cancel_left (isLog.symm.trans isOthers)]
        exact ⟨state, List.mem_append_left _ isSent⟩

/-! The round of a camera, after the error of its selection is cleared. -/

section
variable [FrigateTexts] (allowRestart : Bool)

def attemptTables (desired : DesiredCamera) (tables : FrigateTables) : Option FrigateTables :=
  tables.recordFrigateAttempt scope.targetId desired.cameraUuid desired.key
    desired.recordStreamUuid desired.detectStreamUuid desired.desiredHash

def awaitedTables (desired : DesiredCamera) (tables : FrigateTables) : FrigateTables :=
  tables.completeApplied scope.targetId desired.cameraUuid desired.desiredHash

def writtenTables (desired : DesiredCamera) (retired : Option RetiredRow)
    (tables : FrigateTables) : FrigateTables :=
  let enabled := (awaitedTables scope desired tables).setFrigateCameraEnabledApplied
    scope.targetId desired.cameraUuid true
  if retired.isSome then
    enabled.forgetRetiredFrigateCamera scope.targetId desired.key
  else
    enabled

omit [FrigateTexts] in
theorem attemptTables_isSome {desired : DesiredCamera} {tables : FrigateTables} :
    (attemptTables scope desired tables).isSome = true ↔
      tables.keyTaken scope.targetId desired.cameraUuid desired.key = false := by
  unfold attemptTables FrigateTables.recordFrigateAttempt
  split
  · rename_i isTaken
    simp [isTaken]
  · rename_i isFree
    simpa using isFree

/-- What a wait for a camera has seen at its end. -/
def Seen (desired : DesiredCamera) (snapshot : Snapshot) (later : Session σ) : Prop :=
  actualMatches desired snapshot = true ∧ snapshot.running desired.key = true ∧
    snapshot.rawConfig = scope.frigate.saved later.frigate

def SeenDisabled (key : String) (progress : Progress) (snapshot : Snapshot)
    (_ : Session σ) : Prop :=
  ∃ config : LiveConfig, (config.cameras.lookup key).bind (·.enabled) = some false ∧
    snapshot = { progress.snapshot with config := config }

/-- The reads of `disableEntry`. -/
def disabledConfig (key : String) : Talk σ LiveConfig := do
  let verified ← ask scope.frigate .config
  if (verified.cameras.lookup key).bind (·.enabled) = some false then
    pure verified
  else
    Program.fail (apiFailure "camera_enabled_mismatch")

omit [FrigateTexts] in
theorem reads_disabledConfig (key : String) :
    Writes scope.frigate (disabledConfig scope key) [] := by
  refine (writes_ask _).bind fun verified => ?_
  split
  · exact writes_pure _
  · exact writes_fail _

omit [FrigateTexts] in
theorem seenDisabled {key : String} {progress : Progress} {verified : LiveConfig}
    {session later : Session σ}
    (isDone : disabledConfig scope key session = (.ok verified, later)) :
    SeenDisabled key progress { progress.snapshot with config := verified } later := by
  obtain ⟨config, between, _, isDone⟩ := Program.bind_ok.mp isDone
  by_cases isDisabled : (config.cameras.lookup key).bind (·.enabled) = some false
  · rw [if_pos isDisabled] at isDone
    obtain rfl := Except.ok.inj (Prod.mk.inj isDone).1
    exact ⟨config, isDisabled, rfl⟩
  · rw [if_neg isDisabled] at isDone
    cases isDone

omit [FrigateTexts] in
theorem disableEntry_sendAll (key : String) :
    disableEntry scope key = (do
      Program.each (send scope.frigate) [setEnabled key false]
      disabledConfig scope key) := by
  rw [each_single]
  rfl

inductive Round (cameraUuid : String) (progress : Progress)
    (binding : Option FrigateBindingRow) (retired : DesiredCamera → Option RetiredRow)
    (session : Session σ) : Branch → Except Failure Progress × Session σ → Prop
  | failed (error : ApiError) :
      Round cameraUuid progress binding retired session (.failed error)
        (.error (.api error), session)
  | rejected (code : String) :
      Round cameraUuid progress binding retired session (.rejected code)
        (.ok progress.postponed, { session with
          tables := session.tables.setFrigateSelectionError scope.targetId cameraUuid
            (some code) })
  | waiting : Round cameraUuid progress binding retired session .waiting
      (.ok progress.postponed, session)
  | needless : Round cameraUuid progress binding retired session .disabled
      (.ok { progress with applied := progress.applied + 1 },
        { session with log := session.log ++ [.applied cameraUuid] })
  | disabled {row : FrigateBindingRow} {result : Except Failure Progress × Session σ}
      (isBinding : binding = some row)
      (attempted : Attempted scope cameraUuid
        (fun tables => tables.recordFrigateAttempt scope.targetId cameraUuid
          row.frigateCameraKey row.recordStreamUuid row.detectStreamUuid row.desiredHash)
        [setEnabled row.frigateCameraKey false] (SeenDisabled row.frigateCameraKey progress)
        (fun tables => tables.completeApplied scope.targetId cameraUuid
          (row.appliedHash.getD row.desiredHash)) progress
        { session with
          tables := session.tables.setFrigateCameraEnabledApplied scope.targetId cameraUuid
            false } result) :
      Round cameraUuid progress binding retired session .disabled result
  | settled (desired : DesiredCamera) {tables : FrigateTables}
      (isTables : tables = session.tables ∨ tables = awaitedTables scope desired session.tables) :
      Round cameraUuid progress binding retired session (.settled desired)
        (.ok { progress with applied := progress.applied + 1 },
          { session with tables := tables, log := session.log ++ [.applied desired.cameraUuid] })
  | awaited (desired : DesiredCamera) {result : Except Failure Progress × Session σ}
      (attempted : Attempted scope desired.cameraUuid (attemptTables scope desired) []
        (Seen scope desired) (awaitedTables scope desired) progress session result) :
      Round cameraUuid progress binding retired session (.awaited desired) result
  | written (desired : DesiredCamera) {result : Except Failure Progress × Session σ}
      (attempted : Attempted scope desired.cameraUuid (attemptTables scope desired)
        (cameraWrites desired progress.snapshot binding (retired desired) allowRestart)
        (Seen scope desired) (writtenTables scope desired (retired desired)) progress session
        result) :
      Round cameraUuid progress binding retired session (.written desired) result

omit [FrigateTexts] in
theorem awaitCamera_attempted (desired : DesiredCamera) (progress : Progress)
    (session : Session σ) :
    Attempted scope desired.cameraUuid (attemptTables scope desired) [] (Seen scope desired)
      (awaitedTables scope desired) progress session
      (awaitCamera scope desired progress session) :=
  attempted_of_writes scope (writes_waitForCameraState desired) id (fun _ _ => rfl)
    (fun _ _ => rfl) waitForCameraState_ok session

omit [FrigateTexts] in
theorem writeCamera_attempted (desired : DesiredCamera) (binding : Option FrigateBindingRow)
    (retired : Option RetiredRow) (progress : Progress) (session : Session σ) :
    Attempted scope desired.cameraUuid (attemptTables scope desired)
      (cameraWrites desired progress.snapshot binding retired allowRestart) (Seen scope desired)
      (writtenTables scope desired retired) progress session
      (writeCamera scope desired binding retired allowRestart progress session) :=
  attempted_of_writes scope (writes_waitForCameraState desired) id (fun _ _ => rfl)
    (fun _ _ => rfl) waitForCameraState_ok session

omit [FrigateTexts] in
theorem disableCamera_round (cameraUuid : String) (binding : Option FrigateBindingRow)
    (retired : DesiredCamera → Option RetiredRow) (progress : Progress) (session : Session σ) :
    Round scope allowRestart cameraUuid progress binding retired session .disabled
      (disableCamera scope cameraUuid binding progress session) := by
  cases binding with
  | none => exact .needless
  | some row =>
      unfold disableCamera
      dsimp only
      cases progress.snapshot.config.cameras.lookup row.frigateCameraKey with
      | none => exact .needless
      | some actual =>
          dsimp only
          by_cases isDisabled : actual.enabled = some false
          · rw [if_pos isDisabled]
            exact .needless
          · rw [if_neg isDisabled]
            rw [disableEntry_sendAll]
            refine .disabled rfl ?_
            exact attempted_of_writes scope (reads_disabledConfig scope row.frigateCameraKey)
              (fun verified => { progress.snapshot with config := verified })
              (fun _ _ => rfl) (fun _ _ => rfl) (seenDisabled scope) _

/-- The session in which the branch of a round starts. -/
def clearedSession (cameraUuid : String) (session : Session σ) : Session σ :=
  { session with
    tables := session.tables.setFrigateSelectionError scope.targetId cameraUuid none }

theorem reconcileCamera_round (selected : SelectedCamera) (progress : Progress)
    (session : Session σ) :
    Round scope allowRestart selected.camera.cameraUuid progress
      (session.tables.frigateBinding scope.targetId selected.camera.cameraUuid)
      (fun desired => session.tables.retiredFrigateCamera scope.targetId desired.key)
      (clearedSession scope selected.camera.cameraUuid session)
      (turnBranch scope allowRestart selected progress.snapshot session.tables)
      (reconcileCamera scope allowRestart selected progress session) := by
  rw [reconcileCamera_branch]
  cases turnBranch scope allowRestart selected progress.snapshot session.tables with
  | disabled => exact disableCamera_round scope allowRestart _ _ _ progress _
  | failed error => exact .failed error
  | rejected code => exact .rejected code
  | waiting => exact .waiting
  | settled desired =>
      unfold runBranch
      dsimp only
      split
      · exact .settled desired (.inr rfl)
      · exact .settled desired (.inl rfl)
  | awaited desired => exact .awaited desired (awaitCamera_attempted scope desired progress _)
  | written desired =>
      exact .written desired (writeCamera_attempted scope allowRestart desired _ _ progress _)

omit [FrigateTexts] in
theorem Attempted.failures {cameraUuid : String}
    {prepare : FrigateTables → Option FrigateTables} {writes : List FrigateWrite}
    {seen : Snapshot → Session σ → Prop} {complete : FrigateTables → FrigateTables}
    {progress : Progress} {session : Session σ} {result : Except Failure Progress × Session σ}
    (attempted : Attempted scope cameraUuid prepare writes seen complete progress session result) :
    session.failures <+: result.2.failures := by
  cases attempted with
  | refused => exact List.prefix_rfl
  | failed isPrepared course => exact course.failures
  | verified isPrepared course => exact course.failures

omit [FrigateTexts] in
theorem Round.failures {cameraUuid : String} {progress : Progress}
    {binding : Option FrigateBindingRow} {retired : DesiredCamera → Option RetiredRow}
    {session : Session σ} {branch : Branch} {result : Except Failure Progress × Session σ}
    (round : Round scope allowRestart cameraUuid progress binding retired session branch result) :
    session.failures <+: result.2.failures := by
  cases round with
  | failed | rejected | waiting | needless | settled => exact List.prefix_rfl
  | disabled isBinding attempted => exact attempted.failures scope
  | awaited desired attempted => exact attempted.failures scope
  | written desired attempted => exact attempted.failures scope

theorem reconcileCamera_failures (selected : SelectedCamera) (progress : Progress)
    (session : Session σ) : session.failures <+:
      (reconcileCamera scope allowRestart selected progress session).2.failures :=
  (reconcileCamera_round scope allowRestart selected progress session).failures scope allowRestart

/-! What a round leaves in the tables. -/

/-- The key under which the camera is bound. -/
def boundKey (targetId cameraUuid : String) (tables : FrigateTables) : Option String :=
  (tables.frigateBinding targetId cameraUuid).map (·.frigateCameraKey)

omit [FrigateTexts] in
theorem boundKey_update (targetId cameraUuid : String) (tables : FrigateTables)
    {change : FrigateBindingRow → FrigateBindingRow}
    (sameOwner : ∀ row, (change row).owner = row.owner)
    (sameKey : ∀ row, (change row).frigateCameraKey = row.frigateCameraKey) :
    boundKey targetId cameraUuid { tables with
      bindings := updateRow FrigateBindingRow.owner (targetId, cameraUuid) change
        tables.bindings } = boundKey targetId cameraUuid tables := by
  unfold boundKey FrigateTables.frigateBinding
  rw [rowAt_updateRow _ _ sameOwner, if_pos rfl, Option.map_map]
  congr 1
  funext row
  exact sameKey row

omit [FrigateTexts] in
theorem boundKey_completeApplied (targetId cameraUuid : String) (tables : FrigateTables)
    (hash : String) : boundKey targetId cameraUuid
      (tables.completeApplied targetId cameraUuid hash) = boundKey targetId cameraUuid tables :=
  boundKey_update targetId cameraUuid tables (fun _ => rfl) fun _ => rfl

omit [FrigateTexts] in
theorem boundKey_setEnabledApplied (targetId cameraUuid : String) (tables : FrigateTables)
    (enabled : Bool) : boundKey targetId cameraUuid
      (tables.setFrigateCameraEnabledApplied targetId cameraUuid enabled) =
        boundKey targetId cameraUuid tables :=
  boundKey_update targetId cameraUuid tables (fun _ => rfl) fun _ => rfl

omit [FrigateTexts] in
theorem Attempted.tables {cameraUuid : String} {prepare : FrigateTables → Option FrigateTables}
    {writes : List FrigateWrite} {seen : Snapshot → Session σ → Prop}
    {complete : FrigateTables → FrigateTables} {progress : Progress} {session : Session σ}
    {result : Except Failure Progress × Session σ}
    (attempted : Attempted scope cameraUuid prepare writes seen complete progress session result) :
    result.2.tables = session.tables ∨ ∃ tables, prepare session.tables = some tables ∧
      ((∃ code, result.2.tables = tables.completeError scope.targetId cameraUuid code) ∨
        result.2.tables = complete tables) := by
  cases attempted with
  | refused => exact .inl rfl
  | @failed tables later code isPrepared course =>
      exact .inr ⟨tables, isPrepared, .inl ⟨code, by rw [course.tables]⟩⟩
  | @verified tables later snapshot isPrepared course =>
      exact .inr ⟨tables, isPrepared, .inr (by rw [course.tables])⟩

/-- The rows of other cameras stay, and so does the key of this one unless it gets its own. -/
structure RoundTables (targetId cameraUuid ownKey : String) (before after : FrigateTables) :
    Prop where
  targets : after.targets = before.targets
  links : after.links = before.links
  handoffs : after.handoffs = before.handoffs
  owners : after.selections.map SelectionRow.owner = before.selections.map SelectionRow.owner
  others : ∀ other, other ≠ cameraUuid →
    after.frigateBinding targetId other = before.frigateBinding targetId other
  key : boundKey targetId cameraUuid after = boundKey targetId cameraUuid before ∨
    boundKey targetId cameraUuid after = some ownKey
  retired : after.retired = before.retired ∨
    after.retired = (before.forgetRetiredFrigateCamera targetId ownKey).retired

omit [FrigateTexts] in
theorem OnlyCamera.roundTables {targetId cameraUuid ownKey : String}
    {before after : FrigateTables} (only : OnlyCamera targetId cameraUuid before after)
    (key : boundKey targetId cameraUuid after = boundKey targetId cameraUuid before ∨
      boundKey targetId cameraUuid after = some ownKey) :
    RoundTables targetId cameraUuid ownKey before after :=
  ⟨only.targets, only.links, only.handoffs, only.owners, only.others, key, .inl only.retired⟩

omit [FrigateTexts] in
theorem OnlyCamera.then_round {targetId cameraUuid ownKey : String}
    {before mid after : FrigateTables} (only : OnlyCamera targetId cameraUuid before mid)
    (round : RoundTables targetId cameraUuid ownKey mid after)
    (key : boundKey targetId cameraUuid after = boundKey targetId cameraUuid before ∨
      boundKey targetId cameraUuid after = some ownKey) :
    RoundTables targetId cameraUuid ownKey before after where
  targets := round.targets.trans only.targets
  links := round.links.trans only.links
  handoffs := round.handoffs.trans only.handoffs
  owners := round.owners.trans only.owners
  others other isOther := (round.others other isOther).trans (only.others other isOther)
  key := key
  retired := by
    rcases round.retired with same | forgotten
    · exact .inl (same.trans only.retired)
    · refine .inr (forgotten.trans ?_)
      simp only [FrigateTables.forgetRetiredFrigateCamera, only.retired]

/-- The end of an attempt leaves the key and the other cameras. -/
structure Finishes (targetId cameraUuid ownKey : String)
    (complete : FrigateTables → FrigateTables) : Prop where
  round : ∀ tables, RoundTables targetId cameraUuid ownKey tables (complete tables)
  key : ∀ tables, boundKey targetId cameraUuid (complete tables) =
    boundKey targetId cameraUuid tables

omit [FrigateTexts] in
theorem finishes_update {targetId cameraUuid ownKey : String}
    {change : FrigateBindingRow → FrigateBindingRow}
    (sameOwner : ∀ row, (change row).owner = row.owner)
    (sameKey : ∀ row, (change row).frigateCameraKey = row.frigateCameraKey) :
    Finishes targetId cameraUuid ownKey fun tables => { tables with
      bindings := updateRow FrigateBindingRow.owner (targetId, cameraUuid) change
        tables.bindings } := by
  have key (tables : FrigateTables) := boundKey_update targetId cameraUuid tables sameOwner sameKey
  exact ⟨fun tables => (OnlyCamera.updateBinding tables sameOwner).roundTables (.inl (key tables)),
    key⟩

omit [FrigateTexts] in
theorem finishes_error (targetId cameraUuid ownKey code : String) :
    Finishes targetId cameraUuid ownKey fun tables =>
      tables.completeError targetId cameraUuid code :=
  finishes_update (fun _ => rfl) fun _ => rfl

omit [FrigateTexts] in
theorem finishes_applied (targetId cameraUuid ownKey hash : String) :
    Finishes targetId cameraUuid ownKey fun tables =>
      tables.completeApplied targetId cameraUuid hash :=
  finishes_update (fun _ => rfl) fun _ => rfl

omit [FrigateTexts] in
theorem finishes_written (desired : DesiredCamera) (retired : Option RetiredRow) :
    Finishes scope.targetId desired.cameraUuid desired.key
      (writtenTables scope desired retired) := by
  have enabled (tables : FrigateTables) : OnlyCamera scope.targetId desired.cameraUuid tables
      ((awaitedTables scope desired tables).setFrigateCameraEnabledApplied scope.targetId
        desired.cameraUuid true) :=
    (OnlyCamera.completeApplied tables desired.desiredHash).trans
      (.setFrigateCameraEnabledApplied _ true)
  have key (tables : FrigateTables) : boundKey scope.targetId desired.cameraUuid
      ((awaitedTables scope desired tables).setFrigateCameraEnabledApplied scope.targetId
        desired.cameraUuid true) = boundKey scope.targetId desired.cameraUuid tables :=
    (boundKey_setEnabledApplied _ _ _ true).trans (boundKey_completeApplied _ _ tables _)
  refine ⟨fun tables => ?_, fun tables => ?_⟩
  · have round : RoundTables _ _ desired.key _ _ := (enabled tables).roundTables (.inl (key tables))
    unfold writtenTables
    dsimp only
    split
    · refine { round with retired := .inr ?_ }
      simp only [FrigateTables.forgetRetiredFrigateCamera, (enabled tables).retired]
    · exact round
  · unfold writtenTables
    dsimp only
    split <;> exact key tables

omit [FrigateTexts] in
theorem Attempted.roundTables {cameraUuid key ownKey recordUuid detectUuid hash : String}
    {writes : List FrigateWrite} {seen : Snapshot → Session σ → Prop}
    {complete : FrigateTables → FrigateTables} {progress : Progress} {session : Session σ}
    {result : Except Failure Progress × Session σ}
    (finishes : Finishes scope.targetId cameraUuid ownKey complete)
    (isKey : key = ownKey ∨ boundKey scope.targetId cameraUuid session.tables = some key)
    (attempted : Attempted scope cameraUuid (fun tables => tables.recordFrigateAttempt
      scope.targetId cameraUuid key recordUuid detectUuid hash) writes seen complete progress
      session result) :
    RoundTables scope.targetId cameraUuid ownKey session.tables result.2.tables := by
  rcases attempted.tables scope with same | ⟨tables, isRecorded, isEnd⟩
  · rw [same]
    exact (OnlyCamera.refl _).roundTables (.inl rfl)
  obtain ⟨only, _, row, isRow, isRowKey, _⟩ := recordFrigateAttempt_only isRecorded
  have recorded : boundKey scope.targetId cameraUuid tables = some key := by
    rw [boundKey, isRow, Option.map_some, isRowKey]
  have ends {complete : FrigateTables → FrigateTables}
      (finishes : Finishes scope.targetId cameraUuid ownKey complete) :
      RoundTables scope.targetId cameraUuid ownKey session.tables (complete tables) := by
    refine only.then_round (finishes.round tables) ?_
    rw [finishes.key, recorded]
    rcases isKey with rfl | isBound
    · exact .inr rfl
    · exact .inl isBound.symm
  rcases isEnd with ⟨code, isEnd⟩ | isEnd
  · rw [isEnd]
    exact ends (finishes_error scope.targetId cameraUuid ownKey code)
  · rw [isEnd]
    exact ends finishes

theorem reconcileCamera_tables (selected : SelectedCamera) (progress : Progress)
    (session : Session σ) :
    RoundTables scope.targetId selected.camera.cameraUuid selected.key session.tables
      (reconcileCamera scope allowRestart selected progress session).2.tables := by
  have round := reconcileCamera_round scope allowRestart selected progress session
  generalize reconcileCamera scope allowRestart selected progress session = result at round ⊢
  have cleared : OnlyCamera scope.targetId selected.camera.cameraUuid session.tables
      (clearedSession scope selected.camera.cameraUuid session).tables :=
    .selectionError session.tables none
  have after {tables : FrigateTables}
      (late : RoundTables scope.targetId selected.camera.cameraUuid selected.key
        (clearedSession scope selected.camera.cameraUuid session).tables tables) :
      RoundTables scope.targetId selected.camera.cameraUuid selected.key session.tables tables :=
    cleared.then_round late late.key
  have named : ∀ desired, (turnBranch scope allowRestart selected progress.snapshot
      session.tables).desired = some desired →
      desired.key = selected.key ∧ desired.cameraUuid = selected.camera.cameraUuid :=
    fun _ => turnBranch_desired scope allowRestart
  generalize turnBranch scope allowRestart selected progress.snapshot session.tables =
    branch at round named
  cases round with
  | failed | waiting | needless => exact cleared.roundTables (.inl rfl)
  | rejected code => exact after ((OnlyCamera.selectionError _ _).roundTables (.inl rfl))
  | settled desired isTables =>
      obtain ⟨isKey, isCamera⟩ := named desired rfl
      rcases isTables with rfl | rfl
      · exact cleared.roundTables (.inl rfl)
      · have late := (finishes_applied scope.targetId selected.camera.cameraUuid selected.key
          desired.desiredHash).round
            (clearedSession scope selected.camera.cameraUuid session).tables
        rw [awaitedTables, isCamera]
        exact after late
  | @disabled row _ isBinding attempted =>
      have bound : boundKey scope.targetId selected.camera.cameraUuid
          ((clearedSession scope selected.camera.cameraUuid session).tables
            |>.setFrigateCameraEnabledApplied scope.targetId selected.camera.cameraUuid false) =
          some row.frigateCameraKey := by
        rw [boundKey_setEnabledApplied]
        exact congrArg (Option.map _) isBinding
      have late := attempted.roundTables scope (finishes_applied _ _ selected.key _) (.inr bound)
      have key := late.key
      rw [boundKey_setEnabledApplied] at key
      exact after ((OnlyCamera.setFrigateCameraEnabledApplied _ false).then_round late key)
  | awaited desired attempted =>
      obtain ⟨isKey, isCamera⟩ := named desired rfl
      have late := attempted.roundTables scope (finishes_applied _ _ _ _) (.inl rfl)
      rw [isKey, isCamera] at late
      exact after late
  | written desired attempted =>
      obtain ⟨isKey, isCamera⟩ := named desired rfl
      have late := attempted.roundTables scope (finishes_written scope desired _) (.inl rfl)
      rw [isKey, isCamera] at late
      exact after late

omit [FrigateTexts] in
/-- A key that another camera is bound to is taken. -/
theorem keyTaken_of_boundKey {targetId cameraUuid other key : String} {tables : FrigateTables}
    (isBound : boundKey targetId other tables = some key) (isOther : other ≠ cameraUuid) :
    tables.keyTaken targetId cameraUuid key = true := by
  obtain ⟨row, isRow, rfl⟩ := Option.map_eq_some_iff.mp isBound
  obtain ⟨member, isOwner⟩ := rowAt_some isRow
  obtain ⟨isTarget, isCamera⟩ := Prod.mk.inj isOwner
  rw [FrigateTables.keyTaken, List.any_eq_true]
  exact ⟨row, member, by simp [isTarget, isCamera, isOther]⟩

omit [FrigateTexts] in
theorem retired_forget {targetId forgotten key : String} (tables : FrigateTables) :
    (tables.forgetRetiredFrigateCamera targetId forgotten).retiredFrigateCamera targetId key =
      if key = forgotten then none else tables.retiredFrigateCamera targetId key := by
  unfold FrigateTables.forgetRetiredFrigateCamera FrigateTables.retiredFrigateCamera
  split
  case isTrue same =>
    subst same
    refine rowAt_none.mpr fun row member => ?_
    simpa using (List.mem_filter.mp member).2
  case isFalse isOther =>
    exact rowAt_filter_key tables.retired (fun owner => decide (owner ≠ (targetId, forgotten)))
      (by simpa using isOther)

omit [FrigateTexts] in
/-- A round adds no retirement record. -/
theorem RoundTables.retired_some {targetId cameraUuid ownKey key : String} {row : RetiredRow}
    {before after : FrigateTables} (round : RoundTables targetId cameraUuid ownKey before after)
    (isRetired : after.retiredFrigateCamera targetId key = some row) :
    before.retiredFrigateCamera targetId key = some row := by
  rcases round.retired with same | forgotten
  · rw [FrigateTables.retiredFrigateCamera, same] at isRetired
    exact isRetired
  · have isRetired : (before.forgetRetiredFrigateCamera targetId ownKey).retiredFrigateCamera
        targetId key = some row := by
      rw [FrigateTables.retiredFrigateCamera, ← forgotten]
      exact isRetired
    rw [retired_forget] at isRetired
    split at isRetired
    · cases isRetired
    · exact isRetired

omit [FrigateTexts] in
theorem RoundTables.retired_none {targetId cameraUuid ownKey key : String}
    {before after : FrigateTables} (round : RoundTables targetId cameraUuid ownKey before after)
    (absent : before.retiredFrigateCamera targetId key = none) :
    after.retiredFrigateCamera targetId key = none := by
  rw [Option.eq_none_iff_forall_ne_some] at absent ⊢
  intro row isRetired
  exact absent row (round.retired_some isRetired)

/-! What a round leaves in Frigate. -/

/-- The write touches no other camera entry. -/
def TouchesOnly (key : String) : FrigateWrite → Prop
  | .setConfig request => ∀ entry, request.camera = some entry → entry.1 = key
  | _ => True

omit [FrigateTexts] in
theorem applyWrites_lookup {key other : String} {writes : List FrigateWrite}
    (touches : ∀ write ∈ writes, TouchesOnly key write) (isOther : other ≠ key)
    (raw : RawConfig) :
    (applyWrites writes raw).cameras.lookup other = raw.cameras.lookup other := by
  induction writes generalizing raw with
  | nil => rfl
  | cons write rest ih =>
      rw [applyWrites, List.foldl_cons]
      refine (ih (fun later member => touches later (List.mem_cons_of_mem _ member)) _).trans ?_
      have only := touches write List.mem_cons_self
      cases write with
      | setConfig request =>
          dsimp only [FrigateWrite.apply, ConfigRequest.apply]
          cases isCamera : request.camera with
          | none => rfl
          | some entry => rw [lookup_setKey, only entry isCamera, if_neg isOther]
      | setRuntimeStream aliasKey source => rfl
      | deleteRuntimeStream aliasKey => rfl
      | restart => rfl

omit [FrigateTexts] in
theorem Course.lookup {writes : List FrigateWrite} {succeeded : Bool} {before after : Session σ}
    (course : Course frigate writes succeeded before after) {key other : String}
    (touches : ∀ write ∈ writes, TouchesOnly key write) (isOther : other ≠ key) :
    (frigate.saved after.frigate).cameras.lookup other =
      (frigate.saved before.frigate).cameras.lookup other := by
  obtain ⟨count, _, _, same⟩ := course.saved
  rw [same]
  exact applyWrites_lookup (fun write member => touches write (List.mem_of_mem_take member))
    isOther _

/-- Sets streams and touches no camera entry. -/
def SetsStreams : FrigateWrite → Prop
  | .setConfig request => request.camera = none ∧ ∀ change ∈ request.streams, change.2.isSome
  | .setRuntimeStream _ _ => True
  | _ => False

/-- The first request of the write branch. -/
def entryWrite (desired : DesiredCamera) (snapshot : Snapshot) (retired : Option RetiredRow) :
    FrigateWrite :=
  .setConfig {
    camera := some (desired.key, cameraUpdate desired snapshot retired)
    updateTopic := if snapshot.hasCamera desired.key then none
      else some ("config/cameras/" ++ desired.key ++ "/add") }

omit [FrigateTexts] in
theorem cameraWrites_cons (desired : DesiredCamera) (snapshot : Snapshot)
    (binding : Option FrigateBindingRow) (retired : Option RetiredRow) :
    ∃ rest, cameraWrites desired snapshot binding retired allowRestart =
        entryWrite desired snapshot retired :: rest ∧
      (∀ write ∈ rest, write = setEnabled desired.key true ∨ SetsStreams write ∨
        write = .restart) ∧
      (setEnabled desired.key true ∈ rest ↔ (snapshot.hasCamera desired.key &&
        binding.any (!·.cameraEnabledApplied)) = true) := by
  refine ⟨_, by simp only [cameraWrites, List.append_assoc, List.singleton_append]; rfl, ?_, ?_⟩
  · intro write member
    simp only [List.append_eq, List.mem_append, List.mem_cons] at member
    rcases member with isEnabled | (rfl | isRuntime) | isRestart
    · split at isEnabled
      · exact .inl (List.mem_singleton.mp isEnabled)
      · cases isEnabled
    · refine .inr (.inl ⟨rfl, fun change isChange => ?_⟩)
      obtain ⟨stream, _, rfl⟩ := List.mem_map.mp isChange
      rfl
    · obtain ⟨stream, _, rfl⟩ := List.mem_map.mp isRuntime
      exact .inr (.inl trivial)
    · split at isRestart
      · exact .inr (.inr (List.mem_singleton.mp isRestart))
      · cases isRestart
  · simp only [List.append_eq, List.mem_append, List.mem_cons, List.mem_map]
    constructor
    · rintro (isEnabled | (isStreams | ⟨stream, _, isRuntime⟩) | isRestart)
      · split at isEnabled
        · assumption
        · cases isEnabled
      · cases isStreams
      · cases isRuntime
      · split at isRestart
        · cases List.mem_singleton.mp isRestart
        · cases isRestart
    · intro due
      rw [if_pos due]
      exact .inl List.mem_cons_self

omit [FrigateTexts] in
theorem SetsStreams.touchesOnly {write : FrigateWrite} (setsStreams : SetsStreams write)
    (key : String) : TouchesOnly key write := by
  cases write with
  | setConfig request =>
      intro entry isCamera
      rw [setsStreams.1] at isCamera
      cases isCamera
  | setRuntimeStream aliasKey source => trivial
  | deleteRuntimeStream aliasKey => trivial
  | restart => trivial

omit [FrigateTexts] in
theorem setEnabled_touchesOnly (key : String) (enabled : Bool) :
    TouchesOnly key (setEnabled key enabled) := by
  rintro entry ⟨⟩
  rfl

omit [FrigateTexts] in
theorem cameraWrites_touch {desired : DesiredCamera} {snapshot : Snapshot}
    {binding : Option FrigateBindingRow} {retired : Option RetiredRow} :
    ∀ write ∈ cameraWrites desired snapshot binding retired allowRestart,
      TouchesOnly desired.key write := by
  obtain ⟨rest, isCons, each, _⟩ :=
    cameraWrites_cons allowRestart desired snapshot binding retired
  rw [isCons]
  refine List.forall_mem_cons.mpr ⟨?_, fun write member => ?_⟩
  · rintro entry ⟨⟩
    rfl
  · rcases each write member with rfl | setsStreams | rfl
    · exact setEnabled_touchesOnly _ _
    · exact setsStreams.touchesOnly _
    · trivial

/-- Entries that the camera is not bound to afterwards are as they were. -/
structure RoundEntries (targetId cameraUuid : String) (frigate : Frigate σ)
    (progress next : Progress) (before after : Session σ) : Prop where
  snapshot : next.snapshot.rawConfig = progress.snapshot.rawConfig ∨
    next.snapshot.rawConfig = frigate.saved after.frigate
  entries : ∀ key, boundKey targetId cameraUuid after.tables = some key ∨
    (frigate.saved after.frigate).cameras.lookup key =
      (frigate.saved before.frigate).cameras.lookup key

omit [FrigateTexts] in
theorem Attempted.roundEntries {cameraUuid key ownKey recordUuid detectUuid hash : String}
    {writes : List FrigateWrite} {seen : Snapshot → Session σ → Prop}
    {complete : FrigateTables → FrigateTables} {progress next : Progress}
    {session later : Session σ} (finishes : Finishes scope.targetId cameraUuid ownKey complete)
    (touches : ∀ write ∈ writes, TouchesOnly key write)
    (sees : ∀ snapshot after, seen snapshot after →
      snapshot.rawConfig = progress.snapshot.rawConfig ∨
        snapshot.rawConfig = scope.frigate.saved after.frigate)
    (attempted : Attempted scope cameraUuid (fun tables => tables.recordFrigateAttempt
      scope.targetId cameraUuid key recordUuid detectUuid hash) writes seen complete progress
      session (.ok next, later)) :
    RoundEntries scope.targetId cameraUuid scope.frigate progress next session later := by
  have entries {tables : FrigateTables} {after : Session σ} {succeeded : Bool}
      {complete : FrigateTables → FrigateTables}
      (finishes : Finishes scope.targetId cameraUuid ownKey complete)
      (isRecorded : session.tables.recordFrigateAttempt scope.targetId cameraUuid key recordUuid
        detectUuid hash = some tables)
      (course : Course scope.frigate writes succeeded { session with tables := tables } after)
      (other : String) :
      boundKey scope.targetId cameraUuid (complete after.tables) = some other ∨
        (scope.frigate.saved after.frigate).cameras.lookup other =
          (scope.frigate.saved session.frigate).cameras.lookup other := by
    obtain ⟨_, _, row, isRow, isRowKey, _⟩ := recordFrigateAttempt_only isRecorded
    by_cases isOther : other = key
    · left
      rw [finishes.key, course.tables, boundKey, isRow, Option.map_some, isRowKey, isOther]
    · exact .inr (course.lookup touches isOther)
  cases attempted with
  | failed isPrepared course sent =>
      exact ⟨.inl rfl, entries (finishes_error _ _ ownKey _) isPrepared course⟩
  | verified isPrepared course isSeen =>
      have kept := sees _ _ isSeen
      exact ⟨kept, entries finishes isPrepared course⟩

theorem reconcileCamera_entries {selected : SelectedCamera} {progress next : Progress}
    {session later : Session σ}
    (isDone : reconcileCamera scope allowRestart selected progress session = (.ok next, later)) :
    RoundEntries scope.targetId selected.camera.cameraUuid scope.frigate progress next session
      later := by
  have round := reconcileCamera_round scope allowRestart selected progress session
  rw [isDone] at round
  have named : ∀ desired, (turnBranch scope allowRestart selected progress.snapshot
      session.tables).desired = some desired →
      desired.key = selected.key ∧ desired.cameraUuid = selected.camera.cameraUuid :=
    fun _ => turnBranch_desired scope allowRestart
  generalize turnBranch scope allowRestart selected progress.snapshot session.tables =
    branch at round named
  cases round with
  | rejected code => exact ⟨.inl rfl, fun _ => .inr rfl⟩
  | waiting => exact ⟨.inl rfl, fun _ => .inr rfl⟩
  | needless => exact ⟨.inl rfl, fun _ => .inr rfl⟩
  | settled desired isTables => exact ⟨.inl rfl, fun _ => .inr rfl⟩
  | @disabled row _ isBinding attempted =>
      have touches : ∀ write ∈ [setEnabled row.frigateCameraKey false],
          TouchesOnly row.frigateCameraKey write := by
        intro write member
        obtain rfl := List.mem_singleton.mp member
        exact setEnabled_touchesOnly _ _
      have sees : ∀ snapshot (after : Session σ),
          SeenDisabled row.frigateCameraKey progress snapshot after →
            snapshot.rawConfig = progress.snapshot.rawConfig ∨
              snapshot.rawConfig = scope.frigate.saved after.frigate := by
        rintro snapshot after ⟨config, _, rfl⟩
        exact .inl rfl
      have entries := attempted.roundEntries scope (finishes_applied _ _ selected.key _) touches
        sees
      exact ⟨entries.snapshot, entries.entries⟩
  | awaited desired attempted =>
      have entries := attempted.roundEntries scope (finishes_applied _ _ selected.key _)
        (by simp) fun _ _ isSeen => .inr isSeen.2.2
      rw [(named desired rfl).2] at entries
      exact ⟨entries.snapshot, entries.entries⟩
  | written desired attempted =>
      have entries := attempted.roundEntries scope (finishes_written scope desired _)
        (cameraWrites_touch allowRestart) fun _ _ isSeen => .inr isSeen.2.2
      rw [(named desired rfl).2] at entries
      exact ⟨entries.snapshot, entries.entries⟩

end

end CamAdmiral
