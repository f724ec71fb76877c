import CamAdmiral.FrigateSessions
import CamAdmiral.ReconcileCore

/-!
What one round of the reconcile loop does: the courses of writes of its branches, and the
tables it leaves.
-/

namespace CamAdmiral

variable {σ : Type} {frigate : Frigate σ}

/-! Snapshots. -/

theorem writes_takeSnapshot : Writes frigate (takeSnapshot frigate) [] :=
  (writes_ask _).bind fun _ => (writes_ask _).bind fun _ => (writes_ask _).bind fun _ =>
    (writes_ask _).bind fun _ => (writes_ask _).bind fun _ => writes_pure _

theorem takeSnapshot_rawConfig {session later : Session σ} {snapshot : Snapshot}
    (isDone : takeSnapshot frigate session = (.ok snapshot, later)) :
    snapshot.rawConfig = frigate.saved session.frigate := by
  obtain ⟨config, first, isFirst, isDone⟩ := Program.bind_ok.mp isDone
  obtain ⟨rawPaths, second, isSecond, isDone⟩ := Program.bind_ok.mp isDone
  obtain ⟨raw, third, isThird, isDone⟩ := Program.bind_ok.mp isDone
  obtain ⟨_, fourth, _, isDone⟩ := Program.bind_ok.mp isDone
  obtain ⟨_, fifth, _, isDone⟩ := Program.bind_ok.mp isDone
  obtain rfl := Except.ok.inj (Prod.mk.inj isDone).1
  have early := ((writes_ask _).of_ok isFirst).nil_quiet.trans
    ((writes_ask _).of_ok isSecond).nil_quiet
  exact (ask_rawConfig isThird).trans early.saved

theorem writes_pollCameraState (desired : DesiredCamera) :
    Writes frigate (pollCameraState frigate desired) [] := by
  refine writes_takeSnapshot.bind fun snapshot => ?_
  dsimp only
  split
  · exact writes_pure _
  · exact writes_fail _

theorem writes_waitForCameraState (desired : DesiredCamera) :
    Writes frigate (waitForCameraState frigate desired) [] :=
  (writes_read _).bind fun rounds => writes_untilDeadline (writes_pollCameraState desired) rounds

/-- A loop that ends well ends with a round that does. -/
theorem untilDeadline_ok {α : Type} {poll : Talk σ α} (reads : Writes frigate poll [])
    {rounds : Nat} {session later : Session σ} {value : α}
    (isDone : untilDeadline poll rounds session = (.ok value, later)) :
    ∃ between, Quiet frigate session between ∧ poll between = (.ok value, later) := by
  induction rounds generalizing session with
  | zero => exact ⟨session, .refl session, isDone⟩
  | succ rounds ih =>
      obtain ⟨outcome, between, isOutcome, course, isValue⟩ := reads.attempt session
      rw [untilDeadline, Program.bind_of_ok isOutcome] at isDone
      cases outcome with
      | ok first =>
          obtain ⟨same, rfl⟩ := Prod.mk.inj isDone
          obtain rfl := Except.ok.inj same
          exact ⟨session, .refl session, isValue first rfl⟩
      | error error =>
          obtain ⟨last, quiet, isLast⟩ := ih isDone
          exact ⟨last, course.nil_quiet.trans quiet, isLast⟩

/-- A wait that ends well has seen the camera as desired and running. -/
theorem waitForCameraState_ok {desired : DesiredCamera} {session later : Session σ}
    {snapshot : Snapshot}
    (isDone : waitForCameraState frigate desired session = (.ok snapshot, later)) :
    actualMatches desired snapshot = true ∧ snapshot.running desired.key = true ∧
      snapshot.rawConfig = frigate.saved later.frigate := by
  obtain ⟨rounds, start, isStart, isDone⟩ := Program.bind_ok.mp isDone
  obtain ⟨last, _, isLast⟩ := untilDeadline_ok (writes_pollCameraState desired) isDone
  obtain ⟨taken, after, isTaken, isLast⟩ := Program.bind_ok.mp isLast
  have fresh := takeSnapshot_rawConfig isTaken
  have quiet := (writes_takeSnapshot.of_ok isTaken).nil_quiet
  cases mismatch : (actualMismatch desired taken).or
      (if taken.running desired.key then none else some "camera_start_pending") with
  | none =>
      rw [mismatch] at isLast
      obtain ⟨same, rfl⟩ := Prod.mk.inj isLast
      obtain rfl := Except.ok.inj same
      rw [Option.or_eq_none_iff] at mismatch
      refine ⟨by simp [actualMatches, mismatch.1], ?_, fresh.trans quiet.saved.symm⟩
      simpa using mismatch.2
  | some code =>
      rw [mismatch] at isLast
      cases isLast

/-! The branches of a round. -/

inductive Branch
  | disabled
  | failed (error : ApiError)
  | rejected (code : String)
  /-- A retired entry waits for a call that may restart Frigate. -/
  | waiting
  | settled (desired : DesiredCamera)
  | awaited (desired : DesiredCamera)
  | written (desired : DesiredCamera)
  deriving DecidableEq, Repr

variable [FrigateTexts] (scope : SyncScope σ) (allowRestart : Bool)

def enabledBranch (desired : DesiredCamera) (snapshot : Snapshot)
    (binding : Option FrigateBindingRow) (retired : Option RetiredRow) : Branch :=
  let known := snapshot.hasCamera desired.key
  let aliasesExist := desired.streams.any fun (name, _) =>
    (snapshot.rawPaths.streams.lookup name).isSome || name ∈ snapshot.runtimeStreams
  if binding.isNone && retired.isNone && (known || aliasesExist) then
    .rejected (if known then "camera_resource_conflict" else "stream_resource_conflict")
  else if retired.isSome && !allowRestart then
    .waiting
  else if isSettled desired snapshot binding retired then
    .settled desired
  else if known && actualMatches desired snapshot && !snapshot.running desired.key &&
      retired.isNone then
    .awaited desired
  else
    .written desired

/-- The branch that the round of a camera takes, from what is known before it. -/
def turnBranch (selected : SelectedCamera) (snapshot : Snapshot) (tables : FrigateTables) :
    Branch :=
  if !selected.camera.enabled then
    .disabled
  else
    match scope.host selected.addressMode with
    | .error error => .failed error
    | .ok host =>
        match desiredCamera selected scope.consumers.password host with
        | .error error => .rejected error.code
        | .ok none => .rejected "stream_roles_missing"
        | .ok (some desired) => enabledBranch allowRestart desired snapshot
            (tables.frigateBinding scope.targetId selected.camera.cameraUuid)
            (tables.retiredFrigateCamera scope.targetId desired.key)

def runBranch (selected : SelectedCamera) (progress : Progress)
    (binding : Option FrigateBindingRow) (retired : DesiredCamera → Option RetiredRow) :
    Branch → Talk σ Progress
  | .disabled => disableCamera scope selected.camera.cameraUuid binding progress
  | .failed error => Program.fail (.api error)
  | .rejected code => reportConflict scope selected.camera.cameraUuid code progress
  | .waiting => pure progress.postponed
  | .settled desired => do
      if binding.any (·.status ≠ .applied) then
        amend (·.completeApplied scope.targetId desired.cameraUuid desired.desiredHash)
      markApplied desired.cameraUuid progress
  | .awaited desired => awaitCamera scope desired progress
  | .written desired => writeCamera scope desired binding (retired desired) allowRestart progress

theorem desiredCamera_key {selected : SelectedCamera} {password host : String}
    {desired : DesiredCamera}
    (isDesired : desiredCamera selected password host = .ok (some desired)) :
    desired.key = selected.key ∧ desired.cameraUuid = selected.camera.cameraUuid := by
  unfold desiredCamera at isDesired
  split at isDesired
  case h_2 => cases isDesired
  case h_1 record detect _ _ =>
    dsimp only at isDesired
    split at isDesired
    all_goals
      obtain ⟨size, _, isDesired⟩ := except_bind isDesired
      split at isDesired
      case h_2 => cases isDesired
      obtain ⟨source, _, isDesired⟩ := except_bind isDesired
      obtain rfl := Option.some.inj (Except.ok.inj isDesired)
      exact ⟨rfl, rfl⟩

omit [FrigateTexts] in
theorem applyDesired_branch (selected : SelectedCamera) (desired : DesiredCamera)
    (progress : Progress) (sameUuid : desired.cameraUuid = selected.camera.cameraUuid)
    (session : Session σ) :
    applyDesired scope desired
        (session.tables.frigateBinding scope.targetId selected.camera.cameraUuid) allowRestart
        progress session =
      runBranch scope allowRestart selected progress
        (session.tables.frigateBinding scope.targetId selected.camera.cameraUuid)
        (fun desired => session.tables.retiredFrigateCamera scope.targetId desired.key)
        (enabledBranch allowRestart desired progress.snapshot
          (session.tables.frigateBinding scope.targetId selected.camera.cameraUuid)
          (session.tables.retiredFrigateCamera scope.targetId desired.key)) session := by
  generalize session.tables.frigateBinding scope.targetId selected.camera.cameraUuid = binding
  change (if _ then _ else _ : Talk σ Progress) session = _
  unfold enabledBranch
  dsimp only
  split
  · rw [sameUuid]
    rfl
  split
  · rfl
  split
  · rfl
  split
  · rfl
  · rfl

theorem reconcileCamera_branch (selected : SelectedCamera) (progress : Progress)
    (session : Session σ) :
    reconcileCamera scope allowRestart selected progress session =
      runBranch scope allowRestart selected progress
        (session.tables.frigateBinding scope.targetId selected.camera.cameraUuid)
        (fun desired => session.tables.retiredFrigateCamera scope.targetId desired.key)
        (turnBranch scope allowRestart selected progress.snapshot session.tables)
        { session with
          tables := session.tables.setFrigateSelectionError scope.targetId
            selected.camera.cameraUuid none } := by
  let cleared : Session σ := { session with
    tables := session.tables.setFrigateSelectionError scope.targetId
      selected.camera.cameraUuid none }
  change (if !selected.camera.enabled then _ else _ : Talk σ Progress) cleared = _
  unfold turnBranch
  split
  · rfl
  cases isHost : scope.host selected.addressMode with
  | error error => rfl
  | ok host =>
      change (match desiredCamera selected scope.consumers.password host with
        | .error error => _ | .ok none => _ | .ok (some desired) => _ : Talk σ Progress) cleared = _
      dsimp only
      cases isDesired : desiredCamera selected scope.consumers.password host with
      | error error => rfl
      | ok found =>
          cases found with
          | none => rfl
          | some desired =>
              exact applyDesired_branch scope allowRestart selected desired progress
                (desiredCamera_key isDesired).2 cleared

/-- The camera that a branch is about. -/
def Branch.desired : Branch → Option DesiredCamera
  | .settled desired | .awaited desired | .written desired => some desired
  | _ => none

omit [FrigateTexts] in
theorem enabledBranch_desired {desired found : DesiredCamera} {snapshot : Snapshot}
    {binding : Option FrigateBindingRow} {retired : Option RetiredRow}
    (isFound : (enabledBranch allowRestart desired snapshot binding retired).desired = some found) :
    found = desired := by
  unfold enabledBranch at isFound
  dsimp only at isFound
  split at isFound
  · cases isFound
  split at isFound
  · cases isFound
  split at isFound
  · exact (Option.some.inj isFound).symm
  split at isFound
  · exact (Option.some.inj isFound).symm
  · exact (Option.some.inj isFound).symm

theorem turnBranch_desired {selected : SelectedCamera} {snapshot : Snapshot}
    {tables : FrigateTables} {desired : DesiredCamera}
    (isFound : (turnBranch scope allowRestart selected snapshot tables).desired = some desired) :
    desired.key = selected.key ∧ desired.cameraUuid = selected.camera.cameraUuid := by
  unfold turnBranch at isFound
  split at isFound
  · cases isFound
  cases isHost : scope.host selected.addressMode with
  | error error =>
      rw [isHost] at isFound
      cases isFound
  | ok host =>
      rw [isHost] at isFound
      dsimp only at isFound
      cases isDesired : desiredCamera selected scope.consumers.password host with
      | error error =>
          rw [isDesired] at isFound
          cases isFound
      | ok wanted =>
          rw [isDesired] at isFound
          cases wanted with
          | none => cases isFound
          | some wanted =>
              obtain rfl := enabledBranch_desired allowRestart isFound
              exact desiredCamera_key isDesired

/-! Which rounds reach the write branch. -/

/-- Some alias of the camera exists in Frigate. -/
def aliasesExist (desired : DesiredCamera) (snapshot : Snapshot) : Bool :=
  desired.streams.any fun (name, _) =>
    (snapshot.rawPaths.streams.lookup name).isSome || name ∈ snapshot.runtimeStreams

/-- The entry is configured as desired, and its worker is not running. -/
def awaitsWorker (desired : DesiredCamera) (snapshot : Snapshot) (retired : Option RetiredRow) :
    Bool :=
  snapshot.hasCamera desired.key && actualMatches desired snapshot &&
    !snapshot.running desired.key && retired.isNone

omit [FrigateTexts] in
theorem enabledBranch_written {desired : DesiredCamera} {snapshot : Snapshot}
    {binding : Option FrigateBindingRow} {retired : Option RetiredRow} {target : DesiredCamera} :
    enabledBranch allowRestart desired snapshot binding retired = .written target ↔
      target = desired ∧
      (binding.isNone && retired.isNone &&
        (snapshot.hasCamera desired.key || aliasesExist desired snapshot)) = false ∧
      (retired.isSome = true → allowRestart = true) ∧
      isSettled desired snapshot binding retired = false ∧
      awaitsWorker desired snapshot retired = false := by
  unfold enabledBranch
  change (if (binding.isNone && retired.isNone &&
      (snapshot.hasCamera desired.key || aliasesExist desired snapshot)) = true then _
    else if (retired.isSome && !allowRestart) = true then _
    else if isSettled desired snapshot binding retired = true then _
    else if awaitsWorker desired snapshot retired = true then _ else _) = _ ↔ _
  by_cases conflicts : (binding.isNone && retired.isNone &&
      (snapshot.hasCamera desired.key || aliasesExist desired snapshot)) = true
  · simp [conflicts]
  by_cases waits : (retired.isSome && !allowRestart) = true
  · rw [if_neg conflicts, if_pos waits]
    rw [Bool.and_eq_true, Bool.not_eq_true'] at waits
    simp [waits.1, waits.2]
  by_cases settled : isSettled desired snapshot binding retired = true
  · rw [if_neg conflicts, if_neg waits, if_pos settled]
    simp [settled]
  by_cases awaits : awaitsWorker desired snapshot retired = true
  · rw [if_neg conflicts, if_neg waits, if_neg settled, if_pos awaits]
    simp [awaits]
  rw [if_neg conflicts, if_neg waits, if_neg settled, if_neg awaits, Branch.written.injEq]
  have restarts : retired.isSome = true → allowRestart = true := by
    intro isRetired
    by_contra cold
    exact waits (by simp [isRetired, cold])
  constructor
  · rintro rfl
    exact ⟨rfl, Bool.eq_false_iff.mpr conflicts, restarts, Bool.eq_false_iff.mpr settled,
      Bool.eq_false_iff.mpr awaits⟩
  · rintro ⟨rfl, _⟩
    rfl

theorem turnBranch_written {selected : SelectedCamera} {snapshot : Snapshot}
    {tables : FrigateTables} {desired : DesiredCamera} :
    turnBranch scope allowRestart selected snapshot tables = .written desired ↔
      selected.camera.enabled = true ∧
      (∃ host, scope.host selected.addressMode = .ok host ∧
        desiredCamera selected scope.consumers.password host = .ok (some desired)) ∧
      enabledBranch allowRestart desired snapshot
        (tables.frigateBinding scope.targetId selected.camera.cameraUuid)
        (tables.retiredFrigateCamera scope.targetId desired.key) = .written desired := by
  unfold turnBranch
  by_cases enabled : selected.camera.enabled = true
  swap
  · simp [enabled]
  simp only [enabled, Bool.not_true, Bool.false_eq_true, if_false, true_and]
  cases scope.host selected.addressMode with
  | error error => simp
  | ok host =>
      cases isDesired : desiredCamera selected scope.consumers.password host with
      | error error => simp [isDesired]
      | ok found =>
          cases found with
          | none => simp [isDesired]
          | some found =>
              simp only [Except.ok.injEq, exists_eq_left', isDesired, Option.some.injEq]
              constructor
              · intro isWritten
                obtain ⟨rfl, _⟩ := (enabledBranch_written allowRestart).mp isWritten
                exact ⟨rfl, isWritten⟩
              · rintro ⟨rfl, isWritten⟩
                exact isWritten

end CamAdmiral
