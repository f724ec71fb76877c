import CamAdmiral.ImportSync

/-!
A whole call of `reconcile_frigate`: the streams of imported entries first, and then the
rounds of the selected cameras, each from the state that the one before has left.
-/

namespace CamAdmiral

variable {σ : Type}

/-! Imported entries. -/

/-- What the synchronization of the imported entries may have done. -/
structure Synced (frigate : Frigate σ) (before after : Session σ) : Prop where
  targets : after.tables.targets = before.tables.targets
  bindings : after.tables.bindings = before.tables.bindings
  retired : after.tables.retired = before.tables.retired
  owners : after.tables.selections.map SelectionRow.owner =
    before.tables.selections.map SelectionRow.owner
  cameras : (frigate.saved after.frigate).cameras = (frigate.saved before.frigate).cameras
  failures : before.failures <+: after.failures
  log : ∃ events, after.log = before.log ++ events ∧
    ∀ event ∈ events, ∃ write state, event = .write write state ∧ SetsStreams write

namespace Synced

variable {frigate : Frigate σ}

theorem refl (session : Session σ) : Synced frigate session session :=
  ⟨rfl, rfl, rfl, rfl, rfl, List.prefix_rfl, [], by simp, by simp⟩

theorem trans {first second third : Session σ} (early : Synced frigate first second)
    (late : Synced frigate second third) : Synced frigate first third where
  targets := late.targets.trans early.targets
  bindings := late.bindings.trans early.bindings
  retired := late.retired.trans early.retired
  owners := late.owners.trans early.owners
  cameras := late.cameras.trans early.cameras
  failures := early.failures.trans late.failures
  log := by
    obtain ⟨events, isLog, each⟩ := early.log
    obtain ⟨others, isLater, eachOther⟩ := late.log
    refine ⟨events ++ others, by rw [isLater, isLog, List.append_assoc], ?_⟩
    intro event member
    rcases List.mem_append.mp member with isEarly | isLate
    · exact each event isEarly
    · exact eachOther event isLate

theorem of_quiet {session later : Session σ} (quiet : Quiet frigate session later) :
    Synced frigate session later :=
  ⟨by rw [quiet.tables], by rw [quiet.tables], by rw [quiet.tables], by rw [quiet.tables],
    by rw [quiet.saved], quiet.failures, [], by simp [quiet.log], by simp⟩

theorem readStable (start : Session σ) : ReadStable frigate (Synced frigate start) :=
  fun _ _ quiet synced => synced.trans (of_quiet quiet)

theorem of_sent {write : FrigateWrite} {session later : Session σ}
    (sent : Sent frigate write session later) (setsStreams : SetsStreams write) :
    Synced frigate session later := by
  have cameras (raw : RawConfig) : (write.apply raw).cameras = raw.cameras := by
    cases write with
    | setConfig request =>
        simp only [FrigateWrite.apply, ConfigRequest.apply, setsStreams.1]
    | setRuntimeStream aliasKey source => rfl
    | deleteRuntimeStream aliasKey => rfl
    | restart => rfl
  refine ⟨by rw [sent.tables], by rw [sent.tables], by rw [sent.tables], by rw [sent.tables], ?_,
    sent.failures, [.write write session.frigate], sent.log, ?_⟩
  · rcases sent.saved with same | applied
    · rw [same]
    · rw [applied, cameras]
  · simp [setsStreams]

theorem of_tables {session : Session σ} {tables : FrigateTables}
    (targets : tables.targets = session.tables.targets)
    (bindings : tables.bindings = session.tables.bindings)
    (retired : tables.retired = session.tables.retired)
    (owners : tables.selections.map SelectionRow.owner =
      session.tables.selections.map SelectionRow.owner) :
    Synced frigate session { session with tables := tables } :=
  ⟨targets, bindings, retired, owners, rfl, List.prefix_rfl, [], by simp, by simp⟩

end Synced

section
open Program

variable (scope : SyncScope σ) (start : Session σ)

theorem synced_syncKeeps (key : String) (row : ImportRow) :
    SyncKeeps scope key row (Synced scope.frigate start) where
  reads := Synced.readStable start
  reports cameraUuid code session synced := by
    have only : OnlyCamera scope.targetId cameraUuid session.tables _ :=
      .selectionError session.tables code
    exact synced.trans (.of_tables rfl rfl rfl only.owners)
  sends synced setsStreams _ sent := synced.trans (.of_sent sent setsStreams)
  saves {session tables value} synced isSaved := by
    refine synced.trans ?_
    obtain ⟨target, _, isSaved⟩ := Option.bind_eq_some_iff.mp isSaved
    cases isCamera : value.cameraUuid with
    | none =>
        rw [isCamera] at isSaved
        obtain rfl := Option.some.inj isSaved
        exact .of_tables rfl rfl rfl rfl
    | some cameraUuid =>
        rw [isCamera] at isSaved
        dsimp only at isSaved
        split at isSaved
        · cases isSaved
        · obtain rfl := Option.some.inj isSaved
          exact .of_tables rfl rfl rfl rfl

variable [FrigateTexts]

theorem inspectFrigate_synced (session : Session σ) :
    Synced scope.frigate session (inspectFrigate scope session).2 := by
  have preserves : Preserves (Synced scope.frigate session) (inspectFrigate scope) :=
    (preserves_ask (Synced.readStable session) _).bind fun _ =>
      (preserves_syncImported (synced_syncKeeps scope session)).bind fun _ =>
        (writes_takeSnapshot.preserves (Synced.readStable session)).bind fun _ =>
          preserves_pure _
  exact preserves.holds (.refl session)

/-- The cameras of the import journal. -/
def importedUuids (tables : FrigateTables) : List String :=
  (importRows tables scope.targetId).filterMap (·.2.cameraUuid)

theorem syncImported_uuids {session later : Session σ} {imported : List String}
    (isDone : syncImported scope session = (.ok imported, later)) :
    imported = importedUuids scope session.tables := by
  obtain ⟨tables, first, isRead, isDone⟩ := Program.bind_ok.mp isDone
  obtain ⟨same, rfl⟩ := Prod.mk.inj isRead
  obtain rfl := Except.ok.inj same
  obtain ⟨_, second, _, isDone⟩ := Program.bind_ok.mp isDone
  exact (Except.ok.inj (Prod.mk.inj isDone).1).symm

theorem inspectFrigate_imported {session later : Session σ} {imported : List String}
    {snapshot : Snapshot}
    (isDone : inspectFrigate scope session = (.ok (imported, snapshot), later)) :
    imported = importedUuids scope session.tables := by
  obtain ⟨_, first, isFirst, isDone⟩ := Program.bind_ok.mp isDone
  obtain ⟨uuids, second, isSynced, isDone⟩ := Program.bind_ok.mp isDone
  obtain ⟨taken, third, isTaken, isDone⟩ := Program.bind_ok.mp isDone
  obtain ⟨rfl, _⟩ := Prod.mk.inj (Except.ok.inj (Prod.mk.inj isDone).1)
  rw [syncImported_uuids scope isSynced, ((writes_ask _).of_ok isFirst).nil_quiet.tables]

/-- What the call has read is what is saved. -/
theorem inspectFrigate_rawConfig {session later : Session σ} {imported : List String}
    {snapshot : Snapshot}
    (isDone : inspectFrigate scope session = (.ok (imported, snapshot), later)) :
    snapshot.rawConfig = scope.frigate.saved later.frigate := by
  obtain ⟨_, first, _, isDone⟩ := Program.bind_ok.mp isDone
  obtain ⟨_, second, _, isDone⟩ := Program.bind_ok.mp isDone
  obtain ⟨taken, third, isTaken, isDone⟩ := Program.bind_ok.mp isDone
  obtain ⟨same, rfl⟩ := Prod.mk.inj isDone
  obtain ⟨_, rfl⟩ := Prod.mk.inj (Except.ok.inj same)
  have quiet := (writes_takeSnapshot.of_ok isTaken).nil_quiet
  exact (takeSnapshot_rawConfig isTaken).trans quiet.saved.symm

end

/-! The rounds of a call. -/

/-- A round, with what the loop knows before it. -/
structure Turn (σ : Type) where
  selected : SelectedCamera
  progress : Progress
  session : Session σ

section
variable [FrigateTexts] (scope : SyncScope σ) (allowRestart : Bool)

/-- The rounds of the loop, up to the first that raises. -/
def reconcileTurns : List SelectedCamera → Progress → Session σ → List (Turn σ)
  | [], _, _ => []
  | selected :: rest, progress, session =>
      ⟨selected, progress, session⟩ ::
        match reconcileCamera scope allowRestart selected progress session with
        | (.ok next, later) => reconcileTurns rest next later
        | (.error _, _) => []

def callTurns (only : Option String) (session : Session σ) : List (Turn σ) :=
  let cameras := scopeCameras scope session.tables only
  if cameras.isEmpty then
    []
  else
    match inspectFrigate scope session with
    | (.error _, _) => []
    | (.ok (imported, snapshot), later) => reconcileTurns scope allowRestart
        (cameras.filter (·.camera.cameraUuid ∉ imported)) { snapshot } later

theorem reconcileFrigate_eq (only : Option String) (session : Session σ) :
    reconcileFrigate scope allowRestart only session =
      if (scopeCameras scope session.tables only).isEmpty then (.ok (0, 0), session)
      else (do
        let found ← inspectFrigate scope
        let progress ← reconcileCameras scope allowRestart
          ((scopeCameras scope session.tables only).filter (·.camera.cameraUuid ∉ found.1))
          { snapshot := found.2 }
        pure (progress.applied, progress.pending) : Talk σ (Nat × Nat)) session := by
  change (if _ then (pure (0, 0) : Talk σ (Nat × Nat)) else _) session = _
  split
  · rfl
  · rfl

/-- A call either ends before its first round, or it is the loop after the inspection. -/
theorem reconcileFrigate_cases (only : Option String) (session : Session σ) :
    (callTurns scope allowRestart only session = [] ∧
      Synced scope.frigate session (reconcileFrigate scope allowRestart only session).2) ∨
    ∃ imported snapshot between,
      inspectFrigate scope session = (.ok (imported, snapshot), between) ∧
      callTurns scope allowRestart only session = reconcileTurns scope allowRestart
        ((scopeCameras scope session.tables only).filter (·.camera.cameraUuid ∉ imported))
        { snapshot } between ∧
      (reconcileFrigate scope allowRestart only session).2 =
        (reconcileCameras scope allowRestart
          ((scopeCameras scope session.tables only).filter (·.camera.cameraUuid ∉ imported))
          { snapshot } between).2 := by
  have synced := inspectFrigate_synced scope session
  rw [reconcileFrigate_eq, callTurns]
  by_cases isEmpty : (scopeCameras scope session.tables only).isEmpty = true
  · rw [if_pos isEmpty, if_pos isEmpty]
    exact .inl ⟨rfl, .refl session⟩
  · rw [if_neg isEmpty, if_neg isEmpty]
    cases isInspected : inspectFrigate scope session with
    | mk result between =>
        rw [isInspected] at synced
        cases result with
        | error failure =>
            rw [Program.bind_of_error isInspected]
            exact .inl ⟨rfl, synced⟩
        | ok found =>
            refine .inr ⟨found.1, found.2, between, rfl, rfl, ?_⟩
            rw [Program.bind_of_ok isInspected]
            cases isLoop : reconcileCameras scope allowRestart
              ((scopeCameras scope session.tables only).filter
                (·.camera.cameraUuid ∉ found.1)) { snapshot := found.2 } between with
            | mk outcome later =>
                cases outcome with
                | ok progress => exact congrArg Prod.snd (Program.bind_of_ok isLoop)
                | error failure => exact congrArg Prod.snd (Program.bind_of_error isLoop)

/-- The loop goes on after a round that returns, and ends with one that raises. -/
theorem reconcileCameras_cons (selected : SelectedCamera) (rest : List SelectedCamera)
    (progress : Progress) (session : Session σ) :
    (∃ failure later,
      reconcileCamera scope allowRestart selected progress session = (.error failure, later) ∧
      reconcileCameras scope allowRestart (selected :: rest) progress session =
        (.error failure, later) ∧
      reconcileTurns scope allowRestart (selected :: rest) progress session =
        [⟨selected, progress, session⟩]) ∨
    ∃ next later,
      reconcileCamera scope allowRestart selected progress session = (.ok next, later) ∧
      reconcileCameras scope allowRestart (selected :: rest) progress session =
        reconcileCameras scope allowRestart rest next later ∧
      reconcileTurns scope allowRestart (selected :: rest) progress session =
        ⟨selected, progress, session⟩ :: reconcileTurns scope allowRestart rest next later := by
  cases isRound : reconcileCamera scope allowRestart selected progress session with
  | mk result later =>
      cases result with
      | error failure =>
          refine .inl ⟨failure, later, rfl, Program.bind_of_error isRound, ?_⟩
          rw [reconcileTurns, isRound]
      | ok next =>
          refine .inr ⟨next, later, rfl, Program.bind_of_ok isRound, ?_⟩
          rw [reconcileTurns, isRound]

theorem reconcileCameras_failures (cameras : List SelectedCamera) (progress : Progress)
    (session : Session σ) : session.failures <+:
      (reconcileCameras scope allowRestart cameras progress session).2.failures := by
  induction cameras generalizing progress session with
  | nil => exact List.prefix_rfl
  | cons selected rest ih =>
      have first := reconcileCamera_failures scope allowRestart selected progress session
      rcases reconcileCameras_cons scope allowRestart selected rest progress session with
        ⟨failure, later, isRound, isLoop, _⟩ | ⟨next, later, isRound, isLoop, _⟩
      · rw [isRound] at first
        rwa [isLoop]
      · rw [isRound] at first
        rw [isLoop]
        exact first.trans (ih next later)

/-! A camera has at most one round. -/

omit [FrigateTexts] in
theorem selectedCameraInventory_distinct (tables : FrigateTables) (consumers : Consumers)
    (targetId : String) : ((selectedCameraInventory tables consumers targetId).map
      (·.camera.cameraUuid)).Nodup := by
  have sublist (cameras : List ConsumerCamera)
      (find : ConsumerCamera → Option SelectedCamera)
      (same : ∀ camera selected, find camera = some selected → selected.camera = camera) :
      ((cameras.filterMap find).map (·.camera.cameraUuid)).Sublist
        (cameras.map (·.cameraUuid)) := by
    induction cameras with
    | nil => exact List.Sublist.slnil
    | cons camera rest ih =>
        cases isFound : find camera with
        | none => simpa [List.filterMap_cons, isFound] using ih.cons _
        | some selected =>
            simpa [List.filterMap_cons, isFound, same camera selected isFound] using ih
  refine consumers.distinct.sublist (sublist _ _ fun camera selected isFound => ?_)
  obtain ⟨row, _, rfl⟩ := Option.map_eq_some_iff.mp isFound
  rfl

omit [FrigateTexts] in
theorem scopeCameras_distinct (tables : FrigateTables) (only : Option String) :
    ((scopeCameras scope tables only).map (·.camera.cameraUuid)).Nodup :=
  (selectedCameraInventory_distinct tables scope.consumers scope.targetId).sublist
    (List.filter_sublist.map _)

/-- Until its own round the binding of a camera stays, and with its own key it keeps it. -/
theorem turns_keep_binding {cameras : List SelectedCamera} {progress : Progress}
    {session : Session σ} (distinct : (cameras.map (·.camera.cameraUuid)).Nodup)
    {cameraUuid key : String} {binding : Option FrigateBindingRow}
    (isBound : boundKey scope.targetId cameraUuid session.tables =
      some (frigateCameraKey cameraUuid))
    (isBinding : cameraUuid ∈ cameras.map (·.camera.cameraUuid) →
      session.tables.frigateBinding scope.targetId cameraUuid = binding)
    (unretired : session.tables.retiredFrigateCamera scope.targetId key = none) :
    ∀ turn ∈ reconcileTurns scope allowRestart cameras progress session,
      boundKey scope.targetId cameraUuid turn.session.tables =
        some (frigateCameraKey cameraUuid) ∧
      (turn.selected.camera.cameraUuid = cameraUuid →
        turn.session.tables.frigateBinding scope.targetId cameraUuid = binding) ∧
      turn.session.tables.retiredFrigateCamera scope.targetId key = none := by
  induction cameras generalizing progress session with
  | nil => simp [reconcileTurns]
  | cons selected rest ih =>
      rw [List.map_cons, List.nodup_cons] at distinct
      have round := reconcileCamera_tables scope allowRestart selected progress session
      have first : boundKey scope.targetId cameraUuid session.tables =
            some (frigateCameraKey cameraUuid) ∧
          (selected.camera.cameraUuid = cameraUuid →
            session.tables.frigateBinding scope.targetId cameraUuid = binding) ∧
          session.tables.retiredFrigateCamera scope.targetId key = none :=
        ⟨isBound, fun same => isBinding (by simp [same]), unretired⟩
      rcases reconcileCameras_cons scope allowRestart selected rest progress session with
        ⟨failure, later, isRound, _, isTurns⟩ | ⟨next, later, isRound, _, isTurns⟩
      · rw [isTurns]
        simpa using first
      · rw [isRound] at round
        rw [isTurns]
        refine List.forall_mem_cons.mpr ⟨first, ih distinct.2 ?_ ?_ (round.retired_none unretired)⟩
        · by_cases same : cameraUuid = selected.camera.cameraUuid
          · subst same
            rcases round.key with kept | own
            · exact kept.trans isBound
            · exact own
          · rw [boundKey, round.others _ same]
            exact isBound
        · intro member
          have isOther : cameraUuid ≠ selected.camera.cameraUuid := by
            rintro rfl
            exact distinct.1 member
          exact (round.others _ isOther).trans (isBinding (List.mem_cons_of_mem _ member))

end

/-! A camera on a Frigate that accepts every call, for concrete runs. -/

def yardCamera : ConsumerCamera where
  cameraUuid := "c"
  displayName := "Yard"
  streams := [
    { streamUuid := "s"
      streamKey := "k"
      roles := ["record", "detect"]
      probedWidth := 4
      probedHeight := 3 }]

def yardScope : SyncScope PlainState where
  frigate := plainFrigate
  targetId := "t"
  consumers := { cameras := [yardCamera] }
  host _ := .ok "h"

def yardStreams : StreamMap :=
  let source := "rtsp://camadmiral:@h:18554/k"
  [("camadmiral_c_record", [source]), ("camadmiral_c_detect", [source])]

/-- The entry of the camera, as CamAdmiral writes it. -/
def yardEntry (enabled : Bool) : CameraEntry where
  enabled := some enabled
  friendlyName := some "Yard"
  inputs := desiredInputs "camadmiral_c_record" "camadmiral_c_detect" true
  detectSize := some (4, 3)
  live := [("Record", "camadmiral_c_record"), ("Detect", "camadmiral_c_detect")]

def yardFrigate (entry : CameraEntry) (stats : List (String × Bool)) : PlainState where
  saved := { cameras := [("camadmiral_c", entry)], streams := yardStreams }
  live := { cameras := [("camadmiral_c", entry)] }
  runtime := ["camadmiral_c_record", "camadmiral_c_detect"]
  stats := stats

def yardBinding (cameraEnabledApplied : Bool) : FrigateBindingRow where
  targetId := "t"
  cameraUuid := "c"
  frigateCameraKey := "camadmiral_c"
  recordStreamUuid := "s"
  detectStreamUuid := "s"
  desiredHash := "camadmiral_c"
  appliedHash := some "camadmiral_c"
  status := .applied
  cameraEnabledApplied := cameraEnabledApplied

def yardTables (binding : FrigateBindingRow) : FrigateTables where
  targets := [⟨"t", "Frigate", "u", .connected, none, false, some .lan⟩]
  selections := [{ targetId := "t", cameraUuid := "c" }]
  bindings := [binding]

end CamAdmiral
