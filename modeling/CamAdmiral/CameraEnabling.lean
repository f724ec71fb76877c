import CamAdmiral.ReconcileCalls

/-!
When `reconcile_frigate` enables an entry in Frigate: exactly in a round that reaches the
write branch and finds the entry missing, retired, or disabled by CamAdmiral itself.
-/

namespace CamAdmiral

variable {σ : Type}

def enablesWrite (key : String) : FrigateWrite → Bool
  | .setConfig request => request.camera.any fun (name, change) =>
      name = key && change.enabled = .set true
  | _ => false

/-- An event that sends `enabled = true` for an entry. -/
def enablesEntry (key : String) : Event σ → Bool
  | .write write _ => enablesWrite key write
  | .applied _ => false

/-- What a call has added to the log. -/
def newEvents (before after : Session σ) : List (Event σ) := after.log.drop before.log.length

theorem newEvents_of_append {before after : Session σ} {events : List (Event σ)}
    (isLog : after.log = before.log ++ events) : newEvents before after = events := by
  rw [newEvents, isLog, List.drop_left]

/-! One round. -/

theorem enables_setEnabled (key entry : String) (enabled : Bool) :
    enablesWrite key (setEnabled entry enabled) = true ↔ entry = key ∧ enabled = true := by
  simp [enablesWrite, setEnabled]

theorem enables_entryWrite {key : String} {desired : DesiredCamera} {snapshot : Snapshot}
    {retired : Option RetiredRow} :
    enablesWrite key (entryWrite desired snapshot retired) = true ↔ desired.key = key ∧
      (retired.isSome = true ∨ snapshot.hasCamera desired.key = false) := by
  simp only [enablesWrite, entryWrite, cameraUpdate, Option.any_some, Bool.and_eq_true,
    decide_eq_true_eq]
  by_cases updates : (retired.isSome || !snapshot.hasCamera desired.key) = true
  · rw [if_pos updates]
    simpa using fun _ => updates
  · rw [if_neg updates]
    simpa using fun _ => updates

theorem enables_setsStreams {key : String} {write : FrigateWrite}
    (setsStreams : SetsStreams write) : enablesWrite key write = false := by
  cases write with
  | setConfig request => simp [enablesWrite, setsStreams.1]
  | setRuntimeStream aliasKey source => rfl
  | deleteRuntimeStream aliasKey => rfl
  | restart => rfl

/-- The write branch enables what is missing, retired or disabled by CamAdmiral. -/
theorem cameraWrites_enable {key : String} {desired : DesiredCamera} {snapshot : Snapshot}
    {binding : Option FrigateBindingRow} {retired : Option RetiredRow} {allowRestart : Bool} :
    (∃ write ∈ cameraWrites desired snapshot binding retired allowRestart,
      enablesWrite key write = true) ↔
      desired.key = key ∧ (snapshot.hasCamera desired.key = false ∨ retired.isSome = true ∨
        binding.any (!·.cameraEnabledApplied) = true) := by
  obtain ⟨rest, isCons, each, isSet⟩ :=
    cameraWrites_cons allowRestart desired snapshot binding retired
  rw [isCons]
  constructor
  · rintro ⟨write, member, enables⟩
    rcases List.mem_cons.mp member with rfl | isLater
    · obtain ⟨same, isRetired | isMissing⟩ := enables_entryWrite.mp enables
      · exact ⟨same, .inr (.inl isRetired)⟩
      · exact ⟨same, .inl isMissing⟩
    rcases each write isLater with rfl | setsStreams | rfl
    · have due := isSet.mp isLater
      exact ⟨((enables_setEnabled _ _ _).mp enables).1,
        .inr (.inr ((Bool.and_eq_true _ _).mp due).2)⟩
    · rw [enables_setsStreams setsStreams] at enables
      cases enables
    · cases enables
  · rintro ⟨rfl, due⟩
    by_cases updates : retired.isSome = true ∨ snapshot.hasCamera desired.key = false
    · exact ⟨_, List.mem_cons_self, enables_entryWrite.mpr ⟨rfl, updates⟩⟩
    · rw [not_or, Bool.not_eq_false] at updates
      have isDisabled : binding.any (!·.cameraEnabledApplied) = true := by
        rcases due with isMissing | isRetired | isDisabled
        · rw [updates.2] at isMissing
          cases isMissing
        · exact absurd isRetired updates.1
        · exact isDisabled
      have isSent := isSet.mpr (by rw [updates.2, isDisabled]; rfl)
      exact ⟨_, List.mem_cons_of_mem _ isSent, (enables_setEnabled _ _ _).mpr ⟨rfl, rfl⟩⟩

variable (scope : SyncScope σ) (allowRestart : Bool)

section
variable [FrigateTexts]

def Turn.binding (turn : Turn σ) : Option FrigateBindingRow :=
  turn.session.tables.frigateBinding scope.targetId turn.selected.camera.cameraUuid

def Turn.retired (turn : Turn σ) (key : String) : Option RetiredRow :=
  turn.session.tables.retiredFrigateCamera scope.targetId key

/-- When a round sends `enabled = true` for an entry: its camera has the key of the entry, it
reaches the write branch, and there the entry is missing, retired or disabled by CamAdmiral. -/
structure SendsEnabled (key : String) (turn : Turn σ) (desired : DesiredCamera) : Prop where
  enabled : turn.selected.camera.enabled = true
  wanted : ∃ host, scope.host turn.selected.addressMode = .ok host ∧
    desiredCamera turn.selected scope.consumers.password host = .ok (some desired)
  sameKey : desired.key = key
  free : turn.session.tables.keyTaken scope.targetId turn.selected.camera.cameraUuid key = false
  owned : ((turn.binding scope).isNone && (turn.retired scope key).isNone &&
    (turn.progress.snapshot.hasCamera key || aliasesExist desired turn.progress.snapshot)) = false
  restart : (turn.retired scope key).isSome = true → allowRestart = true
  unsettled : isSettled desired turn.progress.snapshot (turn.binding scope)
    (turn.retired scope key) = false
  unawaited : awaitsWorker desired turn.progress.snapshot (turn.retired scope key) = false
  due : turn.progress.snapshot.hasCamera key = false ∨ (turn.retired scope key).isSome = true ∨
    (turn.binding scope).any (!·.cameraEnabledApplied) = true

theorem sendsEnabled_iff (key : String) (turn : Turn σ) :
    (∃ desired, SendsEnabled scope allowRestart key turn desired) ↔
      ∃ desired, turnBranch scope allowRestart turn.selected turn.progress.snapshot
          turn.session.tables = .written desired ∧
        (attemptTables scope desired turn.session.tables).isSome = true ∧
        desired.key = key ∧ (turn.progress.snapshot.hasCamera desired.key = false ∨
          (turn.retired scope desired.key).isSome = true ∨
          (turn.binding scope).any (!·.cameraEnabledApplied) = true) := by
  constructor
  · rintro ⟨desired, sends⟩
    obtain rfl := sends.sameKey
    have isWritten := (turnBranch_written scope allowRestart).mpr ⟨sends.enabled, sends.wanted,
      (enabledBranch_written allowRestart).mpr
        ⟨rfl, sends.owned, sends.restart, sends.unsettled, sends.unawaited⟩⟩
    refine ⟨desired, isWritten, (attemptTables_isSome scope).mpr ?_, rfl, sends.due⟩
    rw [(turnBranch_desired scope allowRestart (congrArg Branch.desired isWritten)).2]
    exact sends.free
  · rintro ⟨desired, isWritten, isFree, rfl, due⟩
    obtain ⟨enabled, wanted, isBranch⟩ := (turnBranch_written scope allowRestart).mp isWritten
    obtain ⟨_, owned, restart, unsettled, unawaited⟩ :=
      (enabledBranch_written allowRestart).mp isBranch
    have isFree := (attemptTables_isSome scope).mp isFree
    rw [(turnBranch_desired scope allowRestart (congrArg Branch.desired isWritten)).2] at isFree
    exact ⟨desired, enabled, wanted, rfl, isFree, owned, restart, unsettled, unawaited, due⟩

/-- Exactly these rounds enable an entry, as far as no call fails. -/
theorem turn_enables (key : String) (turn : Turn σ) :
    ∃ events,
      (reconcileCamera scope allowRestart turn.selected turn.progress turn.session).2.log =
        turn.session.log ++ events ∧
      ((∃ event ∈ events, enablesEntry key event = true) →
        ∃ desired, SendsEnabled scope allowRestart key turn desired) ∧
      ((reconcileCamera scope allowRestart turn.selected turn.progress turn.session).2.failures =
          turn.session.failures →
        (∃ desired, SendsEnabled scope allowRestart key turn desired) →
          ∃ event ∈ events, enablesEntry key event = true) := by
  have round := reconcileCamera_round scope allowRestart turn.selected turn.progress turn.session
  rw [sendsEnabled_iff]
  generalize reconcileCamera scope allowRestart turn.selected turn.progress turn.session = result
    at round ⊢
  generalize isBranch : turnBranch scope allowRestart turn.selected turn.progress.snapshot
    turn.session.tables = branch at round ⊢
  cases round with
  | failed error => exact ⟨[], (List.append_nil _).symm, by simp, by simp⟩
  | rejected code => exact ⟨[], (List.append_nil _).symm, by simp, by simp⟩
  | waiting => exact ⟨[], (List.append_nil _).symm, by simp, by simp⟩
  | needless => exact ⟨[_], rfl, by simp [enablesEntry], by simp⟩
  | settled desired isTables => exact ⟨[_], rfl, by simp [enablesEntry], by simp⟩
  | @disabled row _ isBinding attempted =>
      obtain ⟨events, isLog, each, _⟩ := attempted.events scope
      refine ⟨events, isLog, ?_, by simp⟩
      rintro ⟨event, member, enables⟩
      rcases each event member with rfl | ⟨_, write, isWrite, state, rfl⟩
      · cases enables
      · obtain rfl := List.mem_singleton.mp isWrite
        cases ((enables_setEnabled key _ _).mp enables).2
  | awaited desired attempted =>
      obtain ⟨events, isLog, each, _⟩ := attempted.events scope
      refine ⟨events, isLog, ?_, by simp⟩
      rintro ⟨event, member, enables⟩
      rcases each event member with rfl | ⟨_, write, isWrite, state, rfl⟩
      · cases enables
      · cases isWrite
  | written desired attempted =>
      obtain ⟨events, isLog, each, sent⟩ := attempted.events scope
      -- The selections do not decide whether the key is free.
      rw [show (attemptTables scope desired (clearedSession scope _ turn.session).tables).isSome =
        true ↔ (attemptTables scope desired turn.session.tables).isSome = true by
          rw [attemptTables_isSome, attemptTables_isSome]; rfl] at each sent
      refine ⟨events, isLog, ?_, ?_⟩
      · rintro ⟨event, member, enables⟩
        rcases each event member with rfl | ⟨isFree, write, isWrite, state, rfl⟩
        · cases enables
        · exact ⟨desired, rfl, isFree, cameraWrites_enable.mp ⟨write, isWrite, enables⟩⟩
      · rintro unchanged ⟨other, same, isFree, due⟩
        obtain rfl := Branch.written.inj same
        obtain ⟨write, isWrite, enables⟩ := cameraWrites_enable.mpr due
        obtain ⟨state, isSent⟩ := sent isFree unchanged write isWrite
        exact ⟨.write write state, isSent, enables⟩

/-! All rounds of a call. -/

theorem turns_enable (key : String) (cameras : List SelectedCamera) (progress : Progress)
    (session : Session σ) :
    ∃ events,
      (reconcileCameras scope allowRestart cameras progress session).2.log =
        session.log ++ events ∧
      ((∃ event ∈ events, enablesEntry key event = true) →
        ∃ turn ∈ reconcileTurns scope allowRestart cameras progress session,
          ∃ desired, SendsEnabled scope allowRestart key turn desired) ∧
      ((reconcileCameras scope allowRestart cameras progress session).2.failures =
          session.failures →
        (∃ turn ∈ reconcileTurns scope allowRestart cameras progress session,
          ∃ desired, SendsEnabled scope allowRestart key turn desired) →
            ∃ event ∈ events, enablesEntry key event = true) := by
  induction cameras generalizing progress session with
  | nil => exact ⟨[], (List.append_nil _).symm, by simp, by simp [reconcileTurns]⟩
  | cons selected rest ih =>
      obtain ⟨events, isLog, early, late⟩ :=
        turn_enables scope allowRestart key ⟨selected, progress, session⟩
      have grows := reconcileCamera_failures scope allowRestart selected progress session
      dsimp only at isLog late
      rcases reconcileCameras_cons scope allowRestart selected rest progress session with
        ⟨failure, later, isRound, isLoop, isTurns⟩ | ⟨next, later, isRound, isLoop, isTurns⟩
      · rw [isRound] at isLog late
        rw [isLoop, isTurns]
        simp only [List.mem_singleton, exists_eq_left]
        exact ⟨events, isLog, early, late⟩
      · rw [isRound] at isLog late grows
        rw [isLoop, isTurns]
        obtain ⟨others, isOthers, earlyRest, lateRest⟩ := ih next later
        refine ⟨events ++ others, by rw [isOthers, isLog, List.append_assoc], ?_, ?_⟩
        · rintro ⟨event, member, enables⟩
          rcases List.mem_append.mp member with isFirst | isRest
          · exact ⟨_, List.mem_cons_self, early ⟨event, isFirst, enables⟩⟩
          · obtain ⟨turn, isTurn, sends⟩ := earlyRest ⟨event, isRest, enables⟩
            exact ⟨turn, List.mem_cons_of_mem _ isTurn, sends⟩
        · rintro unchanged ⟨turn, member, sends⟩
          -- No failure in the whole loop is none in the first round and none after it.
          have tail := reconcileCameras_failures scope allowRestart rest next later
          have same : later.failures = session.failures :=
            (grows.eq_of_length_le (unchanged ▸ tail.length_le)).symm
          rcases List.mem_cons.mp member with rfl | isRest
          · obtain ⟨event, isFirst, enables⟩ := late same sends
            exact ⟨event, List.mem_append_left _ isFirst, enables⟩
          · obtain ⟨event, isOther, enables⟩ :=
              lateRest (unchanged.trans same.symm) ⟨turn, isRest, sends⟩
            exact ⟨event, List.mem_append_right _ isOther, enables⟩

theorem call_enables (key : String) (only : Option String) (session : Session σ) :
    let later := (reconcileFrigate scope allowRestart only session).2
    ((∃ event ∈ newEvents session later, enablesEntry key event = true) →
      ∃ turn ∈ callTurns scope allowRestart only session,
        ∃ desired, SendsEnabled scope allowRestart key turn desired) ∧
    (later.failures = session.failures →
      (∃ turn ∈ callTurns scope allowRestart only session,
        ∃ desired, SendsEnabled scope allowRestart key turn desired) →
          ∃ event ∈ newEvents session later, enablesEntry key event = true) := by
  have streams {before after : Session σ} (synced : Synced scope.frigate before after) :
      ∃ events, after.log = before.log ++ events ∧
        ∀ event ∈ events, enablesEntry key event = false := by
    obtain ⟨events, isLog, each⟩ := synced.log
    refine ⟨events, isLog, fun event member => ?_⟩
    obtain ⟨write, state, rfl, setsStreams⟩ := each event member
    exact enables_setsStreams setsStreams
  dsimp only
  rcases reconcileFrigate_cases scope allowRestart only session with
    ⟨isTurns, synced⟩ | ⟨imported, snapshot, between, isInspected, isTurns, isLoop⟩
  · obtain ⟨events, isLog, none⟩ := streams synced
    rw [newEvents_of_append isLog, isTurns]
    refine ⟨?_, by simp⟩
    rintro ⟨event, member, enables⟩
    rw [none event member] at enables
    cases enables
  · have synced := inspectFrigate_synced scope session
    rw [isInspected] at synced
    obtain ⟨events, isLog, none⟩ := streams synced
    obtain ⟨others, isOthers, early, late⟩ := turns_enable scope allowRestart key
      ((scopeCameras scope session.tables only).filter (·.camera.cameraUuid ∉ imported))
      { snapshot } between
    rw [isLog, List.append_assoc] at isOthers
    rw [isLoop, newEvents_of_append isOthers, isTurns]
    refine ⟨?_, ?_⟩
    · rintro ⟨event, member, enables⟩
      rcases List.mem_append.mp member with isSync | isRound
      · rw [none event isSync] at enables
        cases enables
      · exact early ⟨event, isRound, enables⟩
    · intro unchanged turns
      have tail := reconcileCameras_failures scope allowRestart
        ((scopeCameras scope session.tables only).filter (·.camera.cameraUuid ∉ imported))
        { snapshot } between
      have same : between.failures = session.failures :=
        (synced.failures.eq_of_length_le (unchanged ▸ tail.length_le)).symm
      obtain ⟨event, member, enables⟩ := late (unchanged.trans same.symm) turns
      exact ⟨event, List.mem_append_right _ member, enables⟩

/-- An entry that CamAdmiral has disabled is enabled again exactly if a round of the call meets
`SendsEnabled`; one that it has not disabled is not enabled as long as it exists. -/
theorem enabled_again_iff (only : Option String) (session : Session σ) {cameraUuid : String}
    {row : FrigateBindingRow}
    (isBinding : session.tables.frigateBinding scope.targetId cameraUuid = some row) :
    let later := (reconcileFrigate scope allowRestart only session).2
    (row.cameraEnabledApplied = false → later.failures = session.failures →
      ((∃ event ∈ newEvents session later, enablesEntry row.frigateCameraKey event = true) ↔
        ∃ turn ∈ callTurns scope allowRestart only session,
          ∃ desired, SendsEnabled scope allowRestart row.frigateCameraKey turn desired)) ∧
    (row.cameraEnabledApplied = true → row.frigateCameraKey = frigateCameraKey cameraUuid →
      session.tables.retiredFrigateCamera scope.targetId row.frigateCameraKey = none →
      (∀ turn ∈ callTurns scope allowRestart only session,
        turn.selected.camera.cameraUuid = cameraUuid →
          turn.progress.snapshot.hasCamera row.frigateCameraKey = true) →
      ∀ event ∈ newEvents session later, enablesEntry row.frigateCameraKey event = false) := by
  intro later
  obtain ⟨early, late⟩ := call_enables scope allowRestart row.frigateCameraKey only session
  refine ⟨fun _ unchanged => ⟨early, late unchanged⟩, ?_⟩
  intro isApplied isOwn unretired exists_ event member
  by_contra enables
  obtain ⟨turn, isTurn, desired, sends⟩ := early ⟨event, member, by simpa using enables⟩
  have kept : boundKey scope.targetId cameraUuid turn.session.tables =
        some (frigateCameraKey cameraUuid) ∧
      (turn.selected.camera.cameraUuid = cameraUuid →
        turn.session.tables.frigateBinding scope.targetId cameraUuid = some row) ∧
      turn.session.tables.retiredFrigateCamera scope.targetId row.frigateCameraKey = none := by
    rcases reconcileFrigate_cases scope allowRestart only session with
      ⟨isTurns, _⟩ | ⟨imported, snapshot, between, isInspected, isTurns, _⟩
    · rw [isTurns] at isTurn
      cases isTurn
    · have synced := inspectFrigate_synced scope session
      rw [isInspected] at synced
      have isSame : between.tables.frigateBinding scope.targetId cameraUuid = some row := by
        rw [FrigateTables.frigateBinding, synced.bindings]
        exact isBinding
      rw [isTurns] at isTurn
      refine turns_keep_binding scope allowRestart ?_ ?_ (fun _ => isSame) ?_ turn isTurn
      · exact (scopeCameras_distinct scope session.tables only).sublist (List.filter_sublist.map _)
      · rw [boundKey, isSame, Option.map_some, isOwn]
      · rw [FrigateTables.retiredFrigateCamera, synced.retired]
        exact unretired
  obtain ⟨isBound, isRow, notRetired⟩ := kept
  have isCamera : turn.selected.camera.cameraUuid = cameraUuid := by
    by_contra isOther
    have isTaken := keyTaken_of_boundKey isBound (Ne.symm isOther)
    rw [← isOwn, sends.free] at isTaken
    cases isTaken
  rcases sends.due with isMissing | isRetired | isDisabled
  · rw [exists_ turn isTurn isCamera] at isMissing
    cases isMissing
  · rw [Turn.retired, notRetired] at isRetired
    cases isRetired
  · rw [Turn.binding, isCamera, isRow isCamera, Option.any_some, isApplied] at isDisabled
    cases isDisabled

end

/-- Frigate was restarted while CamAdmiral had the camera disabled: its worker is gone, the
round waits for it, and the entry stays disabled. -/
def restartedYard : Session PlainState where
  tables := yardTables (yardBinding false)
  frigate := yardFrigate (yardEntry false) []

theorem restarted_camera_stays_disabled :
    let later := (@reconcileFrigate _ plainFrigateTexts yardScope true none restartedYard).2
    yardCamera.enabled = true ∧
    restartedYard.tables.frigateBinding "t" "c" = some (yardBinding false) ∧
    later.failures = [] ∧
    (newEvents restartedYard later).all (fun event => !enablesEntry "camadmiral_c" event) ∧
    (later.frigate.saved.cameras.lookup "camadmiral_c").bind (·.enabled) = some false := by
  decide +kernel

/-- The entry is disabled, and its worker is still there. -/
def runningYard (cameraEnabledApplied : Bool) : Session PlainState where
  tables := yardTables (yardBinding cameraEnabledApplied)
  frigate := yardFrigate (yardEntry false) [("camadmiral_c", true)]

theorem running_camera_enabled_again :
    let after (flag : Bool) :=
      (@reconcileFrigate _ plainFrigateTexts yardScope true none (runningYard flag)).2
    (∃ event ∈ newEvents (runningYard false) (after false),
      enablesEntry "camadmiral_c" event = true) ∧
    (∃ turn ∈ @callTurns _ plainFrigateTexts yardScope true none (runningYard false), ∃ desired,
      @SendsEnabled _ yardScope true plainFrigateTexts "camadmiral_c" turn desired) ∧
    ∀ event ∈ newEvents (runningYard true) (after true),
      enablesEntry "camadmiral_c" event = false := by
  intro after
  have sent : ∃ event ∈ newEvents (runningYard false) (after false),
      enablesEntry "camadmiral_c" event = true := by
    have found : (newEvents (runningYard false) (after false)).any
        (enablesEntry "camadmiral_c") = true := by
      decide +kernel
    exact List.any_eq_true.mp found
  have unchanged : (after false).failures = (runningYard false).failures := by decide +kernel
  have isListed : ∀ turn ∈ @callTurns _ plainFrigateTexts yardScope true none (runningYard true),
      turn.selected.camera.cameraUuid = "c" →
        turn.progress.snapshot.hasCamera "camadmiral_c" = true := by
    decide +kernel
  have disabled := @enabled_again_iff _ yardScope true plainFrigateTexts none (runningYard false)
    "c" (yardBinding false) (by decide +kernel)
  have operated := @enabled_again_iff _ yardScope true plainFrigateTexts none (runningYard true)
    "c" (yardBinding true) (by decide +kernel)
  exact ⟨sent, (disabled.1 rfl unchanged).mp sent,
    operated.2 rfl (by decide +kernel) (by decide +kernel) isListed⟩

end CamAdmiral
