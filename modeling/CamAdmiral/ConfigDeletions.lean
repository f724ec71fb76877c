import CamAdmiral.FrigateRemoval

/-!
Which keys a request deletes, and that they exist in the saved configuration when it is sent:
Frigate rejects the deletion of an absent key.
-/

namespace CamAdmiral

variable {σ α : Type}

def Change.deletes : Change α → Bool
  | .delete => true
  | _ => false

/-- Every key that the update deletes is one of the entry. -/
def EntryChange.deletionsExist (change : EntryChange) (held : Option CameraEntry) : Bool :=
  (!change.enabled.deletes || (held.bind (·.enabled)).isSome) &&
  (!change.friendlyName.deletes || (held.bind (·.friendlyName)).isSome) &&
  (!change.detectSize.deletes || (held.bind (·.detectSize)).isSome) &&
  (!change.detectFps.deletes || (held.bind (·.detectFps)).isSome) &&
  (!change.record.deletes || (held.bind (·.visibility.record)).isSome) &&
  (!change.dashboard.deletes || (held.bind (·.visibility.dashboard)).isSome)

def deletionsExist (raw : RawConfig) : FrigateWrite → Bool
  | .setConfig request =>
      (request.camera.all fun (key, change) => change.deletionsExist (raw.cameras.lookup key)) &&
        request.streams.all fun (name, sources) =>
          sources.isSome || (raw.streams.lookup name).isSome
  | _ => true

/-- Every deletion sent so far named an existing key. -/
def DeletionsExist (frigate : Frigate σ) (session : Session σ) : Prop :=
  ∀ write before, Event.write write before ∈ session.log →
    deletionsExist (frigate.saved before) write = true

section
open Program

variable {frigate : Frigate σ}

theorem deletions_readStable : ReadStable frigate (DeletionsExist frigate) := by
  intro session later quiet exist write before member
  rw [quiet.log] at member
  exact exist write before member

theorem DeletionsExist.sent {write : FrigateWrite} {session later : Session σ}
    (exist : DeletionsExist frigate session) (sent : Sent frigate write session later)
    (exists_ : deletionsExist (frigate.saved session.frigate) write = true) :
    DeletionsExist frigate later := by
  intro other before member
  rw [sent.log] at member
  rcases List.mem_append.mp member with isOld | isNew
  · exact exist other before isOld
  · obtain ⟨rfl, rfl⟩ := Event.write.inj (List.mem_singleton.mp isNew)
    exact exists_

/-- Writes that delete nothing, whatever is saved. -/
def DeletesNothing (write : FrigateWrite) : Prop := ∀ raw, deletionsExist raw write = true

theorem SetsStreams.deletesNothing {write : FrigateWrite} (setsStreams : SetsStreams write) :
    DeletesNothing write := by
  intro raw
  cases write with
  | setConfig request =>
      obtain ⟨noCamera, isSome⟩ := setsStreams
      simp only [deletionsExist, noCamera, Option.all_none, Bool.true_and, List.all_eq_true]
      intro change member
      simp [isSome change member]
  | setRuntimeStream aliasKey source => rfl
  | deleteRuntimeStream aliasKey => rfl
  | restart => rfl

theorem Synced.deletions {session later : Session σ} (synced : Synced frigate session later)
    (exist : DeletionsExist frigate session) : DeletionsExist frigate later := by
  obtain ⟨events, isLog, each⟩ := synced.log
  intro write before member
  rw [isLog] at member
  rcases List.mem_append.mp member with isOld | isNew
  · exact exist write before isOld
  · obtain ⟨other, state, isEvent, setsStreams⟩ := each _ isNew
    obtain ⟨rfl, rfl⟩ := Event.write.inj isEvent
    exact setsStreams.deletesNothing _

/-- Each write of the course, as it finds the configuration, deletes what exists. -/
def CourseDeletes (writes : List FrigateWrite) (raw : RawConfig) : Prop :=
  ∀ index write, writes[index]? = some write →
    deletionsExist (applyWrites (writes.take index) raw) write = true

theorem Course.deletions {writes : List FrigateWrite} {succeeded : Bool}
    {before after : Session σ} (course : Course frigate writes succeeded before after)
    (deletes : CourseDeletes writes (frigate.saved before.frigate))
    (exist : DeletionsExist frigate before) : DeletionsExist frigate after := by
  obtain ⟨events, isLog, each⟩ := course.events
  intro write state member
  rw [isLog] at member
  rcases List.mem_append.mp member with isOld | isNew
  · exact exist write state isOld
  · obtain ⟨index, other, found, isEvent, isWrite, saved⟩ := each _ isNew
    obtain ⟨rfl, rfl⟩ := Event.write.inj isEvent
    rw [saved]
    exact deletes index write isWrite

theorem courseDeletes_of_nothing {writes : List FrigateWrite}
    (each : ∀ write ∈ writes, DeletesNothing write) (raw : RawConfig) :
    CourseDeletes writes raw :=
  fun _ write isWrite => each write (List.mem_of_getElem? isWrite) _

/-- Only the first write deletes something. -/
theorem courseDeletes_cons {first : FrigateWrite} {rest : List FrigateWrite} {raw : RawConfig}
    (exists_ : deletionsExist raw first = true) (each : ∀ write ∈ rest, DeletesNothing write) :
    CourseDeletes (first :: rest) raw := by
  intro index write isWrite
  cases index with
  | zero =>
      obtain rfl := Option.some.inj isWrite
      exact exists_
  | succ index => exact each write (List.mem_of_getElem? isWrite) _

theorem Attempted.deletions {scope : SyncScope σ} {cameraUuid : String}
    {prepare : FrigateTables → Option FrigateTables} {writes : List FrigateWrite}
    {seen : Snapshot → Session σ → Prop} {complete : FrigateTables → FrigateTables}
    {progress : Progress} {session : Session σ} {result : Except Failure Progress × Session σ}
    (attempted : Attempted scope cameraUuid prepare writes seen complete progress session result)
    (deletes : (prepare session.tables).isSome = true →
      CourseDeletes writes (scope.frigate.saved session.frigate))
    (exist : DeletionsExist scope.frigate session) : DeletionsExist scope.frigate result.2 := by
  cases attempted with
  | refused => exact exist
  | failed isPrepared course =>
      exact course.deletions (deletes (by rw [isPrepared]; rfl)) exist
  | verified isPrepared course =>
      have sent := course.deletions (deletes (by rw [isPrepared]; rfl)) exist
      intro write before member
      rcases List.mem_append.mp member with isWrite | isApplied
      · exact sent write before isWrite
      · cases List.mem_singleton.mp isApplied

/-! One round. -/

/-- What a retirement record would delete is there. -/
def FieldsExist (raw : RawConfig) (key : String) (retired : Option RetiredRow) : Prop :=
  ∀ row, retired = some row →
    (row.restore.record = none →
      ((raw.cameras.lookup key).bind (·.visibility.record)).isSome = true) ∧
    (row.restore.dashboard = none →
      ((raw.cameras.lookup key).bind (·.visibility.dashboard)).isSome = true)

theorem setEnabled_deletesNothing (key : String) (enabled : Bool) :
    DeletesNothing (setEnabled key enabled) := by
  intro raw
  rfl

theorem restored_deletes {value : Option α} :
    (Change.restore value).deletes = true ↔ value = none := by
  cases value with
  | none => simp [Change.restore, Change.deletes]
  | some value => simp [Change.restore, Change.deletes]

theorem entryWrite_deletes {desired : DesiredCamera} {snapshot : Snapshot}
    {retired : Option RetiredRow} {raw : RawConfig}
    (fresh : ((snapshot.rawConfig.cameras.lookup desired.key).bind (·.detectFps)).isSome = true →
      ((raw.cameras.lookup desired.key).bind (·.detectFps)).isSome = true)
    (fieldsExist : FieldsExist raw desired.key retired) :
    deletionsExist raw (entryWrite desired snapshot retired) = true := by
  have enabled : (cameraUpdate desired snapshot retired).enabled.deletes = false := by
    unfold cameraUpdate
    dsimp only
    split <;> rfl
  have detectFps : (cameraUpdate desired snapshot retired).detectFps.deletes = true →
      ((raw.cameras.lookup desired.key).bind (·.detectFps)).isSome = true := by
    unfold cameraUpdate
    dsimp only
    split
    case isTrue due => exact fun _ => fresh ((Bool.and_eq_true _ _).mp due).2
    case isFalse => exact nofun
  have record : (cameraUpdate desired snapshot retired).record.deletes = true →
      ((raw.cameras.lookup desired.key).bind (·.visibility.record)).isSome = true := by
    intro deletes
    cases isRetired : retired with
    | none =>
        rw [isRetired] at deletes
        cases deletes
    | some row =>
        rw [isRetired] at deletes
        exact (fieldsExist row isRetired).1 (restored_deletes.mp deletes)
  have dashboard : (cameraUpdate desired snapshot retired).dashboard.deletes = true →
      ((raw.cameras.lookup desired.key).bind (·.visibility.dashboard)).isSome = true := by
    intro deletes
    cases isRetired : retired with
    | none =>
        rw [isRetired] at deletes
        cases deletes
    | some row =>
        rw [isRetired] at deletes
        exact (fieldsExist row isRetired).2 (restored_deletes.mp deletes)
  have implies {deletes isThere : Bool} (holds : deletes = true → isThere = true) :
      (!deletes || isThere) = true := by
    cases deletes with
    | false => rfl
    | true => exact holds rfl
  simp only [deletionsExist, entryWrite, Option.all_some, EntryChange.deletionsExist,
    List.all_nil, Bool.and_true, enabled, implies detectFps, implies record, implies dashboard]
  rfl

theorem cameraWrites_deletes {desired : DesiredCamera} {snapshot : Snapshot}
    {binding : Option FrigateBindingRow} {retired : Option RetiredRow} {allowRestart : Bool}
    {raw : RawConfig}
    (fresh : ((snapshot.rawConfig.cameras.lookup desired.key).bind (·.detectFps)).isSome = true →
      ((raw.cameras.lookup desired.key).bind (·.detectFps)).isSome = true)
    (fieldsExist : FieldsExist raw desired.key retired) :
    CourseDeletes (cameraWrites desired snapshot binding retired allowRestart) raw := by
  obtain ⟨rest, isCons, each, _⟩ :=
    cameraWrites_cons allowRestart desired snapshot binding retired
  rw [isCons]
  refine courseDeletes_cons (entryWrite_deletes fresh fieldsExist) fun write member => ?_
  · rcases each write member with rfl | setsStreams | rfl
    · exact setEnabled_deletesNothing _ _
    · exact setsStreams.deletesNothing
    · exact fun _ => rfl

variable [FrigateTexts] (scope : SyncScope σ) (allowRestart : Bool)

/-- The camera has a media host, a stream for each role and known dimensions. -/
def isDescribed (selected : SelectedCamera) : Bool :=
  match scope.host selected.addressMode with
  | .error _ => false
  | .ok host => match desiredCamera selected scope.consumers.password host with
      | .ok (some _) => true
      | _ => false

/-- What the round of a camera may delete is there, as far as it deletes something. -/
def RoundDeletes (selected : SelectedCamera) (snapshot : Snapshot) (session : Session σ) :
    Prop :=
  let raw := scope.frigate.saved session.frigate
  (((snapshot.rawConfig.cameras.lookup selected.key).bind (·.detectFps)).isSome = true →
    ((raw.cameras.lookup selected.key).bind (·.detectFps)).isSome = true) ∧
  (selected.camera.enabled = true → isDescribed scope selected = true → allowRestart = true →
    FieldsExist raw selected.key
      (session.tables.retiredFrigateCamera scope.targetId selected.key))

theorem reconcileCamera_deletions {selected : SelectedCamera} {progress : Progress}
    {session : Session σ}
    (ready : session.tables.keyTaken scope.targetId selected.camera.cameraUuid selected.key =
        true ∨ RoundDeletes scope allowRestart selected progress.snapshot session)
    (exist : DeletionsExist scope.frigate session) :
    DeletionsExist scope.frigate
      (reconcileCamera scope allowRestart selected progress session).2 := by
  have round := reconcileCamera_round scope allowRestart selected progress session
  generalize reconcileCamera scope allowRestart selected progress session = result at round ⊢
  generalize isBranch : turnBranch scope allowRestart selected progress.snapshot session.tables =
    branch at round
  have applied (session : Session σ) (tables : FrigateTables) (cameraUuid : String)
      (exist : DeletionsExist scope.frigate session) : DeletionsExist scope.frigate
        { session with tables := tables, log := session.log ++ [.applied cameraUuid] } := by
    intro write before member
    rcases List.mem_append.mp member with isOld | isNew
    · exact exist write before isOld
    · cases List.mem_singleton.mp isNew
  cases round with
  | failed | rejected | waiting => exact exist
  | needless => exact applied _ _ _ exist
  | settled desired isTables => exact applied _ _ _ exist
  | @disabled row _ isBinding attempted =>
      refine attempted.deletions (fun _ => courseDeletes_of_nothing ?_ _) exist
      intro write member
      obtain rfl := List.mem_singleton.mp member
      exact setEnabled_deletesNothing _ _
  | awaited desired attempted =>
      exact attempted.deletions (fun _ => courseDeletes_of_nothing (by simp) _) exist
  | written desired attempted =>
      obtain ⟨isKey, isCamera⟩ :=
        turnBranch_desired scope allowRestart (congrArg Branch.desired isBranch)
      obtain ⟨enabled, ⟨host, isHost, isDesired⟩, isWritten⟩ :=
        (turnBranch_written scope allowRestart).mp isBranch
      have described : isDescribed scope selected = true := by
        rw [isDescribed, isHost]
        dsimp only
        rw [isDesired]
      obtain ⟨_, _, restart, _, _⟩ := (enabledBranch_written allowRestart).mp isWritten
      refine attempted.deletions (fun isFree => ?_) exist
      rcases ready with isTaken | ⟨fresh, fieldsExist⟩
      · rw [attemptTables_isSome, isKey, isCamera] at isFree
        exact absurd (isFree.symm.trans isTaken) nofun
      · rw [← isKey] at fresh fieldsExist
        refine cameraWrites_deletes fresh fun row isRetired => ?_
        exact fieldsExist enabled described (restart (by rw [isRetired]; rfl)) row isRetired

/-! The loop. -/

/-- The keys of the cameras that come are not written yet, or a camera has them that does not
come again. -/
def LoopDeletes (cameras : List SelectedCamera) (snapshot : Snapshot) (session : Session σ) :
    Prop :=
  ∀ selected ∈ cameras,
    (∃ other, other ∉ cameras.map (·.camera.cameraUuid) ∧
      boundKey scope.targetId other session.tables = some selected.key) ∨
    RoundDeletes scope allowRestart selected snapshot session

theorem reconcileCameras_deletions {cameras : List SelectedCamera} {progress : Progress}
    {session : Session σ} (distinct : (cameras.map (·.camera.cameraUuid)).Nodup)
    (ready : LoopDeletes scope allowRestart cameras progress.snapshot session)
    (exist : DeletionsExist scope.frigate session) :
    DeletionsExist scope.frigate
      (reconcileCameras scope allowRestart cameras progress session).2 := by
  induction cameras generalizing progress session with
  | nil => exact exist
  | cons selected rest ih =>
      rw [List.map_cons, List.nodup_cons] at distinct
      have first := reconcileCamera_deletions scope allowRestart
        ((ready selected List.mem_cons_self).imp_left fun ⟨other, isOther, isBound⟩ =>
          keyTaken_of_boundKey isBound (List.ne_of_not_mem_cons isOther)) exist
      rcases reconcileCameras_cons scope allowRestart selected rest progress session with
        ⟨failure, later, isRound, isLoop, _⟩ | ⟨next, later, isRound, isLoop, _⟩
      · rw [isRound] at first
        rw [isLoop]
        exact first
      · have tables := reconcileCamera_tables scope allowRestart selected progress session
        have entries := reconcileCamera_entries scope allowRestart isRound
        rw [isRound] at first tables
        rw [isLoop]
        refine ih distinct.2 (fun camera member => ?_) first
        rcases ready camera (List.mem_cons_of_mem _ member) with
          ⟨other, isOther, isBound⟩ | ⟨fresh, fieldsExist⟩
        · obtain ⟨isOther, notRest⟩ := List.ne_and_not_mem_of_not_mem_cons isOther
          refine .inl ⟨other, notRest, ?_⟩
          rw [boundKey, tables.others other isOther]
          exact isBound
        · rcases entries.entries camera.key with isBound | same
          · exact .inl ⟨_, distinct.1, isBound⟩
          · right
            refine ⟨?_, fun enabled described restarts row isRetired => ?_⟩
            · rw [same]
              rcases entries.snapshot with kept | taken
              · rw [kept]
                exact fresh
              · rw [taken, same]
                exact id
            · rw [same]
              exact fieldsExist enabled described restarts row (tables.retired_some isRetired)

/-- Whatever the retirement record of a camera of the call would delete is there. -/
def RestoresExist (only : Option String) (session : Session σ) : Prop :=
  ∀ selected ∈ scopeCameras scope session.tables only,
    selected.camera.cameraUuid ∉ importedUuids scope session.tables →
    selected.camera.enabled = true → isDescribed scope selected = true → allowRestart = true →
    FieldsExist (scope.frigate.saved session.frigate) selected.key
      (session.tables.retiredFrigateCamera scope.targetId selected.key)

theorem reconcileFrigate_deletions {only : Option String} {session : Session σ}
    (restores : RestoresExist scope allowRestart only session)
    (exist : DeletionsExist scope.frigate session) :
    DeletionsExist scope.frigate (reconcileFrigate scope allowRestart only session).2 := by
  rcases reconcileFrigate_cases scope allowRestart only session with
    ⟨_, synced⟩ | ⟨imported, snapshot, between, isInspected, _, isLoop⟩
  · exact synced.deletions exist
  · have synced := inspectFrigate_synced scope session
    have isFresh := inspectFrigate_rawConfig scope isInspected
    have isImported := inspectFrigate_imported scope isInspected
    rw [isInspected] at synced
    rw [isLoop]
    refine reconcileCameras_deletions scope allowRestart ?_ ?_ (synced.deletions exist)
    · exact (scopeCameras_distinct scope session.tables only).sublist (List.filter_sublist.map _)
    · intro selected member
      obtain ⟨isListed, notImported⟩ := List.mem_filter.mp member
      rw [isImported, decide_eq_true_eq] at notImported
      refine .inr ⟨by rw [isFresh]; exact id, fun enabled described restarts => ?_⟩
      have exists_ := restores selected isListed notImported enabled described restarts
      rw [FieldsExist, FrigateTables.retiredFrigateCamera] at exists_ ⊢
      rw [synced.cameras, synced.retired]
      exact exists_

/-! Removal and full synchronization. -/

omit [FrigateTexts] in
theorem Sent.lookup {frigate : Frigate σ} {write : FrigateWrite} {session later : Session σ}
    (sent : Sent frigate write session later) {key other : String}
    (touches : TouchesOnly key write) (isOther : other ≠ key) :
    (frigate.saved later.frigate).cameras.lookup other =
      (frigate.saved session.frigate).cameras.lookup other := by
  rcases sent.saved with same | applied
  · rw [same]
  · rw [applied]
    have each : ∀ other ∈ [write], TouchesOnly key other := by simpa using touches
    exact applyWrites_lookup each isOther _

omit [FrigateTexts] in
theorem retireWrite_facts {key : String} {write : FrigateWrite}
    (retires : write = recordOff key ∨ write = hideEntry key) :
    TouchesOnly key write ∧ DeletesNothing write := by
  rcases retires with rfl | rfl
  · refine ⟨?_, fun raw => rfl⟩
    rintro entry ⟨⟩
    rfl
  · refine ⟨?_, fun raw => rfl⟩
    rintro entry ⟨⟩
    rfl

omit [FrigateTexts] in
theorem deleteStreams_exist {raw : RawConfig} {names : List String} {restart : Bool}
    (saved : ∀ name ∈ names, startsWith name keyPrefix = true ∧
      (raw.streams.lookup name).isSome = true) :
    deletionsExist raw (deleteStreams names restart) = true := by
  simp only [deletionsExist, deleteStreams, Option.all_none, Bool.true_and, List.all_eq_true]
  intro change member
  obtain ⟨name, isName, rfl⟩ := List.mem_map.mp member
  simp [(saved name isName).2]

omit [FrigateTexts] in
theorem deletions_removalKeeps (mayRetire : FrigateTables → String → Prop) :
    RemovalKeeps scope mayRetire (DeletionsExist scope.frigate) where
  reads := deletions_readStable
  remember exist _ _ := exist
  retire exist _ _ retires sent := exist.sent sent ((retireWrite_facts retires).2 _)
  streams exist saved sent := exist.sent sent (deleteStreams_exist saved)
  runtime exist _ sent := exist.sent sent rfl

omit [FrigateTexts] in
/-- The key of a camera that takes part is a wanted one. -/
theorem scopeCameras_desired {tables : FrigateTables} {only : Option String}
    {selected : SelectedCamera} (member : selected ∈ scopeCameras scope tables only)
    (notImported : selected.camera.cameraUuid ∉ importedUuids scope tables) :
    selected.key ∈ (desiredResourceKeys tables scope.consumers scope.targetId).cameras := by
  refine List.mem_append_left _ (List.mem_map_of_mem (List.mem_filter.mpr ⟨?_, ?_⟩))
  · exact List.mem_of_mem_filter member
  · exact decide_eq_true notImported

theorem restores_removalKeeps :
    RemovalKeeps scope (fun tables key => startsWith key keyPrefix = true ∧
        key ∉ (desiredResourceKeys tables scope.consumers scope.targetId).cameras)
      fun session => DeletionsExist scope.frigate session ∧
        RestoresExist scope true none session := by
  have deletions := deletions_removalKeeps scope fun tables key =>
    startsWith key keyPrefix = true ∧
      key ∉ (desiredResourceKeys tables scope.consumers scope.targetId).cameras
  -- The tables stay, and no entry of a camera that takes part is touched.
  have untouched {session later : Session σ} (restores : RestoresExist scope true none session)
      (tables : later.tables = session.tables)
      (entries : ∀ selected ∈ scopeCameras scope session.tables none,
        selected.camera.cameraUuid ∉ importedUuids scope session.tables →
        (scope.frigate.saved later.frigate).cameras.lookup selected.key =
          (scope.frigate.saved session.frigate).cameras.lookup selected.key) :
      RestoresExist scope true none later := by
    intro selected member notImported enabled described restarts
    rw [tables] at member notImported ⊢
    rw [FieldsExist, entries selected member notImported]
    exact restores selected member notImported enabled described restarts
  refine ⟨?_, ?_, ?_, ?_, ?_⟩
  · rintro session later quiet ⟨exist, restores⟩
    exact ⟨deletions.reads session later quiet exist,
      untouched restores quiet.tables fun _ _ _ => by rw [quiet.saved]⟩
  · rintro session key tables ⟨exist, restores⟩ ⟨_, notDesired⟩ isRemembered
    obtain ⟨only, isRow⟩ := rememberRetired_some isRemembered
    refine ⟨exist, ?_⟩
    intro selected member notImported enabled described restarts
    have isOther : selected.key ≠ key := by
      rintro rfl
      rw [only] at member notImported
      exact notDesired (scopeCameras_desired scope member notImported)
    dsimp only
    rw [isRow, if_neg isOther]
    rw [only] at member notImported
    exact restores selected member notImported enabled described restarts
  · rintro session later key write ⟨exist, restores⟩ ⟨may, notDesired⟩ isRetired retires sent
    refine ⟨deletions.retire exist ⟨may, notDesired⟩ isRetired retires sent,
      untouched restores sent.tables fun selected member notImported => ?_⟩
    refine sent.lookup (retireWrite_facts retires).1 ?_
    rintro rfl
    exact notDesired (scopeCameras_desired scope member notImported)
  · rintro session later names restart ⟨exist, restores⟩ saved sent
    refine ⟨deletions.streams exist saved sent, untouched restores sent.tables fun _ _ _ => ?_⟩
    rcases sent.saved with same | applied
    · rw [same]
    · rw [applied]
      rfl
  · rintro session later name ⟨exist, restores⟩ managed sent
    refine ⟨deletions.runtime exist managed sent, untouched restores sent.tables fun _ _ _ => ?_⟩
    rcases sent.saved with same | applied
    · rw [same]
    · rw [applied]
      rfl

theorem fullSyncFrigate_deletions {session : Session σ}
    (restores : RestoresExist scope true none session)
    (exist : DeletionsExist scope.frigate session) :
    DeletionsExist scope.frigate (fullSyncFrigate scope session).2 := by
  have reconciles (allowRestart : Bool) : Triple (fun session =>
      DeletionsExist scope.frigate session ∧ RestoresExist scope true none session)
      (reconcileFrigate scope allowRestart) (fun _ => DeletionsExist scope.frigate)
      (DeletionsExist scope.frigate) := by
    rintro session ⟨exist, restores⟩
    have kept := reconcileFrigate_deletions scope allowRestart
      (fun selected member notImported enabled described _ =>
        restores selected member notImported enabled described rfl) exist
    match reconcileFrigate scope allowRestart none session, kept with
    | (.ok counts, later), exist => exact exist
    | (.error failure, later), exist => exact exist
  have whole := triple_fullSyncFrigate (restores_removalKeeps scope) (fun _ => And.left)
    reconciles
  have ends := whole session ⟨exist, restores⟩
  match fullSyncFrigate scope session, ends with
  | (.ok result, later), exist => exact exist
  | (.error failure, later), exist => exact exist

end

end CamAdmiral
