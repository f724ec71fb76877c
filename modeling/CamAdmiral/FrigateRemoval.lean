import CamAdmiral.FrigateRuns

/-!
What removal does, step by step: `remove_frigate_camera` and the clean-up of
`full_sync_frigate` keep every invariant that the single steps keep, each in the situation in
which it is taken.
-/

namespace CamAdmiral

variable {σ : Type}

open Program

/-- The steps of removal. A camera entry is retired under a retirement record, a stream is
deleted from the configuration when it is there, and every name has the reserved prefix. -/
structure RemovalKeeps (scope : SyncScope σ) (mayRetire : FrigateTables → String → Prop)
    (invariant : Session σ → Prop) : Prop where
  reads : ReadStable scope.frigate invariant
  remember : ∀ {session : Session σ} {key : String} {tables : FrigateTables},
    invariant session → mayRetire session.tables key →
    session.tables.rememberRetiredFrigateCamera scope.targetId key
      (((scope.frigate.saved session.frigate).cameras.lookup key).getD {}).visibility =
        some tables → invariant { session with tables := tables }
  retire : ∀ {session later : Session σ} {key : String} {write : FrigateWrite},
    invariant session → mayRetire session.tables key →
    (session.tables.retiredFrigateCamera scope.targetId key).isSome = true →
    write = recordOff key ∨ write = hideEntry key →
    Sent scope.frigate write session later → invariant later
  streams : ∀ {session later : Session σ} {names : List String} {restart : Bool},
    invariant session →
    (∀ name ∈ names, startsWith name keyPrefix = true ∧
      ((scope.frigate.saved session.frigate).streams.lookup name).isSome = true) →
    Sent scope.frigate (deleteStreams names restart) session later → invariant later
  runtime : ∀ {session later : Session σ} {name : String}, invariant session →
    startsWith name keyPrefix = true →
    Sent scope.frigate (.deleteRuntimeStream name) session later → invariant later

/-- Tables that differ at most in their retirement records. -/
def OnlyRetired (before after : FrigateTables) : Prop :=
  after = { before with retired := after.retired }

section
variable {scope : SyncScope σ} {mayRetire : FrigateTables → String → Prop}
  {invariant : Session σ → Prop}

theorem rememberRetired_some {tables remembered : FrigateTables} {targetId key : String}
    {restore : Visibility}
    (isRemembered : tables.rememberRetiredFrigateCamera targetId key restore = some remembered) :
    OnlyRetired tables remembered ∧ ∀ other,
      remembered.retiredFrigateCamera targetId other =
        if other = key then
          some ((tables.retiredFrigateCamera targetId key).getD ⟨targetId, key, restore⟩)
        else tables.retiredFrigateCamera targetId other := by
  obtain ⟨target, _, rfl⟩ := Option.map_eq_some_iff.mp isRemembered
  refine ⟨rfl, fun other => ?_⟩
  unfold FrigateTables.retiredFrigateCamera
  rw [rowAt_upsertRow]
  · by_cases same : other = key
    · subst same
      refine (if_pos rfl).trans (Eq.trans ?_ (if_pos rfl).symm)
      cases rowAt RetiredRow.owner tables.retired (targetId, other) <;> rfl
    · rw [if_neg same, if_neg (by simpa [RetiredRow.owner] using same)]
  · exact fun _ => rfl

/-- The phase of a clean-up before it deletes streams. -/
def CleaningUp (scope : SyncScope σ) (invariant : Session σ → Prop) (start : FrigateTables)
    (streams : StreamMap) (session : Session σ) : Prop :=
  invariant session ∧ OnlyRetired start session.tables ∧
    (scope.frigate.saved session.frigate).streams = streams

theorem CleaningUp.readStable (keeps : RemovalKeeps scope mayRetire invariant)
    (start : FrigateTables) (streams : StreamMap) :
    ReadStable scope.frigate (CleaningUp scope invariant start streams) := by
  rintro session later quiet ⟨holds, only, same⟩
  refine ⟨keeps.reads session later quiet holds, ?_, ?_⟩
  · rw [quiet.tables]
    exact only
  · rw [quiet.saved]
    exact same

theorem CleaningUp.sent (keeps : RemovalKeeps scope mayRetire invariant) {start : FrigateTables}
    {streams : StreamMap} {session later : Session σ} {key : String} {write : FrigateWrite}
    (cleaning : CleaningUp scope invariant start streams session)
    (may : mayRetire session.tables key)
    (isRetired : (session.tables.retiredFrigateCamera scope.targetId key).isSome = true)
    (retires : write = recordOff key ∨ write = hideEntry key)
    (sent : Sent scope.frigate write session later) :
    CleaningUp scope invariant start streams later := by
  obtain ⟨holds, only, same⟩ := cleaning
  refine ⟨keeps.retire holds may isRetired retires sent, ?_, ?_⟩
  · rw [sent.tables]
    exact only
  · have kept : (write.apply (scope.frigate.saved session.frigate)).streams = streams := by
      rcases retires with rfl | rfl <;> exact same
    rcases sent.saved with unchanged | applied
    · rw [unchanged]
      exact same
    · rw [applied]
      exact kept

theorem preserves_retireCamera (keeps : RemovalKeeps scope mayRetire invariant)
    {start : FrigateTables} {streams : StreamMap} {key : String}
    (may : ∀ tables, OnlyRetired start tables → mayRetire tables key) :
    Preserves (CleaningUp scope invariant start streams) (retireCamera scope key) := by
  have stable := CleaningUp.readStable keeps start streams
  let remembered (session : Session σ) : Prop :=
    CleaningUp scope invariant start streams session ∧
      (session.tables.retiredFrigateCamera scope.targetId key).isSome = true
  have retires {write : FrigateWrite} (isRetire : write = recordOff key ∨ write = hideEntry key) :
      Triple remembered (send scope.frigate write) (fun _ => remembered)
        (CleaningUp scope invariant start streams) := by
    refine triple_send write fun session later ⟨cleaning, isRetired⟩ sent => ?_
    have kept := cleaning.sent keeps (may _ cleaning.2.1) isRetired isRetire sent
    refine ⟨fun _ => ⟨kept, ?_⟩, kept⟩
    rw [sent.tables]
    exact isRetired
  let seen (raw : RawConfig) (session : Session σ) : Prop :=
    CleaningUp scope invariant start streams session ∧
      raw = scope.frigate.saved session.frigate
  refine Triple.bind seen (triple_rawConfig fun session later cleaning quiet => ?_)
    fun raw => ?_
  · have kept := stable session later quiet cleaning
    exact ⟨⟨kept, rfl⟩, kept⟩
  refine Triple.bind (fun _ => remembered) (triple_persist ?_ fun _ holds => holds.1)
    fun _ => ?_
  · rintro session tables ⟨⟨holds, only, same⟩, rfl⟩ isRemembered
    obtain ⟨stays, isRow⟩ := rememberRetired_some isRemembered
    refine ⟨⟨keeps.remember holds (may _ only) isRemembered, ?_, same⟩, ?_⟩
    · rw [OnlyRetired] at only stays ⊢
      rw [stays, only]
    · rw [isRow, if_pos rfl]
      rfl
  refine Triple.bind (fun _ => remembered) (retires (.inl rfl)) fun _ => ?_
  refine Triple.bind (fun _ => remembered) (retires (.inr rfl)) fun _ => ?_
  refine Triple.bind (fun _ => CleaningUp scope invariant start streams)
    (triple_ask _ fun session later holds quiet => ?_) fun verified => ?_
  · have kept := stable session later quiet holds.1
    exact ⟨fun _ => kept, kept⟩
  split
  · exact preserves_pure ()
  · exact preserves_fail _

/-! Streams. -/

theorem preserves_deleteRuntimeStreams (keeps : RemovalKeeps scope mayRetire invariant)
    {names : List String} (managed : ∀ name ∈ names, startsWith name keyPrefix = true) :
    Preserves invariant (deleteRuntimeStreams scope names) := by
  induction names with
  | nil => exact preserves_pure _
  | cons name rest ih =>
      have isManaged := managed name List.mem_cons_self
      have tail := ih fun other member => managed other (List.mem_cons_of_mem _ member)
      have send : Preserves invariant (send scope.frigate (.deleteRuntimeStream name)) :=
        preserves_send fun _ _ holds sent => keeps.runtime holds isManaged sent
      refine (preserves_attempt send).bind fun outcome => tail.bind fun others => ?_
      cases outcome with
      | ok value => exact preserves_pure _
      | error error => exact preserves_pure _

theorem preserves_waitForRuntimeCleanup (stable : ReadStable scope.frigate invariant)
    (names : List String) (rounds : Nat) :
    Preserves invariant (waitForRuntimeCleanup scope names rounds) := by
  induction rounds with
  | zero => exact (preserves_ask stable _).bind fun _ => preserves_pure _
  | succ rounds ih =>
      refine (preserves_ask stable _).bind fun runtimeStreams => ?_
      dsimp only
      split
      · exact preserves_pure _
      · exact ih

/-- The request deletes streams that the state has found. -/
theorem triple_deleteStreams (keeps : RemovalKeeps scope mayRetire invariant)
    {start : FrigateTables} {streams : StreamMap} {names : List String} (restart : Bool)
    (exist : ∀ name ∈ names, startsWith name keyPrefix = true ∧
      (streams.lookup name).isSome = true) :
    Triple (CleaningUp scope invariant start streams)
      (send scope.frigate (deleteStreams names restart)) (fun _ => invariant) invariant := by
  refine triple_send _ fun session later ⟨holds, only, same⟩ sent => ?_
  have kept := keeps.streams holds (by rw [same]; exact exist) sent
  exact ⟨fun _ => kept, kept⟩

/-! `full_sync_frigate`. -/

/-- What the clean-up may touch, in terms of the tables and streams it starts with. -/
structure StateFacts (scope : SyncScope σ) (start : FrigateTables) (streams : StreamMap)
    (state : FullSyncState) : Prop where
  cameras : ∀ key ∈ state.staleCameras, startsWith key keyPrefix = true ∧
    key ∉ (desiredResourceKeys start scope.consumers scope.targetId).cameras
  config : ∀ name ∈ state.staleConfigStreams, startsWith name keyPrefix = true ∧
    (streams.lookup name).isSome = true
  runtime : ∀ name ∈ state.staleRuntimeStreams, startsWith name keyPrefix = true

theorem StateFacts.managed {start : FrigateTables} {streams : StreamMap} {state : FullSyncState}
    (facts : StateFacts scope start streams state) :
    ∀ name ∈ state.staleStreams, startsWith name keyPrefix = true := by
  intro name member
  rw [FullSyncState.staleStreams, sortedNames, List.mem_mergeSort, List.mem_append] at member
  rcases member with isConfig | isRuntime
  · exact (facts.config name isConfig).1
  · exact facts.runtime name (List.mem_of_mem_filter isRuntime)

theorem triple_fullSyncState (keeps : RemovalKeeps scope mayRetire invariant)
    (start : FrigateTables) (streams : StreamMap) :
    Triple (CleaningUp scope invariant start streams) (fullSyncState scope)
      (fun state session => CleaningUp scope invariant start streams session ∧
        StateFacts scope start streams state)
      (CleaningUp scope invariant start streams) := by
  have stable := CleaningUp.readStable keeps start streams
  let seen (raw : RawConfig) (session : Session σ) : Prop :=
    CleaningUp scope invariant start streams session ∧ raw.streams = streams
  refine Triple.bind seen (triple_rawConfig fun session later cleaning quiet => ?_) fun raw => ?_
  · have kept := stable session later quiet cleaning
    exact ⟨⟨kept, kept.2.2⟩, kept⟩
  refine Triple.bind (fun _ => seen raw) (triple_ask _ fun session later holds quiet => ?_)
    fun runtimeStreams => ?_
  · have kept := stable session later quiet holds.1
    exact ⟨fun _ => ⟨kept, holds.2⟩, kept⟩
  refine Triple.bind (fun tables session => seen raw session ∧ OnlyRetired start tables)
    (triple_read _ fun session holds => ⟨holds, holds.1.2.1⟩) fun tables => ?_
  refine triple_pure _ fun session ⟨⟨cleaning, same⟩, only⟩ => ⟨cleaning, ?_⟩
  have stale {desired names : List String} {name : String}
      (member : name ∈ sortedNames (names.filter fun name =>
        startsWith name keyPrefix && name ∉ desired)) :
      name ∈ names ∧ startsWith name keyPrefix = true ∧ name ∉ desired := by
    rw [sortedNames, List.mem_mergeSort, List.mem_filter, Bool.and_eq_true,
      decide_eq_true_eq] at member
    exact member
  have sameKeys : desiredResourceKeys tables scope.consumers scope.targetId =
      desiredResourceKeys start scope.consumers scope.targetId := by
    rw [only]
    rfl
  refine ⟨fun key member => ?_, fun name member => ?_, fun name member => (stale member).2.1⟩
  · rw [← sameKeys]
    exact (stale member).2
  · obtain ⟨isSaved, managed, _⟩ := stale member
    obtain ⟨entry, isEntry, rfl⟩ := List.mem_map.mp isSaved
    refine ⟨managed, ?_⟩
    rw [← same, List.lookup_isSome_iff]
    exact ⟨entry, isEntry, beq_self_eq_true _⟩

theorem triple_removeStaleConfig (keeps : RemovalKeeps scope mayRetire invariant)
    {start : FrigateTables} {streams : StreamMap} {state : FullSyncState} (restart : Bool)
    (facts : StateFacts scope start streams state) :
    Triple (CleaningUp scope invariant start streams) (removeStaleConfig scope state restart)
      (fun _ => invariant) invariant := by
  unfold removeStaleConfig
  split
  · exact triple_pure () fun _ cleaning => cleaning.1
  refine Triple.bind (fun _ => invariant) (triple_withContext _ _ ?_) fun saved => ?_
  · refine Triple.bind (fun _ => invariant)
      (triple_deleteStreams keeps restart facts.config) fun _ => ?_
    exact preserves_ask keeps.reads _
  · split
    · exact preserves_pure ()
    · exact preserves_fail _

theorem preserves_removeStaleRuntime (keeps : RemovalKeeps scope mayRetire invariant)
    {state : FullSyncState}
    (managed : ∀ name ∈ state.staleStreams, startsWith name keyPrefix = true) :
    Preserves invariant (removeStaleRuntime scope state) := by
  refine Preserves.bind (triple_withContext _ _ (preserves_ask keeps.reads _))
    fun runtimeStreams => ?_
  refine Preserves.bind (preserves_deleteRuntimeStreams keeps fun name member =>
    managed name (List.mem_of_mem_filter member)) fun errors => ?_
  refine (preserves_read _).bind fun rounds => ?_
  refine (preserves_attempt (preserves_waitForRuntimeCleanup keeps.reads _ rounds)).bind
    fun outcome => ?_
  match outcome with
  | .error error =>
      cases errors with
      | nil => exact preserves_fail _
      | cons entry rest => exact preserves_fail _
  | .ok [] => exact preserves_pure ()
  | .ok (name :: rest) => exact preserves_fail _

theorem preserves_fullSyncState (stable : ReadStable scope.frigate invariant) :
    Preserves invariant (fullSyncState scope) :=
  (preserves_ask stable _).bind fun _ => (preserves_ask stable _).bind fun _ =>
    (preserves_read _).bind fun _ => preserves_pure _

theorem preserves_verifyFullSync (stable : ReadStable scope.frigate invariant) (restart : Bool) :
    Preserves invariant (verifyFullSync scope restart) := by
  refine Preserves.bind (triple_withContext _ _ (preserves_fullSyncState stable))
    fun verified => ?_
  dsimp only
  split
  · exact preserves_pure ()
  · exact preserves_fail _

/-- Everything that `full_sync_frigate` does before it reconciles: what it has found, and
whether a restart is recommended. -/
def cleanUp (scope : SyncScope σ) : Talk σ (FullSyncState × Bool) := do
  let (state, stats) ← withContext "inspect_configuration" none do
    ask scope.frigate .capabilities
    let state ← fullSyncState scope
    let stats ← ask scope.frigate .stats
    pure (state, stats)
  let live ← ask scope.frigate .config
  let restart := !state.staleCameras.isEmpty ||
    !(staleWorkers state.desiredCameras stats live).isEmpty
  Program.each (fun key =>
    withContext "remove_camera" (some key) (retireCamera scope key)) state.staleCameras
  removeStaleConfig scope state restart
  if !restart then removeStaleRuntime scope state
  verifyFullSync scope restart
  pure (state, restart)

theorem fullSyncFrigate_cleanUp [FrigateTexts] (scope : SyncScope σ) :
    fullSyncFrigate scope = (do
      let cleaned ← cleanUp scope
      let counts ← withContext "reconcile_current_cameras" none
        (reconcileFrigate scope (!cleaned.2))
      pure ⟨cleaned.1.staleCameras.length, cleaned.1.staleStreams.length, cleaned.2, counts.1,
        counts.2⟩) := by
  unfold fullSyncFrigate cleanUp
  rw [bind_assoc]
  refine congrArg _ (funext fun inspected => ?_)
  obtain ⟨state, stats⟩ := inspected
  dsimp only
  rw [bind_assoc]
  refine congrArg _ (funext fun live => ?_)
  generalize (!state.staleCameras.isEmpty ||
    !(staleWorkers state.desiredCameras stats live).isEmpty) = restart
  rw [bind_assoc]
  refine congrArg _ (funext fun _ => ?_)
  rw [bind_assoc]
  refine congrArg _ (funext fun _ => ?_)
  cases restart with
  | true =>
      change (_ : Talk σ FullSyncResult) = (_ >>= _ : Talk σ (FullSyncState × Bool)) >>= _
      rw [bind_assoc]
      rfl
  | false =>
      change (_ : Talk σ FullSyncResult) = (_ >>= _ : Talk σ (FullSyncState × Bool)) >>= _
      rw [bind_assoc]
      refine (if_pos rfl).trans (congrArg _ (funext fun _ => ?_))
      rw [bind_assoc]
      rfl

theorem preserves_cleanUp
    (keeps : RemovalKeeps scope (fun tables key => startsWith key keyPrefix = true ∧
      key ∉ (desiredResourceKeys tables scope.consumers scope.targetId).cameras) invariant) :
    Preserves invariant (cleanUp scope) := by
  intro session holds
  let start := session.tables
  let streams := (scope.frigate.saved session.frigate).streams
  have stable := CleaningUp.readStable keeps start streams
  let found (state : FullSyncState) (session : Session σ) : Prop :=
    CleaningUp scope invariant start streams session ∧ StateFacts scope start streams state
  suffices whole : Triple (CleaningUp scope invariant start streams) (cleanUp scope)
      (fun _ => invariant) invariant from whole session ⟨holds, rfl, rfl⟩
  have early {α : Type} {program : Talk σ α}
      (preserves : Preserves (CleaningUp scope invariant start streams) program) :
      Triple (CleaningUp scope invariant start streams) program
        (fun _ => CleaningUp scope invariant start streams) invariant :=
    preserves.weaken (fun _ => id) (fun _ _ => id) fun session cleaning => cleaning.1
  refine Triple.bind (fun inspected => found inspected.1) (triple_withContext _ _ ?_) ?_
  · refine Triple.bind _ (early (preserves_ask stable _)) fun _ => ?_
    refine Triple.bind found ((triple_fullSyncState keeps start streams).weaken (fun _ => id)
      (fun _ _ => id) fun session cleaning => cleaning.1) fun state => ?_
    refine Triple.bind (fun _ => found state) (triple_ask _ fun session later holds quiet => ?_)
      fun stats => triple_pure _ fun _ => id
    have kept := stable session later quiet holds.1
    exact ⟨fun _ => ⟨kept, holds.2⟩, kept.1⟩
  rintro ⟨state, stats⟩
  refine Triple.bind (fun _ => found state) (triple_ask _ fun session later holds quiet => ?_)
    fun live => ?_
  · have kept := stable session later quiet holds.1
    exact ⟨fun _ => ⟨kept, holds.2⟩, kept.1⟩
  intro session ⟨cleaning, facts⟩
  dsimp only
  generalize (!state.staleCameras.isEmpty ||
    !(staleWorkers state.desiredCameras stats live).isEmpty) = restart
  suffices rest : Triple (CleaningUp scope invariant start streams) (do
      Program.each (fun key => withContext "remove_camera" (some key) (retireCamera scope key))
        state.staleCameras
      removeStaleConfig scope state restart
      if !restart then removeStaleRuntime scope state
      verifyFullSync scope restart
      pure (state, restart)) (fun _ => invariant) invariant from rest session cleaning
  refine Triple.bind _ (early (preserves_each fun key member =>
    triple_withContext _ _ (preserves_retireCamera keeps fun tables only => ?_))) fun _ => ?_
  · rw [only]
    exact facts.cameras key member
  refine Triple.bind _ (triple_removeStaleConfig keeps restart facts) fun _ => ?_
  have verified : Preserves invariant (do
      verifyFullSync scope restart
      pure (state, restart)) :=
    (preserves_verifyFullSync keeps.reads restart).bind fun _ => preserves_pure _
  cases restart with
  | true => exact verified
  | false => exact (preserves_removeStaleRuntime keeps facts.managed).bind fun _ => verified

/-- What keeps the steps of the clean-up, and what the rounds after it lead to. -/
theorem triple_fullSyncFrigate [FrigateTexts]
    (keeps : RemovalKeeps scope (fun tables key => startsWith key keyPrefix = true ∧
      key ∉ (desiredResourceKeys tables scope.consumers scope.targetId).cameras) invariant)
    {final : Session σ → Prop} (weaker : ∀ session, invariant session → final session)
    (reconciles : ∀ allowRestart, Triple invariant (reconcileFrigate scope allowRestart)
      (fun _ => final) final) :
    Triple invariant (fullSyncFrigate scope) (fun _ => final) final := by
  rw [fullSyncFrigate_cleanUp]
  refine Triple.bind _ ((preserves_cleanUp keeps).weaken (fun _ => id) (fun _ _ => id) weaker)
    fun cleaned => ?_
  exact Triple.bind (fun _ => final) (triple_withContext _ _ (reconciles _))
    fun counts => triple_pure _ fun _ => id

/-! `remove_frigate_camera`. -/

theorem startsWith_longer {name stem : String} (suffix : String)
    (isStart : startsWith name stem = true) : startsWith (name ++ suffix) stem = true := by
  rw [startsWith, List.isPrefixOf_iff_prefix] at isStart ⊢
  rw [String.toList_append]
  exact isStart.trans (List.prefix_append _ _)

/-- The aliases that are found, in terms of the streams the call starts with. -/
structure RemovalFacts (key : String) (streams : StreamMap) (state : RemovalState) : Prop where
  configured : ∀ name ∈ state.configuredAliases,
    name ∈ [key ++ "_record", key ++ "_detect"] ∧ (streams.lookup name).isSome = true
  runtime : ∀ name ∈ state.runtimeAliases, name ∈ [key ++ "_record", key ++ "_detect"]

theorem triple_inspectRemoval (keeps : RemovalKeeps scope mayRetire invariant)
    (start : FrigateTables) (streams : StreamMap) (key : String) :
    Triple (CleaningUp scope invariant start streams) (inspectRemoval scope key)
      (fun state session => CleaningUp scope invariant start streams session ∧
        RemovalFacts key streams state)
      (CleaningUp scope invariant start streams) := by
  have stable := CleaningUp.readStable keeps start streams
  let seen (raw : RawConfig) (session : Session σ) : Prop :=
    CleaningUp scope invariant start streams session ∧ raw.streams = streams
  have reads {α : Type} (raw : RawConfig) (request : FrigateRead α) :
      Triple (seen raw) (ask scope.frigate request) (fun _ => seen raw)
        (CleaningUp scope invariant start streams) :=
    triple_ask _ fun session later holds quiet =>
      have kept := stable session later quiet holds.1
      ⟨fun _ => ⟨kept, holds.2⟩, kept⟩
  refine triple_withContext _ _ (Triple.bind _ (preserves_ask stable _) fun _ => ?_)
  refine Triple.bind seen (triple_rawConfig fun session later cleaning quiet => ?_) fun raw => ?_
  · have kept := stable session later quiet cleaning
    exact ⟨⟨kept, kept.2.2⟩, kept⟩
  refine Triple.bind _ (reads raw _) fun runtimeStreams => Triple.bind _ (reads raw _) fun stats =>
    triple_pure _ fun session ⟨cleaning, same⟩ => ⟨cleaning, ?_⟩
  refine ⟨fun name member => ?_, fun name member => (List.mem_filter.mp member).1⟩
  obtain ⟨isAlias, isSaved⟩ := List.mem_filter.mp member
  exact ⟨isAlias, same ▸ isSaved⟩

/-- The entry that the removal of a camera retires. -/
def MayRemove (scope : SyncScope σ) (cameraUuid : String) (tables : FrigateTables)
    (key : String) : Prop :=
  boundKey scope.targetId cameraUuid tables = some key ∧ startsWith key keyPrefix = true ∧
    (tables.importLink scope.targetId key).any (·.cameraUuid = some cameraUuid) = false

theorem preserves_removeRuntimeAliases (keeps : RemovalKeeps scope mayRetire invariant)
    {aliases : List String} (managed : ∀ name ∈ aliases, startsWith name keyPrefix = true) :
    Preserves invariant (removeRuntimeAliases scope aliases) := by
  refine (preserves_deleteRuntimeStreams keeps managed).bind fun errors => ?_
  refine (preserves_read _).bind fun rounds => ?_
  refine Preserves.bind (triple_withContext _ _
    (preserves_waitForRuntimeCleanup keeps.reads aliases rounds)) fun remaining => ?_
  cases remaining with
  | nil => exact preserves_pure ()
  | cons name rest => exact preserves_fail _

theorem preserves_verifyRemoval (stable : ReadStable scope.frigate invariant) (key : String)
    (state : RemovalState) : Preserves invariant (verifyRemoval scope key state) := by
  refine Preserves.bind (triple_withContext _ _ ((preserves_ask stable _).bind fun raw =>
    (preserves_ask stable _).bind fun runtimeStreams => preserves_pure _)) fun read => ?_
  dsimp only
  split
  · exact preserves_fail _
  split
  · exact preserves_pure ()
  · exact preserves_fail _

theorem triple_removeEntry (keeps : RemovalKeeps scope mayRetire invariant)
    {start : FrigateTables} {streams : StreamMap} {key : String} {state : RemovalState}
    (may : ∀ tables, OnlyRetired start tables → mayRetire tables key)
    (isManaged : startsWith key keyPrefix = true) (facts : RemovalFacts key streams state) :
    Triple (CleaningUp scope invariant start streams) (removeEntry scope key state)
      (fun _ => invariant) invariant := by
  have managed {name : String} (member : name ∈ [key ++ "_record", key ++ "_detect"]) :
      startsWith name keyPrefix = true := by
    rcases List.mem_cons.mp member with rfl | isDetect
    · exact startsWith_longer _ isManaged
    · obtain rfl := List.mem_singleton.mp isDetect
      exact startsWith_longer _ isManaged
  have ended : Triple invariant (do
      if !state.restartRecommended then
        removeRuntimeAliases scope state.runtimeAliases
      verifyRemoval scope key state) (fun _ => invariant) invariant := by
    have verify := preserves_verifyRemoval keeps.reads key state
    dsimp only
    split
    · exact (preserves_removeRuntimeAliases keeps fun name member =>
        managed (facts.runtime name member)).bind fun _ => verify
    · exact verify
  have unconfigured : Triple (CleaningUp scope invariant start streams) (do
      if !state.configuredAliases.isEmpty then
        withContext "remove_stream_configuration" none
          (send scope.frigate (deleteStreams state.configuredAliases state.restartRecommended))
      if !state.restartRecommended then
        removeRuntimeAliases scope state.runtimeAliases
      verifyRemoval scope key state) (fun _ => invariant) invariant := by
    dsimp only
    split
    · refine Triple.bind _ (triple_withContext _ _ (triple_deleteStreams keeps _ ?_))
        fun _ => ended
      intro name member
      obtain ⟨isAlias, isSaved⟩ := facts.configured name member
      exact ⟨managed isAlias, isSaved⟩
    · exact ended.weaken (fun _ cleaning => cleaning.1) (fun _ _ => id) fun _ => id
  unfold removeEntry
  dsimp only
  split
  · exact Triple.bind _ ((triple_withContext _ _ (preserves_retireCamera keeps may)).weaken
      (fun _ => id) (fun _ _ => id) fun _ cleaning => cleaning.1) fun _ => unconfigured
  · exact unconfigured

theorem preserves_removeFrigateCamera (cameraUuid : String)
    (keeps : RemovalKeeps scope (MayRemove scope cameraUuid) invariant)
    (deselects : ∀ session, invariant session → invariant { session with
      tables := session.tables.deselectFrigateCamera scope.targetId cameraUuid })
    (unbinds : ∀ session, invariant session → invariant { session with
      tables := session.tables.removeFrigateBinding scope.targetId cameraUuid }) :
    Preserves invariant (removeFrigateCamera scope cameraUuid) := by
  intro session holds
  let streams := (scope.frigate.saved session.frigate).streams
  have isRead : (getTables : Talk σ FrigateTables) session = (.ok session.tables, session) := rfl
  rw [removeFrigateCamera, Program.bind_of_ok isRead]
  cases isBinding : session.tables.frigateBinding scope.targetId cameraUuid with
  | none =>
      exact (preserves_amend deselects).bind (fun _ => preserves_pure _) session holds
  | some binding =>
      dsimp only
      split
      · exact holds
      rename_i notImported
      split
      · exact holds
      rename_i isManaged
      simp only [Bool.not_eq_true', Bool.not_eq_false] at isManaged
      have may (tables : FrigateTables) (only : OnlyRetired session.tables tables) :
          MayRemove scope cameraUuid tables binding.frigateCameraKey := by
        rw [only]
        exact ⟨congrArg (Option.map _) isBinding, isManaged, Bool.eq_false_iff.mpr notImported⟩
      suffices whole : Triple (CleaningUp scope invariant session.tables streams) (do
          let state ← inspectRemoval scope binding.frigateCameraKey
          removeEntry scope binding.frigateCameraKey state
          amend (·.deselectFrigateCamera scope.targetId cameraUuid)
          amend (·.removeFrigateBinding scope.targetId cameraUuid)
          let removed := state.configuredAliases ++
            state.runtimeAliases.filter (· ∉ state.configuredAliases)
          pure (⟨if state.cameraExists then 1 else 0, removed.length, state.restartRecommended,
            0, 0⟩ : FullSyncResult)) (fun _ => invariant) invariant from
        whole session ⟨holds, rfl, rfl⟩
      refine Triple.bind _ ((triple_inspectRemoval keeps session.tables streams _).weaken
        (fun _ => id) (fun _ _ => id) fun _ cleaning => cleaning.1) fun state => ?_
      intro later ⟨cleaning, facts⟩
      exact (Triple.bind _ (triple_removeEntry keeps may isManaged facts) fun _ =>
        (preserves_amend deselects).bind fun _ => (preserves_amend unbinds).bind fun _ =>
          preserves_pure _) later cleaning

end

end CamAdmiral
