import CamAdmiral.ImportRelease

/-!
An attempt up to its takeover. The entry stays untouched until its reader is released; from then
on its row is in the journal and Frigate shows the paused entry. Whatever fails on the way, the
account of the journal holds.
-/

namespace CamAdmiral

open Program

variable {σ α β : Type} {start : RawConfig} {scope : ImportScope σ}

/-! Steps that no assertion about the import looks at. -/

/-- Only the row, the journal and the saved configuration count. -/
def Framed (scope : ImportScope σ) (holds : ImportTurn σ → Prop) : Prop :=
  ∀ before after : ImportTurn σ, after.camera.row = before.camera.row →
    after.session.tables.links = before.session.tables.links →
    after.session.tables.handoffs = before.session.tables.handoffs →
    scope.frigate.saved after.session.frigate = scope.frigate.saved before.session.frigate →
    holds before → holds after

section
variable {holds failed : ImportTurn σ → Prop}

/-- What a program begins with may be said more strongly. -/
theorem Program.Triple.starting {before : ImportTurn σ → Prop} {done : α → ImportTurn σ → Prop}
    {program : ImportProgram σ α} (triple : Triple before program done failed)
    (starts : ∀ turn, holds turn → before turn) : Triple holds program done failed :=
  triple.weaken starts (fun _ _ => id) fun _ => id

theorem triple_inSession {program : Talk σ α} {done : α → ImportTurn σ → Prop}
    (triple : ∀ camera, Triple (fun session => holds ⟨session, camera⟩) program
      (fun value session => done value ⟨session, camera⟩)
      (fun session => failed ⟨session, camera⟩)) :
    Triple holds (inSession program) done failed := by
  intro turn isBefore
  have ends := triple turn.camera turn.session isBefore
  unfold inSession
  match program turn.session, ends with
  | (.ok value, later), isDone => exact isDone
  | (.error failure, later), isFailed => exact isFailed

/-- A program that goes on with the camera it has read. -/
theorem triple_currentCamera {next : ImportCamera → ImportProgram σ α}
    {done : α → ImportTurn σ → Prop}
    (late : ∀ camera, Triple (fun turn => holds turn ∧ turn.camera = camera) (next camera)
      done failed) : Triple holds (currentCamera >>= next) done failed :=
  Triple.bind (fun camera turn => holds turn ∧ turn.camera = camera)
    (triple_read _ fun _ isBefore => ⟨isBefore, rfl⟩) late

theorem Framed.quiet (framed : Framed scope holds) (camera : ImportCamera) :
    ReadStable scope.frigate fun session => holds ⟨session, camera⟩ :=
  fun _ _ quiet => framed _ _ rfl (congrArg _ quiet.tables) (congrArg _ quiet.tables) quiet.saved

theorem Framed.ask (framed : Framed scope holds) (request : FrigateRead α) :
    Preserves holds (inSession (ask scope.frigate request)) :=
  triple_inSession fun camera => preserves_ask (framed.quiet camera) request

theorem Framed.restart (framed : Framed scope holds) :
    Preserves holds (inSession (restartFrigate (importSync scope))) := by
  refine triple_inSession fun camera => ?_
  refine (preserves_attempt (preserves_send fun session later isBefore sent => ?_)).bind
    fun outcome => ?_
  · refine framed ⟨session, camera⟩ ⟨later, camera⟩ rfl (congrArg _ sent.tables)
      (congrArg _ sent.tables) ?_ isBefore
    exact sent.passing fun _ => rfl
  · cases outcome with
    | ok value => exact preserves_pure ()
    | error error =>
        dsimp only
        split
        · exact preserves_pure ()
        · exact preserves_fail _

theorem triple_inWorld {done : α → ImportTurn σ → Prop} (request : WorldCall α)
    (framed : Framed scope holds)
    (answered : ∀ value turn, holds turn →
      (∃ state, (scope.world.call request state).1 = .ok value) → done value turn) :
    Triple holds (inWorld scope request) done holds := by
  intro turn isBefore
  have saved := scope.world.call_saved request turn.session.frigate
  have isAnswer (value : α) := answered value
  have kept (later : σ) (same : scope.frigate.saved later =
      scope.frigate.saved turn.session.frigate) :
      holds { turn with session := { turn.session with frigate := later } } :=
    framed turn _ rfl rfl rfl same isBefore
  unfold inWorld
  cases isCalled : scope.world.call request turn.session.frigate with
  | mk result later =>
      rw [isCalled] at saved
      cases result with
      | ok value => exact isAnswer value _ (kept later saved) ⟨_, congrArg Prod.fst isCalled⟩
      | error failure => exact kept later saved

theorem Framed.inWorld (framed : Framed scope holds) (request : WorldCall α) :
    Preserves holds (inWorld scope request) :=
  triple_inWorld request framed fun _ _ isBefore _ => isBefore

theorem Framed.changeCamera (framed : Framed scope holds) {change : ImportCamera → ImportCamera}
    (sameRow : ∀ camera, (change camera).row = camera.row) :
    Preserves holds (changeCamera change : ImportProgram σ Unit) :=
  triple_modify _ fun turn => framed turn _ (sameRow turn.camera) rfl rfl rfl

theorem Framed.progress (framed : Framed scope holds) (name : String)
    (stream : Option (Nat × Nat)) : Preserves holds (progress (σ := σ) name stream) :=
  framed.changeCamera fun _ => rfl

theorem triple_askRaw (framed : Framed scope holds) :
    Triple holds (inSession (ask scope.frigate .rawConfig))
      (fun raw turn => holds turn ∧ raw = scope.frigate.saved turn.session.frigate) holds :=
  triple_inSession fun camera => triple_rawConfig fun session later isBefore quiet =>
    have kept := framed.quiet camera session later quiet isBefore
    ⟨⟨kept, rfl⟩, kept⟩

theorem Framed.withRow (framed : Framed scope holds) (row : ImportRow) :
    Framed scope fun turn => holds turn ∧ turn.camera.row = row :=
  fun before after same links handoffs saved isBefore =>
    ⟨framed before after same links handoffs saved isBefore.1, same.trans isBefore.2⟩

theorem mapError_ok {ε γ δ : Type} {result : Except ε γ} {change : ε → δ} {value : γ}
    (isDone : result.mapError change = .ok value) : result = .ok value := by
  cases result with
  | error failure => cases isDone
  | ok held => exact congrArg _ (Except.ok.inj isDone)

/-- A successful check has compared the row with the saved configuration. -/
theorem triple_checkFrigate (framed : Framed scope holds) :
    Triple holds (checkFrigate scope)
      (fun _ turn => holds turn ∧ checkOriginal (scope.frigate.saved turn.session.frigate)
        turn.camera.row = .ok ()) holds := by
  refine triple_currentCamera fun camera => ?_
  have ask := triple_askRaw (framed.withRow camera.row)
  refine Triple.bind _ (ask.weaken (fun _ isBefore => ⟨isBefore.1, isBefore.2 ▸ rfl⟩)
    (fun _ _ => id) fun _ isBefore => isBefore.1) fun raw => ?_
  refine triple_ofExcept (fun value isValue turn isBefore => ?_) fun _ isBefore => isBefore.1.1
  obtain ⟨⟨kept, isRow⟩, rfl⟩ := isBefore
  rw [isRow]
  exact ⟨kept, mapError_ok isValue⟩

theorem Framed.checkFrigate (framed : Framed scope holds) :
    Preserves holds (checkFrigate scope) :=
  (triple_checkFrigate framed).weaken (fun _ => id) (fun _ _ checked => checked.1) fun _ => id

end

/-! Where an attempt is. -/

section
variable [RelayUrls]

/-- The account holds, and the row names what belongs to its entry. -/
structure Safe (start : RawConfig) (scope : ImportScope σ) (turn : ImportTurn σ) : Prop where
  sound : SoundIn start (importSync scope) turn.session
  fits : turn.camera.row.Fits start

/-- The entry is not in the journal. -/
structure Unjournaled (start : RawConfig) (scope : ImportScope σ) (turn : ImportTurn σ) : Prop where
  sound : SoundIn start (importSync scope) turn.session
  unbegun : turn.camera.row.Unbegun start
  free : turn.session.tables.importLink scope.targetId turn.camera.row.key = none

def ShowsPaused (start : RawConfig) (row : ImportRow) (raw : RawConfig) : Prop :=
  row.Shown start raw.at row.original.disabled row.pausedStreams

/-- The reader is released, and the journal has the row up to its camera. -/
structure Paused (start : RawConfig) (scope : ImportScope σ) (turn : ImportTurn σ) : Prop where
  handoff : turn.camera.row.handoff = true
  notActive : turn.camera.row.state ≠ .active
  journaled : ∃ earlier : ImportRow, earlier.Adds turn.camera.row ∧
    Journaled start (importSync scope) earlier (ShowsPaused start earlier) turn.session

/-- The takeover may begin. -/
def Ready (start : RawConfig) (scope : ImportScope σ) (turn : ImportTurn σ) : Prop :=
  Unjournaled start scope turn ∨ Paused start scope turn

theorem Unjournaled.safe {turn : ImportTurn σ} (unjournaled : Unjournaled start scope turn) :
    Safe start scope turn :=
  ⟨unjournaled.sound, unjournaled.unbegun.fits⟩

theorem Paused.safe {turn : ImportTurn σ} (paused : Paused start scope turn) :
    Safe start scope turn := by
  obtain ⟨earlier, adds, held⟩ := paused.journaled
  exact ⟨held.sound, held.fits.adds adds⟩

theorem Ready.safe {turn : ImportTurn σ} (ready : Ready start scope turn) :
    Safe start scope turn :=
  ready.elim Unjournaled.safe Paused.safe

theorem Ready.unjournaled {turn : ImportTurn σ} (ready : Ready start scope turn)
    (plain : turn.camera.row.handoff = false) : Unjournaled start scope turn :=
  ready.resolve_right fun paused => Bool.false_ne_true (plain.symm.trans paused.handoff)

theorem Ready.paused {turn : ImportTurn σ} (ready : Ready start scope turn)
    (handoff : turn.camera.row.handoff = true) : Paused start scope turn :=
  ready.resolve_left fun unjournaled =>
    Bool.false_ne_true (unjournaled.unbegun.plain.symm.trans handoff)

/-! The row gets its camera. -/

omit [RelayUrls] in
theorem ImportRow.Adds.trans {first second third : ImportRow} (early : first.Adds second)
    (late : second.Adds third) : first.Adds third := by
  refine ⟨?_, ?_, late.plain⟩
  · rw [late.same, early.same]
  · rcases early.camera with noCamera | same
    · exact .inl noCamera
    · exact late.camera.imp same.trans same.trans

theorem ImportRow.Unbegun.adds {row next : ImportRow} (unbegun : row.Unbegun start)
    (adds : row.Adds next) : next.Unbegun start := by
  refine ⟨unbegun.fits.adds adds, ?_, ?_, ?_, ?_⟩
  · rw [adds.same]
    exact unbegun.original
  · rw [adds.same]
    exact unbegun.originals
  · rw [adds.same]
    exact unbegun.plain
  · rw [adds.same]
    exact unbegun.paused

/-- Only the row changes, and it adds at most its camera. -/
theorem Paused.changed {turn : ImportTurn σ} {camera : ImportCamera}
    (paused : Paused start scope turn) (adds : turn.camera.row.Adds camera.row)
    (notActive : camera.row.state ≠ .active) :
    Paused start scope { turn with camera := camera } := by
  obtain ⟨earlier, early, held⟩ := paused.journaled
  have sameHandoff : camera.row.handoff = turn.camera.row.handoff := by rw [adds.same]
  exact ⟨sameHandoff.trans paused.handoff, notActive, earlier, early.trans adds, held⟩

theorem Unjournaled.changed {turn : ImportTurn σ} {camera : ImportCamera}
    (unjournaled : Unjournaled start scope turn) (adds : turn.camera.row.Adds camera.row) :
    Unjournaled start scope { turn with camera := camera } := by
  have sameKey : camera.row.key = turn.camera.row.key := by rw [adds.same]
  refine ⟨unjournaled.sound, unjournaled.unbegun.adds adds, ?_⟩
  dsimp only
  rw [sameKey]
  exact unjournaled.free

theorem Ready.changed {turn : ImportTurn σ} {camera : ImportCamera}
    (ready : Ready start scope turn) (adds : turn.camera.row.Adds camera.row)
    (sameState : camera.row.state = turn.camera.row.state) :
    Ready start scope { turn with camera := camera } :=
  ready.imp (·.changed adds) fun paused => paused.changed adds (sameState ▸ paused.notActive)

/-- The row is in the journal, and Frigate has not been told yet. -/
structure Announced (start : RawConfig) (scope : ImportScope σ) (release : Release)
    (turn : ImportTurn σ) : Prop where
  row : turn.camera.row = release.row
  journaled : Journaled start (importSync scope) release.row (AtOriginal start release.row)
    turn.session
  camera : release.camera = release.row.original.disabled
  streams : release.streams = release.row.pausedStreams
  handoff : release.row.handoff = true
  notActive : release.row.state ≠ .active

theorem Announced.safe {release : Release} {turn : ImportTurn σ}
    (announced : Announced start scope release turn) : Safe start scope turn :=
  ⟨announced.journaled.sound, announced.row ▸ announced.journaled.fits⟩

section
variable (operator : OperatorConfig start)

/-- A row that has not begun stands at the original, with its relay not there. -/
theorem Unjournaled.original {turn : ImportTurn σ} {tables : FrigateTables} {next : ImportRow}
    (operator : OperatorConfig start) (unjournaled : Unjournaled start scope turn)
    (sameKey : next.key = turn.camera.row.key)
    (sameOriginal : next.original = turn.camera.row.original) (fits : next.Fits start)
    (isSaved : turn.session.tables.saveLink scope.targetId next.key next = some tables) :
    AtOriginal start next (scope.frigate.saved turn.session.frigate) := by
  have isFree : turn.session.tables.importLink scope.targetId next.key = none :=
    sameKey ▸ unjournaled.free
  refine ImportRow.shown_of ?_ fun name concerns => ?_
  · rw [sameOriginal, ← unjournaled.unbegun.original, ← sameKey]
    exact camera_of_accounts unjournaled.sound.accounts isFree
  · refine Eq.trans ?_ (Option.none_or).symm
    rcases concerns with uses | takes
    · exact stream_of_accounts unjournaled.sound.accounts operator isFree uses
    · rw [operator.takes_absent takes]
      refine Sound.save_relay operator unjournaled.sound fits isSaved takes ?_
      intro previous isPrevious
      exact nomatch isFree.symm.trans isPrevious

/-- The first time that a row is saved. -/
theorem Unjournaled.saved {turn : ImportTurn σ} {tables : FrigateTables} {next : ImportRow}
    (operator : OperatorConfig start) (unjournaled : Unjournaled start scope turn)
    (sameKey : next.key = turn.camera.row.key)
    (sameOriginal : next.original = turn.camera.row.original) (fits : next.Fits start)
    (records : next.Records start)
    (isSaved : turn.session.tables.saveLink scope.targetId next.key next = some tables) :
    Journaled start (importSync scope) next (AtOriginal start next)
      { turn.session with tables := tables } := by
  have isFree : turn.session.tables.importLink scope.targetId next.key = none :=
    sameKey ▸ unjournaled.free
  have shown := unjournaled.original operator sameKey sameOriginal fits isSaved
  refine ⟨?_, ?_, shown⟩
  · refine Sound.save operator unjournaled.sound fits isSaved records ?_ (.untouched shown)
    intro previous isPrevious
    exact nomatch isFree.symm.trans isPrevious
  · refine importLink_saveLink unjournaled.sound.journal isSaved fun _ previous isPrevious => ?_
    exact nomatch isFree.symm.trans isPrevious

def HasCamera (cameraUuid : Option String) (turn : ImportTurn σ) : Prop :=
  turn.camera.row.cameraUuid = cameraUuid

/-- An attempt whose row has this camera, or none yet. -/
def ReadyWith (start : RawConfig) (scope : ImportScope σ) (cameraUuid : Option String)
    (turn : ImportTurn σ) : Prop :=
  Ready start scope turn ∧ HasCamera cameraUuid turn

theorem ReadyWith.safe {cameraUuid : Option String} {turn : ImportTurn σ}
    (holds : ReadyWith start scope cameraUuid turn) : Safe start scope turn :=
  holds.1.safe

section
variable [TextCase]

end

end

end

end CamAdmiral
