import CamAdmiral.OwnedWrites

/-!
Runs of the calls to one Frigate, and what they may touch. CamAdmiral only writes under its own
prefix and under the names of its import links, and it does not take over what exists under its
prefix without a record. A binding that outlives its import link breaks both.
-/

namespace CamAdmiral

variable {σ : Type}

/-! What exists in Frigate, and what the repository holds for it. -/

namespace FrigateTables

/-- A binding or a retirement record of the target has the key. -/
def holdsCamera (tables : FrigateTables) (targetId key : String) : Bool :=
  tables.bindings.any (fun row => row.targetId = targetId && row.frigateCameraKey = key) ||
    (tables.retiredFrigateCamera targetId key).isSome

/-- The alias belongs to such a key. -/
def HoldsStream (tables : FrigateTables) (targetId name : String) : Prop :=
  ∃ key, tables.holdsCamera targetId key = true ∧
    (name ∈ ownAliases key ∨
      ∃ row, (key, row) ∈ importRows tables targetId ∧ name ∈ row.streamKeys)

end FrigateTables

def Snapshot.hasStream (snapshot : Snapshot) (name : String) : Bool :=
  (snapshot.rawPaths.streams.lookup name).isSome || name ∈ snapshot.runtimeStreams

/-- A part of a call that may write, with what Frigate has reported before it. -/
structure CallPart (σ : Type) where
  before : Session σ
  seen : Snapshot
  after : Session σ

section
variable (frigate : Frigate σ) (targetId : String)

def CallPart.hasCamera (part : CallPart σ) (key : String) : Bool :=
  ((frigate.saved part.before.frigate).cameras.lookup key).isSome || part.seen.hasCamera key

def CallPart.hasStream (part : CallPart σ) (name : String) : Bool :=
  ((frigate.saved part.before.frigate).streams.lookup name).isSome || part.seen.hasStream name

/-- What the request names with CamAdmiral's prefix did not exist, or the repository holds a
binding or a retirement record for it. -/
def OverwritesHeld (part : CallPart σ) (write : FrigateWrite) : Prop :=
  (∀ key ∈ write.cameraKeys, startsWith key keyPrefix = true →
    part.hasCamera frigate key = true →
      part.before.tables.holdsCamera targetId key = true) ∧
  ∀ name ∈ write.streamKeys, startsWith name keyPrefix = true →
    part.hasStream frigate name = true → part.before.tables.HoldsStream targetId name

end

/-! The calls of `reconcile_frigate`. -/

structure ReconcileCall (σ : Type) where
  scope : SyncScope σ
  allowRestart : Bool
  only : Option String
  session : Session σ

section
variable [FrigateTexts]

namespace ReconcileCall

variable (call : ReconcileCall σ)

def cameras : List SelectedCamera := scopeCameras call.scope call.session.tables call.only

def turns : List (Turn σ) := callTurns call.scope call.allowRestart call.only call.session

def after : Session σ :=
  (reconcileFrigate call.scope call.allowRestart call.only call.session).2

/-- `sync_imported` and the rounds of the loop. -/
def parts : List (CallPart σ) :=
  if call.cameras.isEmpty then
    []
  else
    ⟨call.session, {}, (inspectFrigate call.scope call.session).2⟩ ::
      call.turns.map fun turn =>
        ⟨turn.session, turn.progress.snapshot, turn.after call.scope call.allowRestart⟩

end ReconcileCall

theorem reconcileCameras_sentOnly {scope : SyncScope σ} {allowRestart : Bool}
    {allowed : FrigateWrite → Prop} {cameras : List SelectedCamera} {progress : Progress}
    {session : Session σ}
    (each : ∀ turn ∈ reconcileTurns scope allowRestart cameras progress session,
      SentOnly allowed turn.session (turn.after scope allowRestart)) :
    SentOnly allowed session
      (reconcileCameras scope allowRestart cameras progress session).2 := by
  induction cameras generalizing progress session with
  | nil => exact .refl session
  | cons selected rest ih =>
      rcases reconcileCameras_cons scope allowRestart selected rest progress session with
        ⟨failure, later, isRound, isLoop, isTurns⟩ | ⟨next, later, isRound, isLoop, isTurns⟩
      all_goals
        rw [isTurns] at each
        have first := each _ List.mem_cons_self
        rw [Turn.after, isRound] at first
        rw [isLoop]
      · exact first
      · exact first.trans (ih fun turn member => each turn (List.mem_cons_of_mem _ member))

/-- Outside these parts the call sends nothing. -/
theorem ReconcileCall.sentOnly {call : ReconcileCall σ} {allowed : FrigateWrite → Prop}
    (each : ∀ part ∈ call.parts, SentOnly allowed part.before part.after) :
    SentOnly allowed call.session call.after := by
  obtain ⟨scope, allowRestart, only, session⟩ := call
  simp only [parts, turns, cameras, after, callTurns] at each ⊢
  rw [reconcileFrigate_eq]
  by_cases isEmpty : (scopeCameras scope session.tables only).isEmpty = true
  · rw [if_pos isEmpty]
    exact .refl session
  rw [if_neg isEmpty] at each ⊢
  rw [if_neg isEmpty] at each
  have inspected := each _ List.mem_cons_self
  cases isInspected : inspectFrigate scope session with
  | mk result between =>
      rw [isInspected] at inspected each
      cases result with
      | error failure =>
          rw [Program.bind_of_error isInspected]
          exact inspected
      | ok found =>
          rw [Program.bind_of_ok isInspected]
          have loop : SentOnly allowed between (reconcileCameras scope allowRestart
              ((scopeCameras scope session.tables only).filter
                (·.camera.cameraUuid ∉ found.1)) { snapshot := found.2 } between).2 :=
            reconcileCameras_sentOnly fun turn member =>
              each _ (List.mem_cons_of_mem _ (List.mem_map_of_mem member))
          refine inspected.trans ?_
          cases isLoop : reconcileCameras scope allowRestart
            ((scopeCameras scope session.tables only).filter
              (·.camera.cameraUuid ∉ found.1)) { snapshot := found.2 } between with
          | mk outcome later =>
              rw [isLoop] at loop
              cases outcome with
              | ok progress =>
                  rw [Program.bind_of_ok isLoop]
                  exact loop
              | error failure =>
                  rw [Program.bind_of_error isLoop]
                  exact loop

/-! Which calls keep to what is CamAdmiral's. -/

/-- Frigate has reported the camera's own entry or one of its own aliases. -/
def Turn.reported (turn : Turn σ) : Bool :=
  turn.progress.snapshot.hasCamera turn.selected.key ||
    (ownAliases turn.selected.key).any turn.progress.snapshot.hasStream

/-- One of them is saved. -/
def Turn.saved (frigate : Frigate σ) (turn : Turn σ) : Bool :=
  let raw := frigate.saved turn.session.frigate
  (raw.cameras.lookup turn.selected.key).isSome ||
    (ownAliases turn.selected.key).any fun name => (raw.streams.lookup name).isSome

/-- An enabled camera has a retirement record, or a binding under its own key; or else Frigate
reports what exists of it and it has no binding, or nothing of it exists. What is disabled has
the prefix or is a link's. -/
def Turn.owned (scope : SyncScope σ) (links : List (String × ImportRow)) (turn : Turn σ) : Bool :=
  if turn.selected.camera.enabled then
    (turn.retired scope turn.selected.key).isSome ||
      (turn.binding scope).any (·.frigateCameraKey = turn.selected.key) ||
      if turn.reported then (turn.binding scope).isNone else !turn.saved scope.frigate
  else
    (turn.disables scope).all fun key => startsWith key keyPrefix || links.any (·.1 = key)

/-- The imports whose streams are written are bound, and the rounds are owned. -/
structure ReconcileCall.Owned (call : ReconcileCall σ) : Prop where
  imports : call.cameras.isEmpty = false →
    let ready := (ask call.scope.frigate .capabilities call.session).2
    ∀ round ∈ syncRounds call.scope ready,
      SyncWrites call.scope (selectedAt call.scope ready) round.1 round.2 →
        call.session.tables.holdsCamera call.scope.targetId round.1.1 = true
  turns : ∀ turn ∈ call.turns,
    turn.owned call.scope (importRows call.session.tables call.scope.targetId) = true

omit [FrigateTexts] in
theorem frigateCameraKey_managed (cameraUuid : String) :
    startsWith (frigateCameraKey cameraUuid) keyPrefix = true :=
  startsWith_longer _ (by decide)

omit [FrigateTexts] in
theorem holdsCamera_of_binding {scope : SyncScope σ} {turn : Turn σ} {row : FrigateBindingRow}
    (isBinding : turn.binding scope = some row) :
    turn.session.tables.holdsCamera scope.targetId row.frigateCameraKey = true := by
  obtain ⟨member, isOwner⟩ := rowAt_some isBinding
  refine Bool.or_eq_true_iff.mpr (.inl (List.any_eq_true.mpr ⟨row, member, ?_⟩))
  obtain ⟨sameTarget, _⟩ := Prod.mk.inj isOwner
  rw [decide_eq_true sameTarget, decide_eq_true rfl]
  rfl

omit [FrigateTexts] in
theorem Turn.disables_bound {scope : SyncScope σ} {turn : Turn σ} {key : String}
    (isDisables : turn.disables scope = some key) :
    ∃ row, turn.binding scope = some row ∧ row.frigateCameraKey = key := by
  unfold Turn.disables at isDisables
  split at isDisables
  · cases isDisables
  · exact Option.map_eq_some_iff.mp (Option.filter_eq_some_iff.mp isDisables).1

omit [FrigateTexts] in
theorem aliasesExist_eq {desired : DesiredCamera} {snapshot : Snapshot}
    (aliases : desired.streams.map Prod.fst = ownAliases desired.key) :
    aliasesExist desired snapshot = (ownAliases desired.key).any snapshot.hasStream := by
  rw [← aliases, List.any_map]
  rfl

/-- In the write branch the repository holds the camera, or nothing of it exists. -/
theorem Turn.owned_writes {scope : SyncScope σ} {allowRestart : Bool} {turn : Turn σ}
    {links : List (String × ImportRow)} {desired : DesiredCamera}
    (owned : turn.owned scope links = true) (writes : turn.writes scope allowRestart desired) :
    turn.session.tables.holdsCamera scope.targetId turn.selected.key = true ∨
      turn.reported = false ∧ turn.saved scope.frigate = false := by
  obtain ⟨isEnabled, ⟨host, _, isDesired⟩, isWritten⟩ :=
    (turnBranch_written scope allowRestart).mp writes
  obtain ⟨_, noConflict, _⟩ := (enabledBranch_written allowRestart).mp isWritten
  rw [Turn.owned, if_pos isEnabled, Bool.or_eq_true, Bool.or_eq_true] at owned
  rcases owned with (isRetired | isOwn) | rest
  · exact .inl (Bool.or_eq_true_iff.mpr (.inr isRetired))
  · obtain ⟨row, isBinding, isKey⟩ := (Option.any_eq_true _ _).mp isOwn
    have holds := holdsCamera_of_binding isBinding
    rw [of_decide_eq_true isKey] at holds
    exact .inl holds
  -- What Frigate reports and nothing holds is a conflict, which ends the round.
  cases isReported : turn.reported with
  | false =>
      rw [isReported, if_neg Bool.false_ne_true, Bool.not_eq_true'] at rest
      exact .inr ⟨rfl, rest⟩
  | true =>
      rw [isReported, if_pos rfl] at rest
      by_cases isRetired : (turn.retired scope turn.selected.key).isSome = true
      · exact .inl (Bool.or_eq_true_iff.mpr (.inr isRetired))
      · have isExisting : (turn.progress.snapshot.hasCamera desired.key ||
            aliasesExist desired turn.progress.snapshot) = true := by
          rw [aliasesExist_eq (desiredCamera_streams isDesired), (desiredCamera_key isDesired).1]
          exact isReported
        rw [isExisting, (desiredCamera_key isDesired).1, Bool.and_true] at noConflict
        change ((turn.binding scope).isNone &&
          (turn.retired scope turn.selected.key).isNone) = false at noConflict
        rw [rest, Bool.true_and] at noConflict
        cases isRow : turn.retired scope turn.selected.key with
        | none =>
            rw [isRow] at noConflict
            cases noConflict
        | some row => exact absurd (by rw [isRow]; rfl) isRetired

variable {call : ReconcileCall σ}

theorem ReconcileCall.sync_names (call : ReconcileCall σ) (isCalled : call.cameras.isEmpty = false)
    (owned : call.Owned) :
    SentOnly (fun write => ∃ link ∈ importRows call.session.tables call.scope.targetId,
        call.session.tables.holdsCamera call.scope.targetId link.1 = true ∧
          NamesImport link.2 write)
      call.session (inspectFrigate call.scope call.session).2 := by
  refine (inspectFrigate_names call.session).weaken ?_
  rintro write ⟨round, member, writes, names⟩
  have quiet : Quiet call.scope.frigate call.session _ := ask_quiet .capabilities call.session
  have isLink := Program.mem_rounds member
  rw [quiet.tables] at isLink
  exact ⟨round.1, isLink, owned.imports isCalled round member writes, names⟩

/-- Everything that an owned call sends is CamAdmiral's or recorded in an import link. -/
theorem ReconcileCall.Owned.writes (owned : call.Owned) :
    SentOnly (OwnedWrite call.session.tables call.scope.targetId) call.session call.after := by
  refine ReconcileCall.sentOnly fun part member => ?_
  unfold ReconcileCall.parts at member
  split at member
  · cases member
  rename_i isCalled
  rcases List.mem_cons.mp member with rfl | isRound
  · refine (call.sync_names (Bool.eq_false_iff.mpr isCalled) owned).weaken ?_
    rintro write ⟨link, isLink, _, names⟩
    exact names.owned isLink
  · obtain ⟨turn, isTurn, rfl⟩ := List.mem_map.mp isRound
    refine (turn.names call.scope call.allowRestart).weaken ?_
    rintro write ⟨key, names, ⟨isDisabled, noStreams⟩ | ⟨rfl, _⟩⟩
    · have isOwned := owned.turns turn isTurn
      obtain ⟨row, isBinding, rfl⟩ := Turn.disables_bound isDisabled
      unfold Turn.owned at isOwned
      split at isOwned
      · rename_i isEnabled
        rw [Turn.disables, if_pos isEnabled] at isDisabled
        cases isDisabled
      rw [isDisabled, Option.all_some, Bool.or_eq_true] at isOwned
      rcases isOwned with isManaged | isLinked
      · exact names.owned isManaged _ _
      · obtain ⟨link, isLink, isKey⟩ := List.any_eq_true.mp isLinked
        refine ⟨fun key isName => .inr ⟨link, isLink, ?_⟩, ?_⟩
        · rw [names.1 key isName]
          exact of_decide_eq_true isKey
        · rw [noStreams]
          exact fun _ never => absurd never List.not_mem_nil
    · exact names.owned (frigateCameraKey_managed _) _ _

/-- An owned call overwrites nothing that the repository holds nothing for. -/
theorem ReconcileCall.Owned.overwrites (owned : call.Owned) :
    ∀ part ∈ call.parts,
      SentOnly (OverwritesHeld call.scope.frigate call.scope.targetId part) part.before
        part.after := by
  intro part member
  unfold ReconcileCall.parts at member
  split at member
  · cases member
  rename_i isCalled
  rcases List.mem_cons.mp member with rfl | isRound
  · refine (call.sync_names (Bool.eq_false_iff.mpr isCalled) owned).weaken ?_
    rintro write ⟨link, isLink, holds, names⟩
    refine ⟨?_, fun name isName _ _ => ⟨link.1, holds, .inr ⟨_, isLink, names.2 name isName⟩⟩⟩
    rw [names.1]
    exact fun _ never => absurd never List.not_mem_nil
  · obtain ⟨turn, isTurn, rfl⟩ := List.mem_map.mp isRound
    refine (turn.names call.scope call.allowRestart).weaken ?_
    rintro write ⟨key, names, ⟨isDisabled, _⟩ | ⟨rfl, desired, isWritten⟩⟩
    · obtain ⟨row, isBinding, rfl⟩ := Turn.disables_bound isDisabled
      have holds := holdsCamera_of_binding isBinding
      refine ⟨fun key isKey _ _ => ?_, fun name isName _ _ => ⟨_, holds, .inl (names.2 _ isName)⟩⟩
      rw [names.1 key isKey]
      exact holds
    · rcases Turn.owned_writes (owned.turns turn isTurn) isWritten with
        holds | ⟨notReported, notSaved⟩
      · refine ⟨fun key isKey _ _ => ?_,
          fun name isName _ _ => ⟨_, holds, .inl (names.2 _ isName)⟩⟩
        rw [names.1 key isKey]
        exact holds
      · rw [Turn.reported, Bool.or_eq_false_iff] at notReported
        rw [Turn.saved, Bool.or_eq_false_iff] at notSaved
        refine ⟨fun key isKey _ exists_ => ?_, fun name isName _ exists_ => ?_⟩
        · rw [names.1 key isKey, CallPart.hasCamera, notSaved.1, notReported.1] at exists_
          cases exists_
        · have isAlias := names.2 name isName
          have seen := List.any_eq_false.mp notReported.2 name isAlias
          have held := List.any_eq_false.mp notSaved.2 name isAlias
          rw [CallPart.hasStream, Bool.eq_false_iff.mpr seen, Bool.eq_false_iff.mpr held] at exists_
          cases exists_

end

/-! Removal only touches what has the prefix. -/

section
open Program

variable [FrigateTexts] (frigate : Frigate σ) (targetId : String)

/-- The calls of `reconcile_frigate` that an action makes. -/
def reconcileCalls (session : Session σ) : FrigateAction σ → List (ReconcileCall σ)
  | .reconcile consumers host allowRestart only =>
      [⟨scopeOf frigate targetId consumers host, allowRestart, only, session⟩]
  | .fullSync consumers host =>
      match cleanUp (scopeOf frigate targetId consumers host) session with
      | (.ok (_, restart), later) =>
          [⟨scopeOf frigate targetId consumers host, !restart, none, later⟩]
      | (.error _, _) => []
  | _ => []

/-- The actions that the promise about foreign resources is about. -/
def FrigateAction.keepsOwn : FrigateAction σ → Bool
  | .reconcile _ _ _ _ | .fullSync _ _ | .removeCamera _ => true
  | _ => false

/-- The action sends nothing about resources that are not CamAdmiral's, and no reconciliation
overwrites what the repository does not hold. -/
structure SafeAction (session : Session σ) (action : FrigateAction σ) : Prop where
  writes : action.keepsOwn = true → SentOnly (OwnedWrite session.tables targetId) session
    (frigateAct frigate targetId session action)
  overwrites : ∀ call ∈ reconcileCalls frigate targetId session action,
    ∀ part ∈ call.parts,
      SentOnly (OverwritesHeld frigate targetId part) part.before part.after

/-- A session with the actions that have led to it, each with the session it was taken in. -/
structure FrigateHistory (σ : Type) where
  session : Session σ
  taken : List (Session σ × FrigateAction σ) := []

def FrigateHistory.act (history : FrigateHistory σ) (action : FrigateAction σ) :
    FrigateHistory σ where
  session := frigateAct frigate targetId history.session action
  taken := history.taken ++ [(history.session, action)]

/-- The histories of the runs from a session. -/
abbrev HistoryReaches (allowed : Session σ → FrigateAction σ → Prop) (start : Session σ) :
    FrigateHistory σ → Prop :=
  Reaches (fun history action next => next = history.act frigate targetId action)
    (fun history => allowed history.session) { session := start }

end

def frontEntry : CameraEntry where
  enabled := some true
  inputs := [{ path := "rtsp://10.0.0.5/main", roles := ["record", "detect"] }]

def frontTables : FrigateTables :=
  { yardTables { yardBinding true with frigateCameraKey := "front" } with
    links := [⟨"t", "front", {
      key := "front"
      cameraUuid := some "c"
      state := .active
      original := frontEntry
      managedCamera := some frontEntry
      aliases := importAliases "c" }⟩] }

def frontYard : Session PlainState where
  tables := frontTables
  frigate := {
    saved := { cameras := [("front", frontEntry)] }
    live := { cameras := [("front", frontEntry)] }
    stats := [("front", true)] }

def frontReconcile : FrigateAction PlainState :=
  .reconcile { cameras := [{ yardCamera with enabled := false }] } yardScope.host true none

def frontActions : List (FrigateAction PlainState) :=
  [.removeTarget, .addTarget "Frigate" "u", .selectCamera "c" .lan, frontReconcile]

def namesEntry (key : String) : Event σ → Bool
  | .write write _ => write.cameraKeys.any (· = key)
  | .applied _ => false

theorem forgotten_import_is_disabled :
    ∃ history, @HistoryReaches _ plainFrigateTexts plainFrigate "t" (fun _ _ => True) frontYard
      history ∧ ¬ ∀ taken ∈ history.taken,
        @SafeAction _ plainFrigateTexts plainFrigate "t" taken.1 taken.2 := by
  refine ⟨frontActions.foldl (@FrigateHistory.act _ plainFrigateTexts plainFrigate "t")
    { session := frontYard }, Reaches.of_permitted ⟨trivial, trivial, trivial, trivial, trivial⟩,
    fun safe => ?_⟩
  let before : Session PlainState := [.removeTarget, .addTarget "Frigate" "u",
    .selectCamera "c" .lan].foldl yardAct frontYard
  have isTaken : (before, frontReconcile) ∈ [(frontYard, FrigateAction.removeTarget),
      (yardAct frontYard .removeTarget, .addTarget "Frigate" "u"),
      (yardAct (yardAct frontYard .removeTarget) (.addTarget "Frigate" "u"),
        .selectCamera "c" .lan), (before, frontReconcile)] := by
    simp only [List.mem_cons, true_or, or_true]
  obtain ⟨events, isLog, each⟩ := @SafeAction.writes _ plainFrigateTexts _ _ _ _
    (safe _ isTaken) rfl
  have isFound : (yardAct before frontReconcile).log.any (namesEntry "front") = true := by
    decide +kernel
  have isNew : (yardAct before frontReconcile).log = events := isLog
  rw [isNew] at isFound
  obtain ⟨event, member, names⟩ := List.any_eq_true.mp isFound
  cases event with
  | applied cameraUuid => cases names
  | write write state =>
      obtain ⟨key, isKey, same⟩ := List.any_eq_true.mp names
      obtain rfl := of_decide_eq_true same
      rcases (each write state member).1 "front" isKey with isManaged | ⟨link, isLink, _⟩
      · cases isManaged
      · cases isLink

end CamAdmiral
