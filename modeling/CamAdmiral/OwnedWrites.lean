import CamAdmiral.CameraEnabling
import CamAdmiral.DeletionRuns
import CamAdmiral.ImportOrigin

/-!
Which cameras and streams a request names. CamAdmiral's own are those with its prefix and
those that an import link records.
-/

namespace CamAdmiral

variable {σ : Type}

/-- Every name of the request has the prefix or is recorded in an import link. -/
def OwnedWrite (tables : FrigateTables) (targetId : String) (write : FrigateWrite) : Prop :=
  (∀ key ∈ write.cameraKeys, startsWith key keyPrefix = true ∨
    ∃ link ∈ importRows tables targetId, link.1 = key) ∧
  ∀ name ∈ write.streamKeys, startsWith name keyPrefix = true ∨
    ∃ link ∈ importRows tables targetId, name ∈ link.2.streamKeys

/-- The aliases of a camera that is not imported. -/
def ownAliases (key : String) : List String := [key ++ "_record", key ++ "_detect"]

/-- The request names one camera and its own aliases at most. -/
def NamesCamera (key : String) (write : FrigateWrite) : Prop :=
  (∀ name ∈ write.cameraKeys, name = key) ∧ ∀ name ∈ write.streamKeys, name ∈ ownAliases key

theorem ownAliases_managed {key name : String} (isManaged : startsWith key keyPrefix = true)
    (isAlias : name ∈ ownAliases key) : startsWith name keyPrefix = true := by
  rcases List.mem_cons.mp isAlias with rfl | isDetect
  · exact startsWith_longer _ isManaged
  · obtain rfl := List.mem_singleton.mp isDetect
    exact startsWith_longer _ isManaged

theorem NamesCamera.owned {key : String} {write : FrigateWrite} (names : NamesCamera key write)
    (isManaged : startsWith key keyPrefix = true) (tables : FrigateTables) (targetId : String) :
    OwnedWrite tables targetId write := by
  refine ⟨fun name member => .inl ?_, fun name member => .inl ?_⟩
  · rwa [names.1 name member]
  · exact ownAliases_managed isManaged (names.2 name member)

theorem NamesImport.owned {key : String} {row : ImportRow} {write : FrigateWrite}
    (names : NamesImport row write) {tables : FrigateTables} {targetId : String}
    (isLink : (key, row) ∈ importRows tables targetId) : OwnedWrite tables targetId write := by
  refine ⟨?_, fun name member => .inr ⟨_, isLink, names.2 name member⟩⟩
  rw [names.1]
  exact fun _ never => absurd never List.not_mem_nil

/-! Parts of a call that send nothing else. -/

/-- The log has grown, and every request in the new part is allowed. -/
def SentOnly (allowed : FrigateWrite → Prop) (before after : Session σ) : Prop :=
  ∃ events, after.log = before.log ++ events ∧
    ∀ write state, Event.write write state ∈ events → allowed write

namespace SentOnly

variable {allowed : FrigateWrite → Prop} {before after : Session σ}

theorem of_log (same : after.log = before.log) : SentOnly allowed before after :=
  ⟨[], by rw [same, List.append_nil], fun _ _ never => absurd never List.not_mem_nil⟩

theorem refl (session : Session σ) : SentOnly allowed session session := of_log rfl

theorem trans {first second third : Session σ} (early : SentOnly allowed first second)
    (late : SentOnly allowed second third) : SentOnly allowed first third := by
  obtain ⟨events, isLog, each⟩ := early
  obtain ⟨others, isLater, eachOther⟩ := late
  refine ⟨events ++ others, by rw [isLater, isLog, List.append_assoc], ?_⟩
  intro write state member
  rcases List.mem_append.mp member with isEarly | isLate
  · exact each write state isEarly
  · exact eachOther write state isLate

theorem weaken {weaker : FrigateWrite → Prop} (sent : SentOnly allowed before after)
    (implies : ∀ write, allowed write → weaker write) : SentOnly weaker before after := by
  obtain ⟨events, isLog, each⟩ := sent
  exact ⟨events, isLog, fun write state member => implies write (each write state member)⟩

theorem of_sent {frigate : Frigate σ} {write : FrigateWrite} (isAllowed : allowed write)
    (sent : Sent frigate write before after) : SentOnly allowed before after := by
  refine ⟨_, sent.log, fun other state member => ?_⟩
  obtain ⟨rfl, rfl⟩ := Event.write.inj (List.mem_singleton.mp member)
  exact isAllowed

theorem readStable (frigate : Frigate σ) (start : Session σ) :
    ReadStable frigate (SentOnly allowed start) :=
  fun _ _ quiet sent => sent.trans (of_log quiet.log)

end SentOnly

section
open Program

variable {scope : SyncScope σ} {start : Session σ}

/-! `sync_imported` names what the links record. -/

theorem sentOnly_syncKeeps (key : String) (row : ImportRow) :
    SyncKeeps scope key row (SentOnly (NamesImport row) start) where
  reads := SentOnly.readStable scope.frigate start
  reports _ _ _ only := only.trans (.of_log rfl)
  sends only _ names sent := only.trans (.of_sent names sent)
  saves only _ := only.trans (.of_log rfl)

section
variable [FrigateTexts]

/-- The links in the order of the call, each with the state that it finds. -/
def syncRounds (scope : SyncScope σ) (session : Session σ) :
    List ((String × ImportRow) × Session σ) :=
  rounds (fun link => syncRow scope (selectedAt scope session) link.1 link.2)
    (importRows session.tables scope.targetId) session

theorem syncImported_names (session : Session σ) :
    SentOnly (fun write => ∃ round ∈ syncRounds scope session,
        SyncWrites scope (selectedAt scope session) round.1 round.2 ∧
          NamesImport round.1.2 write)
      session (syncImported scope session).2 := by
  rw [syncImported_each]
  refine (rounds_invariant (SentOnly.refl session) ?_).2
  rintro ⟨⟨key, row⟩, before⟩ member only
  refine only.trans ?_
  by_cases writes : SyncWrites scope (selectedAt scope session) (key, row) before
  · have sent : SentOnly (NamesImport row) before
        (syncRow scope (selectedAt scope session) key row before).2 :=
      ((sentOnly_syncKeeps key row).syncRow _).holds (.refl before)
    exact sent.weaken fun write names => ⟨_, member, writes, names⟩
  · exact .of_log (syncRow_keeps writes).log

theorem inspectFrigate_names (session : Session σ) :
    let ready := (ask scope.frigate .capabilities session).2
    SentOnly (fun write => ∃ round ∈ syncRounds scope ready,
        SyncWrites scope (selectedAt scope ready) round.1 round.2 ∧ NamesImport round.1.2 write)
      session (inspectFrigate scope session).2 := by
  intro ready
  have quiet : Quiet scope.frigate session ready := ask_quiet _ session
  refine (SentOnly.of_log quiet.log).trans ?_
  cases isReady : (ask scope.frigate .capabilities session).1 with
  | error failure =>
      have isFailed : ask scope.frigate .capabilities session = (.error failure, ready) :=
        Prod.ext isReady rfl
      rw [inspectFrigate, Program.bind_of_error isFailed]
      exact .refl ready
  | ok value =>
      have isDone : ask scope.frigate .capabilities session = (.ok value, ready) :=
        Prod.ext isReady rfl
      rw [inspectFrigate, Program.bind_of_ok isDone]
      have synced : SentOnly _ ready (syncImported scope ready).2 := syncImported_names ready
      cases isSynced : syncImported scope ready with
      | mk result later =>
          rw [isSynced] at synced
          cases result with
          | error failure =>
              rw [Program.bind_of_error isSynced]
              exact synced
          | ok imported =>
              rw [Program.bind_of_ok isSynced]
              refine synced.trans ?_
              exact ((writes_takeSnapshot.preserves (SentOnly.readStable scope.frigate later)).bind
                fun _ => preserves_pure _).holds (.refl later)

end

end

/-! A round names the camera that it is about. -/

theorem Attempted.sentOnly {scope : SyncScope σ} {cameraUuid : String}
    {prepare : FrigateTables → Option FrigateTables} {writes : List FrigateWrite}
    {seen : Snapshot → Session σ → Prop} {complete : FrigateTables → FrigateTables}
    {progress : Progress} {session : Session σ} {result : Except Failure Progress × Session σ}
    (attempted : Attempted scope cameraUuid prepare writes seen complete progress session result) :
    SentOnly (· ∈ writes) session result.2 := by
  obtain ⟨events, isLog, each, _⟩ := attempted.events
  refine ⟨events, isLog, fun write state member => ?_⟩
  rcases each _ member with isApplied | ⟨_, other, isWrite, before, isEvent⟩
  · cases isApplied
  · obtain ⟨rfl, rfl⟩ := Event.write.inj isEvent
    exact isWrite

theorem setEnabled_names (key : String) (enabled : Bool) :
    NamesCamera key (setEnabled key enabled) := by
  refine ⟨fun name member => ?_, fun name never => absurd never List.not_mem_nil⟩
  exact List.mem_singleton.mp member

theorem cameraWrites_names {desired : DesiredCamera} {snapshot : Snapshot}
    {binding : Option FrigateBindingRow} {retired : Option RetiredRow} {allowRestart : Bool}
    (aliases : desired.streams.map Prod.fst = ownAliases desired.key) :
    ∀ write ∈ cameraWrites desired snapshot binding retired allowRestart,
      NamesCamera desired.key write := by
  intro write member
  have isAlias {stream : String × List String} (isHeld : stream ∈ desired.streams) :
      stream.1 ∈ ownAliases desired.key :=
    aliases ▸ List.mem_map_of_mem isHeld
  simp only [cameraWrites, List.mem_append] at member
  rcases member with (((isEntry | isEnabled) | isStreams) | isRuntime) | isRestart
  · obtain rfl := List.mem_singleton.mp isEntry
    exact ⟨fun name isName => List.mem_singleton.mp isName,
      fun name never => absurd never List.not_mem_nil⟩
  · split at isEnabled
    · obtain rfl := List.mem_singleton.mp isEnabled
      exact setEnabled_names _ _
    · cases isEnabled
  · obtain rfl := List.mem_singleton.mp isStreams
    refine ⟨fun name never => absurd never List.not_mem_nil, fun name isName => ?_⟩
    obtain ⟨_, isChange, rfl⟩ := List.mem_map.mp isName
    obtain ⟨stream, isHeld, rfl⟩ := List.mem_map.mp isChange
    exact isAlias isHeld
  · obtain ⟨stream, isHeld, rfl⟩ := List.mem_map.mp isRuntime
    refine ⟨fun name never => absurd never List.not_mem_nil, fun name isName => ?_⟩
    obtain rfl := List.mem_singleton.mp isName
    exact isAlias isHeld
  · split at isRestart
    · obtain rfl := List.mem_singleton.mp isRestart
      exact ⟨fun name never => absurd never List.not_mem_nil,
        fun name never => absurd never List.not_mem_nil⟩
    · cases isRestart

section
variable [FrigateTexts] (scope : SyncScope σ) (allowRestart : Bool)

theorem desiredCamera_streams {selected : SelectedCamera} {password host : String}
    {desired : DesiredCamera}
    (isDesired : desiredCamera selected password host = .ok (some desired)) :
    desired.streams.map Prod.fst = ownAliases desired.key := by
  unfold desiredCamera at isDesired
  split at isDesired
  case h_2 => cases isDesired
  case h_1 record detect _ _ =>
    dsimp only at isDesired
    split at isDesired
    all_goals
      obtain ⟨size, _, isDesired⟩ := except_bind isDesired
      split at isDesired
      case h_2 => cases isDesired
      obtain ⟨source, _, isDesired⟩ := except_bind isDesired
      obtain rfl := Option.some.inj (Except.ok.inj isDesired)
      rfl

/-- The entry that a round disables: what the camera is bound to, unless Frigate reports no such
entry or one that is disabled. -/
def Turn.disables (turn : Turn σ) : Option String :=
  if turn.selected.camera.enabled then
    none
  else
    ((turn.binding scope).map (·.frigateCameraKey)).filter fun key =>
      (turn.progress.snapshot.config.cameras.lookup key).any fun entry =>
        entry.enabled ≠ some false

/-- The round reaches the write branch. -/
def Turn.writes (turn : Turn σ) (desired : DesiredCamera) : Prop :=
  turnBranch scope allowRestart turn.selected turn.progress.snapshot turn.session.tables =
    .written desired

def Turn.after (turn : Turn σ) : Session σ :=
  (reconcileCamera scope allowRestart turn.selected turn.progress turn.session).2

theorem turnBranch_disabled {selected : SelectedCamera} {snapshot : Snapshot}
    {tables : FrigateTables} :
    turnBranch scope allowRestart selected snapshot tables = .disabled ↔
      selected.camera.enabled = false := by
  constructor
  · intro isDisabled
    by_contra enabled
    rw [Bool.not_eq_false] at enabled
    unfold turnBranch at isDisabled
    rw [enabled, Bool.not_true, if_neg Bool.false_ne_true] at isDisabled
    split at isDisabled
    · cases isDisabled
    split at isDisabled
    · cases isDisabled
    · cases isDisabled
    · unfold enabledBranch at isDisabled
      dsimp only at isDisabled
      split_ifs at isDisabled
  · intro isDisabled
    rw [turnBranch, isDisabled, Bool.not_false, if_pos rfl]

omit [FrigateTexts] in
theorem disableCamera_idle {cameraUuid : String} {binding : Option FrigateBindingRow}
    {progress : Progress} (idle : (binding.map (·.frigateCameraKey)).filter (fun key =>
      (progress.snapshot.config.cameras.lookup key).any fun entry =>
        entry.enabled ≠ some false) = none) :
    disableCamera scope cameraUuid binding progress = markApplied cameraUuid progress := by
  cases binding with
  | none => rfl
  | some row =>
      rw [Option.map_some, Option.filter_eq_none_iff] at idle
      have notEnabled := idle row.frigateCameraKey rfl
      unfold disableCamera
      dsimp only
      split
      · rfl
      · rename_i actual isActual
        rw [isActual, Option.any_some, decide_eq_true_eq, not_not] at notEnabled
        rw [if_pos notEnabled]

theorem Turn.names (turn : Turn σ) :
    SentOnly (fun write => ∃ key, NamesCamera key write ∧
        (turn.disables scope = some key ∧ write.streamKeys = [] ∨
          key = turn.selected.key ∧ ∃ desired, turn.writes scope allowRestart desired))
      turn.session (turn.after scope allowRestart) := by
  have applied (session : Session σ) (tables : FrigateTables) (cameraUuid : String)
      {allowed : FrigateWrite → Prop} : SentOnly allowed session
        { session with tables := tables, log := session.log ++ [.applied cameraUuid] } := by
    refine ⟨_, rfl, fun write state member => ?_⟩
    cases List.mem_singleton.mp member
  unfold Turn.after
  cases isEnabled : turn.selected.camera.enabled with
  | false =>
      have isBranch : turnBranch scope allowRestart turn.selected turn.progress.snapshot
          turn.session.tables = .disabled :=
        (turnBranch_disabled scope allowRestart).mpr isEnabled
      rw [reconcileCamera_branch, isBranch]
      change SentOnly _ _ (disableCamera scope _ (turn.binding scope) turn.progress _).2
      cases isDisables : turn.disables scope with
      | none =>
          rw [Turn.disables, isEnabled, if_neg Bool.false_ne_true] at isDisables
          rw [disableCamera_idle scope isDisables]
          exact applied turn.session _ _
      | some key =>
          rw [Turn.disables, isEnabled, if_neg Bool.false_ne_true,
            Option.filter_eq_some_iff] at isDisables
          obtain ⟨isKey, _⟩ := isDisables
          have round := disableCamera_round scope allowRestart turn.selected.camera.cameraUuid
            (turn.binding scope) (fun _ => none) turn.progress
            (clearedSession scope turn.selected.camera.cameraUuid turn.session)
          change SentOnly _ (clearedSession scope turn.selected.camera.cameraUuid turn.session)
            (disableCamera scope _ (turn.binding scope) turn.progress
              (clearedSession scope turn.selected.camera.cameraUuid turn.session)).2
          generalize disableCamera scope _ (turn.binding scope) turn.progress
            (clearedSession scope turn.selected.camera.cameraUuid turn.session) = result at round ⊢
          cases round with
          | needless => exact applied _ _ _
          | disabled isBinding attempted =>
              rw [isBinding, Option.map_some] at isKey
              obtain rfl := Option.some.inj isKey
              refine SentOnly.weaken attempted.sentOnly fun write member => ?_
              obtain rfl := List.mem_singleton.mp member
              exact ⟨_, setEnabled_names _ _, .inl ⟨rfl, rfl⟩⟩
  | true =>
      have round := reconcileCamera_round scope allowRestart turn.selected turn.progress
        turn.session
      generalize reconcileCamera scope allowRestart turn.selected turn.progress turn.session =
        result at round ⊢
      generalize isBranch : turnBranch scope allowRestart turn.selected turn.progress.snapshot
        turn.session.tables = branch at round
      cases round with
      | failed | rejected | waiting => exact .of_log rfl
      | needless | disabled =>
          rw [turnBranch_disabled, isEnabled] at isBranch
          cases isBranch
      | settled desired isTables => exact applied turn.session _ _
      | awaited desired attempted =>
          exact SentOnly.weaken attempted.sentOnly fun write never => absurd never List.not_mem_nil
      | written desired attempted =>
          obtain ⟨_, ⟨host, _, isDesired⟩, _⟩ := (turnBranch_written scope allowRestart).mp isBranch
          refine SentOnly.weaken attempted.sentOnly fun write member => ?_
          have names := cameraWrites_names (desiredCamera_streams isDesired) write member
          exact ⟨desired.key, names, .inr ⟨(desiredCamera_key isDesired).1, desired, isBranch⟩⟩

end

end CamAdmiral
