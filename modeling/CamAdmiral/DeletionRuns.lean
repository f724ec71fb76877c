import CamAdmiral.ConfigDeletions
import CamAdmiral.ImportRestore

/-!
No run sends a deletion of an absent key, as long as every restore record that a call goes by
names values that are still there. A record that asks for the deletion of a value is kept when
the deletion has succeeded but its verification has failed; the next call sends it again.
-/

namespace CamAdmiral

variable {σ : Type}

section
open Program

/-! `restore`. -/

theorem elim_keeps {α : Type} (value : Option α) :
    (value.elim Change.keep Change.set).deletes = false := by
  cases value <;> rfl

/-- An update that is made from an entry deletes at most its `enabled`. -/
theorem asChange_deletes (entry : CameraEntry) (enabled : Change Bool)
    (held : Option CameraEntry) (exists_ : enabled.deletes = true →
      (held.bind (·.enabled)).isSome = true) :
    ({ entry.asChange with enabled := enabled } : EntryChange).deletionsExist held = true := by
  have implied : (!enabled.deletes || (held.bind (·.enabled)).isSome) = true := by
    cases isDeleted : enabled.deletes with
    | false => rfl
    | true => exact exists_ isDeleted
  simp only [EntryChange.deletionsExist, CameraEntry.asChange, elim_keeps, implied]
  rfl

theorem cameraWrite_deletes {row : ImportRow} {desired : CameraEntry}
    {current : Option CameraEntry} {change : EntryChange}
    (isWrite : cameraWrite row desired current = .ok change) :
    change.deletionsExist current = true := by
  have plain : desired.asChange.deletionsExist current = true := by
    refine asChange_deletes desired desired.asChange.enabled current fun deletes => ?_
    rw [CameraEntry.asChange, elim_keeps] at deletes
    cases deletes
  unfold cameraWrite at isWrite
  split at isWrite
  · cases current with
    | none => cases isWrite
    | some current =>
        obtain rfl := Except.ok.inj isWrite
        split
        case isTrue isEnabled => exact asChange_deletes desired .delete _ fun _ => isEnabled
        case isFalse => exact plain
  · obtain rfl := Except.ok.inj isWrite
    exact plain

theorem restoredStreams_exist {row : ImportRow} {configured : StreamMap}
    {entry : String × Option (List String)} (member : entry ∈ restoredStreams row configured) :
    entry.2.isSome = true ∨ (configured.lookup entry.1).isSome = true := by
  rcases mem_mergeKeys member with isRelay | isOriginal
  · rcases mem_mergeKeys isRelay with never | isRelay
    · cases never
    obtain ⟨name, isAlias, rfl⟩ := List.mem_map.mp isRelay
    exact .inr (List.mem_filter.mp isAlias).2
  · obtain ⟨original, _, rfl⟩ := List.mem_map.mp isOriginal
    exact .inl rfl

variable (scope : SyncScope σ)

theorem preserves_changedTables {change : FrigateTables → FrigateTables} :
    Preserves (DeletionsExist scope.frigate) (amend change) :=
  preserves_amend fun _ exist => exist

/-- Writes that delete nothing from the saved configuration. -/
theorem preserves_sendHarmless {write : FrigateWrite} (harmless : DeletesNothing write) :
    Preserves (DeletionsExist scope.frigate) (send scope.frigate write) :=
  preserves_send fun _ _ exist sent => exist.sent sent (harmless _)

/-- The configuration that the write has been made from is still saved. -/
def StillSaved (raw : RawConfig) (session : Session σ) : Prop :=
  DeletionsExist scope.frigate session ∧ raw = scope.frigate.saved session.frigate

theorem triple_writeOriginal (key : String) (row : ImportRow) {change : EntryChange}
    {raw : RawConfig} (exists_ : change.deletionsExist (raw.cameras.lookup key) = true) :
    Triple (StillSaved scope raw) (writeOriginal scope key row change raw.streams)
      (fun _ => DeletionsExist scope.frigate) (DeletionsExist scope.frigate) := by
  refine Triple.bind (fun _ => DeletionsExist scope.frigate)
    (triple_send _ fun session later ⟨exist, isSaved⟩ sent => ?_) fun _ => ?_
  · have kept := exist.sent sent (by
      rw [← isSaved]
      simp only [deletionsExist, Option.all_some, exists_, Bool.true_and, List.all_eq_true]
      intro entry member
      rcases restoredStreams_exist member with isSome | isSome
      · rw [isSome, Bool.true_or]
      · rw [isSome, Bool.or_true])
    exact ⟨fun _ => kept, kept⟩
  refine (preserves_releaseCamera scope (fun _ _ _ _ => id) row.cameraUuid).bind fun _ => ?_
  refine Preserves.bind (preserves_persist fun _ _ exist _ => exist) fun _ => ?_
  refine (preserves_restartAndWaitCapture scope deletions_readStable
    (fun _ _ exist sent => exist.sent sent rfl) key row.original.inputs).bind fun _ => ?_
  refine Preserves.bind (preserves_each fun _ _ => ?_) fun _ =>
    preserves_changedTables scope
  exact (preserves_attempt (preserves_sendHarmless scope fun _ => rfl)).bind fun _ =>
    preserves_pure ()

theorem preserves_restore (targetApiUrl : String) (adoptedCamera : String → Option String)
    (key : String) :
    Preserves (DeletionsExist scope.frigate) (restore scope targetApiUrl adoptedCamera key) := by
  refine (preserves_read _).bind fun tables => ?_
  cases tables.importLink scope.targetId key with
  | none => exact preserves_fail _
  | some row =>
      dsimp only
      split
      · exact preserves_fail _
      refine Triple.bind (StillSaved scope) (triple_rawConfig fun session later exist quiet => ?_)
        fun raw => ?_
      · have kept := deletions_readStable session later quiet exist
        exact ⟨⟨kept, rfl⟩, kept⟩
      split
      · exact triple_fail _ fun _ => And.left
      split
      · have released : Preserves (DeletionsExist scope.frigate)
            (releaseCamera scope row.cameraUuid) :=
          preserves_releaseCamera scope (fun _ _ _ _ => id) row.cameraUuid
        exact (released.bind fun _ => preserves_changedTables scope).weaken
          (fun _ => And.left) (fun _ _ => id) fun _ => id
      split
      · exact triple_fail _ fun _ => And.left
      refine Triple.bind (fun _ => StillSaved scope raw) ?_ fun cameraUuid => ?_
      · unfold createdCamera
        dsimp only
        split
        · refine Triple.bind (fun _ => StillSaved scope raw) (triple_read _ fun _ => id)
            fun tables => ?_
          split
          · exact triple_fail _ fun _ => And.left
          · exact triple_pure _ fun _ => id
        · exact triple_pure _ fun _ => id
      refine Triple.bind (fun change session => StillSaved scope raw session ∧
        change.deletionsExist (raw.cameras.lookup key) = true)
        (triple_ofExcept (fun change isWrite session still =>
          ⟨still, cameraWrite_deletes isWrite⟩) fun _ => And.left) fun change => ?_
      intro session ⟨still, exists_⟩
      exact triple_writeOriginal scope key _ exists_ session still

/-! Runs. -/

instance (raw : RawConfig) (key : String) : (retired : Option RetiredRow) →
    Decidable (FieldsExist raw key retired)
  | none => .isTrue nofun
  | some row => decidable_of_iff
      ((row.restore.record = none →
        ((raw.cameras.lookup key).bind (·.visibility.record)).isSome = true) ∧
      (row.restore.dashboard = none →
        ((raw.cameras.lookup key).bind (·.visibility.dashboard)).isSome = true))
      ⟨fun exist _ isRow => Option.some.inj isRow ▸ exist, fun exist => exist row rfl⟩

variable [FrigateTexts]

instance (allowRestart : Bool) (only : Option String) (session : Session σ) :
    Decidable (RestoresExist scope allowRestart only session) :=
  inferInstanceAs (Decidable (∀ _ ∈ _, _ → _ → _ → _ → _))

variable (frigate : Frigate σ) (targetId : String)

/-- The restore records that the action goes by name values that are still saved. -/
def RecordsCurrent (session : Session σ) : FrigateAction σ → Prop
  | .reconcile consumers host allowRestart only =>
      RestoresExist (scopeOf frigate targetId consumers host) allowRestart only session
  | .fullSync consumers host =>
      RestoresExist (scopeOf frigate targetId consumers host) true none session
  | _ => True

theorem frigateAct_deletions {session : Session σ} {action : FrigateAction σ}
    (current : RecordsCurrent frigate targetId session action)
    (exist : DeletionsExist frigate session) :
    DeletionsExist frigate (frigateAct frigate targetId session action) := by
  cases action with
  | reconcile consumers host allowRestart only =>
      exact reconcileFrigate_deletions (scopeOf frigate targetId consumers host) allowRestart
        current exist
  | fullSync consumers host =>
      exact fullSyncFrigate_deletions (scopeOf frigate targetId consumers host) current exist
  | removeCamera cameraUuid =>
      exact (preserves_removeFrigateCamera cameraUuid
        (deletions_removalKeeps (bareScope frigate targetId) _) (fun _ => id)
        fun _ => id).holds exist
  | restore targetApiUrl adoptedCamera key =>
      exact (preserves_restore (bareScope frigate targetId) targetApiUrl adoptedCamera
        key).holds exist
  | selectCamera | deselectCamera | removeTarget | addTarget | repository => exact exist
  | elapse later =>
      rw [frigateAct]
      split <;> exact exist

/-- In every run whose calls go by current records, a deletion is only sent of a key that is
in the saved configuration. -/
theorem sent_deletions_exist {start later : Session σ}
    (run : FrigateReaches frigate targetId (RecordsCurrent frigate targetId) start later)
    (exist : DeletionsExist frigate start) : DeletionsExist frigate later :=
  run.invariant (DeletionsExist frigate) exist fun _ _ _ exist current isNext =>
    isNext ▸ frigateAct_deletions frigate targetId current exist

end

/-! The camera is removed and selected again. Its worker does not start, so the verification of
the first reconciliation fails after its write has deleted what it should. -/

def stoppedYard : Session PlainState where
  tables := yardTables (yardBinding true)
  frigate := yardFrigate (yardEntry true) []

def yardReconcile : FrigateAction PlainState :=
  .reconcile yardScope.consumers yardScope.host true none

def yardRestored : List (FrigateAction PlainState) :=
  [.removeCamera "c", .selectCamera "c" .lan, yardReconcile]

abbrev yardAct := @frigateAct PlainState plainFrigate "t" plainFrigateTexts

theorem restored_once_deletions_exist :
    stoppedYard.log = [] ∧
      DeletionsExist plainFrigate (yardRestored.foldl yardAct stoppedYard) := by
  have current : @RestoresExist _ plainFrigateTexts
      (scopeOf plainFrigate "t" yardScope.consumers yardScope.host) true none
      (yardAct (yardAct stoppedYard (.removeCamera "c")) (.selectCamera "c" .lan)) := by
    decide +kernel
  exact ⟨rfl, @sent_deletions_exist _ plainFrigateTexts plainFrigate "t" stoppedYard _
    (Reaches.of_permitted ⟨trivial, trivial, current, trivial⟩) (by rintro write before ⟨⟩)⟩

def deletesAbsent : Event PlainState → Bool
  | .write write before => !deletionsExist before.saved write
  | .applied _ => false

theorem not_deletionsExist {session : Session PlainState}
    (found : session.log.any deletesAbsent = true) : ¬ DeletionsExist plainFrigate session := by
  intro exist
  obtain ⟨event, member, violates⟩ := List.any_eq_true.mp found
  cases event with
  | write write before =>
      have exists_ : deletionsExist before.saved write = true := exist write before member
      rw [deletesAbsent, exists_] at violates
      cases violates
  | applied cameraUuid => cases violates

theorem retried_restore_deletes_twice :
    ∃ later, @FrigateReaches _ plainFrigate "t" plainFrigateTexts (fun _ _ => True)
      stoppedYard later ∧ stoppedYard.log = [] ∧ ¬ DeletionsExist plainFrigate later := by
  refine ⟨(yardRestored ++ [yardReconcile]).foldl yardAct stoppedYard,
    Reaches.of_permitted ⟨trivial, trivial, trivial, trivial, trivial⟩, rfl,
    not_deletionsExist ?_⟩
  decide +kernel

end CamAdmiral
