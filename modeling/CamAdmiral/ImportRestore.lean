import CamAdmiral.FrigateSessions
import CamAdmiral.ImportRestoreCore

/-!
The steps that follow the write of a restore: the camera leaves the target, Frigate is
restarted, and its answers are awaited. Whatever survives reads and a restart survives them.
-/

namespace CamAdmiral

open Program

variable {σ : Type} (scope : SyncScope σ) {invariant : Session σ → Prop}

theorem preserves_releaseCamera
    (amended : ∀ (session : Session σ) (tables : FrigateTables),
      tables.links = session.tables.links → tables.handoffs = session.tables.handoffs →
      invariant session → invariant { session with tables := tables })
    (cameraUuid : Option String) :
    Preserves invariant (releaseCamera scope cameraUuid) := by
  cases cameraUuid with
  | none => exact preserves_pure ()
  | some cameraUuid =>
      exact (preserves_amend fun session => amended session _ rfl rfl).bind fun _ =>
        preserves_amend fun session => amended session _ rfl rfl

theorem preserves_restartAndWaitCapture (stable : ReadStable scope.frigate invariant)
    (restarted : ∀ session later, invariant session →
      Sent scope.frigate .restart session later → invariant later)
    (key : String) (expectedInputs : List FrigateInput) :
    Preserves invariant (restartAndWaitCapture scope key expectedInputs) := by
  have restart : Preserves invariant (restartFrigate scope) := by
    refine (preserves_attempt (preserves_send restarted)).bind fun outcome => ?_
    cases outcome with
    | ok value => exact preserves_pure ()
    | error error =>
        dsimp only
        split
        · exact preserves_pure ()
        · exact preserves_fail _
  have poll : Preserves invariant (pollCapture scope key expectedInputs) := by
    refine (preserves_ask stable .stats).bind fun stats => ?_
    split
    · refine (preserves_ask stable .rawPaths).bind fun rawPaths => ?_
      split
      · exact preserves_pure ()
      · exact preserves_fail _
    · exact preserves_fail _
  refine restart.bind fun _ => (preserves_read _).bind fun rounds => ?_
  have waits : Preserves invariant
      (untilDeadline (pollCapture scope key expectedInputs) rounds) := by
    induction rounds with
    | zero => exact poll
    | succ rounds ih =>
        refine (preserves_attempt poll).bind fun outcome => ?_
        cases outcome with
        | ok value => exact preserves_pure value
        | error error => exact ih
  refine (preserves_attempt waits).bind fun outcome => ?_
  cases outcome with
  | ok value => exact preserves_pure ()
  | error error => exact preserves_fail _

end CamAdmiral
