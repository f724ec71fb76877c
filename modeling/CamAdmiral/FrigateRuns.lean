import CamAdmiral.FullSyncCore
import CamAdmiral.ImportRestoreCore
import CamAdmiral.ReconcileCalls
import CamAdmiral.Runs

/-!
Runs of the calls that write to one Frigate, in any order. Between two calls the repository
may change in any way, and Frigate may go on by itself, but nobody edits its saved
configuration. A call ends where its first unhandled failure is.
-/

namespace CamAdmiral

variable {σ : Type}

inductive FrigateAction (σ : Type)
  | reconcile (consumers : Consumers) (host : AddressMode → Except ApiError String)
      (allowRestart : Bool) (only : Option String)
  | fullSync (consumers : Consumers) (host : AddressMode → Except ApiError String)
  | removeCamera (cameraUuid : String)
  | restore (targetApiUrl : String) (adoptedCamera : String → Option String) (key : String)
  | selectCamera (cameraUuid : String) (addressMode : AddressMode)
  | deselectCamera (cameraUuid : String)
  | removeTarget
  | addTarget (name apiUrl : String)
  /-- Any other operation of the repository. -/
  | repository (change : FrigateTables → FrigateTables)
  | elapse (later : σ)

variable (frigate : Frigate σ) (targetId : String)

def scopeOf (consumers : Consumers) (host : AddressMode → Except ApiError String) :
    SyncScope σ :=
  { frigate, targetId, consumers, host }

/-- The calls that do not look at the inventory. -/
def bareScope : SyncScope σ := scopeOf frigate targetId {} fun _ => .ok ""

def changeTables (session : Session σ) (change : FrigateTables → FrigateTables) : Session σ :=
  { session with tables := change session.tables }

def frigateAct [FrigateTexts] (session : Session σ) : FrigateAction σ → Session σ
  | .reconcile consumers host allowRestart only =>
      (reconcileFrigate (scopeOf frigate targetId consumers host) allowRestart only session).2
  | .fullSync consumers host =>
      (fullSyncFrigate (scopeOf frigate targetId consumers host) session).2
  | .removeCamera cameraUuid =>
      (removeFrigateCamera (bareScope frigate targetId) cameraUuid session).2
  | .restore targetApiUrl adoptedCamera key =>
      (restore (bareScope frigate targetId) targetApiUrl adoptedCamera key session).2
  | .selectCamera cameraUuid addressMode => changeTables session fun tables =>
      (tables.selectFrigateCamera targetId cameraUuid addressMode).getD tables
  | .deselectCamera cameraUuid =>
      changeTables session (·.deselectFrigateCamera targetId cameraUuid)
  | .removeTarget => changeTables session (·.removeFrigateTarget targetId)
  | .addTarget name apiUrl => changeTables session fun tables =>
      (tables.saveFrigateTarget targetId name apiUrl).getD tables
  | .repository change => changeTables session change
  | .elapse later =>
      if frigate.saved later = frigate.saved session.frigate then
        { session with frigate := later }
      else
        session

/-- The sessions that a run leads to, if each of its actions meets the condition. -/
abbrev FrigateReaches [FrigateTexts] (allowed : Session σ → FrigateAction σ → Prop) :
    Session σ → Session σ → Prop :=
  Reaches (fun session action next => next = frigateAct frigate targetId session action) allowed

end CamAdmiral
