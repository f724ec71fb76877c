import CamAdmiral.FrigateRuns
import CamAdmiral.ImportOrigin
import CamAdmiral.ImportPreview

/-!
`execute`: the takeover of the selected entries of a job. An entry whose camera refuses a second
reader is paused first; its sources are checked and its camera is adopted; the relay is checked;
and then the entry is written with the relay in place of its sources. Whatever fails on the way
is answered with a restoration from the journal.

The cameras of the repository and everything that is asked of a camera or of the relay are a
parameter: they may answer and fail in any way. The jobs are saved at the end of a camera
instead of at each step.
-/

namespace CamAdmiral

/-- What an adoption returns: the profile token of a role and the stream of a profile token. -/
structure ImportAdoption where
  cameraUuid : String
  roleTokens : List (String × String) := []
  streams : List (String × String) := []
  deriving DecidableEq, Repr

/-- What a probe finds. -/
structure SourceProbe where
  status : String
  width : Nat := 0
  height : Nat := 0
  fps : Nat := 0
  videoCodec : Option String := none
  deriving DecidableEq, Repr

structure ImportProfile where
  token : String
  uri : String
  width : Nat
  height : Nat
  fps : Nat
  encoding : Option String
  deriving DecidableEq, Repr

structure ImportAdoptRequest where
  candidateId : String
  displayName : String
  ip : Option String
  username : String
  password : String
  profiles : List ImportProfile
  roleTokens : List (String × String)
  rejectSourceKeys : List SourceKey
  deriving DecidableEq

inductive WorldCall : Type → Type
  | adopt (request : ImportAdoptRequest) : WorldCall ImportAdoption
  /-- `set_camera_enabled` with true. -/
  | enableCamera (cameraUuid : String) : WorldCall Unit
  | reconcileMedia : WorldCall Unit
  | probeSource (uri username password : String) : WorldCall SourceProbe
  /-- `snapshot_frame`; false is a `SnapshotError`. -/
  | snapshotFrame (streamKey : String) : WorldCall Bool
  /-- Whether the running stream of an alias has consumers and has received bytes. -/
  | recordReceiving (aliasKey : String) : WorldCall Bool
  | learnImportIdentity (cameraUuid : String) : WorldCall Unit

/-- A camera's UUID is a text of hexadecimal digits and hyphens. -/
def PlainUuid (cameraUuid : String) : Prop := ∀ character ∈ cameraUuid.toList, character ≠ '_'

instance (cameraUuid : String) : Decidable (PlainUuid cameraUuid) := List.decidableBAll _ _

/-- The repository and the media beside one Frigate. None of it edits Frigate's saved
configuration. -/
structure ImportWorld {σ : Type} (frigate : Frigate σ) where
  sources : σ → List ManagedSource
  consumers : σ → Consumers
  matchSignature : σ → String → String
  adoption : σ → String → Option ImportAdoption
  credentials : σ → String → Option (String × String)
  identityLinks : σ → List String
  targetHost : σ → Except Failure String
  /-- `digest` of what was written. -/
  writtenHash : CameraEntry → StreamMap → String
  call : {α : Type} → WorldCall α → Program Failure σ α
  call_saved : ∀ {α : Type} (request : WorldCall α) (state : σ),
    frigate.saved (call request state).2 = frigate.saved state
  sources_plain : ∀ (state : σ), ∀ source ∈ sources state, PlainUuid source.cameraUuid
  adoption_plain : ∀ (state : σ) (candidateId : String) (adopted : ImportAdoption),
    adoption state candidateId = some adopted → PlainUuid adopted.cameraUuid
  adopt_plain : ∀ (state : σ) (request : ImportAdoptRequest) (adopted : ImportAdoption),
    (call (.adopt request) state).1 = .ok adopted → PlainUuid adopted.cameraUuid

/-- What stays the same while a job is executed. -/
structure ImportScope (σ : Type) where
  frigate : Frigate σ
  world : ImportWorld frigate
  targetId : String
  apiUrl : String
  keepExisting : List String := []

/-- The session beside the row that the loop is at. -/
structure ImportTurn (σ : Type) where
  session : Session σ
  camera : ImportCamera

abbrev ImportProgram (σ α : Type) := Program Failure (ImportTurn σ) α

variable {σ α : Type}

def inSession (program : Talk σ α) : ImportProgram σ α := fun state =>
  ((program state.session).1, { state with session := (program state.session).2 })

def currentCamera : ImportProgram σ ImportCamera := Program.read (·.camera)

def changeCamera (change : ImportCamera → ImportCamera) : ImportProgram σ Unit :=
  Program.modify fun state => { state with camera := change state.camera }

/-- `try … except FrigateApiError`. -/
def caught (program : ImportProgram σ α) : ImportProgram σ (Except ApiError α) :=
  Program.handle (do return .ok (← program)) fun
    | .api error => pure (.error error)
    | .raised => Program.fail .raised

def HandoffError.failure : HandoffError → Failure
  | .sourceUnavailable => apiFailure "source_unavailable"
  | .configurationChangedRefreshPreview => apiFailure "configuration_changed_refresh_preview"
  | .unsafeHandoffSource => apiFailure "unsafe_handoff_source"
  | .relayCycle => apiFailure "relay_cycle"
  | .sharedHandoffSource => apiFailure "shared_handoff_source"
  | .raised => .raised

section
variable (scope : ImportScope σ)

def inWorld (request : WorldCall α) : ImportProgram σ α := fun state =>
  ((scope.world.call request state.session.frigate).1,
    { state with session := { state.session with
      frigate := (scope.world.call request state.session.frigate).2 } })

def progress (name : String) (stream : Option (Nat × Nat) := none) : ImportProgram σ Unit :=
  changeCamera fun camera => { camera with status := .running, phase := some { name, stream } }

/-- `_check_original`. -/
def checkFrigate : ImportProgram σ Unit := do
  let camera ← currentCamera
  let raw ← inSession (ask scope.frigate .rawConfig)
  Program.ofExcept ((checkOriginal raw camera.row).mapError HandoffError.failure)

def importSync : SyncScope σ := bareScope scope.frigate scope.targetId

section
variable [RelayUrls]

end

/-! The camera. -/

section
variable [RelayUrls] [TextCase]

attribute [local instance] parsedUrls

end

/-! The relay. -/

section
variable [FrigateTexts]

section
variable [RelayUrls]

end

/-! The takeover. -/

end

/-! One row of the job. -/

section
variable [RelayUrls] [TextCase] [FrigateTexts]

end

/-- The states of a row whose original is not in Frigate, or may not be. -/
def unfinished (row : ImportRow) : Bool :=
  row.state ∈ [.releasing, .paused, .applying, .restored]

def Failure.reason : Failure → String
  | .api error => error.code
  | .raised => "import_failed"

section
variable [RelayUrls] [TextCase] [FrigateTexts]

end

end

end CamAdmiral
