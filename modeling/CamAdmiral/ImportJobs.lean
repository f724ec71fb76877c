import CamAdmiral.ImportRounds

/-!
The jobs of a target. `preview` makes one from what Frigate has, and `execute` imports the
selected rows of it. What a row names belongs to its entry from the preview on, however often
and with whatever outcome the job is executed.
-/

namespace CamAdmiral

open Program

/-- The session beside the jobs of its target, the newest first. -/
structure ImportSystem (σ : Type) where
  session : Session σ
  jobs : List ImportJob := []

abbrev JobProgram (σ α : Type) := Program Failure (ImportSystem σ) α

section
variable {σ α : Type}

def withSession (program : Talk σ α) : JobProgram σ α := fun system =>
  ((program system.session).1, { system with session := (program system.session).2 })

def storeJob (job : ImportJob) : JobProgram σ Unit :=
  Program.modify fun system => { system with jobs := saveJob system.jobs job }

variable (scope : ImportScope σ)

def importKnowledge : Talk σ ImportKnowledge := Program.read fun session => {
  sources := scope.world.sources session.frigate
  consumers := scope.world.consumers session.frigate
  matchSignature := scope.world.matchSignature session.frigate
  bindings := (session.tables.bindings.filter (·.targetId = scope.targetId)).map fun row =>
    (row.frigateCameraKey, row.cameraUuid)
  links := importRows session.tables scope.targetId }

section
variable [TextCase] [SourceDigest]

/-- `preview` up to the save of its job. -/
def previewJob (jobId : String) : Talk σ ImportJob := do
  let raw ← ask scope.frigate .rawConfig
  let effective ← ask scope.frigate .config
  let paths ← ask scope.frigate .rawPaths
  let known ← importKnowledge scope
  if maxCameras < raw.cameras.length then
    Program.fail (apiFailure "too_many_cameras")
  else
    pure {
      jobId
      apiUrl := scope.apiUrl
      cameras := (raw.cameras.map Prod.fst).filterMap fun key =>
        (raw.cameras.lookup key).map fun saved =>
          previewCamera known raw effective paths.streams (key, saved) }

def preview (jobId : String) : JobProgram σ ImportJob := do
  let job ← withSession (previewJob scope jobId)
  storeJob job
  pure job

end

section
variable [RelayUrls] [TextCase] [FrigateTexts]

end

end

/-! What a preview finds belongs to its entry. -/

section
variable {σ : Type}

end

section
variable [TextCase] [SourceDigest]

variable [RelayUrls] {start raw : RawConfig}

variable {targetId key : String} {tables : FrigateTables} {effective : LiveConfig}
  {streams : StreamMap} {saved : CameraEntry}

end

/-! The jobs. -/

section
variable [RelayUrls] {σ : Type} {start : RawConfig} {scope : ImportScope σ}

/-- The rows of a job can be imported. -/
def ImportJob.Fits (start : RawConfig) (job : ImportJob) : Prop :=
  ∀ camera ∈ job.cameras, camera.Fits start

/-- The account of the journal holds, and whatever job is executed, its rows can be imported. -/
structure ImportSystem.Sound (start : RawConfig) (scope : ImportScope σ)
    (system : ImportSystem σ) : Prop where
  session : SoundIn start (importSync scope) system.session
  jobs : ∀ job ∈ system.jobs, job.Fits start

theorem ImportJob.Fits.started {job : ImportJob} (fits : job.Fits start)
    (selected keepExisting : List String) :
    (startJob job selected keepExisting).Fits start := by
  intro camera isCamera
  obtain ⟨earlier, isEarlier, rfl⟩ := List.mem_map.mp isCamera
  have isFit := fits earlier isEarlier
  split
  · rename_i isOpen
    simp only [Bool.and_eq_true, decide_eq_true_eq] at isOpen
    split
    · exact fun isImport _ => isFit isImport isOpen.1.2
    · exact fun isImport _ => isFit isImport isOpen.1.2
  · exact isFit

variable (operator : OperatorConfig start)

section
variable [TextCase] [SourceDigest]

end

section
variable [TextCase] [FrigateTexts]

end

end

end CamAdmiral
