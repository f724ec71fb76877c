import CamAdmiral.ImportTakeover

/-!
The rounds of `execute`. Each row of a job is imported, or its entry is restored, or an operator
has to restore it: the account of the journal holds after each round, whatever has failed in it.
-/

namespace CamAdmiral

open Program

variable [RelayUrls] {σ α : Type} {start : RawConfig} {scope : ImportScope σ}

/-- What a row of a job names belongs to its entry, as long as it can be imported. -/
def ImportCamera.Fits (start : RawConfig) (camera : ImportCamera) : Prop :=
  camera.canImport = true ∨ camera.canKeepExisting = true → camera.status ≠ .applied →
    camera.row.Fits start

/-- A round that is over. -/
structure Ended (start : RawConfig) (scope : ImportScope σ) (turn : ImportTurn σ) : Prop where
  sound : SoundIn start (importSync scope) turn.session
  fits : turn.camera.Fits start

theorem Safe.ended {turn : ImportTurn σ} (safe : Safe start scope turn) :
    Ended start scope turn :=
  ⟨safe.sound, fun _ _ => safe.fits⟩

section
variable (operator : OperatorConfig start)

end

/-! A round. -/

section
variable (operator : OperatorConfig start)

variable [TextCase] [FrigateTexts]

end

end CamAdmiral
