import CamAdmiral.ImportRuns

/-!
`restore` returns. As long as Frigate serves its requests and captures what it has saved, every
entry of the journal can be given back, in every state that a run of imports leads to.
-/

namespace CamAdmiral

open Program

/-! Programs that do not fail. -/

section
variable {ε σ α : Type}

end

section
variable {σ : Type} {frigate : Frigate σ} {before : Session σ → Prop}

section
variable {α : Type}

end

section
variable {targetId key : String} {entry : CameraEntry} {session : Session σ}

end

/-! The steps of a restoration. -/

variable [RelayUrls] {start : RawConfig} {scope : ImportScope σ} {row : ImportRow}

section
variable {cameraUuid : Option String}

/-- What a restoration needs besides Frigate: its target at the address of the import, an
original that captures, and a created camera that nobody else uses. -/
structure CanRestore (scope : ImportScope σ) (adopted : String → Option String)
    (tables : FrigateTables) (row : ImportRow) : Prop where
  target : (tables.target scope.targetId).isSome = true
  address : row.targetApiUrl.getD scope.apiUrl = scope.apiUrl
  enabled : row.original.enabled ≠ some false
  unshared : ∀ selection ∈ tables.selections,
    some selection.cameraUuid = row.cameraUuid.or (row.candidateId.bind adopted) →
      selection.targetId = scope.targetId
  fresh : row.cameraUuid = none → ∀ cameraUuid, row.candidateId.bind adopted = some cameraUuid →
    ∀ link ∈ tables.links, link.targetId = scope.targetId →
      link.payload.cameraUuid ≠ some cameraUuid

omit [RelayUrls] in
theorem CanRestore.savable {adopted : String → Option String} {tables : FrigateTables}
    (restorable : CanRestore scope adopted tables row) (journal : JournalRows scope.targetId tables)
    (isRow : tables.importLink scope.targetId row.key = some row)
    (isCamera : cameraUuid = row.cameraUuid ∨
      cameraUuid = row.cameraUuid.or (row.candidateId.bind adopted)) :
    Savable scope.targetId row.key { row with cameraUuid := cameraUuid, state := .restored }
      tables := by
  refine ⟨restorable.target, fun link isLink isTarget isOther uuid isUuid => ?_⟩
  cases isHeld : row.cameraUuid with
  | none =>
      have isAdopted : row.candidateId.bind adopted = some uuid := by
        rcases isCamera with rfl | rfl
        · exact absurd (isHeld.symm.trans isUuid) (Option.some_ne_none uuid).symm
        · rwa [isHeld, Option.none_or] at isUuid
      exact restorable.fresh isHeld uuid isAdopted link isLink isTarget
  | some held =>
      obtain rfl : held = uuid := by
        rcases isCamera with rfl | rfl
        · exact Option.some.inj (isHeld.symm.trans isUuid)
        · rw [isHeld, Option.some_or] at isUuid
          exact Option.some.inj isUuid
      exact journal.own_camera isRow isHeld link isLink isTarget isOther

theorem ImportRow.Stands.entry {raw : RawConfig} (stands : row.Stands start raw.at) :
    ∃ entry, raw.cameras.lookup row.key = some entry := by
  cases stands with
  | untouched shown => exact ⟨_, shown.camera⟩
  | paused _ shown => exact ⟨_, shown.camera⟩
  | takenOver _ shown => exact ⟨_, shown.camera⟩

end

end

/-! The imported camera is given back. -/

section
attribute [local instance] plainRelayUrls asciiCase plainFrigateTexts constantDigest

end

end CamAdmiral
