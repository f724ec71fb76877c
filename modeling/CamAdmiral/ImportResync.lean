import CamAdmiral.ImportRollback

/-!
`sync_imported` writes other streams for the imports and then saves them in the journal. As long
as none of its requests fails, the account of the journal holds afterwards.
-/

namespace CamAdmiral

open Program

/-! A row with other streams. -/

section
variable [RelayUrls] {start raw : RawConfig} {targetId : String} {tables later : FrigateTables}
  {row : ImportRow} {managed entry : CameraEntry} {streams : StreamMap}

theorem ImportRow.Fits.resync (fits : row.Fits start) (records : row.Records start)
    (built : row.TakenOver managed) (made : ManagedFrom row entry streams) :
    { row with managedStreams := streams }.Fits start := by
  obtain ⟨_, _, isAliases⟩ := built.aliases
  refine { fits with managed := fun name isManaged => ?_ }
  have isKey := (built.keys name).mpr ((made.names isAliases name).mp isManaged)
  rcases built.managed_fits records isKey with isLive | ⟨_, reads⟩ | takes
  · exact .inl isLive
  · exact .inr (.inl ⟨row.original, records.original, reads⟩)
  · exact .inr (.inr takes)

theorem ImportRow.Records.resync (records : row.Records start) (built : row.TakenOver managed)
    (made : ManagedFrom row entry streams) :
    { row with managedStreams := streams }.Records start := by
  obtain ⟨_, _, isAliases⟩ := built.aliases
  refine { records with
    plain := fun isPlain => ?_
    active := fun _ => ⟨managed, built.resync made⟩ }
  obtain ⟨noCamera, noReleased, noPaused, _⟩ := records.plain isPlain
  refine ⟨noCamera, noReleased, noPaused, fun name isManaged => ?_⟩
  have isKey := (built.keys name).mpr ((made.names isAliases name).mp isManaged)
  rcases built.managed_fits records isKey with isLive | ⟨isHandoff, _⟩ | takes
  · exact .inl isLive
  · exact absurd (isPlain.symm.trans isHandoff) Bool.false_ne_true
  · exact .inr takes

/-- The streams have been written, and then they are saved. -/
theorem Sound.resync (sound : Sound start targetId tables raw)
    (isRow : tables.importLink targetId row.key = some row) (built : row.TakenOver managed)
    (made : ManagedFrom row entry streams)
    (shown : row.Shown start raw.at managed row.managedStreams)
    (isSaved : tables.saveLink targetId row.key { row with managedStreams := streams } =
      some later) :
    Sound start targetId later ((syncRequest streams).apply raw) where
  journal := sound.journal.save isSaved
  accounts := by
    obtain ⟨_, fits, records, _⟩ := sound.kept isRow
    have isStored := importLink_saveLink sound.journal isSaved fun noCamera earlier isEarlier => by
      obtain rfl := Option.some.inj (isRow.symm.trans isEarlier)
      exact noCamera
    refine sound.accounts.replace isRow isStored
      (fun other isOther => importLink_saveLink_other isOther.symm isSaved) (fun _ => Iff.rfl)
      (fun place outside => ImportRow.sync_only fits records built made place fun holds =>
        outside ⟨rfl, holds⟩) ⟨rfl, fits.resync records built made,
          records.resync built made, ?_⟩
    exact .takenOver (built.resync made) (shown.resync built made)

end

section
variable {σ : Type} {scope : SyncScope σ} {bound : Nat}

/-- It holds unless more than this number of requests have failed. -/
def OrFailed (bound : Nat) (holds : Session σ → Prop) (session : Session σ) : Prop :=
  bound < session.failures.length ∨ holds session

variable [RelayUrls] {start : RawConfig} {row : ImportRow} {managed : CameraEntry}
  {streams : StreamMap}

/-- The account holds, and the journal can be written. -/
def SoundTarget (start : RawConfig) (scope : SyncScope σ) (session : Session σ) : Prop :=
  SoundIn start scope session ∧ (session.tables.target scope.targetId).isSome = true

structure SyncReady (start : RawConfig) (scope : SyncScope σ) (bound : Nat) (row : ImportRow)
    (shows : RawConfig → Prop) (session : Session σ) : Prop
    extends Journaled start scope row shows session where
  target : (session.tables.target scope.targetId).isSome = true
  bounded : bound ≤ session.failures.length

namespace SyncReady

variable {shows : RawConfig → Prop} {before after : Session σ}

theorem readStable : ReadStable scope.frigate (SyncReady start scope bound row shows) :=
  fun _ _ quiet ready => ⟨Journaled.readStable _ _ quiet ready.toJournaled,
    quiet.tables ▸ ready.target, ready.bounded.trans quiet.failures.length_le⟩

theorem selectionError (cameraUuid : String) (code : Option String) :
    Triple (SyncReady start scope bound row shows)
      (amend (·.setFrigateSelectionError scope.targetId cameraUuid code))
      (fun _ => OrFailed bound (SoundTarget start scope))
      (OrFailed bound (SoundTarget start scope)) :=
  triple_amend _ fun _ ready => .inr ⟨ready.sound.of_journal rfl rfl, ready.target⟩

end SyncReady

section
variable [FrigateTexts] (operator : OperatorConfig start) (camera : ConsumerCamera)

end

end

end CamAdmiral
