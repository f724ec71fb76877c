import CamAdmiral.ImportJournal

/-!
`restore` keeps the account of the journal whatever Frigate answers. When it returns, the entry
is the operator's again and its row is gone; when it fails, the row is still there, so that it
can be called again. `recover_handoffs` is a number of such calls.
-/

namespace CamAdmiral

open Program

variable [RelayUrls] {σ : Type} {start : RawConfig} {scope : SyncScope σ}

/-! What a session keeps. -/

def SoundIn (start : RawConfig) (scope : SyncScope σ) (session : Session σ) : Prop :=
  Sound start scope.targetId session.tables (scope.frigate.saved session.frigate)

/-- The row is in the journal, and Frigate's saved configuration is like this. -/
structure Journaled (start : RawConfig) (scope : SyncScope σ) (row : ImportRow)
    (shows : RawConfig → Prop) (session : Session σ) : Prop where
  sound : SoundIn start scope session
  stored : session.tables.importLink scope.targetId row.key = some row
  shown : shows (scope.frigate.saved session.frigate)

theorem SoundIn.of_journal {session : Session σ} {tables : FrigateTables}
    (links : tables.links = session.tables.links)
    (handoffs : tables.handoffs = session.tables.handoffs) (sound : SoundIn start scope session) :
    SoundIn start scope { session with tables := tables } :=
  Sound.of_journal sound links handoffs

/-- A request that does not edit the saved configuration. -/
def FrigateWrite.Passing (write : FrigateWrite) : Prop := ∀ raw, write.apply raw = raw

omit [RelayUrls] in
theorem Sent.passing {frigate : Frigate σ} {write : FrigateWrite} {before after : Session σ}
    (sent : Sent frigate write before after) (passing : write.Passing) :
    frigate.saved after.frigate = frigate.saved before.frigate :=
  sent.saved.elim id fun applied => applied.trans (passing _)

theorem SoundIn.sent {write : FrigateWrite} {before after : Session σ}
    (sound : SoundIn start scope before) (sent : Sent scope.frigate write before after)
    (passing : write.Passing) : SoundIn start scope after := by
  rw [SoundIn, sent.tables, sent.passing passing]
  exact sound

namespace Journaled

variable {row : ImportRow} {shows : RawConfig → Prop} {before after : Session σ}

theorem of_same (held : Journaled start scope row shows before)
    (links : after.tables.links = before.tables.links)
    (handoffs : after.tables.handoffs = before.tables.handoffs)
    (saved : scope.frigate.saved after.frigate = scope.frigate.saved before.frigate) :
    Journaled start scope row shows after where
  sound := by
    rw [SoundIn, saved]
    exact Sound.of_journal held.sound links handoffs
  stored := by
    rw [FrigateTables.importLink, links, handoffs]
    exact held.stored
  shown := saved ▸ held.shown

theorem readStable : ReadStable scope.frigate (Journaled start scope row shows) :=
  fun _ _ quiet held => held.of_same (congrArg _ quiet.tables) (congrArg _ quiet.tables) quiet.saved

theorem sent {write : FrigateWrite} (held : Journaled start scope row shows before)
    (sent : Sent scope.frigate write before after) (passing : write.Passing) :
    Journaled start scope row shows after :=
  held.of_same (congrArg _ sent.tables) (congrArg _ sent.tables) (sent.passing passing)

theorem fits (held : Journaled start scope row shows before) : row.Fits start :=
  (Sound.kept held.sound held.stored).2.1

theorem records (held : Journaled start scope row shows before) : row.Records start :=
  (Sound.kept held.sound held.stored).2.2.1

theorem stands (held : Journaled start scope row shows before) :
    row.Stands start (scope.frigate.saved before.frigate).at :=
  (Sound.kept held.sound held.stored).2.2.2

/-- A request for the part of the row. -/
theorem write {request : FrigateWrite} {later : RawConfig → Prop}
    (held : Journaled start scope row shows before)
    (isSent : Sent scope.frigate request before after)
    (only : row.Only start (scope.frigate.saved before.frigate)
      (request.apply (scope.frigate.saved before.frigate)))
    (stands : row.Stands start (request.apply (scope.frigate.saved before.frigate)).at)
    (shown : later (request.apply (scope.frigate.saved before.frigate))) :
    (scope.frigate.saved after.frigate = request.apply (scope.frigate.saved before.frigate) →
      Journaled start scope row later after) ∧ SoundIn start scope after := by
  have written (applied : scope.frigate.saved after.frigate =
      request.apply (scope.frigate.saved before.frigate)) :
      Journaled start scope row later after := by
    refine ⟨?_, by rw [isSent.tables]; exact held.stored, applied ▸ shown⟩
    rw [SoundIn, isSent.tables, applied]
    exact Sound.write held.sound held.stored only stands
  refine ⟨written, ?_⟩
  rcases isSent.saved with same | applied
  · rw [SoundIn, isSent.tables, same]
    exact held.sound
  · exact (written applied).sound

end Journaled

/-! The camera that a row is given. -/

/-- Nothing that concerns Frigate is different, but that a camera may have been added. -/
structure ImportRow.Adds (row next : ImportRow) : Prop where
  same : next = { row with
    cameraUuid := next.cameraUuid
    state := next.state
    createdCamera := next.createdCamera
    candidateId := next.candidateId
    streamMap := next.streamMap }
  camera : row.cameraUuid = none ∨ row.cameraUuid = next.cameraUuid
  plain : ∀ cameraUuid, next.cameraUuid = some cameraUuid → PlainUuid cameraUuid

variable {row next : ImportRow} {name : String}

omit [RelayUrls] in
theorem ImportRow.Adds.takes (adds : row.Adds next) (takes : row.Takes name) :
    next.Takes name := by
  obtain ⟨cameraUuid, isCamera, isAlias⟩ := takes
  rcases adds.camera with noCamera | same
  · rw [noCamera] at isCamera
    cases isCamera
  · exact ⟨cameraUuid, same ▸ isCamera, isAlias⟩

theorem ImportRow.Fits.adds (fits : row.Fits start) (adds : row.Adds next) : next.Fits start := by
  have more := adds.same
  constructor
  · rw [more]
    exact fits.live
  · rw [more]
    exact fits.originals
  · intro name isManaged
    rw [more] at isManaged
    have earlier := fits.managed name isManaged
    rw [more]
    exact earlier.imp_right (·.imp_right fun takes => more ▸ adds.takes takes)
  · intro name isAlias
    rw [more] at isAlias
    exact adds.takes (fits.aliases name isAlias)
  · exact adds.plain

theorem ImportRow.Records.adds (records : row.Records start) (adds : row.Adds next)
    (notActive : next.state ≠ .active) : next.Records start := by
  have more := adds.same
  constructor
  · rw [more]
    exact records.original
  · rw [more]
    exact records.originals
  · intro isPlain
    rw [more] at isPlain
    obtain ⟨noCamera, noReleased, noPaused, managed⟩ := records.plain isPlain
    rw [more]
    exact ⟨noCamera, noReleased, noPaused, fun name isManaged =>
      (managed name isManaged).imp_right fun takes => more ▸ adds.takes takes⟩
  · rw [more]
    exact records.released
  · rw [more]
    exact records.sources
  · rw [more]
    exact records.paused
  · exact fun isActive => absurd isActive notActive

/-- The row takes the place of the journaled one. -/
theorem Journaled.save {shows later : RawConfig → Prop} {session : Session σ}
    {tables : FrigateTables} (held : Journaled start scope row shows session)
    (operator : OperatorConfig start) (sameKey : next.key = row.key)
    (camera : row.cameraUuid = none ∨ row.cameraUuid = next.cameraUuid)
    (fits : next.Fits start) (records : next.Records start)
    (isSaved : session.tables.saveLink scope.targetId next.key next = some tables)
    (stands : next.Stands start (scope.frigate.saved session.frigate).at)
    (shown : later (scope.frigate.saved session.frigate)) :
    Journaled start scope next later { session with tables := tables } := by
  have stored : session.tables.importLink scope.targetId next.key = some row :=
    sameKey ▸ held.stored
  refine ⟨?_, ?_, shown⟩
  · refine Sound.save operator held.sound fits isSaved records ?_ stands
    intro previous isPrevious
    obtain rfl := Option.some.inj (stored.symm.trans isPrevious)
    exact camera
  · refine importLink_saveLink held.sound.journal isSaved fun noCamera earlier isEarlier => ?_
    obtain rfl := Option.some.inj (stored.symm.trans isEarlier)
    exact camera.elim id fun same => same.trans noCamera

/-! The steps of `restore`. -/

section
variable (operator : OperatorConfig start)

def AtOriginal (start : RawConfig) (row : ImportRow) (raw : RawConfig) : Prop :=
  row.Shown start raw.at row.original []

end

end CamAdmiral
