import CamAdmiral.ImportAttempt

/-!
The takeover of an entry and the rounds of `execute`. The row is saved with everything that is
about to be written, then Frigate is told, and the account of the journal holds at each step:
at the end of a round either the import is in the journal with its original, or the entry is the
operator's.
-/

namespace CamAdmiral

open Program

variable [RelayUrls] {σ α : Type} {start : RawConfig} {scope : ImportScope σ}

/-! The beginning of an attempt. -/

section
variable (operator : OperatorConfig start)

end

/-! The relay. -/

section
variable {holds : ImportTurn σ → Prop} [FrigateTexts]

end

/-! What is saved before the write. -/

section
variable {row next : ImportRow} {managed : CameraEntry} {streams : StreamMap}
  {cameraUuid name : String}

/-- The row with everything that is about to be written. -/
def ImportRow.applying (row : ImportRow) (cameraUuid : String) (managed : CameraEntry)
    (streams : StreamMap) : ImportRow :=
  { row with
    aliases := importAliases cameraUuid
    state := .applying
    managedCamera := some managed
    managedStreams := streams }

omit [RelayUrls] in
theorem ManagedFrom.applying
    (made : ManagedFrom { row with aliases := importAliases cameraUuid } managed streams)
    (isCamera : row.cameraUuid = some cameraUuid) :
    (row.applying cameraUuid managed streams).TakenOver managed := by
  have same : ManagedFrom (row.applying cameraUuid managed streams) managed streams :=
    { made with }
  exact same.takenOver rfl rfl isCamera rfl

theorem ImportRow.Fits.applying (fits : row.Fits start)
    (made : ManagedFrom { row with aliases := importAliases cameraUuid } managed streams)
    (isCamera : row.cameraUuid = some cameraUuid)
    (released : ∀ name ∈ row.releasedStreams.map Prod.fst, name ∈ row.live.map Prod.fst ∨
      ∃ entry, start.cameras.lookup row.key = some entry ∧ entry.Reads start.streams name) :
    (row.applying cameraUuid managed streams).Fits start where
  live := fits.live
  originals := fits.originals
  managed name isManaged := by
    rcases (made.names rfl name).mp isManaged with isAlias | isLive | isReleased
    · exact .inr (.inr ⟨cameraUuid, isCamera, isAlias⟩)
    · exact .inl isLive
    · exact (released name isReleased).imp_right .inl
  aliases _ isAlias := ⟨cameraUuid, isCamera, isAlias⟩
  uuid := fits.uuid

/-- For the first time, when the reader could stay. -/
theorem ImportRow.Unbegun.applying (unbegun : row.Unbegun start)
    (made : ManagedFrom { row with aliases := importAliases cameraUuid } managed streams)
    (isCamera : row.cameraUuid = some cameraUuid) :
    (row.applying cameraUuid managed streams).Fits start ∧
      (row.applying cameraUuid managed streams).Records start := by
  obtain ⟨noCamera, noReleased, noPaused⟩ := unbegun.paused
  have never {name : String} (isReleased : name ∈ row.releasedStreams.map Prod.fst) : False := by
    rw [noReleased] at isReleased
    cases isReleased
  refine ⟨unbegun.fits.applying made isCamera fun _ isReleased => (never isReleased).elim, ?_⟩
  have plain : (row.applying cameraUuid managed streams).handoff ≠ true := fun isHandoff =>
    Bool.false_ne_true (unbegun.plain.symm.trans isHandoff)
  refine ⟨unbegun.original, unbegun.originals, fun _ => ⟨noCamera, noReleased, noPaused, ?_⟩,
    fun isHandoff => absurd isHandoff plain, fun held isHeld => ?_,
    fun isHandoff => absurd isHandoff plain, fun isActive => ImportState.noConfusion isActive⟩
  · intro name isManaged
    rcases (made.names rfl name).mp isManaged with isAlias | isLive | isReleased
    · exact .inr ⟨cameraUuid, isCamera, isAlias⟩
    · exact .inl isLive
    · exact (never isReleased).elim
  · exact (never (List.mem_map_of_mem isHeld)).elim

/-- After a pause. -/
theorem ImportRow.Records.applying (records : row.Records start) (fits : row.Fits start)
    (made : ManagedFrom { row with aliases := importAliases cameraUuid } managed streams)
    (isCamera : row.cameraUuid = some cameraUuid) (isHandoff : row.handoff = true) :
    (row.applying cameraUuid managed streams).Fits start ∧
      (row.applying cameraUuid managed streams).Records start := by
  refine ⟨fits.applying made isCamera fun name isReleased => ?_, ?_⟩
  · exact ((records.released isHandoff name).mp isReleased).imp_right fun reads =>
      ⟨row.original, records.original, reads⟩
  · have handoff : (row.applying cameraUuid managed streams).handoff ≠ false := fun isPlain =>
      Bool.false_ne_true (isPlain.symm.trans isHandoff)
    exact ⟨records.original, records.originals, fun isPlain => absurd isPlain handoff,
      records.released, records.sources, records.paused,
      fun isActive => ImportState.noConfusion isActive⟩

end

/-! The takeover. -/

/-- The row is about to be saved with what will be written. -/
structure Built (start : RawConfig) (scope : ImportScope σ) (managed : CameraEntry)
    (streams : StreamMap) (turn : ImportTurn σ) : Prop where
  prepared : ∃ (before : ImportCamera) (cameraUuid : String),
    ReadyWith start scope (some cameraUuid) { turn with camera := before } ∧
      ManagedFrom { before.row with aliases := importAliases cameraUuid } managed streams ∧
        turn.camera.row = before.row.applying cameraUuid managed streams

/-- The row is in the journal with what will be written. -/
structure Applying (start : RawConfig) (scope : ImportScope σ) (managed : CameraEntry)
    (streams : StreamMap) (turn : ImportTurn σ) : Prop where
  built : turn.camera.row.TakenOver managed
  streams : turn.camera.row.managedStreams = streams
  journaled : Journaled start (importSync scope) turn.camera.row
    (turn.camera.row.Prepared start) turn.session

/-- Frigate has the takeover. -/
structure Taken (start : RawConfig) (scope : ImportScope σ) (managed : CameraEntry)
    (turn : ImportTurn σ) : Prop where
  built : turn.camera.row.TakenOver managed
  journaled : Journaled start (importSync scope) turn.camera.row
    (fun raw => turn.camera.row.Shown start raw.at managed turn.camera.row.managedStreams)
    turn.session

section
variable {managed : CameraEntry} {streams : StreamMap} {turn : ImportTurn σ}

theorem Built.safe (built : Built start scope managed streams turn) : Safe start scope turn := by
  obtain ⟨before, cameraUuid, ready, made, isRow⟩ := built.prepared
  have isCamera : before.row.cameraUuid = some cameraUuid := ready.2
  refine ⟨ready.safe.sound, ?_⟩
  rw [isRow]
  rcases ready.1 with unjournaled | paused
  · exact (unjournaled.unbegun.applying made isCamera).1
  · obtain ⟨earlier, adds, held⟩ := paused.journaled
    exact ((held.records.adds adds paused.notActive).applying (held.fits.adds adds) made
      isCamera paused.handoff).1

theorem Applying.safe (applying : Applying start scope managed streams turn) :
    Safe start scope turn :=
  ⟨applying.journaled.sound, applying.journaled.fits⟩

theorem Taken.safe (taken : Taken start scope managed turn) : Safe start scope turn :=
  ⟨taken.journaled.sound, taken.journaled.fits⟩

end

/-! The steps of the takeover. -/

section
variable {managed : CameraEntry} {streams : StreamMap} {cameraUuid : String}

/-- The relay aliases are known before the streams are. -/
def Naming (start : RawConfig) (scope : ImportScope σ) (cameraUuid : String)
    (turn : ImportTurn σ) : Prop :=
  ∃ before : ImportCamera, ReadyWith start scope (some cameraUuid) { turn with camera := before } ∧
    turn.camera.row = { before.row with aliases := importAliases cameraUuid }

theorem Naming.safe {turn : ImportTurn σ} (naming : Naming start scope cameraUuid turn) :
    Safe start scope turn := by
  obtain ⟨before, ready, isRow⟩ := naming
  have isCamera : before.row.cameraUuid = some cameraUuid := ready.2
  have fits : before.row.Fits start := ready.safe.fits
  refine ⟨ready.safe.sound, ?_⟩
  rw [isRow]
  exact { fits with aliases := fun _ isAlias => ⟨cameraUuid, isCamera, isAlias⟩ }

variable [FrigateTexts]

omit [RelayUrls] [FrigateTexts] in
/-- The bindings and the selections of the cameras are no part of the journal. -/
theorem Framed.persist {holds : ImportTurn σ → Prop} (framed : Framed scope holds)
    {change : FrigateTables → Option FrigateTables} (sameJournal : ∀ before after,
      change before = some after →
        after.links = before.links ∧ after.handoffs = before.handoffs) :
    Preserves holds (inSession (persist change)) := by
  refine triple_inSession fun camera =>
    triple_persist (fun session tables isBefore isChanged => ?_) fun _ => id
  obtain ⟨links, handoffs⟩ := sameJournal _ _ isChanged
  exact framed ⟨session, camera⟩ ⟨{ session with tables := tables }, camera⟩ rfl links handoffs
    rfl isBefore

end

end CamAdmiral
