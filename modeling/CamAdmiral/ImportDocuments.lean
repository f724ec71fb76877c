import CamAdmiral.ImportCustody

/-!
What the requests of an import make of the configuration that its row stands in. The checks of
`restore` find nothing that is not the import's, and its request brings the original back; a
pause and a takeover lead from one stand to the next. No request changes anything else.
-/

namespace CamAdmiral

variable [RelayUrls] {start raw : RawConfig} {row : ImportRow} {name : String}

/-- The place belongs to the row. -/
def ImportRow.Holds (start : RawConfig) (row : ImportRow) (place : Place) : Prop :=
  place = .camera row.key ∨ ∃ name, place = .stream name ∧ row.Concerns start name

/-- The two configurations differ in places of the row only. -/
def ImportRow.Only (start : RawConfig) (row : ImportRow) (raw later : RawConfig) : Prop :=
  ∀ place, ¬ row.Holds start place → later.at place = raw.at place

/-! The aliases of a row. -/

theorem ImportRow.Fits.concerns_live (fits : row.Fits start)
    (isLive : name ∈ row.live.map Prod.fst) : row.Concerns start name :=
  .inl (fits.live name isLive)

theorem ImportRow.Records.concerns_released (records : row.Records start)
    (fits : row.Fits start) (isReleased : name ∈ row.releasedStreams.map Prod.fst) :
    row.Concerns start name := by
  cases isHandoff : row.handoff with
  | false =>
      rw [(records.plain isHandoff).2.1] at isReleased
      cases isReleased
  | true =>
      rcases (records.released isHandoff name).mp isReleased with isLive | reads
      · exact fits.concerns_live isLive
      · exact .inl (RawConfig.uses_of_reads records.original reads)

theorem originalSources_value (records : row.Records start)
    {held : String × Option (List String)} (isHeld : held ∈ originalSources row) :
    held.2 = start.streams.lookup held.1 := by
  rcases mem_mergeKeys isHeld with isReleased | isOriginal
  · obtain ⟨stream, isStream, rfl⟩ := List.mem_map.mp isReleased
    exact (records.sources stream isStream).symm
  · exact records.originals held isOriginal

theorem originalSources_key (fits : row.Fits start) :
    name ∈ (originalSources row).map Prod.fst ↔
      name ∈ row.live.map Prod.fst ∨ name ∈ row.releasedStreams.map Prod.fst := by
  rw [originalSources, mergeKeys_keys, List.map_map, fits.originals, or_comm]
  rfl

theorem OperatorConfig.takes_absent (operator : OperatorConfig start) (takes : row.Takes name) :
    start.streams.lookup name = none :=
  operator.ownNames takes.owned

/-! What Frigate shows. -/

section
variable {entry : CameraEntry} {streams : StreamMap}

theorem ImportRow.Shown.camera (shown : row.Shown start raw.at entry streams) :
    raw.cameras.lookup row.key = some entry := by
  have same := shown.1
  rw [RawConfig.at, Option.map_eq_some_iff] at same
  obtain ⟨held, isHeld, isEntry⟩ := same
  obtain rfl := Sum.inl.inj isEntry
  exact isHeld

theorem ImportRow.Shown.stream (shown : row.Shown start raw.at entry streams)
    (concerns : row.Concerns start name) :
    raw.streams.lookup name = (streams.lookup name).or (start.streams.lookup name) :=
  Option.map_injective Sum.inr_injective (shown.2 name concerns)

theorem ImportRow.shown_of (camera : raw.cameras.lookup row.key = some entry)
    (shows : ∀ name, row.Concerns start name →
      raw.streams.lookup name = (streams.lookup name).or (start.streams.lookup name)) :
    row.Shown start raw.at entry streams := by
  refine ⟨?_, fun name concerns => ?_⟩
  · rw [RawConfig.at, camera]
    rfl
  · rw [RawConfig.at, shows name concerns]

/-- An alias that nothing was written to. -/
theorem ImportRow.Shown.stream_original (shown : row.Shown start raw.at entry streams)
    (concerns : row.Concerns start name) (unwritten : name ∉ streams.map Prod.fst) :
    raw.streams.lookup name = start.streams.lookup name := by
  rw [shown.stream concerns, lookup_absent unwritten, Option.none_or]

end

/-! The checks of `restore`. -/

section
variable (operator : OperatorConfig start) (fits : row.Fits start)
  (records : row.Records start)

omit [RelayUrls] in
theorem ImportRow.TakenOver.takes {managed : CameraEntry} (built : row.TakenOver managed)
    (isAlias : name ∈ row.aliases.map Prod.snd) : row.Takes name := by
  obtain ⟨cameraUuid, isCamera, same⟩ := built.aliases
  exact ⟨cameraUuid, isCamera, same ▸ isAlias⟩

include fits records in
theorem ImportRow.TakenOver.concerns {managed : CameraEntry} (built : row.TakenOver managed)
    (isManaged : name ∈ row.managedStreams.map Prod.fst) : row.Concerns start name := by
  rcases (built.keys name).mp isManaged with isAlias | isLive | isReleased
  · exact .inr (built.takes isAlias)
  · exact fits.concerns_live isLive
  · exact records.concerns_released fits isReleased

end

/-! The requests. -/

section
variable {request : ConfigRequest} {entry written : CameraEntry} {streams added : StreamMap}

omit [RelayUrls] in
theorem ConfigRequest.apply_other {key : String} (isOther : key ≠ row.key)
    (only : ∀ change ∈ request.camera, change.1 = row.key) :
    (request.apply raw).cameras.lookup key = raw.cameras.lookup key := by
  unfold ConfigRequest.apply
  cases isCamera : request.camera with
  | none => rfl
  | some change =>
      have isKey := only change isCamera
      exact (lookup_setKey _ _ _ _).trans (if_neg (isKey ▸ isOther))

theorem ImportRow.only_of (only : ∀ change ∈ request.camera, change.1 = row.key)
    (within : ∀ name ∈ request.streams.map Prod.fst, row.Concerns start name) :
    row.Only start raw (request.apply raw) := by
  intro place outside
  cases place with
  | camera key =>
      refine RawConfig.at_camera.mpr (ConfigRequest.apply_other (fun same => ?_) only)
      exact outside (.inl (congrArg Place.camera same))
  | stream name =>
      refine RawConfig.at_stream.mpr (lookup_applyStreams_other fun isNamed => ?_)
      exact outside (.inr ⟨name, rfl, within name isNamed⟩)

omit [RelayUrls] in
/-- The entry that the request leaves. -/
theorem ConfigRequest.apply_camera {change : EntryChange}
    (isCamera : request.camera = some (row.key, change))
    (held : raw.cameras.lookup row.key = some entry) :
    (request.apply raw).cameras.lookup row.key = some (change.apply entry) := by
  simp only [ConfigRequest.apply, isCamera, lookup_setKey, if_true, held, Option.getD_some]

/-- A request that writes over everything that was written before. -/
theorem ImportRow.Shown.write (shown : row.Shown start raw.at entry streams)
    (isStreams : request.streams = added.map fun stream => (stream.1, some stream.2))
    (isWritten : (request.apply raw).cameras.lookup row.key = some written)
    (distinct : (added.map Prod.fst).Nodup)
    (covers : ∀ name ∈ streams.map Prod.fst, name ∈ added.map Prod.fst) :
    row.Shown start (request.apply raw).at written added := by
  refine ImportRow.shown_of isWritten fun name concerns => ?_
  change (applyStreams raw.streams request.streams).lookup name = _
  rw [isStreams, lookup_writtenStreams distinct]
  by_cases isAdded : name ∈ added.map Prod.fst
  · obtain ⟨sources, isSources⟩ := Option.isSome_iff_exists.mp (lookup_isSome.mpr isAdded)
    rw [isSources, Option.some_or, Option.some_or]
  · rw [shown.stream_original concerns fun isBefore => isAdded (covers name isBefore)]

end

/-! The pause. -/

section
variable (operator : OperatorConfig start) (fits : row.Fits start)
  (records : row.Records start)

omit [RelayUrls] in
theorem keys_written (streams : StreamMap) :
    (streams.map fun stream => (stream.1, some stream.2)).map Prod.fst =
      streams.map Prod.fst := by
  rw [List.map_map]
  rfl

/-- What a takeover writes over: the original, or the paused entry of a handoff. -/
inductive ImportRow.Prepared (start : RawConfig) (row : ImportRow) (raw : RawConfig) : Prop
  | untouched (plain : row.handoff = false) (shown : row.Shown start raw.at row.original [])
  | paused (handoff : row.handoff = true)
      (shown : row.Shown start raw.at row.original.disabled
        row.pausedStreams)

end

/-! The restoration. -/

def restoreRequest (row : ImportRow) (change : EntryChange) (raw : RawConfig) : ConfigRequest where
  camera := some (row.key, change)
  streams := restoredStreams row raw.streams
  requiresRestart := true

section
variable (operator : OperatorConfig start) (fits : row.Fits start)
  (records : row.Records start)

omit [RelayUrls] in
theorem restoredStreams_distinct (configured : StreamMap) :
    ((restoredStreams row configured).map Prod.fst).Nodup :=
  mergeKeys_distinct _ (mergeKeys_distinct _ List.nodup_nil)

omit [RelayUrls] in
/-- The aliases of `relays` that are there and are not given back are deleted. -/
theorem restoredStreams_relay {configured : StreamMap}
    (notOriginal : name ∉ (originalSources row).map Prod.fst) :
    (restoredStreams row configured).lookup name =
      if name ∈ row.aliases.map Prod.snd ∧ (configured.lookup name).isSome = true then
        some none else none := by
  have absent : name ∉ ((originalSources row).map fun held =>
      (held.1, some (held.2.getD []))).map Prod.fst := by
    rwa [List.map_map]
  refine (lookup_mergeKeys_other absent).trans ?_
  split
  · rename_i isRelay
    refine lookup_mergeKeys_of (fun other isOther => ?_) ?_
    · obtain ⟨_, _, same⟩ := List.mem_map.mp isOther
      exact (Prod.mk.inj same).2.symm
    · rw [List.map_map]
      exact List.mem_map.mpr ⟨name, List.mem_filter.mpr isRelay, rfl⟩
  · rename_i notRelay
    refine lookup_mergeKeys_other fun isKey => notRelay ?_
    rw [List.map_map] at isKey
    obtain ⟨relay, isRelay, rfl⟩ := List.mem_map.mp isKey
    exact List.mem_filter.mp isRelay

include records in
theorem restoredStreams_original (configured : StreamMap)
    (isOriginal : name ∈ (originalSources row).map Prod.fst) :
    (restoredStreams row configured).lookup name =
      some (some ((start.streams.lookup name).getD [])) := by
  refine lookup_mergeKeys_of (fun other isOther => ?_) (by rwa [List.map_map])
  obtain ⟨held, isHeld, same⟩ := List.mem_map.mp isOther
  obtain ⟨rfl, rfl⟩ := Prod.mk.inj same
  rw [originalSources_value records isHeld]

include operator fits in
/-- What is given back had sources. -/
theorem originalSources_known (records : row.Records start)
    (isOriginal : name ∈ (originalSources row).map Prod.fst) :
    start.Uses row.key name := by
  rcases (originalSources_key fits).mp isOriginal with isLive | isReleased
  · exact fits.live name isLive
  · rcases records.concerns_released fits isReleased with uses | takes
    · exact uses
    · obtain ⟨held, isHeld, rfl⟩ := List.mem_map.mp isReleased
      have absent := operator.takes_absent takes
      rw [records.sources held isHeld] at absent
      cases absent

include operator fits records in
/-- The aliases that are neither given back nor deleted have not been written to. -/
theorem ImportRow.Stands.unwritten (stands : row.Stands start raw.at)
    (concerns : row.Concerns start name)
    (notOriginal : name ∉ (originalSources row).map Prod.fst)
    (notRelay : ¬ (name ∈ row.aliases.map Prod.snd ∧
      (raw.streams.lookup name).isSome = true)) :
    raw.streams.lookup name = start.streams.lookup name := by
  rw [originalSources_key fits, not_or] at notOriginal
  cases stands with
  | untouched shown => exact shown.stream_original concerns List.not_mem_nil
  | paused isHandoff shown =>
      refine shown.stream_original concerns ?_
      rw [(records.paused isHandoff).2.1]
      exact notOriginal.2
  | takenOver built shown =>
      by_cases isAlias : name ∈ row.aliases.map Prod.snd
      · have isGone : raw.streams.lookup name = none :=
          Option.not_isSome_iff_eq_none.mp fun known => notRelay ⟨isAlias, known⟩
        rw [isGone, operator.takes_absent (built.takes isAlias)]
      · refine shown.stream_original concerns fun isManaged => ?_
        rcases (built.keys name).mp isManaged with isRelay | isLive | isReleased
        · exact isAlias isRelay
        · exact notOriginal.1 isLive
        · exact notOriginal.2 isReleased

include operator fits records in
theorem ImportRow.Stands.restored {change : EntryChange} (stands : row.Stands start raw.at)
    (isChange : cameraWrite row row.original (raw.cameras.lookup row.key) = .ok change) :
    row.Shown start ((restoreRequest row change raw).apply raw).at row.original [] := by
  obtain ⟨liveKeys, otherKeys⟩ := operator.mappings records.original
  refine ImportRow.shown_of ?_ fun name concerns => ?_
  · have written (held : CameraEntry) (isHeld : raw.cameras.lookup row.key = some held)
        (same : held.SameTuning row.original)
        (plain : row.handoff = false → held.enabled = row.original.enabled) :
        ((restoreRequest row change raw).apply raw).cameras.lookup row.key =
          some row.original := by
      rw [isHeld] at isChange
      rw [ConfigRequest.apply_camera rfl isHeld,
        cameraWrite_apply isChange same plain liveKeys otherKeys]
    cases stands with
    | untouched shown => exact written _ shown.camera rfl fun _ => rfl
    | paused isHandoff shown =>
        refine written _ shown.camera rfl fun plain => ?_
        rw [isHandoff] at plain
        cases plain
    | takenOver built shown =>
        refine written _ shown.camera ?_ fun _ => ?_
        · rw [CameraEntry.SameTuning, built.tuning]
        · rw [built.tuning]
  · change (applyStreams raw.streams (restoredStreams row raw.streams)).lookup name = _
    rw [lookup_applyStreams (restoredStreams_distinct _)]
    by_cases isOriginal : name ∈ (originalSources row).map Prod.fst
    · rw [restoredStreams_original records raw.streams isOriginal]
      obtain ⟨_, _, known, _⟩ := originalSources_known operator fits records isOriginal
      obtain ⟨sources, isSources⟩ := Option.isSome_iff_exists.mp known
      rw [isSources]
      rfl
    · rw [restoredStreams_relay isOriginal]
      split
      · rename_i isRelay
        rw [operator.takes_absent (fits.aliases name isRelay.1)]
        rfl
      · rename_i notRelay
        exact stands.unwritten operator fits records concerns isOriginal notRelay

include operator fits records in
/-- What `restore` finds restored already is. -/
theorem ImportRow.Stands.already (stands : row.Stands start raw.at)
    (isDone : alreadyRestored row (raw.cameras.lookup row.key) raw.streams = true) :
    row.Shown start raw.at row.original [] := by
  simp only [alreadyRestored, Bool.and_eq_true, Bool.not_eq_true', decide_eq_true_eq,
    List.any_eq_false, List.all_eq_true] at isDone
  obtain ⟨⟨⟨isPlain, isOriginal⟩, noRelay⟩, originals⟩ := isDone
  refine ImportRow.shown_of isOriginal fun name concerns => ?_
  by_cases isKey : name ∈ (originalSources row).map Prod.fst
  · rw [originalSources_key fits, (records.plain isPlain).2.1, ← fits.originals] at isKey
    obtain ⟨held, isHeld, rfl⟩ := List.mem_map.mp (isKey.resolve_right List.not_mem_nil)
    rw [originals held isHeld, records.originals held isHeld]
    rfl
  · refine stands.unwritten operator fits records concerns isKey fun isRelay => ?_
    obtain ⟨relay, isAlias, rfl⟩ := List.mem_map.mp isRelay.1
    exact absurd isRelay.2 (noRelay relay isAlias)

end

end CamAdmiral
