import CamAdmiral.ImportDocuments

/-!
What `build_managed` makes of a row: the original entry with the relay in place of its sources,
and streams for the relay, the live view and the released aliases, and for no others. A
synchronisation writes over them.
-/

namespace CamAdmiral

/-- What the entry and the streams are like, for the row that they are recorded in. -/
structure ManagedFrom (row : ImportRow) (managed : CameraEntry) (streams : StreamMap) : Prop where
  tuning : managed = { row.original with inputs := managed.inputs }
  relays : ∀ input ∈ managed.inputs, ∃ name ∈ row.aliases.map Prod.snd,
    input.path = relayUrl name
  captures : managed.inputs = [] → row.original.inputs = []
  keys : ∀ name, name ∈ streams.map Prod.fst ↔
    (row.aliases.lookup "record" = some name ∨ row.aliases.lookup "detect" = some name) ∨
      name ∈ row.live.map Prod.fst ∨ name ∈ row.releasedStreams.map Prod.fst
  distinct : (streams.map Prod.fst).Nodup

theorem ManagedFrom.names {row : ImportRow} {managed : CameraEntry} {streams : StreamMap}
    {cameraUuid : String} (made : ManagedFrom row managed streams)
    (isAliases : row.aliases = importAliases cameraUuid) (name : String) :
    name ∈ streams.map Prod.fst ↔ name ∈ row.aliases.map Prod.snd ∨
      name ∈ row.live.map Prod.fst ∨ name ∈ row.releasedStreams.map Prod.fst := by
  have isAlias : name ∈ (importAliases cameraUuid).map Prod.snd ↔
      (importAliases cameraUuid).lookup "record" = some name ∨
        (importAliases cameraUuid).lookup "detect" = some name := by
    simp [importAliases, List.lookup_cons, eq_comm]
  rw [made.keys, isAliases, isAlias]

/-- What the row records then. -/
theorem ManagedFrom.takenOver {row : ImportRow} {managed : CameraEntry} {streams : StreamMap}
    {cameraUuid : String} (made : ManagedFrom row managed streams)
    (isManaged : row.managedCamera = some managed) (isStreams : row.managedStreams = streams)
    (isCamera : row.cameraUuid = some cameraUuid)
    (isAliases : row.aliases = importAliases cameraUuid) : row.TakenOver managed where
  camera := isManaged
  tuning := made.tuning
  relays input isInput := by
    obtain ⟨name, isAlias, isPath⟩ := made.relays input isInput
    rw [isAliases] at isAlias
    exact ⟨name, importAliases_owned isAlias, isPath⟩
  captures := made.captures
  aliases := ⟨cameraUuid, isCamera, isAliases⟩
  keys := isStreams ▸ made.names isAliases
  distinct := isStreams ▸ made.distinct

/-! Other streams for a takeover. -/

section
variable {row : ImportRow} {managed entry : CameraEntry} {streams : StreamMap}

theorem ImportRow.TakenOver.resync (built : row.TakenOver managed)
    (made : ManagedFrom row entry streams) :
    { row with managedStreams := streams }.TakenOver managed := by
  obtain ⟨cameraUuid, isCamera, isAliases⟩ := built.aliases
  exact { built with
    aliases := ⟨cameraUuid, isCamera, isAliases⟩
    keys := made.names isAliases
    distinct := made.distinct }

variable [RelayUrls] {start raw : RawConfig}

/-- An entry that reads the relay is the takeover: no entry of the operator does. -/
theorem ImportRow.Stands.running (operator : OperatorConfig start) (records : row.Records start)
    (stands : row.Stands start raw.at) (built : row.TakenOver managed)
    (same : (raw.cameras.lookup row.key).map (·.inputs) = some managed.inputs) :
    row.Shown start raw.at managed row.managedStreams := by
  have notOriginal : row.original.inputs ≠ managed.inputs := by
    intro sameInputs
    have captures := (operator.captures records.original).1
    obtain ⟨input, isInput⟩ := List.exists_mem_of_ne_nil _ captures
    obtain ⟨name, isOwn, isPath⟩ := built.relays input (sameInputs ▸ isInput)
    exact (operator.inputs records.original isInput name isOwn).1 isPath
  cases stands with
  | untouched shown =>
      rw [shown.camera] at same
      exact absurd (Option.some.inj same) notOriginal
  | paused _ shown =>
      rw [shown.camera] at same
      exact absurd (Option.some.inj same) notOriginal
  | takenOver other shown =>
      obtain rfl := Option.some.inj (other.camera.symm.trans built.camera)
      exact shown

/-- The streams of a takeover belong to the row. -/
theorem ImportRow.TakenOver.managed_fits (built : row.TakenOver managed)
    (records : row.Records start) {name : String}
    (isManaged : name ∈ row.managedStreams.map Prod.fst) :
    name ∈ row.live.map Prod.fst ∨
      (row.handoff = true ∧ row.original.Reads start.streams name) ∨ row.Takes name := by
  rcases (built.keys name).mp isManaged with isAlias | isLive | isReleased
  · exact .inr (.inr (built.takes isAlias))
  · exact .inl isLive
  · cases isHandoff : row.handoff with
    | false =>
        rw [(records.plain isHandoff).2.1] at isReleased
        cases isReleased
    | true =>
        rcases (records.released isHandoff name).mp isReleased with isLive | reads
        · exact .inl isLive
        · exact .inr (.inl ⟨rfl, reads⟩)

/-- `set_config` of a synchronisation. -/
def syncRequest (streams : StreamMap) : ConfigRequest where
  streams := streams.map fun stream => (stream.1, some stream.2)

theorem ImportRow.Shown.resync (built : row.TakenOver managed)
    (made : ManagedFrom row entry streams)
    (shown : row.Shown start raw.at managed row.managedStreams) :
    { row with managedStreams := streams }.Shown start ((syncRequest streams).apply raw).at
      managed streams := by
  have written : ((syncRequest streams).apply raw).cameras.lookup row.key = some managed :=
    shown.camera
  obtain ⟨_, _, isAliases⟩ := built.aliases
  exact shown.write rfl written made.distinct fun name isBefore =>
    (made.names isAliases name).mpr ((built.keys name).mp isBefore)

theorem ImportRow.sync_only (fits : row.Fits start) (records : row.Records start)
    (built : row.TakenOver managed) (made : ManagedFrom row entry streams) :
    row.Only start raw ((syncRequest streams).apply raw) := by
  refine ImportRow.only_of (fun _ never => absurd never (Option.not_mem_none _))
    fun name isNamed => ?_
  change name ∈ (streams.map fun stream => (stream.1, some stream.2)).map Prod.fst at isNamed
  obtain ⟨_, _, isAliases⟩ := built.aliases
  rw [keys_written, made.names isAliases] at isNamed
  exact built.concerns fits records ((built.keys name).mpr isNamed)

end

end CamAdmiral
