import CamAdmiral.ReconcileRounds

/-!
What `sync_imported` does, step by step: it keeps every invariant that the single steps keep.
It only names what the import links record.
-/

namespace CamAdmiral

variable {σ : Type}

open Program

/-! The names in a request. -/

def FrigateWrite.cameraKeys : FrigateWrite → List String
  | .setConfig request => (request.camera.map Prod.fst).toList
  | _ => []

def FrigateWrite.streamKeys : FrigateWrite → List String
  | .setConfig request => request.streams.map Prod.fst
  | .setRuntimeStream aliasKey _ => [aliasKey]
  | .deleteRuntimeStream aliasKey => [aliasKey]
  | .restart => []

/-- The aliases of an import: its relays, its live streams and the streams it has released. -/
def ImportRow.streamKeys (row : ImportRow) : List String :=
  row.aliases.map Prod.snd ++ row.live.map Prod.fst ++ row.releasedStreams.map Prod.fst

/-- The request names only aliases of the import. -/
def NamesImport (row : ImportRow) (write : FrigateWrite) : Prop :=
  write.cameraKeys = [] ∧ ∀ name ∈ write.streamKeys, name ∈ row.streamKeys

/-! What `build_managed` returns. -/

theorem mem_mergeKeys {β : Type} {held added : List (String × β)} {entry : String × β}
    (member : entry ∈ mergeKeys held added) : entry ∈ held ∨ entry ∈ added := by
  induction added generalizing held with
  | nil => exact .inl member
  | cons first rest ih =>
      rcases ih member with isSet | isRest
      · rcases mem_setKey isSet with isHeld | rfl
        · exact .inl isHeld
        · exact .inr List.mem_cons_self
      · exact .inr (List.mem_cons_of_mem _ isRest)

theorem buildManaged_streams [FrigateTexts] {consumers : Consumers} {camera : ConsumerCamera}
    {row : ImportRow} {host : String} {entry : CameraEntry} {streams : StreamMap}
    (isManaged : buildManaged consumers camera row host = .ok (entry, streams)) :
    ∀ stream ∈ streams, stream.1 ∈ row.streamKeys := by
  unfold buildManaged at isManaged
  split at isManaged
  case h_2 => cases isManaged
  case h_1 record detect _ _ =>
  split at isManaged
  · cases isManaged
  split at isManaged
  case h_2 => cases isManaged
  case h_1 recordAlias detectAlias isRecord isDetect =>
  obtain ⟨live, isLive, isManaged⟩ := except_bind isManaged
  obtain ⟨released, isReleased, isManaged⟩ := except_bind isManaged
  obtain ⟨inputs, _, isManaged⟩ := except_bind isManaged
  obtain ⟨_, rfl⟩ := Prod.mk.inj (Except.ok.inj isManaged)
  have isAlias {role alias_ : String} (found : row.aliases.lookup role = some alias_) :
      alias_ ∈ row.streamKeys :=
    List.mem_append_left _ (List.mem_append_left _
      (List.mem_map.mpr ⟨_, mem_of_lookup found, rfl⟩))
  intro stream member
  rcases mem_mergeKeys member with isLiveOrRelay | isReleasedStream
  · rcases mem_mergeKeys isLiveOrRelay with isRelay | isLiveStream
    · rcases mem_setKey isRelay with isRecordStream | rfl
      · obtain rfl := List.mem_singleton.mp isRecordStream
        exact isAlias isRecord
      · exact isAlias isDetect
    · obtain ⟨⟨name, spec⟩, isItem, done⟩ := mem_mapM_ok isLive isLiveStream
      obtain ⟨source, _, done⟩ := except_bind done
      obtain rfl := Except.ok.inj done
      exact List.mem_append_left _ (List.mem_append_right _ (List.mem_map.mpr ⟨_, isItem, rfl⟩))
  · obtain ⟨⟨name, sources⟩, isItem, done⟩ := mem_mapM_ok isReleased isReleasedStream
    obtain ⟨resolved, _, done⟩ := except_bind done
    obtain ⟨source, _, done⟩ := except_bind done
    obtain rfl := Except.ok.inj done
    exact List.mem_append_right _
      (List.mem_map.mpr ⟨_, (List.mem_filter.mp isItem).1, rfl⟩)

/-! The steps. -/

/-- The steps of the synchronization of a link. -/
structure SyncKeeps (scope : SyncScope σ) (key : String) (row : ImportRow)
    (invariant : Session σ → Prop) : Prop where
  reads : ReadStable scope.frigate invariant
  reports : ∀ (cameraUuid : String) (code : Option String) (session : Session σ),
    invariant session → invariant { session with
      tables := session.tables.setFrigateSelectionError scope.targetId cameraUuid code }
  sends : ∀ {session later : Session σ} {write : FrigateWrite}, invariant session →
    SetsStreams write → NamesImport row write → Sent scope.frigate write session later →
      invariant later
  saves : ∀ {session : Session σ} {tables : FrigateTables} {value : ImportRow},
    invariant session → session.tables.saveLink scope.targetId key value = some tables →
      invariant { session with tables := tables }

namespace SyncKeeps

variable {scope : SyncScope σ} {key : String} {row : ImportRow} {invariant : Session σ → Prop}

theorem selectionError (keeps : SyncKeeps scope key row invariant) (cameraUuid : String)
    (code : Option String) :
    Preserves invariant (amend (·.setFrigateSelectionError scope.targetId cameraUuid code)) :=
  preserves_amend (keeps.reports cameraUuid code)

theorem writeStreams (keeps : SyncKeeps scope key row invariant) {streams : StreamMap}
    (recorded : ∀ stream ∈ streams, stream.1 ∈ row.streamKeys) :
    Preserves invariant (writeStreams scope streams) := by
  let request : FrigateWrite :=
    .setConfig { streams := streams.map fun stream => (stream.1, some stream.2) }
  have setsStreams : SetsStreams request := by
    refine ⟨rfl, fun change member => ?_⟩
    obtain ⟨stream, _, rfl⟩ := List.mem_map.mp member
    rfl
  have names : NamesImport row request := by
    refine ⟨rfl, fun name member => ?_⟩
    obtain ⟨_, isChange, rfl⟩ := List.mem_map.mp member
    obtain ⟨stream, isStream, rfl⟩ := List.mem_map.mp isChange
    exact recorded stream isStream
  have sendsRequest : Preserves invariant (send scope.frigate request) :=
    preserves_send fun _ _ holds sent => keeps.sends holds setsStreams names sent
  refine sendsRequest.bind fun _ => preserves_each fun stream isStream => ?_
  have namesOne (source : String) : NamesImport row (.setRuntimeStream stream.1 source) := by
    refine ⟨rfl, fun name member => ?_⟩
    obtain rfl := List.mem_singleton.mp member
    exact recorded stream isStream
  exact preserves_send fun _ _ holds sent => keeps.sends holds (by trivial) (namesOne _) sent

variable [FrigateTexts]

theorem syncLink (keeps : SyncKeeps scope key row invariant) (camera : ConsumerCamera) :
    Preserves invariant (syncLink scope key row camera) := by
  let recorded (streams : StreamMap) (session : Session σ) : Prop :=
    invariant session ∧ ∀ stream ∈ streams, stream.1 ∈ row.streamKeys
  refine Triple.bind recorded ?_ fun desired => ?_
  · refine Triple.bind _ (preserves_read _) fun tables => ?_
    refine Triple.bind _ (preserves_ofExcept _) fun host => ?_
    refine Triple.bind (fun built => recorded built.2) (triple_ofExcept ?_ fun _ => id)
      fun built => triple_pure _ fun _ => id
    exact fun built isBuilt session holds => ⟨holds, buildManaged_streams isBuilt⟩
  rintro session ⟨holds, isRecorded⟩
  refine (preserves_ask keeps.reads _).bind (fun raw => ?_) session holds
  cases row.managedCamera with
  | none => exact preserves_fail _
  | some managed =>
      dsimp only
      split
      · exact keeps.selectionError _ _
      split
      · exact keeps.selectionError _ _
      split
      · exact (keeps.writeStreams isRecorded).bind fun _ =>
          (preserves_persist fun _ _ holds isSaved => keeps.saves holds isSaved).bind fun _ =>
            keeps.selectionError _ _
      · exact keeps.selectionError _ _

theorem syncRow (keeps : SyncKeeps scope key row invariant) (selected : List String) :
    Preserves invariant (syncRow scope selected key row) := by
  unfold CamAdmiral.syncRow
  split
  case h_2 => exact preserves_pure _
  split
  · exact preserves_pure _
  split
  · exact preserves_fail _
  split
  · exact preserves_pure _
  refine (preserves_attempt (keeps.syncLink _)).bind fun outcome => ?_
  cases outcome with
  | ok value => exact preserves_pure _
  | error error => exact keeps.selectionError _ _

end SyncKeeps

theorem preserves_syncImported [FrigateTexts] {scope : SyncScope σ} {invariant : Session σ → Prop}
    (keeps : ∀ key row, SyncKeeps scope key row invariant) :
    Preserves invariant (syncImported scope) :=
  (preserves_read _).bind fun _ =>
    (preserves_each fun link _ => (keeps link.1 link.2).syncRow _).bind fun _ => preserves_pure _

end CamAdmiral
