import CamAdmiral.Sqlite

/-!
`CameraRepository.migrate`: the numbered scripts, the follow-ups of versions 10 and 11, the
schema changes without a number, and the states in which a stopped migration leaves the
database. The script of a version runs outside a transaction; its follow-up and its row in
`schema_migrations` are committed together afterwards.
-/

namespace CamAdmiral

/-- The camera's mode of the latest selection. -/
def latestAddressMode (db : Database) (camera : SqlRow) : SqlRow :=
  let selections := (db.rows "frigate_camera_selections").filter fun selection =>
    selection.value "camera_uuid" = camera.value "camera_uuid"
  let latest := selections.mergeSort fun first second =>
    let firstAt := (first.value "selected_at").getD ""
    let secondAt := (second.value "selected_at").getD ""
    secondAt < firstAt ∨ firstAt = secondAt ∧
      (first.value "target_id").getD "" ≤ (second.value "target_id").getD ""
  match latest.head? with
  | none => camera
  | some selection => camera.set "stream_address_mode" (selection.value "address_mode")

/-- The mode that all selections of the target share. -/
def sharedAddressMode (db : Database) (target : SqlRow) : SqlRow :=
  let selections := (db.rows "frigate_camera_selections").filter fun selection =>
    selection.value "target_id" = target.value "target_id"
  let modes := (selections.filterMap (·.value "address_mode")).eraseDups
  if selections.isEmpty then
    target
  else
    target.set "address_mode" (if modes.length = 1 then modes.head? else none)

def enableNotifications (_ : Database) (settings : SqlRow) : SqlRow :=
  if (settings.value "bot_token_ciphertext").isSome then settings.set "enabled" (some "1")
  else settings

def incidentColumns : List String :=
  ["incident_uuid", "camera_uuid", "kind", "severity", "opened_at", "last_observed_at",
    "resolved_at", "resolution_reason"]

def outboxColumns : List String :=
  ["outbox_uuid", "incident_uuid", "event_type", "payload_json", "idempotency_key", "status",
    "attempt_count", "next_attempt_at", "provider_message_id", "last_error_code", "created_at",
    "sent_at"]

/-- The start of version 23: what may run twice. -/
def dropIncidentIndexes : List Statement :=
  .pragma :: ["notification_outbox_due", "camera_incidents_one_open_per_camera",
    "camera_incidents_status_time"].map .dropIndexIfExists

def rebuildIncidents : List Statement := [
  .renameTable "notification_outbox" "notification_outbox_v22",
  .renameTable "camera_incidents" "camera_incidents_v22",
  .createTable "camera_incidents" (incidentColumns ++ ["details_json"]),
  .createIndex "camera_incidents_one_open_health_per_camera" "camera_incidents",
  .createIndex "camera_incidents_one_open_address_per_camera" "camera_incidents",
  .createIndex "camera_incidents_status_time" "camera_incidents",
  .copyRows "camera_incidents_v22" "camera_incidents" incidentColumns
    [("details_json", some "\x7b\x7d")],
  .createTable "notification_outbox" outboxColumns,
  .createIndex "notification_outbox_due" "notification_outbox",
  .copyRows "notification_outbox_v22" "notification_outbox" outboxColumns [],
  .dropTable "notification_outbox_v22",
  .dropTable "camera_incidents_v22",
  .pragma]

def migrations : List (List Statement) := [
  [.createTable "camera_credentials"
      ["credential_uuid", "username", "password_ciphertext", "created_at", "updated_at"],
    .createTable "cameras"
      ["camera_uuid", "candidate_uuid", "display_name", "credential_uuid", "adopted_at",
        "updated_at"],
    .createTable "onvif_profiles"
      ["profile_uuid", "camera_uuid", "profile_token", "name", "width", "height", "encoding",
        "fps", "bitrate_kbps", "uri", "updated_at"],
    .createTable "managed_streams"
      ["stream_uuid", "camera_uuid", "profile_uuid", "stream_key", "created_at"],
    .createTable "consumer_bindings" ["camera_uuid", "role", "stream_uuid", "updated_at"]],
  [.addColumn "managed_streams" "probe_status" (some "pending"),
    .addColumn "managed_streams" "probed_at" none,
    .addColumn "managed_streams" "probe_latency_ms" none,
    .addColumn "managed_streams" "video_codec" none,
    .addColumn "managed_streams" "audio_codec" none,
    .addColumn "managed_streams" "probed_width" none,
    .addColumn "managed_streams" "probed_height" none,
    .addColumn "managed_streams" "probed_fps" none],
  [.createTable "service_secrets" ["name", "secret_ciphertext", "created_at", "updated_at"]],
  [.addColumn "onvif_profiles" "source_kind" (some "onvif"),
    .addColumn "onvif_profiles" "source_scheme" none,
    .addColumn "onvif_profiles" "source_host" none,
    .addColumn "onvif_profiles" "source_port" none,
    .addColumn "onvif_profiles" "source_path" none,
    .addColumn "onvif_profiles" "source_query" none],
  [.addColumn "onvif_profiles" "catalog_revision" none,
    .addColumn "onvif_profiles" "catalog_rule_id" none,
    .addColumn "onvif_profiles" "catalog_source_url" none,
    .addColumn "managed_streams" "health_status" (some "unknown"),
    .addColumn "managed_streams" "consecutive_failures" (some "0"),
    .addColumn "managed_streams" "last_ready_at" none,
    .addColumn "managed_streams" "last_failure_at" none],
  [.createTable "camera_address_events"
      ["event_uuid", "camera_uuid", "previous_address", "current_address", "evidence",
        "changed_at"],
    .createIndex "camera_address_events_camera_time" "camera_address_events"],
  [.createTable "media_config_revisions"
      ["revision_id", "desired_hash", "config_json", "status", "error_code", "created_at",
        "completed_at"],
    .createIndex "media_config_revisions_status_revision" "media_config_revisions"],
  [.createTable "frigate_bindings"
      ["target_id", "camera_uuid", "frigate_camera_key", "record_stream_uuid",
        "detect_stream_uuid", "desired_hash", "applied_hash", "status", "last_error_code",
        "last_attempt_at", "updated_at"],
    .createIndex "frigate_bindings_target_status" "frigate_bindings"],
  [.addColumn "cameras" "enabled" (some "1"),
    .addColumn "frigate_bindings" "camera_enabled_applied" (some "1")],
  [.createTable "camera_health_events"
      ["event_id", "camera_uuid", "state", "reason", "observed_at"],
    .createIndex "camera_health_events_camera_time" "camera_health_events"],
  [.createTable "camera_incidents" incidentColumns,
    .createIndex "camera_incidents_one_open_per_camera" "camera_incidents",
    .createIndex "camera_incidents_status_time" "camera_incidents",
    .createTable "notification_settings"
      ["singleton_id", "provider", "enabled", "bot_token_ciphertext", "bot_id", "bot_username",
        "chat_id", "chat_label", "pairing_token_ciphertext", "pairing_expires_at",
        "update_offset", "created_at", "updated_at"],
    .createTable "notification_outbox" outboxColumns,
    .createIndex "notification_outbox_due" "notification_outbox"],
  [.updateRows "notification_settings" enableNotifications],
  [.createTable "frigate_targets"
      ["target_id", "name", "api_url", "sync_cameras", "connection_status", "last_error_code",
        "last_checked_at", "created_at", "updated_at"]],
  [.createTable "frigate_camera_selections" ["target_id", "camera_uuid", "selected_at"],
    .createIndex "frigate_camera_selections_camera" "frigate_camera_selections"],
  [.addColumn "frigate_targets" "restart_recommended" (some "0")],
  [.addColumn "frigate_camera_selections" "address_mode" (some "lan")],
  [.createTable "discovery_settings"
      ["singleton_id", "custom_subnets_json", "excluded_detected_subnets_json", "updated_at"]],
  [.addColumn "discovery_settings" "excluded_custom_subnets_json" (some "[]")],
  [.addColumn "cameras" "stream_address_mode" (some "lan"),
    .updateRows "cameras" latestAddressMode],
  [.createTable "blocked_devices"
      ["block_uuid", "candidate_uuid", "onvif_identity", "mac", "display_name", "last_ip",
        "blocked_at", "updated_at"],
    .createIndex "blocked_devices_candidate" "blocked_devices"],
  [.addColumn "frigate_targets" "address_mode" (some "lan"),
    .updateRows "frigate_targets" sharedAddressMode],
  [.createTable "camera_identity_periods"
      ["period_uuid", "camera_uuid", "ip_address", "mac_address", "onvif_identity", "started_at",
        "ended_at"],
    .createIndex "camera_identity_periods_one_current" "camera_identity_periods",
    .createIndex "camera_identity_periods_camera_time" "camera_identity_periods"],
  dropIncidentIndexes ++ rebuildIncidents,
  [.addColumn "cameras" "camera_origin" (some "discovery")],
  [.createTable "frigate_retired_cameras" ["target_id", "camera_key", "restore_json"]]]

inductive SchemaChange
  | table (name : String) (columns : List String)
  | column (table column : String) (value : Option String)

def schemaTables : List SchemaChange := [
  .table "camera_identity_links" ["camera_uuid", "payload"],
  .table "frigate_import_handoffs" ["target_id", "camera_key", "payload"],
  .table "frigate_import_jobs" ["job_id", "target_id", "payload", "created_at"],
  .table "frigate_import_links" ["target_id", "camera_key", "camera_uuid", "payload"],
  .table "stream_auth_retries" ["stream_uuid", "attempts", "next_attempt"]]

def schemaColumns : List SchemaChange := [
  .column "cameras" "notifications_silenced" (some "0"),
  .column "managed_streams" "enabled" (some "1"),
  .column "cameras" "stream_settings_custom" (some "0"),
  .column "frigate_camera_selections" "detect_width" none,
  .column "frigate_camera_selections" "detect_height" none,
  .column "frigate_camera_selections" "sync_error" none]

/-- `CREATE TABLE IF NOT EXISTS`, or `ADD COLUMN` after a look at the columns. -/
def ensure (db : Database) : SchemaChange → Option Database
  | .table name columns =>
      if db.hasTable name then some db else exec db (.createTable name columns)
  | .column table column value =>
      if column ∈ db.columns table then some db else exec db (.addColumn table column value)

/-! The follow-ups. -/

/-- What a follow-up takes from outside: `_now()` and the `uuid4` for a camera's incident. -/
structure Stamp where
  timestamp : String
  incidentUuid : String → String

/-- The state and its reason. -/
def storedHealthState (db : Database) (cameraUuid : String) : Option (String × String) :=
  ((db.rows "cameras").find? (·.value "camera_uuid" = some cameraUuid)).map fun camera =>
    if camera.value "enabled" = some "0" then
      ("disabled", "operator_disabled")
    else
      let streams := (db.rows "managed_streams").filter fun stream =>
        stream.value "camera_uuid" = some cameraUuid ∧
          (db.rows "consumer_bindings").any fun binding =>
            binding.value "stream_uuid" = stream.value "stream_uuid"
      let states := streams.filterMap (·.value "health_status")
      let observedStates := states.filter (· ≠ "unknown")
      if observedStates.isEmpty then
        ("unknown", "media_check_pending")
      else if "auth_failed" ∈ observedStates then
        ("auth_failed", "authentication_failed")
      else if observedStates.all (· = "healthy") then
        ("healthy", "all_streams_healthy")
      else if states.all (· = "offline") then
        ("offline", "all_streams_offline")
      else if "offline" ∈ observedStates then
        ("degraded", "partial_stream_failure")
      else if "degraded" ∈ observedStates then
        ("degraded", "media_probe_failed")
      else
        ("unknown", "media_check_pending")

def insertRow (db : Database) (table : String) (row : SqlRow) : Database :=
  db.updateTable table fun stored => { stored with rows := stored.rows ++ [row] }

/-- The script of version 10 has just created the events, and there are no incidents yet. -/
def recordCameraHealth (stamp : Stamp) (db : Database) (cameraUuid : String) : Database :=
  match storedHealthState db cameraUuid with
  | none => db
  | some (state, reason) =>
      let previous := ((db.rows "camera_health_events").filter fun event =>
        event.value "camera_uuid" = some cameraUuid).getLast?
      if previous.map (fun event => (event.value "state", event.value "reason")) =
          some (some state, some reason) then
        db
      else
        insertRow db "camera_health_events" [
          ("event_id", some (toString ((db.rows "camera_health_events").length + 1))),
          ("camera_uuid", some cameraUuid), ("state", some state), ("reason", some reason),
          ("observed_at", some stamp.timestamp)]

/-- The script of version 11 has just created the incidents and the notification settings:
none is open, and no message is queued. -/
def openCameraIncident (stamp : Stamp) (db : Database) (cameraUuid : String) : Database :=
  let desiredKind := match storedHealthState db cameraUuid with
    | some ("offline", _) => some "media_offline"
    | some ("auth_failed", _) => some "authentication_failed"
    | _ => none
  match desiredKind with
  | none => db
  | some kind =>
      insertRow db "camera_incidents" [
        ("incident_uuid", some (stamp.incidentUuid cameraUuid)),
        ("camera_uuid", some cameraUuid), ("kind", some kind), ("severity", some "critical"),
        ("opened_at", some stamp.timestamp), ("last_observed_at", some stamp.timestamp),
        ("resolved_at", none), ("resolution_reason", none)]

def followUp (stamp : Stamp) (version : Nat) (db : Database) : Database :=
  let cameras := (db.rows "cameras").filterMap (·.value "camera_uuid")
  match version with
  | 10 => cameras.foldl (recordCameraHealth stamp) db
  | 11 => cameras.foldl (openCameraIncident stamp) db
  | _ => db

/-! The migration, and where it can stop. -/

/-- A database with the versions in its `schema_migrations`. -/
structure MigratedDatabase where
  db : Database
  versions : List Nat

def migrateVersion (stamps : Nat → Stamp) (store : MigratedDatabase)
    (numbered : List Statement × Nat) : Option MigratedDatabase :=
  if numbered.2 ∈ store.versions then
    some store
  else
    (runScript store.db numbered.1).map fun db =>
      ⟨followUp (stamps numbered.2) numbered.2 db, store.versions ++ [numbered.2]⟩

def migrateVersions (stamps : Nat → Stamp) (numbered : List (List Statement × Nat))
    (store : MigratedDatabase) : Option MigratedDatabase :=
  numbered.foldlM (migrateVersion stamps) store

def ensureAll (changes : List SchemaChange) (db : Database) : Option Database :=
  changes.foldlM ensure db

def migrate (stamps : Nat → Stamp) (store : MigratedDatabase) : Option MigratedDatabase :=
  (migrateVersions stamps (migrations.zipIdx 1) store).bind fun store =>
    (ensureAll (schemaTables ++ schemaColumns) store.db).map fun db => { store with db }

/-- After how many statements of a version's script, or of how many later changes, a
migration stops. -/
inductive StopPoint
  | script (version statements : Nat)
  | schema (changes : Nat)
  deriving DecidableEq, Repr

def stoppedAt (stamps : Nat → Stamp) (store : MigratedDatabase) :
    StopPoint → Option MigratedDatabase
  | .script version statements =>
      (migrateVersions stamps ((migrations.zipIdx 1).take (version - 1)) store).bind fun store =>
        (runScript store.db ((migrations.getD (version - 1) []).take statements)).map fun db =>
          { store with db }
  | .schema changes =>
      (migrateVersions stamps (migrations.zipIdx 1) store).bind fun store =>
        (ensureAll ((schemaTables ++ schemaColumns).take changes) store.db).map fun db =>
          { store with db }

end CamAdmiral
