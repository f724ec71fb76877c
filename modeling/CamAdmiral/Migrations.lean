import CamAdmiral.MigrationsCore
import Mathlib.Data.List.Range

/-!
What a stopped migration leaves for the next start. A script whose first statement creates
something cannot start twice, so only a script that runs again as a whole is repeatable.
-/

namespace CamAdmiral

/-! The numbered versions. -/

/-- The scripts one after the other, from a version on. -/
def runVersions (stamps : Nat → Stamp) : List (List Statement) → Nat → Database → Option Database
  | [], _, db => some db
  | script :: rest, version, db =>
      (runScript db script).bind fun next =>
        runVersions stamps rest (version + 1) (followUp (stamps version) version next)

theorem followUp_emptied (stamp : Stamp) (version : Nat) (db : Database) :
    (followUp stamp version db).emptied = db.emptied := by
  have inserts (db : Database) (table : String) (row : SqlRow) :
      (insertRow db table row).emptied = db.emptied := by
    simp only [insertRow, Database.updateTable, Database.emptied, List.map_map, Database.mk.injEq,
      and_true]
    apply List.map_congr_left
    intro stored _
    simp only [Function.comp_apply]
    split <;> rfl
  have folds {step : Database → String → Database}
      (kept : ∀ db camera, (step db camera).emptied = db.emptied) (cameras : List String) :
      (cameras.foldl step db).emptied = db.emptied := by
    induction cameras generalizing db with
    | nil => rfl
    | cons camera rest ih => exact (ih (step db camera)).trans (kept db camera)
  unfold followUp
  split
  · apply folds
    intro db camera
    unfold recordCameraHealth
    split
    · rfl
    · dsimp only
      split
      · rfl
      · exact inserts _ _ _
  · apply folds
    intro db camera
    unfold openCameraIncident
    dsimp only
    split
    · rfl
    · exact inserts _ _ _
  · rfl

theorem runVersions_emptied (stamps : Nat → Stamp) (scripts : List (List Statement))
    (version : Nat) (db : Database) :
    (runVersions stamps scripts version db).map Database.emptied =
      scripts.foldlM runScript db.emptied := by
  induction scripts generalizing version db with
  | nil => rfl
  | cons script rest ih =>
      rw [runVersions, List.foldlM_cons, runScript_emptied, Option.map_bind]
      cases runScript db script with
      | none => rfl
      | some next =>
          simp only [Option.bind_some, Function.comp_apply, Option.map_some, Option.bind_eq_bind]
          rw [ih, followUp_emptied]

theorem runVersions_append (stamps : Nat → Stamp) (first second : List (List Statement))
    (version : Nat) (db : Database) :
    runVersions stamps (first ++ second) version db =
      (runVersions stamps first version db).bind
        (runVersions stamps second (version + first.length)) := by
  induction first generalizing version db with
  | nil => rfl
  | cons script rest ih =>
      simp only [List.cons_append, runVersions, Option.bind_assoc, ih, List.length_cons]
      congr 1
      funext next
      rw [Nat.add_right_comm, Nat.add_assoc]

theorem runVersions_congr {first second : Nat → Stamp} {scripts : List (List Statement)}
    {version : Nat} (same : ∀ later, version ≤ later → later < version + scripts.length →
      first later = second later) (db : Database) :
    runVersions first scripts version db = runVersions second scripts version db := by
  induction scripts generalizing version db with
  | nil => rfl
  | cons script rest ih =>
      simp only [runVersions]
      congr 1
      funext next
      rw [same version le_rfl (by simp), ih]
      intro later above below
      exact same later (by omega) (by simp only [List.length_cons]; omega)

/-- Versions that are recorded are skipped. -/
theorem migrateVersions_skip (stamps : Nat → Stamp) {numbered : List (List Statement × Nat)}
    {store : MigratedDatabase} (recorded : ∀ entry ∈ numbered, entry.2 ∈ store.versions) :
    migrateVersions stamps numbered store = some store := by
  induction numbered with
  | nil => rfl
  | cons entry rest ih =>
      obtain ⟨first, others⟩ := List.forall_mem_cons.mp recorded
      rw [migrateVersions, List.foldlM_cons, migrateVersion, if_pos first]
      exact ih others

/-- The others run. -/
theorem migrateVersions_run (stamps : Nat → Stamp) (scripts : List (List Statement))
    (count : Nat) (db : Database) :
    migrateVersions stamps (scripts.zipIdx (count + 1)) ⟨db, List.range' 1 count⟩ =
      (runVersions stamps scripts (count + 1) db).map fun db =>
        ⟨db, List.range' 1 (count + scripts.length)⟩ := by
  induction scripts generalizing count db with
  | nil => rfl
  | cons script rest ih =>
      have fresh : count + 1 ∉ List.range' 1 count := by
        rw [List.mem_range'_1]
        omega
      rw [List.zipIdx_cons, migrateVersions, List.foldlM_cons, migrateVersion, if_neg fresh,
        runVersions]
      cases runScript db script with
      | none => rfl
      | some next =>
          have extended : List.range' 1 count ++ [count + 1] = List.range' 1 (count + 1) := by
            rw [List.range'_1_concat, Nat.add_comm 1 count]
          simp only [Option.map_some, Option.bind_eq_bind, Option.bind_some, extended]
          refine (ih (count + 1) _).trans ?_
          simp only [List.length_cons, Nat.add_right_comm, Nat.add_assoc]

theorem migrateVersions_from (stamps : Nat → Stamp) {scripts : List (List Statement)}
    {version : Nat} (known : version ≤ scripts.length) (db : Database) :
    migrateVersions stamps (scripts.zipIdx 1) ⟨db, List.range' 1 version⟩ =
      (runVersions stamps (scripts.drop version) (version + 1) db).map fun db =>
        ⟨db, List.range' 1 scripts.length⟩ := by
  have split : scripts.zipIdx 1 = (scripts.take version).zipIdx 1 ++
      (scripts.drop version).zipIdx (version + 1) := by
    conv_lhs => rw [← List.take_append_drop version scripts, List.zipIdx_append]
    rw [List.length_take, Nat.min_eq_left known, Nat.add_comm 1 version]
  rw [split, migrateVersions, List.foldlM_append]
  change (migrateVersions stamps _ _).bind (migrateVersions stamps _) = _
  rw [migrateVersions_skip, Option.bind_some, migrateVersions_run, List.length_drop,
    Nat.add_sub_cancel' known]
  intro entry member
  have bound := List.snd_lt_add_of_mem_zipIdx member
  have above := List.le_snd_of_mem_zipIdx member
  rw [List.length_take, Nat.min_eq_left known] at bound
  exact List.mem_range'_1.mpr ⟨above, bound⟩

/-! The changes without a number. -/

def SchemaChange.Present (db : Database) : SchemaChange → Prop
  | .table name _ => db.hasTable name = true
  | .column owner name _ => name ∈ db.columns owner

def SchemaChange.statement : SchemaChange → Statement
  | .table name columns => .createTable name columns
  | .column owner name value => .addColumn owner name value

theorem ensure_of_present {db : Database} {change : SchemaChange} (present : change.Present db) :
    ensure db change = some db := by
  cases change with
  | table name columns => exact if_pos present
  | column table column value => exact if_pos present

theorem ensure_of_absent {db : Database} {change : SchemaChange}
    (absent : ¬ change.Present db) : ensure db change = exec db change.statement := by
  cases change with
  | table name columns => exact if_neg absent
  | column table column value => exact if_neg absent

theorem present_emptied (db : Database) (change : SchemaChange) :
    change.Present db.emptied ↔ change.Present db := by
  cases change <;> simp [SchemaChange.Present]

theorem ensure_emptied (db : Database) (change : SchemaChange) :
    ensure db.emptied change = (ensure db change).map Database.emptied := by
  by_cases present : change.Present db
  · rw [ensure_of_present present, ensure_of_present ((present_emptied db change).mpr present)]
    rfl
  · rw [ensure_of_absent present, ensure_of_absent (mt (present_emptied db change).mp present),
      exec_emptied]

theorem ensureAll_emptied (changes : List SchemaChange) (db : Database) :
    ensureAll changes db.emptied = (ensureAll changes db).map Database.emptied := by
  induction changes generalizing db with
  | nil => rfl
  | cons change rest ih =>
      simp only [ensureAll, List.foldlM_cons, ensure_emptied, Option.bind_eq_bind,
        Option.bind_map, Option.map_bind]
      congr 1
      funext next
      exact ih next

theorem present_exec {db next : Database} {change : SchemaChange} {statement : Statement}
    (done : exec db statement = some next) (keeps : statement.removed = [])
    (present : change.Present db) : change.Present next := by
  cases change with
  | table name columns =>
      simp only [SchemaChange.Present, Database.hasTable_eq, Option.isSome_iff_exists]
        at present ⊢
      obtain ⟨stored, isStored⟩ := present
      obtain ⟨later, isLater, _⟩ := table_exec done (by simp [keeps]) isStored
      exact ⟨later, isLater⟩
  | column owner name value =>
      cases isStored : db.table owner with
      | none => simp [SchemaChange.Present, Database.columns, isStored] at present
      | some stored =>
          obtain ⟨later, isLater, wider⟩ := table_exec done (by simp [keeps]) isStored
          simp only [SchemaChange.Present, Database.columns, isStored, isLater, Option.map_some,
            Option.getD_some] at present ⊢
          exact wider present

theorem present_ensure {db next : Database} {change other : SchemaChange}
    (done : ensure db change = some next) (present : other.Present db) : other.Present next := by
  by_cases known : change.Present db
  · rw [ensure_of_present known] at done
    exact Option.some.inj done ▸ present
  · rw [ensure_of_absent known] at done
    refine present_exec done ?_ present
    cases change <;> rfl

theorem ensure_present {db next : Database} {change : SchemaChange}
    (done : ensure db change = some next) : change.Present next := by
  by_cases known : change.Present db
  · rw [ensure_of_present known] at done
    exact Option.some.inj done ▸ known
  rw [ensure_of_absent known] at done
  cases change with
  | table name columns =>
      simp only [SchemaChange.statement, exec, Option.ite_none_left_eq_some,
        Option.some.injEq] at done
      obtain ⟨_, rfl⟩ := done
      simp [SchemaChange.Present, Database.hasTable]
  | column owner name value =>
      simp only [SchemaChange.statement, exec, Option.ite_none_left_eq_some, Bool.or_eq_true,
        not_or, Bool.not_eq_true', Bool.not_eq_false, Option.some.injEq] at done
      obtain ⟨⟨present, _⟩, rfl⟩ := done
      obtain ⟨stored, isStored⟩ : ∃ stored, db.table owner = some stored := by
        rwa [← Option.isSome_iff_exists, ← Database.hasTable_eq]
      rw [SchemaChange.Present, Database.columns, Database.updateTable_table db ?_ owner, isStored]
      · simp
      · exact fun _ => rfl

theorem ensureAll_keeps {db final : Database} {changes : List SchemaChange}
    (done : ensureAll changes db = some final) {change : SchemaChange}
    (present : change.Present db) : change.Present final := by
  induction changes generalizing db with
  | nil => exact Option.some.inj done ▸ present
  | cons first rest ih =>
      obtain ⟨next, isNext, further⟩ := Option.bind_eq_some_iff.mp done
      exact ih further (present_ensure isNext present)

theorem ensureAll_present {db final : Database} {changes : List SchemaChange}
    (done : ensureAll changes db = some final) : ∀ change ∈ changes, change.Present final := by
  induction changes generalizing db with
  | nil => exact fun _ member => absurd member List.not_mem_nil
  | cons first rest ih =>
      obtain ⟨next, isNext, further⟩ := Option.bind_eq_some_iff.mp done
      exact List.forall_mem_cons.mpr
        ⟨ensureAll_keeps further (ensure_present isNext), ih further⟩

theorem ensureAll_of_present {db : Database} {changes : List SchemaChange}
    (present : ∀ change ∈ changes, change.Present db) : ensureAll changes db = some db := by
  induction changes with
  | nil => rfl
  | cons first rest ih =>
      obtain ⟨known, others⟩ := List.forall_mem_cons.mp present
      rw [ensureAll, List.foldlM_cons, ensure_of_present known]
      exact ih others

/-- The changes can start again wherever they stopped. -/
theorem ensureAll_again {db stopped : Database} {changes : List SchemaChange} {count : Nat}
    (done : ensureAll (changes.take count) db = some stopped) :
    ensureAll changes stopped = ensureAll changes db := by
  have split (db : Database) : ensureAll changes db =
      (ensureAll (changes.take count) db).bind (ensureAll (changes.drop count)) := by
    conv_lhs => rw [ensureAll, ← List.take_append_drop count changes, List.foldlM_append]
    rfl
  rw [split stopped, split db, done, ensureAll_of_present (ensureAll_present done)]

/-! AtVersion versions. -/

/-- The schema after a number of versions, later tables and later columns. -/
def schemaAt (version tables columns : Nat) : Option Database :=
  (((migrations.take version).foldlM runScript {}).bind
    (ensureAll (schemaTables.take tables))).bind (ensureAll (schemaColumns.take columns))

/-- A database that this migration, or an earlier release of it, has left behind: later
changes only follow the last version. -/
structure AtVersion (version : Nat) (store : MigratedDatabase) : Prop where
  versions : store.versions = List.range' 1 version
  known : version ≤ migrations.length
  schema : ∃ tables < 6, ∃ columns < 7, (version < 25 → tables = 0 ∧ columns = 0) ∧
    schemaAt version tables columns = some store.db.emptied

/-- Every table, column and index of the current schema, once. -/
structure Current (store : MigratedDatabase) : Prop where
  versions : store.versions = List.range' 1 25
  schema : schemaAt 25 5 6 = some store.db.emptied

theorem ensureAll_schemaAt : ∀ tables < 6, ∀ columns < 7,
    (schemaAt 25 tables columns).bind (ensureAll (schemaTables ++ schemaColumns)) =
      schemaAt 25 5 6 := by
  decide +kernel

theorem schemaAt_current : (schemaAt 25 5 6).isSome = true := by decide +kernel

theorem schemaAt_zero (version : Nat) :
    schemaAt version 0 0 = (migrations.take version).foldlM runScript {} := by
  rw [schemaAt]
  cases (migrations.take version).foldlM runScript {} <;> rfl

theorem schemaAt_drop (version : Nat) :
    (schemaAt version 0 0).bind ((migrations.drop version).foldlM runScript) =
      schemaAt 25 0 0 := by
  rw [schemaAt_zero, schemaAt_zero, List.take_of_length_le (by decide : migrations.length ≤ 25)]
  conv_rhs => rw [← List.take_append_drop version migrations, List.foldlM_append]
  rfl

theorem schemaAt_isSome (version : Nat) : (schemaAt version 0 0).isSome = true := by
  have whole := schemaAt_current
  rw [← ensureAll_schemaAt 0 (by decide) 0 (by decide), ← schemaAt_drop version] at whole
  cases schema : schemaAt version 0 0 with
  | none => simp [schema] at whole
  | some db => rfl

theorem migrate_numbered (stamps : Nat → Stamp) {version : Nat}
    (known : version ≤ migrations.length) (db : Database) :
    migrate stamps ⟨db, List.range' 1 version⟩ =
      ((runVersions stamps (migrations.drop version) (version + 1) db).bind
        (ensureAll (schemaTables ++ schemaColumns))).map fun db => ⟨db, List.range' 1 25⟩ := by
  rw [migrate, migrateVersions_from stamps known, Option.bind_map, Option.map_bind]
  rfl

theorem migrate_from {stamps : Nat → Stamp} {version : Nat} {store : MigratedDatabase}
    (recorded : AtVersion version store) :
    migrate stamps store = ((runVersions stamps (migrations.drop version) (version + 1)
      store.db).bind (ensureAll (schemaTables ++ schemaColumns))).map fun db =>
        ⟨db, List.range' 1 25⟩ := by
  obtain ⟨db, versions⟩ := store
  obtain rfl := recorded.versions
  exact migrate_numbered stamps recorded.known db

/-- A recorded version migrates to the current one. -/
theorem migrate_current (stamps : Nat → Stamp) {version : Nat} {store : MigratedDatabase}
    (recorded : AtVersion version store) :
    ∃ final, migrate stamps store = some final ∧ Current final := by
  obtain ⟨tables, tablesBound, columns, columnsBound, early, schema⟩ := recorded.schema
  have emptied : ((runVersions stamps (migrations.drop version) (version + 1) store.db).bind
      (ensureAll (schemaTables ++ schemaColumns))).map Database.emptied = schemaAt 25 5 6 := by
    rw [Option.map_bind]
    have numbered : (runVersions stamps (migrations.drop version) (version + 1) store.db).map
        Database.emptied = schemaAt 25 tables columns := by
      rw [runVersions_emptied]
      rcases Nat.lt_or_ge version 25 with isEarly | isLast
      · obtain ⟨rfl, rfl⟩ := early isEarly
        rw [← schemaAt_drop version, schema]
        rfl
      · obtain rfl : version = 25 := le_antisymm recorded.known isLast
        rw [schema]
        rfl
    have commutes : Option.map Database.emptied ∘ ensureAll (schemaTables ++ schemaColumns) =
        ensureAll (schemaTables ++ schemaColumns) ∘ Database.emptied := by
      funext db
      exact (ensureAll_emptied _ db).symm
    rw [commutes, ← Option.bind_map, numbered]
    exact ensureAll_schemaAt tables tablesBound columns columnsBound
  have isSome := schemaAt_current
  rw [← emptied, Option.isSome_map, Option.isSome_iff_exists] at isSome
  obtain ⟨final, isFinal⟩ := isSome
  refine ⟨⟨final, List.range' 1 25⟩, ?_, rfl, ?_⟩
  · rw [migrate_from recorded, isFinal]
    rfl
  · rw [← emptied, isFinal]
    rfl

/-! No incident and no notification is lost. -/

def KeepsColumns (columns : List String) (before after : List SqlRow) : Prop :=
  ∀ row ∈ before, ∃ kept ∈ after, ∀ column ∈ columns, kept.value column = row.value column

/-- Every row of the table is still there, with the columns it had. -/
def KeepsRows (name : String) (before after : Database) : Prop :=
  KeepsColumns (before.columns name) (before.rows name) (after.rows name)

theorem keepsColumns_of_eq (columns : List String) {before after : List SqlRow}
    (same : after = before) : KeepsColumns columns before after :=
  fun row member => ⟨row, same ▸ member, fun _ _ => rfl⟩

theorem KeepsColumns.trans {columns : List String} {first second third : List SqlRow}
    (early : KeepsColumns columns first second) (late : KeepsColumns columns second third) :
    KeepsColumns columns first third := by
  intro row member
  obtain ⟨kept, isKept, same⟩ := early row member
  obtain ⟨last, isLast, sameAgain⟩ := late kept isKept
  exact ⟨last, isLast, fun column isColumn => (sameAgain column isColumn).trans
    (same column isColumn)⟩

theorem rebuildIncidents_keeps {db final : Database}
    (done : runScript db (dropIncidentIndexes ++ rebuildIncidents) = some final) :
    KeepsColumns incidentColumns (db.rows "camera_incidents") (final.rows "camera_incidents") ∧
      KeepsColumns outboxColumns (db.rows "notification_outbox")
        (final.rows "notification_outbox") := by
  constructor
  · intro row member
    have copied := runScript_rebuild (dropIncidentIndexes ++ rebuildIncidents.take 1)
      ((rebuildIncidents.drop 2).take 4) (rebuildIncidents.drop 7) done
      (by decide) (by decide) (by decide) member
    exact ⟨_, copied, fun _ isColumn => value_copied row isColumn⟩
  · intro row member
    have copied := runScript_rebuild dropIncidentIndexes
      ((rebuildIncidents.drop 1).take 8) (rebuildIncidents.drop 10) done
      (by decide) (by decide) (by decide) member
    exact ⟨_, copied, fun _ isColumn => value_copied row isColumn⟩

theorem runVersions_keeps {stamps : Nat → Stamp} {name : String} {columns : List String}
    {scripts : List (List Statement)} {version : Nat} {db final : Database}
    (late : 11 < version)
    (each : ∀ script ∈ scripts, ∀ db next, runScript db script = some next →
      KeepsColumns columns (db.rows name) (next.rows name))
    (done : runVersions stamps scripts version db = some final) :
    KeepsColumns columns (db.rows name) (final.rows name) := by
  induction scripts generalizing version db with
  | nil => exact keepsColumns_of_eq _ (Option.some.inj done ▸ rfl)
  | cons script rest ih =>
      obtain ⟨first, others⟩ := List.forall_mem_cons.mp each
      obtain ⟨next, isNext, further⟩ := Option.bind_eq_some_iff.mp done
      have noFollowUp : followUp (stamps version) version next = next := by
        unfold followUp
        split
        · omega
        · omega
        · rfl
      rw [noFollowUp] at further
      exact (first db next isNext).trans (ih (Nat.lt_succ_of_lt late) others further)

theorem ensureAll_rows {name : String} {changes : List SchemaChange} {db final : Database}
    (untouched : Untouched (changes.map SchemaChange.statement) name)
    (done : ensureAll changes db = some final) : final.rows name = db.rows name := by
  induction changes generalizing db with
  | nil => exact Option.some.inj done ▸ rfl
  | cons change rest ih =>
      obtain ⟨first, others⟩ := List.forall_mem_cons.mp untouched
      obtain ⟨next, isNext, further⟩ := Option.bind_eq_some_iff.mp done
      rw [ih others further]
      by_cases known : change.Present db
      · rw [ensure_of_present known] at isNext
        exact Option.some.inj isNext ▸ rfl
      · rw [ensure_of_absent known] at isNext
        exact rows_exec isNext first

/-- Before version 11 there are no such tables. -/
theorem schemaAt_incidents :
    (∀ version < 11, (schemaAt version 0 0).all fun db =>
      !db.hasTable "camera_incidents" && !db.hasTable "notification_outbox") ∧
    ∀ version < 23, 11 ≤ version → (schemaAt version 0 0).all fun db =>
      db.columns "camera_incidents" = incidentColumns ∧
        db.columns "notification_outbox" = outboxColumns := by
  decide +kernel

/-- From then on no script but the rebuild touches them. -/
theorem scripts_leave_incidents :
    ∀ version < 25, 11 ≤ version → version ≠ 22 → ∀ script ∈ migrations[version]?,
      Untouched script "camera_incidents" ∧ Untouched script "notification_outbox" := by
  decide +kernel

theorem schemaChanges_leave_incidents :
    Untouched ((schemaTables ++ schemaColumns).map SchemaChange.statement) "camera_incidents" ∧
      Untouched ((schemaTables ++ schemaColumns).map SchemaChange.statement)
        "notification_outbox" := by
  decide +kernel

theorem rows_of_no_table {db : Database} {name : String} (absent : db.hasTable name = false) :
    db.rows name = [] := by
  rw [Database.hasTable_eq, Option.isSome_eq_false_iff, Option.isNone_iff_eq_none] at absent
  rw [Database.rows, absent]
  rfl

/-- A script after version 11 keeps the rows with the columns of version 11. -/
theorem script_keeps {version : Nat} (late : 11 ≤ version) {script : List Statement}
    (isScript : migrations[version]? = some script) {db next : Database}
    (done : runScript db script = some next) :
    KeepsColumns incidentColumns (db.rows "camera_incidents") (next.rows "camera_incidents") ∧
      KeepsColumns outboxColumns (db.rows "notification_outbox")
        (next.rows "notification_outbox") := by
  by_cases isRebuild : version = 22
  · subst isRebuild
    obtain rfl := Option.some.inj isScript
    exact rebuildIncidents_keeps done
  · have bound : version < 25 := (List.getElem?_eq_some_iff.mp isScript).1
    obtain ⟨first, second⟩ := scripts_leave_incidents version bound late isRebuild script isScript
    exact ⟨keepsColumns_of_eq _ (rows_runScript done first),
      keepsColumns_of_eq _ (rows_runScript done second)⟩

theorem migrate_keeps {stamps : Nat → Stamp} {version : Nat} {store final : MigratedDatabase}
    (recorded : AtVersion version store) (done : migrate stamps store = some final) :
    KeepsRows "camera_incidents" store.db final.db ∧
      KeepsRows "notification_outbox" store.db final.db := by
  rw [migrate_from recorded, Option.map_eq_some_iff] at done
  obtain ⟨last, isLast, rfl⟩ := done
  obtain ⟨numbered, isNumbered, changed⟩ := Option.bind_eq_some_iff.mp isLast
  obtain ⟨tables, _, columns, _, early, schema⟩ := recorded.schema
  have incidents := ensureAll_rows schemaChanges_leave_incidents.1 changed
  have outbox := ensureAll_rows schemaChanges_leave_incidents.2 changed
  rw [KeepsRows, KeepsRows, incidents, outbox]
  rcases Nat.lt_or_ge version 11 with isEarly | isLate
  · -- There is nothing to lose.
    obtain ⟨rfl, rfl⟩ := early (by omega)
    have absent := schemaAt_incidents.1 version isEarly
    simp only [schema, Option.all_some, Database.emptied_hasTable, Bool.and_eq_true,
      Bool.not_eq_true'] at absent
    rw [rows_of_no_table absent.1, rows_of_no_table absent.2]
    exact ⟨fun _ member => absurd member List.not_mem_nil,
      fun _ member => absurd member List.not_mem_nil⟩
  have each : ∀ script ∈ migrations.drop version, ∃ later, version ≤ later ∧
      migrations[later]? = some script := by
    intro script member
    obtain ⟨index, isScript⟩ := List.mem_iff_getElem?.mp member
    rw [List.getElem?_drop] at isScript
    exact ⟨version + index, Nat.le_add_right _ _, isScript⟩
  rcases Nat.lt_or_ge version 23 with isOld | isNew
  · obtain ⟨rfl, rfl⟩ := early (by omega)
    have present := schemaAt_incidents.2 version isOld isLate
    simp only [schema, Option.all_some, Database.emptied_columns, decide_eq_true_eq] at present
    rw [present.1, present.2]
    constructor
    · refine runVersions_keeps (by omega) ?_ isNumbered
      intro script member db next isNext
      obtain ⟨later, above, isScript⟩ := each script member
      exact (script_keeps (isLate.trans above) isScript isNext).1
    · refine runVersions_keeps (by omega) ?_ isNumbered
      intro script member db next isNext
      obtain ⟨later, above, isScript⟩ := each script member
      exact (script_keeps (isLate.trans above) isScript isNext).2
  · have untouched : ∀ script ∈ migrations.drop version,
        Untouched script "camera_incidents" ∧ Untouched script "notification_outbox" := by
      intro script member
      obtain ⟨later, above, isScript⟩ := each script member
      have bound : later < 25 := (List.getElem?_eq_some_iff.mp isScript).1
      exact scripts_leave_incidents later bound (by omega) (by omega) script isScript
    constructor
    · refine runVersions_keeps (by omega) ?_ isNumbered
      intro script member db next isNext
      exact keepsColumns_of_eq _ (rows_runScript isNext (untouched script member).1)
    · refine runVersions_keeps (by omega) ?_ isNumbered
      intro script member db next isNext
      exact keepsColumns_of_eq _ (rows_runScript isNext (untouched script member).2)

/-! Starting again. -/

/-- The migration of the version runs into the point. -/
def StopPoint.Follows (version : Nat) : StopPoint → Prop
  | .script next _ => version < next ∧ next ≤ migrations.length
  | .schema _ => True

/-- The first version that is left to the next start. -/
def StopPoint.version : StopPoint → Nat
  | .script version _ => version
  | .schema _ => migrations.length + 1

/-- Nothing of the script has run, or nothing that could not run again. -/
def StopPoint.Repeatable : StopPoint → Prop
  | .script version statements =>
      statements = 0 ∨ version = 12 ∨ version = 23 ∧ statements ≤ 4
  | .schema _ => True

/-- The next start gives what a start without the stop gives, with all the rows. -/
def Recovers (first second : Nat → Stamp) (store : MigratedDatabase) (point : StopPoint) : Prop :=
  ∃ stopped final, stoppedAt first store point = some stopped ∧
    migrate second stopped = some final ∧
    migrate (fun version => if version < point.version then first version else second version)
      store = some final ∧
    Current final ∧
    KeepsRows "camera_incidents" store.db final.db ∧
    KeepsRows "notification_outbox" store.db final.db

/-- Everything before a version can run. -/
theorem migrate_before {version next : Nat} {store : MigratedDatabase}
    (recorded : AtVersion version store) (later : version < next)
    (known : next ≤ migrations.length) (first : Nat → Stamp) :
    ∃ before, migrateVersions first ((migrations.zipIdx 1).take (next - 1)) store =
        some ⟨before, List.range' 1 (next - 1)⟩ ∧
      AtVersion (next - 1) ⟨before, List.range' 1 (next - 1)⟩ ∧
      ∀ second, migrate (fun version => if version < next then first version
        else second version) store = migrate second ⟨before, List.range' 1 (next - 1)⟩ := by
  obtain ⟨db, versions⟩ := store
  obtain rfl := recorded.versions
  obtain ⟨tables, _, columns, _, early, schema⟩ := recorded.schema
  have small : version < 25 := later.trans_le known
  obtain ⟨rfl, rfl⟩ := early small
  have count : (migrations.take (next - 1)).length = next - 1 := by
    rw [List.length_take]
    omega
  have numbered : (migrations.zipIdx 1).take (next - 1) =
      (migrations.take (next - 1)).zipIdx 1 := by
    conv_lhs => rw [← List.take_append_drop (next - 1) migrations, List.zipIdx_append]
    rw [List.take_left']
    rw [List.length_zipIdx, count]
  have emptied : (runVersions first ((migrations.take (next - 1)).drop version) (version + 1)
      db).map Database.emptied = schemaAt (next - 1) 0 0 := by
    rw [runVersions_emptied, schemaAt_zero]
    rw [schemaAt_zero] at schema
    have split : migrations.take (next - 1) =
        migrations.take version ++ (migrations.take (next - 1)).drop version := by
      conv_lhs => rw [← List.take_append_drop version (migrations.take (next - 1))]
      rw [List.take_take, Nat.min_eq_left (by omega)]
    conv_rhs => rw [split, List.foldlM_append, schema]
    rfl
  have isSome := schemaAt_isSome (next - 1)
  rw [← emptied, Option.isSome_map, Option.isSome_iff_exists] at isSome
  obtain ⟨before, isBefore⟩ := isSome
  refine ⟨before, ?_, ⟨rfl, by omega, 0, by omega, 0, by omega, fun _ => ⟨rfl, rfl⟩, ?_⟩, ?_⟩
  · rw [numbered, migrateVersions_from first (by omega), isBefore, count]
    rfl
  · rw [← emptied, isBefore]
    rfl
  · intro second
    rw [migrate_numbered _ recorded.known, migrate_numbered _ (by omega)]
    have split : migrations.drop version = (migrations.take (next - 1)).drop version ++
        migrations.drop (next - 1) := by
      conv_lhs => rw [← List.take_append_drop (next - 1) migrations]
      rw [List.drop_append_of_le_length (by omega)]
    have length : ((migrations.take (next - 1)).drop version).length = next - 1 - version := by
      rw [List.length_drop, count]
    have earlier : runVersions (fun version => if version < next then first version
        else second version) ((migrations.take (next - 1)).drop version) (version + 1) db =
        some before := by
      rw [← isBefore]
      apply runVersions_congr
      intro other _ below
      rw [length] at below
      exact if_pos (by omega)
    have later : runVersions (fun version => if version < next then first version
        else second version) (migrations.drop (next - 1)) (next - 1 + 1) before =
        runVersions second (migrations.drop (next - 1)) (next - 1 + 1) before := by
      apply runVersions_congr
      intro other above _
      exact if_neg (by omega)
    rw [split, runVersions_append, earlier, length, Option.bind_some,
      show version + 1 + (next - 1 - version) = next - 1 + 1 by omega, later]

/-! The scripts that can start again. -/

theorem enableNotifications_again (db : Database) (row : SqlRow) :
    enableNotifications db (enableNotifications db row) = enableNotifications db row := by
  have untouched (row : SqlRow) : (row.set "enabled" (some "1")).value "bot_token_ciphertext" =
      row.value "bot_token_ciphertext" := by
    simp only [SqlRow.value, SqlRow.set]
    congr 1
    induction row with
    | nil => rfl
    | cons entry rest ih =>
        obtain ⟨column, value⟩ := entry
        by_cases isEnabled : column = "enabled"
        · simpa [isEnabled, List.lookup_cons] using ih
        · simp only [List.map_cons, if_neg isEnabled, List.lookup_cons, ih]
  have again (row : SqlRow) : (row.set "enabled" (some "1")).set "enabled" (some "1") =
      row.set "enabled" (some "1") := by
    simp only [SqlRow.set, List.map_map]
    apply List.map_congr_left
    intro entry _
    simp only [Function.comp_apply]
    split <;> simp_all
  unfold enableNotifications
  split
  case isTrue isSet => rw [if_pos ((untouched row).symm ▸ isSet), again]
  case isFalse => rfl

theorem dropIncidentIndexes_again {db stopped : Database} {count : Nat} (early : count ≤ 4)
    (done : runScript db (dropIncidentIndexes.take count) = some stopped) :
    runScript stopped dropIncidentIndexes = runScript db dropIncidentIndexes := by
  cases count with
  | zero =>
      obtain rfl := Option.some.inj done
      rfl
  | succ count =>
      rw [dropIncidentIndexes, List.take_succ_cons, ← List.map_take] at done
      exact dropIndexes_again done

theorem rebuild_again {db stopped : Database} {count : Nat} (early : count ≤ 4)
    (done : runScript db ((dropIncidentIndexes ++ rebuildIncidents).take count) = some stopped) :
    runScript stopped (dropIncidentIndexes ++ rebuildIncidents) =
      runScript db (dropIncidentIndexes ++ rebuildIncidents) := by
  rw [List.take_append_of_le_length (show count ≤ dropIncidentIndexes.length from early)] at done
  rw [runScript_append, runScript_append, dropIncidentIndexes_again early done]

/-- Past the dropped indexes the rebuild runs into its own tables and indexes. -/
theorem rebuild_stuck : ∀ count < 18, 4 < count →
    ((schemaAt 22 0 0).bind fun db =>
      (runScript db ((dropIncidentIndexes ++ rebuildIncidents).take count)).bind fun stopped =>
        runScript stopped (dropIncidentIndexes ++ rebuildIncidents)) = none := by
  decide +kernel

theorem rebuild_fails {db stopped : Database} (schema : schemaAt 22 0 0 = some db.emptied)
    {count : Nat} (past : 4 < count)
    (done : runScript db ((dropIncidentIndexes ++ rebuildIncidents).take count) = some stopped) :
    runScript stopped (dropIncidentIndexes ++ rebuildIncidents) = none := by
  obtain ⟨small, bound, stillPast, same⟩ : ∃ small < 18, 4 < small ∧
      (dropIncidentIndexes ++ rebuildIncidents).take count =
        (dropIncidentIndexes ++ rebuildIncidents).take small := by
    by_cases bound : count < 18
    · exact ⟨count, bound, past, rfl⟩
    · refine ⟨17, by decide, by decide, ?_⟩
      rw [List.take_of_length_le (by decide : _ ≤ 17), List.take_of_length_le]
      exact (by decide : _ ≤ 17).trans (by omega)
  have stuck := rebuild_stuck small bound stillPast
  rwa [schema, Option.bind_some, ← same, runScript_emptied, done, Option.map_some,
    Option.bind_some, runScript_emptied, Option.map_eq_none_iff] at stuck

/-- What a script creates first, and keeps. -/
def StartsOnce : List Statement → Prop
  | [] => False
  | statement :: rest => ∃ name ∈ statement.once.toList, Keeps rest name

instance : (script : List Statement) → Decidable (StartsOnce script)
  | [] => inferInstanceAs (Decidable False)
  | statement :: rest =>
      inferInstanceAs (Decidable (∃ name ∈ statement.once.toList, Keeps rest name))

theorem scripts_startOnce : ∀ version < 25, version ≠ 11 → version ≠ 22 →
    ∀ script ∈ migrations[version]?, StartsOnce script := by
  decide +kernel

/-- Whether a script, stopped after some of its statements, can start again. -/
theorem script_again {version : Nat} {script : List Statement}
    (isScript : migrations[version]? = some script) {db stopped : Database}
    (schema : schemaAt version 0 0 = some db.emptied) {count : Nat}
    (done : runScript db (script.take count) = some stopped) :
    ((StopPoint.script (version + 1) count).Repeatable →
      runScript stopped script = runScript db script) ∧
    (¬ (StopPoint.script (version + 1) count).Repeatable → runScript stopped script = none) := by
  simp only [StopPoint.Repeatable, not_or, not_and, not_le, Nat.reduceEqDiff]
  by_cases isUpdate : version = 11
  · subst isUpdate
    obtain rfl := Option.some.inj isScript
    refine ⟨fun _ => ?_, fun stuck => absurd rfl stuck.2.1⟩
    cases count with
    | zero => exact Option.some.inj done ▸ rfl
    | succ count =>
        have updated : exec db (.updateRows "notification_settings" enableNotifications) =
            some stopped := by simpa [runScript] using done
        have again := updateRows_again (fun db _ row => enableNotifications_again db row) updated
        simp [runScript, updated, again]
  by_cases isRebuild : version = 22
  · subst isRebuild
    obtain rfl := Option.some.inj isScript
    constructor
    · intro repeatable
      exact rebuild_again (by omega) done
    · intro stuck
      exact rebuild_fails schema (by omega) done
  have bound : version < 25 := (List.getElem?_eq_some_iff.mp isScript).1
  have starts := scripts_startOnce version bound isUpdate isRebuild script isScript
  constructor
  · intro repeatable
    obtain rfl : count = 0 := by omega
    exact Option.some.inj done ▸ rfl
  · intro stuck
    cases script with
    | nil => exact starts.elim
    | cons statement rest =>
        obtain ⟨name, once, keeps⟩ := starts
        exact runScript_twice (by simpa using once) keeps stuck.1 done

theorem migrate_next {stamps : Nat → Stamp} {version : Nat} {script : List Statement}
    (isScript : migrations[version]? = some script) (db : Database) :
    migrate stamps ⟨db, List.range' 1 version⟩ = (runScript db script).bind fun next =>
      ((runVersions stamps (migrations.drop (version + 1)) (version + 2)
        (followUp (stamps (version + 1)) (version + 1) next)).bind
          (ensureAll (schemaTables ++ schemaColumns))).map fun db => ⟨db, List.range' 1 25⟩ := by
  have bound : version < migrations.length := (List.getElem?_eq_some_iff.mp isScript).1
  have split : migrations.drop version = script :: migrations.drop (version + 1) := by
    rw [List.drop_eq_getElem_cons bound, List.getElem?_eq_getElem bound] at *
    rw [Option.some.inj isScript]
  rw [migrate_numbered _ bound.le, split, runVersions, Option.bind_assoc, Option.map_bind]
  rfl

theorem migration_recoverable_iff {version : Nat} {store : MigratedDatabase}
    (recorded : AtVersion version store) {point : StopPoint} (follows : point.Follows version)
    (first second : Nat → Stamp) :
    Recovers first second store point ↔ point.Repeatable := by
  cases point with
  | schema changes =>
      refine ⟨fun _ => trivial, fun _ => ?_⟩
      let stamps := fun version => if version < migrations.length + 1 then first version
        else second version
      obtain ⟨final, isFinal, current⟩ := migrate_current stamps recorded
      obtain ⟨incidents, outbox⟩ := migrate_keeps recorded isFinal
      obtain ⟨db, versions⟩ := store
      obtain rfl := recorded.versions
      have same : runVersions stamps (migrations.drop version) (version + 1) db =
          runVersions first (migrations.drop version) (version + 1) db := by
        apply runVersions_congr
        intro other _ below
        rw [List.length_drop] at below
        exact if_pos (by have := recorded.known; omega)
      have numbered := isFinal
      rw [migrate_numbered _ recorded.known, same, Option.map_eq_some_iff] at numbered
      obtain ⟨last, isLast, rfl⟩ := numbered
      obtain ⟨numbered, isNumbered, changed⟩ := Option.bind_eq_some_iff.mp isLast
      obtain ⟨stopped, isStopped⟩ : ∃ stopped,
          ensureAll ((schemaTables ++ schemaColumns).take changes) numbered = some stopped := by
        rw [← List.take_append_drop changes (schemaTables ++ schemaColumns), ensureAll,
          List.foldlM_append] at changed
        obtain ⟨stopped, isStopped, _⟩ := Option.bind_eq_some_iff.mp changed
        exact ⟨stopped, isStopped⟩
      refine ⟨⟨stopped, List.range' 1 25⟩, ⟨last, List.range' 1 25⟩, ?_, ?_, isFinal, current,
        incidents, outbox⟩
      · rw [stoppedAt, migrateVersions_from first recorded.known, isNumbered]
        simp only [Option.map_some, Option.bind_some, isStopped]
        rfl
      · have last := migrate_numbered second (le_refl migrations.length) stopped
        rw [List.drop_length, runVersions, Option.bind_some, ensureAll_again isStopped,
          changed] at last
        exact last
  | script next statements =>
      obtain ⟨later, known⟩ := follows
      obtain ⟨before, isBefore, recordedBefore, same⟩ := migrate_before recorded later known first
      obtain ⟨version, rfl⟩ : ∃ version, next = version + 1 := ⟨next - 1, by omega⟩
      rw [Nat.add_sub_cancel] at isBefore recordedBefore same
      obtain ⟨script, isScript⟩ : ∃ script, migrations[version]? = some script :=
        ⟨_, List.getElem?_eq_getElem (by omega)⟩
      obtain ⟨final, isFinal, current⟩ := migrate_current second recordedBefore
      have schema : schemaAt version 0 0 = some before.emptied := by
        obtain ⟨tables, _, columns, _, early, schema⟩ := recordedBefore.schema
        obtain ⟨rfl, rfl⟩ := early known
        exact schema
      obtain ⟨stopped, isStopped⟩ : ∃ stopped,
          runScript before (script.take statements) = some stopped := by
        rw [migrate_next isScript] at isFinal
        obtain ⟨whole, isWhole, _⟩ := Option.bind_eq_some_iff.mp isFinal
        rw [← List.take_append_drop statements script] at isWhole
        obtain ⟨stopped, isStopped, _⟩ := runScript_append_eq_some.mp isWhole
        exact ⟨stopped, isStopped⟩
      have stops : stoppedAt first store (.script (version + 1) statements) =
          some ⟨stopped, List.range' 1 version⟩ := by
        rw [stoppedAt, Nat.add_sub_cancel, isBefore, List.getD_eq_getElem?_getD, isScript]
        simp [isStopped]
      obtain ⟨again, stuck⟩ := script_again isScript schema isStopped
      constructor
      · rintro ⟨_, final, isStop, isFinal, _⟩
        by_contra notRepeatable
        obtain rfl := Option.some.inj (isStop.symm.trans stops)
        rw [migrate_next isScript, stuck notRepeatable] at isFinal
        cases isFinal
      · intro repeatable
        have restarts : migrate second ⟨stopped, List.range' 1 version⟩ = some final := by
          rw [← isFinal, migrate_next isScript, migrate_next isScript, again repeatable]
        have uninterrupted := (same second).trans isFinal
        obtain ⟨incidents, outbox⟩ := migrate_keeps recorded uninterrupted
        exact ⟨_, final, stops, restarts, uninterrupted, current, incidents, outbox⟩

/-- Version 22, with a message to be sent. -/
def alertedDatabase : MigratedDatabase :=
  ⟨insertRow ((schemaAt 22 0 0).getD {}) "notification_outbox" [
      ("outbox_uuid", some "o1"), ("incident_uuid", none), ("event_type", some "test"),
      ("payload_json", some "{}"), ("idempotency_key", some "test:o1"),
      ("status", some "pending"), ("attempt_count", some "0"),
      ("next_attempt_at", some "2026-01-01T00:00:00+00:00"), ("provider_message_id", none),
      ("last_error_code", none), ("created_at", some "2026-01-01T00:00:00+00:00"),
      ("sent_at", none)],
    List.range' 1 22⟩

def newYear : Nat → Stamp :=
  fun _ => ⟨"2026-01-01T00:00:00+00:00", fun cameraUuid => "i" ++ cameraUuid⟩

theorem alertedDatabase_version : AtVersion 22 alertedDatabase :=
  ⟨rfl, by decide, 0, by decide, 0, by decide, fun _ => ⟨rfl, rfl⟩, by decide +kernel⟩

theorem alertedDatabase_recovers :
    Recovers newYear newYear alertedDatabase (.script 23 4) ∧
      ¬ Recovers newYear newYear alertedDatabase (.script 23 5) := by
  have early : (StopPoint.script 23 4).Follows 22 := ⟨by decide, by decide⟩
  have late : (StopPoint.script 23 5).Follows 22 := ⟨by decide, by decide⟩
  constructor
  · apply (migration_recoverable_iff alertedDatabase_version early newYear newYear).mpr
    exact .inr (.inr ⟨rfl, le_rfl⟩)
  · intro recovers
    have repeatable :=
      (migration_recoverable_iff alertedDatabase_version late newYear newYear).mp recovers
    simp [StopPoint.Repeatable] at repeatable

/-- Stopped after the rename of the outbox, it has no outbox and never starts again. -/
theorem alertedDatabase_stuck :
    AtVersion 22 alertedDatabase ∧ alertedDatabase.db.rows "notification_outbox" ≠ [] ∧
      ∃ stopped, stoppedAt newYear alertedDatabase (.script 23 5) = some stopped ∧
        stopped.db.hasTable "notification_outbox" = false ∧
        ∀ second, migrate second stopped = none := by
  refine ⟨alertedDatabase_version, by decide +kernel, ?_⟩
  obtain ⟨renamed, isRenamed, absent, stuck⟩ : ∃ renamed,
      runScript alertedDatabase.db ((dropIncidentIndexes ++ rebuildIncidents).take 5) =
        some renamed ∧ renamed.hasTable "notification_outbox" = false ∧
        runScript renamed (dropIncidentIndexes ++ rebuildIncidents) = none := by
    have isSome : (runScript alertedDatabase.db
        ((dropIncidentIndexes ++ rebuildIncidents).take 5)).isSome = true := by decide +kernel
    have fails : (runScript alertedDatabase.db
        ((dropIncidentIndexes ++ rebuildIncidents).take 5)).all (fun renamed =>
          !renamed.hasTable "notification_outbox" &&
            (runScript renamed (dropIncidentIndexes ++ rebuildIncidents)).isNone) = true := by
      decide +kernel
    obtain ⟨renamed, isRenamed⟩ := Option.isSome_iff_exists.mp isSome
    rw [isRenamed, Option.all_some, Bool.and_eq_true, Bool.not_eq_true',
      Option.isNone_iff_eq_none] at fails
    exact ⟨renamed, isRenamed, fails⟩
  refine ⟨⟨renamed, List.range' 1 22⟩, ?_, absent, fun second => ?_⟩
  · rw [stoppedAt, migrateVersions_skip newYear (by decide +kernel), Option.bind_some]
    exact congrArg (Option.map _) isRenamed
  · rw [migrate_next rfl]
    exact congrArg (Option.bind · _) stuck

end CamAdmiral
