import Mathlib.Data.List.Basic
import Mathlib.Data.List.Find

/-!
A small model of SQLite schemas: tables with their columns and rows, indexes, and the
statements that change them. Every statement commits on its own or fails. Whether one fails
only depends on the schema, so a database without its rows decides about all databases with
that schema.
-/

namespace CamAdmiral

/-- The values of a row by column; `none` is NULL. -/
abbrev SqlRow := List (String × Option String)

def SqlRow.value (row : SqlRow) (column : String) : Option String := (row.lookup column).join

def SqlRow.set (row : SqlRow) (column : String) (value : Option String) : SqlRow :=
  row.map fun entry => if entry.1 = column then (column, value) else entry

/-- A row as `INSERT … SELECT` copies it. -/
def SqlRow.copied (row : SqlRow) (columns : List String)
    (added : List (String × Option String)) : SqlRow :=
  (columns.map fun column => (column, row.value column)) ++ added

structure SqlTable where
  name : String
  columns : List String
  rows : List SqlRow := []
  deriving DecidableEq, Repr

structure Database where
  tables : List SqlTable := []
  /-- The name of an index and its table. -/
  indexes : List (String × String) := []
  deriving DecidableEq, Repr

namespace Database

def table (db : Database) (name : String) : Option SqlTable :=
  db.tables.find? (·.name = name)

def hasTable (db : Database) (name : String) : Bool := db.tables.any (·.name = name)

/-- Tables and indexes share their names. -/
def taken (db : Database) (name : String) : Bool :=
  db.hasTable name || db.indexes.any (·.1 = name)

def columns (db : Database) (name : String) : List String :=
  ((db.table name).map (·.columns)).getD []

def rows (db : Database) (name : String) : List SqlRow :=
  ((db.table name).map (·.rows)).getD []

def updateTable (db : Database) (name : String) (change : SqlTable → SqlTable) : Database :=
  { db with tables := db.tables.map fun table => if table.name = name then change table else table }

/-- The schema alone. -/
def emptied (db : Database) : Database :=
  { db with tables := db.tables.map fun table => { table with rows := [] } }

end Database

inductive Statement
  | pragma
  | createTable (name : String) (columns : List String)
  | createIndex (name table : String)
  | dropIndexIfExists (name : String)
  | addColumn (table column : String) (value : Option String)
  | renameTable (name renamed : String)
  | dropTable (name : String)
  | copyRows (source target : String) (columns : List String)
      (added : List (String × Option String))
  | updateRows (table : String) (change : Database → SqlRow → SqlRow)

/-- `none` is an `OperationalError`. -/
def exec (db : Database) : Statement → Option Database
  | .pragma => some db
  | .createTable name columns =>
      if db.taken name then none else some { db with tables := db.tables ++ [⟨name, columns, []⟩] }
  | .createIndex name table =>
      if db.taken name || !db.hasTable table then
        none
      else
        some { db with indexes := db.indexes ++ [(name, table)] }
  | .dropIndexIfExists name => some { db with indexes := db.indexes.filter (·.1 ≠ name) }
  | .addColumn table column value =>
      if !db.hasTable table || column ∈ db.columns table then
        none
      else
        some (db.updateTable table fun stored => { stored with
          columns := stored.columns ++ [column]
          rows := stored.rows.map (· ++ [(column, value)]) })
  | .renameTable name renamed =>
      if !db.hasTable name || db.taken renamed then
        none
      else
        some { db.updateTable name (fun stored => { stored with name := renamed }) with
          indexes := db.indexes.map fun index =>
            if index.2 = name then (index.1, renamed) else index }
  | .dropTable name =>
      if !db.hasTable name then
        none
      else
        some {
          tables := db.tables.filter (·.name ≠ name)
          indexes := db.indexes.filter (·.2 ≠ name) }
  | .copyRows source target columns added =>
      if !db.hasTable source || !db.hasTable target then
        none
      else
        some (db.updateTable target fun stored => { stored with
          rows := stored.rows ++ (db.rows source).map (·.copied columns added) })
  | .updateRows table change =>
      if !db.hasTable table then
        none
      else
        some (db.updateTable table fun stored => { stored with
          rows := stored.rows.map (change db) })

def runScript (db : Database) (script : List Statement) : Option Database :=
  script.foldlM exec db

theorem runScript_append (db : Database) (first second : List Statement) :
    runScript db (first ++ second) = (runScript db first).bind (runScript · second) :=
  List.foldlM_append

/-! The schema decides whether a statement fails. -/

namespace Database

theorem emptied_table (db : Database) (name : String) :
    db.emptied.table name = (db.table name).map fun table => { table with rows := [] } := by
  rw [table, emptied, List.find?_map]
  rfl

@[simp] theorem emptied_hasTable (db : Database) (name : String) :
    db.emptied.hasTable name = db.hasTable name := by
  rw [hasTable, emptied, List.any_map]
  rfl

@[simp] theorem emptied_taken (db : Database) (name : String) :
    db.emptied.taken name = db.taken name := by
  rw [taken, emptied_hasTable]
  rfl

@[simp] theorem emptied_columns (db : Database) (name : String) :
    db.emptied.columns name = db.columns name := by
  rw [columns, emptied_table, Option.map_map]
  rfl

@[simp] theorem emptied_rows (db : Database) (name : String) : db.emptied.rows name = [] := by
  rw [rows, emptied_table]
  cases db.table name <;> rfl

theorem emptied_updateTable (db : Database) (name : String)
    (change changeEmpty : SqlTable → SqlTable)
    (same : ∀ table : SqlTable, changeEmpty { table with rows := [] } =
      { change table with rows := [] }) :
    db.emptied.updateTable name changeEmpty = (db.updateTable name change).emptied := by
  simp only [updateTable, emptied, List.map_map, mk.injEq, and_true]
  apply List.map_congr_left
  intro table _
  simp only [Function.comp_apply]
  split
  · exact same table
  · rfl

end Database

theorem exec_emptied (db : Database) (statement : Statement) :
    exec db.emptied statement = (exec db statement).map Database.emptied := by
  cases statement with
  | pragma => rfl
  | createTable name columns =>
      simp only [exec, Database.emptied_taken]
      split
      · rfl
      · simp [Database.emptied]
  | createIndex name table =>
      simp only [exec, Database.emptied_taken, Database.emptied_hasTable]
      split <;> rfl
  | dropIndexIfExists name => rfl
  | addColumn table column value =>
      simp only [exec, Database.emptied_hasTable, Database.emptied_columns]
      split
      · rfl
      · rw [Option.map_some, Option.some.injEq]
        exact db.emptied_updateTable table _ _ fun _ => rfl
  | renameTable name renamed =>
      simp only [exec, Database.emptied_taken, Database.emptied_hasTable]
      split
      · rfl
      · rw [Option.map_some, Option.some.injEq]
        have tables := congrArg Database.tables (db.emptied_updateTable name
          (fun stored => { stored with name := renamed })
          (fun stored => { stored with name := renamed }) fun _ => rfl)
        simp only [Database.emptied] at tables ⊢
        rw [tables]
  | dropTable name =>
      simp only [exec, Database.emptied_hasTable]
      split
      · rfl
      · simp [Database.emptied, List.filter_map, Function.comp_def]
  | copyRows source target columns added =>
      simp only [exec, Database.emptied_hasTable]
      split
      · rfl
      · rw [Option.map_some, Option.some.injEq]
        exact db.emptied_updateTable target _ _ fun _ => by simp
  | updateRows table change =>
      simp only [exec, Database.emptied_hasTable]
      split
      · rfl
      · rw [Option.map_some, Option.some.injEq]
        exact db.emptied_updateTable table _ _ fun _ => by simp

theorem runScript_emptied (db : Database) (script : List Statement) :
    runScript db.emptied script = (runScript db script).map Database.emptied := by
  induction script generalizing db with
  | nil => rfl
  | cons statement rest ih =>
      simp only [runScript, List.foldlM_cons, exec_emptied, Option.bind_eq_bind,
        Option.bind_map, Option.map_bind]
      congr 1
      funext next
      exact ih next

/-! Rows. -/

/-- The tables whose rows a statement may change. -/
def Statement.touched : Statement → List String
  | .pragma | .createIndex _ _ | .dropIndexIfExists _ => []
  | .createTable name _ | .dropTable name => [name]
  | .addColumn table _ _ | .updateRows table _ => [table]
  | .renameTable name renamed => [name, renamed]
  | .copyRows _ target _ _ => [target]

namespace Database

theorem hasTable_eq (db : Database) (name : String) :
    db.hasTable name = (db.table name).isSome := by
  rw [table, List.isSome_find?]
  rfl

theorem updateTable_table (db : Database) {updated : String} {change : SqlTable → SqlTable}
    (sameName : ∀ table, (change table).name = table.name) (name : String) :
    (db.updateTable updated change).table name = (db.table name).map fun table =>
      if name = updated then change table else table := by
  have keeps (table : SqlTable) :
      (if table.name = updated then change table else table).name = table.name := by
    split
    · exact sameName table
    · rfl
  rw [table, updateTable, List.find?_map, table]
  simp only [Function.comp_def, keeps]
  cases isTable : db.tables.find? (·.name = name) with
  | none => rfl
  | some stored =>
      have named : stored.name = name := by simpa using List.find?_some isTable
      simp [named]

theorem updateTable_rows (db : Database) {updated : String} {change : SqlTable → SqlTable}
    (sameName : ∀ table, (change table).name = table.name) (name : String) :
    (db.updateTable updated change).rows name =
      if name = updated then ((db.table name).map fun table => (change table).rows).getD []
      else db.rows name := by
  rw [rows, updateTable_table db sameName, Option.map_map, rows]
  split <;> rfl

theorem rename_table {db : Database} {old renamed : String} (free : db.taken renamed = false)
    (name : String) :
    (db.updateTable old fun stored => { stored with name := renamed }).table name =
      if name = renamed then (db.table old).map fun stored => { stored with name := renamed }
      else if name = old then none
      else db.table name := by
  have absent : ∀ table ∈ db.tables, table.name ≠ renamed := by
    simp only [taken, hasTable, Bool.or_eq_false_iff, List.any_eq_false, decide_eq_true_eq] at free
    exact free.1
  have found (wanted : String → Bool)
      (same : ∀ table ∈ db.tables, decide ((if table.name = old then renamed else table.name) =
        name) = wanted table.name) :
      (db.updateTable old fun stored => { stored with name := renamed }).table name =
        (db.tables.find? fun table => wanted table.name).map fun table =>
          if table.name = old then { table with name := renamed } else table := by
    rw [table, updateTable, List.find?_map]
    refine congrArg _ (List.find?_congr ?_)
    intro table member
    rw [← same table member]
    simp only [Function.comp_apply]
    split <;> rfl
  have at_most (wanted : String) : (db.tables.find? fun table => table.name = wanted).map
      (fun table => if table.name = old then { table with name := renamed } else table) =
      (db.table wanted).map fun table =>
        if wanted = old then { table with name := renamed } else table := by
    rw [table]
    cases isTable : db.tables.find? (·.name = wanted) with
    | none => rfl
    | some stored =>
        have named : stored.name = wanted := by simpa using List.find?_some isTable
        simp [named]
  by_cases isNew : name = renamed
  · rw [found (· = old), if_pos isNew, at_most]
    · simp
    · intro table member
      by_cases isOld : table.name = old
      · simp [isOld, isNew]
      · simp [isOld, isNew, absent table member]
  rw [if_neg isNew]
  split
  case isTrue isOld =>
    rw [found fun _ => false, List.find?_eq_none.mpr fun _ _ => Bool.false_ne_true]
    · rfl
    · intro table member
      by_cases wasOld : table.name = old
      · simpa [wasOld] using Ne.symm isNew
      · simp [wasOld, isOld]
  case isFalse isOther =>
    rw [found (· = name), at_most]
    · simp [isOther]
    · intro table member
      by_cases wasOld : table.name = old
      · simp [wasOld, Ne.symm isNew, Ne.symm isOther]
      · simp [wasOld]

/-- A renamed table keeps its rows; the others stay. -/
theorem rename_rows {db : Database} {old renamed : String} (free : db.taken renamed = false)
    (name : String) :
    (db.updateTable old fun stored => { stored with name := renamed }).rows name =
      if name = renamed then db.rows old else if name = old then [] else db.rows name := by
  rw [rows, rename_table free]
  split
  · rw [Option.map_map]
    rfl
  · split <;> rfl

end Database

theorem rows_exec {db next : Database} {statement : Statement} {name : String}
    (done : exec db statement = some next) (untouched : name ∉ statement.touched) :
    next.rows name = db.rows name := by
  cases statement with
  | pragma =>
      obtain rfl := Option.some.inj done
      rfl
  | createTable created columns =>
      simp only [exec, Option.ite_none_left_eq_some, Option.some.injEq] at done
      obtain ⟨_, rfl⟩ := done
      have other : created ≠ name := by simpa [Statement.touched, eq_comm] using untouched
      simp [Database.rows, Database.table, List.find?_append, other]
  | createIndex index table =>
      simp only [exec, Option.ite_none_left_eq_some, Option.some.injEq] at done
      obtain ⟨_, rfl⟩ := done
      rfl
  | dropIndexIfExists index =>
      obtain rfl := Option.some.inj done
      rfl
  | addColumn table column value =>
      simp only [exec, Option.ite_none_left_eq_some, Option.some.injEq] at done
      obtain ⟨_, rfl⟩ := done
      refine (Database.updateTable_rows db ?_ name).trans (if_neg ?_)
      · exact fun _ => rfl
      · simpa [Statement.touched] using untouched
  | renameTable old renamed =>
      simp only [exec, Option.ite_none_left_eq_some, Option.some.injEq] at done
      obtain ⟨allowed, rfl⟩ := done
      have free : db.taken renamed = false := by simp_all
      simp only [Statement.touched, List.mem_cons, List.not_mem_nil, or_false, not_or] at untouched
      exact (Database.rename_rows free name).trans
        ((if_neg untouched.2).trans (if_neg untouched.1))
  | dropTable dropped =>
      simp only [exec, Option.ite_none_left_eq_some, Option.some.injEq] at done
      obtain ⟨_, rfl⟩ := done
      have other : name ≠ dropped := by simpa [Statement.touched] using untouched
      simp only [Database.rows, Database.table, List.find?_filter]
      congr 3
      funext table
      by_cases named : table.name = name <;> simp [named, other]
  | copyRows source target columns added =>
      simp only [exec, Option.ite_none_left_eq_some, Option.some.injEq] at done
      obtain ⟨_, rfl⟩ := done
      refine (Database.updateTable_rows db ?_ name).trans (if_neg ?_)
      · exact fun _ => rfl
      · simpa [Statement.touched] using untouched
  | updateRows table change =>
      simp only [exec, Option.ite_none_left_eq_some, Option.some.injEq] at done
      obtain ⟨_, rfl⟩ := done
      refine (Database.updateTable_rows db ?_ name).trans (if_neg ?_)
      · exact fun _ => rfl
      · simpa [Statement.touched] using untouched

/-- No statement of the script may change the rows of the table. -/
def Untouched (script : List Statement) (name : String) : Prop :=
  ∀ statement ∈ script, name ∉ statement.touched

instance (script : List Statement) (name : String) : Decidable (Untouched script name) :=
  inferInstanceAs (Decidable (∀ statement ∈ script, name ∉ statement.touched))

theorem runScript_cons_eq_some {db final : Database} {statement : Statement}
    {rest : List Statement} :
    runScript db (statement :: rest) = some final ↔
      ∃ next, exec db statement = some next ∧ runScript next rest = some final :=
  Option.bind_eq_some_iff

theorem runScript_append_eq_some {db final : Database} {first second : List Statement} :
    runScript db (first ++ second) = some final ↔
      ∃ next, runScript db first = some next ∧ runScript next second = some final := by
  rw [runScript_append, Option.bind_eq_some_iff]

theorem rows_runScript {db final : Database} {script : List Statement} {name : String}
    (done : runScript db script = some final) (untouched : Untouched script name) :
    final.rows name = db.rows name := by
  induction script generalizing db with
  | nil =>
      obtain rfl := Option.some.inj done
      rfl
  | cons statement rest ih =>
      obtain ⟨next, isNext, further⟩ := runScript_cons_eq_some.mp done
      obtain ⟨first, later⟩ := List.forall_mem_cons.mp untouched
      exact (ih further later).trans (rows_exec isNext first)

theorem value_copied (row : SqlRow) {columns : List String}
    {added : List (String × Option String)} {column : String} (member : column ∈ columns) :
    (row.copied columns added).value column = row.value column := by
  induction columns with
  | nil => exact absurd member List.not_mem_nil
  | cons first rest ih =>
      by_cases isFirst : column = first
      · simp [SqlRow.copied, SqlRow.value, isFirst]
      · have inRest := ih ((List.mem_cons.mp member).resolve_left isFirst)
        have notFirst : (column == first) = false := beq_false_of_ne isFirst
        simpa [SqlRow.copied, SqlRow.value, List.lookup_cons, notFirst] using inRest

theorem mem_rows_copyRows {db next : Database} {source target : String} {columns : List String}
    {added : List (String × Option String)}
    (done : exec db (.copyRows source target columns added) = some next) {row : SqlRow}
    (member : row ∈ db.rows source) : row.copied columns added ∈ next.rows target := by
  simp only [exec, Option.ite_none_left_eq_some, Bool.or_eq_true, Bool.not_eq_true', not_or,
    Bool.not_eq_false, Option.some.injEq] at done
  obtain ⟨⟨_, present⟩, rfl⟩ := done
  obtain ⟨table, isTable⟩ : ∃ table, db.table target = some table := by
    rwa [← Option.isSome_iff_exists, ← Database.hasTable_eq]
  refine (Database.updateTable_rows db ?_ target).trans (if_pos rfl) ▸ ?_
  · exact fun _ => rfl
  · rw [isTable, Option.map_some, Option.getD_some]
    exact List.mem_append_right _ (List.mem_map_of_mem member)

/-- A script that renames a table, copies its rows to a new table of the old name and leaves
them there loses no row. -/
theorem runScript_rebuild {db final : Database} (before middle after : List Statement)
    {name renamed : String} {columns : List String} {added : List (String × Option String)}
    (done : runScript db (before ++ .renameTable name renamed ::
      (middle ++ .copyRows renamed name columns added :: after)) = some final)
    (early : Untouched before name) (between : Untouched middle renamed)
    (late : Untouched after name) {row : SqlRow} (member : row ∈ db.rows name) :
    row.copied columns added ∈ final.rows name := by
  obtain ⟨first, isFirst, done⟩ := runScript_append_eq_some.mp done
  obtain ⟨second, isSecond, done⟩ := runScript_cons_eq_some.mp done
  obtain ⟨third, isThird, done⟩ := runScript_append_eq_some.mp done
  obtain ⟨fourth, isFourth, done⟩ := runScript_cons_eq_some.mp done
  rw [rows_runScript done late]
  apply mem_rows_copyRows isFourth
  rw [rows_runScript isThird between]
  simp only [exec, Option.ite_none_left_eq_some, Bool.or_eq_true, not_or, Bool.not_eq_true,
    Option.some.injEq] at isSecond
  obtain ⟨⟨_, free⟩, rfl⟩ := isSecond
  exact (Database.rename_rows free renamed).trans (if_pos rfl) ▸
    rows_runScript isFirst early ▸ member

/-! Statements that cannot run twice. -/

/-- The tables that are gone after the statement. -/
def Statement.removed : Statement → List String
  | .renameTable name _ | .dropTable name => [name]
  | _ => []

def Keeps (script : List Statement) (name : String) : Prop :=
  ∀ statement ∈ script, name ∉ statement.removed

instance (script : List Statement) (name : String) : Decidable (Keeps script name) :=
  inferInstanceAs (Decidable (∀ statement ∈ script, name ∉ statement.removed))

/-- Tables only go by name, and columns never. -/
theorem table_exec {db next : Database} {statement : Statement} {name : String}
    {stored : SqlTable} (done : exec db statement = some next)
    (kept : name ∉ statement.removed) (isStored : db.table name = some stored) :
    ∃ later, next.table name = some later ∧ stored.columns ⊆ later.columns := by
  cases statement with
  | pragma =>
      obtain rfl := Option.some.inj done
      exact ⟨stored, isStored, List.Subset.refl _⟩
  | createTable created columns =>
      simp only [exec, Option.ite_none_left_eq_some, Option.some.injEq] at done
      obtain ⟨_, rfl⟩ := done
      refine ⟨stored, ?_, List.Subset.refl _⟩
      rw [Database.table] at isStored
      simp [Database.table, List.find?_append, isStored]
  | createIndex index table =>
      simp only [exec, Option.ite_none_left_eq_some, Option.some.injEq] at done
      obtain ⟨_, rfl⟩ := done
      exact ⟨stored, isStored, List.Subset.refl _⟩
  | dropIndexIfExists index =>
      obtain rfl := Option.some.inj done
      exact ⟨stored, isStored, List.Subset.refl _⟩
  | addColumn table column value =>
      simp only [exec, Option.ite_none_left_eq_some, Option.some.injEq] at done
      obtain ⟨_, rfl⟩ := done
      refine ⟨_, (Database.updateTable_table db ?_ name).trans (congrArg _ isStored), ?_⟩
      · exact fun _ => rfl
      · dsimp only
        split
        · exact List.subset_append_left _ _
        · exact List.Subset.refl _
  | renameTable old renamed =>
      simp only [exec, Option.ite_none_left_eq_some, Bool.or_eq_true, not_or, Bool.not_eq_true,
        Option.some.injEq] at done
      obtain ⟨⟨_, free⟩, rfl⟩ := done
      have notNew : name ≠ renamed := by
        rintro rfl
        simp [Database.taken, Database.hasTable_eq, isStored] at free
      have notOld : name ≠ old := by simpa [Statement.removed] using kept
      exact ⟨stored, (Database.rename_table free name).trans
        ((if_neg notNew).trans ((if_neg notOld).trans isStored)), List.Subset.refl _⟩
  | dropTable dropped =>
      simp only [exec, Option.ite_none_left_eq_some, Option.some.injEq] at done
      obtain ⟨_, rfl⟩ := done
      have other : name ≠ dropped := by simpa [Statement.removed] using kept
      refine ⟨stored, ?_, List.Subset.refl _⟩
      rw [← isStored]
      simp only [Database.table, List.find?_filter]
      congr 1
      funext table
      by_cases named : table.name = name <;> simp [named, other]
  | copyRows source target columns added =>
      simp only [exec, Option.ite_none_left_eq_some, Option.some.injEq] at done
      obtain ⟨_, rfl⟩ := done
      refine ⟨_, (Database.updateTable_table db ?_ name).trans (congrArg _ isStored), ?_⟩
      · exact fun _ => rfl
      · dsimp only
        split <;> exact List.Subset.refl _
  | updateRows table change =>
      simp only [exec, Option.ite_none_left_eq_some, Option.some.injEq] at done
      obtain ⟨_, rfl⟩ := done
      refine ⟨_, (Database.updateTable_table db ?_ name).trans (congrArg _ isStored), ?_⟩
      · exact fun _ => rfl
      · dsimp only
        split <;> exact List.Subset.refl _

/-- The table a statement creates or extends. -/
def Statement.once : Statement → Option String
  | .createTable name _ | .addColumn name _ _ => some name
  | _ => none

theorem exec_twice {db next later : Database} {statement : Statement} {rest : List Statement}
    {name : String} (once : statement.once = some name) (done : exec db statement = some next)
    (further : runScript next rest = some later) (kept : Keeps rest name) :
    exec later statement = none := by
  -- What the statement creates is still there.
  have stays (stored : SqlTable) (isStored : next.table name = some stored) :
      ∃ kept, later.table name = some kept ∧ stored.columns ⊆ kept.columns := by
    clear done
    induction rest generalizing next stored with
    | nil =>
        obtain rfl := Option.some.inj further
        exact ⟨stored, isStored, List.Subset.refl _⟩
    | cons statement rest ih =>
        obtain ⟨after, isAfter, further⟩ := runScript_cons_eq_some.mp further
        obtain ⟨first, others⟩ := List.forall_mem_cons.mp kept
        obtain ⟨changed, isChanged, wider⟩ := table_exec isAfter first isStored
        obtain ⟨last, isLast, widest⟩ := ih further others changed isChanged
        exact ⟨last, isLast, List.Subset.trans wider widest⟩
  cases statement with
  | createTable created columns =>
      obtain rfl := Option.some.inj once
      simp only [exec, Option.ite_none_left_eq_some, Option.some.injEq] at done
      obtain ⟨_, rfl⟩ := done
      obtain ⟨stored, isStored⟩ : ∃ stored, Database.table
          { db with tables := db.tables ++ [⟨created, columns, []⟩] } created = some stored := by
        rw [← Option.isSome_iff_exists, Database.table, List.isSome_find?]
        simp
      obtain ⟨kept, isKept, _⟩ := stays stored isStored
      simp [exec, Database.taken, Database.hasTable_eq, isKept]
  | addColumn table column value =>
      obtain rfl := Option.some.inj once
      simp only [exec, Option.ite_none_left_eq_some, Bool.or_eq_true, not_or, Bool.not_eq_true',
        Bool.not_eq_false, Option.some.injEq] at done
      obtain ⟨⟨present, _⟩, rfl⟩ := done
      obtain ⟨stored, isStored⟩ : ∃ stored, db.table table = some stored := by
        rwa [← Option.isSome_iff_exists, ← Database.hasTable_eq]
      obtain ⟨kept, isKept, wider⟩ := stays { stored with
          columns := stored.columns ++ [column]
          rows := stored.rows.map (· ++ [(column, value)]) } (by
        refine (Database.updateTable_table db ?_ table).trans ?_
        · exact fun _ => rfl
        · rw [isStored, Option.map_some, if_pos rfl])
      have isColumn : column ∈ kept.columns := wider (by simp)
      simp [exec, Database.columns, isKept, isColumn]
  | _ => cases once

/-- A script that starts with such a statement cannot start again. -/
theorem runScript_twice {db stopped : Database} {statement : Statement} {rest : List Statement}
    {name : String} (once : statement.once = some name) (kept : Keeps rest name) {count : Nat}
    (started : count ≠ 0)
    (done : runScript db ((statement :: rest).take count) = some stopped) :
    runScript stopped (statement :: rest) = none := by
  obtain ⟨more, rfl⟩ := Nat.exists_eq_succ_of_ne_zero started
  rw [List.take_succ_cons] at done
  obtain ⟨next, isNext, further⟩ := runScript_cons_eq_some.mp done
  have fails := exec_twice once isNext further fun later member =>
    kept later (List.mem_of_mem_take member)
  rw [runScript, List.foldlM_cons, fails]
  rfl

/-! Statements that can. -/

theorem runScript_dropIndexes (db : Database) (names : List String) :
    runScript db (names.map .dropIndexIfExists) =
      some { db with indexes := db.indexes.filter (·.1 ∉ names) } := by
  induction names generalizing db with
  | nil => simp [runScript]
  | cons name rest ih =>
      refine (ih _).trans ?_
      rw [List.filter_filter]
      congr 2
      apply List.filter_congr
      intro index _
      simp [Bool.and_comm]

theorem dropIndexes_again {db stopped : Database} {names : List String} {count : Nat}
    (done : runScript db ((names.take count).map .dropIndexIfExists) = some stopped) :
    runScript stopped (names.map .dropIndexIfExists) =
      runScript db (names.map .dropIndexIfExists) := by
  rw [runScript_dropIndexes, Option.some.injEq] at done
  subst done
  rw [runScript_dropIndexes, runScript_dropIndexes, List.filter_filter]
  congr 2
  apply List.filter_congr
  intro index _
  simpa using fun absent dropped => absurd (List.mem_of_mem_take dropped) absent

theorem updateRows_again {db stopped : Database} {table : String}
    {change : Database → SqlRow → SqlRow}
    (again : ∀ db later row, change later (change db row) = change db row)
    (done : exec db (.updateRows table change) = some stopped) :
    exec stopped (.updateRows table change) = some stopped := by
  simp only [exec, Option.ite_none_left_eq_some, Bool.not_eq_true', Bool.not_eq_false,
    Option.some.injEq] at done
  obtain ⟨present, rfl⟩ := done
  rw [Database.hasTable_eq] at present
  have stillPresent : (db.updateTable table fun stored => { stored with
      rows := stored.rows.map (change db) }).hasTable table = true := by
    rw [Database.hasTable_eq, Database.updateTable_table, Option.isSome_map, present]
    exact fun _ => rfl
  rw [exec, stillPresent]
  simp only [Bool.not_true, Bool.false_eq_true, if_false, Option.some.injEq, Database.updateTable,
    Database.mk.injEq, List.map_map, and_true]
  apply List.map_congr_left
  intro stored _
  by_cases named : stored.name = table
  · simp [named, again]
  · simp [named]

end CamAdmiral
