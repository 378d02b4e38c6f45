import Frick.Framework.Session
import Frick.Store.Catalog

/-!
# The migration ledger

`migrations.rs`: the `frick_migrations` ledger records which framework migrations a database has
seen, and `run_framework_migrations` applies those that are not recorded. The SQL of a migration is
data that is handed to SQLite and hashed into the ledger; both enter through a `MigrationRunner`.
-/

namespace Frick.Store

open Framework Action

variable {engine : SqliteEngine}

/-- A sequence of driver calls on a database. -/
abbrev DbAction (engine : SqliteEngine) (ε α : Type) := Action StoreError ε (Database engine) α

structure AppliedMigrationRow where
  id : String
  schemaRevision : Int
  appliedAt : String
  checksum : String
  durationMs : Int
  deriving Repr, DecidableEq

def requiredText (value : Option String) (column : String) : Except StoreError String :=
  match value with
  | some text => .ok text
  | none => .error (.driver s!"{column} is not TEXT")

def requiredI64 (value : Option Int) (column : String) : Except StoreError Int :=
  match value with
  | some n => .ok n
  | none => .error (.driver s!"{column} is not INTEGER")

/-- One row of `load_applied_migrations`. -/
def readAppliedMigration (row : SqlRow) : Except StoreError AppliedMigrationRow := do
  let id ← requiredText (row.text "id") "frick_migrations.id"
  let schemaRevision ← requiredI64 (row.i64 "schema_revision") "frick_migrations.schema_revision"
  let appliedAt ← requiredText (row.text "applied_at") "frick_migrations.applied_at"
  let checksum ← requiredText (row.text "checksum") "frick_migrations.checksum"
  let durationMs ← requiredI64 (row.i64 "duration_ms") "frick_migrations.duration_ms"
  pure ⟨id, schemaRevision, appliedAt, checksum, durationMs⟩

/-- `SELECT .. ORDER BY ..`: the rows in order, rows that tie as the scan met them. -/
def orderBy (engine : SqliteEngine) (columns : List String) (rows : List SqlRow) : List SqlRow :=
  rows.insertionSort fun row other => rowLe engine columns row other = true

/-- What `load_applied_migrations` makes of the ledger. -/
def readLedger (db : Database engine) : Except StoreError (List AppliedMigrationRow) :=
  (orderBy engine ["schema_revision", "id"] (db.rows "frick_migrations")).mapM readAppliedMigration

def listAppliedMigrations : DbAction engine StoreError (List AppliedMigrationRow) := do
  exec Database.ensureLedger
  query readLedger

def ledgerIds (db : Database engine) : List String :=
  (db.rows "frick_migrations").filterMap fun row => row.text "id"

/-! ## Running migrations -/

structure FrameworkMigration where
  id : String
  schemaRevision : Int
  description : String
  sql : String
  deriving Repr

/-- The migrations of a build, their checksums, and what SQLite makes of their SQL. -/
structure MigrationRunner (engine : SqliteEngine) where
  migrations : List FrameworkMigration
  /-- `compute_migration_checksum`. -/
  checksum : FrameworkMigration → String
  execSql : String → Database engine → Except StoreError (Database engine)

/-- What `run_framework_migrations` fails with. -/
inductive MigrationError where
  | store (err : StoreError)
  | migration (message : String)
  | migrationChecksum (message : String)
  | migrationRevision (message : String)
  deriving Repr, DecidableEq

structure MigrationRunResult where
  applied : List AppliedMigrationRow := []
  alreadyApplied : List AppliedMigrationRow := []
  deriving Repr

def checksumError (migrationId recorded current : String) : MigrationError :=
  .migrationChecksum (s!"Migration {migrationId} checksum drift detected: database recorded " ++
    s!"{recorded} but current definition is {current}. Refusing to boot — restore the original " ++
    "migration or roll the database forward with a new migration.")

def revisionError (databaseRevision supportedRevision : Int) : MigrationError :=
  .migrationRevision (s!"Database schema revision {databaseRevision} is newer than the server's " ++
    s!"supported revision {supportedRevision}. Refusing to boot — upgrade the server or restore " ++
    "a compatible database.")

namespace MigrationRunner

variable (runner : MigrationRunner engine)

/-- `apply_migration`; the time it takes is an input. -/
def applyMigration (migration : FrameworkMigration) (nowMs durationMs : Int) :
    DbAction engine MigrationError AppliedMigrationRow :=
  let checksum := runner.checksum migration
  let appliedAt := isoFromEpochMs nowMs
  let wrap := fun err : StoreError => MigrationError.migration
    (s!"Failed to apply migration {migration.id} ({migration.description}): " ++ err.message)
  transaction wrap <| mapError wrap do
    call fun db => (runner.execSql migration.sql db).map fun db => ((), db)
    call fun db =>
      match db.insertInto "frick_migrations"
          [("id", .text migration.id),
            ("schema_revision", .integer (.ofInt migration.schemaRevision)),
            ("applied_at", .text appliedAt), ("checksum", .text checksum),
            ("duration_ms", .integer (.ofInt durationMs))] with
      | .ok db => .ok ((), db)
      | .error reason => .error (.driver reason)
    pure ⟨migration.id, migration.schemaRevision, appliedAt, checksum, durationMs⟩

/-- The first loop of `run_framework_migrations`. -/
def verifyChecksums (recorded : List AppliedMigrationRow) : Except MigrationError Unit :=
  runner.migrations.forM fun migration =>
    match recorded.find? fun row => row.id = migration.id with
    | none => .ok ()
    | some row =>
      if row.checksum ≠ runner.checksum migration then
        .error (checksumError migration.id row.checksum (runner.checksum migration))
      else .ok ()

/-- The second loop of `run_framework_migrations`. -/
def applyPending (recorded : List AppliedMigrationRow)
    (supportedSchemaRevision nowMs durationMs : Int) :
    List FrameworkMigration → DbAction engine MigrationError MigrationRunResult
  | [] => pure {}
  | migration :: rest =>
    match recorded.find? fun row => row.id = migration.id with
    | some row => do
      let result ← applyPending recorded supportedSchemaRevision nowMs durationMs rest
      pure { result with alreadyApplied := row :: result.alreadyApplied }
    | none =>
      if supportedSchemaRevision < migration.schemaRevision then
        ofExcept (.error (revisionError migration.schemaRevision supportedSchemaRevision))
      else do
        let row ← runner.applyMigration migration nowMs durationMs
        let result ← applyPending recorded supportedSchemaRevision nowMs durationMs rest
        pure { result with applied := row :: result.applied }

def runFrameworkMigrations (supportedSchemaRevision nowMs durationMs : Int) :
    DbAction engine MigrationError MigrationRunResult := do
  let recorded ← mapError .store listAppliedMigrations
  ofExcept (runner.verifyChecksums recorded)
  let maxAppliedRevision := recorded.foldl (fun acc row => max acc row.schemaRevision) 0
  if supportedSchemaRevision < maxAppliedRevision then
    ofExcept (.error (revisionError maxAppliedRevision supportedSchemaRevision))
  else runner.applyPending recorded supportedSchemaRevision nowMs durationMs runner.migrations

end MigrationRunner

/-! ## What the ledger decides -/

lemma mem_orderBy {cols : List String} {rows : List SqlRow} {row : SqlRow} :
    row ∈ orderBy engine cols rows ↔ row ∈ rows :=
  List.mem_insertionSort _

variable {recorded : List AppliedMigrationRow}

lemma mem_ledgerIds_of_readLedger {db : Database engine} (h : readLedger db = .ok recorded)
    (id : String) : id ∈ ledgerIds db ↔ id ∈ recorded.map AppliedMigrationRow.id := by
  have hread : ∀ row mig, readAppliedMigration row = .ok mig → row.text "id" = some mig.id := by
    intro row mig hrow
    obtain ⟨text, htext, hrow⟩ := bind_eq_ok.mp hrow
    obtain ⟨_, _, hrow⟩ := bind_eq_ok.mp hrow
    obtain ⟨_, _, hrow⟩ := bind_eq_ok.mp hrow
    obtain ⟨_, _, hrow⟩ := bind_eq_ok.mp hrow
    obtain ⟨_, _, hrow⟩ := bind_eq_ok.mp hrow
    obtain rfl := Except.ok.inj hrow
    unfold requiredText at htext
    split at htext
    next found hfound => rw [hfound, Except.ok.inj htext]
    next => cases htext
  simp only [ledgerIds, List.mem_filterMap, List.mem_map]
  constructor
  · rintro ⟨row, hrow, hid⟩
    obtain ⟨mig, hmem, hmig⟩ := mem_of_mapM_eq_ok h (mem_orderBy.mpr hrow)
    refine ⟨mig, hmem, ?_⟩
    rw [hread row mig hmig] at hid
    exact Option.some.inj hid
  · rintro ⟨mig, hmem, rfl⟩
    obtain ⟨row, hrow, hmig⟩ := exists_of_mem_mapM h hmem
    exact ⟨row, mem_orderBy.mp hrow, hread row mig hmig⟩

lemma readLedger_ensureLedger (db : Database engine) :
    readLedger db.ensureLedger = readLedger db := by
  unfold readLedger
  rw [Database.rows_ensureLedger]

lemma listAppliedMigrations_eq_ok {faults : Faults StoreError} {s s' : Session (Database engine)}
    (h : listAppliedMigrations faults s = (.ok recorded, s')) :
    readLedger s.db = .ok recorded ∧ s'.db = s.db.ensureLedger := by
  obtain ⟨_, t, hensure, h⟩ := bind_run_eq_ok h
  obtain ⟨hread, hdb⟩ := query_eq_ok h
  have hmade := exec_eq_ok hensure
  rw [hmade] at hread hdb
  rw [readLedger_ensureLedger] at hread
  exact ⟨hread, hdb⟩

lemma listAppliedMigrations_quiet {db : Database engine} {applied : List AppliedMigrationRow}
    (h : readLedger db = .ok applied) (calls : Nat) :
    listAppliedMigrations quiet ⟨db, calls⟩ = (.ok applied, ⟨db.ensureLedger, calls + 2⟩) := by
  rw [← readLedger_ensureLedger] at h
  exact query_quiet h

namespace MigrationRunner

variable {runner : MigrationRunner engine}

variable {durationMs nowMs supportedSchemaRevision : Int} {faults : Faults StoreError}
  {s s' : Session (Database engine)} {result : MigrationRunResult}

lemma id_of_applyMigration {mig : FrameworkMigration} {row : AppliedMigrationRow}
    (h : runner.applyMigration mig nowMs durationMs faults s = (.ok row, s')) :
    row.id = mig.id := by
  obtain ⟨t, hbody, _⟩ := transaction_eq_ok h
  have hbody := mapError_run_eq_ok.mp hbody
  obtain ⟨_, _, _, hbody⟩ := bind_run_eq_ok hbody
  obtain ⟨_, _, _, hbody⟩ := bind_run_eq_ok hbody
  cases hbody
  rfl

lemma applyPending_not_recorded {recorded : List AppliedMigrationRow}
    {migrations : List FrameworkMigration}
    (h : runner.applyPending recorded supportedSchemaRevision nowMs durationMs migrations faults s =
      (.ok result, s')) : ∀ row ∈ result.applied, row.id ∉ recorded.map AppliedMigrationRow.id := by
  induction migrations generalizing s result with
  | nil =>
    cases h
    simp
  | cons mig _ ih =>
    rw [applyPending] at h
    cases hfind : recorded.find? fun row => row.id = mig.id with
    | some _ =>
      rw [hfind] at h
      obtain ⟨tail, t, htail, h⟩ := bind_run_eq_ok h
      cases h
      intro row hrow
      exact ih htail row hrow
    | none =>
      rw [hfind] at h
      by_cases hrevn : supportedSchemaRevision < mig.schemaRevision
      · rw [if_pos hrevn] at h
        cases h
      rw [if_neg hrevn] at h
      obtain ⟨row, t, hrow, h⟩ := bind_run_eq_ok h
      obtain ⟨tail, t', htail, h⟩ := bind_run_eq_ok h
      cases h
      refine List.forall_mem_cons.mpr ⟨?_, ih htail⟩
      rw [id_of_applyMigration hrow, List.mem_map]
      rintro ⟨other, hother, hid⟩
      have := List.find?_eq_none.mp hfind other hother
      simp [hid] at this

/-- **Only what is not recorded is applied.** -/
theorem newly_applied_not_recorded
    (h : runner.runFrameworkMigrations supportedSchemaRevision nowMs durationMs faults s =
      (.ok result, s')) : ∀ row ∈ result.applied, row.id ∉ ledgerIds s.db := by
  obtain ⟨recorded, t, hlist, h⟩ := bind_run_eq_ok h
  obtain ⟨_, t', _, h⟩ := bind_run_eq_ok h
  by_cases hrevn : supportedSchemaRevision <
      recorded.foldl (fun acc row => max acc row.schemaRevision) 0
  · rw [if_pos hrevn] at h
    cases h
  rw [if_neg hrevn] at h
  have hledg := (listAppliedMigrations_eq_ok (mapError_run_eq_ok.mp hlist)).1
  intro row hrow hid
  exact applyPending_not_recorded h row hrow ((mem_ledgerIds_of_readLedger hledg row.id).mp hid)

end MigrationRunner

end Frick.Store
