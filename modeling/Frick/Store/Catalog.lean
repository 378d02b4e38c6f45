import Frick.Store.Sqlite

/-!
# The framework's tables

The tables that a backup covers, as `conformance/fixtures/migrations/sqlite.json` leaves them after
its last migration, and the ledger that `migrations.rs` creates. Only what an `INSERT` depends on is
kept: columns with type, `NOT NULL` and `DEFAULT`, primary keys and unique indexes. Foreign keys are
off (`PRAGMA foreign_keys = OFF`), and the triggers of `search_indexes` only maintain its full-text
shadow table.
-/

namespace Frick.Store

open Function

/-! ## Columns and keys -/

def Column.required (name : String) (type : ColumnType) : Column := ⟨name, type, true, none⟩

def Column.nullable (name : String) (type : ColumnType) : Column := ⟨name, type, false, none⟩

def Column.defaulted (name : String) (type : ColumnType) (value : SqlValue) : Column :=
  ⟨name, type, true, some value⟩

/-- `tenant_id TEXT NOT NULL DEFAULT '_default'`. -/
def tenantColumn : Column := .defaulted "tenant_id" .text (.text "_default")

def appColumn : Column := .defaulted "app_id" .text (.text "_default")

def UniqueIndex.over (columns : List String) : UniqueIndex :=
  ⟨columns.map fun name => { name := name }, .always⟩

/-! ## The ledger -/

/-- `ensure_migrations_table`. -/
def frickMigrationsTable : TableSchema where
  name := "frick_migrations"
  columns := [.nullable "id" .text, .required "schema_revision" .integer,
    .required "applied_at" .text, .required "checksum" .text, .required "duration_ms" .integer]
  unique := [.over ["id"]]

/-! ## Tenants, accounts and sessions -/

def tenantsTable : TableSchema where
  name := "tenants"
  columns := [.required "tenant_id" .text, .nullable "display_name" .text,
    .required "created_at" .text, .nullable "archived_at" .text]
  unique := [.over ["tenant_id"]]

def authAccountsTable : TableSchema where
  name := "auth_accounts"
  columns := [.nullable "user_id" .text, .required "handle" .text, .required "display_name" .text,
    .required "password_salt" .text, .required "password_hash" .text,
    .required "created_at" .text, tenantColumn, appColumn]
  unique := [.over ["user_id"],
    ⟨[{ name := "tenant_id" }, { name := "handle", nocase := true }], .always⟩]

def authSessionsTable : TableSchema where
  name := "auth_sessions"
  columns := [.nullable "session_token_digest" .text, tenantColumn, .required "user_id" .text,
    .required "device_id" .text, .required "replica_id" .text, .required "expires_at" .text,
    .required "created_at" .text, .required "last_seen_at" .text, appColumn]
  unique := [.over ["session_token_digest"]]

def authRegistrationLocksTable : TableSchema where
  name := "auth_registration_locks"
  columns := [tenantColumn, .required "user_id" .text, .required "verifier_hash" .text,
    .required "salt" .text, .defaulted "enabled" .integer (.integer 1),
    .defaulted "failed_attempts" .integer (.integer 0),
    .defaulted "locked_until_ms" .integer (.integer 0),
    .defaulted "last_activity_ms" .integer (.integer 0), .required "created_at" .text,
    .required "updated_at" .text]
  unique := [.over ["tenant_id", "user_id"]]

def sealedSenderAccessTable : TableSchema where
  name := "sealed_sender_access"
  columns := [tenantColumn, .required "user_id" .text, .required "token_hash" .text,
    .defaulted "revoked" .integer (.integer 0), .required "created_at" .text,
    .required "updated_at" .text]
  unique := [.over ["tenant_id", "user_id"]]

def tenantSettingsTable : TableSchema where
  name := "tenant_settings"
  columns := [.required "tenant_id" .text, .required "setting_key" .text,
    .required "setting_value" .text, .required "updated_at" .text]
  unique := [.over ["tenant_id", "setting_key"]]

def pushDeviceRegistrationsTable : TableSchema where
  name := "push_device_registrations"
  columns := [.required "registration_id" .text, tenantColumn, .required "user_id" .text,
    .required "device_id" .text, .required "platform" .text, .required "token" .text,
    .defaulted "environment" .text (.text "production"), .required "created_at" .text,
    .required "last_seen_at" .text, .nullable "revoked_at" .text]
  unique := [.over ["registration_id"],
    ⟨[{ name := "tenant_id" }, { name := "user_id" }, { name := "device_id" },
      { name := "platform" }], .isNull "revoked_at"⟩]

/-! ## Objects, streams, presence, signals and jobs -/

def objectsTable : TableSchema where
  name := "objects"
  columns := [tenantColumn, .required "object_type" .text, .required "object_id" .text,
    .required "version" .integer, .required "packed" .blob, .required "updated_at" .text, appColumn]
  unique := [.over ["tenant_id", "object_type", "object_id"]]

def streamEventsTable : TableSchema where
  name := "stream_events"
  columns := [tenantColumn, .required "stream_type" .text, .required "stream_id" .text,
    .required "sequence" .integer, .required "event_id" .text, .required "event_type" .text,
    .required "packed" .blob, .nullable "replica_id" .text, .nullable "request_id" .text,
    .required "created_at" .text, appColumn]
  unique := [.over ["tenant_id", "stream_type", "stream_id", "sequence"],
    .over ["tenant_id", "event_id"]]

def presenceLeasesTable : TableSchema where
  name := "presence_leases"
  columns := [appColumn, tenantColumn, .required "presence_type" .text,
    .required "presence_key" .text, .required "packed" .blob, .required "expires_at" .integer]
  unique := [.over ["app_id", "tenant_id", "presence_type", "presence_key"]]

def signalOutboxTable : TableSchema where
  name := "signal_outbox"
  columns := [.nullable "id" .integer, .required "signal_type" .text, .required "signal_key" .text,
    .required "packed" .blob, .required "expires_at" .integer, tenantColumn, appColumn]
  unique := [.over ["id"]]
  autoId := true

def idempotencyKeysTable : TableSchema where
  name := "idempotency_keys"
  columns := [appColumn, tenantColumn, .required "replica_id" .text, .required "request_id" .text,
    .required "result_event_id" .text, .required "created_at" .text]
  unique := [.over ["app_id", "tenant_id", "replica_id", "request_id"]]

def jobsTable : TableSchema where
  name := "jobs"
  columns := [.nullable "id" .integer, .required "job_type" .text, .required "packed" .blob,
    .required "status" .text, .required "created_at" .text, tenantColumn,
    .defaulted "available_at" .text (.text "1970-01-01T00:00:00.000Z"),
    .defaulted "max_attempts" .integer (.integer 5),
    .defaulted "attempt_count" .integer (.integer 0), .nullable "claimed_at" .text,
    .nullable "claimed_by" .text, .nullable "completed_at" .text, .nullable "failed_at" .text,
    .nullable "dead_lettered_at" .text, .nullable "idempotency_key" .text,
    .nullable "last_error_code" .text, .nullable "last_error_message" .text, appColumn]
  unique := [.over ["id"],
    ⟨[{ name := "app_id" }, { name := "tenant_id" }, { name := "job_type" },
      { name := "idempotency_key" }], .isNotNull "idempotency_key"⟩]
  autoId := true

def searchIndexesTable : TableSchema where
  name := "search_indexes"
  columns := [.required "index_name" .text, tenantColumn, .required "doc_id" .text,
    .required "text" .text, .required "fields" .text]
  unique := [.over ["tenant_id", "index_name", "doc_id"]]

/-! ## Blobs -/

def blobMetadataTable : TableSchema where
  name := "blob_metadata"
  columns := [.nullable "blob_id" .text, .required "owner_id" .text,
    .required "content_hash" .text, .required "byte_length" .integer, .required "mime_type" .text,
    .nullable "storage_key" .text, .required "created_at" .text, tenantColumn, appColumn]
  unique := [.over ["blob_id"]]

def blobContentTable : TableSchema where
  name := "blob_content"
  columns := [.nullable "blob_id" .text, .required "content" .blob, .required "updated_at" .text,
    tenantColumn, appColumn]
  unique := [.over ["blob_id"]]

def blobDerivativesTable : TableSchema where
  name := "blob_derivatives"
  columns := [.required "parent_blob_id" .text, .required "derivative_id" .text, tenantColumn,
    .required "processor_id" .text, .required "mime_type" .text, .required "byte_length" .integer,
    .required "content_hash" .text, .required "storage_key" .text, .nullable "content" .blob,
    .nullable "metadata" .text, .required "created_at" .text]
  unique := [.over ["tenant_id", "parent_blob_id", "derivative_id"]]

/-! ## Platform events, analytics and the audit log -/

def platformEventsTable : TableSchema where
  name := "platform_events"
  columns := [.nullable "id" .integer, .required "event_id" .text,
    .required "schema_version" .integer, .required "accepted_at" .text,
    .required "occurred_at" .text, .required "family" .text, .required "name" .text,
    .required "source" .text, .nullable "tenant_id" .text, .nullable "account_id" .text,
    .nullable "subject_id" .text, .nullable "trace_id" .text, .nullable "idempotency_key" .text,
    .required "payload" .text, .required "attributes" .text]
  unique := [.over ["id"], .over ["event_id"],
    ⟨[{ name := "tenant_id", ifnull := true }, { name := "idempotency_key" }],
      .isNotNull "idempotency_key"⟩]
  autoId := true

def platformEventDeliveriesTable : TableSchema where
  name := "platform_event_deliveries"
  columns := [.required "consumer" .text, .required "event_id" .text, .required "status" .text,
    .defaulted "attempt_count" .integer (.integer 0), .required "available_at" .text,
    .nullable "claimed_at" .text, .nullable "acked_at" .text, .nullable "dead_lettered_at" .text,
    .nullable "last_error" .text]
  unique := [.over ["consumer", "event_id"]]

def analyticsAggregateBucketsTable : TableSchema where
  name := "analytics_aggregate_buckets"
  columns := [.required "bucket_start" .text, .required "bucket_ms" .integer,
    .required "tenant_id" .text, .required "metric_kind" .text, .required "metric_key" .text,
    .required "count" .integer]
  unique := [.over ["bucket_start", "bucket_ms", "tenant_id", "metric_kind", "metric_key"]]

def analyticsRecentEventsTable : TableSchema where
  name := "analytics_recent_events"
  columns := [.nullable "event_id" .text, .required "occurred_at" .text,
    .required "accepted_at" .text, .required "processed_at" .text, .nullable "tenant_id" .text,
    .nullable "account_id" .text, .nullable "subject_id" .text, .nullable "trace_id" .text,
    .required "name" .text, .required "properties" .text, .required "context" .text]
  unique := [.over ["event_id"]]

def adminAuditLogTable : TableSchema where
  name := "admin_audit_log"
  columns := [.nullable "id" .integer, .required "occurred_at" .text,
    .required "admin_token_fingerprint" .text, .required "action" .text, .nullable "target" .text,
    .required "outcome" .text, .nullable "detail" .text, .nullable "previous_hash" .text,
    .nullable "entry_hash" .text]
  unique := [.over ["id"]]
  autoId := true

def frameworkTables : List TableSchema :=
  [tenantsTable, authAccountsTable, authSessionsTable, objectsTable, streamEventsTable,
    presenceLeasesTable, signalOutboxTable, blobMetadataTable, blobContentTable,
    blobDerivativesTable, searchIndexesTable, idempotencyKeysTable, tenantSettingsTable, jobsTable,
    pushDeviceRegistrationsTable, platformEventsTable, platformEventDeliveriesTable,
    analyticsAggregateBucketsTable, analyticsRecentEventsTable, authRegistrationLocksTable,
    sealedSenderAccessTable, adminAuditLogTable, frickMigrationsTable]

/-! ## Databases -/

/-- A database: tables by name. -/
structure Database (engine : SqliteEngine) where
  tables : String → Option (SqlTable engine)
  ledger : ∀ t, tables "frick_migrations" = some t → t.schema = frickMigrationsTable

namespace Database

variable {engine : SqliteEngine}

/-- The rows of a table, none if there is no such table. -/
def rows (db : Database engine) (name : String) : List SqlRow :=
  match db.tables name with
  | some t => t.rows
  | none => []

/-- Replace a table that is there by one of the same schema. -/
def setTable (db : Database engine) (name : String) (t t' : SqlTable engine)
    (ht : db.tables name = some t) (hschema : t'.schema = t.schema) : Database engine where
  tables := update db.tables name (some t')
  ledger := by
    intro u hu
    by_cases hname : name = "frick_migrations"
    · subst hname
      rw [update_self] at hu
      obtain rfl := Option.some.inj hu
      exact hschema.trans (db.ledger t ht)
    · rw [update_of_ne (Ne.symm hname)] at hu
      exact db.ledger u hu

/-- `DELETE FROM name WHERE ..`; nothing happens to a table that is not there. -/
def deleteWhere (db : Database engine) (name : String) (p : SqlRow → Bool) : Database engine :=
  match h : db.tables name with
  | none => db
  | some t => db.setTable name t (t.deleteWhere p) h rfl

def insertInto (db : Database engine) (name : String) (given : SqlRow) :
    Except String (Database engine) :=
  match h : db.tables name with
  | none => .error s!"no such table: {name}"
  | some t =>
    match hinsert : t.insert given with
    | .error reason => .error reason
    | .ok t' => .ok (db.setTable name t t' h (SqlTable.insert_eq_ok hinsert).choose_spec.2.1)

/-- `CREATE TABLE IF NOT EXISTS frick_migrations`. -/
def ensureLedger (db : Database engine) : Database engine where
  tables := update db.tables "frick_migrations"
    (some ((db.tables "frick_migrations").getD (SqlTable.empty engine frickMigrationsTable)))
  ledger := by
    intro t ht
    rw [update_self] at ht
    obtain rfl := Option.some.inj ht
    cases h : db.tables "frick_migrations" with
    | none => rfl
    | some t => exact db.ledger t h

/-! ### What the statements do to the rows -/

variable {db db' : Database engine} {name other : String}

variable {t : SqlTable engine} {given : SqlRow}

lemma rows_of_tables (h : db.tables name = some t) : db.rows name = t.rows := by
  rw [rows, h]

lemma rows_update_self {tables : String → Option (SqlTable engine)}
    (h : db.tables = update tables name (some t)) : db.rows name = t.rows :=
  rows_of_tables (by rw [h, update_self])

lemma rows_update_of_ne (h : db'.tables = update db.tables name (some t))
    (hother : other ≠ name) : db'.rows other = db.rows other := by
  rw [rows, rows, h, update_of_ne hother]

lemma tables_deleteWhere (db : Database engine) (name other : String) (p : SqlRow → Bool) :
    (db.deleteWhere name p).tables other =
      if other = name then (db.tables name).map fun t => t.deleteWhere p else db.tables other := by
  unfold deleteWhere
  split
  next h =>
    split_ifs with hname
    · rw [hname, h]
      rfl
    · rfl
  next t h =>
    have hmap : (db.tables name).map (fun t => t.deleteWhere p) = some (t.deleteWhere p) := by
      rw [h]
      rfl
    split_ifs with hname
    · rw [hname, hmap]
      exact update_self name _ db.tables
    · exact update_of_ne hname _ db.tables

lemma rows_deleteWhere (db : Database engine) (name other : String) (p : SqlRow → Bool) :
    (db.deleteWhere name p).rows other =
      if other = name then (db.rows name).filter fun row => !p row else db.rows other := by
  unfold rows
  rw [tables_deleteWhere]
  split_ifs with hname
  · cases db.tables name <;> rfl
  · rfl

lemma insertInto_eq_ok (h : db.insertInto name given = .ok db') :
    ∃ t t' row, db.tables name = some t ∧ t.newRow given = .ok row ∧ t'.schema = t.schema ∧
      t'.rows = t.rows ++ [row] ∧ db'.tables = update db.tables name (some t') := by
  unfold insertInto at h
  split at h
  · cases h
  next t ht =>
    split at h
    · cases h
    next t' hins =>
      obtain rfl := Except.ok.inj h
      obtain ⟨row, hrow, hsch, hrows⟩ := SqlTable.insert_eq_ok hins
      exact ⟨t, t', row, ht, hrow, hsch, hrows, rfl⟩

lemma exists_insertInto {row : SqlRow} (ht : db.tables name = some t)
    (h : t.newRow given = .ok row) :
    ∃ db' t', db.insertInto name given = .ok db' ∧ t'.schema = t.schema ∧
      t'.rows = t.rows ++ [row] ∧ db'.tables = update db.tables name (some t') := by
  unfold insertInto
  split
  next hnone =>
    rw [ht] at hnone
    cases hnone
  next u hu =>
    rw [ht] at hu
    obtain rfl := Option.some.inj hu
    obtain ⟨t', hins, hsch, hrows⟩ := SqlTable.exists_insert h
    split
    next reason herror =>
      rw [hins] at herror
      cases herror
    next t'' hok =>
      rw [hins] at hok
      obtain rfl := Except.ok.inj hok
      exact ⟨_, t', rfl, hsch, hrows, rfl⟩

lemma rows_ensureLedger (db : Database engine) (name : String) :
    db.ensureLedger.rows name = db.rows name := by
  unfold rows ensureLedger
  by_cases hname : name = "frick_migrations"
  · subst hname
    simp only [update_self]
    cases db.tables "frick_migrations" <;> rfl
  · simp only [update_of_ne hname]

end Database

end Frick.Store
