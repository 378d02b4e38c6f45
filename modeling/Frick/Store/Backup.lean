import Frick.Framework.Dict
import Frick.Store.Migrations

/-!
# Backup and restore

`backup.rs`: a dump is a header line and one line for each row, column by column as SQLite stores
it; a restore checks the header, empties the scope it is about to fill (`overwrite`) or insists that
it is empty, and then inserts row after row in one transaction, each row behind a savepoint.

**Lines.** `serde_json` and `base64` are third-party code. They enter as a `DumpFormat` over an
arbitrary type `L` of lines. A printed value reads back as itself up to its floating-point numbers:
a number reads back as `reread` says, which is all that is known of the accuracy of the number
parser, and a number that was read back once does not change any more.

**Refusals.** A refusal inside the transaction leaves it in the source as an error with the typed
reason set aside in a slot, from which the caller takes it; here the transaction fails with the
reason itself.
-/

namespace Frick.Store

open Framework Protocol Action

/-! ## JSON -/

/-- `serde_json::Value`; numbers are integers or doubles, the latter as bit patterns. -/
inductive Json where
  | null
  | bool (b : Bool)
  | int (n : Int)
  | float (bits : UInt64)
  | string (s : String)
  | array (items : List Json)
  | object (entries : List (String × Json))

namespace Json

mutual

def mapFloats (f : UInt64 → UInt64) : Json → Json
  | null => null
  | bool b => bool b
  | int n => int n
  | float bits => float (f bits)
  | string s => string s
  | array items => array (mapFloatsItems f items)
  | object entries => object (mapFloatsEntries f entries)

/-- Replace every double of an array. -/
def mapFloatsItems (f : UInt64 → UInt64) : List Json → List Json
  | [] => []
  | item :: rest => mapFloats f item :: mapFloatsItems f rest

/-- Replace every double of an object. -/
def mapFloatsEntries (f : UInt64 → UInt64) : List (String × Json) → List (String × Json)
  | [] => []
  | (key, value) :: rest => (key, mapFloats f value) :: mapFloatsEntries f rest

end

mutual

/-- The keys of every object are distinct, as those of a map are. -/
def DistinctKeys : Json → Prop
  | array items => DistinctKeysItems items
  | object entries => (entries.map Prod.fst).Nodup ∧ DistinctKeysEntries entries
  | null | bool _ | int _ | float _ | string _ => True

def DistinctKeysItems : List Json → Prop
  | [] => True
  | item :: rest => DistinctKeys item ∧ DistinctKeysItems rest

def DistinctKeysEntries : List (String × Json) → Prop
  | [] => True
  | (_, value) :: rest => DistinctKeys value ∧ DistinctKeysEntries rest

end

def asStr : Json → Option String
  | string s => some s
  | _ => none

def asArray : Json → Option (List Json)
  | array items => some items
  | _ => none

def asObject : Json → Option (List (String × Json))
  | object entries => some entries
  | _ => none

/-- `Map::get`. -/
def lookup (entries : List (String × Json)) (key : String) : Option Json :=
  (entries.find? fun entry => entry.1 = key).map Prod.snd

def get? (value : Json) (key : String) : Option Json :=
  value.asObject.bind fun entries => lookup entries key

def insert (entries : List (String × Json)) (key : String) (value : Json) : List (String × Json) :=
  if key ∈ entries.map Prod.fst then
    entries.map fun entry => if entry.1 = key then (key, value) else entry
  else entries ++ [(key, value)]

end Json

/-- `f64::is_finite`, on the bit pattern. -/
def isFinite (bits : UInt64) : Bool := (bits >>> 52) &&& 0x7ff ≠ 0x7ff

/-- The text of a dump: `serde_json`, `base64` and what counts as an empty line. An object is a map,
and only for maps is printing undone by parsing; its entries are listed in the order of insertion.
-/
structure DumpFormat (L : Type) where
  print : Json → L
  parse : L → Option Json
  isEmpty : L → Bool
  /-- The text of a nested value that ends up in a column. -/
  toText : Json → String
  /-- `Number::as_f64` of an integer. -/
  asF64 : Int → UInt64
  /-- What a printed double reads back as. -/
  reread : UInt64 → UInt64
  encodeBase64 : Bytes → String
  decodeBase64 : String → Except String Bytes
  parse_print : ∀ value, value.DistinctKeys → parse (print value) = some (value.mapFloats reread)
  isEmpty_print : ∀ value, isEmpty (print value) = false
  reread_reread : ∀ bits, reread (reread bits) = reread bits
  isFinite_reread : ∀ bits, isFinite bits = true → isFinite (reread bits) = true
  decode_encode : ∀ bytes, decodeBase64 (encodeBase64 bytes) = .ok bytes

lemma byte_of_char (b : UInt8) : UInt8.ofNat (Char.ofNat b.toNat).toNat = b := by
  have hchar : ∀ n < 256, (Char.ofNat n).toNat = n := by decide +kernel
  rw [hchar b.toNat b.toNat_lt, UInt8.ofNat_toNat]

/-- A format whose lines are the values themselves, for evaluating the model on concrete inputs. -/
def DumpFormat.plain : DumpFormat (Option Json) where
  print := some
  parse line := line.map (Json.mapFloats id)
  isEmpty _ := false
  toText _ := ""
  asF64 _ := 0
  reread := id
  encodeBase64 bytes := String.ofList (bytes.map fun b => Char.ofNat b.toNat)
  decodeBase64 text := .ok (text.toList.map fun c => UInt8.ofNat c.toNat)
  parse_print _ _ := rfl
  isEmpty_print _ := rfl
  reread_reread _ := rfl
  isFinite_reread _ h := h
  decode_encode bytes := by
    simp [Function.comp_def, byte_of_char]

/-! ## Tables -/

structure TableSpec where
  name : String
  tenantScoped : Bool
  infraOnly : Bool
  orderBy : List String
  deriving Repr, DecidableEq

def tableOrder : List TableSpec :=
  [⟨"tenants", false, true, ["tenant_id"]⟩,
    ⟨"auth_accounts", true, false, ["tenant_id", "user_id"]⟩,
    ⟨"auth_sessions", true, false, ["tenant_id", "session_token_digest"]⟩,
    ⟨"objects", true, false, ["tenant_id", "object_type", "object_id"]⟩,
    ⟨"stream_events", true, false, ["tenant_id", "stream_type", "stream_id", "sequence"]⟩,
    ⟨"presence_leases", true, false, ["tenant_id", "presence_type", "presence_key"]⟩,
    ⟨"signal_outbox", true, false, ["id"]⟩,
    ⟨"blob_metadata", true, false, ["tenant_id", "blob_id"]⟩,
    ⟨"blob_content", true, false, ["tenant_id", "blob_id"]⟩,
    ⟨"blob_derivatives", true, false, ["tenant_id", "parent_blob_id", "derivative_id"]⟩,
    ⟨"search_indexes", true, false, ["tenant_id", "index_name", "doc_id"]⟩,
    ⟨"idempotency_keys", true, false, ["tenant_id", "replica_id", "request_id"]⟩,
    ⟨"tenant_settings", true, false, ["tenant_id", "setting_key"]⟩,
    ⟨"jobs", true, false, ["id"]⟩,
    ⟨"push_device_registrations", true, false, ["tenant_id", "registration_id"]⟩,
    ⟨"platform_events", true, false, ["tenant_id", "id"]⟩,
    ⟨"platform_event_deliveries", false, false, ["consumer", "event_id"]⟩,
    ⟨"analytics_aggregate_buckets", true, false,
      ["tenant_id", "bucket_start", "metric_kind", "metric_key"]⟩,
    ⟨"analytics_recent_events", true, false, ["tenant_id", "occurred_at", "event_id"]⟩,
    ⟨"auth_registration_locks", true, false, ["tenant_id", "user_id"]⟩,
    ⟨"sealed_sender_access", true, false, ["tenant_id", "user_id"]⟩,
    ⟨"admin_audit_log", false, true, ["id"]⟩,
    ⟨"frick_migrations", false, true, ["id"]⟩]

def tenantScopedTables : List String :=
  ["auth_accounts", "auth_sessions", "objects", "stream_events", "presence_leases",
    "signal_outbox", "blob_metadata", "blob_content", "blob_derivatives", "search_indexes",
    "idempotency_keys", "tenant_settings", "jobs", "push_device_registrations", "platform_events",
    "analytics_aggregate_buckets", "analytics_recent_events", "auth_registration_locks",
    "sealed_sender_access"]

def eventChildTables : List String := ["platform_event_deliveries"]

def infraTables : List String := ["tenants", "admin_audit_log", "frick_migrations"]

def truncateAllTables : List String := eventChildTables ++ tenantScopedTables ++ infraTables

def allTables : List String := tenantScopedTables ++ eventChildTables ++ infraTables

def tenantIdConstrained (table : String) : Bool := table = "tenants" ∨ table ∈ tenantScopedTables

section Queries

variable {engine : SqliteEngine}

/-- `tenant_id = ?`. -/
def ofTenant (tenantId : String) (row : SqlRow) : Bool := row.value "tenant_id" = .text tenantId

/-- `a = b` in SQL, where `NULL` equals nothing. -/
def sqlEq (a b : SqlValue) : Bool := a ≠ .null ∧ a = b

/-- `platform_event_deliveries d JOIN platform_events e ON e.event_id = d.event_id
WHERE e.tenant_id = ?`. -/
def joinDeliveries (db : Database engine) (tenantId : String) : List (SqlRow × SqlRow) :=
  (db.rows "platform_event_deliveries").flatMap fun delivery =>
    ((db.rows "platform_events").filter fun event =>
      sqlEq (event.value "event_id") (delivery.value "event_id") && ofTenant tenantId event).map
        fun event => (delivery, event)

/-- `d.consumer`, `e.id`. -/
def joinKey (pair : SqlRow × SqlRow) : SqlRow :=
  [("consumer", pair.1.value "consumer"), ("id", pair.2.value "id")]

/-- The deliveries of one tenant's events, `ORDER BY d.consumer ASC, e.id ASC`. -/
def tenantDeliveries (db : Database engine) (tenantId : String) : List SqlRow :=
  ((joinDeliveries db tenantId).insertionSort fun pair other =>
    rowLe engine ["consumer", "id"] (joinKey pair) (joinKey other) = true).map Prod.fst

/-- `build_select`, run. -/
def selectTable (spec : TableSpec) (wholeDb : Bool) (tenantId : String) (db : Database engine) :
    List SqlRow :=
  let ofScope := orderBy engine spec.orderBy ((db.rows spec.name).filter (ofTenant tenantId))
  if spec.name = "tenants" ∧ wholeDb = false then ofScope
  else if spec.name = "platform_event_deliveries" ∧ wholeDb = false then
    tenantDeliveries db tenantId
  else if spec.tenantScoped ∧ wholeDb = false then ofScope
  else orderBy engine spec.orderBy (db.rows spec.name)

def tableExists (name : String) : DbAction engine StoreError Bool :=
  query fun db => .ok (db.tables name).isSome

end Queries

/-! ## Dump -/

structure DumpOptions where
  tenantId : Option String := none
  includeAdminAudit : Option Bool := none
  includeMigrations : Option Bool := none
  deriving Repr

namespace DumpOptions

variable (options : DumpOptions)

def scope : String := options.tenantId.getD "all"

def wholeDb : Bool := options.scope = "all"

def leavesOut (spec : TableSpec) : Bool :=
  (spec.name = "admin_audit_log" ∧ options.includeAdminAudit.getD options.wholeDb = false) ∨
    (spec.name = "frick_migrations" ∧ options.includeMigrations.getD options.wholeDb = false) ∨
    (spec.infraOnly ∧ options.wholeDb = false ∧ spec.name ≠ "tenants")

end DumpOptions

section Dump

variable {engine : SqliteEngine} {L : Type} (format : DumpFormat L)

def encodeColumn : String × SqlValue → String × Json
  | (column, .blob bytes) => (column ++ "_base64", .string (format.encodeBase64 bytes))
  | (column, .null) => (column, .null)
  | (column, .integer n) => (column, .int n.toInt)
  | (column, .real bits) => (column, if isFinite bits then .float bits else .null)
  | (column, .text text) => (column, .string text)

def encodeRow (row : SqlRow) : Json :=
  .object (row.foldl (fun out entry =>
    Json.insert out (encodeColumn format entry).1 (encodeColumn format entry).2) [])

def rowLine (table : String) (row : SqlRow) : L :=
  format.print (.object [("type", .string table), ("row", encodeRow format row)])

def headerLine (schema : FrickSchema) (applied : List String) (scope : String) (nowMs : Int) : L :=
  format.print (.object [("type", .string "header"), ("row", .object
    [("frickFormat", .int 1), ("createdAt", .string (isoFromEpochMs nowMs)),
      ("schemaId", .string schema.schemaId), ("schemaVersion", .string schema.schemaVersion),
      ("schemaRevision", .int schema.schemaRevision), ("schemaHash", .string schema.hash),
      ("appliedMigrations", .array (applied.map .string)), ("tenantId", .string scope)])])

/-- One table of the loop in `dump_database_with`. -/
def dumpTable (options : DumpOptions) (spec : TableSpec) : DbAction engine StoreError (List L) :=
  if options.leavesOut spec then pure []
  else do
    if ← tableExists spec.name then
      let rows ← query fun db => .ok (selectTable spec options.wholeDb options.scope db)
      pure (rows.map (rowLine format spec.name))
    else pure []

/-- The loop of `dump_database_with`. -/
def dumpTables (options : DumpOptions) : List TableSpec → DbAction engine StoreError (List L)
  | [] => pure []
  | spec :: rest => do
    let lines ← dumpTable format options spec
    let more ← dumpTables options rest
    pure (lines ++ more)

def dumpDatabaseWith (schema : FrickSchema) (options : DumpOptions) (nowMs : Int) :
    DbAction engine StoreError (List L) := do
  let applied ← listAppliedMigrations
  let lines ← dumpTables format options tableOrder
  pure (headerLine format schema (applied.map AppliedMigrationRow.id) options.scope nowMs :: lines)

def dumpDatabase (schema : FrickSchema) (tenantId : Option String) (nowMs : Int) :
    DbAction engine StoreError (List L) :=
  dumpDatabaseWith format schema { tenantId := tenantId } nowMs

end Dump

/-! ## Restore -/

structure RestoreOptions where
  confirm : Bool := false
  overwrite : Bool := false
  forceSchemaDrift : Bool := false
  deriving Repr

inductive RestoreRefusal where
  | missingConfirmation
  | missingHeader
  | schemaHashMismatch (sourceHash targetHash : String)
  | missingMigrations (missing : List String)
  | targetNotEmpty (table : String)
  | tenantScopeMismatch (table : String) (tenantId : Option String) (expectedTenantId : String)
      (line : Nat)
  deriving Repr, DecidableEq

inductive RestoreError where
  | refused (refusal : RestoreRefusal)
  | store (err : StoreError)
  deriving Repr, DecidableEq

structure SkippedRow where
  type : String
  reason : String
  line : Option Nat
  deriving Repr, DecidableEq

/-- `SchemaCompatibility`. -/
structure RestoreSchemaCompatibility where
  sourceHash : String
  targetHash : String
  matched : Bool
  deriving Repr

structure RestoreReport where
  rowCountsByType : Dict String Nat
  skipped : List SkippedRow
  schemaCompatibility : RestoreSchemaCompatibility
  startedAt : String
  finishedAt : String

structure DumpHeader where
  schemaHash : String
  appliedMigrations : List String
  tenantId : String
  deriving Repr

structure ParsedRow where
  type : String
  row : List (String × Json)

section Restore

variable {engine : SqliteEngine} {L : Type} (format : DumpFormat L)

def parseHeader (line : L) : Except RestoreRefusal DumpHeader :=
  match format.parse line with
  | none => .error .missingHeader
  | some value =>
    if (value.get? "type").bind Json.asStr ≠ some "header" then .error .missingHeader
    else
      match value.get? "row" with
      | none => .error .missingHeader
      | some row =>
        .ok ⟨((row.get? "schemaHash").bind Json.asStr).getD "",
          (((row.get? "appliedMigrations").bind Json.asArray).getD []).filterMap Json.asStr,
          ((row.get? "tenantId").bind Json.asStr).getD "all"⟩

def parseRowLine (line : L) : Option ParsedRow := do
  let value ← format.parse line
  let type ← (value.get? "type").bind Json.asStr
  let row ← (value.get? "row").bind Json.asObject
  pure ⟨type, row⟩

/-- What is checked before the database is looked at: the confirmation, the header and the schema
hash. Answers the header and the lines that follow it. -/
def checkHeader (schema : FrickSchema) (opts : RestoreOptions) (lines : List L) :
    Except RestoreRefusal (DumpHeader × List L) :=
  if opts.confirm = false then .error .missingConfirmation
  else
    match lines.filter fun line => !format.isEmpty line with
    | [] => .error .missingHeader
    | first :: rest => do
      let header ← parseHeader format first
      if header.schemaHash ≠ schema.hash ∧ opts.forceSchemaDrift = false then
        .error (.schemaHashMismatch header.schemaHash schema.hash)
      else .ok (header, rest)

/-- The migrations of the source that the target has not applied. -/
def missingMigrations (header : DumpHeader) (applied : List AppliedMigrationRow) : List String :=
  header.appliedMigrations.filter fun id => id ∉ applied.map AppliedMigrationRow.id

/-! ### Emptying the scope -/

def deleteIfExists (table : String) (p : SqlRow → Bool) : DbAction engine StoreError Unit := do
  if ← tableExists table then exec fun db => db.deleteWhere table p
  else pure ()

/-- `event_id IN (SELECT event_id FROM platform_events WHERE tenant_id = ?)`. -/
def ofTenantEvent (db : Database engine) (tenantId : String) (delivery : SqlRow) : Bool :=
  (db.rows "platform_events").any fun event =>
    ofTenant tenantId event && sqlEq (event.value "event_id") (delivery.value "event_id")

section

variable (parsed : ParsedRow) (scope : String)

def deleteDeliveriesForTenant : DbAction engine StoreError Unit := do
  if ← tableExists "platform_event_deliveries" then
    if ← tableExists "platform_events" then
      exec fun db => db.deleteWhere "platform_event_deliveries" (ofTenantEvent db scope)
    else pure ()
  else pure ()

def truncateScopeInTx : DbAction engine StoreError Unit :=
  if scope = "all" then truncateAllTables.forM fun table => deleteIfExists table fun _ => true
  else do
    deleteDeliveriesForTenant scope
    tenantScopedTables.forM fun table => deleteIfExists table (ofTenant scope)
    deleteIfExists "tenants" (ofTenant scope)

/-- `truncate_scope`: a transaction of its own. -/
def truncateScope : DbAction engine StoreError Unit :=
  transaction id (truncateScopeInTx scope)

/-- Refuse a table whose query counts rows. -/
def refuseRows (table : String) (count : Database engine → Nat) :
    DbAction engine RestoreError Unit := do
  let n ← mapError .store (query fun db => .ok (count db))
  if 0 < n then ofExcept (.error (.refused (.targetNotEmpty table))) else pure ()

def assertTableEmpty (table : String) (p : SqlRow → Bool) : DbAction engine RestoreError Unit := do
  if ← mapError .store (tableExists table) then
    refuseRows table fun db => ((db.rows table).filter p).length
  else pure ()

/-- The deliveries in `assert_scope_empty`, for one tenant. -/
def assertDeliveriesEmpty : DbAction engine RestoreError Unit := do
  if ← mapError .store (tableExists "platform_event_deliveries") then
    if ← mapError .store (tableExists "platform_events") then
      refuseRows "platform_event_deliveries" fun db => (joinDeliveries db scope).length
    else pure ()
  else pure ()

def assertScopeEmpty : DbAction engine RestoreError Unit :=
  if scope = "all" then
    (tenantScopedTables ++ eventChildTables).forM fun table => assertTableEmpty table fun _ => true
  else do
    assertDeliveriesEmpty scope
    tenantScopedTables.forM fun table => assertTableEmpty table (ofTenant scope)

/-! ### Inserting rows -/

def assertRowTenant (line : Nat) : Except RestoreError Unit :=
  let tenantId := (Json.lookup parsed.row "tenant_id").bind Json.asStr
  if tenantId = some scope then .ok ()
  else .error (.refused (.tenantScopeMismatch parsed.type tenantId scope line))

/-- `SELECT tenant_id FROM platform_events WHERE event_id = ?`, the first row. -/
def eventTenant (db : Database engine) (eventId : String) : Option String :=
  ((db.rows "platform_events").find? fun event => event.value "event_id" = .text eventId).bind
    fun event => event.text "tenant_id"

def assertDeliveryScope (line : Nat) : DbAction engine RestoreError Unit :=
  let mismatch : RestoreError :=
    .refused (.tenantScopeMismatch "platform_event_deliveries"
      ((Json.lookup parsed.row "event_id").bind Json.asStr) scope line)
  match (Json.lookup parsed.row "event_id").bind Json.asStr with
  | none => ofExcept (.error mismatch)
  | some eventId => do
    let tenantId ← mapError .store (query fun db => .ok (eventTenant db eventId))
    if tenantId = some scope then pure () else ofExcept (.error mismatch)

/-- The column of a key that ends in `_base64`. -/
def base64Column? (key : String) : Option String :=
  if "_base64".toList.isSuffixOf key.toList then
    some (String.ofList (key.toList.take (key.toList.length - "_base64".toList.length)))
  else none

def jsonToSql : Json → SqlValue
  | .null => .null
  | .bool b => .integer (if b then 1 else 0)
  | .int n => if -i64Max - 1 ≤ n ∧ n ≤ i64Max then .integer (.ofInt n) else .real (format.asF64 n)
  | .float bits => .real bits
  | .string s => .text s
  | value => .text (format.toText value)

/-- One key of the loop in `insert_row`. -/
def decodeColumn (table : String) (allowed : List String) (columns : SqlRow) (key : String)
    (value : Json) : Except String (String × SqlValue) :=
  let column := (base64Column? key).getD key
  if column ∉ allowed then .error s!"invalidColumn: {table}.{column}"
  else if column ∈ columns.map Prod.fst then .error s!"duplicateColumn: {table}.{column}"
  else if (base64Column? key).isSome then
    match format.decodeBase64 (value.asStr.getD "") with
    | .ok bytes => .ok (column, .blob bytes)
    | .error err => .error s!"invalidBase64: {table}.{column}: {err}"
  else .ok (column, jsonToSql format value)

/-- The loop of `insert_row`: the columns and parameters of the `INSERT`. -/
def decodeColumns (table : String) (allowed : List String) :
    List (String × Json) → SqlRow → Except String SqlRow
  | [], columns => .ok columns
  | (key, value) :: rest, columns => do
    let entry ← decodeColumn format table allowed columns key value
    decodeColumns table allowed rest (columns ++ [entry])

/-- The columns that were looked up so far. -/
abbrev ColumnCache := List (String × List String)

/-- `PRAGMA table_info`. -/
def tableColumns (db : Database engine) (table : String) : Option (List String) :=
  (db.tables table).map fun t => t.schema.columns.map Column.name

/-- `get_table_columns`, with the cache it leaves. -/
def getTableColumns (table : String) (cache : ColumnCache) :
    DbAction engine StoreError (Option (List String) × ColumnCache) :=
  match cache.lookup table with
  | some columns => pure (some columns, cache)
  | none => do
    let columns ← query fun db => .ok (tableColumns db table)
    match columns with
    | some columns => pure (some columns, (table, columns) :: cache)
    | none => pure (none, cache)

/-- `insert_row`, once the columns of the table are known. -/
def insertDecoded (allowed : List String) : DbAction engine String Unit := do
  let columns ← ofExcept (decodeColumns format parsed.type allowed parsed.row [])
  if columns.isEmpty then ofExcept (.error s!"emptyRow: {parsed.type}")
  else
    mapError StoreError.message <| call fun db =>
      match db.insertInto parsed.type columns with
      | .ok db => .ok ((), db)
      | .error reason => .error (.driver reason)

/-- `insert_row`, with the cache it leaves. -/
def insertRow (cache : ColumnCache) :
    DbAction engine RestoreError (Except String Unit × ColumnCache) := do
  match ← attempt (getTableColumns parsed.type cache) with
  | .error err => pure (.error err.message, cache)
  | .ok (none, cache) => pure (.error s!"missingTable: {parsed.type}", cache)
  | .ok (some allowed, cache) => do
    let outcome ← attempt (insertDecoded format parsed allowed)
    pure (outcome, cache)

/-- What `restore_rows_in_tx` accumulates. -/
structure RestoreProgress where
  skipped : List SkippedRow := []
  counts : Dict String Nat := Table.empty _
  columnCache : ColumnCache := []

variable (progress : RestoreProgress)

def RestoreProgress.skip (type reason : String) (line : Nat) : RestoreProgress :=
  { progress with skipped := progress.skipped ++ [⟨type, reason, some line⟩] }

def RestoreProgress.count (type : String) : RestoreProgress :=
  { progress with counts := progress.counts.set type ((progress.counts.get? type).getD 0 + 1) }

/-- A driver call that changes no rows: `SAVEPOINT`, `RELEASE`. -/
def execSavepoint : DbAction engine RestoreError Unit :=
  mapError .store (exec fun db => db)

def checkRowTenant (line : Nat) : Except RestoreError Unit :=
  if scope ≠ "all" ∧ tenantIdConstrained parsed.type then assertRowTenant parsed scope line
  else .ok ()

/-- The second scope check on a row. -/
def checkDelivery (line : Nat) : DbAction engine RestoreError Unit :=
  if scope ≠ "all" ∧ parsed.type = "platform_event_deliveries" then
    assertDeliveryScope parsed scope line
  else pure ()

/-- A row between its `SAVEPOINT` and its `RELEASE`. -/
def insertBehindSavepoint (line : Nat) : DbAction engine RestoreError RestoreProgress := do
  let saved ← mapError .store (query fun db => .ok db)
  let (outcome, cache) ← insertRow format parsed progress.columnCache
  let progress := { progress with columnCache := cache }
  match outcome with
  | .ok () => do
    execSavepoint
    pure (progress.count parsed.type)
  | .error reason => do
    mapError .store (exec fun _ => saved)
    execSavepoint
    pure (progress.skip parsed.type reason line)

/-- One line of `restore_rows_in_tx`. -/
def restoreLine (line : Nat) (raw : L) : DbAction engine RestoreError RestoreProgress :=
  match parseRowLine format raw with
  | none => pure (progress.skip "<unparseable>" "JSON parse error" line)
  | some parsed =>
    if parsed.type ∉ allTables then pure (progress.skip parsed.type "unknownTableType" line)
    else do
      ofExcept (checkRowTenant parsed scope line)
      checkDelivery parsed scope line
      insertBehindSavepoint format parsed progress line

end

/-- `restore_rows_in_tx`, from line number `line` on. -/
def restoreRows (scope : String) (progress : RestoreProgress) :
    Nat → List L → DbAction engine RestoreError RestoreProgress
  | _, [] => pure progress
  | line, raw :: rest => do
    let progress ← restoreLine format scope progress line raw
    restoreRows scope progress (line + 1) rest

/-- Make room for the rows of the dump, or make sure that there is room. -/
def clearScope (opts : RestoreOptions) (scope : String) : DbAction engine RestoreError Unit :=
  if opts.overwrite then mapError .store (truncateScope scope) else assertScopeEmpty scope

/-- The part of `restore_database_checked` that changes the database. -/
def fillScope (opts : RestoreOptions) (scope : String) (rows : List L) :
    DbAction engine RestoreError RestoreProgress := do
  clearScope opts scope
  transaction .store (restoreRows format scope {} 2 rows)

/-- `restore_database_checked`, once the header is accepted. -/
def restoreAccepted (schema : FrickSchema) (opts : RestoreOptions) (startedMs finishedMs : Int)
    (header : DumpHeader) (rows : List L) : DbAction engine RestoreError RestoreReport := do
  let applied ← mapError .store listAppliedMigrations
  if missingMigrations header applied ≠ [] then
    ofExcept (.error (.refused (.missingMigrations (missingMigrations header applied))))
  else do
    let progress ← fillScope format opts header.tenantId rows
    pure ⟨progress.counts, progress.skipped,
      ⟨header.schemaHash, schema.hash, header.schemaHash = schema.hash⟩, isoFromEpochMs startedMs,
      isoFromEpochMs finishedMs⟩

def restoreDatabaseChecked (schema : FrickSchema) (lines : List L) (opts : RestoreOptions)
    (startedMs finishedMs : Int) : DbAction engine RestoreError RestoreReport :=
  match checkHeader format schema opts lines with
  | .error refusal => ofExcept (.error (.refused refusal))
  | .ok (header, rows) => restoreAccepted format schema opts startedMs finishedMs header rows

end Restore

end Frick.Store
