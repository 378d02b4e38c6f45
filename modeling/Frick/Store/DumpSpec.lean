import Frick.Store.RestoreSpec

/-!
# What a dump says and how it is read back

Two halves of the text format. A dump is its header and, for each table, the selected rows in order.
A row that is printed and parsed again comes back column by column as it was, except that a `REAL`
is what the number parser makes of it, and `NULL` if it is not finite. The second half needs that no
column has a name that ends in `_base64`, the suffix that marks a blob; the framework's tables have
none.
-/

namespace Frick.Store

open Framework Protocol List
open Prod (fst)

variable {engine : SqliteEngine} {L : Type} (format : DumpFormat L)

/-! ## Keys -/

lemma base64Column?_append (name : String) : base64Column? (name ++ "_base64") = some name := by
  unfold base64Column?
  rw [String.toList_append, if_pos, length_append, Nat.add_sub_cancel, take_left,
    String.ofList_toList]
  rw [isSuffixOf_iff_suffix]
  exact suffix_append _ _

variable {entry : String × SqlValue} {row : SqlRow} {allowed : List String}
  {db db' : Database engine} {options : DumpOptions}

lemma column_encodeColumn (hplain : base64Column? entry.1 = none) :
    (base64Column? (encodeColumn format entry).1).getD (encodeColumn format entry).1 = entry.1 := by
  obtain ⟨column, value⟩ := entry
  cases value <;> simp_all [encodeColumn, base64Column?_append]

lemma nodup_keys (hnodup : (row.map fst).Nodup)
    (hplain : ∀ entry ∈ row, base64Column? entry.1 = none) :
    (row.map fun entry => (encodeColumn format entry).1).Nodup := by
  have hcols : (row.map fun entry => (encodeColumn format entry).1).map
      (fun key => (base64Column? key).getD key) = row.map fst := by
    rw [map_map]
    exact map_congr_left fun entry hentry => column_encodeColumn format (hplain entry hentry)
  rw [← hcols] at hnodup
  exact Nodup.of_map _ hnodup

/-! ## Encoding -/

lemma foldl_insert_encode (row : SqlRow) (out : List (String × Json))
    (hnodup : (out.map fst ++ row.map fun entry => (encodeColumn format entry).1).Nodup) :
    row.foldl (fun out entry =>
        Json.insert out (encodeColumn format entry).1 (encodeColumn format entry).2) out =
      out ++ row.map (encodeColumn format) := by
  induction row generalizing out with
  | nil => simp
  | cons entry _ ih =>
    have hnew : (encodeColumn format entry).1 ∉ out.map fst := by
      intro hmem
      exact (nodup_append.mp hnodup).2.2 _ hmem _ (by simp) rfl
    rw [foldl_cons, Json.insert, if_neg hnew, ih, append_assoc]
    · rfl
    · rwa [map_append, append_assoc]

lemma encodeRow_eq (hnodup : (row.map fst).Nodup)
    (hplain : ∀ entry ∈ row, base64Column? entry.1 = none) :
    encodeRow format row = .object (row.map (encodeColumn format)) := by
  unfold encodeRow
  rw [foldl_insert_encode]
  · rfl
  · exact nodup_keys format hnodup hplain

/-! ## Decoding -/

lemma mapFloatsEntries_eq_map (f : UInt64 → UInt64) (es : List (String × Json)) :
    Json.mapFloatsEntries f es = es.map fun entry => (entry.1, entry.2.mapFloats f) := by
  induction es with
  | nil => rfl
  | cons _ _ ih =>
    rw [Json.mapFloatsEntries, ih]
    rfl

/-- What a column value comes back as. -/
def rereadValue : SqlValue → SqlValue
  | .real bits => if isFinite bits then .real (format.reread bits) else .null
  | value => value

def rereadRow (row : SqlRow) : SqlRow := row.map fun entry => (entry.1, rereadValue format entry.2)

/-- The object that a printed row is parsed as. -/
def printedRow (row : SqlRow) : List (String × Json) :=
  row.map fun entry =>
    ((encodeColumn format entry).1, (encodeColumn format entry).2.mapFloats format.reread)

lemma distinctKeysEntries_iff {es : List (String × Json)} :
    Json.DistinctKeysEntries es ↔ ∀ entry ∈ es, entry.2.DistinctKeys := by
  induction es with
  | nil => exact iff_of_true trivial nofun
  | cons _ _ ih => rw [Json.DistinctKeysEntries, ih, forall_mem_cons]

lemma distinctKeys_encodeRow (hnodup : (row.map fst).Nodup)
    (hplain : ∀ entry ∈ row, base64Column? entry.1 = none) :
    (encodeRow format row).DistinctKeys := by
  rw [encodeRow_eq format hnodup hplain]
  refine ⟨by rw [map_map]; exact nodup_keys format hnodup hplain,
    distinctKeysEntries_iff.mpr fun entry hentry => ?_⟩
  obtain ⟨⟨column, value⟩, _, rfl⟩ := mem_map.mp hentry
  cases value with
  | real bits =>
    dsimp only [encodeColumn]
    split_ifs <;> trivial
  | null | integer | text | blob => trivial

lemma parseRowLine_rowLine (table : String) (hnodup : (row.map fst).Nodup)
    (hplain : ∀ entry ∈ row, base64Column? entry.1 = none) :
    parseRowLine format (rowLine format table row) = some ⟨table, printedRow format row⟩ := by
  unfold parseRowLine rowLine
  have hkeys :
      (Json.object [("type", .string table), ("row", encodeRow format row)]).DistinctKeys :=
    ⟨by simp, trivial, distinctKeys_encodeRow format hnodup hplain, trivial⟩
  rw [format.parse_print _ hkeys, encodeRow_eq format hnodup hplain]
  simp [Json.mapFloats, mapFloatsEntries_eq_map, Json.get?, Json.asObject, Json.lookup,
    Json.asStr, printedRow]

lemma decodeColumn_printed (table : String) {cols : SqlRow}
    (hplain : base64Column? entry.1 = none) (hallowed : entry.1 ∈ allowed)
    (hnew : entry.1 ∉ cols.map fst) :
    decodeColumn format table allowed cols (encodeColumn format entry).1
        ((encodeColumn format entry).2.mapFloats format.reread) =
      .ok (entry.1, rereadValue format entry.2) := by
  unfold decodeColumn
  rw [column_encodeColumn format hplain, if_neg (not_not.mpr hallowed), if_neg hnew]
  obtain ⟨column, value⟩ := entry
  cases value with
  | blob =>
    simp [encodeColumn, base64Column?_append, Json.mapFloats, Json.asStr, format.decode_encode,
      rereadValue]
  | null | text s => simp_all [encodeColumn, Json.mapFloats, jsonToSql, rereadValue]
  | real bits =>
    by_cases hfin : isFinite bits = true <;>
      simp_all [encodeColumn, Json.mapFloats, jsonToSql, rereadValue]
  | integer n =>
    have hrange : -i64Max - 1 ≤ n.toInt ∧ n.toInt ≤ i64Max := by
      have hlow := n.le_toInt
      have hhigh := n.toInt_lt
      unfold i64Max
      omega
    simp_all [encodeColumn, Json.mapFloats, jsonToSql, rereadValue]

lemma decodeColumns_printed (table : String) (row cols : SqlRow)
    (hplain : ∀ entry ∈ row, base64Column? entry.1 = none)
    (hallowed : ∀ entry ∈ row, entry.1 ∈ allowed)
    (hnodup : (cols.map fst ++ row.map fst).Nodup) :
    decodeColumns format table allowed (printedRow format row) cols =
      .ok (cols ++ rereadRow format row) := by
  induction row generalizing cols with
  | nil => simp [printedRow, decodeColumns, rereadRow]
  | cons entry _ ih =>
    have hnew : entry.1 ∉ cols.map fst := by
      intro hmem
      exact (nodup_append.mp hnodup).2.2 _ hmem _ (by simp) rfl
    have hfirst := decodeColumn_printed format table (hplain entry (by simp))
      (hallowed entry (by simp)) hnew
    have hrest := ih (cols ++ [(entry.1, rereadValue format entry.2)])
      (fun e he => hplain e (by simp [he])) (fun e he => hallowed e (by simp [he])) (by
        rw [map_append, append_assoc]
        exact hnodup)
    rw [printedRow, map_cons, decodeColumns, hfirst, ok_bind]
    rw [printedRow] at hrest
    rw [hrest, append_assoc]
    rfl

lemma decodeRow_printed (table : String) (hsome : row ≠ [])
    (hplain : ∀ entry ∈ row, base64Column? entry.1 = none)
    (hallowed : ∀ entry ∈ row, entry.1 ∈ allowed) (hnodup : (row.map fst).Nodup) :
    decodeRow format (some allowed) ⟨table, printedRow format row⟩ =
      .ok (rereadRow format row) := by
  have hdec := decodeColumns_printed format table row [] hplain hallowed hnodup
  have hnot : (rereadRow format row).isEmpty = false := by
    rw [rereadRow]
    simpa using hsome
  unfold decodeRow
  dsimp only
  rw [hdec, nil_append, ok_bind, hnot]
  rfl

/-! ## Lines of the framework's tables -/

/-- All tables of the framework are there. -/
def Migrated (db : Database engine) : Prop :=
  ∀ schema ∈ frameworkTables, (db.tables schema.name).map SqlTable.schema = some schema

lemma Migrated.of_schemasKept (hdb : Migrated db) (h : SchemasKept db db') : Migrated db' :=
  fun schema hsch => (h schema.name).trans (hdb schema hsch)

lemma Migrated.exists_table (hdb : Migrated db) {schema : TableSchema}
    (hsch : schema ∈ frameworkTables) :
    ∃ t, db.tables schema.name = some t ∧ t.schema = schema :=
  Option.map_eq_some_iff.mp (hdb schema hsch)

lemma plain_names : ∀ schema ∈ frameworkTables, ∀ column ∈ schema.columns,
    base64Column? column.name = none := by
  decide +kernel

lemma mem_allTables_of_framework : ∀ schema ∈ frameworkTables,
    schema.columns ≠ [] ∧ schema.name ∈ allTables := by
  decide +kernel

section Line

variable {schema : TableSchema} {row : SqlRow}

variable (hrow : Stored engine schema row)
include hrow

lemma nodup_of_stored : (row.map fst).Nodup := by
  rw [map_fst_storeRow hrow]
  exact schema.nodup

lemma exists_column_of_stored {entry : String × SqlValue} (hentry : entry ∈ row) :
    ∃ column ∈ schema.columns, column.name = entry.1 := by
  have hname : entry.1 ∈ row.map fst := mem_map_of_mem hentry
  rw [map_fst_storeRow hrow] at hname
  exact mem_map.mp hname

lemma plain_of_stored (hsch : schema ∈ frameworkTables) :
    ∀ entry ∈ row, base64Column? entry.1 = none := by
  intro entry hentry
  obtain ⟨column, hcol, hname⟩ := exists_column_of_stored hrow hentry
  rw [← hname]
  exact plain_names schema hsch column hcol

/-- **One line of a dump**: two checks, and the row as it reads back. -/
lemma lineEffect_rowLine {db : Database engine} (hdb : Migrated db)
    (hsch : schema ∈ frameworkTables) (scope : String) (line : Nat) :
    lineEffect format scope line db (rowLine format schema.name row) = (do
      checkRowTenant ⟨schema.name, printedRow format row⟩ scope line
      deliveryAllowed db ⟨schema.name, printedRow format row⟩ scope line
      match db.insertInto schema.name (rereadRow format row) with
      | .ok db => .ok ([], db)
      | .error reason => .ok ([⟨schema.name, reason, some line⟩], db)) := by
  have hnodup := nodup_of_stored hrow
  have hplain := plain_of_stored hrow hsch
  have hcols : tableColumns db schema.name = some (schema.columns.map Column.name) := by
    obtain ⟨t, ht, hsame⟩ := hdb.exists_table hsch
    rw [tableColumns, ht, Option.map_some, hsame]
  have hallowed : ∀ entry ∈ row, entry.1 ∈ schema.columns.map Column.name := by
    intro entry hentry
    obtain ⟨column, hcol, hname⟩ := exists_column_of_stored hrow hentry
    rw [← hname]
    exact mem_map_of_mem hcol
  have hsome : row ≠ [] := by
    intro hnil
    have hnames := map_fst_storeRow hrow
    rw [hnil, map_nil, eq_comm, map_eq_nil_iff] at hnames
    exact (mem_allTables_of_framework schema hsch).1 hnames
  have htable := (mem_allTables_of_framework schema hsch).2
  have hins : insertParsed format db ⟨schema.name, printedRow format row⟩ =
      db.insertInto schema.name (rereadRow format row) := by
    unfold insertParsed
    rw [hcols, decodeRow_printed format schema.name hsome hplain hallowed hnodup, ok_bind]
  unfold lineEffect
  rw [parseRowLine_rowLine format schema.name hnodup hplain]
  dsimp only
  rw [if_neg (not_not.mpr htable)]
  generalize insertParsed format db ⟨schema.name, printedRow format row⟩ = inserted at hins ⊢
  subst hins
  rfl

end Line

/-! ## The dump -/

def dumpLines (options : DumpOptions) (db : Database engine) (specs : List TableSpec) : List L :=
  specs.flatMap fun spec =>
    if options.leavesOut spec then []
    else (selectTable spec options.wholeDb options.scope db).map (rowLine format spec.name)

lemma selectTable_of_missing {spec : TableSpec} (h : db.tables spec.name = none) (wholeDb : Bool)
    (tenantId : String) : selectTable spec wholeDb tenantId db = [] := by
  have hrows : db.rows spec.name = [] := by rw [Database.rows, h]
  unfold selectTable
  rw [hrows]
  split_ifs with htens hdlvs
  · rfl
  · rw [hdlvs.1] at hrows
    simp [tenantDeliveries, joinDeliveries, hrows]
  · rfl
  · rfl

lemma dumpTable_quiet (options : DumpOptions) (spec : TableSpec) (s : Session (Database engine)) :
    ∃ calls, dumpTable format options spec quiet s =
      (.ok (dumpLines format options s.db [spec]), ⟨s.db, calls⟩) := by
  unfold dumpTable dumpLines
  rw [flatMap_singleton]
  by_cases hout : options.leavesOut spec
  · rw [if_pos hout, if_pos hout]
    exact ⟨s.calls, rfl⟩
  rw [if_neg hout, if_neg hout]
  have hexi : (tableExists spec.name : DbAction engine StoreError Bool) quiet s =
      (.ok (s.db.tables spec.name).isSome, ⟨s.db, s.calls + 1⟩) := Action.query_quiet rfl
  rw [Action.bind_run_ok hexi]
  cases htable : s.db.tables spec.name with
  | none =>
    rw [selectTable_of_missing htable]
    exact ⟨_, rfl⟩
  | some => exact ⟨_, rfl⟩

lemma dumpTables_quiet (options : DumpOptions) (specs : List TableSpec)
    (s : Session (Database engine)) :
    ∃ calls, dumpTables format options specs quiet s =
      (.ok (dumpLines format options s.db specs), ⟨s.db, calls⟩) := by
  induction specs generalizing s with
  | nil => exact ⟨s.calls, rfl⟩
  | cons spec _ ih =>
    obtain ⟨calls, hfirst⟩ := dumpTable_quiet format options spec s
    obtain ⟨calls', hrest⟩ := ih ⟨s.db, calls⟩
    refine ⟨calls', ?_⟩
    rw [dumpTables, Action.bind_run_ok hfirst, Action.bind_run_ok hrest]
    simp [dumpLines]

/-- **A dump**, on a driver that does not fail: it needs a readable ledger, and nothing else. -/
lemma dumpDatabaseWith_quiet (schema : FrickSchema) (options : DumpOptions) (nowMs : Int)
    {applied : List AppliedMigrationRow} (h : readLedger db = .ok applied) :
    ∃ s, dumpDatabaseWith format schema options nowMs quiet ⟨db, 0⟩ =
      (.ok (headerLine format schema (applied.map AppliedMigrationRow.id) options.scope nowMs ::
        dumpLines format options db tableOrder), s) := by
  obtain ⟨calls, htabs⟩ := dumpTables_quiet format options tableOrder ⟨db.ensureLedger, 0 + 2⟩
  have hlines : dumpLines format options db.ensureLedger tableOrder =
      dumpLines format options db tableOrder := by
    unfold dumpLines selectTable tenantDeliveries joinDeliveries
    simp only [Database.rows_ensureLedger]
  rw [hlines] at htabs
  refine ⟨⟨db.ensureLedger, calls⟩, ?_⟩
  unfold dumpDatabaseWith
  rw [Action.bind_run_ok (listAppliedMigrations_quiet h 0), Action.bind_run_ok htabs]
  rfl

lemma dumpDatabaseWith_eq_ok {schema : FrickSchema} {nowMs : Int} {lines : List L}
    {s : Session (Database engine)}
    (h : dumpDatabaseWith format schema options nowMs quiet ⟨db, 0⟩ = (.ok lines, s)) :
    ∃ applied, readLedger db = .ok applied ∧
      lines = headerLine format schema (applied.map AppliedMigrationRow.id) options.scope nowMs ::
        dumpLines format options db tableOrder := by
  obtain ⟨applied, t, hlist, _⟩ := Action.bind_run_eq_ok h
  have hledg := (listAppliedMigrations_eq_ok hlist).1
  obtain ⟨s', hdump⟩ := dumpDatabaseWith_quiet format schema options nowMs hledg
  rw [hdump] at h
  exact ⟨applied, hledg, (Except.ok.inj (congrArg fst h)).symm⟩

/-! ## The header -/

lemma mapFloatsItems_strings (f : UInt64 → UInt64) (texts : List String) :
    Json.mapFloatsItems f (texts.map .string) = texts.map .string := by
  induction texts with
  | nil => rfl
  | cons _ _ ih =>
    rw [map_cons, Json.mapFloatsItems, ih]
    rfl

lemma distinctKeysItems_strings (texts : List String) :
    Json.DistinctKeysItems (texts.map .string) := by
  induction texts with
  | nil => exact trivial
  | cons _ _ ih => exact ⟨trivial, ih⟩

lemma parseHeader_headerLine (schema : FrickSchema) (applied : List String) (scope : String)
    (nowMs : Int) :
    parseHeader format (headerLine format schema applied scope nowMs) =
      .ok ⟨schema.hash, applied, scope⟩ := by
  unfold parseHeader headerLine
  rw [format.parse_print _ (by simp [Json.DistinctKeys, Json.DistinctKeysEntries,
    distinctKeysItems_strings])]
  have hstrings : (applied.map Json.string).filterMap Json.asStr = applied := by
    induction applied with
    | nil => rfl
    | cons _ _ ih => simp [Json.asStr, ih]
  simp [Json.mapFloats, Json.mapFloatsEntries, mapFloatsItems_strings, Json.get?, Json.asObject,
    Json.lookup, Json.asStr, Json.asArray, hstrings]

lemma isEmpty_of_mem_dumpLines {specs : List TableSpec} {raw : L}
    (h : raw ∈ dumpLines format options db specs) : format.isEmpty raw = false := by
  obtain ⟨spec, _, hraw⟩ := mem_flatMap.mp h
  split_ifs at hraw
  · cases hraw
  · obtain ⟨row, _, rfl⟩ := mem_map.mp hraw
    exact format.isEmpty_print _

lemma checkHeader_dump {source target : FrickSchema} (hhash : source.hash = target.hash)
    {opts : RestoreOptions} (hconfirm : opts.confirm) (applied : List String)
    (options : DumpOptions) (nowMs : Int) (db : Database engine) :
    checkHeader format target opts (headerLine format source applied options.scope nowMs ::
        dumpLines format options db tableOrder) =
      .ok (⟨source.hash, applied, options.scope⟩, dumpLines format options db tableOrder) := by
  have hrows : (dumpLines format options db tableOrder).filter
      (fun line => !format.isEmpty line) = dumpLines format options db tableOrder := by
    refine filter_eq_self.mpr fun raw hraw => ?_
    rw [isEmpty_of_mem_dumpLines format hraw]
    rfl
  have hfirst : format.isEmpty (headerLine format source applied options.scope nowMs) = false :=
    format.isEmpty_print _
  unfold checkHeader
  rw [if_neg (by simp [hconfirm]), filter_cons_of_pos (by simp [hfirst]), hrows]
  dsimp only
  rw [parseHeader_headerLine, ok_bind, if_neg (by simp [hhash])]

end Frick.Store
