import Frick.Store.RestoreSpec

/-!
# What a restore does to the migration ledger

`frick_migrations` is one of the infrastructure tables of a whole-database dump. A whole-database
`overwrite` restore empties it together with everything else and puts back the ledger lines of the
dump. The tables themselves are not taken back to the source's migrations: whatever the target had
applied beyond the dump is still applied, and no longer recorded.
-/

namespace Frick.Properties

open Framework Protocol Store Database

variable {engine : SqliteEngine} {L : Type} {format : DumpFormat L}

/-! ## Lines of the ledger -/

/-- The migration that a line of a dump records, in a ledger where nothing collides with it. -/
def recordedMigration (engine : SqliteEngine) (format : DumpFormat L) (raw : L) :
    Option String := do
  let parsed ← parseRowLine format raw
  if parsed.type ≠ "frick_migrations" then none
  else do
    let columns ← (decodeRow format (some (frickMigrationsTable.columns.map Column.name))
      parsed).toOption
    let row ← (storeRow engine frickMigrationsTable columns).toOption
    row.text "id"

lemma recordedMigration_eq_some {raw : L} {id : String} :
    recordedMigration engine format raw = some id ↔
      ∃ parsed cols row, parseRowLine format raw = some parsed ∧ parsed.type = "frick_migrations" ∧
        decodeRow format (some (frickMigrationsTable.columns.map Column.name)) parsed = .ok cols ∧
        storeRow engine frickMigrationsTable cols = .ok row ∧ row.text "id" = some id := by
  have htoOption : ∀ {α : Type} (x : Except String α) (a : α), x.toOption = some a ↔ x = .ok a := by
    intro α x a
    cases x <;> simp [Except.toOption]
  constructor
  · intro h
    obtain ⟨parsed, hparse, h⟩ := Option.bind_eq_some_iff.mp h
    by_cases htype : parsed.type = "frick_migrations"
    · rw [if_neg (not_not.mpr htype)] at h
      obtain ⟨cols, hcols, h⟩ := Option.bind_eq_some_iff.mp h
      obtain ⟨row, hrow, h⟩ := Option.bind_eq_some_iff.mp h
      exact ⟨parsed, cols, row, hparse, htype, (htoOption _ _).mp hcols, (htoOption _ _).mp hrow, h⟩
    · rw [if_pos htype] at h
      cases h
  · rintro ⟨parsed, cols, row, hparse, htype, hcols, hrow, hid⟩
    refine Option.bind_eq_some_iff.mpr ⟨parsed, hparse, ?_⟩
    rw [if_neg (not_not.mpr htype)]
    exact Option.bind_eq_some_iff.mpr ⟨cols, (htoOption _ _).mpr hcols,
      Option.bind_eq_some_iff.mpr ⟨row, (htoOption _ _).mpr hrow, hid⟩⟩

lemma text_id_of_clash {row other : SqlRow} {id : String} (hid : row.text "id" = some id)
    (hclash : frickMigrationsTable.clash row other) : other.text "id" = some id := by
  have hvalue := SqlRow.text_eq_some.mp hid
  have hentry : (UniqueIndex.over ["id"]).entry row = some [.text id] := by
    simp [UniqueIndex.entry, UniqueIndex.over, IndexCondition.holds, IndexedColumn.read, hvalue]
  have hsame : (UniqueIndex.over ["id"]).entry other = some [.text id] := by
    have hfound : some [SqlValue.text id] = (UniqueIndex.over ["id"]).entry other := by
      simpa [TableSchema.clash, frickMigrationsTable, hentry] using hclash
    exact hfound.symm
  have hread : IndexedColumn.read { name := "id" } other = .text id := by
    unfold UniqueIndex.entry at hsame
    dsimp only at hsame
    split_ifs at hsame
    simpa [UniqueIndex.over] using hsame
  rw [SqlRow.text_eq_some]
  unfold IndexedColumn.read at hread
  dsimp only at hread
  cases hother : other.value "id" with
  | text =>
    rw [hother] at hread
    simpa using hread
  | _ =>
    rw [hother] at hread
    simp at hread

/-! ## One line and all lines -/

section Ledger

variable {scope : String} {line : Nat} {db db' : Database engine} {skipped : List SkippedRow}

variable {t : SqlTable engine} {raw : L}

section

variable (ht : db.tables "frick_migrations" = some t)
include ht

lemma tableColumns_ledger :
    tableColumns db "frick_migrations" = some (frickMigrationsTable.columns.map Column.name) := by
  rw [tableColumns, ht, Option.map_some, db.ledger t ht]

lemma newRow_ledger {cols row : SqlRow} :
    t.newRow cols = .ok row ↔ storeRow engine frickMigrationsTable cols = .ok row ∧
      ∀ other ∈ t.rows, frickMigrationsTable.clash row other = false := by
  rw [SqlTable.newRow_eq_ok, SqlTable.withId, db.ledger t ht]
  simp [frickMigrationsTable]

lemma mem_ledgerIds_of_skipped {id : String}
    (hskip : ∀ parsed, parseRowLine format raw = some parsed → parsed.type ∈ allTables →
      ∃ reason, insertParsed format db parsed = .error reason)
    (hrecd : recordedMigration engine format raw = some id) : id ∈ ledgerIds db := by
  obtain ⟨parsed, cols, row, hparse, htype, hcols, hrow, hid⟩ :=
    recordedMigration_eq_some.mp hrecd
  have htable : parsed.type ∈ allTables := by
    rw [htype]
    decide
  obtain ⟨reason, herror⟩ := hskip parsed hparse htable
  rw [insertParsed, htype, tableColumns_ledger ht, hcols, ok_bind] at herror
  by_contra hnot
  have hdist : ∀ other ∈ t.rows, frickMigrationsTable.clash row other = false := by
    intro other hother
    by_contra hclash
    rw [Bool.not_eq_false] at hclash
    have hmem : id ∈ (db.rows "frick_migrations").filterMap fun row => row.text "id" := by
      rw [rows_of_tables ht]
      exact List.mem_filterMap.mpr ⟨other, hother, text_id_of_clash hid hclash⟩
    exact hnot hmem
  obtain ⟨_, _, hins, _⟩ :=
    exists_insertInto ht ((newRow_ledger ht).mpr ⟨hrow, hdist⟩)
  rw [hins] at herror
  cases herror

lemma mem_ledgerIds_of_inserted {parsed : ParsedRow}
    (hparse : parseRowLine format raw = some parsed)
    (hins : insertParsed format db parsed = .ok db') (id : String) :
    id ∈ ledgerIds db' ↔ id ∈ ledgerIds db ∨ recordedMigration engine format raw = some id := by
  obtain ⟨cols, hcols, hinto⟩ := bind_eq_ok.mp hins
  obtain ⟨u, u', row, hu, hrow, _, hrows, htabs⟩ := insertInto_eq_ok hinto
  by_cases htype : parsed.type = "frick_migrations"
  · rw [htype] at hu hcols htabs
    rw [ht] at hu
    obtain rfl := Option.some.inj hu
    rw [tableColumns_ledger ht] at hcols
    have hstored := ((newRow_ledger ht).mp hrow).1
    have hafter : db'.rows "frick_migrations" = db.rows "frick_migrations" ++ [row] := by
      rw [rows_update_self htabs, hrows, rows_of_tables ht]
    have hrecd : recordedMigration engine format raw = some id ↔ row.text "id" = some id := by
      rw [recordedMigration_eq_some]
      constructor
      · rintro ⟨parsed', columns', row', hparse', _, hcolumns', hrow', hid⟩
        obtain rfl := Option.some.inj (hparse.symm.trans hparse')
        obtain rfl := Except.ok.inj (hcols.symm.trans hcolumns')
        obtain rfl := Except.ok.inj (hstored.symm.trans hrow')
        exact hid
      · exact fun hid => ⟨parsed, cols, row, hparse, htype, hcols, hstored, hid⟩
    rw [hrecd, ledgerIds, hafter, List.filterMap_append]
    simp [ledgerIds]
  · have hafter := rows_update_of_ne htabs (Ne.symm htype)
    have hnone : recordedMigration engine format raw ≠ some id := by
      intro hrecd
      obtain ⟨parsed', _, _, hparse', htype', _⟩ := recordedMigration_eq_some.mp hrecd
      obtain rfl := Option.some.inj (hparse.symm.trans hparse')
      exact htype htype'
    simp [ledgerIds, hafter, hnone]

end

section

variable (hledger : (db.tables "frick_migrations").isSome)
include hledger

section

variable (h : lineEffect format scope line db raw = .ok (skipped, db'))
include h

lemma mem_ledgerIds_lineEffect (id : String) :
    id ∈ ledgerIds db' ↔ id ∈ ledgerIds db ∨ recordedMigration engine format raw = some id := by
  obtain ⟨t, ht⟩ := Option.isSome_iff_exists.mp hledger
  rcases lineEffect_eq_ok h with ⟨hsame, hskip⟩ | ⟨parsed, hparse, _, hins⟩
  · rw [hsame]
    exact ⟨.inl, fun hid => hid.elim (fun h => h) (mem_ledgerIds_of_skipped ht hskip)⟩
  · exact mem_ledgerIds_of_inserted ht hparse hins id

lemma isSome_ledger_lineEffect : (db'.tables "frick_migrations").isSome := by
  rcases lineEffect_eq_ok h with ⟨hsame, _⟩ | ⟨parsed, _, _, hins⟩
  · rwa [hsame]
  obtain ⟨cols, _, hinto⟩ := bind_eq_ok.mp hins
  have hkept := congrArg Option.isSome (schemasKept_insertInto hinto "frick_migrations")
  rw [Option.isSome_map, Option.isSome_map] at hkept
  rwa [hkept]

end

lemma mem_ledgerIds_rowsEffect {rows : List L}
    (h : rowsEffect format scope line db rows = .ok (skipped, db')) (id : String) :
    id ∈ ledgerIds db' ↔
      id ∈ ledgerIds db ∨ ∃ raw ∈ rows, recordedMigration engine format raw = some id := by
  induction rows generalizing line db skipped with
  | nil =>
    cases h
    simp
  | cons _ _ ih =>
    obtain ⟨⟨first, next⟩, hline, h⟩ := bind_eq_ok.mp h
    obtain ⟨⟨more, last⟩, hrest, h⟩ := bind_eq_ok.mp h
    cases h
    rw [ih (isSome_ledger_lineEffect hledger hline) hrest, mem_ledgerIds_lineEffect hledger hline,
      or_assoc]
    simp

end

end Ledger

/-! ## The restore -/

/-- Only an `overwrite` of the whole database empties the ledger. -/
lemma mem_ledgerIds_of_cleared {opts : RestoreOptions} {scope : String}
    {db cleared : Database engine} (h : Cleared opts scope db cleared) (id : String) :
    id ∈ ledgerIds cleared ↔ id ∈ ledgerIds db ∧ ¬(opts.overwrite ∧ scope = "all") := by
  have hrows := h.rows "frick_migrations"
  unfold ledgerIds
  rw [hrows]
  by_cases hover : opts.overwrite
  · have hscope : ∀ row, inScope db scope "frick_migrations" row = decide (scope = "all") := by
      intro row
      unfold inScope
      by_cases hall : scope = "all"
      · rw [if_pos hall, decide_eq_true hall]
        decide
      · rw [if_neg hall, decide_eq_false hall]
        simp [tenantScopedTables]
    simp only [hscope]
    by_cases hall : scope = "all" <;> simp [hall, hover]
  · rw [if_neg hover]
    simp [hover]

lemma mem_ledgerIds_of_restore {schema : FrickSchema} {opts : RestoreOptions}
    {startMs endMs : Int} {header : DumpHeader} {rows : List L} {target : Database engine}
    {report : RestoreReport} {after : Session (Database engine)}
    (h : restoreAccepted format schema opts startMs endMs header rows quiet ⟨target, 0⟩ =
      (.ok report, after)) (id : String) :
    id ∈ ledgerIds after.db ↔
      (id ∈ ledgerIds target ∧ ¬(opts.overwrite ∧ header.tenantId = "all")) ∨
        ∃ raw ∈ rows, recordedMigration engine format raw = some id := by
  obtain ⟨cleared, hclear, heff⟩ := restoreAccepted_quiet_eq_ok format h
  have hledger : (cleared.tables "frick_migrations").isSome := by
    have hkept := congrArg Option.isSome (hclear.schemas "frick_migrations")
    rw [Option.isSome_map] at hkept
    rw [hkept, ensureLedger]
    simp
  have hensured : ledgerIds target.ensureLedger = ledgerIds target := by
    unfold ledgerIds
    rw [rows_ensureLedger]
  rw [mem_ledgerIds_rowsEffect hledger heff, mem_ledgerIds_of_cleared hclear, hensured]

/-- **Which restores keep the ledger.** After a restore that succeeded on a driver that does not
fail (`quiet`), every migration that the target had recorded is still recorded, and so no later run
of the migrations, under any faults, applies one of them again, if and only if the restore did not
overwrite the whole database, or the dump has a ledger line for each of them. -/
theorem restore_keeps_ledger_iff (format : DumpFormat L) (schema : FrickSchema) (lines : List L)
    (opts : RestoreOptions) (startedMs finishedMs : Int) (target : Database engine)
    (report : RestoreReport) (after : Session (Database engine))
    (hok : restoreDatabaseChecked format schema lines opts startedMs finishedMs quiet ⟨target, 0⟩ =
      (.ok report, after)) :
    ((∀ id ∈ ledgerIds target, id ∈ ledgerIds after.db) ∧
        ∀ (runner : MigrationRunner engine) supportedSchemaRevision nowMs durationMs faults calls
          result s, runner.runFrameworkMigrations supportedSchemaRevision nowMs durationMs faults
            ⟨after.db, calls⟩ = (.ok result, s) →
          ∀ row ∈ result.applied, row.id ∉ ledgerIds target) ↔
      ∀ header rows, checkHeader format schema opts lines = .ok (header, rows) →
        opts.overwrite = true → header.tenantId = "all" →
        ∀ id ∈ ledgerIds target, ∃ raw ∈ rows, recordedMigration engine format raw = some id := by
  unfold restoreDatabaseChecked at hok
  cases hcheck : checkHeader format schema opts lines with
  | error =>
    rw [hcheck] at hok
    cases hok
  | ok checked =>
    obtain ⟨header, rows⟩ := checked
    rw [hcheck] at hok
    have hafter := mem_ledgerIds_of_restore hok
    constructor
    · rintro ⟨hkept, _⟩ header' rows' hsame hoverwrite hall id hid
      obtain ⟨rfl, rfl⟩ := Prod.mk.inj (Except.ok.inj hsame)
      rcases (hafter id).mp (hkept id hid) with ⟨_, hnot⟩ | hline
      · exact absurd ⟨hoverwrite, hall⟩ hnot
      · exact hline
    · intro hcondition
      have hkept : ∀ id ∈ ledgerIds target, id ∈ ledgerIds after.db := by
        intro id hid
        rw [hafter]
        by_cases hwhole : opts.overwrite = true ∧ header.tenantId = "all"
        · exact .inr (hcondition header rows rfl hwhole.1 hwhole.2 id hid)
        · exact .inl ⟨hid, hwhole⟩
      refine ⟨hkept, fun runner _ _ _ faults calls result s hrun row hrow hrecorded => ?_⟩
      exact MigrationRunner.newly_applied_not_recorded hrun row hrow (hkept row.id hrecorded)

/-! ## A dump from an older deployment -/

def ledgerEntry (id : String) (schemaRevision : Int64) : SqlRow :=
  [("id", .text id), ("schema_revision", .integer schemaRevision), ("applied_at", .text "t"),
    ("checksum", .text id), ("duration_ms", .integer 0)]

def ledgerDatabase (rows : List SqlRow)
    (stored : ∀ row ∈ rows, Stored .plain frickMigrationsTable row)
    (distinct : rows.Pairwise fun row other => frickMigrationsTable.clash row other = false) :
    Database .plain where
  tables name :=
    if name = "frick_migrations" then
      some { schema := frickMigrationsTable, rows := rows, stored := stored,
             numbered := by simp [frickMigrationsTable], distinct := distinct }
    else none
  ledger := by
    intro t ht
    obtain rfl := Option.some.inj ht
    rfl

def olderDatabase : Database .plain :=
  ledgerDatabase [ledgerEntry "0001_init" 1] (by decide +kernel) (List.pairwise_singleton _ _)

def newerDatabase : Database .plain :=
  ledgerDatabase [ledgerEntry "0001_init" 1, ledgerEntry "0002_jobs" 2] (by decide +kernel)
    (by decide +kernel)

def olderDump : List (Option Json) :=
  match (dumpDatabase .plain {} none 0 quiet ⟨olderDatabase, 0⟩).1 with
  | .ok lines => lines
  | .error _ => []

def bothMigrations : MigrationRunner .plain where
  migrations := [⟨"0001_init", 1, "", ""⟩, ⟨"0002_jobs", 2, "", ""⟩]
  checksum migration := migration.id
  execSql _ db := .ok db

/-- A restore of an older dump over a newer database succeeds and skips nothing. The second
migration is no longer recorded, and the next boot applies it a second time. -/
theorem older_dump_forgets_migration :
    let run := restoreDatabaseChecked .plain {} olderDump ⟨true, true, false⟩ 0 0 quiet
      ⟨newerDatabase, 0⟩
    run.1.map RestoreReport.skipped = .ok [] ∧
      ledgerIds newerDatabase = ["0001_init", "0002_jobs"] ∧
      ledgerIds run.2.db = ["0001_init"] ∧
      ((bothMigrations.runFrameworkMigrations 2 0 0 quiet run.2).1.map fun result =>
        result.applied.map AppliedMigrationRow.id) = .ok ["0002_jobs"] := by
  refine ⟨by decide +kernel, by decide +kernel, by decide +kernel, by decide +kernel⟩

/-- Restored without `overwrite`, the same dump keeps the ledger. -/
theorem older_dump_kept_without_overwrite :
    let run := restoreDatabaseChecked .plain {} olderDump ⟨true, false, false⟩ 0 0 quiet
      ⟨newerDatabase, 0⟩
    (∃ report, run.1 = .ok report) ∧ ∀ id ∈ ledgerIds newerDatabase, id ∈ ledgerIds run.2.db := by
  intro run
  have hskipped : run.1.map (fun report => report.skipped.length) = .ok 1 := by decide +kernel
  cases hresult : run.1 with
  | error =>
    rw [hresult] at hskipped
    cases hskipped
  | ok report =>
    refine ⟨⟨report, rfl⟩, ?_⟩
    have hrun : run = (.ok report, run.2) := by rw [← hresult]
    have hkept := restore_keeps_ledger_iff .plain {} olderDump ⟨true, false, false⟩ 0 0
      newerDatabase report run.2 hrun
    exact (hkept.mpr fun _ _ _ hoverwrite => absurd hoverwrite Bool.false_ne_true).1

end Frick.Properties
