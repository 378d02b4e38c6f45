import Frick.Store.RoundTrip

/-!
# A dump, restored into a fresh database

The backup is meant to be lossless: restoring a dump into a freshly migrated database should give
back every row of the tenant's data, in the order in which it was dumped.

The one thing that does not come back is a double. JSON has no infinities, so an infinite `REAL` is
printed as `null`, and a finite one is what the number parser makes of its digits. A further
restriction comes from the scope check on deliveries, which takes an event id for a string.
-/

namespace Frick.Properties

open Framework Protocol Store List Option

variable {engine : SqliteEngine} {L : Type} {format : DumpFormat L}

/-- The tenant-scoped tables and `platform_event_deliveries`. -/
def tenantDataTables : List String := tenantScopedTables ++ eventChildTables

/-! ## All tables -/

/-- What has to hold of the dumped rows: their doubles survive, and the events of a tenant's
deliveries have textual ids. -/
structure Survives (format : DumpFormat L) (options : DumpOptions) (source : Database engine) :
    Prop where
  reals : ∀ spec ∈ tableOrder, spec.name ∈ tenantDataTables →
    ∀ row ∈ selectTable spec options.wholeDb options.scope source, RealsSurvive format row
  deliveries : options.scope ≠ "all" → ∀ delivery ∈ tenantDeliveries source options.scope,
    (delivery.text "event_id").isSome

lemma exists_schema : ∀ spec ∈ tableOrder, ∃ schema ∈ frameworkTables, schema.name = spec.name := by
  decide +kernel

lemma nodup_names : (tableOrder.map TableSpec.name).Nodup := by
  decide +kernel

lemma scoped_of_constrained : ∀ spec ∈ tableOrder, tenantIdConstrained spec.name →
    spec.name = "tenants" ∨ spec.name ≠ "platform_event_deliveries" ∧ spec.tenantScoped := by
  decide +kernel

lemma not_leavesOut (options : DumpOptions) {spec : TableSpec} (hspec : spec ∈ tableOrder)
    (hdata : spec.name ∈ tenantDataTables) : options.leavesOut spec = false := by
  have hfacts : ∀ spec ∈ tableOrder, spec.name ∈ tenantDataTables →
      spec.name ≠ "admin_audit_log" ∧ spec.name ≠ "frick_migrations" ∧ spec.infraOnly = false := by
    decide +kernel
  obtain ⟨hadmin, hledger, hinfra⟩ := hfacts spec hspec hdata
  simp [DumpOptions.leavesOut, hadmin, hledger, hinfra]

lemma events_before_deliveries {done rest : List TableSpec} {spec : TableSpec}
    (h : tableOrder = done ++ spec :: rest) (hname : spec.name = "platform_event_deliveries") :
    platformEventsSpec ∈ done := by
  have hfacts : ∀ n < 23, (tableOrder[n]?).map TableSpec.name = some "platform_event_deliveries" →
      platformEventsSpec ∈ tableOrder.take n := by
    decide +kernel
  have hlen : done.length < 23 := by
    have hall := congrArg List.length h
    rw [length_append, length_cons] at hall
    have hsize : tableOrder.length = 23 := by decide +kernel
    omega
  have hat : (tableOrder[done.length]?).map TableSpec.name = some "platform_event_deliveries" := by
    rw [h, List.getElem?_append_right (Nat.le_refl _)]
    simp [hname]
  have hmem := hfacts done.length hlen hat
  rwa [h, take_left] at hmem

section Tables

variable {options : DumpOptions} {source db : Database engine}

variable {schema : TableSchema} {spec : TableSpec} {row : SqlRow} {done rest : List TableSpec}

lemma isRowOf_of_selected (hsource : OfFramework source) (hsch : schema ∈ frameworkTables)
    (hname : schema.name = spec.name) :
    ∀ row ∈ selectTable spec options.wholeDb options.scope source, IsRowOf engine schema row := by
  intro row hrow
  have hmem := mem_rows_of_mem_selectTable hrow
  rw [← hname] at hmem
  exact hsource.isRowOf hsch hmem

lemma distinct_platformEvents (hdb : OfFramework db) : (db.rows "platform_events").Pairwise
    fun ev other => platformEventsTable.clash ev other = false := by
  have hsch : platformEventsTable ∈ frameworkTables := by simp [frameworkTables]
  exact hdb.distinct hsch

lemma passes_of_selected (hsource : OfFramework source) (hsurvives : Survives format options source)
    (hspec : spec ∈ tableOrder) (hsch : schema ∈ frameworkTables)
    (hname : schema.name = spec.name)
    (hrow : row ∈ selectTable spec options.wholeDb options.scope source)
    (hevs : spec.name = "platform_event_deliveries" → db.rows "platform_events" =
      selectTable platformEventsSpec options.wholeDb options.scope source) :
    Passes format options.scope schema db row := by
  have hrowOf := isRowOf_of_selected hsource hsch hname row hrow
  by_cases hall : options.scope = "all"
  · rw [hall]
    exact passes_of_all db
  have hwhole : options.wholeDb = false := by simp [DumpOptions.wholeDb, hall]
  intro line db' hoth
  refine ⟨checkRowTenant_of_ofTenant hrowOf (fun hconstrained => ?_) line, ?_⟩
  · rw [hname] at hconstrained
    exact ofTenant_of_mem_selectTable hwhole (scoped_of_constrained spec hspec hconstrained) hrow
  by_cases hdlv : spec.name = "platform_event_deliveries"
  · have hsel : selectTable spec options.wholeDb options.scope source =
        tenantDeliveries source options.scope := by
      simp [selectTable, hdlv, hwhole]
    rw [hsel] at hrow
    obtain ⟨eventId, htext⟩ := isSome_iff_exists.mp (hsurvives.deliveries hall row hrow)
    have hvalue := SqlRow.text_eq_some.mp htext
    obtain ⟨ev, hpair⟩ := exists_pair_of_mem_tenantDeliveries hrow
    obtain ⟨_, hevent, hof⟩ := mem_joinDeliveries.mp hpair
    simp only [isEventOf, sqlEq, Bool.and_eq_true, decide_eq_true_eq] at hof
    have hthere : db'.rows "platform_events" =
        selectTable platformEventsSpec options.wholeDb options.scope source := by
      rw [hoth _ (by rw [hname, hdlv]; decide), hevs hdlv]
    have hscope : ∀ other ∈ db'.rows "platform_events", ofTenant options.scope other := by
      intro other hother
      rw [hthere] at hother
      exact ofTenant_of_mem_selectTable hwhole (Or.inr ⟨by decide, rfl⟩) hother
    refine deliveryAllowed_of_events hrowOf hvalue ⟨ev, ?_, hof.1.2.trans hvalue⟩ hscope line
    rw [hthere]
    simp only [hwhole]
    exact mem_orderBy.mpr (mem_filter.mpr ⟨hevent, hof.2⟩)
  · rw [← hname] at hdlv
    simp [deliveryAllowed, hdlv]

lemma realsSurvive_of_readable (hrow : IsRowOf engine frickMigrationsTable row)
    {mig : AppliedMigrationRow} (h : readAppliedMigration row = .ok mig) :
    RealsSurvive format row := by
  intro ent hent bits hbits
  have hget := SqlRow.get?_of_mem (nodup_of_stored hrow.stored) hent
  rw [hbits] at hget
  have htext : ∀ name, ent.1 = name → row.text name = none := by
    rintro name rfl
    rw [SqlRow.text, hget]
    rfl
  have hint : ∀ name, ent.1 = name → row.i64 name = none := by
    rintro name rfl
    rw [SqlRow.i64, hget]
    rfl
  have hname : ent.1 ∈ row.map Prod.fst := mem_map_of_mem hent
  rw [map_fst_storeRow hrow.stored] at hname
  obtain ⟨_, hid, h⟩ := bind_eq_ok.mp h
  obtain ⟨_, hrevn, h⟩ := bind_eq_ok.mp h
  obtain ⟨_, happ, h⟩ := bind_eq_ok.mp h
  obtain ⟨_, hchecksum, h⟩ := bind_eq_ok.mp h
  obtain ⟨_, hduration, _⟩ := bind_eq_ok.mp h
  simp only [frickMigrationsTable, Column.nullable, Column.required, map_cons, map_nil,
    mem_cons, not_mem_nil, or_false] at hname
  rcases hname with hname | hname | hname | hname | hname
  · rw [htext _ hname] at hid
    cases hid
  · rw [hint _ hname] at hrevn
    cases hrevn
  · rw [htext _ hname] at happ
    cases happ
  · rw [htext _ hname] at hchecksum
    cases hchecksum
  · rw [hint _ hname] at hduration
    cases hduration

lemma eq_ledger_of_name (hsch : schema ∈ frameworkTables)
    (hname : schema.name = "frick_migrations") : schema = frickMigrationsTable := by
  have hnodup : (frameworkTables.map TableSchema.name).Nodup := by decide +kernel
  exact inj_on_of_nodup_map hnodup hsch (by simp [frameworkTables]) hname

/-- Every row of the ledger can be read. -/
def LedgerReadable (db : Database engine) : Prop :=
  ∀ row ∈ db.rows "frick_migrations", ∃ migration, readAppliedMigration row = .ok migration

/-- The database after the lines of some of the tables. -/
structure Restored (options : DumpOptions) (source : Database engine) (done : List TableSpec)
    (db : Database engine) : Prop where
  migrated : Migrated db
  filled : ∀ spec ∈ tableOrder, spec.name ∈ tenantDataTables → db.rows spec.name =
    if spec ∈ done then selectTable spec options.wholeDb options.scope source else []
  ledger : LedgerReadable db

variable (hsource : OfFramework source) (hledger : LedgerReadable source)
  (hsurvives : Survives format options source)
include hsource hledger hsurvives

/-- **One table, put back.** Rows without tenant data may be skipped. -/
lemma restored_table (horder : tableOrder = done ++ spec :: rest)
    (hdb : Restored options source done db) (line : Nat) :
    ∃ skips db', rowsEffect format options.scope line db
        (dumpLines format options source [spec]) = .ok (skips, db') ∧
      (∀ skip ∈ skips, skip.type ∉ tenantDataTables) ∧
      Restored options source (done ++ [spec]) db' := by
  have hspec : spec ∈ tableOrder := by simp [horder]
  have hfilled (other : TableSpec) (hne : other ≠ spec) :
      other ∈ done ++ [spec] ↔ other ∈ done := by
    simp [hne]
  by_cases hout : options.leavesOut spec
  · refine ⟨[], db, ?_, by simp, hdb.migrated, fun other hother hdata => ?_, hdb.ledger⟩
    · rw [dumpLines, flatMap_singleton, if_pos hout]
      rfl
    · have hne : other ≠ spec := by
        rintro rfl
        rw [not_leavesOut options hother hdata] at hout
        cases hout
      rw [hdb.filled other hother hdata]
      simp only [hfilled other hne]
  obtain ⟨schema, hsch, hname⟩ := exists_schema spec hspec
  have hrowsOf : ∀ row ∈ selectTable spec options.wholeDb options.scope source,
      IsRowOf engine schema row := isRowOf_of_selected hsource hsch hname
  have hpass : ∀ row ∈ selectTable spec options.wholeDb options.scope source,
      Passes format options.scope schema db row := by
    intro row hrow
    refine passes_of_selected hsource hsurvives hspec hsch hname hrow fun hdlv => ?_
    have hpre := hdb.filled platformEventsSpec (by decide) (by decide)
    rwa [if_pos (events_before_deliveries horder hdlv)] at hpre
  obtain ⟨skips, db', heff, hskipped, hschemas, hoth, hadded, hexact⟩ :=
    rowsEffect_table hdb.migrated hrowsOf hpass line
  -- A table with tenant data was empty, so that nothing in it collides.
  have hdata : spec.name ∈ tenantDataTables → skips = [] ∧ db'.rows spec.name =
      selectTable spec options.wholeDb options.scope source := by
    intro hdata
    have hnot : spec ∉ done := by
      have hnodup : (done ++ spec :: rest).Nodup := by
        rw [← horder]
        exact Nodup.of_map _ nodup_names
      intro hmem
      exact (nodup_append.mp hnodup).2.2 _ hmem _ (by simp) rfl
    have hrows := hsource.distinct hsch
    rw [hname, hdb.filled spec hspec hdata, if_neg hnot] at hexact
    rw [hname] at hrows
    exact hexact (hsurvives.reals spec hspec hdata)
      (pairwise_selectTable hrows (distinct_platformEvents hsource))
  refine ⟨skips, db', ?_, fun skip hskip => ?_, hdb.migrated.of_schemasKept hschemas,
    fun other hother hother' => ?_, fun row hrow => ?_⟩
  · rwa [dumpLines, flatMap_singleton, if_neg hout, ← hname]
  · rw [hskipped skip hskip, hname]
    intro hmem
    rw [(hdata hmem).1] at hskip
    cases hskip
  · by_cases hsame : other = spec
    · rw [if_pos (by simp [hsame]), hsame]
      exact (hdata (hsame ▸ hother')).2
    · have hne : other.name ≠ schema.name := by
        rw [hname]
        exact fun heq => hsame (inj_on_of_nodup_map nodup_names hother hspec heq)
      rw [hoth _ hne, hdb.filled other hother hother']
      simp only [hfilled other hsame]
  · by_cases hthis : schema.name = "frick_migrations"
    · rw [← hthis] at hrow
      rcases hadded row hrow with hold | ⟨dumped, hdump, hstore⟩
      · rw [hthis] at hold
        exact hdb.ledger row hold
      -- A readable row comes back as it was.
      have hmem := mem_rows_of_mem_selectTable hdump
      rw [← hname, hthis] at hmem
      obtain ⟨mig, hread⟩ := hledger dumped hmem
      have hrowOf := hrowsOf dumped hdump
      have hsame : schema = frickMigrationsTable := eq_ledger_of_name hsch hthis
      rw [hsame] at hrowOf hstore
      rw [rereadRow_eq_self (realsSurvive_of_readable hrowOf hread)] at hstore
      have hstored := hrowOf.stored
      obtain rfl := Except.ok.inj (hstored.symm.trans hstore)
      exact ⟨mig, hread⟩
    · rw [hoth _ (Ne.symm hthis)] at hrow
      exact hdb.ledger row hrow

lemma restored_tables (horder : tableOrder = done ++ rest) (hdb : Restored options source done db)
    (line : Nat) :
    ∃ skips db', rowsEffect format options.scope line db
        (dumpLines format options source rest) = .ok (skips, db') ∧
      (∀ skip ∈ skips, skip.type ∉ tenantDataTables) ∧
      Restored options source tableOrder db' := by
  induction rest generalizing done db line with
  | nil =>
    rw [append_nil] at horder
    rw [← horder] at hdb
    exact ⟨[], db, rfl, by simp, hdb⟩
  | cons spec rest ih =>
    obtain ⟨skips, next, heff, hskipped, hnext⟩ :=
      restored_table hsource hledger hsurvives horder hdb line
    have horder' : tableOrder = (done ++ [spec]) ++ rest := by
      rw [horder, append_assoc]
      rfl
    obtain ⟨more, last, hrest, hmore, hlast⟩ := ih horder' hnext
      (line + (dumpLines format options source [spec]).length)
    refine ⟨skips ++ more, last, ?_, fun skip hskip => ?_, hlast⟩
    · have hlines : dumpLines format options source (spec :: rest) =
          dumpLines format options source [spec] ++ dumpLines format options source rest := by
        simp [dumpLines]
      rw [hlines]
      exact rowsEffect_append heff hrest
    · exact (mem_append.mp hskip).elim (hskipped skip) (hmore skip)

end Tables

/-! ## There and back -/

/-- A target to restore a dump of `source` into: migrated, with a ledger that can be read and has
what the source's ledger has, and without tenant data. -/
structure FreshlyMigrated (source target : Database engine) : Prop where
  migrated : Migrated target
  readable : LedgerReadable target
  covers : ∀ id ∈ ledgerIds source, id ∈ ledgerIds target
  empty : ∀ name ∈ tenantDataTables, target.rows name = []

lemma migrated_ensureLedger {db : Database engine} (h : Migrated db) :
    Migrated db.ensureLedger := by
  intro schema hsch
  by_cases hname : schema.name = "frick_migrations"
  · obtain ⟨t, ht, hsame⟩ := h.exists_table hsch
    rw [hname] at ht
    unfold Database.ensureLedger
    dsimp only
    rw [hname, Function.update_self, ht, getD_some, map_some, hsame]
  · unfold Database.ensureLedger
    dsimp only
    rw [Function.update_of_ne hname]
    exact h schema hsch

lemma ledgerReadable_iff {db : Database engine} :
    LedgerReadable db ↔ ∃ applied, readLedger db = .ok applied := by
  constructor
  · intro h
    exact exists_mapM_eq_ok fun row hrow => h row (mem_orderBy.mp hrow)
  · rintro ⟨applied, happ⟩ row hrow
    obtain ⟨mig, _, hread⟩ := mem_of_mapM_eq_ok happ (mem_orderBy.mpr hrow)
    exact ⟨mig, hread⟩

section Inverse

variable {options : DumpOptions} {source target : Database engine} {opts : RestoreOptions}

lemma exists_row_of_mem_dumpLines (hsource : OfFramework source) {raw : L}
    (h : raw ∈ dumpLines format options source tableOrder) :
    ∃ schema row, IsRowOf engine schema row ∧ raw = rowLine format schema.name row := by
  obtain ⟨spec, hspec, hraw⟩ := mem_flatMap.mp h
  obtain ⟨schema, hsch, hname⟩ := exists_schema spec hspec
  split_ifs at hraw
  · cases hraw
  · obtain ⟨row, hrow, rfl⟩ := mem_map.mp hraw
    exact ⟨schema, row, isRowOf_of_selected hsource hsch hname row hrow, by rw [hname]⟩

lemma cleared_of_fresh (htgt : FreshlyMigrated source target) {scope : String}
    {cleared : Database engine} (h : Cleared opts scope target.ensureLedger cleared) :
    Migrated cleared ∧ LedgerReadable cleared ∧
      ∀ name ∈ tenantDataTables, cleared.rows name = [] := by
  refine ⟨(migrated_ensureLedger htgt.migrated).of_schemasKept h.schemas, ?_, ?_⟩
  · intro row hrow
    rw [h.rows, Database.rows_ensureLedger] at hrow
    split_ifs at hrow
    · exact htgt.readable row (mem_of_mem_filter hrow)
    · exact htgt.readable row hrow
  · intro name hname
    rw [h.rows, Database.rows_ensureLedger, htgt.empty name hname]
    split_ifs <;> rfl

/-- **Only rows whose doubles survive get into the target**, and only deliveries with a textual
event id get past the scope check. -/
lemma survives_of_restored (hsource : OfFramework source) (htgt : FreshlyMigrated source target)
    {cleared after : Database engine} {skips : List SkippedRow} {line : Nat}
    (hclear : Cleared opts options.scope target.ensureLedger cleared)
    (heff : rowsEffect format options.scope line cleared
      (dumpLines format options source tableOrder) = .ok (skips, after))
    (hsame : ∀ spec ∈ tableOrder, spec.name ∈ tenantDataTables →
      selectTable spec options.wholeDb options.scope after =
        selectTable spec options.wholeDb options.scope source) :
    Survives format options source := by
  let Sound : Database engine → Prop := fun db => Migrated db ∧
    ∀ name ∈ tenantDataTables, ∀ row ∈ db.rows name, RealsSurvive format row
  have hstart : Sound cleared := by
    obtain ⟨hmig, _, hempty⟩ := cleared_of_fresh htgt hclear
    refine ⟨hmig, fun name hname row hrow => ?_⟩
    rw [hempty name hname] at hrow
    cases hrow
  have hstep : ∀ raw ∈ dumpLines format options source tableOrder, ∀ line db skips db',
      Sound db → lineEffect format options.scope line db raw = .ok (skips, db') →
      Sound db' := by
    rintro raw hraw line db skips db' ⟨hmig, hsound⟩ hline
    obtain ⟨schema, row, hrow, rfl⟩ := exists_row_of_mem_dumpLines hsource hraw
    obtain ⟨hadds, _⟩ := lineEffect_adds hmig hrow hline
    refine ⟨hmig.of_schemasKept hadds.schemas, fun name hname row' hrow' => ?_⟩
    by_cases hthis : name = schema.name
    · rw [hthis] at hrow' hname
      rcases hadds.rows with hkept | ⟨new, hstore, hnew⟩
      · rw [hkept] at hrow'
        exact hsound _ hname row' hrow'
      · rw [hnew, mem_append, mem_singleton] at hrow'
        rcases hrow' with hold | rfl
        · exact hsound _ hname row' hold
        · exact realsSurvive_of_storeRow hrow hstore
    · rw [hadds.others name hthis] at hrow'
      exact hsound name hname row' hrow'
  obtain ⟨hend, hturns⟩ := rowsEffect_rule hstep hstart heff
  refine ⟨fun spec hspec hdata row hrow => ?_, fun hscope delivery hdlv => ?_⟩
  · rw [← hsame spec hspec hdata] at hrow
    exact hend.2 spec.name hdata row (mem_rows_of_mem_selectTable hrow)
  let spec : TableSpec :=
    ⟨"platform_event_deliveries", false, false, ["consumer", "event_id"]⟩
  have hspec : spec ∈ tableOrder := by decide
  have hsel : selectTable spec options.wholeDb options.scope source =
      tenantDeliveries source options.scope := by
    simp [selectTable, spec, DumpOptions.wholeDb, hscope]
  have hline : rowLine format platformEventDeliveriesTable.name delivery ∈
      dumpLines format options source tableOrder := by
    refine mem_flatMap.mpr ⟨spec, hspec, ?_⟩
    rw [hsel]
    exact mem_map_of_mem hdlv
  obtain ⟨line, db, ⟨skips, db'⟩, ⟨hmig, _⟩, hturn⟩ := hturns _ hline
  have hrow : IsRowOf engine platformEventDeliveriesTable delivery := by
    have hname : platformEventDeliveriesTable.name = spec.name := rfl
    rw [← hsel] at hdlv
    exact isRowOf_of_selected hsource (by simp [frameworkTables]) hname delivery hdlv
  have hallowed := (lineEffect_adds hmig hrow hturn).2.2
  unfold deliveryAllowed at hallowed
  rw [if_pos ⟨hscope, rfl⟩] at hallowed
  dsimp only at hallowed
  split_ifs at hallowed with hmatch
  obtain ⟨eventId, hid, _⟩ := bind_eq_some_iff.mp hmatch
  rw [text_of_lookup_printedRow hrow (by decide) hid]
  rfl

lemma selectTable_of_restored {db : Database engine} (hdb : Restored options source tableOrder db)
    {spec : TableSpec} (hspec : spec ∈ tableOrder) (hdata : spec.name ∈ tenantDataTables) :
    selectTable spec options.wholeDb options.scope db =
      selectTable spec options.wholeDb options.scope source := by
  have hrows := hdb.filled spec hspec hdata
  rw [if_pos hspec] at hrows
  have hevs := hdb.filled platformEventsSpec (by decide) (by decide)
  exact selectTable_selected hrows hevs
    (distinct_platformEvents (ofFramework_of_migrated hdb.migrated))

end Inverse

def freshDatabase : Database .plain where
  tables name :=
    (frameworkTables.find? fun schema => schema.name = name).map (SqlTable.empty .plain)
  ledger := by
    intro t ht
    obtain rfl := some.inj ht
    rfl

lemma migrated_freshDatabase : Migrated freshDatabase := by
  have hnodup : (frameworkTables.map TableSchema.name).Nodup := by decide +kernel
  intro schema hsch
  change Option.map _
    (Option.map _ (frameworkTables.find? fun other => other.name = schema.name)) = _
  rw [find?_of_nodup hnodup hsch]
  rfl

def seeded (rows : List (String × SqlRow)) : Database .plain :=
  rows.foldl (fun db row => ((db.insertInto row.1 row.2).toOption).getD db) freshDatabase

lemma migrated_seeded (rows : List (String × SqlRow)) : Migrated (seeded rows) := by
  unfold seeded
  have hstart := migrated_freshDatabase
  generalize freshDatabase = db at hstart ⊢
  induction rows generalizing db with
  | nil => exact hstart
  | cons row _ ih =>
    refine ih _ ?_
    dsimp only
    cases hins : db.insertInto row.1 row.2 with
    | error => exact hstart
    | ok => exact hstart.of_schemasKept (schemasKept_insertInto hins)

/-- A registration lock that never ends, as `9e999` in an `INTEGER` column is stored. -/
def infiniteLock : SqlRow :=
  [("tenant_id", .text "acme"), ("user_id", .text "u1"), ("verifier_hash", .text "v"),
    ("salt", .text "s"), ("enabled", .integer 1), ("failed_attempts", .integer 0),
    ("locked_until_ms", .real 0x7ff0000000000000), ("last_activity_ms", .integer 0),
    ("created_at", .text "t"), ("updated_at", .text "t")]

def lockedDatabase : Database .plain := seeded [("auth_registration_locks", infiniteLock)]

def lockedDump : List (Option Json) :=
  match (dumpDatabase .plain {} none 0 quiet ⟨lockedDatabase, 0⟩).1 with
  | .ok lines => lines
  | .error _ => []

def platformEvent (id : Int64) (eventId tenantId : String) : SqlRow :=
  [("id", .integer id), ("event_id", .text eventId), ("schema_version", .integer 1),
    ("accepted_at", .text "t"), ("occurred_at", .text "t"), ("family", .text "f"),
    ("name", .text "n"), ("source", .text "s"), ("tenant_id", .text tenantId),
    ("account_id", .null), ("subject_id", .null), ("trace_id", .null), ("idempotency_key", .null),
    ("payload", .text "x"), ("attributes", .text "x")]

/-- An event of `acme` and its delivery, and an event of another tenant. -/
def deliveredDatabase : Database .plain :=
  seeded
    [("platform_events", platformEvent 7 "e7" "acme"),
      ("platform_events", platformEvent 8 "e8" "globex"),
      ("platform_event_deliveries", [("consumer", .text "c"), ("event_id", .text "e7"),
        ("status", .text "pending"), ("attempt_count", .integer 0), ("available_at", .text "t"),
        ("claimed_at", .null), ("acked_at", .null), ("dead_lettered_at", .null),
        ("last_error", .null)])]

def noReal (row : SqlRow) : Bool :=
  row.all fun entry =>
    match entry.2 with
    | .real _ => false
    | _ => true

lemma realsSurvive_of_noReal {row : SqlRow} (h : noReal row) : RealsSurvive format row := by
  intro ent hent bits hbits
  have hnot := all_eq_true.mp h ent hent
  rw [hbits] at hnot
  cases hnot

end Frick.Properties
