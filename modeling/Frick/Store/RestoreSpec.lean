import Frick.Store.BackupSpec

/-!
# What the lines of a dump do

With a driver that does not fail, inserting the lines of a dump is a function of the database.
`lineEffect` and `rowsEffect` are that function, and `restoreRows_quiet` connects it to the sequence
of driver calls, savepoints and the column cache included. A whole restore is then: clear the scope,
and let the lines take effect.
-/

namespace Frick.Store

open Framework Protocol Action List Option

variable {engine : SqliteEngine} {L : Type}

/-! ## The effect of lines -/

section Effect

variable (format : DumpFormat L)

/-- The columns that `insert_row` inserts into a table with the columns `allowed`. -/
def decodeRow (allowed : Option (List String)) (parsed : ParsedRow) : Except String SqlRow :=
  match allowed with
  | none => .error s!"missingTable: {parsed.type}"
  | some allowed => do
    let columns ← decodeColumns format parsed.type allowed parsed.row []
    if columns.isEmpty then .error s!"emptyRow: {parsed.type}" else .ok columns

def insertParsed (db : Database engine) (parsed : ParsedRow) : Except String (Database engine) := do
  let columns ← decodeRow format (tableColumns db parsed.type) parsed
  db.insertInto parsed.type columns

def deliveryAllowed (db : Database engine) (parsed : ParsedRow) (scope : String) (line : Nat) :
    Except RestoreError Unit :=
  if scope ≠ "all" ∧ parsed.type = "platform_event_deliveries" then
    let eventId := (Json.lookup parsed.row "event_id").bind Json.asStr
    if eventId.bind (eventTenant db) = some scope then .ok ()
    else .error (.refused (.tenantScopeMismatch "platform_event_deliveries" eventId scope line))
  else .ok ()

/-- What one line does: the row it skips, if it does, and the database it leaves. -/
def lineEffect (scope : String) (line : Nat) (db : Database engine) (raw : L) :
    Except RestoreError (List SkippedRow × Database engine) :=
  match parseRowLine format raw with
  | none => .ok ([⟨"<unparseable>", "JSON parse error", some line⟩], db)
  | some parsed =>
    if parsed.type ∉ allTables then .ok ([⟨parsed.type, "unknownTableType", some line⟩], db)
    else do
      checkRowTenant parsed scope line
      deliveryAllowed db parsed scope line
      match insertParsed format db parsed with
      | .ok db => .ok ([], db)
      | .error reason => .ok ([⟨parsed.type, reason, some line⟩], db)

def rowsEffect (scope : String) : Nat → Database engine → List L →
    Except RestoreError (List SkippedRow × Database engine)
  | _, db, [] => .ok ([], db)
  | line, db, raw :: rest => do
    let (skipped, db) ← lineEffect format scope line db raw
    let (more, db) ← rowsEffect scope (line + 1) db rest
    pure (skipped ++ more, db)

end Effect

variable {line : Nat} {scope : String} {skipped : List SkippedRow} {db db' : Database engine}
  {format : DumpFormat L} {rows : List L}

lemma rowsEffect_append {db'' : Database engine} {more : List L} {skipped' : List SkippedRow}
    (h : rowsEffect format scope line db rows = .ok (skipped, db'))
    (h' : rowsEffect format scope (line + rows.length) db' more = .ok (skipped', db'')) :
    rowsEffect format scope line db (rows ++ more) = .ok (skipped ++ skipped', db'') := by
  induction rows generalizing line db skipped with
  | nil =>
    cases h
    exact h'
  | cons _ rest ih =>
    obtain ⟨⟨first, next⟩, hline, h⟩ := bind_eq_ok.mp h
    obtain ⟨⟨second, last⟩, hrest, h⟩ := bind_eq_ok.mp h
    cases h
    rw [length_cons, Nat.add_comm rest.length 1, ← Nat.add_assoc] at h'
    rw [cons_append, rowsEffect, hline, ok_bind]
    dsimp only
    rw [ih hrest h', append_assoc]
    rfl

/-- **The rule for lines.** What every line keeps holds at the end, and every line has had its turn
in a state where it held. -/
lemma rowsEffect_rule {P : Database engine → Prop}
    (hstep : ∀ raw ∈ rows, ∀ line db skipped db', P db →
      lineEffect format scope line db raw = .ok (skipped, db') → P db') (hdb : P db)
    (h : rowsEffect format scope line db rows = .ok (skipped, db')) :
    P db' ∧ ∀ raw ∈ rows, ∃ line db₀ out, P db₀ ∧
      lineEffect format scope line db₀ raw = .ok out := by
  induction rows generalizing line db skipped with
  | nil =>
    cases h
    exact ⟨hdb, by simp⟩
  | cons raw _ ih =>
    obtain ⟨⟨first, next⟩, hline, h⟩ := bind_eq_ok.mp h
    obtain ⟨⟨more, last⟩, hrest, h⟩ := bind_eq_ok.mp h
    cases h
    have hnext := hstep raw (by simp) line db first next hdb hline
    obtain ⟨hlast, hturns⟩ := ih (fun other hother => hstep other (by simp [hother])) hnext hrest
    exact ⟨hlast, forall_mem_cons.mpr ⟨⟨line, db, _, hdb, hline⟩, hturns⟩⟩

/-- The cached columns are those of the tables. -/
def CacheSound (cache : ColumnCache) (db : Database engine) : Prop :=
  ∀ table columns, cache.lookup table = some columns → tableColumns db table = some columns

lemma SchemasKept.tableColumns_eq (h : SchemasKept db db') (table : String) :
    tableColumns db' table = tableColumns db table := by
  have hcols : ∀ db : Database engine, tableColumns db table =
      ((db.tables table).map SqlTable.schema).map fun schema => schema.columns.map Column.name := by
    intro db
    rw [Option.map_map]
    rfl
  rw [hcols, hcols, h table]

lemma lineEffect_eq_ok {raw : L} (h : lineEffect format scope line db raw = .ok (skipped, db')) :
    (db' = db ∧ ∀ parsed, parseRowLine format raw = some parsed → parsed.type ∈ allTables →
        ∃ reason, insertParsed format db parsed = .error reason) ∨
      ∃ parsed, parseRowLine format raw = some parsed ∧ parsed.type ∈ allTables ∧
        insertParsed format db parsed = .ok db' := by
  unfold lineEffect at h
  cases hparse : parseRowLine format raw with
  | none =>
    rw [hparse] at h
    cases h
    exact .inl ⟨rfl, nofun⟩
  | some parsed =>
    rw [hparse] at h
    dsimp only at h
    by_cases htable : parsed.type ∈ allTables
    · rw [if_neg (not_not.mpr htable)] at h
      obtain ⟨_, _, h⟩ := bind_eq_ok.mp h
      obtain ⟨_, _, h⟩ := bind_eq_ok.mp h
      cases hins : insertParsed format db parsed with
      | ok =>
        rw [hins] at h
        cases h
        exact .inr ⟨parsed, rfl, htable, hins⟩
      | error reason =>
        rw [hins] at h
        cases h
        refine .inl ⟨rfl, fun other hother _ => ?_⟩
        obtain rfl := some.inj hother
        exact ⟨reason, hins⟩
    · rw [if_pos htable] at h
      cases h
      refine .inl ⟨rfl, fun other hother htable' => ?_⟩
      obtain rfl := some.inj hother
      exact absurd htable' htable

section Quiet

variable (format : DumpFormat L) {s : Session (Database engine)}

variable {cache : ColumnCache} {progress : RestoreProgress} {header : DumpHeader}
  {opts : RestoreOptions} {rows : List L} {target : Database engine}

lemma getTableColumns_quiet (hcache : CacheSound cache s.db) (table : String) :
    ∃ cache' calls, getTableColumns table cache quiet s =
        (.ok (tableColumns s.db table, cache'), ⟨s.db, calls⟩) ∧ CacheSound cache' s.db := by
  unfold getTableColumns
  cases hlook : cache.lookup table with
  | some cols => exact ⟨cache, s.calls, by rw [hcache table cols hlook]; rfl, hcache⟩
  | none =>
    dsimp only
    have hquery : (query fun db => .ok (tableColumns db table) :
        DbAction engine StoreError _) quiet s =
          (.ok (tableColumns s.db table), ⟨s.db, s.calls + 1⟩) := query_quiet rfl
    rw [bind_run_ok hquery]
    cases hcols : tableColumns s.db table with
    | none => exact ⟨cache, s.calls + 1, rfl, hcache⟩
    | some cols =>
      refine ⟨(table, cols) :: cache, s.calls + 1, rfl, fun other found hfound => ?_⟩
      rw [lookup_cons] at hfound
      by_cases hother : other = table
      · subst hother
        rw [beq_self_eq_true] at hfound
        obtain rfl := some.inj hfound
        exact hcols
      · rw [beq_eq_false_iff_ne.mpr hother] at hfound
        exact hcache other found hfound

lemma insertRow_quiet (hcache : CacheSound cache s.db) (parsed : ParsedRow) :
    ∃ cache' calls, CacheSound cache' s.db ∧ match insertParsed format s.db parsed with
      | .ok db => insertRow format parsed cache quiet s = (.ok (.ok (), cache'), ⟨db, calls⟩)
      | .error reason =>
        insertRow format parsed cache quiet s = (.ok (.error reason, cache'), ⟨s.db, calls⟩) := by
  obtain ⟨cache', calls, hcols, hsound⟩ := getTableColumns_quiet hcache parsed.type
  have hattempt : (attempt (getTableColumns parsed.type cache) :
      DbAction engine RestoreError _) quiet s =
        (.ok (.ok (tableColumns s.db parsed.type, cache')), ⟨s.db, calls⟩) := by
    unfold attempt
    rw [hcols]
  unfold insertParsed decodeRow insertRow
  rw [bind_run_ok hattempt]
  cases htable : tableColumns s.db parsed.type with
  | none => exact ⟨cache', calls, hsound, rfl⟩
  | some allowed =>
    dsimp only
    cases hdec : decodeColumns format parsed.type allowed parsed.row [] with
    | error =>
      refine ⟨cache', calls, hsound, ?_⟩
      simp only [insertDecoded, hdec]
      rfl
    | ok cols =>
      rw [ok_bind]
      by_cases hnone : cols.isEmpty
      · refine ⟨cache', calls, hsound, ?_⟩
        simp only [Action.bind_run, Action.attempt, insertDecoded, Action.ofExcept, hdec,
          if_pos hnone]
        rfl
      · refine ⟨cache', calls + 1, hsound, ?_⟩
        rw [if_neg hnone, ok_bind]
        cases hins : s.db.insertInto parsed.type cols with
        | error | ok =>
          simp only [Action.bind_run, Action.attempt, insertDecoded, Action.ofExcept,
            hdec, if_neg hnone, Action.mapError, Action.call, hins]
          rfl

lemma checkDelivery_quiet (parsed : ParsedRow) (scope : String) (line : Nat) :
    ∃ calls, checkDelivery parsed scope line quiet s =
      (deliveryAllowed s.db parsed scope line, ⟨s.db, calls⟩) := by
  unfold checkDelivery deliveryAllowed
  by_cases hscope : scope ≠ "all" ∧ parsed.type = "platform_event_deliveries"
  · rw [if_pos hscope, if_pos hscope]
    unfold assertDeliveryScope
    cases hid : (Json.lookup parsed.row "event_id").bind Json.asStr with
    | none => exact ⟨s.calls, by simp [Action.ofExcept]⟩
    | some eventId =>
      refine ⟨s.calls + 1, ?_⟩
      dsimp only
      have hquery : mapError RestoreError.store (query fun db =>
          .ok (eventTenant db eventId) : DbAction engine StoreError _) quiet s =
            (.ok (eventTenant s.db eventId), ⟨s.db, s.calls + 1⟩) := rfl
      rw [bind_run_ok hquery, bind_some]
      by_cases hmatch : eventTenant s.db eventId = some scope
      · rw [if_pos hmatch, if_pos hmatch]
        rfl
      · rw [if_neg hmatch, if_neg hmatch]
        rfl
  · rw [if_neg hscope, if_neg hscope]
    exact ⟨s.calls, rfl⟩

/-- A run of the loop, or of one of its rounds, does what its effect says. -/
def Agrees (progress : RestoreProgress)
    (effect : Except RestoreError (List SkippedRow × Database engine))
    (run : Except RestoreError RestoreProgress × Session (Database engine)) : Prop :=
  match effect with
  | .error e => run.1 = .error e
  | .ok (skipped, db) => ∃ progress', run.1 = .ok progress' ∧ run.2.db = db ∧
      CacheSound progress'.columnCache db ∧ progress'.skipped = progress.skipped ++ skipped

section

variable (hcache : CacheSound progress.columnCache s.db)
include hcache

lemma insertBehindSavepoint_quiet
    (parsed : ParsedRow) (line : Nat) :
    Agrees progress
      (match insertParsed format s.db parsed with
        | .ok db => .ok ([], db)
        | .error reason => .ok ([⟨parsed.type, reason, some line⟩], s.db))
      (insertBehindSavepoint format parsed progress line quiet s) := by
  have hsave : mapError RestoreError.store (query fun db => .ok db :
      DbAction engine StoreError _) quiet s = (.ok s.db, ⟨s.db, s.calls + 1⟩) := rfl
  obtain ⟨cache, calls, hsound, hrun⟩ :=
    insertRow_quiet format (s := ⟨s.db, s.calls + 1⟩) hcache parsed
  unfold insertBehindSavepoint
  rw [bind_run_ok hsave]
  cases hins : insertParsed format s.db parsed with
  | error =>
    rw [hins] at hrun
    rw [bind_run_ok hrun]
    exact ⟨_, rfl, rfl, hsound, rfl⟩
  | ok =>
    rw [hins] at hrun
    rw [bind_run_ok hrun]
    refine ⟨_, rfl, rfl, fun table cols hlook => ?_, (append_nil _).symm⟩
    obtain ⟨columns', _, hinto⟩ := bind_eq_ok.mp hins
    rw [(schemasKept_insertInto hinto).tableColumns_eq]
    exact hsound table cols hlook

lemma restoreLine_quiet (scope : String) (line : Nat) (raw : L) :
    Agrees progress (lineEffect format scope line s.db raw)
      (restoreLine format scope progress line raw quiet s) := by
  unfold lineEffect restoreLine
  cases hparse : parseRowLine format raw with
  | none => exact ⟨_, rfl, rfl, hcache, rfl⟩
  | some parsed =>
    dsimp only
    by_cases htable : parsed.type ∉ allTables
    · rw [if_pos htable, if_pos htable]
      exact ⟨_, rfl, rfl, hcache, rfl⟩
    rw [if_neg htable, if_neg htable]
    obtain ⟨calls, hdlv⟩ := checkDelivery_quiet (s := s) parsed scope line
    cases hten : checkRowTenant parsed scope line with
    | error => rfl
    | ok u =>
      have hfirst : (ofExcept (.ok u) : DbAction engine RestoreError Unit) quiet s =
          (.ok u, s) := rfl
      rw [bind_run_ok hfirst]
      cases hallowed : deliveryAllowed s.db parsed scope line with
      | error =>
        rw [hallowed] at hdlv
        rw [bind_run_error hdlv]
        rfl
      | ok =>
        rw [hallowed] at hdlv
        rw [bind_run_ok hdlv]
        exact insertBehindSavepoint_quiet format (s := ⟨s.db, calls⟩) hcache parsed line

/-- **The loop of a restore**, on a driver that does not fail. -/
lemma restoreRows_quiet (scope : String) (line : Nat) (rows : List L) :
    Agrees progress (rowsEffect format scope line s.db rows)
      (restoreRows format scope progress line rows quiet s) := by
  induction rows generalizing progress line s with
  | nil => exact ⟨progress, rfl, rfl, hcache, (append_nil _).symm⟩
  | cons raw rest ih =>
    have hline := restoreLine_quiet format hcache scope line raw
    rw [rowsEffect, restoreRows]
    cases hrun : restoreLine format scope progress line raw quiet s with
    | mk result t =>
      cases heff : lineEffect format scope line s.db raw with
      | error e =>
        rw [heff, hrun] at hline
        obtain rfl : result = .error e := hline
        rw [bind_run_error hrun]
        rfl
      | ok effect =>
        obtain ⟨skipped, db⟩ := effect
        rw [heff, hrun] at hline
        obtain ⟨progress', hok, hdb, hcache', hskip⟩ := hline
        subst hok hdb
        rw [ok_bind, bind_run_ok hrun]
        have hrest := ih hcache' (line + 1)
        dsimp only
        cases hmore : rowsEffect format scope (line + 1) t.db rest with
        | error =>
          rwa [hmore] at hrest
        | ok effect =>
          rw [hmore] at hrest
          obtain ⟨progress'', hok', hdb', hcache'', hskipped'⟩ := hrest
          refine ⟨progress'', hok', hdb', hcache'', ?_⟩
          rw [hskipped', hskip, append_assoc]

end

/-- **A restore that succeeds**, on a driver that does not fail: the scope is cleared, and then the
lines of the dump take effect. -/
lemma restoreAccepted_quiet_eq_ok {schema : FrickSchema} {startMs endMs : Int}
    {report : RestoreReport} {after : Session (Database engine)}
    (h : restoreAccepted format schema opts startMs endMs header rows quiet ⟨target, 0⟩ =
      (.ok report, after)) :
    ∃ cleared, Cleared opts header.tenantId target.ensureLedger cleared ∧
      rowsEffect format header.tenantId 2 cleared rows = .ok (report.skipped, after.db) := by
  obtain ⟨applied, s, hlist, h⟩ := bind_run_eq_ok h
  have hlisted := listAppliedMigrations_eq_ok (mapError_run_eq_ok.mp hlist)
  by_cases hmiss : missingMigrations header applied = []
  · rw [if_neg (not_not.mpr hmiss)] at h
    obtain ⟨progress, t, hfill, h⟩ := bind_run_eq_ok h
    cases h
    obtain ⟨_, t', hclear, hrows⟩ := bind_run_eq_ok hfill
    obtain ⟨u, hbody, hdb⟩ := transaction_eq_ok hrows
    have hcleared := cleared_of_clearScope hclear
    rw [hlisted.2] at hcleared
    refine ⟨t'.db, hcleared, ?_⟩
    have hnone : CacheSound ({} : RestoreProgress).columnCache t'.db := fun _ _ hfound => by
      cases hfound
    have hagr := restoreRows_quiet format (s := ⟨t'.db, t'.calls + 1⟩) hnone
      header.tenantId 2 rows
    rw [hbody] at hagr
    cases heff : rowsEffect format header.tenantId 2 t'.db rows with
    | error =>
      rw [heff] at hagr
      cases hagr
    | ok effect =>
      rw [heff] at hagr
      obtain ⟨progress', hok, hdb', _, hskip⟩ := hagr
      obtain rfl := Except.ok.inj hok
      rw [hdb, hdb', hskip]
      rfl
  · rw [if_pos hmiss] at h
    cases h

lemma exists_restoreAccepted (schema : FrickSchema) (startMs endMs : Int)
    {applied : List AppliedMigrationRow} (hledg : readLedger target = .ok applied)
    (hmiss : missingMigrations header applied = []) {cleared : Session (Database engine)}
    (hclear : clearScope opts header.tenantId quiet ⟨target.ensureLedger, 0 + 2⟩ =
      (.ok (), cleared))
    {skipped : List SkippedRow} {db : Database engine}
    (heff : rowsEffect format header.tenantId 2 cleared.db rows = .ok (skipped, db)) :
    ∃ report after, restoreAccepted format schema opts startMs endMs header rows quiet
        ⟨target, 0⟩ = (.ok report, after) ∧ report.skipped = skipped ∧ after.db = db := by
  have hnone : CacheSound ({} : RestoreProgress).columnCache cleared.db := fun _ _ hfound => by
    cases hfound
  have hagr := restoreRows_quiet format (s := ⟨cleared.db, cleared.calls + 1⟩) hnone
    header.tenantId 2 rows
  rw [heff] at hagr
  cases hrun : restoreRows format header.tenantId {} 2 rows quiet
      ⟨cleared.db, cleared.calls + 1⟩ with
  | mk _ s =>
    rw [hrun] at hagr
    obtain ⟨progress, hok, hdb, _, hskip⟩ := hagr
    subst hok
    have hfill : fillScope format opts header.tenantId rows quiet
        ⟨target.ensureLedger, 0 + 2⟩ = (.ok progress, ⟨s.db, s.calls + 1⟩) :=
      (bind_run_ok hclear).trans (transaction_quiet hrun)
    refine ⟨⟨progress.counts, progress.skipped,
      ⟨header.schemaHash, schema.hash, header.schemaHash = schema.hash⟩,
      isoFromEpochMs startMs, isoFromEpochMs endMs⟩, ⟨s.db, s.calls + 1⟩, ?_, hskip, hdb⟩
    unfold restoreAccepted
    rw [bind_run_ok (mapError_run_eq_ok.mpr (listAppliedMigrations_quiet hledg 0)),
      if_neg (not_not.mpr hmiss)]
    exact bind_run_ok hfill

end Quiet

end Frick.Store
