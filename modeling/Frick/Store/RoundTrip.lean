import Frick.Store.SelectSpec

/-!
# Rows, there and back

The two directions of the text format run against each other, for the rows of the framework's
tables: a row goes into a dump as a line, and the line, when it is restored, adds what it reads back
as.
-/

namespace Frick.Store

open Framework Database SqlRow List Option

variable {engine : SqliteEngine} {L : Type} {format : DumpFormat L}

/-- Every `REAL` in a row is finite and survives being printed and parsed. -/
def RealsSurvive (format : DumpFormat L) (row : SqlRow) : Prop :=
  ∀ entry ∈ row, ∀ bits, entry.2 = .real bits → isFinite bits = true ∧ format.reread bits = bits

/-! ## Rows of the framework's tables -/

/-- A row as it stands in a table of the framework. -/
structure IsRowOf (engine : SqliteEngine) (schema : TableSchema) (row : SqlRow) : Prop where
  framework : schema ∈ frameworkTables
  stored : Stored engine schema row
  numbered : schema.autoId = true → (row.i64 "id").isSome

/-- A database of the framework: of its tables, those that are there have their schema. -/
def OfFramework (db : Database engine) : Prop :=
  ∀ schema ∈ frameworkTables, ∀ t, db.tables schema.name = some t → t.schema = schema

lemma ofFramework_of_migrated {db : Database engine} (h : Migrated db) : OfFramework db := by
  intro schema hschema t ht
  have hsome := h schema hschema
  rw [ht] at hsome
  exact some.inj hsome

section Rows

variable {db : Database engine} {schema : TableSchema}

variable (hdb : OfFramework db) (hschema : schema ∈ frameworkTables)
include hdb hschema

lemma OfFramework.isRowOf {row : SqlRow} (hrow : row ∈ db.rows schema.name) :
    IsRowOf engine schema row := by
  cases ht : db.tables schema.name with
  | none =>
    rw [rows, ht] at hrow
    cases hrow
  | some t =>
    rw [rows_of_tables ht] at hrow
    have hsame := hdb schema hschema t ht
    subst hsame
    exact ⟨hschema, t.stored row hrow, fun hauto => t.numbered hauto row hrow⟩

lemma OfFramework.distinct :
    (db.rows schema.name).Pairwise fun row other => schema.clash row other = false := by
  cases ht : db.tables schema.name with
  | none =>
    rw [rows, ht]
    exact Pairwise.nil
  | some t =>
    rw [rows_of_tables ht, ← hdb schema hschema t ht]
    exact t.distinct

end Rows

/-! ## What comes back -/

section Reread

variable {schema : TableSchema} {row row' : SqlRow}

lemma rereadRow_eq_self (h : RealsSurvive format row) : rereadRow format row = row := by
  conv_rhs => rw [← map_id row]
  refine map_congr_left fun entry hentry => ?_
  obtain ⟨name, value⟩ := entry
  cases value with
  | real bits =>
    obtain ⟨hfin, hsame⟩ := h _ hentry bits rfl
    simp [rereadValue, hfin, hsame]
  | _ => rfl

lemma get?_rereadRow (format : DumpFormat L) (hnodup : (row.map Prod.fst).Nodup)
    {entry : String × SqlValue} (hentry : entry ∈ row) :
    (rereadRow format row).get? entry.1 = some (rereadValue format entry.2) := by
  have hnames : (rereadRow format row).map Prod.fst = row.map Prod.fst := by
    simp [rereadRow]
  rw [← hnames] at hnodup
  have hmem : (entry.1, rereadValue format entry.2) ∈ rereadRow format row :=
    mem_map.mpr ⟨entry, hentry, rfl⟩
  exact get?_of_mem hnodup hmem

lemma withId_rereadRow (hrow : IsRowOf engine schema row) {t : SqlTable engine}
    (ht : t.schema = schema) : t.withId (rereadRow format row) = rereadRow format row := by
  unfold SqlTable.withId
  rw [if_neg]
  rintro ⟨hauto, hnull⟩
  rw [ht] at hauto
  obtain ⟨n, hn⟩ := isSome_iff_exists.mp (hrow.numbered hauto)
  obtain ⟨value, hvalue, hint⟩ := bind_eq_some_iff.mp hn
  obtain ⟨entry, hfound, rfl⟩ := map_eq_some_iff.mp hvalue
  have hname : entry.1 = "id" := by simpa using List.find?_some hfound
  have hget := get?_rereadRow format (nodup_of_stored hrow.stored)
    (mem_of_find?_eq_some hfound)
  rw [hname] at hget
  rw [value, hget] at hnull
  cases hentry : entry.2 with
  | integer =>
    rw [hentry] at hnull
    cases hnull
  | _ =>
    rw [hentry] at hint
    cases hint

lemma realsSurvive_of_storeRow (hrow : IsRowOf engine schema row)
    (h : storeRow engine schema (rereadRow format row) = .ok row') : RealsSurvive format row' := by
  intro entry hentry bits hbits
  obtain ⟨column, hcol, hstore⟩ := mem_storeRow h hentry
  obtain ⟨hvalue, _⟩ := storeColumn_eq_ok hstore
  -- The entry of the dumped row for this column, which is stored as it is.
  have hname : column.name ∈ row.map Prod.fst := by
    rw [map_fst_storeRow hrow.stored]
    exact mem_map_of_mem hcol
  obtain ⟨dumped, hdump, hsame⟩ := mem_map.mp hname
  obtain ⟨column', hcolumn', hstore'⟩ := mem_storeRow hrow.stored hdump
  obtain ⟨hvalue', _⟩ := storeColumn_eq_ok hstore'
  have hnodup := nodup_of_stored hrow.stored
  obtain rfl : column' = column := by
    refine inj_on_of_nodup_map schema.nodup hcolumn' hcol ?_
    rw [← hsame, hvalue']
  have hcoerced : engine.coerce column'.type dumped.2 = dumped.2 := by
    have hget := get?_of_mem hnodup hdump
    rw [hsame] at hget
    rw [hget] at hvalue'
    exact (congrArg Prod.snd hvalue').symm
  have hreread := get?_rereadRow format hnodup hdump
  rw [hsame] at hreread
  rw [hreread, getD_some] at hvalue
  have hres : engine.coerce column'.type (rereadValue format dumped.2) = .real bits := by
    rw [← hbits, hvalue]
  cases hkind : dumped.2 with
  | real b =>
    rw [hkind] at hres
    unfold rereadValue at hres
    dsimp only at hres
    by_cases hfin : isFinite b
    · rw [if_pos hfin] at hres
      rw [engine.coerce_real _ _ _ hres]
      exact ⟨format.isFinite_reread b hfin, format.reread_reread b⟩
    · rw [if_neg hfin, engine.coerce_null] at hres
      cases hres
  | _ =>
    rw [hkind] at hres hcoerced
    cases hcoerced.symm.trans hres

end Reread

/-! ## The checks on a line -/

section Checks

variable {schema : TableSchema} {row : SqlRow} {name s : String}

variable (hrow : IsRowOf engine schema row)
include hrow

lemma lookup_printedRow (hvalue : row.value name = .text s) :
    Json.lookup (printedRow format row) name = some (.string s) := by
  have hkeys : (printedRow format row).map Prod.fst =
      row.map fun entry => (encodeColumn format entry).1 := by
    simp [printedRow]
  have hnodup : ((printedRow format row).map Prod.fst).Nodup := by
    rw [hkeys]
    exact nodup_keys format (nodup_of_stored hrow.stored)
      (plain_of_stored hrow.stored hrow.framework)
  have hmem : (name, SqlValue.text s) ∈ row := by
    unfold value get? at hvalue
    cases hfound : row.find? fun entry => entry.1 = name with
    | none =>
      rw [hfound] at hvalue
      cases hvalue
    | some entry =>
      rw [hfound] at hvalue
      have hname : entry.1 = name := by simpa using List.find?_some hfound
      have hpair : entry = (name, .text s) := Prod.ext hname hvalue
      rw [← hpair]
      exact mem_of_find?_eq_some hfound
  have hprinted : (name, Json.string s) ∈ printedRow format row := mem_map.mpr ⟨_, hmem, rfl⟩
  unfold Json.lookup
  rw [find?_of_nodup hnodup hprinted]
  rfl

lemma text_of_lookup_printedRow (hplain : base64Column? name = none)
    (h : (Json.lookup (printedRow format row) name).bind Json.asStr = some s) :
    row.text name = some s := by
  obtain ⟨value, hlook, hstring⟩ := bind_eq_some_iff.mp h
  obtain ⟨printed, hfound, rfl⟩ := map_eq_some_iff.mp hlook
  have hname : printed.1 = name := by simpa using List.find?_some hfound
  obtain ⟨entry, hentry, rfl⟩ := mem_map.mp (mem_of_find?_eq_some hfound)
  obtain ⟨column, value⟩ := entry
  cases value with
  | text text =>
    obtain rfl : column = name := hname
    obtain rfl : text = s := some.inj hstring
    have hget := get?_of_mem (nodup_of_stored hrow.stored) hentry
    rw [SqlRow.text, hget]
    rfl
  | blob =>
    -- A blob goes under a key with the suffix.
    have hkey : column ++ "_base64" = name := hname
    rw [← hkey, base64Column?_append] at hplain
    cases hplain
  | null | integer => cases hstring
  | real =>
    simp only [encodeColumn] at hstring
    split_ifs at hstring <;> cases hstring

/-- Both checks let a row pass, in whatever state the table of the row is. -/
def Passes (format : DumpFormat L) (scope : String) (schema : TableSchema) (db : Database engine)
    (row : SqlRow) : Prop :=
  ∀ line (db' : Database engine), (∀ name, name ≠ schema.name → db'.rows name = db.rows name) →
    checkRowTenant ⟨schema.name, printedRow format row⟩ scope line = .ok () ∧
      deliveryAllowed db' ⟨schema.name, printedRow format row⟩ scope line = .ok ()

omit hrow in
lemma passes_of_all (db : Database engine) : Passes format "all" schema db row := by
  intro line db' _
  simp [checkRowTenant, deliveryAllowed]

lemma checkRowTenant_of_ofTenant {scope : String}
    (hscope : tenantIdConstrained schema.name → ofTenant scope row) (line : Nat) :
    checkRowTenant ⟨schema.name, printedRow format row⟩ scope line = .ok () := by
  unfold checkRowTenant
  split_ifs with hcheck
  · have hten := hscope hcheck.2
    rw [ofTenant, decide_eq_true_eq] at hten
    unfold assertRowTenant
    rw [lookup_printedRow hrow hten]
    simp [Json.asStr]
  · rfl

lemma deliveryAllowed_of_events {db : Database engine} {scope eventId : String}
    (htext : row.value "event_id" = .text eventId)
    (hevent : ∃ event ∈ db.rows "platform_events", event.value "event_id" = .text eventId)
    (hten : ∀ event ∈ db.rows "platform_events", ofTenant scope event) (line : Nat) :
    deliveryAllowed db ⟨schema.name, printedRow format row⟩ scope line = .ok () := by
  have hfound : eventTenant db eventId = some scope := by
    unfold eventTenant
    cases hfind : (db.rows "platform_events").find?
        fun event => event.value "event_id" = .text eventId with
    | none =>
      obtain ⟨event, hmem, hid⟩ := hevent
      have hno := List.find?_eq_none.mp hfind event hmem
      simp [hid] at hno
    | some event =>
      have hof := hten event (mem_of_find?_eq_some hfind)
      rw [ofTenant, decide_eq_true_eq] at hof
      rwa [bind_some, text_eq_some]
  unfold deliveryAllowed
  rw [lookup_printedRow hrow htext]
  simp [Json.asStr, hfound]

end Checks

/-! ## One line -/

section Line

variable {schema : TableSchema} {row : SqlRow} {db db' : Database engine} {scope : String}
  {line : Nat} {skipped : List SkippedRow}

/-- What a line of a dump can do: add the row that it reads back as, or nothing. -/
structure Adds (format : DumpFormat L) (schema : TableSchema) (row : SqlRow)
    (db db' : Database engine) : Prop where
  schemas : SchemasKept db db'
  others : ∀ name, name ≠ schema.name → db'.rows name = db.rows name
  rows : db'.rows schema.name = db.rows schema.name ∨
    ∃ row', storeRow engine schema (rereadRow format row) = .ok row' ∧
      db'.rows schema.name = db.rows schema.name ++ [row']

variable (hdb : Migrated db) (hrow : IsRowOf engine schema row)
include hdb hrow

lemma adds_of_insertInto (h : db.insertInto schema.name (rereadRow format row) = .ok db') :
    Adds format schema row db db' := by
  obtain ⟨t, t', row', ht, hnew, _, hrows, htabs⟩ := insertInto_eq_ok h
  have hschema := ofFramework_of_migrated hdb schema hrow.framework t ht
  have hstore := (SqlTable.newRow_eq_ok.mp hnew).1
  rw [withId_rereadRow hrow hschema, hschema] at hstore
  refine ⟨schemasKept_insertInto h, fun name hname => rows_update_of_ne htabs hname,
    .inr ⟨row', hstore, ?_⟩⟩
  rw [rows_update_self htabs, hrows, rows_of_tables ht]

lemma lineEffect_adds
    (h : lineEffect format scope line db (rowLine format schema.name row) = .ok (skipped, db')) :
    Adds format schema row db db' ∧ (∀ skip ∈ skipped, skip.type = schema.name) ∧
      deliveryAllowed db ⟨schema.name, printedRow format row⟩ scope line = .ok () := by
  rw [lineEffect_rowLine format hrow.stored hdb hrow.framework] at h
  obtain ⟨_, _, h⟩ := bind_eq_ok.mp h
  obtain ⟨_, hallowed, h⟩ := bind_eq_ok.mp h
  cases hins : db.insertInto schema.name (rereadRow format row) with
  | ok =>
    rw [hins] at h
    cases h
    exact ⟨adds_of_insertInto hdb hrow hins, by simp, hallowed⟩
  | error =>
    rw [hins] at h
    cases h
    exact ⟨⟨fun _ => rfl, fun _ _ => rfl, .inl rfl⟩, by simp, hallowed⟩

lemma exists_lineEffect (hpass : Passes format scope schema db row) (line : Nat) :
    ∃ skipped db', lineEffect format scope line db (rowLine format schema.name row) =
      .ok (skipped, db') := by
  obtain ⟨hten, hdlv⟩ := hpass line db fun _ _ => rfl
  rw [lineEffect_rowLine format hrow.stored hdb hrow.framework, hten, hdlv]
  cases db.insertInto schema.name (rereadRow format row) with
  | ok | error => exact ⟨_, _, rfl⟩

/-- **A row whose doubles survive is put back as it was**, where nothing collides with it. -/
lemma lineEffect_inserts (hsurv : RealsSurvive format row)
    (hdist : ∀ other ∈ db.rows schema.name, schema.clash row other = false)
    (h : lineEffect format scope line db (rowLine format schema.name row) = .ok (skipped, db')) :
    skipped = [] ∧ db'.rows schema.name = db.rows schema.name ++ [row] := by
  obtain ⟨t, ht, hschema⟩ := hdb.exists_table hrow.framework
  have hwith : t.withId row = row := by
    rw [← rereadRow_eq_self hsurv, withId_rereadRow hrow hschema]
  have hnew : t.newRow row = .ok row := by
    rw [rows_of_tables ht] at hdist
    rw [SqlTable.newRow_eq_ok, hwith, hschema]
    refine ⟨hrow.stored, fun ⟨hauto, hnone⟩ => ?_, hdist⟩
    have hsome := hrow.numbered hauto
    rw [isNone_iff_eq_none.mp hnone] at hsome
    cases hsome
  obtain ⟨_, t', hins, _, hrows, htabs⟩ := exists_insertInto ht hnew
  rw [lineEffect_rowLine format hrow.stored hdb hrow.framework] at h
  obtain ⟨_, _, h⟩ := bind_eq_ok.mp h
  obtain ⟨_, _, h⟩ := bind_eq_ok.mp h
  rw [rereadRow_eq_self hsurv, hins] at h
  cases h
  refine ⟨rfl, ?_⟩
  rw [rows_update_self htabs, hrows, rows_of_tables ht]

end Line

/-! ## One table -/

section Table

variable {schema : TableSchema} {rows : List SqlRow} {db : Database engine} {scope : String}

/-- **One table**, if its lines pass the checks: they touch no other table, and they add only rows
that were read back. Rows that do not collide and whose doubles survive are all put back, in the
order of the dump. -/
lemma rowsEffect_table (hdb : Migrated db) (hrows : ∀ row ∈ rows, IsRowOf engine schema row)
    (hpass : ∀ row ∈ rows, Passes format scope schema db row) (line : Nat) :
    ∃ skipped db', rowsEffect format scope line db (rows.map (rowLine format schema.name)) =
        .ok (skipped, db') ∧ (∀ skip ∈ skipped, skip.type = schema.name) ∧ SchemasKept db db' ∧
      (∀ name, name ≠ schema.name → db'.rows name = db.rows name) ∧
      (∀ row' ∈ db'.rows schema.name, row' ∈ db.rows schema.name ∨
        ∃ row ∈ rows, storeRow engine schema (rereadRow format row) = .ok row') ∧
      ((∀ row ∈ rows, RealsSurvive format row) → ((db.rows schema.name ++ rows).Pairwise
          fun row other => schema.clash row other = false) →
        skipped = [] ∧ db'.rows schema.name = db.rows schema.name ++ rows) := by
  induction rows generalizing db line with
  | nil =>
    exact ⟨[], db, rfl, by simp, fun _ => rfl, fun _ _ => rfl, fun _ h => .inl h,
      fun _ _ => ⟨rfl, (append_nil _).symm⟩⟩
  | cons row _ ih =>
    have hrow := hrows row (by simp)
    obtain ⟨first, next, hline⟩ := exists_lineEffect hdb hrow (hpass row (by simp)) line
    obtain ⟨hadds, hfirst, _⟩ := lineEffect_adds hdb hrow hline
    obtain ⟨more, last, hrest, hmore, hschemas, hoth, hadded, hexact⟩ :=
      ih (hdb.of_schemasKept hadds.schemas) (fun r hr => hrows r (by simp [hr]))
        (fun r hr line db'' hdb'' => hpass r (by simp [hr]) line db'' fun name hname =>
          (hdb'' name hname).trans (hadds.others name hname)) (line + 1)
    refine ⟨first ++ more, last, ?_, ?_, ?_, ?_, ?_, ?_⟩
    · rw [map_cons, rowsEffect, hline, ok_bind]
      dsimp only
      rw [hrest]
      rfl
    · intro skip hskip
      exact (mem_append.mp hskip).elim (hfirst skip) (hmore skip)
    · exact fun name => (hschemas name).trans (hadds.schemas name)
    · exact fun name hname => (hoth name hname).trans (hadds.others name hname)
    · intro row' hrow'
      rcases hadded row' hrow' with hpre | ⟨r, hr, hstore⟩
      · rcases hadds.rows with hsame | ⟨new, hstore, hnew⟩
        · rw [hsame] at hpre
          exact .inl hpre
        · rw [hnew, mem_append, mem_singleton] at hpre
          rcases hpre with hold | rfl
          · exact .inl hold
          · exact .inr ⟨row, by simp, hstore⟩
      · exact .inr ⟨r, by simp [hr], hstore⟩
    · intro hsurv hdist
      have hnew : ∀ other ∈ db.rows schema.name, schema.clash row other = false := by
        intro other hother
        exact TableSchema.clash_symm
          ((pairwise_append.mp hdist).2.2 other hother row (by simp))
      obtain ⟨rfl, hnext⟩ := lineEffect_inserts hdb hrow (hsurv row (by simp)) hnew hline
      rw [hnext, append_assoc] at hexact
      exact hexact (fun r hr => hsurv r (by simp [hr])) hdist

end Table

end Frick.Store
