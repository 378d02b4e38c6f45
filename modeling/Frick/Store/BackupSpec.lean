import Frick.Store.Backup

/-!
# What a restore does before it inserts

One lemma for each part of `restore_database_checked` that comes before the rows are inserted, in
terms of the rows of the tables: which rows a truncation removes, and what the checks read.
-/

namespace Frick.Store

open Framework Action.Respects Database

variable {engine : SqliteEngine}

/-- The rows that belong to the scope of a restore. -/
def inScope (db : Database engine) (scope name : String) (row : SqlRow) : Bool :=
  if scope = "all" then name ∈ truncateAllTables
  else if name = "platform_event_deliveries" then ofTenantEvent db scope row
  else (name ∈ tenantScopedTables ∨ name = "tenants") ∧ ofTenant scope row

variable {db db' : Database engine} {s : Session (Database engine)} {table : String}

lemma inScope_congr (h : ∀ name, db'.rows name = db.rows name) (scope name : String)
    (row : SqlRow) : inScope db' scope name row = inScope db scope name row := by
  unfold inScope ofTenantEvent
  rw [h "platform_events"]

/-! ## What truncation does -/

section Truncation

variable {faults : Faults StoreError} {s s' : Session (Database engine)}

lemma rows_deleteIfExists {table : String} {p : SqlRow → Bool}
    (h : deleteIfExists table p faults s = (.ok (), s')) (name : String) :
    s'.db.rows name =
      if name = table then (s.db.rows name).filter fun row => !p row else s.db.rows name := by
  obtain ⟨there, t, hexi, h⟩ := Action.bind_run_eq_ok h
  obtain ⟨hthere, hdb⟩ := Action.query_eq_ok hexi
  obtain rfl := Except.ok.inj hthere
  cases htable : s.db.tables table with
  | none =>
    rw [htable] at h
    cases h
    rw [hdb]
    split_ifs with hname
    · rw [hname, rows, htable]
      rfl
    · rfl
  | some =>
    rw [htable] at h
    rw [Action.exec_eq_ok h, hdb, rows_deleteWhere]
    split_ifs with hname
    · rw [hname]
    · rfl

lemma rows_deleteAll {tables : List String} {p : SqlRow → Bool}
    (h : (tables.forM fun table => deleteIfExists table p) faults s = (.ok (), s'))
    (name : String) :
    s'.db.rows name =
      if name ∈ tables then (s.db.rows name).filter fun row => !p row else s.db.rows name := by
  induction tables generalizing s with
  | nil =>
    cases h
    simp
  | cons table rest ih =>
    obtain ⟨_, t, hfirst, hrest⟩ := Action.bind_run_eq_ok h
    rw [ih hrest, rows_deleteIfExists hfirst]
    by_cases hname : name = table <;> by_cases hrest : name ∈ rest <;>
      simp [hname]

lemma rows_deleteDeliveriesForTenant {scope : String}
    (h : deleteDeliveriesForTenant scope faults s = (.ok (), s')) (name : String) :
    s'.db.rows name = if name = "platform_event_deliveries" then
      (s.db.rows name).filter fun row => !ofTenantEvent s.db scope row else s.db.rows name := by
  obtain ⟨there, t, hexi, h⟩ := Action.bind_run_eq_ok h
  obtain ⟨hthere, hdb⟩ := Action.query_eq_ok hexi
  obtain rfl := Except.ok.inj hthere
  cases hdlvs : s.db.tables "platform_event_deliveries" with
  | none =>
    rw [hdlvs] at h
    cases h
    rw [hdb]
    split_ifs with hname
    · rw [hname, rows, hdlvs]
      rfl
    · rfl
  | some =>
    rw [hdlvs] at h
    obtain ⟨there', t', hexists', h⟩ := Action.bind_run_eq_ok h
    obtain ⟨hthere', hdb'⟩ := Action.query_eq_ok hexists'
    obtain rfl := Except.ok.inj hthere'
    rw [hdb] at hdb' h
    cases hevs : s.db.tables "platform_events" with
    | none =>
      -- Without an event table no delivery has an event of the tenant.
      rw [hevs] at h
      cases h
      rw [hdb']
      have hnone : ∀ row, ofTenantEvent s.db scope row = false := by
        intro row
        simp [ofTenantEvent, rows, hevs]
      simp [hnone]
    | some =>
      rw [hevs] at h
      rw [Action.exec_eq_ok h, hdb', rows_deleteWhere]
      split_ifs with hname
      · rw [hname]
      · rfl

/-- **What a truncation leaves**: the rows outside the scope. -/
lemma rows_truncateScope {scope : String} (h : truncateScope scope faults s = (.ok (), s'))
    (name : String) :
    s'.db.rows name = (s.db.rows name).filter fun row => !inScope s.db scope name row := by
  obtain ⟨t, hbody, hdb⟩ := Action.transaction_eq_ok h
  rw [hdb]
  unfold truncateScopeInTx at hbody
  by_cases hscope : scope = "all"
  · rw [if_pos hscope] at hbody
    rw [rows_deleteAll hbody]
    by_cases hname : name ∈ truncateAllTables <;> simp [inScope, hscope, hname]
  rw [if_neg hscope] at hbody
  obtain ⟨_, t₁, hdlvs, hbody⟩ := Action.bind_run_eq_ok hbody
  obtain ⟨_, t₂, htabs, htens⟩ := Action.bind_run_eq_ok hbody
  rw [rows_deleteIfExists htens, rows_deleteAll htabs, rows_deleteDeliveriesForTenant hdlvs]
  by_cases hdlv : name = "platform_event_deliveries"
  · have hnot : "platform_event_deliveries" ∉ tenantScopedTables := by decide
    rw [hdlv]
    simp [inScope, hscope, hnot]
  by_cases hten : name = "tenants"
  · have hnot : "tenants" ∉ tenantScopedTables := by decide
    rw [hten]
    simp [inScope, hscope, hnot]
  · by_cases hscoped : name ∈ tenantScopedTables <;>
      simp [inScope, hscope, hdlv, hten, hscoped]

end Truncation

/-! ## What is only read -/

lemma readOnly_tableExists (name : String) :
    (tableExists name : DbAction engine StoreError Bool).ReadOnly := query _

lemma readOnly_refuseRows (table : String) (count : Database engine → Nat) :
    (refuseRows table count).ReadOnly := by
  refine bind (query _).mapError fun n => ?_
  split_ifs
  · exact ofExcept _
  · exact pure _

lemma readOnly_assertTableEmpty (table : String) (p : SqlRow → Bool) :
    (assertTableEmpty table p : DbAction engine RestoreError Unit).ReadOnly := by
  refine bind (readOnly_tableExists table).mapError fun there => ?_
  split_ifs
  · exact readOnly_refuseRows _ _
  · exact pure _

lemma readOnly_assertScopeEmpty (scope : String) :
    (assertScopeEmpty scope : DbAction engine RestoreError Unit).ReadOnly := by
  have hdlvs : (assertDeliveriesEmpty scope : DbAction engine RestoreError Unit).ReadOnly := by
    refine bind (readOnly_tableExists _).mapError fun there => ?_
    split_ifs
    · refine bind (readOnly_tableExists _).mapError fun there => ?_
      split_ifs
      · exact readOnly_refuseRows _ _
      · exact pure _
    · exact pure _
  unfold assertScopeEmpty
  split_ifs
  · exact forM fun table _ => readOnly_assertTableEmpty table _
  · exact hdlvs.bind fun _ => forM fun table _ =>
      readOnly_assertTableEmpty table _

/-! ## Making room -/

/-- **The rule for a truncation.** What deletions have, and what passes to sequences and to what is
done if a table is there, a truncation has. -/
lemma truncateScopeInTx_rule {P : (α : Type) → DbAction engine StoreError α → Prop}
    (hpure : P Unit (pure ())) (hexi : ∀ name, P Bool (tableExists name))
    (hdel : ∀ table (p : Database engine → SqlRow → Bool),
      P Unit (Action.exec fun db => db.deleteWhere table (p db)))
    (hbind : ∀ {α m k}, P α m → (∀ a, P Unit (k a)) → P Unit (m >>= k))
    (scope : String) : P Unit (truncateScopeInTx scope) := by
  have hlook {m} (hm : P Unit m) (name : String) :
      P Unit (do if ← tableExists name then m else pure ()) := by
    refine hbind (hexi name) fun there => ?_
    split_ifs
    · exact hm
    · exact hpure
  have hif (table : String) (p : SqlRow → Bool) : P Unit (deleteIfExists table p) :=
    hlook (hdel table fun _ => p) table
  have hall (tables : List String) (p : SqlRow → Bool) :
      P Unit (tables.forM fun table => deleteIfExists table p) := by
    induction tables with
    | nil => exact hpure
    | cons table _ ih => exact hbind (hif table p) fun _ => ih
  unfold truncateScopeInTx
  split_ifs
  · exact hall _ _
  · exact hbind (hlook (hlook (hdel _ fun db => ofTenantEvent db scope) _) _)
      fun _ => hbind (hall _ _) fun _ => hif _ _

lemma succeeds_truncateScope (scope : String) :
    (truncateScope scope : DbAction engine StoreError Unit).Succeeds :=
  Action.Succeeds.transaction (truncateScopeInTx_rule (P := fun _ m => m.Succeeds)
    (Action.Succeeds.pure ()) (fun _ => Action.Succeeds.query _) (fun _ _ => Action.Succeeds.exec _)
    Action.Succeeds.bind scope)

def SchemasKept (before after : Database engine) : Prop :=
  ∀ name, (after.tables name).map SqlTable.schema = (before.tables name).map SqlTable.schema

instance : Std.Refl (@SchemasKept engine) := ⟨fun _ _ => rfl⟩

instance : IsTrans (Database engine) SchemasKept :=
  ⟨fun _ _ _ hab hbc name => (hbc name).trans (hab name)⟩

lemma schemasKept_deleteWhere (db : Database engine) (name : String) (p : SqlRow → Bool) :
    SchemasKept db (db.deleteWhere name p) := by
  intro other
  rw [tables_deleteWhere]
  split_ifs with hother
  · rw [hother, Option.map_map]
    rfl
  · rfl

lemma schemasKept_insertInto {name : String} {given : SqlRow}
    (h : db.insertInto name given = .ok db') : SchemasKept db db' := by
  intro other
  obtain ⟨t, t', row, ht, _, hsch, _, htabs⟩ := insertInto_eq_ok h
  rw [htabs]
  by_cases hother : other = name
  · rw [hother, Function.update_self, ht, Option.map_some, Option.map_some, hsch]
  · rw [Function.update_of_ne hother]

lemma schemasKept_truncateScope (scope : String) :
    (truncateScope scope : DbAction engine StoreError Unit).Respects SchemasKept :=
  transaction (truncateScopeInTx_rule (P := fun _ m => m.Respects SchemasKept)
    (pure ()) (fun _ => query _)
    (fun table p => exec fun db => schemasKept_deleteWhere db table (p db))
    bind scope)

/-- The database in which a restore starts to insert. -/
structure Cleared (opts : RestoreOptions) (scope : String) (before after : Database engine) :
    Prop where
  schemas : SchemasKept before after
  rows : ∀ name, after.rows name =
    if opts.overwrite then (before.rows name).filter fun row => !inScope before scope name row
    else before.rows name

lemma cleared_of_clearScope {opts : RestoreOptions} {scope : String} {faults : Faults StoreError}
    {s' : Session (Database engine)} (h : clearScope opts scope faults s = (.ok (), s')) :
    Cleared opts scope s.db s'.db := by
  unfold clearScope at h
  by_cases hover : opts.overwrite
  · rw [if_pos hover] at h
    have htrunc := Action.mapError_run_eq_ok.mp h
    have hschemas := schemasKept_truncateScope scope faults s
    rw [htrunc] at hschemas
    refine ⟨hschemas, fun name => ?_⟩
    rw [if_pos hover]
    exact rows_truncateScope htrunc name
  · rw [if_neg hover] at h
    have hsame := readOnly_assertScopeEmpty scope faults s
    rw [h] at hsame
    rw [← hsame]
    refine ⟨fun _ => rfl, fun name => ?_⟩
    rw [if_neg hover]

lemma refuseRows_quiet {count : Database engine → Nat} (h : count s.db = 0) :
    refuseRows table count quiet s = (.ok (), ⟨s.db, s.calls + 1⟩) := by
  have hquery : Action.mapError RestoreError.store (Action.query fun db => .ok (count db) :
      DbAction engine StoreError Nat) quiet s = (.ok (count s.db), ⟨s.db, s.calls + 1⟩) := rfl
  unfold refuseRows
  rw [Action.bind_run_ok hquery, h]
  rfl

lemma assertTableEmpty_quiet (h : s.db.rows table = []) (p : SqlRow → Bool) :
    ∃ calls, assertTableEmpty table p quiet s = (.ok (), ⟨s.db, calls⟩) := by
  have hexi : Action.mapError RestoreError.store (tableExists table :
      DbAction engine StoreError Bool) quiet s =
        (.ok (s.db.tables table).isSome, ⟨s.db, s.calls + 1⟩) := rfl
  unfold assertTableEmpty
  rw [Action.bind_run_ok hexi]
  by_cases hthere : (s.db.tables table).isSome
  · rw [if_pos hthere]
    exact ⟨_, refuseRows_quiet (by simp [h])⟩
  · rw [if_neg hthere]
    exact ⟨_, rfl⟩

lemma assertTablesEmpty_quiet {tables : List String} (h : ∀ table ∈ tables, s.db.rows table = [])
    (p : SqlRow → Bool) :
    ∃ calls, (tables.forM fun table => assertTableEmpty table p) quiet s =
      (.ok (), ⟨s.db, calls⟩) := by
  induction tables generalizing s with
  | nil => exact ⟨s.calls, rfl⟩
  | cons table _ ih =>
    obtain ⟨calls, hfirst⟩ := assertTableEmpty_quiet (h table (by simp)) p
    obtain ⟨calls', hrest⟩ := ih (s := ⟨s.db, calls⟩) fun other hother => h other (by simp [hother])
    exact ⟨calls', (Action.bind_run_ok hfirst).trans hrest⟩

lemma assertDeliveriesEmpty_quiet (h : s.db.rows "platform_event_deliveries" = [])
    (scope : String) : ∃ calls, assertDeliveriesEmpty scope quiet s = (.ok (), ⟨s.db, calls⟩) := by
  have hexi : ∀ (name : String) (t : Session (Database engine)),
      Action.mapError RestoreError.store (tableExists name : DbAction engine StoreError Bool)
        quiet t = (.ok (t.db.tables name).isSome, ⟨t.db, t.calls + 1⟩) := fun _ _ => rfl
  unfold assertDeliveriesEmpty
  rw [Action.bind_run_ok (hexi _ _)]
  by_cases hdlvs : (s.db.tables "platform_event_deliveries").isSome
  · rw [if_pos hdlvs, Action.bind_run_ok (hexi _ _)]
    by_cases hevs : (s.db.tables "platform_events").isSome
    · rw [if_pos hevs]
      exact ⟨_, refuseRows_quiet (by simp [joinDeliveries, h])⟩
    · rw [if_neg hevs]
      exact ⟨_, rfl⟩
  · rw [if_neg hdlvs]
    exact ⟨_, rfl⟩

/-- **Room in a fresh database.** Where the tables with tenant data are empty, the way is clear. -/
lemma exists_clearScope (h : ∀ name ∈ tenantScopedTables ++ eventChildTables, s.db.rows name = [])
    (opts : RestoreOptions) (scope : String) :
    ∃ s', clearScope opts scope quiet s = (.ok (), s') := by
  unfold clearScope
  by_cases hover : opts.overwrite
  · rw [if_pos hover]
    obtain ⟨_, s', hrun⟩ := (succeeds_truncateScope scope).mapError (f := RestoreError.store) s
    exact ⟨s', hrun⟩
  rw [if_neg hover]
  unfold assertScopeEmpty
  by_cases hall : scope = "all"
  · rw [if_pos hall]
    obtain ⟨calls, hrun⟩ := assertTablesEmpty_quiet h fun _ => true
    exact ⟨_, hrun⟩
  rw [if_neg hall]
  obtain ⟨calls, hdlvs⟩ := assertDeliveriesEmpty_quiet (s := s)
    (h _ (by simp [eventChildTables])) scope
  obtain ⟨calls', hrun⟩ := assertTablesEmpty_quiet (s := ⟨s.db, calls⟩)
    (fun name hname => h name (List.mem_append_left _ hname)) (ofTenant scope)
  exact ⟨_, (Action.bind_run_ok hdlvs).trans hrun⟩

end Frick.Store
