import Frick.Store.BackupSpec

/-!
# A restore that fails and the rows of its target

`restore_database_checked` makes its changes in two transactions: `truncate_scope` empties the scope
of an `overwrite` restore and commits, and only then are the rows inserted in a transaction of their
own. Whatever fails in the second one is rolled back; what the first one deleted is not.
-/

namespace Frick.Properties

open Framework Protocol Store Action

variable {engine : SqliteEngine} {L : Type}

/-- Every table holds the rows it held before. -/
def RowsKept (before after : Database engine) : Prop :=
  ∀ name, after.rows name = before.rows name

lemma RowsKept.refl (db : Database engine) : RowsKept db db := fun _ => rfl

lemma RowsKept.trans {a b c : Database engine} (hab : RowsKept a b) (hbc : RowsKept b c) :
    RowsKept a c := fun name => (hbc name).trans (hab name)

/-! ## Failing before and after the truncation -/

instance : Std.Refl (@RowsKept engine) := ⟨RowsKept.refl⟩

instance : IsTrans (Database engine) RowsKept := ⟨fun _ _ _ => RowsKept.trans⟩

lemma rowsKept_listAppliedMigrations :
    (listAppliedMigrations : DbAction engine StoreError _).Respects RowsKept :=
  Respects.bind (Respects.exec Database.rows_ensureLedger)
    fun _ => Respects.query _

variable {opts : RestoreOptions} {header : DumpHeader} {schema : FrickSchema}
  {format : DumpFormat L} {rows : List L} {target : Database engine}

lemma rowsKept_clearScope {scope : String} {db : Database engine}
    (hempty : opts.overwrite → ∀ name, ∀ row ∈ db.rows name,
      inScope db scope name row = false) (faults : Faults StoreError)
    {s : Session (Database engine)} (hkept : RowsKept db s.db) :
    RowsKept db (clearScope opts scope faults s).2.db := by
  unfold clearScope
  by_cases hover : opts.overwrite
  · rw [if_pos hover]
    change RowsKept db (truncateScope scope faults s).2.db
    cases hrun : truncateScope scope faults s with
    | mk result s' =>
      cases result with
      | error e =>
        have hback : s'.db = s.db := by
          have := transaction_rolls_back (congrArg Prod.fst hrun)
          rwa [show transaction id (truncateScopeInTx scope) faults s = (.error e, s')
            from hrun] at this
        rwa [hback]
      | ok =>
        intro name
        rw [rows_truncateScope hrun name, hkept name]
        refine List.filter_eq_self.mpr fun row hrow => ?_
        rw [inScope_congr hkept, hempty hover name row hrow]
        rfl
  · rwa [if_neg hover, ← readOnly_assertScopeEmpty scope faults s]

lemma rowsKept_of_restoreAccepted {startMs endMs : Int}
    (hempty : ∀ applied, readLedger target = .ok applied → missingMigrations header applied = [] →
      opts.overwrite → ∀ name, ∀ row ∈ target.rows name,
        inScope target header.tenantId name row = false) {faults : Faults StoreError}
    {e : RestoreError} {after : Session (Database engine)}
    (h : restoreAccepted format schema opts startMs endMs header rows faults
      ⟨target, 0⟩ = (.error e, after)) : RowsKept target after.db := by
  have hlisted := rowsKept_listAppliedMigrations faults ⟨target, 0⟩
  rcases bind_run_eq_error h with hlist | ⟨applied, s, hlist, h⟩
  · have hafter : after = (listAppliedMigrations faults ⟨target, 0⟩).2 :=
      (congrArg Prod.snd hlist).symm
    rwa [hafter]
  have hlist := mapError_run_eq_ok.mp hlist
  rw [hlist] at hlisted
  have hledg := (listAppliedMigrations_eq_ok hlist).1
  by_cases hmiss : missingMigrations header applied = []
  · rw [if_neg (not_not.mpr hmiss)] at h
    have hclear := rowsKept_clearScope (hempty applied hledg hmiss) faults hlisted
    rcases bind_run_eq_error h with hfill | ⟨_, _, _, hreport⟩
    · rcases bind_run_eq_error hfill with hfail | ⟨_, s', hcleared, hrows⟩
      · rwa [hfail] at hclear
      · -- Rows were being inserted: their transaction is rolled back.
        rw [hcleared] at hclear
        have hback := transaction_rolls_back (congrArg Prod.fst hrows)
        rw [hrows] at hback
        rwa [hback]
    · cases hreport
  · rw [if_pos hmiss] at h
    cases h
    exact hlisted

/-! ## A fault after the truncation -/

lemma local_query {α : Type} (f : Database engine → Except StoreError α) :
    (query f).Local := Local.call _

lemma local_truncateScope (scope : String) :
    (truncateScope scope : DbAction engine StoreError Unit).Local :=
  Local.transaction (truncateScopeInTx_rule (P := fun _ m => m.Local)
    (Local.pure ()) (fun _ => local_query _) (fun _ _ => Local.call _)
    Local.bind scope)

lemma local_listAppliedMigrations : (listAppliedMigrations : DbAction engine StoreError _).Local :=
  Local.bind (Local.call _) fun _ => local_query _

/-- **A fault between the two transactions.** An `overwrite` restore that gets past its checks can
fail right after its truncation has been committed. -/
lemma exists_error_after_truncation {lines : List L} {applied : List AppliedMigrationRow}
    (startMs endMs : Int)
    (hcheck : checkHeader format schema opts lines = .ok (header, rows))
    (hledg : readLedger target = .ok applied) (hmiss : missingMigrations header applied = [])
    (hover : opts.overwrite) :
    ∃ faults e after, restoreDatabaseChecked format schema lines opts startMs endMs faults
        ⟨target, 0⟩ = (.error e, after) ∧
      ∀ name, after.db.rows name =
        (target.rows name).filter fun row => !inScope target header.tenantId name row := by
  let start : DbAction engine RestoreError Unit := do
    let _ ← mapError RestoreError.store listAppliedMigrations
    mapError RestoreError.store (truncateScope header.tenantId)
  have hlocal : start.Local := local_listAppliedMigrations.mapError.bind fun _ =>
    (local_truncateScope _).mapError
  obtain ⟨_, s, hquiet⟩ : ∃ a s, start quiet ⟨target, 0⟩ = (.ok a, s) := by
    obtain ⟨a, s, htrunc⟩ := (succeeds_truncateScope header.tenantId).mapError
      (f := RestoreError.store) ⟨target.ensureLedger, 0 + 2⟩
    refine ⟨a, s, ?_⟩
    have hlist := listAppliedMigrations_quiet hledg 0
    exact (bind_run_ok (mapError_run_eq_ok.mpr hlist)).trans htrunc
  -- The fault hits the `BEGIN` of the second transaction and leaves everything before it alone.
  let fault := StoreError.driver "disk I/O error"
  have hstart := hlocal.run_failAt ⟨target, 0⟩ fault
  rw [hquiet] at hstart
  obtain ⟨applied', s₁, hlist, htrunc⟩ := bind_run_eq_ok hstart
  have hlisted := listAppliedMigrations_eq_ok (mapError_run_eq_ok.mp hlist)
  obtain rfl : applied' = applied := by
    have := hlisted.1.symm.trans hledg
    exact Except.ok.inj this
  have hkept : ∀ name, s₁.db.rows name = target.rows name := by
    intro name
    rw [hlisted.2]
    exact Database.rows_ensureLedger target name
  have hbegin : transaction RestoreError.store
      (restoreRows format header.tenantId {} 2 rows) (failAt s.calls fault) s =
        (.error (.store fault), ⟨s.db, s.calls + 1⟩) := by
    simp [transaction, failAt]
  refine ⟨failAt s.calls fault, .store fault, ⟨s.db, s.calls + 1⟩, ?_, fun name => ?_⟩
  · unfold restoreDatabaseChecked restoreAccepted
    rw [hcheck]
    dsimp only
    rw [bind_run_ok hlist]
    rw [if_neg (not_not.mpr hmiss)]
    refine bind_run_error ?_
    unfold fillScope clearScope
    rwa [if_pos hover, bind_run_ok htrunc]
  · rw [rows_truncateScope (mapError_run_eq_ok.mp htrunc) name, hkept name]
    exact List.filter_congr fun row _ => by rw [inScope_congr hkept]

/-- **All or nothing, exactly.** Whatever the driver does, a restore that fails leaves every row of
its target in place if and only if it does not get to delete one: it is not an `overwrite` restore,
or its header is refused, or the target holds no row of the dump's scope. -/
theorem restore_all_or_nothing_iff (format : DumpFormat L) (schema : FrickSchema) (lines : List L)
    (opts : RestoreOptions) (startedMs finishedMs : Int) (target : Database engine) :
    (∀ faults e after, restoreDatabaseChecked format schema lines opts startedMs finishedMs faults
        ⟨target, 0⟩ = (.error e, after) → RowsKept target after.db) ↔
      ∀ header rows applied, checkHeader format schema opts lines = .ok (header, rows) →
        readLedger target = .ok applied → missingMigrations header applied = [] →
        opts.overwrite = true → ∀ name, ∀ row ∈ target.rows name,
          inScope target header.tenantId name row = false := by
  constructor
  · intro hall header rows applied hcheck hledger hmissing hoverwrite name row hrow
    obtain ⟨faults, e, after, hrun, hafter⟩ := exists_error_after_truncation startedMs finishedMs
      hcheck hledger hmissing hoverwrite
    have hkept := hall faults e after hrun name
    rw [hafter name, List.filter_eq_self] at hkept
    have hout := hkept row hrow
    simpa using hout
  · intro hempty faults e after hrun
    unfold restoreDatabaseChecked at hrun
    cases hcheck : checkHeader format schema opts lines with
    | error =>
      rw [hcheck] at hrun
      cases hrun
      exact RowsKept.refl _
    | ok checked =>
      obtain ⟨header, rows⟩ := checked
      rw [hcheck] at hrun
      exact rowsKept_of_restoreAccepted
        (fun applied => hempty header rows applied hcheck) hrun

/-! ## A tenant emptied by a refusal -/

def acmeObject : SqlRow :=
  [("tenant_id", .text "acme"), ("object_type", .text "Note"), ("object_id", .text "n1"),
    ("version", .integer 1), ("packed", .blob [1]), ("updated_at", .text "t"),
    ("app_id", .text "_default")]

def acmeDatabase : Database .plain where
  tables name :=
    if name = "objects" then
      some { schema := objectsTable, rows := [acmeObject], stored := by decide +kernel,
             numbered := by decide, distinct := List.pairwise_singleton _ _ }
    else none
  ledger := by
    intro t ht
    cases ht

/-- The lines of a dump of `acme` whose last row belongs to someone else. -/
def strayDump : List (Option Json) :=
  [headerLine .plain {} [] "acme" 0,
    rowLine .plain "objects" acmeObject,
    rowLine .plain "objects" (("tenant_id", .text "globex") :: acmeObject.tail)]

/-- The restore refuses the dump at its third line. The object that was there is gone. -/
theorem refused_restore_empties_tenant :
    let run := restoreDatabaseChecked .plain {} strayDump ⟨true, true, false⟩ 0 0 quiet
      ⟨acmeDatabase, 0⟩
    run.1.map (fun _ => ()) =
        .error (.refused (.tenantScopeMismatch "objects" (some "globex") "acme" 3)) ∧
      acmeDatabase.rows "objects" = [acmeObject] ∧ run.2.db.rows "objects" = [] := by
  refine ⟨by decide +kernel, rfl, by decide +kernel⟩

end Frick.Properties
