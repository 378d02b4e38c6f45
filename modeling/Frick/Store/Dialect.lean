import Frick.Framework.Dml
import Frick.Store.Basic

/-!
# The two arms of the driver

`SqlDriver::run` on SQLite (`driver.rs`) and on Postgres (`driver/pg.rs`), for one statement on one
table. The database engines are not part of the repository: a statement whose parameters are bound
means the same on both (`Dml.apply`), and what they send back is the affected rows where the
statement says `RETURNING`, and nothing otherwise.

The SQLite arm reports how many rows the statement changed. The Postgres arm narrows every integer
parameter to the type of its column, runs every statement as a query and reports how many rows came
back. Of a `RunResult` only `changes` is kept.
-/

namespace Frick.Store

open Framework

inductive SqlDialect where
  | sqlite
  | postgres
  deriving Repr, DecidableEq

/-! ## Integer parameters -/

/-- The integer types of Postgres columns. -/
inductive PgType where
  | int2
  | int4
  | int8
  deriving Repr

def PgType.max : PgType → Int
  | .int2 => 32767
  | .int4 => 2147483647
  | .int8 => i64Max

def PgType.name : PgType → String
  | .int2 => "int2"
  | .int4 => "int4"
  | .int8 => "int8"

/-- `PgInt`: an integer parameter, with the type of the column that it is bound to. -/
structure PgInt where
  value : Int
  type : PgType

/-- The parameter is in the range of its type. -/
def PgInt.Fits (param : PgInt) : Prop :=
  -param.type.max - 1 ≤ param.value ∧ param.value ≤ param.type.max

instance : DecidablePred PgInt.Fits := fun _ => inferInstanceAs (Decidable (_ ∧ _))

def PgInt.toSql (param : PgInt) : Except StoreError Unit :=
  if param.Fits then .ok ()
  else .error (.driver s!"integer {param.value} out of range for Postgres {param.type.name}")

namespace SqlDialect

/-- The integer parameters of a statement, bound on one of the arms. -/
def bindParams : SqlDialect → List PgInt → Except StoreError Unit
  | .sqlite, _ => .ok ()
  | .postgres, params => params.forM PgInt.toSql

/-- The arm accepts the integer parameters. -/
def Binds (dialect : SqlDialect) (params : List PgInt) : Prop :=
  dialect = .postgres → ∀ param ∈ params, param.Fits

lemma forM_toSql_eq_ok_iff {params : List PgInt} :
    params.forM PgInt.toSql = .ok () ↔ ∀ param ∈ params, param.Fits := by
  induction params with
  | nil => exact iff_of_true rfl (by simp)
  | cons param rest ih =>
    rw [List.forall_mem_cons, ← ih]
    by_cases hfits : param.Fits
    · simp [List.forM_cons, PgInt.toSql, hfits, ok_bind]
    · simp [List.forM_cons, PgInt.toSql, hfits, error_bind]

lemma bindParams_eq_ok_iff {dialect : SqlDialect} {params : List PgInt} :
    dialect.bindParams params = .ok () ↔ dialect.Binds params := by
  cases dialect with
  | sqlite => exact iff_of_true rfl nofun
  | postgres => exact forM_toSql_eq_ok_iff.trans ⟨fun h _ => h, fun h => h rfl⟩

/-! ## Statements -/

variable {ρ : Type} [DecidableEq κ] {key : ρ → κ}

/-- The rows a statement sends back. -/
def resultRows (returning : Bool) (affected : List ρ) : List ρ := if returning then affected else []

/-- `sqlite_run`: `execute` counts the changed rows, and refuses a statement that sends rows back.
-/
def sqliteRun (t : Table key) (dml : Dml key) (returning : Bool) :
    Except StoreError (Table key × Nat) :=
  match dml.apply t with
  | none => .error (.driver "constraint failed")
  | some (t', affected) =>
    if (resultRows returning affected).isEmpty then .ok (t', affected.length)
    else .error (.driver "Execute returned results - did you mean to call query?")

/-- `run_query`: `query` returns the rows sent back, and these are counted. -/
def runQuery (t : Table key) (dml : Dml key) (returning : Bool) :
    Except StoreError (Table key × Nat) :=
  match dml.apply t with
  | none => .error (.driver "constraint failed")
  | some (t', affected) => .ok (t', (resultRows returning affected).length)

/-- `SqlDriver::run`, for a statement with these integer parameters. -/
def run (dialect : SqlDialect) (t : Table key) (dml : Dml key) (params : List PgInt)
    (returning : Bool) : Except StoreError (Table key × Nat) := do
  dialect.bindParams params
  match dialect with
  | .sqlite => sqliteRun t dml returning
  | .postgres => runQuery t dml returning

variable {t t' : Table key} {dml : Dml key} {affected : List ρ} {params : List PgInt}

lemma toOption_run_of_apply_eq_none (dialect : SqlDialect) (h : dml.apply t = none) :
    (dialect.run t dml params false).toOption = none := by
  unfold run
  cases dialect.bindParams params with
  | error => rfl
  | ok =>
    rw [ok_bind]
    cases dialect with
    | sqlite => simp only [sqliteRun, h]; rfl
    | postgres => simp only [runQuery, h]; rfl

lemma run_sqlite (h : dml.apply t = some (t', affected)) :
    run .sqlite t dml params false = .ok (t', affected.length) := by
  rw [run, bindParams, ok_bind]
  simp [sqliteRun, resultRows, h]

lemma run_postgres (hfits : ∀ param ∈ params, param.Fits) (h : dml.apply t = some (t', affected)) :
    run .postgres t dml params false = .ok (t', 0) := by
  rw [run, bindParams_eq_ok_iff.mpr fun _ => hfits, ok_bind]
  simp [runQuery, resultRows, h]

lemma toOption_run_postgres (h : ¬∀ param ∈ params, param.Fits) (t : Table key) (dml : Dml key) :
    (run .postgres t dml params false).toOption = none := by
  unfold run
  cases hbind : postgres.bindParams params with
  | error => rfl
  | ok => exact absurd (bindParams_eq_ok_iff.mp hbind rfl) h

end SqlDialect

end Frick.Store
