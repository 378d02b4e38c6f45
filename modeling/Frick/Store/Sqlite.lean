import Mathlib.Data.List.Sort
import Mathlib.Data.Prod.Lex
import Mathlib.Data.String.Basic
import Frick.Framework.Table
import Frick.Store.Basic

/-!
# Tables as SQLite keeps them

The raw layer under the stores: rows of dynamically typed column values, the declared columns and
unique indexes of a table, and the three things the backup does to a table: select in some order,
insert, delete.

**SQLite.** The engine is not part of the repository. `SqliteEngine` is the part of it that is left
open: how a value is converted on its way into a column (the column's affinity) and how two values
compare in an `ORDER BY`. Its fields are the laws that are used: a stored value is not converted
again, `NULL` stays `NULL`, a number that stays a `REAL` stays the same one, and the order is total.

A table lists its rows in the order a scan meets them.
-/

namespace Frick.Store

open Framework List

/-- `SqlValue`; a `REAL` is carried as its bit pattern. -/
inductive SqlValue where
  | null
  | integer (n : Int64)
  | real (bits : UInt64)
  | text (s : String)
  | blob (bytes : Bytes)
  deriving Repr, DecidableEq

def SqlValue.asStr : SqlValue → Option String
  | .text s => some s
  | _ => none

def SqlValue.asI64 : SqlValue → Option Int
  | .integer n => some n.toInt
  | _ => none

/-- `SqlRow`: column names with their values, in select-list order. -/
abbrev SqlRow := List (String × SqlValue)

namespace SqlRow

def get? (row : SqlRow) (name : String) : Option SqlValue :=
  (row.find? fun entry => entry.1 = name).map Prod.snd

def text (row : SqlRow) (name : String) : Option String := (row.get? name).bind SqlValue.asStr

def i64 (row : SqlRow) (name : String) : Option Int := (row.get? name).bind SqlValue.asI64

/-- The value an expression sees for a column. -/
def value (row : SqlRow) (name : String) : SqlValue := (row.get? name).getD .null

lemma text_eq_some {row : SqlRow} {name s : String} :
    row.text name = some s ↔ row.value name = .text s := by
  unfold text value
  cases row.get? name with
  | none => simp
  | some value => cases value <;> simp [SqlValue.asStr]

end SqlRow

/-! ## The engine -/

/-- The declared types that the framework's tables use. -/
inductive ColumnType where
  | text | integer | blob
  deriving Repr

/-- What SQLite does with values. -/
structure SqliteEngine where
  /-- Column affinity. -/
  coerce : ColumnType → SqlValue → SqlValue
  /-- `a ≤ b` in an `ORDER BY`. -/
  le : SqlValue → SqlValue → Bool
  coerce_coerce : ∀ type value, coerce type (coerce type value) = coerce type value
  coerce_null : ∀ type, coerce type .null = .null
  coerce_real : ∀ type bits bits', coerce type (.real bits) = .real bits' → bits' = bits
  le_total : ∀ a b, le a b = true ∨ le b a = true
  le_trans : ∀ a b c, le a b = true → le b c = true → le a c = true

/-- The class and the value by which the plain engine orders. -/
def SqlValue.sortKey : SqlValue → Nat ×ₗ Int ×ₗ String
  | .null => toLex (0, toLex (0, ""))
  | .integer n => toLex (1, toLex (n.toInt, ""))
  | .real bits => toLex (2, toLex (bits.toNat, ""))
  | .text s => toLex (3, toLex (0, s))
  | .blob bytes => toLex (4, toLex (bytes.foldl (fun n b => 256 * n + b.toNat) 1, ""))

/-- An engine that stores every value as it is, for evaluating the model on concrete inputs. -/
def SqliteEngine.plain : SqliteEngine where
  coerce _ value := value
  le a b := decide (a.sortKey ≤ b.sortKey)
  coerce_coerce _ _ := rfl
  coerce_null _ := rfl
  coerce_real _ _ _ h := (SqlValue.real.inj h).symm
  le_total a b := by
    rw [decide_eq_true_iff, decide_eq_true_iff]
    exact (le_or_gt a.sortKey b.sortKey).imp_right le_of_lt
  le_trans a b c hab hbc := by
    rw [decide_eq_true_iff] at hab hbc ⊢
    exact hab.trans hbc

/-- A column of a `CREATE TABLE`. -/
structure Column where
  name : String
  type : ColumnType
  notNull : Bool := false
  default : Option SqlValue := none
  deriving Repr

/-- A column as a unique index reads it. -/
structure IndexedColumn where
  name : String
  /-- `COLLATE NOCASE`. -/
  nocase : Bool := false
  /-- `ifnull(column, '')`. -/
  ifnull : Bool := false
  deriving Repr

/-- The `WHERE` of a partial index. -/
inductive IndexCondition where
  | always
  | isNull (column : String)
  | isNotNull (column : String)
  deriving Repr

/-- A primary key or a unique index. -/
structure UniqueIndex where
  columns : List IndexedColumn
  condition : IndexCondition := .always
  deriving Repr

def IndexedColumn.read (column : IndexedColumn) (row : SqlRow) : SqlValue :=
  match row.value column.name with
  | .text s => .text (if column.nocase then s.map Char.toLower else s)
  | .null => if column.ifnull then .text "" else .null
  | value => value

def IndexCondition.holds (row : SqlRow) : IndexCondition → Bool
  | .always => true
  | .isNull column => row.value column = .null
  | .isNotNull column => row.value column ≠ .null

/-- The entry a row takes in a unique index. A row that the index leaves out, or one with a `NULL`
in it, collides with no other. -/
def UniqueIndex.entry (index : UniqueIndex) (row : SqlRow) : Option (List SqlValue) :=
  let key := index.columns.map fun column => column.read row
  if index.condition.holds row ∧ .null ∉ key then some key else none

/-- A `CREATE TABLE` with its unique indexes. -/
structure TableSchema where
  name : String
  columns : List Column
  unique : List UniqueIndex
  /-- `id INTEGER PRIMARY KEY AUTOINCREMENT`. -/
  autoId : Bool := false
  nodup : (columns.map Column.name).Nodup := by decide

namespace TableSchema

/-- Two rows that a unique index keeps apart. -/
def clash (schema : TableSchema) (row other : SqlRow) : Bool :=
  schema.unique.any fun index => (index.entry row).isSome && index.entry row == index.entry other

lemma clash_symm {schema : TableSchema} {row other : SqlRow}
    (h : schema.clash row other = false) : schema.clash other row = false := by
  by_contra hclash
  rw [Bool.not_eq_false, clash, any_eq_true] at hclash
  obtain ⟨index, hindex, hsame⟩ := hclash
  rw [Bool.and_eq_true, beq_iff_eq] at hsame
  have : schema.clash row other := by
    rw [clash, any_eq_true]
    refine ⟨index, hindex, ?_⟩
    rw [Bool.and_eq_true, beq_iff_eq, ← hsame.2]
    exact ⟨hsame.1, rfl⟩
  rw [this] at h
  cases h

end TableSchema

section Store

variable (engine : SqliteEngine)

/-- The value stored in a column for an `INSERT` that names the columns `given`. -/
def storeColumn (table : String) (given : SqlRow) (column : Column) :
    Except String (String × SqlValue) :=
  let value := engine.coerce column.type
    ((given.get? column.name).getD (column.default.getD .null))
  if column.notNull ∧ value = .null then
    .error s!"NOT NULL constraint failed: {table}.{column.name}"
  else .ok (column.name, value)

def storeRow (schema : TableSchema) (given : SqlRow) : Except String SqlRow :=
  schema.columns.mapM (storeColumn engine schema.name given)

/-- A row as it stands in a table: storing it again changes nothing. -/
def Stored (schema : TableSchema) (row : SqlRow) : Prop := storeRow engine schema row = .ok row

instance (schema : TableSchema) (row : SqlRow) : Decidable (Stored engine schema row) :=
  inferInstanceAs (Decidable (storeRow engine schema row = .ok row))

variable {engine} {schema : TableSchema} {given row : SqlRow} {entry : String × SqlValue}

lemma storeColumn_eq_ok {table : String} {column : Column}
    (h : storeColumn engine table given column = .ok entry) :
    entry = (column.name, engine.coerce column.type
      ((given.get? column.name).getD (column.default.getD .null))) ∧
      ¬(column.notNull ∧ entry.2 = .null) := by
  unfold storeColumn at h
  dsimp only at h
  split_ifs at h with hnull
  obtain rfl := Except.ok.inj h
  exact ⟨rfl, hnull⟩

variable (h : storeRow engine schema given = .ok row)
include h

lemma map_fst_storeRow : row.map Prod.fst = schema.columns.map Column.name := by
  have hforall := mapM_eq_ok_iff.mp h
  clear h
  generalize schema.columns = columns at hforall ⊢
  induction hforall with
  | nil => rfl
  | cons hentry _ ih => rw [map_cons, map_cons, ih, (storeColumn_eq_ok hentry).1]

lemma mem_storeRow (hentry : entry ∈ row) :
    ∃ column ∈ schema.columns, storeColumn engine schema.name given column = .ok entry :=
  exists_of_mem_mapM h hentry

omit h in
lemma SqlRow.get?_of_mem (hnodup : (row.map Prod.fst).Nodup) (hentry : entry ∈ row) :
    row.get? entry.1 = some entry.2 := by
  rw [SqlRow.get?, find?_of_nodup hnodup hentry]
  rfl

lemma stored_of_storeRow : Stored engine schema row := by
  have hnames := map_fst_storeRow h
  have hnodup : (row.map Prod.fst).Nodup := by
    rw [hnames]
    exact schema.nodup
  refine mapM_eq_ok_iff.mpr
    (forall₂_imp_of_mem (mapM_eq_ok_iff.mp h) fun column entry hmem hentry => ?_)
  obtain ⟨hvalue, hnull⟩ := storeColumn_eq_ok hentry
  have hget : row.get? column.name = some entry.2 := by
    have := SqlRow.get?_of_mem hnodup hmem
    rwa [show entry.1 = column.name by rw [hvalue]] at this
  unfold storeColumn
  rw [hget]
  have hsame : engine.coerce column.type entry.2 = entry.2 := by
    rw [hvalue]
    exact engine.coerce_coerce _ _
  simp only [Option.getD_some, hsame, if_neg hnull]
  rw [hvalue]

end Store

/-! ## Tables -/

/-- A table: its schema and its rows, all of them stored, numbered where the table numbers its rows,
and no two of them colliding. -/
structure SqlTable (engine : SqliteEngine) where
  schema : TableSchema
  rows : List SqlRow
  /-- `sqlite_sequence`: the largest id ever given. -/
  sequence : Int := 0
  stored : ∀ row ∈ rows, Stored engine schema row
  numbered : schema.autoId = true → ∀ row ∈ rows, (row.i64 "id").isSome
  distinct : rows.Pairwise fun row other => schema.clash row other = false

namespace SqlTable

variable {engine : SqliteEngine}

def empty (engine : SqliteEngine) (schema : TableSchema) : SqlTable engine where
  schema := schema
  rows := []
  stored := by simp
  numbered := by simp
  distinct := Pairwise.nil

def deleteWhere (t : SqlTable engine) (p : SqlRow → Bool) : SqlTable engine where
  schema := t.schema
  rows := t.rows.filter fun row => !p row
  sequence := t.sequence
  stored := fun row h => t.stored row (mem_of_mem_filter h)
  numbered := fun hauto row h => t.numbered hauto row (mem_of_mem_filter h)
  distinct := t.distinct.filter _

/-- What an `INSERT` is given, with the id SQLite assigns when there is none. -/
def withId (t : SqlTable engine) (given : SqlRow) : SqlRow :=
  if t.schema.autoId ∧ given.value "id" = .null then
    ("id", .integer (.ofInt (t.sequence + 1))) :: given
  else given

/-- The row an `INSERT` adds, unless a constraint forbids it. -/
def newRow (t : SqlTable engine) (given : SqlRow) : Except String SqlRow := do
  let row ← storeRow engine t.schema (t.withId given)
  if t.schema.autoId ∧ (row.i64 "id").isNone then throw "datatype mismatch"
  if t.rows.any (t.schema.clash row) then throw s!"UNIQUE constraint failed: {t.schema.name}"
  pure row

variable {given row : SqlRow} {t : SqlTable engine}

lemma newRow_eq_ok : t.newRow given = .ok row ↔
    storeRow engine t.schema (t.withId given) = .ok row ∧
      ¬(t.schema.autoId ∧ (row.i64 "id").isNone) ∧
      ∀ other ∈ t.rows, t.schema.clash row other = false := by
  constructor
  · intro h
    obtain ⟨stored, hstored, h⟩ := bind_eq_ok.mp h
    by_cases hid : t.schema.autoId ∧ (stored.i64 "id").isNone
    · rw [if_pos hid] at h
      cases h
    rw [if_neg hid] at h
    by_cases hclash : t.rows.any (t.schema.clash stored)
    · rw [if_pos hclash] at h
      cases h
    rw [if_neg hclash] at h
    obtain rfl := Except.ok.inj h
    exact ⟨hstored, hid, by simpa using hclash⟩
  · rintro ⟨hstored, hid, hdist⟩
    unfold newRow
    rw [hstored, ok_bind, if_neg hid, if_neg (by simpa using hdist)]
    rfl

def append (t : SqlTable engine) (row : SqlRow) (hstored : Stored engine t.schema row)
    (hid : ¬(t.schema.autoId ∧ (row.i64 "id").isNone))
    (hdistinct : ∀ other ∈ t.rows, t.schema.clash row other = false) : SqlTable engine where
  schema := t.schema
  rows := t.rows ++ [row]
  sequence := max t.sequence ((row.i64 "id").getD 0)
  stored := forall_mem_append.mpr ⟨t.stored, forall_mem_singleton.mpr hstored⟩
  numbered := by
    refine fun hauto => forall_mem_append.mpr ⟨t.numbered hauto, forall_mem_singleton.mpr ?_⟩
    rw [Option.isSome_iff_ne_none]
    simpa [hauto] using hid
  distinct := by
    rw [pairwise_append]
    refine ⟨t.distinct, pairwise_singleton _ _, fun other hother last hlast => ?_⟩
    rw [mem_singleton.mp hlast]
    exact TableSchema.clash_symm (hdistinct other hother)

def insert (t : SqlTable engine) (given : SqlRow) : Except String (SqlTable engine) :=
  match h : t.newRow given with
  | .error reason => .error reason
  | .ok row =>
    have hrow := newRow_eq_ok.mp h
    .ok (t.append row (stored_of_storeRow hrow.1) hrow.2.1 hrow.2.2)

lemma insert_eq_ok {t' : SqlTable engine} (h : t.insert given = .ok t') :
    ∃ row, t.newRow given = .ok row ∧ t'.schema = t.schema ∧ t'.rows = t.rows ++ [row] := by
  unfold insert at h
  split at h
  · cases h
  next row hrow =>
    obtain rfl := Except.ok.inj h
    exact ⟨row, hrow, rfl, rfl⟩

lemma exists_insert (h : t.newRow given = .ok row) :
    ∃ t', t.insert given = .ok t' ∧ t'.schema = t.schema ∧ t'.rows = t.rows ++ [row] := by
  unfold insert
  split
  next reason hreason =>
    rw [h] at hreason
    cases hreason
  next found hfound =>
    rw [h] at hfound
    obtain rfl := Except.ok.inj hfound
    exact ⟨_, rfl, rfl, rfl⟩

end SqlTable

/-! ## Ordering -/

section OrderBy

variable (engine : SqliteEngine)

/-- `row ≤ other` by the columns of an `ORDER BY`, each ascending. -/
def rowLe : List String → SqlRow → SqlRow → Bool
  | [], _, _ => true
  | column :: rest, row, other =>
    if engine.le (row.value column) (other.value column) then
      if engine.le (other.value column) (row.value column) then rowLe rest row other else true
    else false

variable {engine}

lemma rowLe_total (cols : List String) (row other : SqlRow) :
    rowLe engine cols row other ∨ rowLe engine cols other row := by
  induction cols with
  | nil => exact Or.inl rfl
  | cons column =>
    rcases engine.le_total (row.value column) (other.value column) with h | h <;>
      by_cases h' : engine.le (row.value column) (other.value column) = true <;>
      by_cases h'' : engine.le (other.value column) (row.value column) = true <;>
      simp_all [rowLe]

lemma rowLe_trans (cols : List String) {a b c : SqlRow}
    (hab : rowLe engine cols a b) (hbc : rowLe engine cols b c) :
    rowLe engine cols a c := by
  induction cols with
  | nil => rfl
  | cons _ _ ih =>
    unfold rowLe at hab hbc ⊢
    split_ifs at hab with hab₁ hab₂ <;> split_ifs at hbc with hbc₁ hbc₂
    · have hac := engine.le_trans _ _ _ hab₁ hbc₁
      have hca := engine.le_trans _ _ _ hbc₂ hab₂
      rw [if_pos hac, if_pos hca]
      exact ih hab hbc
    all_goals
      have hac := engine.le_trans _ _ _ hab₁ hbc₁
      split_ifs with hca
      · -- Coming back from `c` to `a` closes the step that was strict.
        first
          | exact absurd (engine.le_trans _ _ _ hca hab₁) hbc₂
          | exact absurd (engine.le_trans _ _ _ hbc₁ hca) hab₂
      · rfl

end OrderBy

end Frick.Store
