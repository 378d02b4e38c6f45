import Frick.Framework.Journal
import Frick.Framework.Run
import Frick.Store.Basic

/-!
# The SQLite arm of the driver

`driver.rs`. Every task of the process shares one `rusqlite::Connection` behind a mutex that is held
for one statement at a time. A second, asynchronous mutex, the `transaction_gate`, serialises the
top-level transactions; plain `run` calls do not take it, so their statements execute inside
whatever transaction happens to be open.

SQLite itself is a parameter: a database type `D` and statements that map it to a new database or
fail without effect. Of the engine the model fixes only what the driver relies on: `BEGIN IMMEDIATE`
remembers the database, `ROLLBACK` puts it back, `COMMIT` forgets it, and each fails when no
transaction, or one already, is open.

`step` performs the next lock section of one task. The `journal` records who executed what; no
transition reads it.
-/

namespace Frick.Store

open Function Framework List

structure RunResult where
  changes : Nat
  lastInsertRowid : Int
  deriving Repr

/-- A mutating statement with its parameters bound. -/
abbrev Statement (D : Type) := D → Except StoreError (D × RunResult)

/-- The shared connection: the database it sees, and the one to return to on `ROLLBACK` while a
transaction is open. -/
structure Connection (D : Type) where
  db : D
  saved : Option D := none

namespace Connection

variable {D : Type}

/-- `sqlite_run`. -/
def run (conn : Connection D) (statement : Statement D) :
    Except StoreError (Connection D × RunResult) :=
  match statement conn.db with
  | .ok (db, result) => .ok ({ conn with db }, result)
  | .error err => .error err

/-- `sqlite_exec(.., "BEGIN IMMEDIATE")`. -/
def beginImmediate (conn : Connection D) : Except StoreError (Connection D) :=
  match conn.saved with
  | none => .ok { conn with saved := some conn.db }
  | some _ => .error (.driver "cannot start a transaction within a transaction")

/-- `sqlite_exec(.., "COMMIT")`. -/
def commit (conn : Connection D) : Except StoreError (Connection D) :=
  match conn.saved with
  | some _ => .ok { conn with saved := none }
  | none => .error (.driver "cannot commit - no transaction is active")

/-- `sqlite_exec(.., "ROLLBACK")`. -/
def rollback (conn : Connection D) : Except StoreError (Connection D) :=
  match conn.saved with
  | some saved => .ok ⟨saved, none⟩
  | none => .error (.driver "cannot rollback - no transaction is active")

end Connection

/-- The callback of `transaction`, cut at its awaits: what it executes next through its
`SqlExec` and how it goes on with the answer. A nested `SqlExec::transaction` runs its callback
in place. There is no `SqlExec::exec` here, so no callback sets a savepoint or rolls back to one. -/
inductive Callback (D Row T : Type) where
  | done (result : Except StoreError T)
  | run (statement : Statement D) (next : Except StoreError RunResult → Callback D Row T)
  | all (query : D → Except StoreError (List Row))
      (next : Except StoreError (List Row) → Callback D Row T)

/-- Where a task that uses the driver stands. -/
inductive DriverTask (D Row T : Type) where
  /-- In `SqlDriver::run`, before its statement. -/
  | run (statement : Statement D)
  /-- `SqlDriver::run` has returned. -/
  | ran (result : Except StoreError RunResult)
  /-- In `SqlDriver::transaction`, waiting for the gate. -/
  | transaction (callback : Callback D Row T)
  /-- Holding the gate, before `BEGIN IMMEDIATE`. -/
  | beginning (callback : Callback D Row T)
  /-- Inside the callback. -/
  | inTransaction (callback : Callback D Row T)
  /-- `SqlDriver::transaction` has returned. -/
  | finished (result : Except StoreError T)

/-- The driver and every task that uses it. -/
structure DriverSystem (ι D Row T : Type) where
  conn : Connection D
  gate : Option ι
  tasks : ι → DriverTask D Row T
  journal : List (Entry (ι × Statement D))

namespace DriverSystem

variable {ι D Row T : Type} [DecidableEq ι]

/-- A freshly opened driver, with each task about to make its call. -/
def start (db : D) (tasks : ι → DriverTask D Row T) : DriverSystem ι D Row T :=
  ⟨{ db := db }, none, tasks, []⟩

def setTask (s : DriverSystem ι D Row T) (i : ι) (task : DriverTask D Row T) :
    DriverSystem ι D Row T :=
  { s with tasks := update s.tasks i task }

/-- The connection after an entry of the journal. -/
def record (s : DriverSystem ι D Row T) (conn : Connection D)
    (entry : Entry (ι × Statement D)) : DriverSystem ι D Row T :=
  { s with conn, journal := s.journal ++ [entry] }

/-- `_transaction_guard` is dropped. -/
def releaseGate (s : DriverSystem ι D Row T) : DriverSystem ι D Row T :=
  { s with gate := none }

/-- One lock section of the callback of task `i`, or the end of its transaction. -/
def stepCallback (s : DriverSystem ι D Row T) (i : ι) : Callback D Row T → DriverSystem ι D Row T
  | .run statement next =>
    match s.conn.run statement with
    | .ok (conn, result) =>
      (s.record conn (.write (i, statement))).setTask i (.inTransaction (next (.ok result)))
    | .error err => s.setTask i (.inTransaction (next (.error err)))
  | .all query next => s.setTask i (.inTransaction (next (query s.conn.db)))
  | .done (.ok value) =>
    match s.conn.commit with
    | .ok conn => (s.record conn .commit).releaseGate.setTask i (.finished (.ok value))
    | .error err => s.releaseGate.setTask i (.finished (.error err))
  | .done (.error err) =>
    -- A failed `ROLLBACK` is swallowed; the callback's error is returned either way.
    match s.conn.rollback with
    | .ok conn => (s.record conn .rollback).releaseGate.setTask i (.finished (.error err))
    | .error _ => s.releaseGate.setTask i (.finished (.error err))

/-- The next lock section of task `i`. -/
def step (s : DriverSystem ι D Row T) (i : ι) : DriverSystem ι D Row T :=
  match s.tasks i with
  | .run statement =>
    match s.conn.run statement with
    | .ok (conn, result) => (s.record conn (.write (i, statement))).setTask i (.ran (.ok result))
    | .error err => s.setTask i (.ran (.error err))
  | .transaction callback =>
    match s.gate with
    | none => { s with gate := some i }.setTask i (.beginning callback)
    | some _ => s
  | .beginning callback =>
    match s.conn.beginImmediate with
    | .ok conn => (s.record conn .begin).setTask i (.inTransaction callback)
    | .error err => s.releaseGate.setTask i (.finished (.error err))
  | .inTransaction callback => s.stepCallback i callback
  | .ran _ | .finished _ => s

end DriverSystem

/-! ## The connection follows its journal -/

section Journal

variable {ι D : Type}

/-- The effect of one statement; a statement that fails has none. -/
def applyStatement (db : D) (write : ι × Statement D) : D :=
  match write.2 db with
  | .ok (db, _) => db
  | .error _ => db

def replay (db : D) (writes : List (ι × Statement D)) : D :=
  writes.foldl applyStatement db

/-- The connection holds what the journal leaves in force, and while a transaction is open it
remembers what was in force when that transaction began. -/
def Connection.Follows (conn : Connection D) (db₀ : D) (journal : List (Entry (ι × Statement D))) :
    Prop :=
  match conn.saved with
  | none => Entry.isOpen false journal = false ∧
      conn.db = replay db₀ (Entry.survivors false journal)
  | some saved => ∃ before inside, journal = before ++ .begin :: inside.map .write ∧
      Entry.isOpen false before = false ∧ saved = replay db₀ (Entry.survivors false before) ∧
      conn.db = replay saved inside

namespace Connection.Follows

variable {conn conn' : Connection D} {db₀ : D} {journal : List (Entry (ι × Statement D))}

lemma run_db {stmt : Statement D} {result : RunResult}
    (hrun : conn.run stmt = .ok (conn', result)) (i : ι) :
    conn'.db = applyStatement conn.db (i, stmt) ∧ conn'.saved = conn.saved := by
  unfold Connection.run at hrun
  unfold applyStatement
  split at hrun
  · obtain ⟨rfl, rfl⟩ := Prod.mk.inj (Except.ok.inj hrun)
    simp_all
  · cases hrun

section

variable (h : conn.Follows db₀ journal)
include h

lemma write {stmt : Statement D} {result : RunResult}
    (hrun : conn.run stmt = .ok (conn', result)) (i : ι) :
    conn'.Follows db₀ (journal ++ [.write (i, stmt)]) := by
  obtain ⟨hdb, hsaved⟩ := run_db hrun i
  unfold Connection.Follows at h ⊢
  rw [hsaved]
  cases hconn : conn.saved with
  | none =>
    rw [hconn] at h
    obtain ⟨hshut, hrepl⟩ := h
    refine ⟨by rw [Entry.isOpen_append, hshut]; rfl, ?_⟩
    rw [Entry.survivors_append_of_closed hshut, hdb, hrepl, replay, replay, foldl_append]
    rfl
  | some =>
    rw [hconn] at h
    obtain ⟨before, inside, rfl, hshut, hbegin, hrepl⟩ := h
    refine ⟨before, inside ++ [(i, stmt)], by simp, hshut, hbegin, ?_⟩
    rw [hdb, hrepl, replay, replay, foldl_append]
    rfl

lemma begin (hbegin : conn.beginImmediate = .ok conn') :
    conn'.Follows db₀ (journal ++ [.begin]) := by
  unfold Connection.beginImmediate at hbegin
  unfold Connection.Follows at h
  cases hconn : conn.saved with
  | none =>
    rw [hconn] at hbegin h
    obtain rfl := Except.ok.inj hbegin
    exact ⟨journal, [], rfl, h.1, h.2, rfl⟩
  | some => rw [hconn] at hbegin; cases hbegin

lemma commit (hcommit : conn.commit = .ok conn') : conn'.Follows db₀ (journal ++ [.commit]) := by
  unfold Connection.commit at hcommit
  unfold Connection.Follows at h
  cases hconn : conn.saved with
  | none => rw [hconn] at hcommit; cases hcommit
  | some =>
    rw [hconn] at hcommit h
    obtain rfl := Except.ok.inj hcommit
    obtain ⟨before, inside, rfl, hshut, hbegin, hrepl⟩ := h
    refine ⟨by rw [Entry.isOpen_append]; rfl, ?_⟩
    have hinside := Entry.survivors_committed true inside [.commit] rfl (fun _ => rfl)
    rw [append_assoc, Entry.survivors_append_of_closed hshut, cons_append, Entry.survivors, hinside]
    simp only [hrepl, hbegin, replay, foldl_append]

lemma rollback (hrollback : conn.rollback = .ok conn') :
    conn'.Follows db₀ (journal ++ [.rollback]) := by
  unfold Connection.rollback at hrollback
  unfold Connection.Follows at h
  cases hconn : conn.saved with
  | none => rw [hconn] at hrollback; cases hrollback
  | some =>
    rw [hconn] at hrollback h
    obtain rfl := Except.ok.inj hrollback
    obtain ⟨before, inside, rfl, hshut, hbegin, _⟩ := h
    refine ⟨by rw [Entry.isOpen_append]; rfl, ?_⟩
    rwa [append_assoc, Entry.survivors_append_of_closed hshut, cons_append,
      Entry.survivors, Entry.survivors_rolledBack, append_nil]

lemma db_eq : conn.db = replay db₀ (Entry.survivors false journal) := by
  unfold Connection.Follows at h
  cases hconn : conn.saved with
  | none =>
    rw [hconn] at h
    exact h.2
  | some =>
    rw [hconn] at h
    obtain ⟨before, inside, rfl, hshut, hbegin, hrepl⟩ := h
    have hinside : Entry.survivors true (inside.map .write) = inside := by
      simpa using Entry.survivors_committed true inside [] rfl (fun _ => rfl)
    rw [Entry.survivors_append_of_closed hshut, Entry.survivors, hinside, hrepl, hbegin]
    simp [replay]

end

end Connection.Follows

end Journal

/-! ## What a lock section can do -/

/-- The effect of one lock section of task `i` on the connection, with the entries it adds to
the journal. -/
inductive LockSection {ι D : Type} (i : ι) (conn : Connection D) :
    Connection D → List (Entry (ι × Statement D)) → Prop
  | idle : LockSection i conn conn []
  | write {statement conn' result} (hrun : conn.run statement = .ok (conn', result)) :
      LockSection i conn conn' [.write (i, statement)]
  | begin {conn'} (hbegin : conn.beginImmediate = .ok conn') : LockSection i conn conn' [.begin]
  | commit {conn'} (hcommit : conn.commit = .ok conn') : LockSection i conn conn' [.commit]
  | rollback {conn'} (hrollback : conn.rollback = .ok conn') : LockSection i conn conn' [.rollback]

namespace DriverSystem

variable {ι D Row T : Type} [DecidableEq ι] (s : DriverSystem ι D Row T) (i : ι)

/-- One lock section of task `i`, which moves only its own task. -/
def OneSection (s' : DriverSystem ι D Row T) : Prop :=
  ∃ entries, s'.journal = s.journal ++ entries ∧ LockSection i s.conn s'.conn entries ∧
    ∀ j, j ≠ i → s'.tasks j = s.tasks j

variable {s i} in
lemma OneSection.move {s' : DriverSystem ι D Row T} {es : List (Entry (ι × Statement D))}
    {task : DriverTask D Row T} (hsect : LockSection i s.conn s'.conn es)
    (hjour : s'.journal = s.journal ++ es) (htasks : s'.tasks = update s.tasks i task) :
    s.OneSection i s' :=
  ⟨es, hjour, hsect, fun j hj => by rw [htasks, update_of_ne hj]⟩

omit [DecidableEq ι] in
lemma OneSection.rfl : s.OneSection i s := ⟨[], by simp, .idle, fun _ _ => .refl _⟩

lemma stepCallback_cases (callback : Callback D Row T) :
    s.OneSection i (s.stepCallback i callback) := by
  unfold stepCallback
  split
  · split
    next hrun => exact .move (.write hrun) rfl rfl
    next => exact .move .idle (append_nil _).symm rfl
  · exact .move .idle (append_nil _).symm rfl
  · split
    next hcommit => exact .move (.commit hcommit) rfl rfl
    next => exact .move .idle (append_nil _).symm rfl
  · split
    next hrollback => exact .move (.rollback hrollback) rfl rfl
    next => exact .move .idle (append_nil _).symm rfl

lemma step_cases : s.OneSection i (s.step i) := by
  unfold step
  split
  · split
    next hrun => exact .move (.write hrun) rfl rfl
    next => exact .move .idle (append_nil _).symm rfl
  · split
    · exact .move .idle (append_nil _).symm rfl
    · exact .rfl s i
  · split
    next hbegin => exact .move (.begin hbegin) rfl rfl
    next => exact .move .idle (append_nil _).symm rfl
  · exact stepCallback_cases s i _
  · exact .rfl s i
  · exact .rfl s i

/-- **Step.** Every lock section keeps the connection on its journal. -/
theorem step_follows {db₀ : D} (h : s.conn.Follows db₀ s.journal) :
    (s.step i).conn.Follows db₀ (s.step i).journal := by
  obtain ⟨es, hjour, hsect, _⟩ := step_cases s i
  rw [hjour]
  generalize (s.step i).conn = conn' at hsect
  cases hsect with
  | idle => simpa using h
  | write hrun => exact h.write hrun i
  | begin hbegin => exact h.begin hbegin
  | commit hcommit => exact h.commit hcommit
  | rollback hrollback => exact h.rollback hrollback

end DriverSystem

end Frick.Store
