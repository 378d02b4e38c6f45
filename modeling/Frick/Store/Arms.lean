import Frick.Store.Dialect
import Frick.Store.Object
import Frick.Store.Session
import Frick.Store.Stream

/-!
# Store methods on either arm

The methods whose answer is read off the number of changed rows, with the arm as a parameter:
`delete` of `object.rs`, `redact_event` of `stream.rs`, `revoke` of `refresh_token.rs` and the
facade's `delete_object` and `prune`.
-/

namespace Frick.Store

open Framework
open IdempotencyRow (key)

/-- `ObjectStore::delete`. -/
def ObjectStore.deleteOn {β : Type} (dialect : SqlDialect) (db : ObjectTable β)
    (tenantId objectType objectId appId : String) : Except StoreError (ObjectTable β × Bool) := do
  let (db, changes) ← dialect.run db (.delete fun row =>
    row.appId = appId ∧ row.primaryKey = (tenantId, objectType, objectId)) [] false
  pure (db, changes > 0)

/-- `FrickStore::delete_object`: also whether the search projector and the write listener run. -/
def ObjectStore.deleteObjectOn {β : Type} (dialect : SqlDialect) (db : ObjectTable β)
    (tenantId objectType objectId appId : String) :
    Except StoreError (ObjectTable β × Bool × Bool) := do
  let (db, existed) ← deleteOn dialect db tenantId objectType objectId appId
  pure (db, existed, existed)

/-- `StreamStore::redact_event`. Its `SELECT` and its `UPDATE` both bind the sequence number. -/
def StreamStore.redactEventOn {β : Type} (store : StreamStore β) (dialect : SqlDialect)
    (db : StreamTables β) (key : StreamKey) (sequence : Int) (appId : String) :
    Except StoreError (StreamTables β × Bool) := do
  dialect.bindParams [⟨sequence, .int4⟩]
  match db.streamEvents.rows.find? (atAddress appId key sequence) with
  | none => .ok (db, false)
  | some row => do
    let encoded ← store.tombstone row key.tenantId
    let (streamEvents, changes) ← dialect.run db.streamEvents
      (.update (atAddress appId key sequence) (redactRow encoded)) [⟨sequence, .int4⟩] false
    pure ({ db with streamEvents }, changes > 0)

/-- `RefreshTokenStore::revoke`. -/
def RefreshTokenTable.revokeOn (dialect : SqlDialect) (t : RefreshTokenTable)
    (digests : TokenDigests) (token : String) (nowMs : Int) :
    Except StoreError (RefreshTokenTable × Bool) := do
  let (t, changes) ← dialect.run t (.update
    (fun row => row.tokenHash = digests.hashToken token ∧ row.revokedAt = none)
    (revokedOn (isoFromEpochMs nowMs))) [] false
  pure (t, changes > 0)

/-! ## prune -/

structure PruneResult where
  prunedByAge : Nat
  prunedByCap : Nat
  deriving Repr

namespace IdempotencyKeys

/-- The rows the age pass deletes, statement by statement: each tenant with a retention of its own,
then all others. -/
def agePasses (tenantCutoffs : List (String × String)) (globalCutoff : String) :
    List (IdempotencyRow → Bool) :=
  tenantCutoffs.map (fun cutoff row =>
      decide (row.key.tenantId = cutoff.1 ∧ row.createdAt < cutoff.2)) ++
    [fun row => decide (row.createdAt < globalCutoff ∧
      row.key.tenantId ∉ tenantCutoffs.map Prod.fst)]

/-- Run the deletes in order and add up their counts. -/
def deleteAll (dialect : SqlDialect) (t : Table key) :
    List (IdempotencyRow → Bool) → Except StoreError (Table key × Nat)
  | [] => .ok (t, 0)
  | p :: rest => do
    let (t, changes) ← dialect.run t (.delete p) [] false
    let (t, others) ← deleteAll dialect t rest
    pure (t, changes + others)

/-- `ORDER BY created_at ASC, rowid ASC LIMIT ?`. -/
def oldest (t : Table key) (limit : Nat) : List IdempotencyRow :=
  (t.rows.insertionSort fun a b => a.createdAt ≤ b.createdAt).take limit

/-- The cap pass. Postgres has no `rowid`. -/
def deleteOldest (t : Table key) (limit : Nat) :
    SqlDialect → Except StoreError (Table key × Nat)
  | .sqlite => SqlDialect.run .sqlite t (.delete fun row => row ∈ oldest t limit)
    [⟨limit, .int8⟩] false
  | .postgres => .error (.driver "column \"rowid\" does not exist")

def pruneRows (dialect : SqlDialect) (t : Table key)
    (tenantCutoffs : List (String × String)) (globalCutoff : String) (maxRows : Int) :
    Except StoreError (Table key × PruneResult) := do
  let (t, prunedByAge) ← deleteAll dialect t (agePasses tenantCutoffs globalCutoff)
  let overflow := (t.rows.length : Int) - maxRows
  if overflow > 0 then do
    let (t, prunedByCap) ← deleteOldest t overflow.toNat dialect
    pure (t, ⟨prunedByAge, prunedByCap⟩)
  else pure (t, ⟨prunedByAge, 0⟩)

/-- `FrickStore::prune`: the front-cache is rebuilt if something was pruned. -/
def prune (dialect : SqlDialect) (t : Table key) (cache : Option FrontCache)
    (capacity : Nat) (tenantCutoffs : List (String × String)) (globalCutoff : String)
    (maxRows : Int) :
    Except StoreError (Table key × Option FrontCache × PruneResult) := do
  let (t, result) ← pruneRows dialect t tenantCutoffs globalCutoff maxRows
  if result.prunedByAge > 0 ∨ result.prunedByCap > 0 then
    pure (t, some (BoundedIdempotencyCache.new CachedIdempotentEvent capacity), result)
  else pure (t, cache, result)

end IdempotencyKeys

end Frick.Store
