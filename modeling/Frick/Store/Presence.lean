import Frick.Framework.Run
import Frick.Store.Basic

/-!
# Presence leases

`presence.rs`, on one key of `presence_leases`. Calls interleave between their statements, and a
call starts with its first one. `set` is a single upsert. `read` is a `SELECT` and, where it saw a
row that has expired, a `DELETE` by key: it does not look at what the key holds by then.
-/

namespace Frick.Store

open Framework Protocol

/-- A row of `presence_leases`, apart from its key. -/
structure PresenceLease (β : Type) where
  packed : β
  expiresAt : Int

/-- `PresenceStore`, with the codec of its `packed` column. -/
structure PresenceStore (β : Type) where
  schema : FrickSchema
  codec : PackedCodec PackedKeyedRecord β

namespace PresenceStore

section

variable {β : Type} (store : PresenceStore β)

/-- `set`, up to its statement: the row that it writes. -/
def set (presenceType presenceKey : String) (value : Value) (ttlMs nowMs : Int) :
    Except StoreError (PresenceLease β) := do
  let packed ← liftProtocol (packPresenceRecord store.schema presenceType presenceKey value)
  let encoded ← store.codec.encode packed
  pure ⟨encoded, wrapI64 (nowMs + ttlMs)⟩

/-- What `read` returns of a row that has not expired. -/
def leaseValue (lease : PresenceLease β) : Except StoreError (Option Value) := do
  let packed ← store.codec.decode lease.packed
  let record ← liftProtocol (unpackPresenceRecord store.schema packed)
  pure (some record.value)

/-- `read`, after its `SELECT`: what it returns, or `none` if it calls `clear` first. -/
def read (row : Option (PresenceLease β)) (nowMs : Int) :
    Option (Except StoreError (Option Value)) :=
  match row with
  | none => some (.ok none)
  | some lease => if lease.expiresAt ≤ nowMs then none else some (store.leaseValue lease)

end

/-- One key: its row, how many reads are about to `DELETE` it, the clock, and the lease of the last
`set` that completed. -/
structure LeaseWorld (β : Type) where
  row : Option (PresenceLease β) := none
  clearing : Nat := 0
  nowMs : Int
  lease : Option (PresenceLease β) := none
  row_eq : row = none ∨ row = lease := by exact .inl rfl

/-- The clock moves, or the next statement of some call is performed. -/
inductive LeaseEvent where
  | tick (ms : Nat)
  | set (value : Value) (ttlMs : Int)
  | read
  | clear

variable {β : Type} (store : PresenceStore β) (presenceType presenceKey : String)

/-- One event. A `set` that fails before its statement changes nothing; a read that saw an expired
row has a `DELETE` to perform, and `.clear` performs one. -/
def step (w : LeaseWorld β) : LeaseEvent → LeaseWorld β
  | .tick ms => { w with nowMs := w.nowMs + ms }
  | .set value ttlMs =>
    match store.set presenceType presenceKey value ttlMs w.nowMs with
    | .ok lease => { w with row := some lease, lease := some lease, row_eq := .inr rfl }
    | .error _ => w
  | .read => if store.read w.row w.nowMs = none then { w with clearing := w.clearing + 1 } else w
  | .clear =>
    if w.clearing = 0 then w
    else { w with row := none, clearing := w.clearing - 1, row_eq := .inl rfl }

end PresenceStore

end Frick.Store
