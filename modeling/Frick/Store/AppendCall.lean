import Frick.Framework.Run
import Frick.Store.StreamSpec

/-!
# Concurrent appends, one SQL statement at a time

`FrickStore::append_event` (`facade.rs`) takes the shared front-cache out of its mutex slot, runs
`StreamStore::append` against it, and puts it back if nothing else has. `append` itself issues up to
five statements with an await point between any two of them. `CallState` is the program point of one
call between its statements, together with what the call holds in its locals; `step` performs the
next statement of one call.

`run_alone` connects this machine to the sequential `StreamStore.append`: a call that is not
interrupted computes exactly that function.
-/

namespace Frick.Store

open Framework StreamStore

/-- Where an `append_event` call stands, and what it holds there. -/
inductive CallState (β : Type) where
  /-- Not called yet. -/
  | idle
  /-- Before the idempotency `SELECT`. -/
  | readKey (cache : Option FrontCache)
  /-- Before the `SELECT` of the event the idempotency row names. -/
  | readEvent (cache : Option FrontCache) (eventId : String) (createdAtMs : Option Int)
  /-- Before the `MAX(sequence)` read. -/
  | nextSequence (cache : Option FrontCache)
  /-- Before the event `INSERT`. -/
  | insert (cache : Option FrontCache) (sequence : Int) (row : StreamEventRow β)
  /-- Before the idempotency upsert. -/
  | upsertKey (cache : Option FrontCache) (sequence : Int)
  /-- `append` has returned; the cache is not back in its slot yet. -/
  | restore (cache : Option FrontCache) (result : Except StoreError AppendResult)
  /-- `append_event` has returned. -/
  | returned (result : Except StoreError AppendResult)

/-- The shared state: the tables, the facade's cache slot, and every call. -/
structure AppendSystem (ι β : Type) where
  db : StreamTables β
  slot : Option FrontCache
  calls : ι → CallState β

namespace AppendSystem

variable {ι β : Type} [DecidableEq ι]

def setCall (s : AppendSystem ι β) (i : ι) (c : CallState β) : AppendSystem ι β :=
  { s with calls := Function.update s.calls i c }

variable (store : StreamStore β) (args : ι → AppendArgs)

/-- The next statement of call `i`. -/
def step (s : AppendSystem ι β) (i : ι) : AppendSystem ι β :=
  match s.calls i with
  | .idle =>
    -- `take()` empties the slot; the front-cache lookup needs no statement.
    match store.frontCacheHit s.slot (args i) with
    | (some event, cache) => { s with slot := none }.setCall i (.restore cache (.ok ⟨event, false⟩))
    | (none, cache) => { s with slot := none }.setCall i (.readKey cache)
  | .readKey cache =>
    match store.liveIdempotencyRow (s.db.selectIdempotencyKey (args i).idempotencyKey)
        (args i).nowMs with
    | none => s.setCall i (.nextSequence cache)
    | some (eventId, createdAtMs) => s.setCall i (.readEvent cache eventId createdAtMs)
  | .readEvent cache eventId createdAtMs =>
    match store.replayedEvent (s.db.selectByEventId (args i).appId (args i).tenantId eventId)
        createdAtMs (args i).tenantId (args i).appId with
    | .error err => s.setCall i (.restore cache (.error err))
    | .ok none => s.setCall i (.nextSequence cache)
    | .ok (some existing) =>
      s.setCall i (.restore (cacheSet cache (args i) existing) (.ok ⟨existing.event, false⟩))
  | .nextSequence cache =>
    match store.newRow (args i) (s.db.nextSequence (args i).streamKey) with
    | .error err => s.setCall i (.restore cache (.error err))
    | .ok row => s.setCall i (.insert cache (s.db.nextSequence (args i).streamKey) row)
  | .insert cache sequence row =>
    match s.db.insertStreamEvent row with
    | .error err => s.setCall i (.restore cache (.error err))
    | .ok db => { s with db }.setCall i (.upsertKey cache sequence)
  | .upsertKey cache sequence =>
    { s with db := s.db.upsertIdempotencyKey (args i).idempotencyRow }.setCall i
      (.restore (cacheSet cache (args i) ((args i).cacheEntry sequence))
        (.ok ⟨(args i).storedEvent sequence, true⟩))
  | .restore cache result => { s with slot := s.slot.or cache }.setCall i (.returned result)
  | .returned _ => s

/-! ## A call that is not interrupted -/

lemma run_returned {s : AppendSystem ι β} {i : ι} {result : Except StoreError AppendResult}
    (h : s.calls i = .returned result) (n : ℕ) :
    run (step store args) s (List.replicate n i) = s := by
  induction n with
  | zero => rfl
  | succ _ ih =>
    rw [List.replicate_succ, run_cons, step, h]
    exact ih

lemma run_appendNew (s : AppendSystem ι β) (i : ι) (cache : Option FrontCache) (n : ℕ) :
    run (step store args) (s.setCall i (.nextSequence cache)) (List.replicate (4 + n) i) =
      { db := (store.appendNew s.db cache (args i)).db
        slot := s.slot.or (store.appendNew s.db cache (args i)).cache
        calls := Function.update s.calls i
          (.returned (store.appendNew s.db cache (args i)).result) } := by
  rw [List.replicate_add, run_append]
  refine (congrArg (run (step store args) · _) ?_).trans
    (run_returned store args (Function.update_self i _ _) n)
  cases hrow : store.newRow (args i) (s.db.nextSequence (args i).streamKey) with
  | error => simp [step, setCall, appendNew, hrow]
  | ok row =>
    cases hins : s.db.insertStreamEvent row with
    | error | ok => simp [step, setCall, appendNew, hrow, hins]

/-- **Alone.** Seven statements are enough for any call, and a call whose statements are not
interleaved with another's computes `StreamStore.append`. -/
theorem run_alone (s : AppendSystem ι β) (i : ι) (hidle : s.calls i = .idle) :
    run (step store args) s (List.replicate 7 i) =
      { db := (store.append s.db s.slot (args i)).db
        slot := (store.append s.db s.slot (args i)).cache
        calls := Function.update s.calls i
          (.returned (store.append s.db s.slot (args i)).result) } := by
  rcases hfront : store.frontCacheHit s.slot (args i) with ⟨_ | event, cache⟩
  · have hnew := run_appendNew store args { s with slot := none } i cache
    cases hlive : store.liveIdempotencyRow (s.db.selectIdempotencyKey (args i).idempotencyKey)
        (args i).nowMs with
    | none =>
      simpa [step, setCall, append, readIdempotentEvent, hidle, hfront, hlive] using hnew 1
    | some live =>
      cases hrepl : store.replayedEvent (s.db.selectByEventId (args i).appId (args i).tenantId
          live.1) live.2 (args i).tenantId (args i).appId with
      | error => simp [step, setCall, append, readIdempotentEvent, hidle, hfront, hlive, hrepl]
      | ok old =>
        cases old with
        | none =>
          simpa [step, setCall, append, readIdempotentEvent, hidle, hfront, hlive, hrepl] using
            hnew 0
        | some => simp [step, setCall, append, readIdempotentEvent, hidle, hfront, hlive, hrepl]
  · simp [step, setCall, append, hidle, hfront]

/-- An append behind a stored event, while another call waits before its `MAX(sequence)` read: the
event is stored as `append` stores it, and the other call stays where it was. -/
theorem run_alone_messageSent :
    let stored := (testStore.append .empty none (messageSent "request-0" "event-0")).db
    let args := fun waiting : Bool =>
      if waiting then messageSent "request-2" "event-2" else messageSent "request-1" "event-1"
    let after := run (step testStore args)
      ⟨stored, none, fun waiting => if waiting then .nextSequence none else .idle⟩
      (List.replicate 7 false)
    after.db = (testStore.append stored none (messageSent "request-1" "event-1")).db ∧
      after.calls true = .nextSequence none := by
  intro stored args after
  have halone := run_alone testStore args
    ⟨stored, none, fun waiting => if waiting then .nextSequence none else .idle⟩ false rfl
  exact ⟨congrArg AppendSystem.db halone, congrArg (fun s => s.calls true) halone⟩

end AppendSystem

end Frick.Store
