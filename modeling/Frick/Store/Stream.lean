import Mathlib.Data.List.Sort
import Frick.Framework.Table
import Frick.Store.Basic
import Frick.Store.IdempotencyCache

/-!
# The stream store

`stores/stream.rs`: the durable event log of every `(tenant, stream, streamId)` and the
`idempotency_keys` table that lets `append` recognise a replayed request.

The two tables carry their primary keys (`Table`); the unique index on `(tenant_id, event_id)`
is checked by the `INSERT`. Every SQL statement is a definition of its own, because `append`
issues them one by one with no transaction around them.
-/

namespace Frick.Store

open Framework Protocol Table

/-! ## Tables -/

/-- The address of one stream: `(tenant_id, stream_type, stream_id)`. `app_id` is not part
of it, so apps share a sequence space. -/
structure StreamKey where
  tenantId : String
  streamType : String
  streamId : String
  deriving Repr, DecidableEq

structure StreamEventRow (β : Type) where
  appId : String
  tenantId : String
  streamType : String
  streamId : String
  sequence : Int
  eventId : String
  eventType : String
  packed : β
  replicaId : String
  requestId : String
  createdAt : String
  deriving DecidableEq

def StreamEventRow.streamKey {β : Type} (row : StreamEventRow β) : StreamKey :=
  ⟨row.tenantId, row.streamType, row.streamId⟩

/-- `PRIMARY KEY (tenant_id, stream_type, stream_id, sequence)`. -/
def StreamEventRow.primaryKey {β : Type} (row : StreamEventRow β) : StreamKey × Int :=
  (row.streamKey, row.sequence)

/-- What makes two appends replays of one request. -/
structure IdempotencyKey where
  appId : String
  tenantId : String
  replicaId : String
  requestId : String
  deriving Repr, DecidableEq

structure IdempotencyRow where
  key : IdempotencyKey
  resultEventId : String
  createdAt : String
  deriving Repr, DecidableEq

/-- The two tables of the stream store. -/
structure StreamTables (β : Type) where
  streamEvents : Table (StreamEventRow.primaryKey (β := β))
  idempotencyKeys : Table IdempotencyRow.key

namespace StreamTables

variable {β : Type}

/-- A freshly migrated database. -/
def empty : StreamTables β := ⟨Table.empty _, Table.empty _⟩

/-! ## Statements -/

section

variable (db : StreamTables β)

/-- `SELECT MAX(sequence) … WHERE tenant_id = ? AND stream_type = ? AND stream_id = ?`. -/
def maxSequence (key : StreamKey) : Option Int :=
  ((db.streamEvents.rows.filter fun row => row.streamKey = key).map StreamEventRow.sequence).max?

/-- `next_sequence`: `COALESCE(MAX(sequence), 0) + 1`. Past `i64::MAX` SQLite's addition
yields a REAL, which `row.i64(..)` does not read, and `unwrap_or(1)` takes over. -/
def nextSequence (key : StreamKey) : Int :=
  let next := (db.maxSequence key).getD 0 + 1
  if next ≤ i64Max then next else 1

/-- The idempotency `SELECT` of `read_idempotent_event`. -/
def selectIdempotencyKey (key : IdempotencyKey) : Option IdempotencyRow :=
  db.idempotencyKeys.find? key

def selectByEventId (appId tenantId eventId : String) : Option (StreamEventRow β) :=
  db.streamEvents.rows.find? fun row =>
    row.appId = appId ∧ row.tenantId = tenantId ∧ row.eventId = eventId

/-- Step 4 of `append`: the event `INSERT`, under both unique constraints. -/
def insertStreamEvent (row : StreamEventRow β) : Except StoreError (StreamTables β) :=
  if db.streamEvents.rows.any fun r => r.tenantId = row.tenantId ∧ r.eventId = row.eventId then
    .error (.driver "UNIQUE constraint failed: stream_events.tenant_id, stream_events.event_id")
  else match db.streamEvents.insert row with
    | some streamEvents => .ok { db with streamEvents }
    | none => .error (.driver ("UNIQUE constraint failed: stream_events.tenant_id, " ++
        "stream_events.stream_type, stream_events.stream_id, stream_events.sequence"))

/-- Step 5 of `append`: the idempotency upsert. -/
def upsertIdempotencyKey (row : IdempotencyRow) : StreamTables β :=
  { db with idempotencyKeys := db.idempotencyKeys.upsert row }

def deleteEvents (p : StreamEventRow β → Bool) : StreamTables β :=
  { db with streamEvents := db.streamEvents.deleteWhere p }

end

/-! ## What the statements do -/

section Statements

variable {db db' : StreamTables β} {key : StreamKey} {row r : StreamEventRow β}

lemma maxSequence_eq_some_iff {m : Int} :
    db.maxSequence key = some m ↔
      (∃ row ∈ db.streamEvents, row.streamKey = key ∧ row.sequence = m) ∧
        ∀ row ∈ db.streamEvents, row.streamKey = key → row.sequence ≤ m := by
  simp only [maxSequence, List.max?_eq_some_iff, List.mem_map, List.mem_filter, decide_eq_true_eq]
  constructor
  · rintro ⟨⟨row, ⟨hmem, hkey⟩, hseq⟩, hle⟩
    exact ⟨⟨row, hmem, hkey, hseq⟩, fun r hr hrk => hle _ ⟨r, ⟨hr, hrk⟩, rfl⟩⟩
  · rintro ⟨⟨row, hmem, hkey, hseq⟩, hle⟩
    refine ⟨⟨row, ⟨hmem, hkey⟩, hseq⟩, ?_⟩
    rintro _ ⟨r, ⟨hr, hrk⟩, rfl⟩
    exact hle r hr hrk

lemma exists_maxSequence (hmem : row ∈ db.streamEvents) :
    ∃ m, db.maxSequence row.streamKey = some m ∧ row.sequence ≤ m := by
  cases hmax : db.maxSequence row.streamKey with
  | none =>
    have hnone : ∀ r ∈ db.streamEvents, r.streamKey ≠ row.streamKey := by
      simpa [maxSequence, mem_def] using hmax
    exact absurd rfl (hnone row hmem)
  | some m => exact ⟨m, rfl, (maxSequence_eq_some_iff.mp hmax).2 row hmem rfl⟩

lemma nextSequence_of_max {m : Int} (hmax : db.maxSequence key = some m) (hm : m < i64Max) :
    db.nextSequence key = m + 1 := by
  rw [nextSequence, hmax, Option.getD_some]
  omega

section

variable (h : db.insertStreamEvent row = .ok db')
include h

lemma insertStreamEvent_eq_ok :
    db'.idempotencyKeys = db.idempotencyKeys ∧
      db'.streamEvents.rows = db.streamEvents.rows ++ [row] ∧
      (∀ r ∈ db.streamEvents, r.primaryKey ≠ row.primaryKey) ∧
      ∀ r ∈ db.streamEvents, ¬(r.tenantId = row.tenantId ∧ r.eventId = row.eventId) := by
  unfold insertStreamEvent at h
  split_ifs at h with hany
  rw [Bool.not_eq_true, List.any_eq_false] at hany
  cases hins : db.streamEvents.insert row with
  | none => rw [hins] at h; cases h
  | some =>
    rw [hins] at h
    obtain rfl := Except.ok.inj h
    obtain ⟨hrows, hfresh⟩ := insert_eq_some hins
    exact ⟨rfl, hrows, hfresh, fun r hr => by simpa using hany r hr⟩

lemma mem_of_insertStreamEvent : r ∈ db'.streamEvents ↔ r ∈ db.streamEvents ∨ r = row := by
  rw [mem_def, (insertStreamEvent_eq_ok h).2.1, List.mem_append, List.mem_singleton]
  exact Iff.rfl

lemma selectByEventId_of_insert :
    db'.selectByEventId row.appId row.tenantId row.eventId = some row := by
  obtain ⟨_, hrows, _, hfresh⟩ := insertStreamEvent_eq_ok h
  have hnone : db.streamEvents.rows.find? (fun r => decide (r.appId = row.appId ∧
      r.tenantId = row.tenantId ∧ r.eventId = row.eventId)) = none := by
    rw [List.find?_eq_none]
    intro r hr hmatch
    exact hfresh r hr (by simpa using (of_decide_eq_true hmatch).2)
  rw [selectByEventId, hrows, List.find?_append, hnone]
  simp

end

@[simp] lemma upsertIdempotencyKey_streamEvents (row : IdempotencyRow) :
    (db.upsertIdempotencyKey row).streamEvents = db.streamEvents := rfl

lemma mem_deleteEvents {p : StreamEventRow β → Bool} :
    r ∈ (db.deleteEvents p).streamEvents ↔ r ∈ db.streamEvents ∧ p r = false :=
  mem_deleteWhere

end Statements

end StreamTables

/-! ## The store -/

structure StoredEvent where
  event : StreamEventInput
  tenantId : String
  appId : String
  deriving DecidableEq

structure AppendResult where
  event : StoredEvent
  created : Bool
  deriving DecidableEq

/-- `CachedIdempotentEvent`; `none` stands for the `NaN` of an unparseable timestamp. -/
structure CachedIdempotentEvent where
  event : StoredEvent
  createdAtMs : Option Int
  deriving DecidableEq

abbrev FrontCache := BoundedIdempotencyCache CachedIdempotentEvent

/-- `StreamStore`: a validated schema, the replay window, and the column codec. -/
structure StreamStore (β : Type) extends PackedColumn PackedStreamEvent β where
  schema : FrickSchema
  schemaValid : schema.DistinctIds
  replayWindowMs : Option Int

/-- The arguments of `append` besides the cache. -/
structure AppendArgs where
  tenantId : String
  stream : String
  streamId : String
  replicaId : String
  requestId : String
  event : String
  payload : Value
  appId : String
  eventId : String
  nowMs : Int

namespace AppendArgs

def streamKey (args : AppendArgs) : StreamKey := ⟨args.tenantId, args.stream, args.streamId⟩

def idempotencyKey (args : AppendArgs) : IdempotencyKey :=
  ⟨args.appId, args.tenantId, args.replicaId, args.requestId⟩

/-- `format!("{app_id}|{tenant_id}|{replica_id}|{request_id}")`. -/
def cacheKey (args : AppendArgs) : String :=
  args.appId ++ "|" ++ args.tenantId ++ "|" ++ args.replicaId ++ "|" ++ args.requestId

/-- The event `append` packs once it knows its sequence. -/
def wireEvent (args : AppendArgs) (sequence : Int) : StreamEventInput :=
  ⟨args.stream, args.streamId, sequence, args.eventId, args.event, args.payload⟩

def storedEvent (args : AppendArgs) (sequence : Int) : StoredEvent :=
  ⟨args.wireEvent sequence, args.tenantId, args.appId⟩

def idempotencyRow (args : AppendArgs) : IdempotencyRow :=
  ⟨args.idempotencyKey, args.eventId, isoFromEpochMs args.nowMs⟩

/-- The cache entry written when the append created its event. -/
def cacheEntry (args : AppendArgs) (sequence : Int) : CachedIdempotentEvent :=
  ⟨args.storedEvent sequence, parseIsoMs (isoFromEpochMs args.nowMs)⟩

end AppendArgs

namespace StreamStore

variable {β : Type}

/-- `StreamStore::new`: only a window `> 0` enables the bound. -/
def new (schema : FrickSchema) (schemaValid : schema.DistinctIds) (replayWindowMs : Option Int)
    (codec : PackedCodec PackedStreamEvent β) (encryption : Option (AtRestEncryption β)) :
    StreamStore β :=
  ⟨⟨codec, encryption⟩, schema, schemaValid, replayWindowMs.filter (0 < ·)⟩

variable (store : StreamStore β)

def withinReplayWindow (createdAtMs : Option Int) (nowMs : Int) : Bool :=
  match store.replayWindowMs with
  | none => true
  | some window =>
    match createdAtMs with
    | none => false
    | some createdAt => nowMs - createdAt ≤ window

def unpackRow (row : StreamEventRow β) (tenantId appId : String) :
    Except StoreError StoredEvent := do
  let packed ← store.decodeColumn tenantId row.packed
  let event ← liftProtocol (unpackStreamEvent store.schema packed)
  pure ⟨event, tenantId, appId⟩

def mapEvents (rows : List (StreamEventRow β)) (tenantId appId : String) :
    Except StoreError (List StoredEvent) :=
  rows.mapM fun row => store.unpackRow row tenantId appId

/-! ### Append -/

/-- Step 1 of `append`: a front-cache hit within the replay window, with the cache after the
lookup. -/
def frontCacheHit (cache : Option FrontCache) (args : AppendArgs) :
    Option StoredEvent × Option FrontCache :=
  match cache with
  | none => (none, none)
  | some cache =>
    match cache.get args.cacheKey with
    | (some cached, cache) =>
      if store.withinReplayWindow cached.createdAtMs args.nowMs then
        (some cached.event, some cache)
      else (none, some cache)
    | (none, cache) => (none, some cache)

/-- The in-window event id of an idempotency row, with the parsed timestamp: what
`read_idempotent_event` keeps from its first `SELECT`. -/
def liveIdempotencyRow (row : Option IdempotencyRow) (nowMs : Int) : Option (String × Option Int) :=
  match row with
  | none => none
  | some row =>
    let createdAtMs := parseIsoMs row.createdAt
    if store.withinReplayWindow createdAtMs nowMs then some (row.resultEventId, createdAtMs)
    else none

/-- The event `read_idempotent_event` makes of its second `SELECT`. -/
def replayedEvent (row : Option (StreamEventRow β)) (createdAtMs : Option Int)
    (tenantId appId : String) : Except StoreError (Option CachedIdempotentEvent) :=
  match row with
  | none => .ok none
  | some row => do
    let event ← store.unpackRow row tenantId appId
    pure (some ⟨event, createdAtMs⟩)

def readIdempotentEvent (db : StreamTables β) (args : AppendArgs) :
    Except StoreError (Option CachedIdempotentEvent) :=
  match store.liveIdempotencyRow (db.selectIdempotencyKey args.idempotencyKey) args.nowMs with
  | none => .ok none
  | some (eventId, createdAtMs) =>
    store.replayedEvent (db.selectByEventId args.appId args.tenantId eventId) createdAtMs
      args.tenantId args.appId

/-- The row `append` inserts once it knows its sequence: pack, encode, seal. -/
def newRow (args : AppendArgs) (sequence : Int) : Except StoreError (StreamEventRow β) := do
  let packed ← liftProtocol (packStreamEvent store.schema (args.wireEvent sequence))
  let storedPacked ← store.encodeColumn args.tenantId packed
  pure
    { appId := args.appId
      tenantId := args.tenantId
      streamType := args.stream
      streamId := args.streamId
      sequence := sequence
      eventId := args.eventId
      eventType := args.event
      packed := storedPacked
      replicaId := args.replicaId
      requestId := args.requestId
      createdAt := isoFromEpochMs args.nowMs }

/-- `cache.set(..)` when a cache was passed. -/
def cacheSet (cache : Option FrontCache) (args : AppendArgs) (entry : CachedIdempotentEvent) :
    Option FrontCache :=
  cache.map fun cache => cache.set args.cacheKey entry

/-- The tables, the cache and the result after `append`. -/
structure AppendOutcome (β : Type) where
  db : StreamTables β
  cache : Option FrontCache
  result : Except StoreError AppendResult

/-- Steps 3 to 5 of `append`: no replay was found, so mint a sequence and write the event. -/
def appendNew (db : StreamTables β) (cache : Option FrontCache) (args : AppendArgs) :
    AppendOutcome β :=
  match store.newRow args (db.nextSequence args.streamKey) with
  | .error err => ⟨db, cache, .error err⟩
  | .ok row =>
    match db.insertStreamEvent row with
    | .error err => ⟨db, cache, .error err⟩
    | .ok inserted =>
      ⟨inserted.upsertIdempotencyKey args.idempotencyRow,
        cacheSet cache args (args.cacheEntry (db.nextSequence args.streamKey)),
        .ok ⟨args.storedEvent (db.nextSequence args.streamKey), true⟩⟩

/-- `StreamStore::append`, run without interruption. -/
def append (db : StreamTables β) (cache : Option FrontCache) (args : AppendArgs) :
    AppendOutcome β :=
  match store.frontCacheHit cache args with
  | (some event, cache) => ⟨db, cache, .ok ⟨event, false⟩⟩
  | (none, cache) =>
    match store.readIdempotentEvent db args with
    | .error err => ⟨db, cache, .error err⟩
    | .ok (some existing) => ⟨db, cacheSet cache args existing, .ok ⟨existing.event, false⟩⟩
    | .ok none => store.appendNew db cache args

/-! ### Reads -/

def orderBySequence (rows : List (StreamEventRow β)) : List (StreamEventRow β) :=
  rows.insertionSort fun a b => a.sequence ≤ b.sequence

/-- The rows `read` selects before `LIMIT`. -/
def selectAfter (db : StreamTables β) (appId : String) (key : StreamKey) (after : Int) :
    List (StreamEventRow β) :=
  orderBySequence (db.streamEvents.rows.filter fun row =>
    row.appId = appId ∧ row.streamKey = key ∧ after < row.sequence)

/-- `read`: events with `sequence > after`, ascending; a limit is clamped to at least one. -/
def read (db : StreamTables β) (key : StreamKey) (after : Int) (limit : Option Int)
    (appId : String) : Except StoreError (List StoredEvent) :=
  let rows := selectAfter db appId key after
  let rows := match limit with
    | none => rows
    | some limit => rows.take (max limit 1).toNat
  store.mapEvents rows key.tenantId appId

def listAllByStreamType (db : StreamTables β) (tenantId stream appId : String) :
    Except StoreError (List StoredEvent) :=
  let rows := db.streamEvents.rows.filter fun row =>
    row.appId = appId ∧ row.tenantId = tenantId ∧ row.streamType = stream
  store.mapEvents (rows.insertionSort fun a b =>
    a.streamId < b.streamId ∨ a.streamId = b.streamId ∧ a.sequence ≤ b.sequence) tenantId appId

/-! ### Retention -/

/-- `StreamRetentionPolicy`. -/
structure RetentionPolicy where
  maxAgeMs : Option Int := none
  maxEvents : Option Int := none
  tenantId : Option String := none
  appId : Option String := none
  deriving Repr

/-- The optional `AND tenant_id = ?` / `AND app_id = ?` scope of a policy. -/
def RetentionPolicy.inScope (policy : RetentionPolicy) (row : StreamEventRow β) : Bool :=
  policy.tenantId.all (· = row.tenantId) && policy.appId.all (· = row.appId)

/-- The `WHERE` of the age-based `DELETE`; false when the policy sets no positive age. -/
def agePruned (streamType : String) (policy : RetentionPolicy) (nowMs : Int)
    (row : StreamEventRow β) : Bool :=
  match policy.maxAgeMs with
  | some maxAgeMs =>
    0 < maxAgeMs && row.streamType = streamType &&
      row.createdAt < isoFromEpochMs (nowMs - maxAgeMs) && policy.inScope row
  | none => false

/-- The `WHERE` of the count-based `DELETE`, whose correlated subquery takes the maximum over
all apps of the row's stream; false when the policy sets no count. -/
def countPruned (db : StreamTables β) (streamType : String) (policy : RetentionPolicy)
    (row : StreamEventRow β) : Bool :=
  match policy.maxEvents, db.maxSequence row.streamKey with
  | some maxEvents, some maxSequence =>
    0 ≤ maxEvents && row.streamType = streamType && row.sequence ≤ maxSequence - maxEvents &&
      policy.inScope row
  | _, _ => false

/-- `StreamRetentionPruneResult`. -/
structure RetentionPruneResult where
  prunedByAge : Nat := 0
  prunedByCount : Nat := 0
  deriving Repr

/-- One iteration of `prune_retention`: first the age-based `DELETE`, then the count-based one
on what is left. -/
def prunePolicy (nowMs : Int) (state : StreamTables β × RetentionPruneResult)
    (policy : String × RetentionPolicy) : StreamTables β × RetentionPruneResult :=
  let (db, result) := state
  let aged := db.deleteEvents (agePruned policy.1 policy.2 nowMs)
  let counted := aged.deleteEvents (countPruned aged policy.1 policy.2)
  (counted,
    { prunedByAge := result.prunedByAge +
        (db.streamEvents.rows.length - aged.streamEvents.rows.length)
      prunedByCount := result.prunedByCount +
        (aged.streamEvents.rows.length - counted.streamEvents.rows.length) })

def pruneRetention (db : StreamTables β) (policies : List (String × RetentionPolicy))
    (nowMs : Int) : StreamTables β × RetentionPruneResult :=
  policies.foldl (prunePolicy nowMs) (db, {})

/-! ### Redaction -/

def redactedEventTypeMarker : String := "__redacted__"

/-- The row at one address, as `redact_event` selects it. -/
def atAddress (appId : String) (key : StreamKey) (sequence : Int) (row : StreamEventRow β) : Bool :=
  row.appId = appId ∧ row.streamKey = key ∧ row.sequence = sequence

/-- The columns `redact_event` rewrites. -/
def redactRow (packed : β) (row : StreamEventRow β) : StreamEventRow β :=
  { row with packed, eventType := redactedEventTypeMarker }

lemma redactRow_primaryKey (packed : β) (row : StreamEventRow β) :
    (redactRow packed row).primaryKey = row.primaryKey := rfl

def updateRedacted (db : StreamTables β) (appId : String) (key : StreamKey) (sequence : Int)
    (packed : β) : StreamTables β :=
  { db with
    streamEvents := db.streamEvents.updateWhere (atAddress appId key sequence)
      (redactRow packed) (redactRow_primaryKey packed) }

/-- The tombstone column of a row: every identity component kept, the fields dropped. -/
def tombstone (row : StreamEventRow β) (tenantId : String) : Except StoreError β := do
  let packed ← store.decodeColumn tenantId row.packed
  store.encodeColumn tenantId { packed with fields := [] }

def redactEvent (db : StreamTables β) (key : StreamKey) (sequence : Int) (appId : String) :
    StreamTables β × Except StoreError Bool :=
  match db.streamEvents.rows.find? (atAddress appId key sequence) with
  | none => (db, .ok false)
  | some row =>
    match store.tombstone row key.tenantId with
    | .error err => (db, .error err)
    | .ok encoded => (updateRedacted db appId key sequence encoded, .ok true)

def eventFieldEq (payload : Value) (field expected : String) : Bool :=
  match payload.asMap with
  | some entries => entries.any fun entry =>
    entry.1.asStr = some field && entry.2.asStr = some expected
  | none => false

/-- The loop of `redact_by_field` over the listed events. -/
def redactLoop (tenantId stream appId field value : String) :
    StreamTables β → Nat → List StoredEvent → StreamTables β × Except StoreError Nat
  | db, redacted, [] => (db, .ok redacted)
  | db, redacted, stored :: rest =>
    if eventFieldEq stored.event.payload field value then
      match store.redactEvent db ⟨tenantId, stream, stored.event.streamId⟩
          stored.event.sequence appId with
      | (db, .error err) => (db, .error err)
      | (db, .ok done) =>
        redactLoop tenantId stream appId field value db
          (if done then redacted + 1 else redacted) rest
    else redactLoop tenantId stream appId field value db redacted rest

def redactByField (db : StreamTables β) (tenantId stream appId field value : String) :
    StreamTables β × Except StoreError Nat :=
  match store.listAllByStreamType db tenantId stream appId with
  | .error err => (db, .error err)
  | .ok events => store.redactLoop tenantId stream appId field value db 0 events

end StreamStore

/-! ## The test fixture

The schema of the source's own stream tests, for evaluating the store on concrete calls. -/

/-- `productTestSchema`, cut down to `MessageStream` and the body of `MessageSent`. -/
def productTestSchema : FrickSchema where
  streams := [{ id := 1, name := "MessageStream", events := ["MessageSent"] }]
  events := [{ id := 1, name := "MessageSent", fields := [⟨3, "body", .string, true, none, none,
    none⟩] }]

lemma productTestSchema_distinctIds : productTestSchema.DistinctIds := by
  have hvalid : validateSchema id productTestSchema = .ok () := by decide
  exact validateSchema_distinctIds hvalid

def testStore : StreamStore PackedStreamEvent :=
  StreamStore.new productTestSchema productTestSchema_distinctIds none (PackedCodec.plain _) none

def messageSent (requestId eventId : String) : AppendArgs where
  tenantId := "_default"
  stream := "MessageStream"
  streamId := "conv-1"
  replicaId := "replica-1"
  requestId := requestId
  event := "MessageSent"
  payload := .map [(.string "body", .string "hello")]
  appId := "_default"
  eventId := eventId
  nowMs := 1700000000000

end Frick.Store
