import Frick.Framework.SequencedLog
import Frick.Store.Stream

/-!
# What each stream-store operation does to the log

One inversion per operation, over two views of the rows. A readable row unpacks to an event at its
own address (`RowReadable`); appends write only such rows, and redaction keeps them so. The abstract
log says which event of which app holds which sequence of which stream, whatever has been redacted
since (`StreamTables.log`).
-/

namespace Frick.Store

open Framework Protocol StreamTables SequencedLog List Table

/-! ## The abstract log -/

/-- One event of the log: the columns of its row that nothing ever rewrites and that a reader
can tell it by. -/
structure LoggedEvent where
  appId : String
  key : StreamKey
  sequence : Int
  eventId : String
  deriving Repr, DecidableEq

open LoggedEvent (sequence)

def StreamEventRow.logged {β : Type} (row : StreamEventRow β) : LoggedEvent :=
  ⟨row.appId, row.streamKey, row.sequence, row.eventId⟩

/-- The abstract log of the stream store. -/
def StreamTables.log {β : Type} (db : StreamTables β) : List LoggedEvent :=
  db.streamEvents.rows.map StreamEventRow.logged

/-- A later log in which no sequence number was handed out a second time. -/
abbrev LogExtends : List LoggedEvent → List LoggedEvent → Prop :=
  Extends LoggedEvent.key sequence

section Log

variable {β : Type} {db db' : StreamTables β} {e : LoggedEvent}

lemma StreamTables.mem_log : e ∈ db.log ↔ ∃ row ∈ db.streamEvents, row.logged = e :=
  mem_map

/-- The primary key, seen in the log: one entry for each sequence of a stream. -/
lemma StreamTables.log_inj {e' : LoggedEvent} (he : e ∈ db.log) (he' : e' ∈ db.log)
    (hkey : e.key = e'.key) (hseq : e.sequence = e'.sequence) : e = e' := by
  obtain ⟨row, hrow, rfl⟩ := mem_log.mp he
  obtain ⟨row', hrow', rfl⟩ := mem_log.mp he'
  rw [eq_of_key_eq hrow hrow' (Prod.ext hkey hseq)]

lemma StreamTables.newest_iff :
    Newest LoggedEvent.key sequence db.log e ↔
      e ∈ db.log ∧ db.maxSequence e.key = some e.sequence := by
  refine and_congr_right fun he => ?_
  rw [maxSequence_eq_some_iff]
  constructor
  · intro hmax
    obtain ⟨row, hrow, rfl⟩ := mem_log.mp he
    refine ⟨⟨row, hrow, rfl, rfl⟩, fun r hr hkey => ?_⟩
    exact hmax r.logged (mem_log.mpr ⟨r, hr, rfl⟩) hkey
  · rintro ⟨_, hmax⟩ e' he' hkey
    obtain ⟨row, hrow, rfl⟩ := mem_log.mp he'
    exact hmax row hrow hkey

lemma StreamTables.maxSequence_congr
    (h : ∀ e, Newest LoggedEvent.key sequence db'.log e ↔
      Newest LoggedEvent.key sequence db.log e) (key : StreamKey) :
    db'.maxSequence key = db.maxSequence key := by
  have hsome : ∀ {d d' : StreamTables β}, (∀ e,
      Newest LoggedEvent.key sequence d.log e → Newest LoggedEvent.key sequence d'.log e) →
      ∀ m, d.maxSequence key = some m → d'.maxSequence key = some m := by
    intro d d' himp m hm
    obtain ⟨⟨row, hrow, rfl, rfl⟩, _⟩ := maxSequence_eq_some_iff.mp hm
    have hnew := himp row.logged (newest_iff.mpr ⟨mem_log.mpr ⟨row, hrow, rfl⟩, hm⟩)
    exact (newest_iff.mp hnew).2
  refine Option.ext fun m => ?_
  exact ⟨hsome (fun e => (h e).mp) m, hsome (fun e => (h e).mpr) m⟩

end Log

namespace StreamStore

variable {β : Type} (store : StreamStore β)

/-! ## Append -/

lemma frontCacheHit_cases (cache : FrontCache) (args : AppendArgs) :
    (∃ cached, cache.peek args.cacheKey = some cached ∧
      store.withinReplayWindow cached.createdAtMs args.nowMs ∧
      store.frontCacheHit (some cache) args =
        (some cached.event, some (cache.get args.cacheKey).2)) ∨
    (∀ cached, cache.peek args.cacheKey = some cached →
      store.withinReplayWindow cached.createdAtMs args.nowMs = false) ∧
      store.frontCacheHit (some cache) args = (none, some (cache.get args.cacheKey).2) := by
  have hget := BoundedIdempotencyCache.get_fst cache args.cacheKey
  rcases hpair : cache.get args.cacheKey with ⟨found, cache'⟩
  rw [hpair] at hget
  cases found with
  | none =>
    refine .inr ⟨fun cached hcache => ?_, ?_⟩
    · rw [← hget] at hcache
      cases hcache
    · simp only [frontCacheHit, hpair]
  | some cached =>
    have hpeek : cache.peek args.cacheKey = some cached := hget.symm
    cases hlive : store.withinReplayWindow cached.createdAtMs args.nowMs with
    | true =>
      refine .inl ⟨cached, hpeek, hlive, ?_⟩
      simp only [frontCacheHit, hpair, hlive, if_true]
    | false =>
      refine .inr ⟨fun other hother => ?_, ?_⟩
      · rw [hpeek, Option.some.injEq] at hother
        rw [← hother, hlive]
      · simp [frontCacheHit, hpair, hlive]

/-- The only way `append` changes the tables: it inserted a fresh `row` under the next
sequence and pointed the idempotency key at it. -/
structure Created (db : StreamTables β) (args : AppendArgs) (row : StreamEventRow β)
    (out : AppendOutcome β) : Prop where
  newRow_eq : store.newRow args (db.nextSequence args.streamKey) = .ok row
  inserted : ∃ db', db.insertStreamEvent row = .ok db' ∧
    out.db = db'.upsertIdempotencyKey args.idempotencyRow
  result_eq : out.result = .ok ⟨args.storedEvent (db.nextSequence args.streamKey), true⟩

lemma append_cases (db : StreamTables β) (cache : Option FrontCache) (args : AppendArgs) :
    (∃ row, store.Created db args row (store.append db cache args)) ∨
      (store.append db cache args).db = db ∧
        ∀ event, (store.append db cache args).result ≠ .ok ⟨event, true⟩ := by
  unfold append
  split
  · exact .inr ⟨rfl, nofun⟩
  split
  · exact .inr ⟨rfl, nofun⟩
  · exact .inr ⟨rfl, fun event h => by cases h⟩
  unfold appendNew
  split
  · exact .inr ⟨rfl, nofun⟩
  rename_i row hrow
  split
  · exact .inr ⟨rfl, nofun⟩
  · rename_i db' hins
    exact .inl ⟨row, hrow, ⟨db', hins, rfl⟩, rfl⟩

variable {store}

variable {args : AppendArgs} {sequence after : Int} {row r : StreamEventRow β} {db : StreamTables β}
  {out : AppendOutcome β} {e : LoggedEvent} {appId : String} {key : StreamKey}
  {P : StreamTables β → Prop}

section

variable (h : store.newRow args sequence = .ok row)
include h

lemma newRow_eq_ok :
    ∃ packed column, packStreamEvent store.schema (args.wireEvent sequence) = .ok packed ∧
      store.encodeColumn args.tenantId packed = .ok column ∧
      row = ⟨args.appId, args.tenantId, args.stream, args.streamId, sequence, args.eventId,
        args.event, column, args.replicaId, args.requestId, isoFromEpochMs args.nowMs⟩ := by
  obtain ⟨packed, hpack, h⟩ := bind_eq_ok.mp h
  obtain ⟨column, hcol, h⟩ := bind_eq_ok.mp h
  exact ⟨packed, column, liftProtocol_eq_ok.mp hpack, hcol, (Except.ok.inj h).symm⟩

lemma newRow_streamKey : row.streamKey = args.streamKey := by
  obtain ⟨_, _, _, _, rfl⟩ := newRow_eq_ok h
  rfl

lemma newRow_sequence : row.sequence = sequence := by
  obtain ⟨_, _, _, _, rfl⟩ := newRow_eq_ok h
  rfl

end

section

variable (h : store.Created db args row out)
include h

lemma Created.mem_iff : r ∈ out.db.streamEvents ↔ r ∈ db.streamEvents ∨ r = row := by
  obtain ⟨db', hins, hdb⟩ := h.inserted
  rw [hdb, upsertIdempotencyKey_streamEvents]
  exact mem_of_insertStreamEvent hins

lemma Created.log_eq : out.db.log = db.log ++ [row.logged] := by
  obtain ⟨db', hins, hdb⟩ := h.inserted
  rw [hdb, log, upsertIdempotencyKey_streamEvents, (insertStreamEvent_eq_ok hins).2.1, map_append]
  rfl

/-- Short of the end of the `i64` range, a created event lies above its whole stream. -/
lemma Created.lt_sequence (hroom : ∀ m, db.maxSequence args.streamKey = some m → m < i64Max)
    (he : e ∈ db.log) (hkey : e.key = args.streamKey) : e.sequence < row.sequence := by
  obtain ⟨r, hr, rfl⟩ := mem_log.mp he
  obtain ⟨m, hmax, hle⟩ := exists_maxSequence hr
  have hkey' : r.streamKey = args.streamKey := hkey
  rw [hkey'] at hmax
  have hnext := nextSequence_of_max hmax (hroom m hmax)
  rw [newRow_sequence h.newRow_eq]
  exact lt_of_le_of_lt hle (by omega)

end

lemma append_logExtends (db : StreamTables β) (cache : Option FrontCache) (args : AppendArgs)
    (hroom : ∀ m, db.maxSequence args.streamKey = some m → m < i64Max) :
    LogExtends db.log (store.append db cache args).db.log := by
  rcases store.append_cases db cache args with ⟨row, hmade⟩ | ⟨hdb, _⟩
  · rw [hmade.log_eq]
    refine Extends.concat fun e he hkey => ?_
    exact hmade.lt_sequence hroom he (hkey.trans (newRow_streamKey hmade.newRow_eq))
  · rw [hdb]
    exact Extends.refl _

/-! ## Readable rows -/

/-- A stored row that `unpack_row` accepts, with a packed tuple that agrees with its columns. -/
def RowReadable (store : StreamStore β) (row : StreamEventRow β) : Prop :=
  ∃ packed event, store.decodeColumn row.tenantId row.packed = .ok packed ∧
    packed.streamKey = row.streamId ∧ packed.sequence = row.sequence ∧
    packed.eventId = row.eventId ∧ unpackStreamEvent store.schema packed = .ok event

def Readable (store : StreamStore β) (db : StreamTables β) : Prop :=
  ∀ row ∈ db.streamEvents, store.RowReadable row

lemma readable_empty : store.Readable (empty : StreamTables β) :=
  fun row hrow => absurd hrow (not_mem_empty row)

lemma rowReadable_newRow (h : store.newRow args sequence = .ok row) : store.RowReadable row := by
  obtain ⟨packed, column, hpack, hcol, rfl⟩ := newRow_eq_ok h
  obtain ⟨event, hunp, _⟩ := exists_unpackStreamEvent store.schemaValid hpack
  obtain ⟨_, _, _, _, _, _, _, _, rfl⟩ := packStreamEvent_eq_ok hpack
  exact ⟨_, event, PackedColumn.decodeColumn_of_encodeColumn hcol, rfl, rfl, rfl, hunp⟩

lemma unpackRow_newRow (hrecord : args.payload.isRecord)
    (h : store.newRow args sequence = .ok row) :
    store.unpackRow row args.tenantId args.appId = .ok (args.storedEvent sequence) := by
  obtain ⟨packed, column, hpack, hcol, rfl⟩ := newRow_eq_ok h
  have hunp := unpackStreamEvent_packStreamEvent store.schemaValid hrecord hpack
  rw [unpackRow, PackedColumn.decodeColumn_of_encodeColumn hcol, ok_bind, hunp]
  rfl

lemma RowReadable.unpackRow (h : store.RowReadable row) (appId : String) :
    ∃ stored, store.unpackRow row row.tenantId appId = .ok stored ∧
      stored.event.streamId = row.streamId ∧ stored.event.sequence = row.sequence ∧
      stored.event.eventId = row.eventId := by
  obtain ⟨packed, event, hdec, hid, hseq, heid, hunp⟩ := h
  have haddr := unpackStreamEvent_address hunp
  refine ⟨⟨event, row.tenantId, appId⟩, ?_, ?_, ?_, ?_⟩
  · rw [StreamStore.unpackRow, hdec, ok_bind, hunp]
    rfl
  · rw [haddr.1, hid]
  · rw [haddr.2.1, hseq]
  · rw [haddr.2.2, heid]

section

variable (h : store.Readable db)
include h

lemma readable_append (cache : Option FrontCache) (args : AppendArgs) :
    store.Readable (store.append db cache args).db := by
  rcases store.append_cases db cache args with ⟨row, hmade⟩ | ⟨hdb, _⟩
  · intro r hr
    rcases hmade.mem_iff.mp hr with hr | rfl
    · exact h r hr
    · exact rowReadable_newRow hmade.newRow_eq
  · rwa [hdb]

/-! ## Reads -/

omit h in
lemma mem_selectAfter :
    row ∈ selectAfter db appId key after ↔ row ∈ db.streamEvents ∧ row.appId = appId ∧
      row.streamKey = key ∧ after < row.sequence := by
  rw [selectAfter, orderBySequence, mem_insertionSort, mem_def]
  simp

lemma mapEvents_of_readable (appId : String) {rows : List (StreamEventRow β)}
    (hrows : ∀ row ∈ rows, row ∈ db.streamEvents ∧ row.streamKey = key) :
    ∃ out, store.mapEvents rows key.tenantId appId = .ok out ∧
      List.Forall₂ (fun row stored => stored.event.sequence = row.sequence ∧
        stored.event.eventId = row.eventId) rows out := by
  refine exists_mapM_forall₂ fun row hrow => ?_
  obtain ⟨hmem, hkey⟩ := hrows row hrow
  obtain ⟨stored, hstored, _, haddr⟩ := (h row hmem).unpackRow appId
  have hten : key.tenantId = row.tenantId := by rw [← hkey]; rfl
  exact ⟨stored, by rw [hten]; exact hstored, haddr⟩

/-- **Read.** On a readable log an unlimited `read` succeeds and hands out every event of the
app above the cursor. -/
lemma read_complete (key : StreamKey) (after : Int) (appId : String) :
    ∃ out, store.read db key after none appId = .ok out ∧
      ∀ e ∈ db.log, e.appId = appId → e.key = key → after < e.sequence →
        ∃ stored ∈ out, stored.event.sequence = e.sequence ∧ stored.event.eventId = e.eventId := by
  have hrows : ∀ row ∈ selectAfter db appId key after,
      row ∈ db.streamEvents ∧ row.streamKey = key := by
    intro row hrow
    obtain ⟨hmem, _, hkey, _⟩ := mem_selectAfter.mp hrow
    exact ⟨hmem, hkey⟩
  obtain ⟨out, hout, hall⟩ := mapEvents_of_readable h appId hrows
  refine ⟨out, hout, fun e he happ hkey hafter => ?_⟩
  obtain ⟨row, hrow, rfl⟩ := mem_log.mp he
  exact exists_right_of_forall₂ hall (mem_selectAfter.mpr ⟨hrow, happ, hkey, hafter⟩)

lemma read_sequence_mem {limit : Option Int} {events : List StoredEvent}
    (hread : store.read db key after limit appId = .ok events) {stored : StoredEvent}
    (hstored : stored ∈ events) :
    ∃ e ∈ db.log, e.key = key ∧ e.sequence = stored.event.sequence := by
  obtain ⟨rows, hsub, hread'⟩ : ∃ rows, (∀ row ∈ rows, row ∈ selectAfter db appId key after) ∧
      store.mapEvents rows key.tenantId appId = .ok events := by
    cases limit with
    | none => exact ⟨_, fun _ => id, hread⟩
    | some => exact ⟨_, fun _ => mem_of_mem_take, hread⟩
  obtain ⟨out, hout, hall⟩ := mapEvents_of_readable h appId fun row hrow => by
    obtain ⟨hmem, _, hkey, _⟩ := mem_selectAfter.mp (hsub row hrow)
    exact ⟨hmem, hkey⟩
  rw [hout, Except.ok.injEq] at hread'
  obtain ⟨row, hrow, hseq, _⟩ := exists_left_of_forall₂ hall (hread' ▸ hstored)
  obtain ⟨hmem, _, hkey, _⟩ := mem_selectAfter.mp (hsub row hrow)
  exact ⟨row.logged, mem_log.mpr ⟨row, hmem, rfl⟩, hkey, hseq.symm⟩

end

/-! ## Redaction -/

lemma updateRedacted_log (db : StreamTables β) (appId : String) (key : StreamKey)
    (sequence : Int) (packed : β) : (updateRedacted db appId key sequence packed).log = db.log := by
  simp only [log, updateRedacted, Table.updateWhere, map_map]
  refine map_congr_left fun row _ => ?_
  simp only [Function.comp_apply]
  split <;> rfl

lemma rowReadable_tombstone {column : β} (h : store.RowReadable row)
    (htomb : store.tombstone row row.tenantId = .ok column) :
    store.RowReadable (redactRow column row) := by
  obtain ⟨packed, event, hdec, hid, hseq, heid, hunp⟩ := h
  obtain ⟨packed', hdecode', henc⟩ := bind_eq_ok.mp htomb
  rw [hdec] at hdecode'
  obtain rfl := Except.ok.inj hdecode'
  obtain ⟨erased, herased⟩ := exists_unpackStreamEvent_erased hunp
  exact ⟨{ packed with fields := [] }, erased, PackedColumn.decodeColumn_of_encodeColumn henc, hid,
    hseq, heid, herased⟩

lemma atAddress_iff :
    atAddress appId key sequence row ↔
      row.appId = appId ∧ row.streamKey = key ∧ row.sequence = sequence := by
  simp [atAddress]

lemma redactEvent_log (db : StreamTables β) (key : StreamKey) (sequence : Int) (appId : String) :
    (store.redactEvent db key sequence appId).1.log = db.log := by
  unfold redactEvent
  split
  · rfl
  · split
    · rfl
    · exact updateRedacted_log _ _ _ _ _

lemma readable_redactEvent (h : store.Readable db) (key : StreamKey) (sequence : Int)
    (appId : String) : store.Readable (store.redactEvent db key sequence appId).1 := by
  unfold redactEvent
  split
  · exact h
  rename_i row hfind
  split
  · exact h
  rename_i column htomb
  have hrow : row ∈ db.streamEvents := mem_of_find?_eq_some hfind
  obtain ⟨_, hkey, hseq⟩ := atAddress_iff.mp (List.find?_some hfind)
  have hten : key.tenantId = row.tenantId := by rw [← hkey]; rfl
  rw [hten] at htomb
  intro r hr
  obtain ⟨s, hs, rfl⟩ := (mem_updateWhere (redactRow_primaryKey _)).mp hr
  by_cases hat : atAddress appId key sequence s
  · -- The address is a primary key, so the updated row is the one that was read.
    obtain ⟨_, hkey', hseq'⟩ := atAddress_iff.mp hat
    have hpk : s.primaryKey = row.primaryKey :=
      Prod.ext (hkey'.trans hkey.symm) (hseq'.trans hseq.symm)
    rw [if_pos hat, eq_of_key_eq hs hrow hpk]
    exact rowReadable_tombstone (h row hrow) htomb
  · rw [if_neg hat]
    exact h s hs

section

variable (hstep : ∀ db key sequence appId, P db → P (store.redactEvent db key sequence appId).1)
  (tenantId stream appId field value : String)
include hstep tenantId

lemma redactLoop_induction (events : List StoredEvent) (h : P db) (redacted : Nat) :
    P (store.redactLoop tenantId stream appId field value db redacted events).1 := by
  induction events generalizing db redacted with
  | nil => exact h
  | cons stored _ ih =>
    rw [redactLoop]
    split
    · have hnext := hstep db ⟨tenantId, stream, stored.event.streamId⟩
        stored.event.sequence appId h
      split
      · rename_i heq
        rwa [heq] at hnext
      · rename_i heq
        rw [heq] at hnext
        exact ih hnext _
    · exact ih h redacted

lemma redactByField_induction (h : P db) :
    P (store.redactByField db tenantId stream appId field value).1 := by
  unfold redactByField
  split
  · exact h
  · exact redactLoop_induction hstep tenantId stream appId field value _ h 0

end

/-! ## Retention -/

lemma prunePolicies_induction (hdel : ∀ db p, P db → P (db.deleteEvents p))
    (policies : List (String × RetentionPolicy)) (nowMs : Int)
    {state : StreamTables β × RetentionPruneResult} (h : P state.1) :
    P (policies.foldl (prunePolicy nowMs) state).1 := by
  induction policies generalizing state with
  | nil => exact h
  | cons _ _ ih => exact ih (hdel _ _ (hdel _ _ h))

end StreamStore

end Frick.Store
