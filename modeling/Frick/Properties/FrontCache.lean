import Frick.Framework.Run
import Frick.Store.StreamSpec

/-!
# The idempotency front-cache as an optimisation

`append` answers a replayed request from the front-cache when it can and from the tables when it
cannot, so an eviction decides which of the two a client gets. The two agree as long as every live
entry is *backed*: the idempotency row of the request it was stored for names its event, and the
event's row still reads as it.

`InStep` says which steps keep that so. `FrickStore::prune` rebuilds the front-cache for that
reason; the operations here do not.
-/

namespace Frick.Properties

open Framework Store BoundedIdempotencyCache StreamStore StreamTables
open Store.StreamStore (RetentionPolicy)

variable {β : Type} (store : StreamStore β)

/-! ## Runs with one cache -/

/-- The tables, the cache that every append is given, the requests made so far, and the clock. -/
structure CachedStore (β : Type) where
  db : StreamTables β
  cache : FrontCache
  requests : List IdempotencyKey
  clock : Int

/-- One call on the stream store. -/
inductive CachedOp where
  | append (args : AppendArgs)
  | redactEvent (key : StreamKey) (sequence : Int) (appId : String)
  | redactByField (tenantId stream appId field value : String)
  | pruneRetention (policies : List (String × RetentionPolicy)) (nowMs : Int)

namespace CachedStore

def now (s : CachedStore β) : CachedOp → Int
  | .append args => args.nowMs
  | .pruneRetention _ nowMs => nowMs
  | .redactEvent .. | .redactByField .. => s.clock

/-- The tables after a call that is not an append. -/
def maintain (s : CachedStore β) : CachedOp → StreamTables β
  | .append _ => s.db
  | .redactEvent key sequence appId => (store.redactEvent s.db key sequence appId).1
  | .redactByField tenantId stream appId field value =>
    (store.redactByField s.db tenantId stream appId field value).1
  | .pruneRetention policies nowMs => (pruneRetention s.db policies nowMs).1

/-- One call: an append is given the cache and leaves it for the next one. -/
def step (s : CachedStore β) (op : CachedOp) : CachedStore β :=
  match op with
  | .append args =>
    let outcome := store.append s.db (some s.cache) args
    { db := outcome.db
      cache := outcome.cache.getD s.cache
      requests := s.requests ++ [args.idempotencyKey]
      clock := s.now op }
  | op =>
    { s with
      db := s.maintain store op
      clock := s.now op }

/-- The last request whose ids join to `text`. -/
def lastRequest (s : CachedStore β) (text : String) : Option IdempotencyKey :=
  s.requests.reverse.find? fun key =>
    key.appId ++ "|" ++ key.tenantId ++ "|" ++ key.replicaId ++ "|" ++ key.requestId = text

/-- An entry that a request at the given time would be answered from. -/
def Live (s : CachedStore β) (nowMs : Int) (text : String) (cached : CachedIdempotentEvent) :
    Prop :=
  s.cache.peek text = some cached ∧ store.withinReplayWindow cached.createdAtMs nowMs = true

end CachedStore

open CachedStore (step)

/-! ## The property and its condition -/

/-- With the cache and without it, an append returns the same and leaves the same tables. -/
def Transparent (s : CachedStore β) (args : AppendArgs) : Prop :=
  (store.append s.db (some s.cache) args).result = (store.append s.db none args).result ∧
    (store.append s.db (some s.cache) args).db = (store.append s.db none args).db

/-- The condition on a call. The clock does not go back. A live entry under an append's cache key
is its own request's; an event that is created has a payload of pairwise distinct string keys. A
redaction or a retention pass leaves the event row behind every live entry as it is. -/
def InStep (s : CachedStore β) (op : CachedOp) : Prop :=
  s.clock ≤ s.now op ∧ match op with
    | .append args =>
      (∀ cached ∈ s.cache.peek args.cacheKey,
        store.withinReplayWindow cached.createdAtMs args.nowMs = true →
          s.lastRequest args.cacheKey = some args.idempotencyKey) ∧
      (store.readIdempotentEvent s.db args = .ok none → args.payload.isRecord = true)
    | op =>
      ∀ entry ∈ s.cache.entries, store.withinReplayWindow entry.2.createdAtMs (s.now op) = true →
        ∀ key ∈ s.lastRequest entry.1, ∀ row ∈ s.db.selectIdempotencyKey key,
          (s.maintain store op).selectByEventId key.appId key.tenantId row.resultEventId =
            s.db.selectByEventId key.appId key.tenantId row.resultEventId

instance [DecidableEq β] (s : CachedStore β) : DecidablePred (InStep store s)
  | .append _ => inferInstanceAs (Decidable (_ ∧ (∀ cached ∈ s.cache.peek _, _ → _) ∧ (_ → _)))
  | .redactEvent .. | .redactByField .. | .pruneRetention .. =>
    inferInstanceAs (Decidable (_ ∧ ∀ ent ∈ s.cache.entries, _ → ∀ key ∈ s.lastRequest _,
      ∀ row ∈ s.db.selectIdempotencyKey key, _ = _))

/-! ## Backed entries -/

/-- The tables answer a request with what the cache has for it. -/
def Backed (db : StreamTables β) (key : IdempotencyKey) (cached : CachedIdempotentEvent) : Prop :=
  ∃ row event, db.selectIdempotencyKey key = some row ∧
    parseIsoMs row.createdAt = cached.createdAtMs ∧
    db.selectByEventId key.appId key.tenantId row.resultEventId = some event ∧
    store.unpackRow event key.tenantId key.appId = .ok cached.event

/-- **The invariant**: every live entry is backed, for the last request under its key. -/
def InSync (s : CachedStore β) : Prop :=
  ∀ text cached, s.Live store s.clock text cached →
    ∃ key, s.lastRequest text = some key ∧ Backed store s.db key cached

variable {store} {s : CachedStore β}

variable {cached : CachedIdempotentEvent} {text : String} {args : AppendArgs}
  {db inserted : StreamTables β} {row : StreamEventRow β}

lemma live_of_le {now later : Int} (hle : now ≤ later) (h : s.Live store later text cached) :
    s.Live store now text cached := by
  refine ⟨h.1, ?_⟩
  have hwithin := h.2
  unfold withinReplayWindow at hwithin ⊢
  split
  · rfl
  · grind

lemma lastRequest_concat_of_ne (s : CachedStore β) (db : StreamTables β) (cache : FrontCache)
    (clock : Int) (hne : text ≠ args.cacheKey) :
    CachedStore.lastRequest ⟨db, cache, s.requests ++ [args.idempotencyKey], clock⟩ text =
      s.lastRequest text := by
  have hjoin : ¬ args.idempotencyKey.appId ++ "|" ++ args.idempotencyKey.tenantId ++ "|" ++
      args.idempotencyKey.replicaId ++ "|" ++ args.idempotencyKey.requestId = text :=
    fun h => hne h.symm
  simp [CachedStore.lastRequest, hjoin]

lemma eq_cacheKey_of_lastRequest (h : s.lastRequest text = some args.idempotencyKey) :
    args.cacheKey = text := by
  have hfound := List.find?_some h
  have htext : args.idempotencyKey.appId ++ "|" ++ args.idempotencyKey.tenantId ++ "|" ++
      args.idempotencyKey.replicaId ++ "|" ++ args.idempotencyKey.requestId = text := by
    simpa using hfound
  exact htext

/-! ## One append -/

lemma Backed.readIdempotentEvent (h : Backed store s.db args.idempotencyKey cached)
    (hlive : store.withinReplayWindow cached.createdAtMs args.nowMs) :
    store.readIdempotentEvent s.db args = .ok (some ⟨cached.event, cached.createdAtMs⟩) := by
  obtain ⟨row, ev, hrow, hmade, hevent, hunp⟩ := h
  have hkey : store.liveIdempotencyRow (s.db.selectIdempotencyKey args.idempotencyKey) args.nowMs =
      some (row.resultEventId, cached.createdAtMs) := by
    rw [hrow, liveIdempotencyRow]
    simp [hmade, hlive]
  have hevent' : s.db.selectByEventId args.appId args.tenantId row.resultEventId = some ev :=
    hevent
  have hunpack' : store.unpackRow ev args.tenantId args.appId = .ok cached.event := hunp
  rw [StreamStore.readIdempotentEvent, hkey]
  simp only [hevent', replayedEvent, hunpack']
  rfl

/-- Past the front-cache, `append` does the same with a cache as without one. -/
lemma append_of_miss {cache : Option FrontCache} {cache' : Option FrontCache}
    (hmiss : store.frontCacheHit cache args = (none, cache')) (db : StreamTables β) :
    (store.append db cache args).result = (store.append db none args).result ∧
      (store.append db cache args).db = (store.append db none args).db := by
  have hnone : store.frontCacheHit none args = (none, none) := rfl
  unfold append
  rw [hmiss]
  cases store.readIdempotentEvent db args with
  | error => exact ⟨rfl, rfl⟩
  | ok old =>
    cases old with
    | some => exact ⟨rfl, rfl⟩
    | none =>
      dsimp only [appendNew]
      cases store.newRow args (db.nextSequence args.streamKey) with
      | error => exact ⟨rfl, rfl⟩
      | ok row =>
        dsimp only
        cases db.insertStreamEvent row <;> exact ⟨rfl, rfl⟩

variable (store) in
lemma append_outcomes (db : StreamTables β) (cache : FrontCache) (args : AppendArgs) :
    (∃ cached, cache.peek args.cacheKey = some cached ∧
      store.withinReplayWindow cached.createdAtMs args.nowMs ∧
      store.append db (some cache) args =
        ⟨db, some (cache.get args.cacheKey).2, .ok ⟨cached.event, false⟩⟩) ∨
    (∀ cached, cache.peek args.cacheKey = some cached →
      store.withinReplayWindow cached.createdAtMs args.nowMs = false) ∧
    ((∃ old, store.readIdempotentEvent db args = .ok (some old) ∧
      store.append db (some cache) args =
        ⟨db, some ((cache.get args.cacheKey).2.set args.cacheKey old), .ok ⟨old.event, false⟩⟩) ∨
    (∃ err, store.append db (some cache) args =
      ⟨db, some (cache.get args.cacheKey).2, .error err⟩) ∨
    ∃ row inserted, store.readIdempotentEvent db args = .ok none ∧
      store.newRow args (db.nextSequence args.streamKey) = .ok row ∧
      db.insertStreamEvent row = .ok inserted ∧ store.append db (some cache) args =
        ⟨inserted.upsertIdempotencyKey args.idempotencyRow, some ((cache.get args.cacheKey).2.set
          args.cacheKey (args.cacheEntry (db.nextSequence args.streamKey))),
          .ok ⟨args.storedEvent (db.nextSequence args.streamKey), true⟩⟩) := by
  rcases frontCacheHit_cases store cache args with ⟨cached, hpeek, hlive, hhit⟩ | ⟨hdead, hmiss⟩
  · exact .inl ⟨cached, hpeek, hlive, by rw [append, hhit]⟩
  refine .inr ⟨hdead, ?_⟩
  rw [append, hmiss]
  cases hread : store.readIdempotentEvent db args with
  | error err => exact .inr (.inl ⟨err, rfl⟩)
  | ok found =>
    cases found with
    | some old => exact .inl ⟨old, rfl, rfl⟩
    | none =>
      refine .inr ?_
      dsimp only [appendNew]
      cases hrow : store.newRow args (db.nextSequence args.streamKey) with
      | error err => exact .inl ⟨err, rfl⟩
      | ok row =>
        dsimp only
        cases hins : db.insertStreamEvent row with
        | error err => exact .inl ⟨err, rfl⟩
        | ok inserted => exact .inr ⟨row, inserted, rfl, rfl, hins, rfl⟩

lemma InSync.backed (h : InSync store s) (hg : InStep store s (.append args))
    (hpeek : s.cache.peek args.cacheKey = some cached)
    (hlive : store.withinReplayWindow cached.createdAtMs args.nowMs) :
    Backed store s.db args.idempotencyKey cached := by
  obtain ⟨key, hkey, hbacked⟩ := h args.cacheKey cached (live_of_le hg.1 ⟨hpeek, hlive⟩)
  obtain rfl := Option.some.inj (hkey.symm.trans (hg.2.1 cached hpeek hlive))
  exact hbacked

/-- **One append.** While every live entry is backed, the cache makes no difference. -/
lemma transparent_of_inSync (h : InSync store s) (hg : InStep store s (.append args)) :
    Transparent store s args := by
  rcases frontCacheHit_cases store s.cache args with ⟨cached, hpeek, hlive, hhit⟩ | ⟨_, hmiss⟩
  · have hread := (h.backed hg hpeek hlive).readIdempotentEvent hlive
    have hnone : store.frontCacheHit none args = (none, none) := rfl
    unfold Transparent append
    rw [hhit, hnone]
    simp [hread]
  · exact append_of_miss hmiss s.db

/-! ## Every step -/

lemma Backed.created {key : IdempotencyKey} (h : Backed store db key cached)
    (hins : db.insertStreamEvent row = .ok inserted) (hne : key ≠ args.idempotencyKey) :
    Backed store (inserted.upsertIdempotencyKey args.idempotencyRow) key cached := by
  obtain ⟨krow, ev, hkrow, hmade, hevent, hunp⟩ := h
  obtain ⟨hkeys, hrows, _⟩ := insertStreamEvent_eq_ok hins
  refine ⟨krow, ev, ?_, hmade, ?_, hunp⟩
  · have hother : (inserted.idempotencyKeys.upsert args.idempotencyRow).find? key =
        inserted.idempotencyKeys.find? key := Table.find?_upsert_of_ne hne
    rwa [selectIdempotencyKey, upsertIdempotencyKey, hother, hkeys]
  · rw [selectByEventId] at hevent
    rw [selectByEventId, upsertIdempotencyKey_streamEvents, hrows, List.find?_append, hevent]
    rfl

lemma backed_of_newRow (hrow : store.newRow args (db.nextSequence args.streamKey) = .ok row)
    (hins : db.insertStreamEvent row = .ok inserted) (hrec : args.payload.isRecord) :
    Backed store (inserted.upsertIdempotencyKey args.idempotencyRow) args.idempotencyKey
      (args.cacheEntry (db.nextSequence args.streamKey)) := by
  have hkey := Table.find?_upsert_self inserted.idempotencyKeys args.idempotencyRow
  have hfound := selectByEventId_of_insert hins
  have hunp := unpackRow_newRow hrec hrow
  obtain ⟨_, _, _, _, heq⟩ := newRow_eq_ok hrow
  rw [heq] at hfound hunp
  exact ⟨args.idempotencyRow, _, hkey, by rw [AppendArgs.idempotencyRow, AppendArgs.cacheEntry],
    hfound, hunp⟩

lemma backed_of_readIdempotentEvent {old : CachedIdempotentEvent}
    (h : store.readIdempotentEvent db args = .ok (some old)) :
    Backed store db args.idempotencyKey old := by
  unfold readIdempotentEvent liveIdempotencyRow at h
  cases hrow : db.selectIdempotencyKey args.idempotencyKey with
  | none => simp [hrow] at h
  | some row =>
    rw [hrow] at h
    dsimp only at h
    split at h
    · simp at h
    next eventId madeMs hlive =>
      split_ifs at hlive
      obtain ⟨hid, hmade⟩ := Prod.mk.inj (Option.some.inj hlive)
      cases hevent : db.selectByEventId args.appId args.tenantId eventId with
      | none => simp [replayedEvent, hevent] at h
      | some ev =>
        rw [hevent] at h
        obtain ⟨stored, hunp, h⟩ := bind_eq_ok.mp h
        obtain rfl := Option.some.inj (Except.ok.inj h)
        exact ⟨row, ev, hrow, hmade, by rw [hid]; exact hevent, hunp⟩

/-- What an append has to leave for the entries to stay backed: its own entry is, and the others
were there before and are not affected. -/
lemma inSync_append (h : InSync store s) (hclock : s.clock ≤ args.nowMs) {cache : FrontCache}
    (hown : ∀ cached, cache.peek args.cacheKey = some cached →
      store.withinReplayWindow cached.createdAtMs args.nowMs →
        Backed store db args.idempotencyKey cached)
    (hoth : ∀ text ≠ args.cacheKey, ∀ cached, cache.peek text = some cached →
      s.cache.peek text = some cached)
    (hdb : ∀ key ≠ args.idempotencyKey, ∀ cached, Backed store s.db key cached →
      Backed store db key cached) :
    InSync store ⟨db, cache, s.requests ++ [args.idempotencyKey], args.nowMs⟩ := by
  rintro text cached ⟨hpeek, hlive⟩
  by_cases htext : text = args.cacheKey
  · rw [htext] at hpeek ⊢
    refine ⟨args.idempotencyKey, ?_, hown cached hpeek hlive⟩
    simp [CachedStore.lastRequest, AppendArgs.cacheKey, AppendArgs.idempotencyKey]
  obtain ⟨key, hkey, hbacked⟩ := h text cached
    (live_of_le hclock ⟨hoth text htext cached hpeek, hlive⟩)
  rw [lastRequest_concat_of_ne s db cache _ htext]
  refine ⟨key, hkey, hdb key ?_ cached hbacked⟩
  rintro rfl
  exact htext (eq_cacheKey_of_lastRequest hkey).symm

lemma inSync_step_append (h : InSync store s) (hg : InStep store s (.append args)) :
    InSync store (s.step store (.append args)) := by
  have hkept : ∀ text ≠ args.cacheKey, ∀ c, (s.cache.get args.cacheKey).2.peek text = some c →
      s.cache.peek text = some c := by
    intro text _ c hc
    rwa [peek_get] at hc
  have hset : ∀ ent, ∀ text ≠ args.cacheKey, ∀ c,
      ((s.cache.get args.cacheKey).2.set args.cacheKey ent).peek text = some c →
        s.cache.peek text = some c :=
    fun _ text hne c hc => hkept text hne c (peek_set_of_ne hne hc)
  rw [step]
  rcases append_outcomes store s.db s.cache args with ⟨cached, hcache, hlive, hout⟩ |
    ⟨hdead, ⟨old, hread, hout⟩ | ⟨err, hout⟩ | ⟨row, inserted, hread, hrow, hins, hout⟩⟩ <;>
    rw [hout]
  · refine inSync_append h hg.1 (fun other hoth _ => ?_) hkept fun _ _ _ hb => hb
    obtain rfl : cached = other := Option.some.inj <| by
      rw [← hcache, ← hoth, Option.getD_some, peek_get]
    exact h.backed hg hcache hlive
  · refine inSync_append h hg.1 (fun other hoth _ => ?_) (hset old) fun _ _ _ hb => hb
    rw [peek_set_self hoth]
    exact backed_of_readIdempotentEvent hread
  · -- A failed append leaves the cache as the lookup did: nothing live under its own key.
    refine inSync_append h hg.1 (fun other hoth hlive => ?_) hkept fun _ _ _ hb => hb
    rw [Option.getD_some, peek_get] at hoth
    rw [hdead other hoth] at hlive
    cases hlive
  · refine inSync_append h hg.1 (fun other hoth _ => ?_) (hset _)
      fun key hne c hb => hb.created hins hne
    rw [peek_set_self hoth]
    exact backed_of_newRow hrow hins (hg.2.2 hread)

lemma maintain_idempotencyKeys (s : CachedStore β) (op : CachedOp) :
    (s.maintain store op).idempotencyKeys = s.db.idempotencyKeys := by
  have hredact : ∀ db key seq appId, db.idempotencyKeys = s.db.idempotencyKeys →
      (store.redactEvent db key seq appId).1.idempotencyKeys = s.db.idempotencyKeys := by
    intro db key seq appId hdb
    unfold redactEvent
    split
    · exact hdb
    · split
      · exact hdb
      · exact hdb
  cases op with
  | append => rfl
  | redactEvent key seq appId => exact hredact s.db key seq appId rfl
  | redactByField =>
    exact redactByField_induction
      (P := fun db => db.idempotencyKeys = s.db.idempotencyKeys) hredact _ _ _ _ _ rfl
  | pruneRetention policies now =>
    exact prunePolicies_induction
      (P := fun db => db.idempotencyKeys = s.db.idempotencyKeys) (fun _ _ hdb => hdb)
      policies now rfl

lemma inSync_maintain (h : InSync store s) {op : CachedOp} (hclock : s.clock ≤ s.now op)
    (hspares : ∀ ent ∈ s.cache.entries,
      store.withinReplayWindow ent.2.createdAtMs (s.now op) →
      ∀ key ∈ s.lastRequest ent.1, ∀ row ∈ s.db.selectIdempotencyKey key,
        (s.maintain store op).selectByEventId key.appId key.tenantId row.resultEventId =
          s.db.selectByEventId key.appId key.tenantId row.resultEventId) :
    InSync store { s with db := s.maintain store op, clock := s.now op } := by
  rintro text cached ⟨hpeek, hlive⟩
  obtain ⟨key, hkey, row, ev, hrow, hmade, hevent, hunp⟩ :=
    h text cached (live_of_le hclock ⟨hpeek, hlive⟩)
  have hmem := peek_eq_some_iff.mp hpeek
  refine ⟨key, hkey, row, ev, ?_, hmade, ?_, hunp⟩
  · rwa [selectIdempotencyKey, maintain_idempotencyKeys]
  · rwa [hspares (text, cached) hmem hlive key hkey row hrow]

/-- **Every step** that meets the condition keeps the entries backed. -/
lemma inSync_step (h : InSync store s) (op : CachedOp) (hg : InStep store s op) :
    InSync store (s.step store op) := by
  cases op with
  | append => exact inSync_step_append h hg
  | redactEvent key seq appId | redactByField tenant stream appId fld val
  | pruneRetention => exact inSync_maintain h hg.1 hg.2

/-- **Every run.** Starting with an empty cache over any tables, in a run whose calls all meet the
condition every append returns, and leaves, what it would without a cache. -/
theorem front_cache_is_transparent (store : StreamStore β) (db : StreamTables β) (capacity : Nat)
    (clock : Int) (ops : List CachedOp) (args : AppendArgs)
    (hguard : Guarded (step store) (InStep store)
      ⟨db, new _ capacity, [], clock⟩ (ops ++ [.append args])) :
    Transparent store (run (step store) ⟨db, new _ capacity, [], clock⟩ ops) args := by
  obtain ⟨hops, hlast, _⟩ := guarded_append.mp hguard
  have hstart : InSync store ⟨db, new _ capacity, [], clock⟩ := by
    rintro text cached ⟨hpeek, _⟩
    cases hpeek
  have hinv := run_invariant (I := InSync store) (fun s op hs hop => inSync_step hs op hop)
    hstart hops
  exact transparent_of_inSync hinv hlast

/-- The event of one request is redacted once another request's event is there as well. -/
def redactAfterAppends (sequence : Int) : List CachedOp :=
  [.append (messageSent "request-1" "event-1"), .append (messageSent "request-2" "event-2"),
    .redactEvent ⟨"_default", "MessageStream", "conv-1"⟩ sequence "_default"]

/-- A cache of one entry holds the second request only, so redacting the first event keeps the
two in step and the first request replays the tombstone either way. -/
theorem front_cache_is_transparent_after_eviction :
    Transparent testStore (run (step testStore) ⟨empty, new _ 1, [], 0⟩ (redactAfterAppends 1))
      (messageSent "request-1" "event-3") :=
  front_cache_is_transparent testStore empty 1 0 (redactAfterAppends 1)
    (messageSent "request-1" "event-3") (by decide +kernel)

/-- **A redacted event is replayed in full.** After its redaction the second request's event is
still in the cache with its payload; without the cache the same request gets the tombstone. And
two requests of different replicas whose ids join to one text share an entry: with the cache the
second one is answered with the first one's event and nothing is stored for it. -/
theorem redacted_event_replayed_from_front_cache :
    ¬Transparent testStore (run (step testStore) ⟨empty, new _ 1, [], 0⟩ (redactAfterAppends 2))
        (messageSent "request-2" "event-3") ∧
      ¬Transparent testStore (run (step testStore)
        ⟨empty, new _ 1, [], 0⟩
        [.append { messageSent "c" "event-1" with replicaId := "a|b" }])
        { messageSent "b|c" "event-2" with replicaId := "a" } := by
  refine ⟨fun h => ?_, fun h => ?_⟩
  · have hreplayed := h.1
    revert hreplayed
    decide +kernel
  · have hreplayed := h.1
    revert hreplayed
    decide +kernel

end Frick.Properties
