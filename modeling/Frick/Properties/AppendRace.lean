import Frick.Store.AppendCall

/-!
# Exactly-once appends under concurrency

Any number of `append_event` calls carry one idempotency key and interleave statement by statement.
The durable lookup, the sequence read, the `INSERT` and the idempotency upsert are separate
statements, so two calls can both miss the lookup and both insert.

The proof follows the life of a key through three phases: nothing is stored, one call has inserted
its event but not recorded the key, the key is recorded.
-/

namespace Frick.Properties

open Framework Protocol Store AppendSystem StreamStore

variable {ι β : Type}

/-! ## The property and its condition -/

/-- The idempotency key a stored row was written under. -/
def rowKey (row : StreamEventRow β) : IdempotencyKey :=
  ⟨row.appId, row.tenantId, row.replicaId, row.requestId⟩

def rowsFor (db : StreamTables β) (key : IdempotencyKey) : List (StreamEventRow β) :=
  db.streamEvents.rows.filter fun row => rowKey row = key

/-- The calls carry one key, and each is inside the replay window of every other. -/
structure SameRequest (store : StreamStore β) (args : ι → AppendArgs) (key : IdempotencyKey) :
    Prop where
  key_eq : ∀ i, (args i).idempotencyKey = key
  inWindow : ∀ i j, store.withinReplayWindow (parseIsoMs (isoFromEpochMs (args i).nowMs))
    (args j).nowMs = true

/-- No call has started and nothing is known of the key, in the tables or in the cache. -/
structure FreshKey (args : ι → AppendArgs) (key : IdempotencyKey) (s : AppendSystem ι β) :
    Prop where
  idle : ∀ i, s.calls i = .idle
  noRow : rowsFor s.db key = []
  noKey : s.db.selectIdempotencyKey key = none
  notCached : ∀ i cache, s.slot = some cache → cache.peek (args i).cacheKey = none

/-- What the callers and the log see when an append happens exactly once. -/
structure ExactlyOnce (key : IdempotencyKey) (s : AppendSystem ι β) : Prop where
  createdOnce : ∀ i j e e', s.calls i = .returned (.ok ⟨e, true⟩) →
    s.calls j = .returned (.ok ⟨e', true⟩) → i = j
  sameEvent : ∀ i j r r', s.calls i = .returned (.ok r) → s.calls j = .returned (.ok r') →
    r.event = r'.event
  oneRow : ∀ i r, s.calls i = .returned (.ok r) → ∃ row, rowsFor s.db key = [row]

/-- A call has missed its durable lookup and has not recorded its key yet. -/
def inFlight : CallState β → Bool
  | .nextSequence _ | .insert _ _ _ | .upsertKey _ _ => true
  | _ => false

/-- The next statement of a call is its durable lookup. -/
def atLookup : CallState β → Bool
  | .readKey _ => true
  | _ => false

/-- The condition on one statement: a durable lookup is made only while no other call is in
flight. -/
def LooksUpAlone (s : AppendSystem ι β) (i : ι) : Prop :=
  atLookup (s.calls i) = true → ∀ j, j ≠ i → inFlight (s.calls j) = false

instance (s : AppendSystem Bool β) (i : Bool) : Decidable (LooksUpAlone s i) :=
  inferInstanceAs (Decidable (_ → ∀ j, j ≠ i → _))

/-! ## The phases of a key -/

/-- How far the key has come, and through which call. -/
inductive Phase (ι β : Type) where
  | fresh
  | inserted (i : ι) (sequence : Int) (row : StreamEventRow β)
  | recorded (i : ι) (sequence : Int) (row : StreamEventRow β)

section Phases

variable (store : StreamStore β) (args : ι → AppendArgs) (key : IdempotencyKey)

def DbOk (db : StreamTables β) : Phase ι β → Prop
  | .fresh => rowsFor db key = [] ∧ db.selectIdempotencyKey key = none
  | .inserted i sequence row => store.newRow (args i) sequence = .ok row ∧ rowsFor db key = [row] ∧
      db.selectByEventId (args i).appId (args i).tenantId (args i).eventId = some row ∧
      db.selectIdempotencyKey key = none
  | .recorded i sequence row => store.newRow (args i) sequence = .ok row ∧ rowsFor db key = [row] ∧
      db.selectByEventId (args i).appId (args i).tenantId (args i).eventId = some row ∧
      db.selectIdempotencyKey key = some (args i).idempotencyRow

/-- What a cache may answer for the key in each phase. -/
def CacheOk (phase : Phase ι β) (cache : Option FrontCache) : Prop :=
  ∀ c, cache = some c → ∀ j v, c.peek (args j).cacheKey = some v →
    ∃ i sequence row, phase = .recorded i sequence row ∧ v = (args i).cacheEntry sequence

/-- Which successful results call `j` may hold in each phase. -/
def ResultOk (phase : Phase ι β) (j : ι) (result : Except StoreError AppendResult) : Prop :=
  ∀ r, result = .ok r → ∃ i sequence row, phase = .recorded i sequence row ∧
    r.event = (args i).storedEvent sequence ∧ (r.created = true → j = i)

/-- What call `j` may hold at each program point. -/
def CallOk (phase : Phase ι β) (j : ι) : CallState β → Prop
  | .idle => True
  | .readKey cache => CacheOk args phase cache
  | .readEvent cache eventId createdAtMs => CacheOk args phase cache ∧
      ∃ i sequence row, phase = .recorded i sequence row ∧ eventId = (args i).eventId ∧
        createdAtMs = parseIsoMs (isoFromEpochMs (args i).nowMs)
  | .nextSequence cache => CacheOk args phase cache ∧ phase = .fresh
  | .insert cache sequence row => CacheOk args phase cache ∧ phase = .fresh ∧
      store.newRow (args j) sequence = .ok row
  | .upsertKey cache sequence => CacheOk args phase cache ∧ ∃ row, phase = .inserted j sequence row
  | .restore cache result => CacheOk args phase cache ∧ ResultOk args phase j result
  | .returned result => ResultOk args phase j result

/-- The invariant of an interleaving whose lookups are made alone. -/
structure RaceInv (phase : Phase ι β) (s : AppendSystem ι β) : Prop where
  db : DbOk store args key s.db phase
  slot : CacheOk args phase s.slot
  calls : ∀ j, CallOk store args phase j (s.calls j)
  alone : ∀ i j, inFlight (s.calls i) = true → inFlight (s.calls j) = true → i = j
  inserting : ∀ i sequence row, phase = .inserted i sequence row →
    ∃ cache, s.calls i = .upsertKey cache sequence

variable {store args key} {phase phase' : Phase ι β} {s : AppendSystem ι β} {i j : ι}

/-! ## Caches and results -/

lemma SameRequest.cacheKey_eq (h : SameRequest store args key) (i j : ι) :
    (args i).cacheKey = (args j).cacheKey := by
  have hkey := (h.key_eq i).trans (h.key_eq j).symm
  simp only [AppendArgs.idempotencyKey, IdempotencyKey.mk.injEq] at hkey
  obtain ⟨happ, hten, hrepl, hreq⟩ := hkey
  rw [AppendArgs.cacheKey, AppendArgs.cacheKey, happ, hten, hrepl, hreq]

variable {cache : Option FrontCache} {sequence : Int} {row : StreamEventRow β} {db : StreamTables β}
  {c : CallState β}

section Unrecorded

variable (hphase : ∀ i sequence row, phase ≠ .recorded i sequence row)
include hphase

lemma CacheOk.of_unrecorded (h : CacheOk args phase cache) : CacheOk args phase' cache := by
  intro c hc j v hv
  obtain ⟨i, sequence, row, hrec, _⟩ := h c hc j v hv
  exact absurd hrec (hphase i sequence row)

lemma ResultOk.of_unrecorded {res : Except StoreError AppendResult}
    (h : ResultOk args phase j res) : ResultOk args phase' j res := by
  intro r hr
  obtain ⟨i, sequence, row, hrec, _⟩ := h r hr
  exact absurd hrec (hphase i sequence row)

lemma CallOk.of_unrecorded (h : CallOk store args phase j c) (hflight : inFlight c = false) :
    CallOk store args phase' j c := by
  cases c with
  | idle => trivial
  | readKey => exact CacheOk.of_unrecorded hphase h
  | readEvent =>
    obtain ⟨_, i, sequence, row, hrec, _⟩ := h
    exact absurd hrec (hphase i sequence row)
  | nextSequence | insert | upsertKey => cases hflight
  | restore => exact ⟨h.1.of_unrecorded hphase, h.2.of_unrecorded hphase⟩
  | returned => exact ResultOk.of_unrecorded hphase h

end Unrecorded

lemma resultOk_error (phase : Phase ι β) (j : ι) (err : StoreError) :
    ResultOk args phase j (.error err) := by
  intro r hr
  cases hr

lemma CacheOk.set (hsame : SameRequest store args key) (j : ι) :
    CacheOk args (.recorded i sequence row)
      (cacheSet cache (args j) ((args i).cacheEntry sequence)) := by
  intro c hc k v hv
  obtain ⟨c', _, rfl⟩ := Option.map_eq_some_iff.mp hc
  rw [hsame.cacheKey_eq k j] at hv
  exact ⟨i, sequence, row, rfl, BoundedIdempotencyCache.peek_set_self hv⟩

lemma CacheOk.frontCacheHit (store : StreamStore β) (h : CacheOk args phase cache) (j : ι) :
    CacheOk args phase (store.frontCacheHit cache (args j)).2 ∧
      ∀ ev, (store.frontCacheHit cache (args j)).1 = some ev →
        ResultOk args phase j (.ok ⟨ev, false⟩) := by
  cases cache with
  | none => exact ⟨h, nofun⟩
  | some c =>
    have hkept : CacheOk args phase (some (c.get (args j).cacheKey).2) := by
      rintro _ ⟨⟩ k v hv
      rw [BoundedIdempotencyCache.peek_get] at hv
      exact h c rfl k v hv
    rcases store.frontCacheHit_cases c (args j) with ⟨hit, hpeek, _, hhit⟩ | ⟨_, hmiss⟩
    · obtain ⟨i, sequence, row, hphase, rfl⟩ := h c rfl j hit hpeek
      rw [hhit]
      refine ⟨hkept, ?_⟩
      rintro _ ⟨⟩ r ⟨⟩
      exact ⟨i, sequence, row, hphase, rfl, by simp⟩
    · rw [hmiss]
      exact ⟨hkept, nofun⟩

/-! ## What the statements find -/

section

variable (hsame : SameRequest store args key)
include hsame

lemma rowKey_newRow (h : store.newRow (args i) sequence = .ok row) : rowKey row = key := by
  obtain ⟨packed, col, _, _, rfl⟩ := newRow_eq_ok h
  exact hsame.key_eq i

lemma DbOk.insert {db' : StreamTables β}
    (h : DbOk store args key db .fresh) (hrow : store.newRow (args i) sequence = .ok row)
    (hins : db.insertStreamEvent row = .ok db') :
    DbOk store args key db' (.inserted i sequence row) := by
  obtain ⟨hnoRow, hnoKey⟩ := h
  obtain ⟨hkeys, hrows, _⟩ := StreamTables.insertStreamEvent_eq_ok hins
  have hfound := StreamTables.selectByEventId_of_insert hins
  refine ⟨hrow, ?_, ?_, ?_⟩
  · rw [rowsFor] at hnoRow
    rw [rowsFor, hrows, List.filter_append, hnoRow, List.filter_cons_of_pos]
    · rfl
    · simp [rowKey_newRow hsame hrow]
  · obtain ⟨packed, col, _, _, rfl⟩ := newRow_eq_ok hrow
    exact hfound
  · rwa [StreamTables.selectIdempotencyKey, hkeys]

lemma DbOk.upsert (h : DbOk store args key db (.inserted i sequence row)) :
    DbOk store args key (db.upsertIdempotencyKey (args i).idempotencyRow)
      (.recorded i sequence row) := by
  obtain ⟨hrow, hone, hfound, _⟩ := h
  refine ⟨hrow, hone, hfound, ?_⟩
  have hkey : (args i).idempotencyRow.key = key := hsame.key_eq i
  rw [← hkey]
  exact Table.find?_upsert_self _ _

/-- The second `SELECT` of a replay finds the row of the creating call and unpacks it to that
call's event. -/
lemma DbOk.replayedEvent (hrecord : ∀ i, (args i).payload.isRecord)
    (h : DbOk store args key db (.recorded i sequence row)) (madeMs : Option Int) :
    store.replayedEvent (db.selectByEventId (args j).appId (args j).tenantId (args i).eventId)
      madeMs (args j).tenantId (args j).appId =
        .ok (some ⟨(args i).storedEvent sequence, madeMs⟩) := by
  obtain ⟨hrow, _, hfound, _⟩ := h
  have hkey := (hsame.key_eq j).trans (hsame.key_eq i).symm
  simp only [AppendArgs.idempotencyKey, IdempotencyKey.mk.injEq] at hkey
  rw [hkey.1, hkey.2.1, hfound, StreamStore.replayedEvent, unpackRow_newRow (hrecord i) hrow]
  rfl

end

/-! ## One statement -/

section Statements

variable [DecidableEq ι] (h : RaceInv store args key phase s)
include h

lemma RaceInv.setCall (hc : CallOk store args phase i c)
    (halone : inFlight c → ∀ j, inFlight (s.calls j) → j = i)
    (hpoint : ∀ cache sequence, s.calls i ≠ .upsertKey cache sequence) :
    RaceInv store args key phase (s.setCall i c) where
  db := h.db
  slot := h.slot
  calls := by
    intro j
    rcases eq_or_ne j i with rfl | hne
    · simpa [setCall] using hc
    · simpa [AppendSystem.setCall, hne] using h.calls j
  alone := by
    intro j k hj hk
    simp only [AppendSystem.setCall, Function.update_apply] at hj hk
    split_ifs at hj hk with hji hki hki
    · rw [hji, hki]
    · rw [hji, halone hj k hk]
    · rw [hki, halone hk j hj]
    · exact h.alone j k hj hk
  inserting := by
    intro k sequence row hphase
    obtain ⟨cache, hcall⟩ := h.inserting k sequence row hphase
    have hne : k ≠ i := fun hki => hpoint cache sequence (hki ▸ hcall)
    exact ⟨cache, by simpa [AppendSystem.setCall, hne] using hcall⟩

lemma RaceInv.advance (hphase : ∀ i sequence row, phase ≠ .recorded i sequence row)
    (hflight : inFlight (s.calls i)) (hdb : DbOk store args key db phase')
    (hc : CallOk store args phase' i c)
    (hpoint : ∀ k sequence row, phase' = .inserted k sequence row →
      k = i ∧ ∃ cache, c = .upsertKey cache sequence) :
    RaceInv store args key phase' ({ s with db }.setCall i c) where
  db := hdb
  slot := h.slot.of_unrecorded hphase
  calls := by
    intro j
    by_cases hji : j = i
    · simpa [AppendSystem.setCall, hji] using hc
    · have hquiet : inFlight (s.calls j) = false := by
        by_contra hbusy
        exact hji (h.alone j i (by simpa using hbusy) hflight)
      simpa [AppendSystem.setCall, hji] using (h.calls j).of_unrecorded hphase hquiet
  alone := by
    have hquiet : ∀ j, inFlight (Function.update s.calls i c j) → j = i := by
      intro j hj
      by_contra hji
      rw [Function.update_of_ne hji] at hj
      exact hji (h.alone j i hj hflight)
    intro j k hj hk
    rw [hquiet j hj, hquiet k hk]
  inserting := by
    intro k sequence row hins
    obtain ⟨rfl, cache, hcache⟩ := hpoint k sequence row hins
    exact ⟨cache, by simpa [AppendSystem.setCall] using hcache⟩

/-- The durable lookup: with nobody else in flight it misses only while the key is fresh. -/
lemma RaceInv.readKey (hsame : SameRequest store args key)
    (hcall : s.calls i = .readKey cache) (halone : ∀ j, j ≠ i → inFlight (s.calls j) = false) :
    RaceInv store args key phase (step store args s i) := by
  have hcache : CacheOk args phase cache := by simpa [hcall, CallOk] using h.calls i
  have hpoint : ∀ cache sequence, s.calls i ≠ .upsertKey cache sequence := by simp [hcall]
  have hdb := h.db
  simp only [step, hcall, hsame.key_eq i]
  cases phase with
  | fresh =>
    rw [hdb.2]
    refine h.setCall ⟨hcache, rfl⟩ ?_ hpoint
    intro _ j hj
    by_contra hji
    simp [halone j hji] at hj
  | inserted k sequence row =>
    -- The inserting call is in flight, so no lookup is made in this phase.
    obtain ⟨c, hk⟩ := h.inserting k sequence row rfl
    have hki : k ≠ i := by
      rintro rfl
      exact hpoint c sequence hk
    have hquiet := halone k hki
    rw [hk] at hquiet
    cases hquiet
  | recorded k sequence row =>
    have hwithin : store.withinReplayWindow (parseIsoMs (args k).idempotencyRow.createdAt) _ :=
      hsame.inWindow k i
    rw [hdb.2.2.2, liveIdempotencyRow, if_pos hwithin]
    exact h.setCall ⟨hcache, k, sequence, row, rfl, rfl, rfl⟩ (by simp [inFlight]) hpoint

lemma RaceInv.idle (hcall : s.calls i = .idle) :
    RaceInv store args key phase (step store args s i) := by
  have hslot : RaceInv store args key phase { s with slot := none } := { h with slot := nofun }
  have hpoint : ∀ cache sequence, s.calls i ≠ .upsertKey cache sequence := by simp [hcall]
  obtain ⟨hcache, hhit⟩ := h.slot.frontCacheHit store i
  simp only [step, hcall]
  rcases hfront : store.frontCacheHit s.slot (args i) with ⟨_ | ev, cache⟩ <;>
    rw [hfront] at hcache hhit
  · exact hslot.setCall hcache (by simp [inFlight]) hpoint
  · exact hslot.setCall ⟨hcache, hhit ev rfl⟩ (by simp [inFlight]) hpoint

variable (hsame : SameRequest store args key) (hrecord : ∀ i, (args i).payload.isRecord = true)
include hsame hrecord

lemma RaceInv.readEvent {eventId : String} {madeMs : Option Int}
    (hcall : s.calls i = .readEvent cache eventId madeMs) :
    RaceInv store args key phase (step store args s i) := by
  have hok := h.calls i
  rw [hcall] at hok
  obtain ⟨_, k, sequence, row, rfl, rfl, hmade⟩ := hok
  have hentry : (⟨(args k).storedEvent sequence, madeMs⟩ : CachedIdempotentEvent) =
      (args k).cacheEntry sequence := by
    rw [hmade, AppendArgs.cacheEntry]
  simp only [step, hcall, h.db.replayedEvent hsame hrecord]
  refine h.setCall ⟨?_, ?_⟩ (by simp [inFlight]) (by simp [hcall])
  · rw [hentry]
    exact CacheOk.set hsame i
  · rintro r ⟨⟩
    exact ⟨k, sequence, row, rfl, rfl, by simp⟩

/-- **Step.** One statement of one call keeps the invariant, possibly in a later phase. -/
lemma RaceInv.step (hg : LooksUpAlone s i) :
    ∃ phase', RaceInv store args key phase' (step store args s i) := by
  have hok := h.calls i
  cases hcall : s.calls i with
  | idle => exact ⟨phase, h.idle hcall⟩
  | readKey => exact ⟨phase, h.readKey hsame hcall (hg (by rw [hcall]; rfl))⟩
  | readEvent => exact ⟨phase, h.readEvent hsame hrecord hcall⟩
  | nextSequence =>
    rw [hcall] at hok
    obtain ⟨hcache, rfl⟩ := hok
    have hflight : inFlight (s.calls i) := by rw [hcall]; rfl
    simp only [AppendSystem.step, hcall]
    cases hrow : store.newRow (args i) (s.db.nextSequence (args i).streamKey) with
    | error =>
      exact ⟨_, h.setCall ⟨hcache, resultOk_error _ _ _⟩ (by simp [inFlight]) (by simp [hcall])⟩
    | ok =>
      refine ⟨_, h.setCall ⟨hcache, rfl, hrow⟩ ?_ (by simp [hcall])⟩
      intro _ j hj
      exact h.alone j i hj hflight
  | insert cache sequence row =>
    rw [hcall] at hok
    obtain ⟨hcache, rfl, hrow⟩ := hok
    simp only [AppendSystem.step, hcall]
    cases hins : s.db.insertStreamEvent row with
    | error =>
      exact ⟨_, h.setCall ⟨hcache, resultOk_error _ _ _⟩ (by simp [inFlight]) (by simp [hcall])⟩
    | ok db =>
      refine ⟨.inserted i sequence row, h.advance (by simp) (by rw [hcall]; rfl)
        (h.db.insert hsame hrow hins) ⟨hcache.of_unrecorded (by simp), row, rfl⟩ ?_⟩
      rintro k _ _ ⟨⟩
      exact ⟨rfl, cache, rfl⟩
  | upsertKey _ sequence =>
    rw [hcall] at hok
    obtain ⟨_, row, rfl⟩ := hok
    simp only [AppendSystem.step, hcall]
    refine ⟨.recorded i sequence row, h.advance (by simp) (by rw [hcall]; rfl)
      (h.db.upsert hsame) ⟨CacheOk.set hsame i, ?_⟩ (by simp)⟩
    rintro r ⟨⟩
    exact ⟨i, sequence, row, rfl, rfl, fun _ => rfl⟩
  | restore cache =>
    rw [hcall] at hok
    have hslot : CacheOk args phase (s.slot.or cache) := by
      intro c hc
      rcases Option.or_eq_some_iff.mp hc with hs | ⟨_, hs⟩
      · exact h.slot c hs
      · exact hok.1 c hs
    have hrestored : RaceInv store args key phase { s with slot := s.slot.or cache } :=
      { h with slot := hslot }
    simp only [AppendSystem.step, hcall]
    exact ⟨phase, hrestored.setCall hok.2 (by simp [inFlight]) (by simp [hcall])⟩
  | returned =>
    simp only [AppendSystem.step, hcall]
    exact ⟨phase, h⟩

end Statements

lemma FreshKey.raceInv (h : FreshKey args key s) : RaceInv store args key .fresh s where
  db := ⟨h.noRow, h.noKey⟩
  slot c hc j v hv := by
    rw [h.notCached j c hc] at hv
    cases hv
  calls := fun j => by rw [h.idle j]; trivial
  alone := fun i j hi => by rw [h.idle i] at hi; cases hi
  inserting := nofun

lemma RaceInv.exactlyOnce (h : RaceInv store args key phase s) : ExactlyOnce key s := by
  have hret : ∀ {i r}, s.calls i = .returned (.ok r) →
      ∃ k sequence row, phase = .recorded k sequence row ∧
        r.event = (args k).storedEvent sequence ∧ (r.created → i = k) := by
    intro i r hcall
    have hok := h.calls i
    rw [hcall] at hok
    exact hok r rfl
  refine ⟨?_, ?_, ?_⟩
  · intro i j e e' hi hj
    obtain ⟨k, _, _, hk, _, hik⟩ := hret hi
    obtain ⟨l, _, _, hl, _, hjl⟩ := hret hj
    rw [hk, Phase.recorded.injEq] at hl
    rw [hik rfl, hjl rfl, hl.1]
  · intro i j r r' hi hj
    obtain ⟨k, sequence, _, hk, hr, _⟩ := hret hi
    obtain ⟨l, sequence', _, hl, hr', _⟩ := hret hj
    rw [hk, Phase.recorded.injEq] at hl
    rw [hr, hr', hl.1, hl.2.1]
  · intro i r hi
    obtain ⟨k, sequence, row, rfl, _⟩ := hret hi
    exact ⟨row, h.db.2.1⟩

end Phases

/-- **Exactly once.** Start any number of calls with one idempotency key that nothing is known
of yet, and interleave their statements in any way in which a durable lookup is made only while
no other call is in flight: at most one call answers `created = true`, all successful answers
carry one event, and once a call has succeeded the log holds one row for the key. -/
theorem append_exactly_once [DecidableEq ι] (store : StreamStore β) (args : ι → AppendArgs)
    (key : IdempotencyKey)
    (hsame : SameRequest store args key) (hrecord : ∀ i, (args i).payload.isRecord = true)
    (s : AppendSystem ι β) (hfresh : FreshKey args key s) (schedule : List ι)
    (hguard : Guarded (step store args) LooksUpAlone s schedule) :
    ExactlyOnce key (run (step store args) s schedule) := by
  have hinv : ∃ phase, RaceInv store args key phase (run (step store args) s schedule) :=
    run_invariant (I := fun s => ∃ phase, RaceInv store args key phase s)
      (fun s i hs hguard => by
        obtain ⟨phase, h⟩ := hs
        exact h.step hsame hrecord hguard)
      ⟨.fresh, hfresh.raceInv⟩ hguard
  obtain ⟨phase, h⟩ := hinv
  exact h.exactlyOnce

/-! ## Two calls of one request -/

/-- Two calls that carry the request `request-1`, each with the event id it minted. -/
def twoCalls : Bool → AppendArgs
  | false => messageSent "request-1" "event-1"
  | true => messageSent "request-1" "event-2"

/-- Both calls not started, over an empty database and a front-cache of ten entries. -/
def twoCallsSystem : AppendSystem Bool PackedStreamEvent :=
  ⟨.empty, some (.new _ 10), fun _ => .idle⟩

/-- What a call has answered: its sequence and its `created` flag. -/
def answered : CallState β → Option (Int × Bool)
  | .returned (.ok result) => some (result.event.event.sequence, result.created)
  | _ => none

lemma twoCalls_sameRequest : SameRequest testStore twoCalls (twoCalls false).idempotencyKey where
  key_eq := by decide
  inWindow := fun _ _ => rfl

lemma twoCallsSystem_freshKey :
    FreshKey twoCalls (twoCalls false).idempotencyKey twoCallsSystem where
  idle := fun _ => rfl
  noRow := rfl
  noKey := rfl
  notCached := by
    rintro i _ ⟨⟩
    rfl

lemma exists_returned_of_answered {c : CallState β} {sequence : Int} {created : Bool}
    (h : answered c = some (sequence, created)) :
    ∃ ev, c = .returned (.ok ⟨ev, created⟩) ∧ ev.event.sequence = sequence := by
  unfold answered at h
  split at h
  case h_1 result =>
    obtain ⟨rfl, rfl⟩ := Prod.mk.inj (Option.some.inj h)
    exact ⟨result.event, rfl, rfl⟩
  case h_2 => cases h

/-- One call after the other: the second finds the key recorded. -/
def oneAfterTheOther : List Bool := List.replicate 7 false ++ List.replicate 7 true

theorem append_exactly_once_one_after_the_other :
    ExactlyOnce (twoCalls false).idempotencyKey
        (run (step testStore twoCalls) twoCallsSystem oneAfterTheOther) ∧
      answered ((run (step testStore twoCalls) twoCallsSystem
        oneAfterTheOther).calls false) = some (1, true) ∧
      answered ((run (step testStore twoCalls) twoCallsSystem
        oneAfterTheOther).calls true) = some (1, false) :=
  ⟨append_exactly_once testStore twoCalls _ twoCalls_sameRequest (by decide) twoCallsSystem
    twoCallsSystem_freshKey oneAfterTheOther (by decide +kernel), by decide +kernel,
    by decide +kernel⟩

/-- Both calls consult the front-cache and the idempotency table before either writes. -/
def bothLookFirst : List Bool :=
  [false, false, true, true] ++ List.replicate 4 false ++ List.replicate 4 true

/-- Both lookups miss, both inserts succeed at sequences 1 and 2, and both calls answer
`created = true`. -/
theorem both_lookups_miss :
    SameRequest testStore twoCalls (twoCalls false).idempotencyKey ∧
      FreshKey twoCalls (twoCalls false).idempotencyKey twoCallsSystem ∧
      (∀ i, (twoCalls i).payload.isRecord = true) ∧
      (rowsFor (run (step testStore twoCalls) twoCallsSystem bothLookFirst).db
        (twoCalls false).idempotencyKey).map StreamEventRow.sequence = [1, 2] ∧
      ¬ ExactlyOnce (twoCalls false).idempotencyKey
        (run (step testStore twoCalls) twoCallsSystem bothLookFirst) := by
  refine ⟨twoCalls_sameRequest, twoCallsSystem_freshKey, by decide, by decide +kernel, ?_⟩
  intro honce
  have hfirst : answered ((run (step testStore twoCalls) twoCallsSystem
      bothLookFirst).calls false) = some (1, true) := by decide +kernel
  have hsecond : answered ((run (step testStore twoCalls) twoCallsSystem
      bothLookFirst).calls true) = some (2, true) := by decide +kernel
  obtain ⟨event, hcall, _⟩ := exists_returned_of_answered hfirst
  obtain ⟨event', hcall', _⟩ := exists_returned_of_answered hsecond
  exact Bool.false_ne_true (honce.createdOnce _ _ _ _ hcall hcall')

end Frick.Properties
