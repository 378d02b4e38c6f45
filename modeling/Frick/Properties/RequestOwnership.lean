import Frick.Properties.FrontCache

/-!
# Whose event an append is answered with

An append is taken for a replay if its app, tenant, replica id and request id are those of an append
before it. None of the four says who the user is, and the replica id is what the client sent when it
signed up or logged in: two users whose ids agree are answered with each other's events.
-/

namespace Frick.Properties

open Framework Store BoundedIdempotencyCache Option

variable {β : Type} (store : StreamStore β)

/-- The tables, the front-cache, and the appends that have created an event, each with its user. -/
structure SharedLog (β : Type) where
  db : StreamTables β
  cache : FrontCache
  created : List (String × AppendArgs) := []

namespace SharedLog

/-- An append by a user, recorded if it creates an event. -/
def step (s : SharedLog β) (call : String × AppendArgs) : SharedLog β :=
  let outcome := store.append s.db (some s.cache) call.2
  { db := outcome.db
    cache := outcome.cache.getD s.cache
    created := s.created ++
      if outcome.result.toOption.any AppendResult.created then [call] else [] }

/-- The append creates an event with its own payload, or is answered with one that its user created,
unless it fails. -/
def AnswersOwn (s : SharedLog β) (call : String × AppendArgs) : Prop :=
  ∀ event created, (store.append s.db (some s.cache) call.2).result = .ok ⟨event, created⟩ →
    if created then ∃ sequence, event = call.2.storedEvent sequence
    else ∃ earlier ∈ s.created, earlier.1 = call.1 ∧ earlier.2.eventId = event.event.eventId

/-- Nobody else has created an event under ids that join to the same text within the replay window.
-/
def Unshared (s : SharedLog β) (call : String × AppendArgs) : Prop :=
  ∀ earlier ∈ s.created, earlier.2.cacheKey = call.2.cacheKey →
    store.withinReplayWindow (parseIsoMs (isoFromEpochMs earlier.2.nowMs)) call.2.nowMs = true →
      earlier.1 = call.1

/-- What is in the cache, or pointed at by an idempotency row, was created by the append it says. -/
structure Attributed (s : SharedLog β) : Prop where
  readable : store.Readable s.db
  rows : ∀ row ∈ s.db.idempotencyKeys, ∃ earlier ∈ s.created, earlier.2.idempotencyRow = row
  cached : ∀ text cached, s.cache.peek text = some cached → ∃ earlier ∈ s.created,
    earlier.2.cacheKey = text ∧ earlier.2.eventId = cached.event.event.eventId ∧
      cached.createdAtMs = parseIsoMs (isoFromEpochMs earlier.2.nowMs)

variable {store} {s : SharedLog β} {args : AppendArgs}

lemma Attributed.of_readIdempotentEvent (h : Attributed store s) {old : CachedIdempotentEvent}
    (hread : store.readIdempotentEvent s.db args = .ok (some old)) :
    store.withinReplayWindow old.createdAtMs args.nowMs ∧ ∃ earlier ∈ s.created,
      earlier.2.cacheKey = args.cacheKey ∧ earlier.2.eventId = old.event.event.eventId ∧
        old.createdAtMs = parseIsoMs (isoFromEpochMs earlier.2.nowMs) := by
  obtain ⟨row, event, hrow, hmade, hevent, hunp⟩ := backed_of_readIdempotentEvent hread
  have hmem : row ∈ s.db.idempotencyKeys := List.mem_of_find?_eq_some hrow
  obtain ⟨earlier, hearl, rfl⟩ := h.rows row hmem
  have hkey : earlier.2.idempotencyRow.key = args.idempotencyKey := by
    simpa using List.find?_some hrow
  have hfound := List.find?_some hevent
  simp only [decide_eq_true_eq] at hfound
  obtain ⟨stored, hstored, -, -, hid⟩ :=
    (h.readable event (List.mem_of_find?_eq_some hevent)).unpackRow args.appId
  rw [hfound.2.1] at hstored
  obtain rfl := Except.ok.inj (hstored.symm.trans hunp)
  refine ⟨?_, earlier, hearl, ?_, ?_, hmade.symm⟩
  · rw [← hmade]
    by_contra hlate
    simp [StreamStore.readIdempotentEvent, hrow, StreamStore.liveIdempotencyRow, hlate] at hread
  · simp only [AppendArgs.idempotencyRow, AppendArgs.idempotencyKey,
      IdempotencyKey.mk.injEq] at hkey
    simp only [AppendArgs.cacheKey, hkey]
  · rw [hid, hfound.2.2]
    rfl

lemma Attributed.answersOwn (h : Attributed store s) {call : String × AppendArgs}
    (hunshared : Unshared store s call) : AnswersOwn store s call := by
  intro event created hres
  rcases append_outcomes store s.db s.cache call.2 with ⟨cached, hpeek, hlive, hout⟩ |
    ⟨-, ⟨existing, hread, hout⟩ | ⟨err, hout⟩ | ⟨row, inserted, -, -, -, hout⟩⟩ <;>
    rw [hout] at hres
  · obtain ⟨rfl, rfl⟩ := AppendResult.mk.inj (Except.ok.inj hres)
    obtain ⟨earlier, hearl, hkey, hid, hmade⟩ := h.cached _ _ hpeek
    rw [hmade] at hlive
    exact ⟨earlier, hearl, hunshared earlier hearl hkey hlive, hid⟩
  · obtain ⟨rfl, rfl⟩ := AppendResult.mk.inj (Except.ok.inj hres)
    obtain ⟨hlive, earlier, hearl, hkey, hid, hmade⟩ := h.of_readIdempotentEvent hread
    rw [hmade] at hlive
    exact ⟨earlier, hearl, hunshared earlier hearl hkey hlive, hid⟩
  · cases hres
  · obtain ⟨rfl, rfl⟩ := AppendResult.mk.inj (Except.ok.inj hres)
    exact ⟨_, rfl⟩

lemma cached_set {text : String} {cached entry : CachedIdempotentEvent}
    (hpeek : ((s.cache.get args.cacheKey).2.set args.cacheKey entry).peek text = some cached) :
    cached = entry ∧ text = args.cacheKey ∨ s.cache.peek text = some cached := by
  by_cases htext : text = args.cacheKey
  · subst htext
    exact .inl ⟨peek_set_self hpeek, rfl⟩
  · have hold := peek_set_of_ne htext hpeek
    exact .inr (by rwa [peek_get] at hold)

/-- **Step.** An append leaves every row and every cached answer with the call that created it. -/
lemma Attributed.step (h : Attributed store s) (call : String × AppendArgs) :
    Attributed store (s.step store call) := by
  have hgrows : ∀ {P : String × AppendArgs → Prop}, (∃ earlier ∈ s.created, P earlier) →
      ∃ earlier ∈ (s.step store call).created, P earlier :=
    fun ⟨earlier, hearl, hP⟩ => ⟨earlier, List.mem_append_left _ hearl, hP⟩
  have hreadable := StreamStore.readable_append h.readable (some s.cache) call.2
  have hquiet : (s.step store call).db = s.db →
      (s.step store call).cache = (s.cache.get call.2.cacheKey).2 →
      Attributed store (s.step store call) := by
    intro hdb hcache
    refine ⟨hreadable, fun row hrow => hgrows (h.rows row ?_), fun text other hother => ?_⟩
    · rwa [hdb] at hrow
    · rw [hcache, peek_get] at hother
      exact hgrows (h.cached text other hother)
  rcases append_outcomes store s.db s.cache call.2 with ⟨cached, hpeek, hlive, hout⟩ |
    ⟨-, ⟨existing, hread, hout⟩ | ⟨err, hout⟩ | ⟨row, inserted, -, -, hins, hout⟩⟩
  · apply hquiet <;> rw [SharedLog.step, hout, getD_some]
  · refine ⟨hreadable, fun row hrow => hgrows (h.rows row ?_), fun text other hother => ?_⟩
    · rwa [SharedLog.step, hout] at hrow
    · rw [SharedLog.step, hout] at hother
      rcases cached_set hother with ⟨rfl, rfl⟩ | hold
      · exact hgrows (h.of_readIdempotentEvent hread).2
      · exact hgrows (h.cached text other hold)
  · apply hquiet <;> rw [SharedLog.step, hout, getD_some]
  have hcall : call ∈ (s.step store call).created := by
    rw [SharedLog.step, hout]
    exact List.mem_append_right _ (List.mem_singleton_self call)
  refine ⟨hreadable, fun row hrow => ?_, fun text other hother => ?_⟩
  · rw [SharedLog.step, hout] at hrow
    rcases Table.mem_upsert.mp hrow with rfl | ⟨hold, -⟩
    · exact ⟨call, hcall, rfl⟩
    · rw [(StreamTables.insertStreamEvent_eq_ok hins).1] at hold
      exact hgrows (h.rows row hold)
  · rw [SharedLog.step, hout] at hother
    rcases cached_set hother with ⟨rfl, rfl⟩ | hold
    · refine ⟨call, hcall, rfl, ?_, ?_⟩ <;>
        simp only [AppendArgs.cacheEntry, AppendArgs.storedEvent, AppendArgs.wireEvent]
    · exact hgrows (h.cached text other hold)

end SharedLog

open SharedLog (step)

/-- Every append by a user creates an event with its payload or is answered with an event of that
user, in any run in which no two users use the same ids within the replay window. -/
theorem answered_with_own_event (store : StreamStore β) (capacity : Nat)
    (calls : List (String × AppendArgs))
    (hguard : Guarded (step store) (SharedLog.Unshared store)
      ⟨.empty, .new _ capacity, []⟩ calls) (before after : List (String × AppendArgs))
    (call : String × AppendArgs) (hcalls : calls = before ++ call :: after) :
    SharedLog.AnswersOwn store (run (step store) ⟨.empty, .new _ capacity, []⟩ before)
      call := by
  subst hcalls
  obtain ⟨hbefore, hcall, -⟩ := guarded_append.mp hguard
  refine SharedLog.Attributed.answersOwn ?_ hcall
  refine run_invariant (fun s call h _ => h.step call) ⟨StreamStore.readable_empty, ?_, ?_⟩ hbefore
  · exact nofun
  · simp [new, peek]

/-- Ada's append, and one of another user under the same replica id, with the given request id. -/
def secondAppend (requestId : String) : List (String × AppendArgs) :=
  [("ada", messageSent "request-1" "event-1"), ("mallory", messageSent requestId "event-2")]

/-- A request of their own is answered with an event of their own. -/
theorem answered_with_own_event_apart :
    SharedLog.AnswersOwn testStore (run (step testStore) ⟨.empty, .new _ 8, []⟩
      [("ada", messageSent "request-1" "event-1")])
        ("mallory", messageSent "request-2" "event-2") := by
  refine answered_with_own_event testStore 8 (secondAppend "request-2") ?_ _ [] _ rfl
  simp only [secondAppend, guarded_cons, guarded_nil, SharedLog.Unshared]
  decide +kernel

/-- A request id that Ada has used is answered with Ada's event. -/
theorem answered_with_anothers_event :
    ¬SharedLog.AnswersOwn testStore (run (step testStore) ⟨.empty, .new _ 8, []⟩
      [("ada", messageSent "request-1" "event-1")])
        ("mallory", messageSent "request-1" "event-2") := by
  intro h
  obtain ⟨earlier, hearlier, huser, -⟩ := h _ false (by rfl)
  have hada : ∀ earlier ∈ (run (step testStore) ⟨.empty, .new _ 8, []⟩
      [("ada", messageSent "request-1" "event-1")]).created, earlier.1 = "ada" := by decide +kernel
  rw [hada earlier hearlier] at huser
  exact absurd huser (by decide)

end Frick.Properties
