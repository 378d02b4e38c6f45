import Frick.Client.Cache
import Frick.Framework.Text
import Frick.Protocol.Frame

/-!
# The client runtime

`FrickClient` of `packages/core/src/runtime.ts`: what it keeps about objects and streams, the
subscriptions it sends, and how it handles the frames that change what it keeps.

The handlers run in `EStateM`: a record that does not unpack throws out of the handler, and what
was stored before it stays stored. `#receive` is an `async` function nobody awaits, so `receive`
keeps the state either way.
-/

namespace Frick.Client

open Framework Protocol

/-- `FrickClient`: the stores its frame handlers write and the subscriptions it holds. Signals
are listed by key; what they publish is computed from the stores. -/
structure FrickClient where
  schema : FrickSchema
  cacheScope : Option FrickCacheScope := none
  cache : MemoryFrickCache := .empty
  objects : Dict String Value := Table.empty _
  streams : Dict String (List StreamEventInput) := Table.empty _
  /-- `syncStatus.value.cursors`. -/
  cursors : Dict String Int := Table.empty _
  objectListSignals : List String := []
  streamSignals : List String := []
  connected : Bool := false

namespace FrickClient

variable (client : FrickClient)

/-! ## Reading -/

def object (type id : String) : Option Value := client.objects.get? (objectKey type id)

def events (id : String) : List StreamEventInput := (client.streams.get? id).getD []

/-- The cursor a subscription would be sent with. -/
def cursor (subscriptionId : String) : Int := (client.cursors.get? subscriptionId).getD 0

/-! ## Writing -/

/-- The scope every cache call is made with. -/
def scope : FrickCacheScope := client.cacheScope.getD {}

def storeObject (type id : String) (value : Value) (version : Int) : FrickClient :=
  { client with
    objects := client.objects.set (objectKey type id) value
    cache := client.cache.saveObject client.schema client.scope type id value version }

def removeObject (type id : String) : FrickClient :=
  { client with
    objects := client.objects.erase (objectKey type id)
    cache := client.cache.deleteObject client.schema client.scope type id }

def storeStreamEvent (event : StreamEventInput) : FrickClient :=
  let id := streamKey event.stream event.streamId
  { client with
    streams := client.streams.set id (mergeEvent (client.events id) event)
    cache := client.cache.saveStreamEvent client.schema client.scope event }

def saveCursor (key : String) (cursor : Int) : FrickClient :=
  { client with
    cursors := client.cursors.set key (max (client.cursor key) cursor)
    cache := client.cache.saveCursor client.schema client.scope key cursor }

/-- `#hydrateFromCache`: without a session nothing is read. -/
def hydrateFromCache : Except MemoryFrickCache.IncompatibleReason FrickClient :=
  match client.cacheScope with
  | none => .ok client
  | some scope =>
    match client.cache.load client.schema scope with
    | .error reason => .error reason
    | .ok cached =>
      let objects := cached.objects.rows.foldl
        (fun objects object => objects.set object.key object.value) client.objects
      let events := cached.streamEvents.rows.flatMap Prod.snd
      let client := events.foldl storeStreamEvent { client with objects }
      .ok { client with cursors := cached.cursors }

/-- The part of the constructor that fills the stores. -/
def new (schema : FrickSchema) (cacheScope : Option FrickCacheScope) (cache : MemoryFrickCache) :
    Except MemoryFrickCache.IncompatibleReason FrickClient :=
  hydrateFromCache { schema, cacheScope, cache }

/-! ## Frames -/

/-- A frame handler: it updates the client and may throw. -/
abbrev Handler := EStateM ProtocolError FrickClient

/-- `unpack…(this.schema, packed)`, which throws on an unknown definition. -/
def unpack {α β : Type} (f : FrickSchema → α → Except ProtocolError β) (packed : α) :
    Handler β := fun client =>
  match f client.schema packed with
  | .ok unpacked => .ok unpacked client
  | .error err => .error err client

/-- `#handleFrame`, for the frames that change objects, streams and cursors. -/
def handleFrame : FrickFrame → Handler Unit
  | .snapshot payload => do
    payload.objects.forM fun packed => do
      let unpacked ← unpack unpackObjectRecord packed
      modify (storeObject · unpacked.recordType unpacked.id unpacked.value payload.cursor)
    modify (saveCursor · payload.subscriptionId payload.cursor)
  | .streamPage payload => do
    -- `hasMore` is not read.
    payload.events.forM fun packed => do
      let event ← unpack unpackStreamEvent packed
      modify (storeStreamEvent · event)
    modify (saveCursor · payload.subscriptionId payload.cursor)
  | .delta payload => do
    payload.objects.forM fun packed => do
      let unpacked ← unpack unpackObjectRecord packed
      modify fun client =>
        (client.storeObject unpacked.recordType unpacked.id unpacked.value
          payload.cursor).saveCursor
          unpacked.recordType payload.cursor
    (payload.removed.getD []).forM fun removal => do
      modify fun client =>
        (client.removeObject removal.objectType removal.id).saveCursor removal.objectType
          payload.cursor
    payload.events.forM fun packed => do
      let event ← unpack unpackStreamEvent packed
      modify fun client => (client.storeStreamEvent event).saveCursor
        (streamKey event.stream event.streamId) (max event.sequence payload.cursor)
  | _ => pure ()

/-- `#receive`: what a handler that threw had done stays done. -/
def receive (frame : FrickFrame) : FrickClient :=
  match handleFrame frame client with
  | .ok _ client => client
  | .error _ client => client

/-! ## Subscriptions -/

/-- `splitSubscriptionKey`: the text before the first `:`, and the text after it. -/
def splitSubscriptionKey (id : String) : String × String :=
  match splitOnce ':' id.toList with
  | some (name, key) => (String.ofList name, String.ofList key)
  -- `indexOf` is `-1`: `slice(0, -1)` drops the last character, `slice(0)` keeps all.
  | none => (String.ofList id.toList.dropLast, id)

lemma splitSubscriptionKey_streamKey {name : String} (h : ':' ∉ name.toList) (key : String) :
    splitSubscriptionKey (streamKey name key) = (name, key) := by
  have htext : (streamKey name key).toList = name.toList ++ ':' :: key.toList := by simp [streamKey]
  rw [splitSubscriptionKey, htext, splitOnce_append h]
  simp

lemma streamKey_splitSubscriptionKey {id : String} (h : ':' ∈ id.toList) :
    streamKey (splitSubscriptionKey id).1 (splitSubscriptionKey id).2 = id := by
  obtain ⟨⟨name, key⟩, hsplit⟩ := exists_splitOnce h
  rw [splitSubscriptionKey, hsplit, String.ext_iff, ← append_of_splitOnce hsplit]
  simp [streamKey]

lemma notMem_splitSubscriptionKey {id : String} (h : ':' ∈ id.toList) :
    ':' ∉ (splitSubscriptionKey id).1.toList := by
  obtain ⟨⟨name, key⟩, hsplit⟩ := exists_splitOnce h
  rw [splitSubscriptionKey, hsplit, String.toList_ofList]
  exact notMem_of_splitOnce hsplit

/-- The payload of `#sendSubscribe`; an empty key counts as none. -/
def subscribePayload (kind : SubscriptionKind) (name key : String) : SubscribePayload :=
  let subscriptionId := if key = "" then name else streamKey name key
  { subscriptionId
    kind
    name
    key := if key = "" then none else some key
    cursor := some (client.cursor subscriptionId) }

/-- `stream`: the first call for a stream registers its signal and, on a live connection, sends
the subscription. -/
def stream (name key : String) : FrickClient × List SubscribePayload :=
  if streamKey name key ∈ client.streamSignals then (client, [])
  else
    ({ client with streamSignals := client.streamSignals ++ [streamKey name key] },
      if client.connected then [client.subscribePayload .stream name key] else [])

/-- `#resubscribe`, for objects and streams. -/
def resubscribe : List SubscribePayload :=
  (client.objectListSignals.map fun type => client.subscribePayload .object type "") ++
    client.streamSignals.map fun id =>
      client.subscribePayload .stream (splitSubscriptionKey id).1 (splitSubscriptionKey id).2

/-! ## What the handlers do -/

section Handlers

variable {client} {α β : Type}

lemma forM_unpack_eq_ok {f : FrickSchema → α → Except ProtocolError β}
    (update : FrickClient → β → FrickClient)
    (hsch : ∀ client b, (update client b).schema = client.schema) {packed : List α}
    {unpacked : List β} (h : packed.mapM (f client.schema) = .ok unpacked) :
    (packed.forM fun p => do
      let u ← unpack f p
      modify (update · u)) client = .ok () (unpacked.foldl update client) := by
  have hall := mapM_eq_ok_iff.mp h
  clear h
  generalize hs : client.schema = schema at hall
  induction hall generalizing client with
  | nil => rfl
  | @cons p u _ _ hu _ ih =>
    have hhead : unpack f p client = .ok u client := by rw [unpack, hs, hu]
    have htail := ih (show (update client u).schema = schema by rw [hsch, hs])
    rw [List.foldl_cons, ← htail, List.forM]
    simp only [bind, EStateM.bind, hhead]
    rfl

lemma receive_snapshot {pay : SnapshotPayload} {recs : List UnpackedRecord}
    (h : pay.objects.mapM (unpackObjectRecord client.schema) = .ok recs) :
    client.receive (.snapshot pay) =
      (recs.foldl (fun c rec =>
        c.storeObject rec.recordType rec.id rec.value pay.cursor) client).saveCursor
        pay.subscriptionId pay.cursor := by
  have hloop := forM_unpack_eq_ok (fun c rec =>
    c.storeObject rec.recordType rec.id rec.value pay.cursor) (fun _ _ => rfl) h
  rw [receive, handleFrame]
  simp only [bind, EStateM.bind] at hloop ⊢
  rw [hloop]
  rfl

lemma receive_streamPage {pay : StreamPagePayload} {events : List StreamEventInput}
    (h : pay.events.mapM (unpackStreamEvent client.schema) = .ok events) :
    client.receive (.streamPage pay) =
      (events.foldl storeStreamEvent client).saveCursor pay.subscriptionId pay.cursor := by
  have hloop := forM_unpack_eq_ok storeStreamEvent (fun _ _ => rfl) h
  rw [receive, handleFrame]
  simp only [bind, EStateM.bind] at hloop ⊢
  rw [hloop]
  rfl

/-- A delta that carries one event, as every stream append is fanned out. -/
lemma receive_delta_event {packed : PackedStreamEvent} {ev : StreamEventInput} {cursor : Int}
    (h : unpackStreamEvent client.schema packed = .ok ev) :
    client.receive (.delta ⟨[], [packed], cursor, none⟩) =
      (client.storeStreamEvent ev).saveCursor (streamKey ev.stream ev.streamId)
        (max ev.sequence cursor) := by
  have hunp : unpack unpackStreamEvent packed client = .ok ev client := by rw [unpack, h]
  rw [receive, handleFrame]
  simp only [bind, EStateM.bind, pure, EStateM.pure, Option.getD_none, List.forM, hunp]
  rfl

/-! ## What the client holds -/

lemma object_storeObject_self (type id : String) (val : Value) (ver : Int) :
    (client.storeObject type id val ver).object type id = some val :=
  Dict.get?_set_self _ _ _

lemma object_storeObject_of_ne {type id id' : String} (val : Value) (ver : Int)
    (h : id' ≠ id) :
    (client.storeObject type id val ver).object type id' = client.object type id' :=
  Dict.get?_set_of_ne fun heq => h (objectKey_inj.mp heq)

/-- The client holds an event of a stream, by sequence and id. -/
def Holds (client : FrickClient) (id : String) (sequence : Int) (eventId : String) : Prop :=
  ∃ held ∈ client.events id, held.sequence = sequence ∧ held.eventId = eventId

instance (id : String) (seq : Int) (eventId : String) :
    Decidable (client.Holds id seq eventId) :=
  inferInstanceAs (Decidable (∃ held ∈ client.events id, _))

lemma events_storeStreamEvent_self (ev : StreamEventInput) :
    (client.storeStreamEvent ev).events (streamKey ev.stream ev.streamId) =
      mergeEvent (client.events (streamKey ev.stream ev.streamId)) ev := by
  simp [events, storeStreamEvent]

lemma holds_storeStreamEvent (ev : StreamEventInput) :
    (client.storeStreamEvent ev).Holds (streamKey ev.stream ev.streamId) ev.sequence
      ev.eventId := by
  refine ⟨ev, ?_, rfl, rfl⟩
  rw [events_storeStreamEvent_self]
  exact mem_mergeEvent_self _ ev

lemma Holds.storeStreamEvent {id eventId : String} {seq : Int} {ev : StreamEventInput}
    (h : client.Holds id seq eventId)
    (hsame : ev.eventId = eventId → ev.sequence = seq) :
    (client.storeStreamEvent ev).Holds id seq eventId := by
  by_cases hid : id = streamKey ev.stream ev.streamId
  · by_cases heid : ev.eventId = eventId
    · rw [hid, ← heid, ← hsame heid]
      exact holds_storeStreamEvent ev
    · obtain ⟨held, hmem, hseq, hheld⟩ := h
      refine ⟨held, ?_, hseq, hheld⟩
      rw [hid, events_storeStreamEvent_self]
      exact mem_mergeEvent_of_ne (hid ▸ hmem) fun heq => heid (heq.symm.trans hheld)
  · have hevs : (client.storeStreamEvent ev).events id = client.events id := by
      rw [events, FrickClient.storeStreamEvent, Dict.get?_set_of_ne hid, events]
    obtain ⟨held, hmem, hheld⟩ := h
    exact ⟨held, hevs ▸ hmem, hheld⟩

lemma cursor_saveCursor_self (key : String) (cursor : Int) :
    (client.saveCursor key cursor).cursor key = max (client.cursor key) cursor := by
  simp [FrickClient.cursor, FrickClient.saveCursor]

end Handlers

end FrickClient

end Frick.Client
