import Frick.Framework.Feed
import Frick.Sync.StreamTail

/-!
# No gap below the client's cursor

A client resumes a stream from its cursor, so its cursor must be a low-water mark: every event
between the cursor it first subscribed with and the one it has now is in its hands. The cursor is
moved by two handlers, the one for pages and the one for live deltas, each to the largest sequence
it has seen. Neither asks whether something lies in between: the page handler does not read
`hasMore`, and the delta handler takes any sequence.

So the property rests on what the server puts on the connection, and when. `InOrder` is that
condition, on every fan-out. It fails when a page left events out, when an append overtakes the page
that answers the subscription, and when two appends overtake each other.
-/

namespace Frick.Properties

open Framework Protocol Store Server Client Sync GatewayHub StreamStore FrickClient List

variable {β : Type} (tail : Tail β) {start : Int} {w : TailWorld β}

/-! ## The property and its condition -/

/-- The client holds every event of the stream numbered past `start`, up to its cursor. -/
def NoGap (start : Int) (w : TailWorld β) : Prop :=
  ∀ row ∈ w.db.streamEvents, row.appId = tail.appId → row.streamKey = tail.address →
    start < row.sequence → row.sequence ≤ w.client.cursor tail.subscriptionId →
      w.client.Holds tail.subscriptionId row.sequence row.eventId

def frameEvents : FrickFrame → List PackedStreamEvent
  | .streamPage page => page.events
  | .delta delta => delta.events
  | _ => []

/-- A frame carries an event of the log, by sequence and id. -/
def Carries (frame : FrickFrame) (row : StreamEventRow β) : Prop :=
  ∃ packed ∈ frameEvents frame, packed.sequence = row.sequence ∧ packed.eventId = row.eventId

/-- An event the client need not be sent on this connection, going by what it subscribed with. -/
def Known (connection : TailConnection) (row : StreamEventRow β) : Prop :=
  ∃ sub ∈ connection.subscriptions, row.sequence ≤ sub.cursor.getD 0

/-- The fan-out of `stored` reaches the connection. -/
def Reaches (stored : StoredEvent) (connection : TailConnection) : Prop :=
  stored.tenantId = tail.tenantId ∧ stored.appId = tail.appId ∧
    connection.subscribes stored.event = true

/-- The condition on a step. A fan-out that reaches the connection finds everything the stream's
log has below its event known or already enqueued there. An append finds room for its sequence. -/
def InOrder (w : TailWorld β) : TailLabel → Prop
  | .append args => ∀ m ∈ w.db.maxSequence args.streamKey, m < i64Max
  | .publish n =>
    ∀ stored ∈ w.unpublished[n]?, ∀ connection ∈ w.connection, Reaches tail stored connection →
      ∀ row ∈ w.db.streamEvents, row.appId = tail.appId → row.streamKey = tail.address →
        row.sequence < stored.event.sequence →
          Known connection row ∨ ∃ frame ∈ connection.sent, Carries frame row
  | _ => True

instance : Decidable (NoGap tail start w) :=
  inferInstanceAs (Decidable (∀ row ∈ w.db.streamEvents.rows, _))

instance (frame : FrickFrame) (row : StreamEventRow β) : Decidable (Carries frame row) :=
  inferInstanceAs (Decidable (∃ packed ∈ frameEvents frame, _))

instance (connection : TailConnection) (row : StreamEventRow β) :
    Decidable (Known connection row) :=
  inferInstanceAs (Decidable (∃ sub ∈ connection.subscriptions, _))

instance (stored : StoredEvent) (connection : TailConnection) :
    Decidable (Reaches tail stored connection) :=
  inferInstanceAs (Decidable (_ ∧ _ ∧ _))

instance : DecidablePred (InOrder tail w)
  | .append _ => inferInstanceAs (Decidable (∀ m ∈ w.db.maxSequence _, _))
  | .publish _ => inferInstanceAs (Decidable (∀ stored ∈ w.unpublished[_]?,
      ∀ connection ∈ w.connection, _ → ∀ row ∈ w.db.streamEvents.rows, _ → _ → _ →
        _ ∨ ∃ frame ∈ connection.sent, _))
  | .stream | .openSocket | .closeSocket | .register | .readPage _ | .sendPage | .receive =>
    inferInstanceAs (Decidable True)

/-- Before the client's first connection: rows as the store writes them, under the unique index on
event ids, and a client of the same schema with no other subscription. -/
structure BeforeConnecting (w : TailWorld β) : Prop where
  deliverable : ∀ row ∈ w.db.streamEvents, Deliverable tail.store row
  eventIds : ∀ r ∈ w.db.streamEvents, ∀ s ∈ w.db.streamEvents,
    r.tenantId = s.tenantId → r.eventId = s.eventId → r = s
  unpublished : w.unpublished = []
  disconnected : w.connection = none
  schema : w.client.schema = tail.store.schema
  streams : ∀ id ∈ w.client.streamSignals, id = tail.subscriptionId
  objects : w.client.objectListSignals = []

/-! ## The invariant -/

/-- The log of the stream, as the client's app sees it. -/
def tailLog (db : StreamTables β) : Set (StreamEventRow β) :=
  {row | row ∈ db.streamEvents ∧ row.appId = tail.appId ∧ row.streamKey = tail.address}

/-- The cursor the client takes from a frame. -/
def reach : FrickFrame → Int
  | .streamPage page => page.cursor
  | .delta delta => delta.cursor
  | _ => 0

/-- The frames the gateway makes for this stream. -/
inductive Genuine (db : StreamTables β) : FrickFrame → Prop where
  | page {page : StreamPagePayload} (hid : page.subscriptionId = tail.subscriptionId)
      (hships : ∀ packed ∈ page.events,
        ∃ row ∈ tailLog tail db, Ships tail.store.schema row packed) :
      Genuine db (.streamPage page)
  | delta {packed : PackedStreamEvent} {row : StreamEventRow β} (hrow : row ∈ tailLog tail db)
      (hships : Ships tail.store.schema row packed) :
      Genuine db (.delta ⟨[], [packed], row.sequence, none⟩)

/-- A cursor the log has reached: new events are numbered past it. -/
def Reached (start : Int) (db : StreamTables β) (cursor : Int) : Prop :=
  cursor ≤ start ∨ ∃ row ∈ db.streamEvents, row.streamKey = tail.address ∧ cursor ≤ row.sequence

/-- A subscription to this stream, sent with a cursor the client has not fallen behind. -/
structure Asks (cursor : Int) (payload : SubscribePayload) : Prop where
  subscriptionId : payload.subscriptionId = tail.subscriptionId
  name : payload.name = tail.stream
  key : payload.key = some tail.key
  cursor_le : payload.cursor.getD 0 ≤ cursor

/-- A committed event whose fan-out is outstanding. -/
def Outstanding (db : StreamTables β) (stored : StoredEvent) : Prop :=
  ∃ row ∈ db.streamEvents, row.tenantId = stored.tenantId ∧ row.appId = stored.appId ∧
    row.streamType = stored.event.stream ∧ row.streamId = stored.event.streamId ∧
    row.sequence = stored.event.sequence ∧
    ∃ packed, packStreamEvent tail.store.schema stored.event = .ok packed ∧
      Ships tail.store.schema row packed

def HoldsRow (client : FrickClient) (row : StreamEventRow β) : Prop :=
  client.Holds tail.subscriptionId row.sequence row.eventId

/-- A page may answer a subscription: it covers the log up to its own cursor. -/
def Answers (start : Int) (db : StreamTables β) (connection : TailConnection)
    (page : StreamPagePayload) : Prop :=
  Genuine tail db (.streamPage page) ∧ Reached tail start db page.cursor ∧
    Feed.Covers StreamEventRow.sequence (tailLog tail db)
      (fun row => Known connection row ∨ Carries (.streamPage page) row) start page.cursor

/-- What a connection's queue has to do with the log and the client. -/
structure Serves (start : Int) (db : StreamTables β) (client : FrickClient)
    (connection : TailConnection) : Prop where
  inbox : ∀ p ∈ connection.inbox, Asks tail (client.cursor tail.subscriptionId) p
  subscriptions : ∀ p ∈ connection.subscriptions, Asks tail (client.cursor tail.subscriptionId) p
  reading : ∀ p, connection.task = .reading p → p ∈ connection.subscriptions
  replying : ∀ page, connection.task = .replying page → Answers tail start db connection page
  received_le : connection.received ≤ connection.sent.length
  sent : ∀ f ∈ connection.sent, Genuine tail db f ∧ Reached tail start db (reach f)
  sound : Feed.Sound StreamEventRow.sequence Carries reach (tailLog tail db) (Known connection)
    start connection.sent
  held : ∀ f ∈ connection.sent.take connection.received, ∀ row ∈ tailLog tail db,
    Carries f row → HoldsRow tail client row

/-- The invariant of a run. -/
structure Tailing (start : Int) (w : TailWorld β) : Prop where
  deliverable : ∀ row ∈ w.db.streamEvents, Deliverable tail.store row
  eventIds : ∀ r ∈ w.db.streamEvents, ∀ s ∈ w.db.streamEvents,
    r.tenantId = s.tenantId → r.eventId = s.eventId → r = s
  schema : w.client.schema = tail.store.schema
  streams : ∀ id ∈ w.client.streamSignals, id = tail.subscriptionId
  objects : w.client.objectListSignals = []
  noGap : Feed.Covers StreamEventRow.sequence (tailLog tail w.db) (HoldsRow tail w.client) start
    (w.client.cursor tail.subscriptionId)
  reached : Reached tail start w.db (w.client.cursor tail.subscriptionId)
  outstanding : ∀ stored ∈ w.unpublished, Outstanding tail w.db stored
  serves : ∀ connection ∈ w.connection, Serves tail start w.db w.client connection

variable {tail}

lemma tailing_of_beforeConnecting (h : BeforeConnecting tail w) :
    Tailing tail (w.client.cursor tail.subscriptionId) w where
  deliverable := h.deliverable
  eventIds := h.eventIds
  schema := h.schema
  streams := h.streams
  objects := h.objects
  noGap := fun row _ hlt hle => absurd hlt (not_lt.mpr hle)
  reached := .inl le_rfl
  outstanding := by simp [h.unpublished]
  serves := by simp [h.disconnected]

lemma Tailing.no_gap (h : Tailing tail start w) : NoGap tail start w :=
  fun row hrow happ hkey => h.noGap row ⟨hrow, happ, hkey⟩

/-! ## The log grows -/

/-- What an append does to the tables: rows stay, and a new one is numbered past its stream. -/
structure Grows (db db' : StreamTables β) : Prop where
  keeps : ∀ row ∈ db.streamEvents, row ∈ db'.streamEvents
  above : ∀ row ∈ db'.streamEvents, row ∈ db.streamEvents ∨
    ∀ old ∈ db.streamEvents, old.streamKey = row.streamKey → old.sequence < row.sequence

section Grows

variable {db db' : StreamTables β}

variable {row : StreamEventRow β} {cursor : Int} {f : FrickFrame}

variable (h : Grows db db')
include h

lemma Grows.mem_tailLog (hrow : row ∈ tailLog tail db) : row ∈ tailLog tail db' :=
  ⟨h.keeps row hrow.1, hrow.2⟩

lemma Grows.past (hrow : row ∈ tailLog tail db') :
    row ∈ tailLog tail db ∨
      ∀ cursor, Reached tail start db cursor → start < row.sequence → cursor < row.sequence := by
  rcases h.above row hrow.1 with hold | habove
  · exact .inl ⟨hold, hrow.2⟩
  · refine .inr fun cursor hreached hstart => ?_
    rcases hreached with hle | ⟨old, hmem, hkey, hle⟩
    · omega
    · have hlt := habove old hmem (hkey.trans hrow.2.2.symm)
      omega

omit h in
lemma Reached.of_le {cursor' : Int} (h : Reached tail start db cursor) (hle : cursor' ≤ cursor) :
    Reached tail start db cursor' := by
  rcases h with hstart | ⟨row, hrow, hkey, hrow'⟩
  · exact .inl (hle.trans hstart)
  · exact .inr ⟨row, hrow, hkey, hle.trans hrow'⟩

lemma Grows.reached (hr : Reached tail start db cursor) : Reached tail start db' cursor :=
  hr.imp_right fun ⟨row, hrow, hkey, hle⟩ => ⟨row, h.keeps row hrow, hkey, hle⟩

lemma Grows.genuine (hf : Genuine tail db f) : Genuine tail db' f := by
  cases hf with
  | page hid hships =>
    refine .page hid fun packed hpacked => ?_
    obtain ⟨row, hrow, hrow'⟩ := hships packed hpacked
    exact ⟨row, h.mem_tailLog hrow, hrow'⟩
  | delta hrow hships => exact .delta (h.mem_tailLog hrow) hships

omit h in
lemma Genuine.ships (h : Genuine tail db f) {packed : PackedStreamEvent}
    (hpacked : packed ∈ frameEvents f) :
    ∃ row ∈ tailLog tail db, Ships tail.store.schema row packed := by
  cases h with
  | page _ hships => exact hships packed hpacked
  | @delta _ row hrow hships =>
    rw [frameEvents, mem_singleton] at hpacked
    exact ⟨row, hrow, hpacked ▸ hships⟩

lemma Grows.mem_of_carries (hf : Genuine tail db f) (hrow : row ∈ tailLog tail db')
    (hcarry : Carries f row) : row ∈ tailLog tail db := by
  rcases h.above row hrow.1 with hold | habove
  · exact ⟨hold, hrow.2⟩
  · obtain ⟨packed, hpacked, hseq, _⟩ := hcarry
    obtain ⟨old, hold, hships⟩ := hf.ships hpacked
    have hlt := habove old hold.1 (hold.2.2.trans hrow.2.2.symm)
    have heq := hships.sequence_eq
    omega

lemma Serves.grows {client : FrickClient} {connection : TailConnection}
    (hs : Serves tail start db client connection) : Serves tail start db' client connection where
  inbox := hs.inbox
  subscriptions := hs.subscriptions
  reading := hs.reading
  replying := by
    intro page htask
    obtain ⟨hgen, hreached, hcover⟩ := hs.replying page htask
    refine ⟨h.genuine hgen, h.reached hreached, hcover.extend fun row hrow => ?_⟩
    exact (h.past hrow).imp_right fun hpast => hpast _ hreached
  received_le := hs.received_le
  sent := fun f hf => ⟨h.genuine (hs.sent f hf).1, h.reached (hs.sent f hf).2⟩
  sound := hs.sound.extend fun row hrow =>
    (h.past hrow).imp_right fun hpast hstart f hf => hpast _ (hs.sent f hf).2 hstart
  held := by
    intro f hf row hrow hcarry
    have hgen := (hs.sent f (mem_of_mem_take hf)).1
    exact hs.held f hf row (h.mem_of_carries hgen hrow hcarry) hcarry

end Grows

/-! ## Appends -/

variable {args : AppendArgs} {db : StreamTables β} {out : AppendOutcome β}
  {row : StreamEventRow β}

section

variable (h : tail.store.Created db args row out)
include h

lemma grows_of_created (hroom : ∀ m ∈ db.maxSequence args.streamKey, m < i64Max) :
    Grows db out.db where
  keeps := fun r hr => h.mem_iff.mpr (.inl hr)
  above := by
    intro r hr
    rcases h.mem_iff.mp hr with hr | rfl
    · exact .inl hr
    · refine .inr fun old hold hkey => ?_
      have hlog : old.logged ∈ db.log := StreamTables.mem_log.mpr ⟨old, hold, rfl⟩
      have hkey' : old.streamKey = args.streamKey := hkey.trans (newRow_streamKey h.newRow_eq)
      exact h.lt_sequence (fun m hm => hroom m hm) hlog hkey'

lemma outstanding_of_created :
    Outstanding tail out.db (args.storedEvent (db.nextSequence args.streamKey)) := by
  have hrow := h.mem_iff.mpr (.inr rfl)
  obtain ⟨packed, column, hpack, _, heq⟩ := newRow_eq_ok h.newRow_eq
  refine ⟨row, hrow, ?_⟩
  rw [heq]
  exact ⟨rfl, rfl, rfl, rfl, rfl, packed, hpack,
    ships_of_pack tail.store.schemaValid hpack rfl rfl rfl rfl⟩

lemma eventIds_of_created
    (hids : ∀ r ∈ db.streamEvents, ∀ s ∈ db.streamEvents,
      r.tenantId = s.tenantId → r.eventId = s.eventId → r = s) :
    ∀ r ∈ out.db.streamEvents, ∀ s ∈ out.db.streamEvents,
      r.tenantId = s.tenantId → r.eventId = s.eventId → r = s := by
  obtain ⟨db', hins, _⟩ := h.inserted
  have hfresh := (StreamTables.insertStreamEvent_eq_ok hins).2.2.2
  intro r hr s hs hten heid
  rcases h.mem_iff.mp hr with hr | rfl
  · rcases h.mem_iff.mp hs with hs | rfl
    · exact hids r hr s hs hten heid
    · exact absurd ⟨hten, heid⟩ (hfresh r hr)
  · rcases h.mem_iff.mp hs with hs | rfl
    · exact absurd ⟨hten.symm, heid.symm⟩ (hfresh s hs)
    · rfl

end

lemma tailing_append (h : Tailing tail start w) (args : AppendArgs)
    (hroom : ∀ m ∈ w.db.maxSequence args.streamKey, m < i64Max) :
    Tailing tail start (tail.append w args) := by
  rcases tail.store.append_cases w.db w.cache args with ⟨row, hmade⟩ | ⟨hdb, hres⟩
  · have hgrows := grows_of_created hmade hroom
    refine ⟨?_, eventIds_of_created hmade h.eventIds, h.schema, h.streams, h.objects, ?_,
      hgrows.reached h.reached, ?_, fun c hc => (h.serves c hc).grows hgrows⟩
    · intro r hr
      rcases hmade.mem_iff.mp hr with hr | rfl
      · exact h.deliverable r hr
      · exact deliverable_newRow hmade.newRow_eq
    · exact h.noGap.extend fun r hr => (hgrows.past hr).imp_right fun hpast => hpast _ h.reached
    · simp only [Tail.append, hmade.result_eq]
      refine forall_mem_append.mpr ⟨fun stored hold => ?_,
        forall_mem_singleton.mpr (outstanding_of_created hmade)⟩
      obtain ⟨r, hr, hrest⟩ := h.outstanding stored hold
      exact ⟨r, hgrows.keeps r hr, hrest⟩
  · -- Nothing was created: the tables and the outstanding fan-outs are as they were.
    obtain ⟨cache, hsame⟩ : ∃ cache, tail.append w args = { w with cache } :=
      ⟨(tail.store.append w.db w.cache args).cache, by simp [Tail.append, hdb]⟩
    rw [hsame]
    exact { h with }

/-! ## Fan-outs -/

section Connection

variable {db : StreamTables β} {client : FrickClient} {connection : TailConnection} {f : FrickFrame}

lemma Serves.enqueue (h : Serves tail start db client connection) (hgen : Genuine tail db f)
    (hreached : Reached tail start db (reach f))
    (hcover : Feed.Covers StreamEventRow.sequence (tailLog tail db)
      (fun row => Known connection row ∨ ∃ g ∈ connection.sent ++ [f], Carries g row) start
      (reach f)) : Serves tail start db client (connection.enqueue f) where
  inbox := h.inbox
  subscriptions := h.subscriptions
  reading := h.reading
  replying := h.replying
  received_le := by
    have hle := h.received_le
    show connection.received ≤ (connection.sent ++ [f]).length
    simp only [length_append]
    omega
  sent := forall_mem_append.mpr ⟨h.sent, forall_mem_singleton.mpr ⟨hgen, hreached⟩⟩
  sound := h.sound.concat hcover
  held := by
    intro g hg
    have htake : (connection.sent ++ [f]).take connection.received =
        connection.sent.take connection.received := take_append_of_le_length h.received_le
    exact h.held g (htake ▸ hg)

variable {stored : StoredEvent} {row : StreamEventRow β} {payload : SubscribePayload}

lemma Outstanding.mem_tailLog (hs : Serves tail start db client connection)
    (hreach : Reaches tail stored connection) (hrow : row ∈ db.streamEvents)
    (hten : row.tenantId = stored.tenantId) (happ : row.appId = stored.appId)
    (hstream : row.streamType = stored.event.stream) (hid : row.streamId = stored.event.streamId) :
    row ∈ tailLog tail db := by
  obtain ⟨htail, happ', hsubscribes⟩ := hreach
  rw [TailConnection.subscribes, any_eq_true] at hsubscribes
  obtain ⟨sub, hsub, hmatch⟩ := hsubscribes
  simp only [Bool.and_eq_true, decide_eq_true_eq] at hmatch
  have hasks := hs.subscriptions sub hsub
  have hname : stored.event.stream = tail.stream := hmatch.1.2.symm.trans hasks.name
  have hkey : stored.event.streamId = tail.key := Option.some.inj (hmatch.2.symm.trans hasks.key)
  refine ⟨hrow, happ.trans happ', ?_⟩
  rw [StreamEventRow.streamKey, Tail.address, hten, htail, hstream, hname, hid, hkey]

lemma Serves.fanOut (hs : Serves tail start db client connection)
    (hout : Outstanding tail db stored) (hguard : Reaches tail stored connection →
      ∀ row ∈ db.streamEvents, row.appId = tail.appId → row.streamKey = tail.address →
        row.sequence < stored.event.sequence →
          Known connection row ∨ ∃ frame ∈ connection.sent, Carries frame row) :
    Serves tail start db client (tail.fanOut stored connection) := by
  unfold Tail.fanOut
  split_ifs with hif
  · have hreach : Reaches tail stored connection := by
      simpa [Reaches, and_assoc] using hif
    obtain ⟨row, hrow, hten, happ, hstream, hid, hseq, packed, hpack, hships⟩ := hout
    have hlog := Outstanding.mem_tailLog hs hreach hrow hten happ hstream hid
    have hframe : streamDelta tail.config stored.event =
        some (.delta ⟨[], [packed], row.sequence, none⟩) := by
      rw [streamDelta, tail.schema_eq, hpack, hseq]
    rw [hframe]
    refine hs.enqueue (.delta hlog hships) (.inr ⟨row, hrow, hlog.2.2, le_rfl⟩) ?_
    intro other hother hstart hle
    -- Below the event the guard answers; at its sequence stands the event itself.
    by_cases hlt : other.sequence < row.sequence
    · have hcov := hguard hreach other hother.1 hother.2.1 hother.2.2 (hseq ▸ hlt)
      exact hcov.imp_right fun ⟨g, hg, hcarry⟩ =>
        ⟨g, mem_append_left _ hg, hcarry⟩
    · have heq : other.sequence = row.sequence := le_antisymm hle (not_lt.mp hlt)
      have hsame : other = row := Table.eq_of_key_eq hother.1 hrow
        (Prod.ext (hother.2.2.trans hlog.2.2.symm) heq)
      refine .inr ⟨_, mem_append_right _ (mem_singleton_self _), packed, ?_, ?_⟩
      · exact mem_singleton_self packed
      · rw [hsame]
        exact ⟨hships.sequence_eq, hships.eventId_eq⟩
  · exact hs

/-! ## Subscribing and paging -/

lemma Known.register (h : Known connection row) : ∃ sub ∈ connection.subscriptions ++ [payload],
      row.sequence ≤ sub.cursor.getD 0 := by
  obtain ⟨sub, hsub, hle⟩ := h
  exact ⟨sub, mem_append_left _ hsub, hle⟩

variable (h : Serves tail start db client connection)
include h

lemma Serves.register : Serves tail start db client connection.register := by
  unfold TailConnection.register
  split
  next payload rest htask hinbox =>
    refine ⟨?_, ?_, ?_, ?_, h.received_le, h.sent, ?_, h.held⟩
    · intro p hp
      exact h.inbox p (by rw [hinbox]; exact mem_cons_of_mem payload hp)
    · have hnew := h.inbox payload (by simp [hinbox])
      exact forall_mem_append.mpr ⟨h.subscriptions, forall_mem_singleton.mpr hnew⟩
    · intro p hp
      obtain rfl := SubscribeTask.reading.inj hp
      exact mem_append_right _ (mem_singleton_self payload)
    · intro page hpage
      cases hpage
    · exact h.sound.imp_known fun row hknown => hknown.register
  · exact h

omit h

section

variable (hasks : Asks tail (client.cursor tail.subscriptionId) payload)
  (hmem : payload ∈ connection.subscriptions)
  (hreached : Reached tail start db (client.cursor tail.subscriptionId))
include hasks hmem hreached

lemma answers_readPage (hrows : ∀ row ∈ db.streamEvents, Deliverable tail.store row) :
    Answers tail start db connection
      (readStreamPage tail.store tail.config db tail.tenantId tail.appId tail.key payload) := by
  have haddr : (⟨tail.tenantId, payload.name, tail.key⟩ : StreamKey) = tail.address := by
    rw [hasks.name, Tail.address]
  have hpage := forall₂_streamPage tail.schema_eq hrows tail.tenantId tail.appId tail.key payload
  have hsel : ∀ row ∈ (selectAfter db tail.appId
      ⟨tail.tenantId, payload.name, tail.key⟩ (payload.cursor.getD 0)).take
        tail.config.maxStreamPageSize, row ∈ tailLog tail db := by
    intro row hrow
    obtain ⟨hdb, happ, hkey, _⟩ := mem_selectAfter.mp (mem_of_mem_take hrow)
    exact ⟨hdb, happ, hkey.trans haddr⟩
  refine ⟨.page hasks.subscriptionId ?_, ?_, ?_⟩
  · intro packed hpacked
    obtain ⟨row, hrow, hships⟩ := exists_left_of_forall₂ hpage hpacked
    exact ⟨row, hsel row hrow, hships⟩
  · rcases streamPage_cursor tail.tenantId tail.appId tail.key payload tail.schema_eq hrows with
      hcurs | ⟨row, hrow, hcurs⟩
    · rw [hcurs]
      exact hreached.of_le hasks.cursor_le
    · have hlog := hsel row hrow
      exact .inr ⟨row, hlog.1, hlog.2.2, hcurs.le⟩
  · intro row hrow hstart hle
    by_cases hafter : payload.cursor.getD 0 < row.sequence
    · exact .inr (streamPage_complete tail.tenantId tail.appId tail.key payload tail.schema_eq
        hrows hrow.1 hrow.2.1 (hrow.2.2.trans haddr.symm) hafter hle)
    · exact .inl ⟨payload, hmem, not_lt.mp hafter⟩

lemma answers_failedPage :
    Answers tail start db connection (streamPage tail.config payload []) := by
  have hcurs : (streamPage tail.config payload []).cursor = payload.cursor.getD 0 := by
    simp [streamPage]
  refine ⟨.page hasks.subscriptionId (by simp [streamPage]), ?_, ?_⟩
  · rw [hcurs]
    exact hreached.of_le hasks.cursor_le
  · intro row _ _ hle
    exact .inl ⟨payload, hmem, hcurs ▸ hle⟩

end

include h

lemma Serves.readPage (hrows : ∀ row ∈ db.streamEvents, Deliverable tail.store row)
    (hreached : Reached tail start db (client.cursor tail.subscriptionId)) (failed : Bool) :
    Serves tail start db client (tail.readPage db failed connection) := by
  unfold Tail.readPage
  split
  next payload htask =>
    have hmem := h.reading payload htask
    have hasks := h.subscriptions payload hmem
    refine ⟨h.inbox, h.subscriptions, nofun, ?_, h.received_le, h.sent, h.sound, h.held⟩
    intro page hpage
    have hkey : payload.key.getD "" = tail.key := by rw [hasks.key, Option.getD_some]
    obtain rfl := SubscribeTask.replying.inj hpage
    rw [hkey]
    cases failed with
    | true => exact answers_failedPage hasks hmem hreached
    | false => exact answers_readPage hasks hmem hreached hrows
  · exact h

lemma Serves.sendPage : Serves tail start db client connection.sendPage := by
  unfold TailConnection.sendPage
  split
  next page htask =>
    obtain ⟨hgen, hreached, hcover⟩ := h.replying page htask
    have hsent := h.enqueue (f := .streamPage page) hgen hreached <|
      hcover.imp fun row _ _ hrow => hrow.imp_right fun hcarry =>
        ⟨_, mem_append_right _ (mem_singleton_self _), hcarry⟩
    exact ⟨hsent.inbox, hsent.subscriptions, nofun, nofun, hsent.received_le, hsent.sent,
      hsent.sound, hsent.held⟩
  · exact h

end Connection

/-! ## The client -/

section Client

variable {db : StreamTables β} {client : FrickClient}

/-- An event the client unpacked from a genuine frame. -/
def Ours (tail : Tail β) (db : StreamTables β) (event : StreamEventInput) : Prop :=
  streamKey event.stream event.streamId = tail.subscriptionId ∧
    ∃ row ∈ tailLog tail db, event.sequence = row.sequence ∧ event.eventId = row.eventId

variable {row : StreamEventRow β}

lemma exists_ours {packed : PackedStreamEvent} (hrow : row ∈ tailLog tail db)
    (hships : Ships tail.store.schema row packed) :
    ∃ event, unpackStreamEvent tail.store.schema packed = .ok event ∧ Ours tail db event ∧
      event.sequence = packed.sequence ∧ event.eventId = packed.eventId := by
  obtain ⟨event, hunp, hstream, hid⟩ := hships.unpacks
  obtain ⟨_, hseq, heid⟩ := unpackStreamEvent_address hunp
  have hname : row.streamType = tail.stream := congrArg StreamKey.streamType hrow.2.2
  have hkey : row.streamId = tail.key := congrArg StreamKey.streamId hrow.2.2
  refine ⟨event, hunp, ⟨?_, row, hrow, ?_, ?_⟩, hseq, heid⟩
  · rw [hstream, hname, hid, hkey, Tail.subscriptionId]
  · rw [hseq, hships.sequence_eq]
  · rw [heid, hships.eventId_eq]

variable (heventIds : ∀ r ∈ db.streamEvents, ∀ s ∈ db.streamEvents,
    r.tenantId = s.tenantId → r.eventId = s.eventId → r = s)

include heventIds in
lemma HoldsRow.store {event : StreamEventInput} (hours : Ours tail db event)
    (hrow : row ∈ tailLog tail db) (h : HoldsRow tail client row) :
    HoldsRow tail (client.storeStreamEvent event) row := by
  refine Holds.storeStreamEvent h fun heid => ?_
  obtain ⟨_, other, hother, hseq, hid⟩ := hours
  have hten : other.tenantId = row.tenantId :=
    congrArg StreamKey.tenantId (hother.2.2.trans hrow.2.2.symm)
  have hsame := heventIds other hother.1 row hrow.1 hten (hid.symm.trans heid)
  rw [hseq, hsame]

include heventIds in
/-- **The loop of the page handler**: what was held stays, and every event of the page is held. -/
lemma holds_foldl_store {events : List StreamEventInput} (hours : ∀ e ∈ events, Ours tail db e)
    (hrow : row ∈ tailLog tail db)
    (h : HoldsRow tail client row ∨
      ∃ e ∈ events, e.sequence = row.sequence ∧ e.eventId = row.eventId) :
    HoldsRow tail (events.foldl storeStreamEvent client) row := by
  induction events generalizing client with
  | nil =>
    rcases h with h | ⟨e, he, _⟩
    · exact h
    · simp at he
  | cons event _ ih =>
    have hevent := hours event (by simp)
    refine ih (fun e he => hours e (by simp [he])) ?_
    rcases h with h | ⟨e, he, hseq, heid⟩
    · exact .inl (HoldsRow.store heventIds hevent hrow h)
    · rcases mem_cons.mp he with rfl | he
      · left
        have hself : (client.storeStreamEvent e).Holds _ _ _ := holds_storeStreamEvent e
        rwa [hevent.1, hseq, heid] at hself
      · exact .inr ⟨e, he, hseq, heid⟩

/-- What handling a frame does to the client. -/
structure Absorbs (tail : Tail β) (db : StreamTables β) (client client' : FrickClient)
    (f : FrickFrame) : Prop where
  schema_eq : client'.schema = client.schema
  streams_eq : client'.streamSignals = client.streamSignals
  objects_eq : client'.objectListSignals = client.objectListSignals
  cursor_eq : client'.cursor tail.subscriptionId = max (client.cursor tail.subscriptionId) (reach f)
  keeps : ∀ row ∈ tailLog tail db, HoldsRow tail client row → HoldsRow tail client' row
  takes : ∀ row ∈ tailLog tail db, Carries f row → HoldsRow tail client' row

lemma foldl_store_frame (client : FrickClient) (events : List StreamEventInput) :
    (events.foldl storeStreamEvent client).schema = client.schema ∧
      (events.foldl storeStreamEvent client).streamSignals = client.streamSignals ∧
      (events.foldl storeStreamEvent client).objectListSignals = client.objectListSignals ∧
      (events.foldl storeStreamEvent client).cursors = client.cursors := by
  induction events generalizing client with
  | nil => exact ⟨rfl, rfl, rfl, rfl⟩
  | cons event _ ih => exact ih (client.storeStreamEvent event)

include heventIds in
lemma receive_absorbs (hschema : client.schema = tail.store.schema) {f : FrickFrame}
    (hf : Genuine tail db f) : Absorbs tail db client (client.receive f) f := by
  cases hf with
  | @page page hid hships =>
    have hours : ∀ packed ∈ page.events, ∃ event,
        unpackStreamEvent client.schema packed = .ok event ∧ Ours tail db event ∧
          event.sequence = packed.sequence ∧ event.eventId = packed.eventId := by
      intro packed hpacked
      obtain ⟨row, hrow, hrow'⟩ := hships packed hpacked
      rw [hschema]
      exact exists_ours hrow hrow'
    obtain ⟨events, hevs, hunpacked⟩ := exists_mapM_forall₂ hours
    have hall : ∀ e ∈ events, Ours tail db e := by
      intro e he
      obtain ⟨_, _, hour, _⟩ := exists_left_of_forall₂ hunpacked he
      exact hour
    rw [receive_streamPage hevs, hid]
    obtain ⟨hsch, hstr, hobj, hcur⟩ := foldl_store_frame client events
    refine ⟨hsch, hstr, hobj, ?_, ?_, ?_⟩
    · rw [cursor_saveCursor_self, cursor, hcur]
      rfl
    · intro row hrow h
      exact holds_foldl_store heventIds hall hrow (.inl h)
    · rintro row hrow ⟨packed, hpacked, hseq, heid⟩
      obtain ⟨e, he, _, heseq, heeid⟩ := exists_right_of_forall₂ hunpacked hpacked
      exact holds_foldl_store heventIds hall hrow
        (.inr ⟨e, he, heseq.trans hseq, heeid.trans heid⟩)
  | @delta _ row hrow hships =>
    obtain ⟨event, hunp, hour, hseq, heid⟩ := exists_ours hrow hships
    rw [← hschema] at hunp
    rw [receive_delta_event hunp, hour.1]
    have hevent : event.sequence = row.sequence := hseq.trans hships.sequence_eq
    refine ⟨rfl, rfl, rfl, ?_, ?_, ?_⟩
    · rw [cursor_saveCursor_self, hevent, max_self]
      rfl
    · intro other hother h
      exact HoldsRow.store heventIds hour hother h
    · rintro other hother ⟨p, hp, hpseq, hpeid⟩
      rw [frameEvents, mem_singleton] at hp
      have hself : (client.storeStreamEvent event).Holds _ _ _ := holds_storeStreamEvent event
      rwa [hour.1, hseq, heid, ← hp, hpseq, hpeid] at hself

lemma Serves.client_le {connection : TailConnection} {client' : FrickClient}
    (h : Serves tail start db client connection)
    (hcurs : client.cursor tail.subscriptionId ≤ client'.cursor tail.subscriptionId)
    (hkeeps : ∀ row ∈ tailLog tail db, HoldsRow tail client row → HoldsRow tail client' row) :
    Serves tail start db client' connection where
  inbox := fun p hp => { h.inbox p hp with cursor_le := (h.inbox p hp).cursor_le.trans hcurs }
  subscriptions := fun p hp =>
    { h.subscriptions p hp with cursor_le := (h.subscriptions p hp).cursor_le.trans hcurs }
  reading := h.reading
  replying := h.replying
  received_le := h.received_le
  sent := h.sent
  sound := h.sound
  held := fun f hf row hrow hcarry => hkeeps row hrow (h.held f hf row hrow hcarry)

end Client

section

variable (h : Tailing tail start w)
include h

lemma tailing_receive {connection : TailConnection} (hconnection : connection ∈ w.connection) :
    Tailing tail start (w.receive connection) := by
  unfold TailWorld.receive
  split
  · exact h
  next frame hframe =>
    have hs := h.serves connection hconnection
    obtain ⟨hlt, hget⟩ := List.getElem?_eq_some_iff.mp hframe
    have hgen := hs.sent frame (hget ▸ getElem_mem hlt)
    have ha := receive_absorbs h.eventIds h.schema hgen.1
    have hsplit : connection.sent = connection.sent.take connection.received ++
        frame :: connection.sent.drop (connection.received + 1) := by
      rw [← hget, getElem_cons_drop, take_append_drop]
    -- What the subscription's cursor made known is held, since the client is at least there.
    have hknown : ∀ row ∈ tailLog tail w.db, start < row.sequence → Known connection row →
        HoldsRow tail w.client row := by
      rintro row hrow hstart ⟨sub, hsub, hle⟩
      exact h.noGap row hrow hstart (hle.trans (hs.subscriptions sub hsub).cursor_le)
    have hnoGap := Feed.Sound.receive (hsplit ▸ hs.sound) h.noGap hknown hs.held ha.keeps ha.takes
    have hle : w.client.cursor tail.subscriptionId ≤
        (w.client.receive frame).cursor tail.subscriptionId := by
      rw [ha.cursor_eq]
      exact le_max_left _ _
    refine ⟨h.deliverable, h.eventIds, ha.schema_eq.trans h.schema, ?_, ?_, ?_, ?_,
      h.outstanding, ?_⟩
    · rw [ha.streams_eq]
      exact h.streams
    · exact ha.objects_eq.trans h.objects
    · rwa [ha.cursor_eq]
    · rw [ha.cursor_eq]
      rcases max_choice (w.client.cursor tail.subscriptionId) (reach frame) with hmax | hmax
      · rw [hmax]
        exact h.reached
      · rw [hmax]
        exact hgen.2
    · intro conn hconn
      obtain rfl := Option.some.inj hconn
      have hserve := hs.client_le hle ha.keeps
      refine ⟨hserve.inbox, hserve.subscriptions, hserve.reading, hserve.replying, hlt,
        hserve.sent, hserve.sound, ?_⟩
      intro f hf row hrow hcarry
      rw [take_add_one, hframe] at hf
      rcases mem_append.mp hf with hf | hf
      · exact hserve.held f hf row hrow hcarry
      · have heq : f = frame := by simpa using hf
        exact ha.takes row hrow (heq ▸ hcarry)

/-! ## Every step and every run -/

omit h in
lemma asks_subscribePayload (client : FrickClient) :
    Asks tail (client.cursor tail.subscriptionId)
      (client.subscribePayload .stream tail.stream tail.key) := by
  refine ⟨?_, rfl, ?_, ?_⟩
  · simp [subscribePayload, tail.keyed, Tail.subscriptionId]
  · simp [subscribePayload, tail.keyed]
  · simp [subscribePayload, tail.keyed, Tail.subscriptionId]

lemma asks_resubscribe {p : SubscribePayload} (hp : p ∈ w.client.resubscribe) :
    Asks tail (w.client.cursor tail.subscriptionId) p := by
  rw [resubscribe, h.objects, map_nil, nil_append, mem_map] at hp
  obtain ⟨id, hid, rfl⟩ := hp
  rw [h.streams id hid, Tail.subscriptionId, splitSubscriptionKey_streamKey tail.plainName]
  exact asks_subscribePayload w.client

lemma tailing_stream : Tailing tail start (tail.step w .stream) := by
  have hcall : ∀ p ∈ (w.client.stream tail.stream tail.key).2,
      Asks tail (w.client.cursor tail.subscriptionId) p := by
    intro p hp
    rw [stream] at hp
    split_ifs at hp with hsig hconnected
    · simp at hp
    · rw [mem_singleton.mp hp]
      exact asks_subscribePayload w.client
    · simp at hp
  have hclient : ∃ signals, (w.client.stream tail.stream tail.key).1 =
      { w.client with streamSignals := signals } ∧ ∀ id ∈ signals, id = tail.subscriptionId := by
    by_cases hsig : streamKey tail.stream tail.key ∈ w.client.streamSignals
    · rw [stream, if_pos hsig]
      exact ⟨_, rfl, h.streams⟩
    · rw [stream, if_neg hsig]
      exact ⟨_, rfl, forall_mem_append.mpr ⟨h.streams, forall_mem_singleton.mpr rfl⟩⟩
  obtain ⟨signals, heq, hsigs⟩ := hclient
  simp only [Tail.step, heq]
  refine ⟨h.deliverable, h.eventIds, h.schema, hsigs, h.objects, h.noGap, h.reached,
    h.outstanding, ?_⟩
  intro connection hconn
  obtain ⟨old, hold, rfl⟩ := Option.mem_map.mp hconn
  have hs := h.serves old hold
  exact ⟨forall_mem_append.mpr ⟨hs.inbox, hcall⟩, hs.subscriptions, hs.reading, hs.replying,
    hs.received_le, hs.sent, hs.sound, hs.held⟩

lemma Tailing.map_connection {g : TailConnection → TailConnection}
    (hg : ∀ c ∈ w.connection, Serves tail start w.db w.client (g c)) :
    Tailing tail start { w with connection := w.connection.map g } :=
  { h with
    serves := by
      intro connection hconn
      obtain ⟨old, hold, rfl⟩ := Option.mem_map.mp hconn
      exact hg old hold }

/-- **Every step** that meets the condition keeps the invariant. -/
lemma tailing_step (label : TailLabel) (hguard : InOrder tail w label) :
    Tailing tail start (tail.step w label) := by
  cases label with
  | append args => exact tailing_append h args hguard
  | publish =>
    rw [Tail.step]
    split
    · exact h
    next stored hstored =>
      have hout := h.outstanding stored (mem_of_getElem? hstored)
      have hfan := h.map_connection fun c hc =>
        (h.serves c hc).fanOut hout (hguard stored hstored c hc)
      exact { hfan with
        outstanding := fun s hs => h.outstanding s (mem_of_mem_eraseIdx hs) }
  | stream => exact tailing_stream h
  | openSocket =>
    rw [Tail.step]
    split
    · exact h
    · refine { h with serves := ?_ }
      intro connection hconn
      obtain rfl := Option.some.inj hconn
      exact ⟨fun p hp => asks_resubscribe h hp, by simp, nofun, nofun, le_rfl, by simp,
        Feed.Sound.nil, by simp⟩
  | closeSocket => exact { h with serves := by simp [Tail.step] }
  | register => exact h.map_connection fun c hc => (h.serves c hc).register
  | readPage failed =>
    exact h.map_connection fun c hc => (h.serves c hc).readPage h.deliverable h.reached failed
  | sendPage => exact h.map_connection fun c hc => (h.serves c hc).sendPage
  | receive =>
    rw [Tail.step]
    split
    · exact h
    next connection hconn => exact tailing_receive h hconn

end

def testTail : Tail PackedStreamEvent where
  store := testStore
  config := { GatewayConfig.ofSchema productTestSchema with maxStreamPageSize := 2 }
  schema_eq := rfl
  tenantId := "_default"
  appId := "_default"
  stream := "MessageStream"
  key := "conv-1"
  keyed := by decide
  plainName := by decide

def testTailStart : TailWorld PackedStreamEvent :=
  ⟨.empty, none, [], none, { schema := productTestSchema }⟩

lemma testTailStart_beforeConnecting : BeforeConnecting testTail testTailStart :=
  ⟨by simp [testTailStart, StreamTables.empty], by simp [testTailStart, StreamTables.empty], rfl,
    rfl, rfl, by simp [testTailStart], rfl⟩

end Frick.Properties
