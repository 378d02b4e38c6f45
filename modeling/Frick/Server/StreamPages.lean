import Frick.Server.Gateway
import Frick.Store.StreamSpec

/-!
# Paging a stream

The stream branch of `handle_subscribe`: read one event more than a page holds, pack what fits, and
name the last packed sequence as the cursor.
-/

namespace Frick.Server

open Framework Protocol Store StreamStore List

variable {β : Type}

/-- The page for a subscription: a read that fails counts as no events. -/
def readStreamPage (store : StreamStore β) (config : GatewayConfig) (db : StreamTables β)
    (tenantId appId key : String) (payload : SubscribePayload) : StreamPagePayload :=
  let events := store.read db ⟨tenantId, payload.name, key⟩ (payload.cursor.getD 0)
    (some (config.maxStreamPageSize + 1)) appId
  GatewayHub.streamPage config payload ((events.toOption.getD []).map StoredEvent.event)

/-- A row that reads as an event at its own address, which packs. -/
def Deliverable (store : StreamStore β) (row : StreamEventRow β) : Prop :=
  ∃ event packed, (∀ appId, store.unpackRow row row.tenantId appId =
      .ok ⟨event, row.tenantId, appId⟩) ∧
    packStreamEvent store.schema event = .ok packed ∧
    event.stream = row.streamType ∧ event.streamId = row.streamId ∧
    event.sequence = row.sequence ∧ event.eventId = row.eventId

variable {row : StreamEventRow β} {store : StreamStore β}

lemma deliverable_newRow {args : AppendArgs} {seq : Int}
    (h : store.newRow args seq = .ok row) : Deliverable store row := by
  obtain ⟨packed, column, hpack, hcol, rfl⟩ := newRow_eq_ok h
  obtain ⟨event, hunp, hstream, hid, hseq, heid, again, hagain⟩ :=
    exists_unpackStreamEvent store.schemaValid hpack
  refine ⟨event, again, fun appId => ?_, hagain, hstream, hid, hseq, heid⟩
  rw [unpackRow, PackedColumn.decodeColumn_of_encodeColumn hcol, ok_bind, hunp]
  rfl

/-- A tuple of a page stands for a row of the log, and a client of the same schema reads it so. -/
structure Ships (schema : FrickSchema) (row : StreamEventRow β) (packed : PackedStreamEvent) :
    Prop where
  sequence_eq : packed.sequence = row.sequence
  eventId_eq : packed.eventId = row.eventId
  unpacks : ∃ event, unpackStreamEvent schema packed = .ok event ∧
    event.stream = row.streamType ∧ event.streamId = row.streamId

lemma ships_of_pack {schema : FrickSchema} (hdist : schema.DistinctIds)
    {event : StreamEventInput} {packed : PackedStreamEvent}
    (hpack : packStreamEvent schema event = .ok packed) (hstream : event.stream = row.streamType)
    (hid : event.streamId = row.streamId) (hseq : event.sequence = row.sequence)
    (heid : event.eventId = row.eventId) : Ships schema row packed := by
  obtain ⟨out, hunp, hostream, hoid, hoseq, hoeid, _⟩ := exists_unpackStreamEvent hdist hpack
  have haddr := unpackStreamEvent_address hunp
  exact ⟨by rw [← haddr.2.1, hoseq, hseq], by rw [← haddr.2.2, hoeid, heid],
    out, hunp, hostream.trans hstream, hoid.trans hid⟩

lemma forall₂_streamPage {config : GatewayConfig} (hschema : config.schema = store.schema)
    {db : StreamTables β} (hrows : ∀ row ∈ db.streamEvents, Deliverable store row)
    (tenantId appId key : String) (payload : SubscribePayload) :
    List.Forall₂ (Ships store.schema)
      ((selectAfter db appId ⟨tenantId, payload.name, key⟩
        (payload.cursor.getD 0)).take config.maxStreamPageSize)
      (readStreamPage store config db tenantId appId key payload).events := by
  set rows := selectAfter db appId ⟨tenantId, payload.name, key⟩
    (payload.cursor.getD 0) with hrowsdef
  -- Every row reads, so the read succeeds.
  have hreads : ∀ row ∈ rows, ∃ stored, store.unpackRow row tenantId appId = .ok stored ∧
      ∃ packed, packStreamEvent store.schema stored.event = .ok packed ∧
        Ships store.schema row packed := by
    intro row hrow
    obtain ⟨hdb, _, hkey, _⟩ := mem_selectAfter.mp hrow
    obtain ⟨event, packed, hunp, hpack, hstream, hid, hseq, heid⟩ := hrows row hdb
    have hten : row.tenantId = tenantId := congrArg StreamKey.tenantId hkey
    exact ⟨_, hten ▸ hunp appId, packed, hpack,
      ships_of_pack store.schemaValid hpack hstream hid hseq heid⟩
  set limit := config.maxStreamPageSize with hlimit
  obtain ⟨stored, hstored, hall⟩ := exists_mapM_forall₂ fun row hrow =>
    hreads row (mem_of_mem_take (i := limit + 1) hrow)
  have hread : store.read db ⟨tenantId, payload.name, key⟩ (payload.cursor.getD 0)
      (some (limit + 1)) appId = .ok stored := by
    have hmax : (max ((limit : Int) + 1) 1).toNat = limit + 1 := by omega
    rw [StreamStore.read]
    simp only [hmax]
    exact hstored
  have hpage : (readStreamPage store config db tenantId appId key payload).events =
      (stored.take limit).filterMap fun s => (packStreamEvent store.schema s.event).toOption := by
    rw [readStreamPage, hread, GatewayHub.streamPage, hschema]
    simp only [← map_take, filterMap_map]
    rfl
  have htake : rows.take limit = (rows.take (limit + 1)).take limit := by
    rw [take_take, Nat.min_eq_left (Nat.le_succ limit)]
  rw [hpage, htake]
  rw [← filterMap_some (l := (rows.take (limit + 1)).take limit)]
  refine rel_filterMap ?_ (forall₂_take limit hall)
  rintro row s ⟨packed, hpack, hships⟩
  show Option.Rel _ _ (packStreamEvent store.schema s.event).toOption
  rw [hpack]
  exact .some hships

/-! ## A page leaves nothing out below its cursor -/

lemma mem_take_of_sequence_le {rows : List (StreamEventRow β)} {n : Nat} {last : StreamEventRow β}
    (hsort : rows.Pairwise fun a b => a.sequence ≤ b.sequence) (hlast : last ∈ rows.take n)
    (hrow : row ∈ rows) (hle : row.sequence ≤ last.sequence)
    (hinj : row.sequence = last.sequence → row = last) : row ∈ rows.take n := by
  rw [← take_append_drop n rows] at hrow hsort
  rcases mem_append.mp hrow with htake | hdrop
  · exact htake
  · have hge := (pairwise_append.mp hsort).2.2 last hlast row hdrop
    rwa [hinj (le_antisymm hle hge)]

lemma pairwise_selectAfter (db : StreamTables β) (appId : String) (key : StreamKey) (after : Int) :
    (selectAfter db appId key after).Pairwise fun a b => a.sequence ≤ b.sequence := by
  exact pairwise_insertionSort _ _

section Page

variable {store : StreamStore β} {config : GatewayConfig} {db : StreamTables β}
  (tenantId appId key : String) (payload : SubscribePayload)

variable (hschema : config.schema = store.schema)
  (hrows : ∀ row ∈ db.streamEvents, Deliverable store row)
include hschema hrows

lemma streamPage_cursor :
    (readStreamPage store config db tenantId appId key payload).cursor = payload.cursor.getD 0 ∨
      ∃ row ∈ (selectAfter db appId ⟨tenantId, payload.name, key⟩
          (payload.cursor.getD 0)).take config.maxStreamPageSize,
        (readStreamPage store config db tenantId appId key payload).cursor = row.sequence := by
  have hpage := forall₂_streamPage hschema hrows tenantId appId key payload
  have hcurs : (readStreamPage store config db tenantId appId key payload).cursor =
      ((readStreamPage store config db tenantId appId key payload).events.getLast?.map
        PackedStreamEvent.sequence).getD (payload.cursor.getD 0) := rfl
  rw [hcurs]
  generalize (readStreamPage store config db tenantId appId key payload).events = events at hpage
  cases hlast : events.getLast? with
  | none => exact .inl rfl
  | some =>
    obtain ⟨row, hrow, hships⟩ := exists_left_of_forall₂ hpage (mem_of_getLast? hlast)
    exact .inr ⟨row, hrow, hships.sequence_eq⟩

/-- **No gap in a page.** Every event of the stream between the cursor it was asked for and the
cursor it names is in it. -/
lemma streamPage_complete {row : StreamEventRow β} (hrow : row ∈ db.streamEvents)
    (happ : row.appId = appId) (hkey : row.streamKey = ⟨tenantId, payload.name, key⟩)
    (hafter : payload.cursor.getD 0 < row.sequence)
    (hle : row.sequence ≤ (readStreamPage store config db tenantId appId key payload).cursor) :
    ∃ packed ∈ (readStreamPage store config db tenantId appId key payload).events,
      packed.sequence = row.sequence ∧ packed.eventId = row.eventId := by
  have hpage := forall₂_streamPage hschema hrows tenantId appId key payload
  have hsel := mem_selectAfter.mpr ⟨hrow, happ, hkey, hafter⟩
  rcases streamPage_cursor tenantId appId key payload hschema hrows with
    hcurs | ⟨last, hlast, hcurs⟩
  · omega
  have hlast' := mem_selectAfter.mp (mem_of_mem_take hlast)
  have htake : row ∈ _ := mem_take_of_sequence_le (pairwise_selectAfter db appId _ _) hlast
    hsel (hcurs ▸ hle) fun hseq =>
      Table.eq_of_key_eq hrow hlast'.1 (Prod.ext (hkey.trans hlast'.2.2.1.symm) hseq)
  obtain ⟨packed, hpacked, hships⟩ := exists_right_of_forall₂ hpage htake
  exact ⟨packed, hpacked, hships.sequence_eq, hships.eventId_eq⟩

end Page

end Frick.Server
