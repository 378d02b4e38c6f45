import Frick.Client.Subscriptions
import Frick.Properties.HubTasks

/-!
# Subscriptions that are live

A client says what it is subscribed to when its socket opens, one `Subscribe` after the other. The
gateway keeps one entry for each subscription id, and the client makes the id of the name and the
key alone: subscriptions of two kinds can have one id, and of these the last one is left. A name
with a `:` in it is taken apart at the wrong place, and an empty key is no key.
-/

namespace Frick.Properties

open Client Protocol Server ClientSubscription ClientRuntime List

/-! ## The gateway -/

def entryOf (payload : SubscribePayload) : SubKey :=
  ⟨payload.subscriptionId, payload.kind, payload.name, payload.key⟩

/-- The hub once it has accepted the `Subscribe` frames of a connection: of all that
`handle_subscribe` does for one that it does not refuse, `add_subscription` is what changes the
subscriptions. -/
def acceptAll (hub : GatewayHub) (id : Nat) (payloads : List SubscribePayload) : GatewayHub :=
  payloads.foldl (fun hub payload => hub.addSubscription id (entryOf payload)) hub

def subscriptionsOf (hub : GatewayHub) (id : Nat) : List SubKey :=
  ((hub.connections.find? id).map Connection.subscriptions).getD []

def registerEntry (entries : List SubKey) (payload : SubscribePayload) : List SubKey :=
  (entries.filter fun existing => existing.subscriptionId ≠ payload.subscriptionId) ++
    [entryOf payload]

lemma subscriptionsOf_acceptAll {hub : GatewayHub} {id : Nat} {c : Connection}
    (h : hub.connections.find? id = some c) (payloads : List SubscribePayload) :
    subscriptionsOf (acceptAll hub id payloads) id =
      payloads.foldl registerEntry c.subscriptions := by
  induction payloads generalizing hub c with
  | nil => rw [acceptAll, foldl_nil, subscriptionsOf, h]; rfl
  | cons _ _ ih => exact ih (find?_modify_self h)

/-! ## Entries -/

variable {entries : List SubKey} {payloads : List SubscribePayload}

lemma mem_foldl_registerEntry {ent : SubKey} (h : ent ∈ payloads.foldl registerEntry entries) :
    ent ∈ entries ∨ ∃ pay ∈ payloads, entryOf pay = ent := by
  induction payloads generalizing entries with
  | nil => exact .inl h
  | cons pay _ ih =>
    rcases ih h with hmem | ⟨other, hoth, rfl⟩
    · rcases mem_append.mp hmem with hkept | hnew
      · exact .inl (mem_of_mem_filter hkept)
      · exact .inr ⟨pay, by simp, (mem_singleton.mp hnew).symm⟩
    · exact .inr ⟨other, by simp [hoth], rfl⟩

lemma nodup_foldl_registerEntry (payloads : List SubscribePayload)
    (h : (entries.map SubKey.subscriptionId).Nodup) :
    ((payloads.foldl registerEntry entries).map SubKey.subscriptionId).Nodup := by
  induction payloads generalizing entries with
  | nil => exact h
  | cons _ _ ih =>
    refine ih ?_
    rw [registerEntry, map_append, map_singleton, ← concat_eq_append]
    refine (h.sublist (filter_sublist.map _)).concat fun hmem => ?_
    obtain ⟨ent, hent, hid⟩ := mem_map.mp hmem
    exact of_decide_eq_true (mem_filter.mp hent).2 hid

lemma foldl_registerEntry_of_nodup (h : (entries.map SubKey.subscriptionId ++
      payloads.map SubscribePayload.subscriptionId).Nodup) :
    payloads.foldl registerEntry entries = entries ++ payloads.map entryOf := by
  induction payloads generalizing entries with
  | nil => simp
  | cons pay _ ih =>
    have hkept : registerEntry entries pay = entries ++ [entryOf pay] := by
      rw [registerEntry, filter_eq_self.mpr]
      intro ent hent
      refine decide_eq_true fun hid => ?_
      exact (nodup_append.mp h).2.2 _ (mem_map_of_mem hent) _ (by simp) hid
    rw [foldl_cons, hkept, ih, append_assoc]
    · rfl
    · rwa [map_append, append_assoc]

/-! ## The client -/

def IsFor (s : ClientSubscription) (entry : SubKey) : Prop :=
  entry.kind = s.kind ∧ entry.name = s.name ∧ entry.key = s.key

instance (s : ClientSubscription) (ent : SubKey) : Decidable (IsFor s ent) :=
  inferInstanceAs (Decidable (_ ∧ _ ∧ _))

/-- Names of the kinds with a key have no `:` and keys are not empty, and no two subscriptions, of
whatever kinds, have one id. -/
structure IdsApart (subs : List ClientSubscription) : Prop where
  plain : ∀ s ∈ subs, ∀ key ∈ s.key, ':' ∉ s.name.toList ∧ key ≠ ""
  apart : ∀ s ∈ subs, ∀ t ∈ subs, s.signalId = t.signalId → s = t

section Client

variable (stores : FrickClient) {s : ClientSubscription}

lemma subscriptionId_payload (h : ∀ key ∈ s.key, key ≠ "") :
    (s.payload stores).subscriptionId = s.signalId := by
  cases s with
  | objects | projection => rfl
  | stream name key | presence name key | signalChannel name key => exact if_neg (h key rfl)

lemma key_payload (h : ∀ key ∈ s.key, key ≠ "") : (s.payload stores).key = s.key := by
  cases s with
  | objects | projection => rfl
  | stream name key | presence name key | signalChannel name key => exact if_neg (h key rfl)

lemma isFor_entryOf_iff {t : ClientSubscription} (h : ∀ key ∈ s.key, key ≠ "") :
    IsFor t (entryOf (s.payload stores)) ↔ s = t := by
  constructor
  · rintro ⟨hkind, hname, hkey⟩
    exact ext_parts hkind hname ((key_payload stores h).symm.trans hkey)
  · rintro rfl
    exact ⟨rfl, rfl, key_payload stores h⟩

lemma key_of_isFor {t : ClientSubscription} (h : IsFor t (entryOf (s.payload stores))) :
    s.key = t.key ∧ ∀ key ∈ t.key, key ≠ "" := by
  obtain ⟨hkind, -, hkey⟩ := h
  have hsome : s.key.isSome = t.key.isSome := isSome_key_of_kind hkind
  have hsent : (if s.key.getD "" = "" then none else some (s.key.getD "")) = t.key := hkey
  cases hs : s.key with
  | none =>
    rw [hs] at hsent
    rw [← hsent]
    exact ⟨rfl, nofun⟩
  | some =>
    rw [hs] at hsent
    split_ifs at hsent with hempty
    · rw [hs, ← hsent] at hsome
      cases hsome
    · rw [← hsent]
      refine ⟨rfl, fun key' hkey' => ?_⟩
      rwa [← Option.some.inj hkey']

end Client

section Runs

variable {client : ClientRuntime} {subs : List ClientSubscription}

/-- The entries that a client gets for what it sends on connect. -/
def entriesFor (client : ClientRuntime) : List SubKey :=
  (client.announced.map (payload client.stores)).foldl registerEntry []

variable (hfresh : ∀ kind, client.signalIds kind = [])

include hfresh

variable {s : ClientSubscription}

lemma plain_of_isFor {ent : SubKey} (hent : ent ∈ entriesFor (client.openAll subs))
    (h : IsFor s ent) :
    (∀ key ∈ s.key, ':' ∉ s.name.toList ∧ key ≠ "") ∧ ent.subscriptionId = s.signalId := by
  obtain ⟨pay, hpay, rfl⟩ := (mem_foldl_registerEntry hent).resolve_left not_mem_nil
  obtain ⟨sent, hsent, rfl⟩ := mem_map.mp hpay
  obtain ⟨t, -, ht⟩ := (mem_announced_openAll hfresh).mp hsent
  obtain ⟨hkey, hne⟩ := key_of_isFor _ h
  obtain rfl : sent = s := ext_parts h.1 h.2.1 hkey
  refine ⟨fun key hmem => ⟨?_, hne key hmem⟩,
    subscriptionId_payload (client.openAll subs).stores hne⟩
  have hkind : t.kind = sent.kind := by rw [← ht, kind_ofSignal]
  have hsome : t.key.isSome := by
    rw [isSome_key_of_kind hkind, Option.mem_def.mp hmem]
    rfl
  rw [← ht]
  exact notMem_name_ofSignal hsome

lemma idsApart_of_live (h : ∀ s ∈ subs, ∃ ent ∈ entriesFor (client.openAll subs), IsFor s ent) :
    IdsApart subs where
  plain s hs := by
    obtain ⟨ent, hent, hfor⟩ := h s hs
    exact (plain_of_isFor hfresh hent hfor).1
  apart s hs t ht heq := by
    obtain ⟨ent, hent, hfor⟩ := h s hs
    obtain ⟨entry', hentry', hfor'⟩ := h t ht
    have hid : ent.subscriptionId = entry'.subscriptionId := by
      rw [(plain_of_isFor hfresh hent hfor).2, (plain_of_isFor hfresh hentry' hfor').2, heq]
    have hnodup : ((entriesFor (client.openAll subs)).map SubKey.subscriptionId).Nodup :=
      nodup_foldl_registerEntry _ (by simp)
    obtain rfl : ent = entry' := inj_on_of_nodup_map hnodup hent hentry' hid
    exact ext_parts (hfor.1.symm.trans hfor'.1) (hfor.2.1.symm.trans hfor'.2.1)
      (hfor.2.2.symm.trans hfor'.2.2)

lemma mem_announced_of_idsApart (h : IdsApart subs) :
    s ∈ (client.openAll subs).announced ↔ s ∈ subs := by
  have hback (t : ClientSubscription) (ht : t ∈ subs) : ofSignal t.kind t.signalId = t := by
    refine ofSignal_signalId fun hsome => ?_
    obtain ⟨key, hkey⟩ := Option.isSome_iff_exists.mp hsome
    exact (h.plain t ht key hkey).1
  rw [mem_announced_openAll hfresh]
  constructor
  · rintro ⟨t, ht, rfl⟩
    rwa [hback t ht]
  · exact fun hs => ⟨s, hs, hback s hs⟩

/-- Nothing that a client announces takes the place of anything else. -/
lemma entriesFor_of_idsApart (h : IdsApart subs) :
    entriesFor (client.openAll subs) =
      (client.openAll subs).announced.map fun s =>
        entryOf (s.payload (client.openAll subs).stores) := by
  rw [entriesFor, foldl_registerEntry_of_nodup, map_map]
  · rfl
  rw [map_nil, map_map]
  refine (nodup_announced_openAll hfresh).map_on fun s hs t ht heq => ?_
  rw [mem_announced_of_idsApart hfresh h] at hs ht
  rw [Function.comp, Function.comp,
    subscriptionId_payload _ fun key hkey => (h.plain s hs key hkey).2,
    subscriptionId_payload _ fun key hkey => (h.plain t ht key hkey).2] at heq
  exact h.apart s hs t ht heq

lemma countP_entriesFor (h : IdsApart subs) (hs : s ∈ subs) :
    (entriesFor (client.openAll subs)).countP (IsFor s ·) = 1 := by
  rw [entriesFor_of_idsApart hfresh h, countP_map]
  calc (client.openAll subs).announced.countP
        ((IsFor s ·) ∘ fun t => entryOf (t.payload (client.openAll subs).stores))
      = (client.openAll subs).announced.countP (· == s) := by
        refine countP_congr fun t ht => ?_
        rw [mem_announced_of_idsApart hfresh h] at ht
        simp only [Function.comp, decide_eq_true_eq, beq_iff_eq]
        exact isFor_entryOf_iff _ fun key hkey => (h.plain t ht key hkey).2
    _ = 1 := count_eq_one_of_mem (nodup_announced_openAll hfresh)
        ((mem_announced_of_idsApart hfresh h).mpr hs)

end Runs

/-- Subscriptions opened on a client, and a gateway that has accepted what the client sends on
connect: each subscription has one entry exactly when names, keys and ids are clear. -/
theorem subscriptions_live_iff (hub : GatewayHub) (connection : Connection)
    (hfind : hub.connections.find? connection.id = some connection)
    (hnone : connection.subscriptions = []) (client : ClientRuntime)
    (hclosed : client.socket = none)
    (hfresh : ∀ kind, client.signalIds kind = []) (subs : List ClientSubscription) :
    (∀ s ∈ subs, (subscriptionsOf (acceptAll hub connection.id (client.openAll subs).sentOnConnect)
      connection.id).countP (IsFor s ·) = 1) ↔ IdsApart subs := by
  have hentries : subscriptionsOf (acceptAll hub connection.id (client.openAll subs).sentOnConnect)
      connection.id = entriesFor (client.openAll subs) := by
    rw [subscriptionsOf_acceptAll hfind, hnone,
      sentOnConnect_eq _ ((socket_openAll subs).trans hclosed),
      resubscribe_eq]
    rfl
  rw [hentries]
  constructor
  · intro h
    refine idsApart_of_live hfresh fun s hs => ?_
    have hpos : 0 < (entriesFor (client.openAll subs)).countP (IsFor s ·) := by
      rw [h s hs]
      exact Nat.one_pos
    obtain ⟨entry, hentry, hfor⟩ := countP_pos_iff.mp hpos
    exact ⟨entry, hentry, of_decide_eq_true hfor⟩
  · exact fun h s hs => countP_entriesFor hfresh h hs

/-! ## Rooms -/

/-- A schema in which a stream and a presence are both called `Room`, which is allowed, and another
presence is called `Cursor`. -/
def roomSchema : FrickSchema where
  streams := [{ id := 1, name := "Room", events := [] }]
  presences := [⟨1, "Room", [], [], 1000⟩, ⟨2, "Cursor", [], [], 1000⟩]

def roomConnection : Connection :=
  ⟨1, some (member "ada"), some "token", "_default", true, [], [], .idle⟩

def roomHub : GatewayHub := { GatewayHub.new with connections := ⟨[roomConnection], by decide⟩ }

def roomClient : ClientRuntime where
  stores := { schema := roomSchema }
  replicaId := "replica"
  deviceId := "device"

/-- The stream and the presence of another name are both live. -/
theorem room_and_cursor_live :
    let subs := [stream "Room" "r1", .presence "Cursor" "r1"]
    ∀ s ∈ subs, (subscriptionsOf (acceptAll roomHub 1 (roomClient.openAll subs).sentOnConnect)
      1).countP (IsFor s ·) = 1 := by
  refine (subscriptions_live_iff roomHub roomConnection (by decide +kernel) rfl
    roomClient rfl (fun kind => by cases kind <;> rfl) _).mpr ⟨?_, ?_⟩
  · decide +kernel
  · decide +kernel

/-- The stream and the presence of one name: the schema is valid, and the stream is gone. -/
theorem room_stream_replaced :
    let subs := [stream "Room" "r1", .presence "Room" "r1"]
    let entries := subscriptionsOf (acceptAll roomHub 1 (roomClient.openAll subs).sentOnConnect) 1
    validateSchema id roomSchema = .ok () ∧ entries = [⟨"Room:r1", .presence, "Room", some "r1"⟩] ∧
      ¬ ∀ s ∈ subs, entries.countP (IsFor s ·) = 1 := by
  refine ⟨?_, ?_, ?_⟩ <;> decide +kernel

end Frick.Properties
