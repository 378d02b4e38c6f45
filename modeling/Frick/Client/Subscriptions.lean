import Frick.Client.Session

/-!
# The subscriptions of a client

A client opens subscriptions with `objects`, `stream`, `presence`, `signalChannel` and `projection`,
and sends them again on every connect. What it keeps of a subscription is the key of its signal; for
the kinds with a key that is `name:key`, which `#resubscribe` takes apart again at the first `:`.
`announced` is what it then says it is subscribed to.
-/

namespace Frick.Client

open Framework Protocol FrickClient List

/-- A subscription, by the call that opens it. -/
inductive ClientSubscription where
  | objects (type : String)
  | stream (name key : String)
  | presence (name key : String)
  | signalChannel (name key : String)
  | projection (name : String)
  deriving DecidableEq

namespace ClientSubscription

def kind : ClientSubscription → SubscriptionKind
  | .objects _ => .object
  | .stream _ _ => .stream
  | .presence _ _ => .presence
  | .signalChannel _ _ => .signal
  | .projection _ => .projection

def name : ClientSubscription → String
  | .objects name | .stream name _ | .presence name _ | .signalChannel name _
  | .projection name => name

/-- The key, for the kinds that have one. -/
def key : ClientSubscription → Option String
  | .stream _ key | .presence _ key | .signalChannel _ key => some key
  | .objects _ | .projection _ => none

def signalId : ClientSubscription → String
  | .objects name | .projection name => name
  | .stream name key | .presence name key | .signalChannel name key => streamKey name key

/-- The subscription that `#resubscribe` makes of the key of a signal. -/
def ofSignal : SubscriptionKind → String → ClientSubscription
  | .object, id => .objects id
  | .stream, id => .stream (splitSubscriptionKey id).1 (splitSubscriptionKey id).2
  | .presence, id => .presence (splitSubscriptionKey id).1 (splitSubscriptionKey id).2
  | .signal, id => .signalChannel (splitSubscriptionKey id).1 (splitSubscriptionKey id).2
  | .projection, id => .projection id

def payload (stores : FrickClient) (s : ClientSubscription) : SubscribePayload :=
  stores.subscribePayload s.kind s.name (s.key.getD "")

@[simp] lemma kind_ofSignal (kind : SubscriptionKind) (id : String) :
    (ofSignal kind id).kind = kind := by
  cases kind <;> rfl

variable {s t : ClientSubscription}

lemma ext_parts (hkind : s.kind = t.kind) (hname : s.name = t.name) (hkey : s.key = t.key) :
    s = t := by
  cases s <;> cases t <;> simp_all [kind, name, key]

lemma isSome_key_of_kind (h : s.kind = t.kind) : s.key.isSome = t.key.isSome := by
  cases s <;> cases t <;> simp_all [kind, key]

lemma ofSignal_signalId (h : s.key.isSome → ':' ∉ s.name.toList) :
    ofSignal s.kind s.signalId = s := by
  cases s with
  | objects | projection => rfl
  | stream name key | presence name key | signalChannel name key =>
    have hname : ':' ∉ name.toList := h rfl
    simp only [kind, signalId, ofSignal, splitSubscriptionKey_streamKey hname]

lemma signalId_ofSignal (s : ClientSubscription) :
    (ofSignal s.kind s.signalId).signalId = s.signalId := by
  have hjoin (name key : String) :
      streamKey (splitSubscriptionKey (streamKey name key)).1
        (splitSubscriptionKey (streamKey name key)).2 = streamKey name key :=
    streamKey_splitSubscriptionKey (by simp [streamKey])
  cases s with
  | objects | projection => rfl
  | stream name key | presence name key | signalChannel name key => exact hjoin name key

lemma notMem_name_ofSignal (h : s.key.isSome) :
    ':' ∉ (ofSignal s.kind s.signalId).name.toList := by
  have hname (name key : String) : ':' ∉ (splitSubscriptionKey (streamKey name key)).1.toList :=
    notMem_splitSubscriptionKey (by simp [streamKey])
  cases s with
  | objects | projection => cases h
  | stream name key | presence name key | signalChannel name key => exact hname name key

end ClientSubscription

namespace ClientRuntime

variable (client : ClientRuntime)

def openSubscription : ClientSubscription → ClientRuntime
  | .objects type => (client.objects type).1
  | .stream name key => (client.stream name key).1
  | .presence name key => (client.presence name key).1
  | .signalChannel name key => (client.signalChannel name key).1
  | .projection name => (client.projection name).1

def signalIds : SubscriptionKind → List String
  | .object => client.stores.objectListSignals
  | .stream => client.stores.streamSignals
  | .presence => client.presenceSignals.rows.map Prod.fst
  | .signal => client.signalSignals.rows.map Prod.fst
  | .projection => client.projectionSignals

/-- The kinds, in the order of `#resubscribe`. -/
def kinds : List SubscriptionKind := [.object, .stream, .presence, .signal, .projection]

def announced : List ClientSubscription :=
  kinds.flatMap fun kind => (client.signalIds kind).map (ClientSubscription.ofSignal kind)

lemma resubscribe_eq :
    client.resubscribe = client.announced.map (ClientSubscription.payload client.stores) := by
  simp only [resubscribe, FrickClient.resubscribe, announced, kinds, signalIds, flatMap_cons,
    flatMap_nil, map_append, map_map, append_assoc, append_nil]
  rfl

/-- The `Subscribe` frames that a client sends when the socket it opens is open. -/
def sentOnConnect : List SubscribePayload :=
  (client.connect.onOpen client.opened).2.filterMap fun frame =>
    match frame with
    | .subscribe payload => some payload
    | _ => none

lemma sentOnConnect_eq (h : client.socket = none) : client.sentOnConnect = client.resubscribe := by
  have hconnect : client.connect =
      { client with socket := some client.opened, opened := client.opened + 1 } := by
    rw [connect, h]
  rw [sentOnConnect, hconnect, onOpen]
  have hsame :
      resubscribe { client with socket := some client.opened, opened := client.opened + 1 } =
      client.resubscribe := rfl
  simp [hsame]

/-! ## Opening subscriptions -/

/-- An open subscription has the key of its signal once. -/
def addNew (ids : List String) (id : String) : List String :=
  if id ∈ ids then ids else ids ++ [id]

variable {id : String} {ids : List String} {s : ClientSubscription} {kind : SubscriptionKind}

lemma mem_addNew {id' : String} : id' ∈ addNew ids id ↔ id' ∈ ids ∨ id = id' := by
  rw [addNew]
  split_ifs with hmem
  · exact ⟨Or.inl, fun h => h.elim (fun h => h) fun h => h ▸ hmem⟩
  · rw [mem_append, mem_singleton, eq_comm]

lemma nodup_addNew (h : ids.Nodup) (id : String) : (addNew ids id).Nodup := by
  rw [addNew]
  split_ifs with hmem
  · exact h
  · rw [← concat_eq_append]
    exact h.concat hmem

variable {client}

lemma signalIds_openSubscription (s : ClientSubscription) (kind : SubscriptionKind) :
    (client.openSubscription s).signalIds kind =
      if s.kind = kind then addNew (client.signalIds kind) s.signalId
      else client.signalIds kind := by
  cases s
  case' objects => rw [openSubscription, objects]
  case' stream => rw [openSubscription, stream, FrickClient.stream]
  case' presence => rw [openSubscription, presence]
  case' signalChannel => rw [openSubscription, signalChannel]
  case' projection => rw [openSubscription, projection]
  all_goals
    split_ifs with hopen <;> cases kind <;> simp_all [signalIds, addNew, ClientSubscription.kind,
      ClientSubscription.signalId, Dict.isSome_get?_iff, Dict.keys_set_of_notMem]

/-- The calls that open subscriptions, in their order. -/
def openAll (client : ClientRuntime) (subs : List ClientSubscription) : ClientRuntime :=
  subs.foldl openSubscription client

lemma mem_signalIds_openAll {subs : List ClientSubscription} :
    id ∈ (client.openAll subs).signalIds kind ↔
      id ∈ client.signalIds kind ∨ ∃ s ∈ subs, s.kind = kind ∧ s.signalId = id := by
  induction subs generalizing client with
  | nil => simp [openAll]
  | cons s rest ih =>
    have hrest : id ∈ (client.openAll (s :: rest)).signalIds kind ↔ _ :=
      @ih (client.openSubscription s)
    rw [hrest, signalIds_openSubscription]
    by_cases hkind : s.kind = kind
    · rw [if_pos hkind, mem_addNew]
      simp [hkind, or_assoc]
    · rw [if_neg hkind]
      simp [hkind]

lemma nodup_signalIds_openAll (subs : List ClientSubscription) (h : (client.signalIds kind).Nodup) :
    ((client.openAll subs).signalIds kind).Nodup := by
  induction subs generalizing client with
  | nil => exact h
  | cons s _ ih =>
    refine @ih (client.openSubscription s) ?_
    rw [signalIds_openSubscription]
    split_ifs
    · exact nodup_addNew h _
    · exact h

lemma socket_openAll (subs : List ClientSubscription) :
    (client.openAll subs).socket = client.socket := by
  induction subs generalizing client with
  | nil => rfl
  | cons s _ ih =>
    refine (@ih (client.openSubscription s)).trans ?_
    cases s with
    | stream => rfl
    | objects => rw [openSubscription, objects]; split_ifs <;> rfl
    | presence => rw [openSubscription, presence]; split_ifs <;> rfl
    | signalChannel => rw [openSubscription, signalChannel]; split_ifs <;> rfl
    | projection => rw [openSubscription, projection]; split_ifs <;> rfl

/-! ## What is announced -/

section Announced

variable {subs : List ClientSubscription} (hfresh : ∀ kind, client.signalIds kind = [])

include hfresh

lemma mem_announced_openAll {s : ClientSubscription} :
    s ∈ (client.openAll subs).announced ↔
      ∃ t ∈ subs, ClientSubscription.ofSignal t.kind t.signalId = s := by
  simp only [announced, mem_flatMap, mem_map, mem_signalIds_openAll, hfresh, not_mem_nil, false_or]
  constructor
  · rintro ⟨kind, -, id, ⟨t, ht, rfl, rfl⟩, rfl⟩
    exact ⟨t, ht, rfl⟩
  · rintro ⟨t, ht, rfl⟩
    refine ⟨t.kind, ?_, t.signalId, ⟨t, ht, rfl, rfl⟩, rfl⟩
    cases t.kind <;> decide

lemma nodup_announced_openAll : ((client.openAll subs).announced).Nodup := by
  rw [announced, nodup_flatMap]
  constructor
  · intro kind _
    have hids : ((client.openAll subs).signalIds kind).Nodup :=
      nodup_signalIds_openAll subs (by rw [hfresh]; exact nodup_nil)
    refine hids.map_on fun id hid id' hid' heq => ?_
    rw [mem_signalIds_openAll, hfresh] at hid hid'
    obtain ⟨s, -, rfl, rfl⟩ := hid.resolve_left (not_mem_nil)
    obtain ⟨t, -, hkind, rfl⟩ := hid'.resolve_left (not_mem_nil)
    rw [← ClientSubscription.signalId_ofSignal s, heq, ← hkind,
      ClientSubscription.signalId_ofSignal t]
  · have hkinds : kinds.Nodup := by decide
    refine hkinds.imp fun {kind kind'} hne => ?_
    intro s hs hs'
    obtain ⟨id, -, rfl⟩ := mem_map.mp hs
    obtain ⟨id', -, heq⟩ := mem_map.mp hs'
    refine hne ?_
    rw [← ClientSubscription.kind_ofSignal kind id, ← heq, ClientSubscription.kind_ofSignal]

end Announced

end ClientRuntime

end Frick.Client
