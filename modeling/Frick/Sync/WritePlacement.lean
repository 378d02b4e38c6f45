import Frick.Sync.LiveView
import Frick.Server.Cluster

/-!
# Where a write happens

The nodes of a cluster share one store, and the bus delivers every envelope to every other node. A
write on one node should reach the same subscribers, with the same frames, as if all connections
were on that node.

A delete does. An upsert does but for its echo: the writer's own connections are sent the row on the
node of the write also when they may not read it, and the envelope does not say who wrote. A revoked
grant has no envelope at all, so a subscriber on another node keeps a row that it may not read any
more.

The frame of an object carries the time of the node that sends it, so a connection's frames are
compared with those of a single node whose clock shows the same.
-/

namespace Frick.Sync

open Framework Protocol Store Server Server.GatewayHub Option

/-- The store of a cluster, all its connections, and the node each one is on. -/
structure Cluster (β : Type) where
  store : ObjectStore β
  config : GatewayConfig
  schema_eq : config.schema = store.schema
  objects : ObjectTable β
  sharing : SharingTables
  hub : GatewayHub
  node : Nat → NodeId

/-- What is performed on a node. -/
inductive ClusterWrite where
  | upsert (write : ObjectWrite)
  | delete (address : ObjectAddress)
  | revoke (tenantId grantId now : String)

namespace Cluster

variable {β : Type} (cluster : Cluster β)

/-- The store after the write, and what is to be fanned out: `upsert_object` and its sibling with a
policy, `delete_object`, and `revoke_and_respond`. -/
def commit : ClusterWrite → Cluster β × Option Publication
  | .upsert write =>
    let address := write.address
    match write.commit cluster.store cluster.objects with
    | .error _ => (cluster, none)
    | .ok objects =>
      let written := { cluster with objects }
      match cluster.store.read objects address.tenantId address.objectType address.objectId
          address.appId with
      | .error _ => (written, none)
      | .ok found =>
        (written, some (.objectUpsert address.tenantId address.appId address.objectType
          address.objectId (found.getD write.value) write.writerUserId))
  | .delete address =>
    let deleted := ObjectStore.delete cluster.objects address.tenantId address.objectType
      address.objectId address.appId
    ({ cluster with objects := deleted.1 },
      if deleted.2 then some (.objectDelete address.tenantId address.appId address.objectType
        address.objectId)
      else none)
  | .revoke tenantId grantId now =>
    let revoked := cluster.sharing.revokeGrant tenantId grantId now
    ({ cluster with sharing := revoked.1 }, revoked.2.map fun grant =>
      .visibilityRevoked tenantId defaultAppId grant.recordType grant.recordId)

/-- The origin's fan-out to the connections of one hub, with everything its detached tasks send. -/
def fanOut (hub : GatewayHub) (nowMs : Int) : Publication → GatewayHub
  | .objectUpsert tenantId appId objectType objectId object writerUserId =>
    let started := hub.startObjectUpsert cluster.config tenantId appId objectType objectId object
      writerUserId nowMs
    started.1.runDetached cluster.config cluster.sharing started.2
  | .objectDelete tenantId appId objectType objectId =>
    hub.fanOutObjectDelete cluster.config tenantId appId objectType objectId nowMs
  | .visibilityRevoked tenantId appId objectType objectId =>
    match cluster.store.read cluster.objects tenantId objectType objectId appId with
    | .ok (some object) =>
      hub.recheckVisibility cluster.config cluster.sharing tenantId appId objectType objectId
        object nowMs
    | _ => hub
  | publication => (hub.publish cluster.config publication nowMs).1

def hubOn (n : NodeId) : GatewayHub :=
  { cluster.hub with
    connections := cluster.hub.connections.deleteWhere fun c => cluster.node c.id ≠ n }

/-- The hub of node `n` after a fan-out that started on the node `here`. -/
def announce (publication : Publication) (here n : NodeId) (nowMs : Int) : GatewayHub :=
  if n = here then cluster.fanOut (cluster.hubOn n) nowMs publication
  else match publication.envelope cluster.config here with
    | none => cluster.hubOn n
    | some envelope =>
      (cluster.hubOn n).receiveEnvelope cluster.config cluster.sharing n envelope nowMs

def scattered (write : ClusterWrite) (here n : NodeId) (nowMs : Int) : GatewayHub :=
  match cluster.commit write with
  | (after, none) => after.hubOn n
  | (after, some publication) => after.announce publication here n nowMs

/-- The one hub after the write, if all connections are on it. -/
def together (write : ClusterWrite) (nowMs : Int) : GatewayHub :=
  match cluster.commit write with
  | (after, none) => after.hub
  | (after, some publication) => after.fanOut after.hub nowMs publication

def queue (hub : GatewayHub) (id : Nat) : Option (List Outbound) :=
  (hub.connections.find? id).map Connection.outbound

/-! ## The condition -/

/-- The connection misses nothing by being on another node: the writer may read its row without the
echo, and a subscriber may still read the row after the revocation. -/
def MissesNothing (c : Connection) : Publication → Prop
  | .objectUpsert tenantId appId objectType objectId object writerUserId =>
    interested tenantId appId objectType c = true → ∀ principal ∈ c.principal,
      writerUserId = some principal.userId →
      mayReceive cluster.config cluster.sharing tenantId objectType objectId object writerUserId
        principal = true →
      mayReceive cluster.config cluster.sharing tenantId objectType objectId object none
        principal = true
  | .visibilityRevoked tenantId appId objectType objectId =>
    ∀ object, cluster.store.read cluster.objects tenantId objectType objectId appId =
        .ok (some object) →
      (objectByName cluster.config.schema objectType).isOk = true →
      interested tenantId appId objectType c = true →
      ∀ principal ∈ c.principal,
        canReadRow cluster.config cluster.sharing objectType object principal = true
  | _ => True

/-- No connection on another node misses anything of the write. -/
def Placeable (write : ClusterWrite) (here : NodeId) : Prop :=
  ∀ publication ∈ (cluster.commit write).2, ∀ c ∈ cluster.hub.connections,
    cluster.node c.id ≠ here → (cluster.commit write).1.MissesNothing c publication

/-! ## What origin and peers send -/

/-- A publication as a commit makes it: the object of an upsert carries its id, and packs. -/
def Announced : Publication → Prop
  | .objectUpsert _ _ objectType objectId object _ =>
    objectRecordId object = some objectId ∧ ∃ packed,
      packObjectRecord cluster.config.schema objectType objectId (withoutRecordId object) =
        .ok packed
  | .objectDelete _ _ _ _ | .visibilityRevoked _ _ _ _ => True
  | _ => False

/-- What a connection on the node of the write is sent. -/
def originMessages (nowMs : Int) (c : Connection) : Publication → List Outbound
  | .objectUpsert tenantId appId objectType objectId object writerUserId =>
    upsertMessages cluster.config cluster.sharing tenantId appId objectType objectId object
      writerUserId nowMs c
  | .objectDelete tenantId appId objectType objectId =>
    removalMessages cluster.config tenantId appId objectType objectId nowMs (fun _ => true) c
  | .visibilityRevoked tenantId appId objectType objectId =>
    match cluster.store.read cluster.objects tenantId objectType objectId appId with
    | .ok (some object) =>
      removalMessages cluster.config tenantId appId objectType objectId nowMs
        (fun principal => !canReadRow cluster.config cluster.sharing objectType object principal)
        c
    | _ => []
  | _ => []

/-- What a connection on another node is sent. -/
def peerMessages (nowMs : Int) (c : Connection) : Publication → List Outbound
  | .objectUpsert tenantId appId objectType objectId object _ =>
    upsertMessages cluster.config cluster.sharing tenantId appId objectType objectId object none
      nowMs c
  | .objectDelete tenantId appId objectType objectId =>
    removalMessages cluster.config tenantId appId objectType objectId nowMs (fun _ => true) c
  | _ => []

variable {cluster} {publication : Publication} {hub : GatewayHub} {c : Connection}

lemma delivers_fanOut (h : cluster.Announced publication) (hub : GatewayHub) (nowMs : Int) :
    Delivers hub (cluster.fanOut hub nowMs publication) fun c =>
      cluster.originMessages nowMs c publication := by
  cases publication with
  | objectUpsert => apply delivers_objectUpsert
  | objectDelete => apply delivers_objectDelete
  | visibilityRevoked =>
    dsimp only [fanOut, originMessages]
    split
    · apply delivers_recheckVisibility
    · exact delivers_refl hub
  | _ => exact absurd h id

lemma delivers_peer (h : cluster.Announced publication) (hub : GatewayHub) {here n : NodeId}
    (hn : n ≠ here) (nowMs : Int) :
    Delivers hub (match publication.envelope cluster.config here with
      | none => hub
      | some env => hub.receiveEnvelope cluster.config cluster.sharing n env nowMs)
      fun c => cluster.peerMessages nowMs c publication := by
  cases publication with
  | objectUpsert tenantId appId objectType objectId object =>
    have hid : objectIdOf object = objectId := by rw [objectIdOf, h.1, getD_some]
    have hdelivers := delivers_objectUpsert hub cluster.config tenantId appId objectType objectId
      nowMs cluster.sharing object none
    rw [← hid] at hdelivers
    dsimp only [Publication.envelope]
    rwa [receiveEnvelope_of_ne _ (by exact hn.symm), ← hid]
  | objectDelete =>
    dsimp only [Publication.envelope]
    rw [receiveEnvelope_of_ne _ (by exact hn.symm)]
    apply delivers_objectDelete
  | visibilityRevoked => exact delivers_refl hub
  | _ => exact absurd h id

/-! ## The difference -/

variable {appId objectId objectType tenantId : String} {config : GatewayConfig} {nowMs : Int}

lemma upsertMessages_none_eq_iff {sharing : SharingTables} {object : Value}
    {writer : Option String} {packed : PackedRecord}
    (hpack : packObjectRecord config.schema objectType objectId (withoutRecordId object) =
      .ok packed) :
    upsertMessages config sharing tenantId appId objectType objectId object none nowMs c =
        upsertMessages config sharing tenantId appId objectType objectId object writer nowMs c ↔
      (interested tenantId appId objectType c → ∀ p ∈ c.principal,
        writer = some p.userId →
        mayReceive config sharing tenantId objectType objectId object writer p = true →
        mayReceive config sharing tenantId objectType objectId object none p) := by
  unfold upsertMessages
  rw [hpack]
  by_cases hint : interested tenantId appId objectType c
  swap
  · simp [hint]
  obtain ⟨p, hprin⟩ :=
    isSome_iff_exists.mp (principal_isSome_of_interested hint)
  rw [hint, hprin, any_some, any_some, imp_iff_right rfl]
  simp only [mem_some_iff, forall_eq']
  by_cases hwriter : writer = some p.userId
  · rw [imp_iff_right hwriter]
    cases hnone : mayReceive config sharing tenantId objectType objectId object none p with
    | true => simp [mayReceive_of_none hnone writer]
    | false => simp
  · rw [mayReceive_of_ne hwriter]
    exact iff_of_true rfl fun h => absurd h hwriter

lemma nil_eq_removalMessages_iff {p : Principal → Bool} :
    [] = removalMessages config tenantId appId objectType objectId nowMs (fun q => !p q) c ↔
      ((objectByName config.schema objectType).isOk →
        interested tenantId appId objectType c → ∀ principal ∈ c.principal, p principal) := by
  rw [← removalDelta_isSome_iff config.schema objectType objectId nowMs]
  unfold removalMessages
  cases removalDelta config.schema objectType objectId nowMs with
  | none => simp
  | some =>
    by_cases hint : interested tenantId appId objectType c
    swap
    · simp [hint]
    obtain ⟨principal, hprin⟩ :=
      isSome_iff_exists.mp (principal_isSome_of_interested hint)
    cases hp : p principal with
    | true => simp [hprin]
    | false => simp [hint, hprin]

/-- **What a connection misses on another node.** -/
lemma peerMessages_eq_iff (h : cluster.Announced publication) (nowMs : Int) :
    cluster.peerMessages nowMs c publication = cluster.originMessages nowMs c publication ↔
      cluster.MissesNothing c publication := by
  cases publication with
  | objectUpsert =>
    obtain ⟨-, packed, hpack⟩ := h
    exact upsertMessages_none_eq_iff hpack
  | objectDelete => exact iff_of_true rfl trivial
  | visibilityRevoked =>
    dsimp only [peerMessages, originMessages, MissesNothing]
    split
    next object hread =>
      rw [nil_eq_removalMessages_iff]
      simp [hread]
    next hread =>
      refine iff_of_true rfl fun object hobj => ?_
      exact absurd hobj (hread object)
  | _ => exact absurd h id

/-! ## Commits -/

lemma commit_frame (cluster : Cluster β) (write : ClusterWrite) :
    (cluster.commit write).1.hub = cluster.hub ∧ (cluster.commit write).1.node = cluster.node := by
  cases write with
  | upsert =>
    dsimp only [commit]
    split
    · exact ⟨rfl, rfl⟩
    · split
      · exact ⟨rfl, rfl⟩
      · exact ⟨rfl, rfl⟩
  | delete | revoke => exact ⟨rfl, rfl⟩

lemma announced_upsert {write : ObjectWrite} {objects : ObjectTable β}
    (hcommit : write.commit cluster.store cluster.objects = .ok objects) {found : Option Value}
    (hread : cluster.store.read objects write.address.tenantId write.address.objectType
      write.address.objectId write.address.appId = .ok found) :
    cluster.Announced (.objectUpsert write.address.tenantId write.address.appId
      write.address.objectType write.address.objectId (found.getD write.value)
      write.writerUserId) := by
  obtain ⟨version, packed, hpack, hwrite⟩ := ObjectWrite.commit_eq_ok hcommit
  obtain ⟨⟨out, hcur, hback⟩, -⟩ := ObjectStore.current_writeRowPacked hpack hwrite
  rw [ObjectStore.current, hread] at hcur
  obtain rfl : found = some out := hcur
  have hreads := readsBack_of_readBack cluster.store.schemaValid hback
  obtain ⟨record, hrecord, -⟩ := hreads.packs
  rw [← cluster.schema_eq] at hrecord
  exact ⟨by simp [objectRecordId, objectFieldStr, hreads.id], record, hrecord⟩

lemma announced_of_commit (cluster : Cluster β) (write : ClusterWrite) (publication : Publication)
    (h : publication ∈ (cluster.commit write).2) :
    (cluster.commit write).1.Announced publication := by
  cases write with
  | upsert =>
    dsimp only [commit] at h ⊢
    split at h
    · cases h
    next objects hcommit =>
      split at h
      · cases h
      next found hread =>
        obtain rfl := some.inj h
        exact announced_upsert hcommit hread
  | delete =>
    dsimp only [commit] at h
    split_ifs at h
    · obtain rfl := some.inj h
      trivial
    · cases h
  | revoke =>
    obtain ⟨grant, -, rfl⟩ := map_eq_some_iff.mp h
    trivial

/-! ## Placement -/

lemma mem_hubOn (cluster : Cluster β) (hc : c ∈ cluster.hub.connections) :
    c ∈ (cluster.hubOn (cluster.node c.id)).connections :=
  Table.mem_deleteWhere.mpr ⟨hc, decide_eq_false (not_not.mpr rfl)⟩

lemma queue_of_mem (hc : c ∈ hub.connections) : queue hub c.id = some c.outbound := by
  rw [queue, Table.find?_eq_some_iff.mpr ⟨hc, rfl⟩, map_some]

lemma queue_of_delivers {hub' : GatewayHub} {messages : Connection → List Outbound}
    (h : Delivers hub hub' messages) (hc : c ∈ hub.connections) :
    queue hub' c.id = some (c.outbound ++ messages c) := by
  rw [queue, h c hc, map_some]

/-- A connection is sent the same as on one node, or is on another node and misses nothing. -/
lemma queue_announce_eq_iff (h : cluster.Announced publication) (hc : c ∈ cluster.hub.connections)
    (here : NodeId) (nowMs : Int) :
    queue (cluster.announce publication here (cluster.node c.id) nowMs) c.id =
        queue (cluster.fanOut cluster.hub nowMs publication) c.id ↔
      (cluster.node c.id ≠ here → cluster.MissesNothing c publication) := by
  rw [queue_of_delivers (delivers_fanOut h cluster.hub nowMs) hc, announce]
  by_cases hnode : cluster.node c.id = here
  · rw [if_pos hnode, queue_of_delivers (delivers_fanOut h _ nowMs) (mem_hubOn cluster hc)]
    exact iff_of_true rfl fun hne => absurd hnode hne
  · rw [if_neg hnode, queue_of_delivers (delivers_peer h _ hnode nowMs) (mem_hubOn cluster hc),
      imp_iff_right hnode, ← peerMessages_eq_iff h nowMs]
    simp

/-- **Placement.** However the connections are spread over the nodes, a write on one node reaches
each of them with the same frames as if all were on that node, exactly if no connection on another
node misses an echo or a removal. -/
theorem fan_out_placement_iff (cluster : Cluster β) (write : ClusterWrite) (here : NodeId)
    (clock : NodeId → Int) :
    (∀ c ∈ cluster.hub.connections,
      queue (cluster.scattered write here (cluster.node c.id) (clock (cluster.node c.id))) c.id =
        queue (cluster.together write (clock (cluster.node c.id))) c.id) ↔
      cluster.Placeable write here := by
  obtain ⟨hhub, hnode⟩ := commit_frame cluster write
  have hannounced := announced_of_commit cluster write
  unfold scattered together Placeable
  generalize cluster.commit write = committed at hhub hnode hannounced
  obtain ⟨after, published⟩ := committed
  rw [← hhub, ← hnode]
  cases published with
  | none =>
    refine iff_of_true (fun c hc => ?_) nofun
    exact (queue_of_mem (mem_hubOn after hc)).trans (queue_of_mem hc).symm
  | some publication =>
    simp only [mem_some_iff, forall_eq']
    refine forall₂_congr fun c hc => ?_
    exact queue_announce_eq_iff (hannounced publication rfl) hc here _

end Cluster

/-! ## Two nodes -/

/-- `grace` on node `b`, subscribed to the notes, of which there are none. -/
def twoNodes : Cluster PackedRecord where
  store := adasFeed.store
  config := adasFeed.config
  schema_eq := rfl
  objects := Table.empty _
  sharing := .empty
  hub :=
    { GatewayHub.new with
      connections := (Table.empty _ : ConnectionTable).upsert
        { freshConnection 1 (some (member "grace")) none with
          handshakeComplete := true
          subscriptions := [⟨"s", .object, "Note", none⟩] } }
  node := fun _ => "b"

def graceWritesForAda : ClusterWrite :=
  .upsert ⟨⟨"acme", defaultAppId, "Note", "note-1"⟩, .map [(.string "ownerUserId", .string "ada")],
    .policy none (some "grace"), 1700000000000⟩

/-- The note is there, and `ada` has let `grace` read it. -/
def sharedNote : Cluster PackedRecord :=
  let written := (twoNodes.commit graceWritesForAda).1
  match written.sharing.createGrant ⟨"grant-1", "acme", "ada", "Note", "note-1", "grace", "read",
      "2026-01-01", none⟩ with
  | .ok (sharing, _) => { written with sharing }
  | .error _ => written

/-- **On another node.** `grace` is not told that the note may not be read any more, nor sent the
echo of a write of `grace`. On the node of the write there are frames for both. -/
theorem other_node_misses :
    (Cluster.queue (sharedNote.scattered (.revoke "acme" "grant-1" "2026-01-02") "a" "b" 1) 1 =
        some [] ∧
      Cluster.queue (sharedNote.together (.revoke "acme" "grant-1" "2026-01-02") 1) 1 =
        some [.frame (.delta ⟨[⟨1, "note-1", []⟩], [], 1, some [⟨"Note", "note-1"⟩]⟩)]) ∧
    Cluster.queue (twoNodes.scattered graceWritesForAda "a" "b" 1) 1 = some [] ∧
      Cluster.queue (twoNodes.together graceWritesForAda 1) 1 ≠ some [] := by
  decide +kernel

end Frick.Sync
