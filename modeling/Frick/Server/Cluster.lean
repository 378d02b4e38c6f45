import Frick.Framework.Tally
import Frick.Server.Gateway

/-!
# The cluster bus

`cluster/envelope.rs` and the bus side of `gateway.rs`. The nodes of a cluster share the store; the
bus carries what one node wrote to the subscribers of the others. `handle_store_write` fans a write
out to the connections of its own node and publishes an envelope, and `handle_cluster_envelope` fans
an envelope out to the connections of a peer. A revoked grant is fanned out on its own node and has
no envelope.

What a fan-out leaves to detached tasks is kept with what the task decides by (`DetachedTask`), so
that it can be run to its end.
-/

namespace Frick.Server

open Framework Protocol Store GatewayHub List Option

abbrev NodeId := String

/-- `ClusterEnvelope`, without projections and media placement. -/
inductive ClusterEnvelope where
  | streamEvent (originNodeId : NodeId) (tenantId : String) (appId : Option String)
      (stream streamId : String) (sequence : Int) (packed : PackedStreamEvent)
  | objects (originNodeId : NodeId) (tenantId : String) (appId : Option String)
      (objectType : String) (objects : List Value)
  | objectDeletes (originNodeId : NodeId) (tenantId : String) (appId : Option String)
      (objectType : String) (ids : List String)
  | signal (originNodeId : NodeId) (tenantId : String) (appId : Option String)
      (name key : String) (value : Value) (requestId : String)
  | presenceDelta (originNodeId : NodeId) (tenantId : String) (appId : Option String)
      (name : String) (records : List (String × Value)) (cleared : List String)

def ClusterEnvelope.originNodeId : ClusterEnvelope → NodeId
  | .streamEvent origin _ _ _ _ _ _ => origin
  | .objects origin _ _ _ _ => origin
  | .objectDeletes origin _ _ _ _ => origin
  | .signal origin _ _ _ _ _ _ => origin
  | .presenceDelta origin _ _ _ _ _ => origin

/-- What the origin hands to the bus: `handle_store_write`, and the presence handlers. A signal of a
client and a revoked grant stay on their node. -/
def GatewayHub.Publication.envelope (config : GatewayConfig) (nodeId : NodeId) :
    Publication → Option ClusterEnvelope
  | .objectUpsert tenantId appId objectType _ object _ =>
    some (.objects nodeId tenantId (some appId) objectType [object])
  | .objectDelete tenantId appId objectType objectId =>
    some (.objectDeletes nodeId tenantId (some appId) objectType [objectId])
  | .visibilityRevoked _ _ _ _ => none
  | .streamAppend tenantId appId event =>
    (packStreamEvent config.schema event).toOption.map fun packed =>
      .streamEvent nodeId tenantId (some appId) event.stream event.streamId event.sequence packed
  | .presence tenantId appId name _ records cleared =>
    some (.presenceDelta nodeId tenantId (some appId) name records cleared)
  | .signal _ _ _ _ _ => none

def appIdOrDefault (appId : Option String) : String := appId.getD defaultAppId

def objectIdOf (object : Value) : String := (objectRecordId object).getD ""

def streamNameOf (schema : FrickSchema) (packed : PackedStreamEvent) : String :=
  match streamById schema packed.streamTypeId with
  | .ok stream => stream.name
  | .error _ => ""

/-- The detached task of `fan_out_object_upsert`. -/
structure DetachedTask where
  tenantId : String
  objectType : String
  objectId : String
  object : Value
  writerUserId : Option String
  subscribers : List Deferred

/-- The check of the detached task: with hooks the whole read pipeline, otherwise the grants. -/
def detachedAllows (config : GatewayConfig) (sharing : SharingTables)
    (tenantId objectType objectId : String) (object : Value) (writerUserId : Option String)
    (principal : Principal) : Bool :=
  let perRecordActive := perRecordReadAuthzActive sharing
  if config.policyHooks.isEmpty then
    perRecordActive &&
      sharing.hasActiveGrantFor tenantId principal.userId objectType objectId "read"
  else
    subscriberCanReadObjectWithHooks sharing config.policyHooks config.objectVisibilityMode
      (ownerFieldForType config.schema objectType) principal objectType object perRecordActive
      writerUserId

/-- The check of `fan_out_object_visibility_revoked`. -/
def canReadRow (config : GatewayConfig) (sharing : SharingTables) (objectType : String)
    (object : Value) (principal : Principal) : Bool :=
  subscriberCanReadObjectWithHooks sharing config.policyHooks config.objectVisibilityMode
    (ownerFieldForType config.schema objectType) principal objectType object
    (perRecordReadAuthzActive sharing) none

namespace GatewayHub

variable (hub : GatewayHub)

/-! ## Detached tasks -/

/-- The frames that a detached task sends to the subscribers that pass its check. -/
def sendDeferred (sends : Principal → Bool) (deferred : List Deferred) : GatewayHub :=
  deferred.foldl (fun hub subscriber =>
    if sends subscriber.principal then hub.sendFrame subscriber.connectionId subscriber.frame
    else hub) hub

section

variable (config : GatewayConfig) (tenantId : String)

def runDetached (sharing : SharingTables) (task : DetachedTask) : GatewayHub :=
  hub.sendDeferred (detachedAllows config sharing task.tenantId task.objectType task.objectId
    task.object task.writerUserId) task.subscribers

/-- `fan_out_object_upsert`, with its detached task. -/
def startObjectUpsert (appId objectType objectId : String)
    (object : Value) (writerUserId : Option String) (nowMs : Int) : GatewayHub × DetachedTask :=
  let (fanned, subscribers) :=
    hub.fanOutObjectUpsert config tenantId appId objectType objectId object writerUserId nowMs
  (fanned, ⟨tenantId, objectType, objectId, object, writerUserId, subscribers⟩)

/-- `fan_out_object_visibility_revoked` with the row that it read, to its end: each subscriber that
may not read the row any more is sent the removal. -/
def recheckVisibility (sharing : SharingTables)
    (tenantId appId objectType objectId : String) (object : Value) (nowMs : Int) : GatewayHub :=
  hub.sendDeferred (fun principal => !canReadRow config sharing objectType object principal)
    (hub.fanOutObjectVisibilityRevoked config tenantId appId objectType objectId nowMs)

/-! ## Envelopes -/

def fanOutPackedStreamEvent (appId : String) (packed : PackedStreamEvent) : GatewayHub :=
  hub.broadcastToSubscribers .stream (streamNameOf config.schema packed) (some packed.streamKey)
    tenantId appId (.delta ⟨[], [packed], packed.sequence, none⟩)

/-- The objects of an envelope, one after the other; no writer is known. -/
def fanOutObjects (config : GatewayConfig) (tenantId appId objectType : String) (nowMs : Int) :
    GatewayHub → List Value → GatewayHub × List DetachedTask
  | hub, [] => (hub, [])
  | hub, object :: rest =>
    let (fanned, task) := hub.startObjectUpsert config tenantId appId objectType
      (objectIdOf object) object none nowMs
    let (last, tasks) := fanOutObjects config tenantId appId objectType nowMs fanned rest
    (last, task :: tasks)

def handleClusterEnvelope (nowMs : Int) : ClusterEnvelope → GatewayHub × List DetachedTask
  | .streamEvent _ tenantId appId _ _ _ packed =>
    (hub.fanOutPackedStreamEvent config tenantId (appIdOrDefault appId) packed, [])
  | .objects _ tenantId appId objectType objects =>
    fanOutObjects config tenantId (appIdOrDefault appId) objectType nowMs hub objects
  | .objectDeletes _ tenantId appId objectType ids =>
    (ids.foldl (fun hub objectId =>
      hub.fanOutObjectDelete config tenantId (appIdOrDefault appId) objectType objectId nowMs)
      hub, [])
  | .signal _ tenantId appId name key value _ =>
    (hub.fanOutSignalLocal config tenantId (appIdOrDefault appId) name key value, [])
  | .presenceDelta _ tenantId appId name records cleared =>
    match (records.head?.map Prod.fst).or cleared.head? with
    | none => (hub, [])
    | some key =>
      (hub.fanOutPresenceDelta config tenantId (appIdOrDefault appId) name key records cleared, [])

/-- An envelope with everything its detached tasks send. The bus does not deliver an envelope to the
node that published it. -/
def receiveEnvelope (sharing : SharingTables) (nodeId : NodeId)
    (envelope : ClusterEnvelope) (nowMs : Int) : GatewayHub :=
  if envelope.originNodeId = nodeId then hub
  else
    let (fanned, tasks) := hub.handleClusterEnvelope config nowMs envelope
    tasks.foldl (fun hub task => hub.runDetached config sharing task) fanned

end

lemma receiveEnvelope_of_ne {config : GatewayConfig} {sharing : SharingTables} {nodeId : NodeId}
    {env : ClusterEnvelope} {nowMs : Int} (h : env.originNodeId ≠ nodeId) :
    hub.receiveEnvelope config sharing nodeId env nowMs =
      (hub.handleClusterEnvelope config nowMs env).2.foldl
        (fun hub task => hub.runDetached config sharing task)
        (hub.handleClusterEnvelope config nowMs env).1 := if_neg h

end GatewayHub

/-! ## What a connection is sent -/

def interested (tenantId appId objectType : String) (c : Connection) : Bool :=
  c.inPartition tenantId appId && c.subscribes .object objectType none

/-- The principal is sent the row, at once or by the detached task. -/
def mayReceive (config : GatewayConfig) (sharing : SharingTables)
    (tenantId objectType objectId : String) (object : Value) (writerUserId : Option String)
    (principal : Principal) : Bool :=
  (config.policyHooks.isEmpty && upsertBaseline config objectType object writerUserId principal) ||
    detachedAllows config sharing tenantId objectType objectId object writerUserId principal

section Echo

variable {config : GatewayConfig} {sharing : SharingTables} {tenantId objectType objectId : String}
  {object : Value} {writerUserId : Option String} {principal : Principal}

lemma mayReceive_of_none
    (h : mayReceive config sharing tenantId objectType objectId object none principal)
    (writerUserId : Option String) :
    mayReceive config sharing tenantId objectType objectId object writerUserId principal =
      true := by
  unfold mayReceive detachedAllows upsertBaseline at h ⊢
  by_cases hhooks : config.policyHooks.isEmpty
  · rw [if_pos hhooks] at h ⊢
    rw [hhooks, Bool.true_and] at h ⊢
    simp only [reduceCtorEq, decide_false, Bool.false_or] at h
    rw [Bool.or_assoc, Bool.or_assoc, ← Bool.or_assoc principal.isAdmin, h, Bool.or_true]
  · rw [if_neg hhooks] at h ⊢
    rw [Bool.eq_false_of_not_eq_true hhooks, Bool.false_and, Bool.false_or,
      subscriberCanReadObjectWithHooks_iff] at h ⊢
    exact h.imp_left fun hallow => objectReadDecision_of_none hallow writerUserId

lemma mayReceive_of_ne (h : writerUserId ≠ some principal.userId) :
    mayReceive config sharing tenantId objectType objectId object writerUserId principal =
      mayReceive config sharing tenantId objectType objectId object none principal := by
  unfold mayReceive detachedAllows upsertBaseline subscriberCanReadObjectWithHooks
  dsimp only
  rw [objectReadDecision_of_ne h, decide_eq_false h, decide_eq_false (some_ne_none _).symm]

end Echo

/-- What the fan-out of an upsert sends. -/
def upsertMessages (config : GatewayConfig) (sharing : SharingTables)
    (tenantId appId objectType objectId : String) (object : Value) (writerUserId : Option String)
    (nowMs : Int) (c : Connection) : List Outbound :=
  match packObjectRecord config.schema objectType objectId (withoutRecordId object) with
  | .error _ => []
  | .ok packed =>
    if interested tenantId appId objectType c && c.principal.any (mayReceive config sharing
        tenantId objectType objectId object writerUserId) then
      [.frame (.delta ⟨[packed], [], nowMs, none⟩)]
    else []

/-- What a removal sends to the connections that `p` picks. -/
def removalMessages (config : GatewayConfig) (tenantId appId objectType objectId : String)
    (nowMs : Int) (p : Principal → Bool) (c : Connection) : List Outbound :=
  match removalDelta config.schema objectType objectId nowMs with
  | none => []
  | some frame =>
    if interested tenantId appId objectType c && c.principal.any p then [.frame frame] else []

section Delivers

open GatewayHub

variable {hub hub' hub'' : GatewayHub} {messages messages' : Connection → List Outbound}

/-- Every connection gets the messages at the end of its queue, and nothing else changes in it. -/
def Delivers (hub hub' : GatewayHub) (messages : Connection → List Outbound) : Prop :=
  ∀ c ∈ hub.connections, hub'.connections.find? c.id =
    some { c with outbound := c.outbound ++ messages c }

lemma delivers_refl (hub : GatewayHub) : Delivers hub hub fun _ => [] := by
  intro c hc
  rw [append_nil]
  exact Table.find?_eq_some_iff.mpr ⟨hc, rfl⟩

lemma Delivers.congr (h : Delivers hub hub' messages)
    (hmessages : ∀ c ∈ hub.connections, messages c = messages' c) :
    Delivers hub hub' messages' := by
  intro c hc
  rw [← hmessages c hc]
  exact h c hc

lemma Delivers.trans (h : Delivers hub hub' messages) (h' : Delivers hub' hub'' messages')
    (hqueue : ∀ c queue, messages' { c with outbound := queue } = messages' c) :
    Delivers hub hub'' fun c => messages c ++ messages' c := by
  intro c hc
  have hmem := (Table.find?_eq_some_iff.mp (h c hc)).1
  have hnext := h' _ hmem
  rwa [hqueue, append_assoc] at hnext

lemma delivers_enqueue (hub : GatewayHub) (p : Connection → Bool) (msg : Outbound) :
    Delivers hub { hub with
      connections := hub.connections.updateWhere p (fun c => c.enqueue msg) fun _ => rfl }
      fun c => if p c then [msg] else [] := by
  intro c hc
  have hid : ∀ d : Connection, (d.enqueue msg).id = d.id := fun _ => rfl
  refine (Table.find?_updateWhere hid c.id).trans ?_
  rw [Table.find?_eq_some_iff.mpr ⟨hc, rfl⟩, map_some]
  dsimp only
  split_ifs
  · rfl
  · rw [append_nil]

lemma delivers_sendFrame (hub : GatewayHub) (id : Nat) (frame : FrickFrame) :
    Delivers hub (hub.sendFrame id frame) fun c => if c.id = id then [.frame frame] else [] := by
  refine (delivers_enqueue hub (fun c => c.id = id) (.frame frame)).congr fun c _ => ?_
  simp

lemma delivers_sendDeferred (hub : GatewayHub) (sends : Principal → Bool)
    (deferred : List Deferred) :
    Delivers hub (hub.sendDeferred sends deferred) fun c =>
      (deferred.filter fun d => d.connectionId = c.id && sends d.principal).map
        fun d => .frame d.frame := by
  induction deferred generalizing hub with
  | nil => exact delivers_refl hub
  | cons d _ ih =>
    rw [sendDeferred, foldl_cons]
    by_cases hsends : sends d.principal
    · rw [if_pos hsends]
      refine ((delivers_sendFrame hub d.connectionId d.frame).trans (ih _) fun _ _ => rfl).congr ?_
      intro c _
      by_cases hid : c.id = d.connectionId
      · rw [if_pos hid, filter_cons_of_pos (by simp [hid, hsends])]
        rfl
      · rw [if_neg hid, filter_cons_of_neg (by simp [Ne.symm hid])]
        rfl
    · rw [if_neg hsends]
      refine (ih hub).congr fun c _ => ?_
      rw [filter_cons_of_neg (by simp [hsends])]

lemma filter_deferredFor {c : Connection} (hc : c ∈ hub.connections) (p : Connection → Bool)
    (sends : Principal → Bool) (frame : FrickFrame) :
    ((hub.deferredFor p frame).filter fun d => d.connectionId = c.id && sends d.principal).map
        (fun d => Outbound.frame d.frame) =
      if p c && c.principal.any sends then [.frame frame] else [] := by
  obtain ⟨front, rest, hrows, -, hfront, hrest⟩ :=
    Table.exists_rows_eq (Table.find?_eq_some_iff.mpr ⟨hc, rfl⟩)
  have hoth : ∀ rows : List Connection, (∀ d ∈ rows, d.id ≠ c.id) →
      ((rows.filter p).filterMap fun d => d.principal.map fun principal =>
        (⟨d.id, principal, frame⟩ : Deferred)).filter
          (fun d => d.connectionId = c.id && sends d.principal) = [] := by
    intro rows hne
    refine filter_eq_nil_iff.mpr fun d hd => ?_
    obtain ⟨e, he, hmap⟩ := mem_filterMap.mp hd
    obtain ⟨principal, -, rfl⟩ := map_eq_some_iff.mp hmap
    simp [hne e (mem_filter.mp he).1]
  rw [deferredFor, hrows, filter_append, filterMap_append, filter_append, hoth front hfront]
  rw [← singleton_append, filter_append, filterMap_append, filter_append, hoth rest hrest]
  cases hp : p c <;> cases hprin : c.principal with
  | none => simp [hprin]
  | some principal => cases hsends : sends principal <;> simp [hp, hprin, hsends]

lemma now_or_later (matching now later : Bool) (msg : Outbound) :
    ((if (matching && now) then [msg] else []) ++
        if (matching && !(matching && now) && later) then [msg] else []) =
      if (matching && (now || later)) then [msg] else [] := by
  cases matching <;> cases now <;> cases later <;> rfl

lemma principal_isSome_of_interested {tenantId appId objectType : String} {c : Connection}
    (h : interested tenantId appId objectType c) : c.principal.isSome := by
  have hpart := (Bool.and_eq_true _ _ ▸ h).1
  rw [Connection.inPartition] at hpart
  cases hprin : c.principal with
  | none =>
    rw [hprin] at hpart
    cases hpart
  | some => rfl

variable (hub) (config : GatewayConfig) (tenantId appId objectType objectId : String) (nowMs : Int)

/-- **Upsert.** The frame goes out at once or by the detached task, never twice. -/
lemma delivers_objectUpsert (sharing : SharingTables) (object : Value)
    (writerUserId : Option String) :
    let started := hub.startObjectUpsert config tenantId appId objectType objectId object
      writerUserId nowMs
    Delivers hub (started.1.runDetached config sharing started.2)
      (upsertMessages config sharing tenantId appId objectType objectId object writerUserId
        nowMs) := by
  unfold startObjectUpsert fanOutObjectUpsert upsertMessages
  cases packObjectRecord config.schema objectType objectId (withoutRecordId object) with
  | error => exact delivers_refl hub
  | ok =>
    refine ((delivers_enqueue hub _ _).trans (delivers_sendDeferred _ _ _) fun _ _ => rfl).congr ?_
    intro c hc
    dsimp only
    rw [filter_deferredFor hc]
    cases hprin : c.principal with
    | none => simp
    | some =>
      simp only [Bool.and_assoc _ config.policyHooks.isEmpty]
      exact now_or_later _ _ _ _

lemma delivers_objectDelete :
    Delivers hub (hub.fanOutObjectDelete config tenantId appId objectType objectId nowMs)
      (removalMessages config tenantId appId objectType objectId nowMs fun _ => true) := by
  unfold fanOutObjectDelete removalMessages
  cases removalDelta config.schema objectType objectId nowMs with
  | none => exact delivers_refl hub
  | some =>
    refine (delivers_enqueue hub _ _).congr fun c _ => ?_
    show (if interested tenantId appId objectType c then _ else _) = _
    by_cases hint : interested tenantId appId objectType c
    · obtain ⟨principal, hprin⟩ :=
        isSome_iff_exists.mp (principal_isSome_of_interested hint)
      simp [hprin]
    · simp [hint]

lemma delivers_recheckVisibility (sharing : SharingTables) (object : Value) :
    Delivers hub
      (hub.recheckVisibility config sharing tenantId appId objectType objectId object nowMs)
      (removalMessages config tenantId appId objectType objectId nowMs fun principal =>
        !canReadRow config sharing objectType object principal) := by
  unfold recheckVisibility fanOutObjectVisibilityRevoked removalMessages
  cases removalDelta config.schema objectType objectId nowMs with
  | none => exact delivers_refl hub
  | some frame =>
    refine (delivers_sendDeferred hub _ _).congr fun c hc => ?_
    exact filter_deferredFor hc (interested tenantId appId objectType)
      (fun principal => !canReadRow config sharing objectType object principal) frame

end Delivers

end Frick.Server
