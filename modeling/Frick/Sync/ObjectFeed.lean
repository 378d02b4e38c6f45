import Frick.Framework.Overwrite
import Frick.Framework.Run
import Frick.Server.Gateway

/-!
# A subscriber to an object type

One gateway connection that subscribes to an object type, the object and sharing tables behind the
gateway, and everything the server still has to do about the subscriber. Every await point is a cut:

* an upsert commits, then re-reads the row, then awaits the search projector, and only then its
  write listener runs; a delete awaits the projector between its commit and its listener;
* `fan_out_object_upsert` sends at once to the subscribers that the ownership baseline lets see the
  row, and leaves the others (all of them, with policy hooks) to a spawned task that probes for
  grants, checks each subscriber and sends, with an await point in between each time;
* `fan_out_object_visibility_revoked` reads the row, probes for grants, collects the subscribers and
  checks each; `share.rs` calls it for the default app's partition only;
* creating a grant fans out nothing;
* `handle_subscribe` registers the subscription, reads the rows, probes for grants, checks one row
  after the other and enqueues the Snapshot.

Only the part of these tasks that can reach the one subscriber is kept. What is in flight is a list
in the order of the commits, and a run may continue any item of it at any time. The reads of the
database succeed.
-/

namespace Frick.Sync

open Framework Protocol Store Server

/-! ## What a subscriber makes of its frames -/

/-- The record of the given id that a list of upserts leaves. -/
def lastRecord (id : String) (records : List PackedRecord) : Option PackedRecord :=
  (records.filter fun record => record.recordId = id).getLast?

/-- What a frame says about a record: nothing, its new content, or that it is gone. A Snapshot
speaks about every record; the tombstone of a removal is undone by the removal. -/
def recordEffect (id : String) : FrickFrame → Option (Option PackedRecord)
  | .snapshot payload => some (lastRecord id payload.objects)
  | .delta payload =>
    if (payload.removed.getD []).any fun removal => removal.id = id then some none
    else (lastRecord id payload.objects).map some
  | _ => none

/-- The view of a subscriber: for each record, what the last frame about it says. -/
def viewOf (frames : List FrickFrame) (id : String) : Option PackedRecord :=
  overwrite (frames.map (recordEffect id)) none

/-! ## Writes -/

/-- Where an object is stored. -/
structure ObjectAddress where
  tenantId : String
  appId : String
  objectType : String
  objectId : String
  deriving DecidableEq

/-- The two upserts of the store facade: `upsert_object`, and `upsert_object_with_policy`, which
carries the writer. -/
inductive UpsertMode where
  | plain (version : Int)
  | policy (expectedVersion : Option Int) (writerUserId : Option String)

/-- A call of one of them. -/
structure ObjectWrite where
  address : ObjectAddress
  value : Value
  mode : UpsertMode
  nowMs : Int

namespace ObjectWrite

variable {β : Type} (write : ObjectWrite)

/-- The writer that the write event names. -/
def writerUserId : Option String :=
  match write.mode with
  | .plain _ => none
  | .policy _ writerUserId => writerUserId

def commit (store : ObjectStore β) (db : ObjectTable β) : Except StoreError (ObjectTable β) :=
  let address := write.address
  match write.mode with
  | .plain version =>
    store.upsert db address.tenantId address.objectType address.objectId write.value version
      address.appId write.nowMs
  | .policy expectedVersion _ =>
    (store.upsertWithPolicy db address.appId address.tenantId address.objectType
      address.objectId write.value expectedVersion
      (resolveObjectMergePolicy store.schema address.objectType) write.nowMs).map Prod.fst

lemma commit_eq_ok {write : ObjectWrite} {store : ObjectStore β} {db db' : ObjectTable β}
    (h : write.commit store db = .ok db') :
    ∃ version packed,
      store.pack write.address.tenantId write.address.objectType write.address.objectId
        write.value = .ok packed ∧
      ObjectStore.writeRowPacked db ⟨write.address.appId, write.address.tenantId,
        write.address.objectType, write.address.objectId, version, packed,
        isoFromEpochMs write.nowMs⟩ = .ok db' := by
  unfold commit at h
  dsimp only at h
  split at h
  next version _ =>
    obtain ⟨packed, hpack, hwrite⟩ := bind_eq_ok.mp h
    exact ⟨version, packed, hpack, hwrite⟩
  next expected _ _ =>
    cases hups : store.upsertWithPolicy db write.address.appId write.address.tenantId
        write.address.objectType write.address.objectId write.value expected
        (resolveObjectMergePolicy store.schema write.address.objectType) write.nowMs with
    | error =>
      rw [hups] at h
      cases h
    | ok =>
      rw [hups] at h
      obtain rfl := Except.ok.inj h
      exact ObjectStore.upsertWithPolicy_eq_ok hups

end ObjectWrite

/-! ## What is in flight -/

/-- Where a task stands. -/
inductive FeedPoint where
  /-- An upsert has committed and has not read the row again. -/
  | written (value : Value) (writerUserId : Option String)
  /-- It has, and its write listener has not run. -/
  | stored (object : Value) (writerUserId : Option String)
  /-- The spawned task of `fan_out_object_upsert` before it probes for grants. -/
  | deferred (object : Value) (writerUserId : Option String) (frame : FrickFrame)
  /-- The same before it checks the subscriber. -/
  | checking (object : Value) (writerUserId : Option String) (frame : FrickFrame)
      (perRecordActive : Bool)
  /-- A delete has committed and its write listener has not run. -/
  | deleted
  /-- A grant has been revoked and its row has not been read. -/
  | revoked
  /-- `fan_out_object_visibility_revoked` before it probes for grants. -/
  | revokedRead (object : Value) (frame : FrickFrame)
  /-- The same before it collects the subscribers. -/
  | revokedProbed (object : Value) (frame : FrickFrame) (perRecordActive : Bool)
  /-- The same before it checks the subscriber. -/
  | rechecking (object : Value) (frame : FrickFrame) (perRecordActive : Bool)
  /-- The subscriber may read the row; the frame is about to be enqueued. -/
  | sending (frame : FrickFrame)
  /-- The subscriber may not read the row any more; the removal is about to be enqueued. -/
  | removing (frame : FrickFrame)

structure FeedTask where
  address : ObjectAddress
  point : FeedPoint

/-- Where the subscription stands. -/
inductive SubscribeStage where
  | absent
  /-- The subscription is registered and its rows are not read. -/
  | registered
  /-- The rows are read. -/
  | listed (rows : List Value)
  /-- Rows left to check, and those found visible. -/
  | checking (perRecordActive : Bool) (rest visible : List Value)
  /-- The Snapshot is enqueued. -/
  | live
  deriving DecidableEq

/-- The tables, what is in flight, the subscription, and every frame enqueued for it. -/
structure FeedWorld (β : Type) where
  objects : ObjectTable β
  sharing : SharingTables
  tasks : List FeedTask
  stage : SubscribeStage
  sent : List FrickFrame

/-- What a task does up to its next await point. -/
structure TaskOutcome where
  next : Option FeedPoint := none
  frame : Option FrickFrame := none

/-! ## The subscriber -/

/-- The server, the subscriber, and what it subscribes to. The gateway serves the store's schema,
and the subscriber's tenant is not archived. -/
structure ObjectFeed (β : Type) where
  store : ObjectStore β
  config : GatewayConfig
  schema_eq : config.schema = store.schema
  principal : Principal
  active : principal.isActiveCheap = true
  appId : String
  objectType : String
  subscriptionId : String

/-- The steps of the server. -/
inductive FeedLabel where
  | upsert (write : ObjectWrite)
  | delete (address : ObjectAddress)
  | createGrant (grant : Grant)
  | revokeGrant (tenantId grantId now : String)
  /-- The `n`-th task runs to its next await point. -/
  | proceed (n : Nat) (nowMs : Int)
  /-- `handle_subscribe` of the subscriber runs to its next await point. -/
  | subscribe

namespace ObjectFeed

variable {β : Type} (feed : ObjectFeed β)

/-- The subscriber's record of the given id. -/
def address (id : String) : ObjectAddress :=
  ⟨feed.principal.tenantId, feed.appId, feed.objectType, id⟩

def payload : SubscribePayload := ⟨feed.subscriptionId, .object, feed.objectType, none, none⟩

/-- `subscriber_can_read_object_with_hooks` for the subscriber. -/
def canRead (sharing : SharingTables) (object : Value) (perRecordActive : Bool)
    (writerUserId : Option String) : Bool :=
  subscriberCanReadObjectWithHooks sharing feed.config.policyHooks feed.config.objectVisibilityMode
    (ownerFieldForType feed.config.schema feed.objectType) feed.principal feed.objectType object
    perRecordActive writerUserId

/-- The connection filters of the fan-outs. -/
def reaches (w : FeedWorld β) (address : ObjectAddress) : Bool :=
  address.tenantId = feed.principal.tenantId && address.appId = feed.appId &&
    address.objectType = feed.objectType && w.stage ≠ .absent

/-- The check of the spawned task of `fan_out_object_upsert`. -/
def deferredAllowed (sharing : SharingTables) (address : ObjectAddress) (object : Value)
    (writerUserId : Option String) (perRecordActive : Bool) : Bool :=
  if feed.config.policyHooks.isEmpty then
    sharing.hasActiveGrantFor address.tenantId feed.principal.userId address.objectType
      address.objectId "read"
  else feed.canRead sharing object perRecordActive writerUserId

/-- A task runs to its next await point. -/
def resume (w : FeedWorld β) (address : ObjectAddress) (nowMs : Int) : FeedPoint → TaskOutcome
  | .written value writerUserId =>
    match feed.store.read w.objects address.tenantId address.objectType address.objectId
        address.appId with
    | .error _ => {}
    | .ok found => { next := some (.stored (found.getD value) writerUserId) }
  | .stored object writerUserId =>
    match packObjectRecord feed.config.schema address.objectType address.objectId
        (withoutRecordId object) with
    | .error _ => {}
    | .ok packed =>
      let frame := FrickFrame.delta ⟨[packed], [], nowMs, none⟩
      if !feed.reaches w address then {}
      else if feed.config.policyHooks.isEmpty &&
          GatewayHub.upsertBaseline feed.config address.objectType object writerUserId
            feed.principal then
        { frame := some frame }
      else { next := some (.deferred object writerUserId frame) }
  | .deferred object writerUserId frame =>
    let perRecordActive := perRecordReadAuthzActive w.sharing
    if feed.config.policyHooks.isEmpty && !perRecordActive then {}
    else { next := some (.checking object writerUserId frame perRecordActive) }
  | .checking object writerUserId frame perRecordActive =>
    if feed.deferredAllowed w.sharing address object writerUserId perRecordActive then
      { next := some (.sending frame) }
    else {}
  | .deleted =>
    match GatewayHub.removalDelta feed.config.schema address.objectType address.objectId nowMs with
    | none => {}
    | some frame => if feed.reaches w address then { frame := some frame } else {}
  | .revoked =>
    match feed.store.read w.objects address.tenantId address.objectType address.objectId
        address.appId with
    | .ok (some object) =>
      match GatewayHub.removalDelta feed.config.schema address.objectType address.objectId
          nowMs with
      | none => {}
      | some frame => { next := some (.revokedRead object frame) }
    | _ => {}
  | .revokedRead object frame =>
    { next := some (.revokedProbed object frame (perRecordReadAuthzActive w.sharing)) }
  | .revokedProbed object frame perRecordActive =>
    if feed.reaches w address then { next := some (.rechecking object frame perRecordActive) }
    else {}
  | .rechecking object frame perRecordActive =>
    if feed.canRead w.sharing object perRecordActive none then {}
    else { next := some (.removing frame) }
  | .sending frame | .removing frame => { frame := some frame }

/-- The `n`-th task takes its turn. -/
def proceed (w : FeedWorld β) (n : Nat) (nowMs : Int) : FeedWorld β :=
  match w.tasks[n]? with
  | none => w
  | some task =>
    let outcome := feed.resume w task.address nowMs task.point
    let next := (outcome.next.map (FeedTask.mk task.address)).toList
    { w with
      tasks := w.tasks.take n ++ next ++ w.tasks.drop (n + 1)
      sent := w.sent ++ outcome.frame.toList }

/-- The frame that answers the subscription with the given rows. -/
def snapshot (rows : List Value) : FrickFrame :=
  GatewayHub.subscribeReply feed.config feed.payload { rows := rows }

/-- The read of `handle_subscribe`, with `unwrap_or_default`. -/
def listRows (w : FeedWorld β) : List Value :=
  (feed.store.list w.objects feed.principal.tenantId feed.objectType feed.appId).toOption.getD []

/-- `handle_subscribe` from one await point to the next. -/
def advance (w : FeedWorld β) : FeedWorld β :=
  match w.stage with
  | .absent => { w with stage := .registered }
  | .registered => { w with stage := .listed (feed.listRows w) }
  | .listed rows => { w with stage := .checking (perRecordReadAuthzActive w.sharing) rows [] }
  | .checking perRecordActive (row :: rest) visible =>
    let visible :=
      if feed.canRead w.sharing row perRecordActive none then visible ++ [row] else visible
    { w with stage := .checking perRecordActive rest visible }
  | .checking _ [] visible => { w with stage := .live, sent := w.sent ++ [feed.snapshot visible] }
  | .live => w

/-- A write or a change of the grants up to its commit, or a task goes on. -/
def step (w : FeedWorld β) : FeedLabel → FeedWorld β
  | .upsert write =>
    match write.commit feed.store w.objects with
    | .error _ => w
    | .ok objects =>
      { w with
        objects
        tasks := w.tasks ++ [⟨write.address, .written write.value write.writerUserId⟩] }
  | .delete address =>
    let deleted := ObjectStore.delete w.objects address.tenantId address.objectType
      address.objectId address.appId
    { w with
      objects := deleted.1
      tasks := if deleted.2 then w.tasks ++ [⟨address, .deleted⟩] else w.tasks }
  | .createGrant grant =>
    match w.sharing.createGrant grant with
    | .error _ => w
    | .ok (sharing, _) => { w with sharing }
  | .revokeGrant tenantId grantId now =>
    match w.sharing.revokeGrant tenantId grantId now with
    | (sharing, none) => { w with sharing }
    | (sharing, some grant) =>
      { w with
        sharing
        tasks := w.tasks ++
          [⟨⟨tenantId, defaultAppId, grant.recordType, grant.recordId⟩, .revoked⟩] }
  | .proceed n nowMs => feed.proceed w n nowMs
  | .subscribe => feed.advance w

/-- The Snapshot that a subscription made now would be answered with, all at once. -/
def freshSnapshot (w : FeedWorld β) : FrickFrame :=
  feed.snapshot ((feed.listRows w).filter fun object =>
    feed.canRead w.sharing object (perRecordReadAuthzActive w.sharing) none)

end ObjectFeed

end Frick.Sync
