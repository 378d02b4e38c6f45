import Frick.Protocol.Frame
import Frick.Server.Objects

/-!
# The WebSocket gateway

`gateway.rs`. The hub holds the live connections behind one mutex; every function here is what one
lock section, or a chain of them without an await point in between, does to the hub. A handler that
awaits the store is cut at its await points: `FrameTask` says where the connection's task stands,
`receive` runs a frame's handler up to the first await, and the `resume…` functions continue it with
what the awaited call returned.

A connection's outbound channel is kept as everything ever enqueued on it. Two directions of a
connection's life matter for what it is sent: inbound frames re-read the session
(`activePrincipalForFrame`), while the fan-out paths only compare the principal, app and
subscriptions that the connection carries.
-/

namespace Frick.Server

open Framework Protocol Store

/-! ## Connections -/

inductive Outbound where
  | frame (frame : FrickFrame)
  | close (code : Nat) (reason : String)
  deriving DecidableEq

structure SubKey where
  subscriptionId : String
  kind : SubscriptionKind
  name : String
  key : Option String
  deriving DecidableEq

/-- Where the task of a connection stands between two await points. -/
inductive FrameTask where
  /-- Waiting for the next inbound frame. -/
  | idle
  /-- `handle_hello` before it reads the session. -/
  | hello (payload : HelloPayload)
  /-- `handle_hello` with the session read. -/
  | helloRead (payload : HelloPayload) (authed : Except ServerError Principal)
  /-- `active_principal_for_frame` before it reads the session. -/
  | revalidate (frame : FrickFrame)
  /-- `active_principal_for_frame` with the session read. -/
  | revalidated (frame : FrickFrame) (active : Except ServerError Principal)
  /-- `handle_subscribe` before it reads the rows or the page. -/
  | read (payload : SubscribePayload) (principal : Principal)
  /-- `handle_subscribe` with its answer ready to send. -/
  | reply (frame : FrickFrame)
  /-- The inbound loop has ended. -/
  | closing
  deriving DecidableEq

/-- `Connection`, with its id in the hub and the state of its task. `outbound` is everything
enqueued so far. -/
structure Connection where
  id : Nat
  principal : Option Principal
  sessionToken : Option String
  appId : String
  handshakeComplete : Bool
  subscriptions : List SubKey
  outbound : List Outbound
  task : FrameTask
  deriving DecidableEq

abbrev ConnectionTable := Table Connection.id

/-- `GatewayHub` with `HubInner`. A count that reaches zero is removed from its map, so a map is a
function with value zero where it has no entry. -/
structure GatewayHub where
  connections : ConnectionTable
  perPrincipal : String → Nat
  tenantSubscriberCounts : String → Nat
  nextId : Nat

def GatewayHub.new : GatewayHub := ⟨Table.empty _, fun _ => 0, fun _ => 0, 1⟩

/-- The schema and app a `Hello` was matched with. -/
structure HelloTarget where
  appId : String
  schema : FrickSchema

/-- What the gateway reads of the configuration and the app registry. `negotiate` is the app
routing and schema compatibility of `handle_hello`: a `Nack`, or the app and schema it matched. -/
structure GatewayConfig where
  schema : FrickSchema
  negotiate : HelloPayload → Except FrickErrorEnvelope HelloTarget
  knowsProjection : String → String → Bool
  policyHooks : List PolicyHook
  objectVisibilityMode : ObjectVisibilityMode
  maxWebSocketConnections : Nat
  maxConnectionsPerPrincipal : Int
  maxSubscriptionsPerConnection : Int
  maxStreamPageSize : Nat

/-- A gateway of one app, with room for ten of everything. -/
def GatewayConfig.ofSchema (schema : FrickSchema) : GatewayConfig :=
  ⟨schema, fun _ => .ok ⟨defaultAppId, schema⟩, fun _ _ => false, [], .ownerScoped, 10, 10, 10, 10⟩

def policyViolation : Nat := 1008

def tryAgainLater : Nat := 1013

namespace Connection

def enqueue (connection : Connection) (message : Outbound) : Connection :=
  { connection with outbound := connection.outbound ++ [message] }

/-- The tenant and app filter of every fan-out. -/
def inPartition (connection : Connection) (tenantId appId : String) : Bool :=
  match connection.principal with
  | none => false
  | some principal =>
    principal.isActiveCheap && principal.tenantId = tenantId && connection.appId = appId

/-- The subscription filter of the fan-outs; without a key every subscription to the name
matches. -/
def subscribes (connection : Connection) (kind : SubscriptionKind) (name : String)
    (key : Option String) : Bool :=
  connection.subscriptions.any fun sub =>
    sub.kind = kind && sub.name = name && (key = none || sub.key = key)

end Connection

namespace GatewayHub

variable (hub : GatewayHub)

/-! ## The connection map -/

section

variable (config : GatewayConfig) (connection : Connection) (id : Nat)

/-- `connections.get_mut(&id)`, for an update that keeps the id. -/
def modify (f : Connection → Connection) (hf : ∀ c, (f c).id = c.id) : GatewayHub :=
  { hub with connections := hub.connections.updateWhere (fun c => c.id = id) f hf }

def sendFrame (frame : FrickFrame) : GatewayHub :=
  hub.modify id (fun c => c.enqueue (.frame frame)) fun _ => rfl

def sendClose (code : Nat) (reason : String) : GatewayHub :=
  hub.modify id (fun c => c.enqueue (.close code reason)) fun _ => rfl

def setConnectionPrincipal (principal : Principal) : GatewayHub :=
  hub.modify id (fun c => { c with principal := some principal }) fun _ => rfl

def setTask (task : FrameTask) : GatewayHub :=
  hub.modify id (fun c => { c with task }) fun _ => rfl

/-- `add_subscription`: it replaces an entry with the same subscription id. -/
def addSubscription (sub : SubKey) : GatewayHub :=
  hub.modify id (fun c => { c with
    subscriptions :=
      (c.subscriptions.filter fun existing => existing.subscriptionId ≠ sub.subscriptionId) ++
        [sub] }) fun _ => rfl

def removeSubscription (subscriptionId : String) : GatewayHub :=
  hub.modify id (fun c => { c with
    subscriptions :=
      c.subscriptions.filter fun existing => existing.subscriptionId ≠ subscriptionId })
    fun _ => rfl

/-! ## Nacks -/

def simpleNack (code : FrickErrorCode) (message requestId : String) (retryable : Bool)
    (details : Option Value) (schema : Option FrickSchema) : FrickFrame :=
  .nack ⟨code, message, requestId, retryable, details, schema.map FrickSchema.hash,
    schema.map FrickSchema.schemaRevision⟩

/-- The `details` of a nack with one text field. -/
def reasonDetails (reason : String) : Option Value :=
  some (.map [(.string "reason", .string reason)])

/-- The `details` of a nack about a configured limit. -/
def limitDetails (limit : String) (configuredMax : Int) : Option Value :=
  some (.map [(.string "limit", .string limit), (.string "configuredMax", .integer configuredMax)])

def sendAuthNack (requestId : String) (reason : DenyReason) (publicMessage : String) : GatewayHub :=
  let code := if reason = .unauthenticated then FrickErrorCode.authUnauthenticated
    else .authForbidden
  hub.sendFrame id (simpleNack code publicMessage requestId false (reasonDetails reason.asStr) none)

/-- `send_hello_auth_nack`; the connection closes afterwards. -/
def sendHelloAuthNack (code : FrickErrorCode) (message reason : String) : GatewayHub :=
  ((hub.sendFrame id
    (simpleNack code message "hello" false (reasonDetails reason) none)).sendClose id
    policyViolation message).setTask id .closing

def principalCapNack (requestId : String) (configuredMax : Int) : FrickFrame :=
  simpleNack .rateLimitExceeded "Maximum connections per principal exceeded" requestId true
    (limitDetails "maxConnectionsPerPrincipal" configuredMax) none

/-! ## Registration -/

def bumpTenantCount (counts : String → Nat) (tenantId : String) (delta : Int) : String → Nat :=
  fun tenant => if tenant = tenantId then (counts tenant + delta).toNat else counts tenant

/-- `*per_principal.entry(key).or_insert(0) += 1`. -/
def takePrincipalSlot (counts : String → Nat) (key : String) : String → Nat :=
  fun k => if k = key then counts k + 1 else counts k

def releasePrincipalSlot (counts : String → Nat) (key : String) : String → Nat :=
  fun k => if k = key then counts k - 1 else counts k

/-- The `Connection` that `run_connection` builds. -/
def freshConnection (principal : Option Principal) (bearer : Option String) : Connection where
  id := id
  principal := principal
  sessionToken := bearer
  appId := defaultAppId
  handshakeComplete := false
  subscriptions := []
  outbound := []
  task := .idle

def register (principal : Option Principal) (bearer : Option String) : GatewayHub where
  connections := hub.connections.upsert (freshConnection hub.nextId principal bearer)
  perPrincipal := match principal with
    | some p => takePrincipalSlot hub.perPrincipal p.connectionKey
    | none => hub.perPrincipal
  tenantSubscriberCounts := match principal with
    | some p => bumpTenantCount hub.tenantSubscriberCounts p.tenantId 1
    | none => hub.tenantSubscriberCounts
  nextId := hub.nextId + 1

/-- `run_connection` up to the inbound loop: the two caps, then `register`. -/
def runConnection (principal : Option Principal) (bearer : Option String) : GatewayHub :=
  if config.maxWebSocketConnections ≤ hub.connections.rows.length then hub
  else match principal with
    | some p =>
      if config.maxConnectionsPerPrincipal ≤ hub.perPrincipal p.connectionKey then hub
      else hub.register principal bearer
    | none => hub.register principal bearer

def unregister : GatewayHub :=
  match hub.connections.find? id with
  | none => hub
  | some connection =>
    let connections := hub.connections.deleteWhere fun c => c.id = id
    match connection.principal with
    | none => { hub with connections }
    | some p =>
      { hub with
        connections
        perPrincipal := releasePrincipalSlot hub.perPrincipal p.connectionKey
        tenantSubscriberCounts := bumpTenantCount hub.tenantSubscriberCounts p.tenantId (-1) }

/-! ## Hello -/

/-- `reserve_hello_principal`; `none` when the principal is at its cap. -/
def reserveHelloPrincipal (principal : Principal) : Option GatewayHub :=
  let key := principal.connectionKey
  let previousKey := connection.principal.map Principal.connectionKey
  if previousKey = some key then some hub
  else if config.maxConnectionsPerPrincipal ≤ hub.perPrincipal key then none
  else
    let released := match previousKey with
      | some previous => releasePrincipalSlot hub.perPrincipal previous
      | none => hub.perPrincipal
    some { hub with perPrincipal := takePrincipalSlot released key }

lemma connections_reserveHelloPrincipal {config : GatewayConfig} {hub reserved : GatewayHub}
    {connection : Connection} {p : Principal}
    (h : hub.reserveHelloPrincipal config connection p = some reserved) :
    reserved.connections = hub.connections := by
  unfold reserveHelloPrincipal at h
  dsimp only at h
  split_ifs at h
  · rw [← Option.some.inj h]
  · rw [← Option.some.inj h]

/-- The tenant counts after `apply_tenant_transitions` for a `Hello`. -/
def helloTenantCounts (previous : Option Principal) (principal : Principal) : String → Nat :=
  match previous with
  | none => bumpTenantCount hub.tenantSubscriberCounts principal.tenantId 1
  | some before =>
    if before.tenantId = principal.tenantId then hub.tenantSubscriberCounts
    else bumpTenantCount (bumpTenantCount hub.tenantSubscriberCounts before.tenantId (-1))
      principal.tenantId 1

/-- What a successful `Hello` sets on the connection; its handler awaits nothing after this. -/
def attach (authed : Option (Principal × String)) (appId : String) : GatewayHub :=
  hub.modify id (fun c => { c with
    principal := (authed.map Prod.fst).or c.principal
    sessionToken := (authed.map Prod.snd).or c.sessionToken
    appId
    handshakeComplete := true
    task := .idle }) fun _ => rfl

/-- `handle_hello` after its authentication: negotiate, then attach and acknowledge. -/
def completeHello (payload : HelloPayload) (authed : Option (Principal × String)) : GatewayHub :=
  let id := connection.id
  match config.negotiate payload with
  | .error envelope => (hub.sendFrame id (.nack envelope)).setTask id .idle
  | .ok target =>
    let counts := match authed with
      | some (principal, _) => hub.helloTenantCounts connection.principal principal
      | none => hub.tenantSubscriberCounts
    let attached := { hub with tenantSubscriberCounts := counts }.attach id authed target.appId
    let acked := attached.sendFrame id
      (.helloAck ⟨target.schema.hash, target.schema.schemaId, target.schema.schemaRevision⟩)
    acked.sendFrame id (.schema target.schema)

/-- `handle_hello` with the session of its token read. -/
def resumeHello (payload : HelloPayload)
    (token : String) (authed : Except ServerError Principal) : GatewayHub :=
  let id := connection.id
  match authed with
  | .error _ =>
    hub.sendHelloAuthNack id .authUnauthenticated "Invalid session token" "unauthenticated"
  | .ok principal =>
    if connection.principal.any fun existing => !samePrincipal existing principal then
      hub.sendHelloAuthNack id .authForbidden
        "Hello session token does not match the connection principal" "notAuthorizedForResource"
    else match hub.reserveHelloPrincipal config connection principal with
      | none =>
        ((hub.sendFrame id (principalCapNack "hello" config.maxConnectionsPerPrincipal)).sendClose
          id tryAgainLater "connection limit exceeded").setTask id .closing
      | some reserved => reserved.completeHello config connection payload (some (principal, token))

/-- `handle_hello`, run without interruption; `session` is what the session of its token turns out
to be. -/
def handleHello (payload : HelloPayload) (session : Except ServerError Principal) : GatewayHub :=
  match hub.connections.find? id with
  | none => hub
  | some connection =>
    match payload.sessionToken with
    | some token => hub.resumeHello config connection payload token session
    | none => hub.completeHello config connection payload none

/-! ## Re-validation of the session -/

/-- `active_principal_for_frame` with the session read; `none` stands for a connection without a
token, whose tenant alone is checked. -/
def activePrincipalForFrame (requestId : String) (principal : Principal)
    (active : Option (Except ServerError Principal)) : GatewayHub × Option Principal :=
  match active with
  | some (.ok current) =>
    if samePrincipal principal current then
      (hub.setConnectionPrincipal id current, some current)
    else
      ((hub.sendAuthNack id requestId .notAuthorizedForResource
        "Session principal changed").sendClose id policyViolation "Session principal changed", none)
  | some (.error err) =>
    let message := match err with
      | .sessionExpired => "Session expired"
      | .authentication message => message
      | _ => "Invalid session"
    ((hub.sendFrame id (simpleNack .authUnauthenticated message requestId false
      (reasonDetails "unauthenticated") none)).sendClose id policyViolation message, none)
  | none =>
    if principal.isActiveCheap then (hub, some principal)
    else ((hub.sendAuthNack id requestId .unauthenticated "Tenant is archived").sendClose id
      policyViolation "Tenant is archived", none)

def preHelloRequestId : FrickFrame → String
  | .subscribe payload => payload.subscriptionId
  | .cursorCommit subscriptionId _ => subscriptionId
  | .append requestId | .objectUpsert requestId | .presenceSet requestId | .presenceClear requestId
  | .signalSend requestId => requestId
  | _ => "pre-hello"

/-- The request id a handler passes to `active_principal_for_frame`. -/
def requestIdOf : FrickFrame → String
  | .callCommand requestId => requestId
  | frame => preHelloRequestId frame

/-! ## Subscribe -/

def subscribeAction : SubscriptionKind → Action
  | .object => .objectRead
  | .stream => .streamRead
  | .presence => .presenceRead
  | .signal => .signalRead
  | .projection => .projectionRead

def subscribeBaseline (principal : Principal) (kind : SubscriptionKind) : Decision :=
  decideBaseline principal (subscribeAction kind) ⟨principal.tenantId, none⟩

/-- `handle_subscribe` once the principal is re-validated, up to the read of its answer. -/
def resumeSubscribe (payload : SubscribePayload) (principal : Principal) : GatewayHub :=
  let baseline := subscribeBaseline principal payload.kind
  let decision := if payload.kind = .projection then
      applyPolicyHooks baseline ⟨principal, .projectionRead,
        ⟨"projection", some payload.name, payload.key, none, none, principal.tenantId⟩, none⟩
        config.policyHooks
    else baseline
  match decision with
  | .deny reason publicMessage =>
    ((hub.removeSubscription id payload.subscriptionId).sendAuthNack id payload.subscriptionId
      reason publicMessage).setTask id .idle
  | .allow =>
    match payload.kind with
    | .presence | .signal => hub.setTask id .idle
    | .object | .projection => hub.setTask id (.read payload principal)
    | .stream =>
      if payload.key.isSome then hub.setTask id (.read payload principal)
      else ((hub.removeSubscription id payload.subscriptionId).sendFrame id
        (simpleNack .syncProtocolError "Stream subscription requires a key"
          payload.subscriptionId false none none)).setTask id .idle

/-- A re-validated frame. What a write, presence, signal or call frame does next is a store call,
whose fan-out is a step of its own. -/
def resumeFrame (frame : FrickFrame)
    (principal : Principal) (active : Option (Except ServerError Principal)) : GatewayHub :=
  let id := connection.id
  match hub.activePrincipalForFrame id (requestIdOf frame) principal active, frame with
  | (denied, none), .subscribe payload =>
    (denied.removeSubscription id payload.subscriptionId).setTask id .idle
  | (denied, none), _ => denied.setTask id .idle
  | (validated, some current), .subscribe payload =>
    validated.resumeSubscribe config id payload current
  | (validated, some _), _ => validated.setTask id .idle

/-- `active_principal_for_frame` up to the session read, for a frame that needs a principal. -/
def beginFrame (frame : FrickFrame) : GatewayHub :=
  let id := connection.id
  match connection.principal, connection.sessionToken with
  | some _, some _ => hub.setTask id (.revalidate frame)
  | some principal, none => hub.resumeFrame config connection frame principal none
  | none, _ =>
    let nacked := hub.sendAuthNack id (requestIdOf frame) .unauthenticated "Missing session token"
    match frame with
    | .subscribe payload => nacked.removeSubscription id payload.subscriptionId
    | _ => nacked

/-- `handle_subscribe` up to the session read. The subscription is registered before the
session is re-validated. -/
def beginSubscribe (payload : SubscribePayload) : GatewayHub :=
  let id := connection.id
  let already := connection.subscriptions.any fun sub =>
    sub.subscriptionId = payload.subscriptionId
  let denied := (connection.principal.map fun principal =>
    subscribeBaseline principal payload.kind).getD .allow
  if ¬already ∧ config.maxSubscriptionsPerConnection ≤ connection.subscriptions.length then
    hub.sendFrame id (simpleNack .rateLimitExceeded "Maximum subscriptions per connection exceeded"
      payload.subscriptionId false
      (limitDetails "maxSubscriptionsPerConnection" config.maxSubscriptionsPerConnection) none)
  else if payload.kind = .projection ∧ ¬config.knowsProjection connection.appId payload.name then
    hub.sendFrame id (simpleNack .authForbidden ("Unknown projection " ++ payload.name)
      payload.subscriptionId false
      (some (.map [(.string "reason", .string "projectionNotFound"),
        (.string "projection", .string payload.name)])) none)
  else match denied with
    | .deny reason publicMessage => hub.sendAuthNack id payload.subscriptionId reason publicMessage
    | .allow =>
      (hub.addSubscription id ⟨payload.subscriptionId, payload.kind, payload.name,
        payload.key⟩).beginFrame config connection (.subscribe payload)

/-- `handle_subscribe` up to its answer, run without interruption; `session` is what the session
turns out to be, if it is read. -/
def handleSubscribe (payload : SubscribePayload) (session : Except ServerError Principal) :
    GatewayHub :=
  let begun := hub.beginSubscribe config connection payload
  let waits := (begun.connections.find? connection.id).any fun c =>
    c.task = .revalidate (.subscribe payload)
  match connection.principal, connection.sessionToken with
  | some principal, some _ =>
    if waits then begun.resumeFrame config connection (.subscribe payload) principal (some session)
    else begun
  | _, _ => begun

/-- The page of `handle_subscribe` for the events the store returned past the cursor, at most one
more than a page holds. -/
def streamPage (payload : SubscribePayload) (events : List StreamEventInput) : StreamPagePayload :=
  let cursor := payload.cursor.getD 0
  let packed := (events.take config.maxStreamPageSize).filterMap fun event =>
    (packStreamEvent config.schema event).toOption
  { subscriptionId := payload.subscriptionId
    events := packed
    cursor := (packed.getLast?.map PackedStreamEvent.sequence).getD cursor
    hasMore := config.maxStreamPageSize < events.length }

def packObjectRows (schema : FrickSchema) (objectType : String) (rows : List Value) :
    List PackedRecord :=
  rows.filterMap fun value =>
    (packObjectRecord schema objectType ((objectRecordId value).getD "")
      (withoutRecordId value)).toOption

/-- What the store answered to the read of a subscription. -/
structure SubscribeRead where
  events : List StreamEventInput := []
  rows : List Value := []
  changes : List (String × Value) := []

def subscribeReply (payload : SubscribePayload) (answer : SubscribeRead) : FrickFrame :=
  match payload.kind with
  | .stream => .streamPage (streamPage config payload answer.events)
  | .projection => .projectionDelta ⟨payload.name, answer.changes⟩
  | _ =>
    .snapshot ⟨payload.subscriptionId, packObjectRows config.schema payload.name answer.rows, 0⟩

/-! ## Inbound frames -/

/-- The handlers behind the handshake gate of `dispatch`; other frame kinds are ignored. -/
def dispatchSynced (frame : FrickFrame) : GatewayHub :=
  match frame with
  | .subscribe payload => hub.beginSubscribe config connection payload
  | .append _ | .objectUpsert _ | .presenceSet _ | .presenceClear _ | .signalSend _
  | .callCommand _ => hub.beginFrame config connection frame
  | .cursorCommit subscriptionId cursor =>
    hub.sendFrame connection.id (.ack subscriptionId (some cursor) none)
  | _ => hub

/-- `dispatch` up to the first await point. Frames of one connection are handled one after the
other, so a frame that arrives while the task is busy waits. -/
def receive (frame : FrickFrame) (nowMs : Int) : GatewayHub :=
  match hub.connections.find? id with
  | none => hub
  | some connection =>
    if connection.task ≠ .idle then hub
    else match frame with
      | .hello payload =>
        match payload.sessionToken with
        | some _ => hub.setTask id (.hello payload)
        | none => hub.completeHello config connection payload none
      | .ping sentAt => hub.sendFrame id (.pong sentAt nowMs)
      | frame =>
        match connection.handshakeComplete with
        | true => hub.dispatchSynced config connection frame
        | false =>
          hub.sendFrame id (simpleNack .syncProtocolError
            "Hello handshake required before sync frames" (preHelloRequestId frame) false
            (reasonDetails "handshakeRequired") (some config.schema))

/-! ## Fan-out -/

/-- `broadcast_to_subscribers`, and the loop of `fan_out_signal_local`. -/
def broadcastToSubscribers (kind : SubscriptionKind) (name : String) (key : Option String)
    (tenantId appId : String) (frame : FrickFrame) : GatewayHub :=
  { hub with
    connections := hub.connections.updateWhere
      (fun c => c.inPartition tenantId appId && c.subscribes kind name key)
      (fun c => c.enqueue (.frame frame)) fun _ => rfl }

/-- A delivery that a detached task decides later: it holds the channel of the connection. -/
structure Deferred where
  connectionId : Nat
  principal : Principal
  frame : FrickFrame

/-- The subscribers that a fan-out hands to its detached task. -/
def deferredFor (p : Connection → Bool) (frame : FrickFrame) : List Deferred :=
  (hub.connections.rows.filter p).filterMap fun c =>
    c.principal.map fun principal => ⟨c.id, principal, frame⟩

/-- The baseline of `fan_out_object_upsert`. -/
def upsertBaseline (objectType : String) (object : Value)
    (writerUserId : Option String) (principal : Principal) : Bool :=
  writerUserId = some principal.userId || principal.isAdmin ||
    isObjectVisibleToUser config.objectVisibilityMode (ownerFieldForType config.schema objectType)
      object principal.userId

/-- `fan_out_object_upsert`: delivered at once to the subscribers the ownership baseline lets see
the object, left to a detached task for the others, and for all of them if there are policy
hooks. -/
def fanOutObjectUpsert (tenantId appId objectType objectId : String)
    (object : Value) (writerUserId : Option String) (nowMs : Int) : GatewayHub × List Deferred :=
  match packObjectRecord config.schema objectType objectId (withoutRecordId object) with
  | .error _ => (hub, [])
  | .ok packed =>
    let frame := FrickFrame.delta ⟨[packed], [], nowMs, none⟩
    let matching : Connection → Bool := fun c =>
      c.inPartition tenantId appId && c.subscribes .object objectType none
    let inline : Connection → Bool := fun c =>
      matching c && config.policyHooks.isEmpty &&
        c.principal.any (upsertBaseline config objectType object writerUserId)
    ({ hub with
        connections := hub.connections.updateWhere inline (fun c => c.enqueue (.frame frame))
          fun _ => rfl },
      hub.deferredFor (fun c => matching c && !inline c) frame)

/-- The removal of a record from a subscriber's view. -/
def removalDelta (schema : FrickSchema) (objectType objectId : String) (nowMs : Int) :
    Option FrickFrame :=
  (packObjectRecord schema objectType objectId (.map [])).toOption.map fun tombstone =>
    .delta ⟨[tombstone], [], nowMs, some [⟨objectType, objectId⟩]⟩

lemma removalDelta_isSome_iff (schema : FrickSchema) (type objectId : String) (nowMs : Int) :
    (removalDelta schema type objectId nowMs).isSome ↔ (objectByName schema type).isOk := by
  unfold removalDelta packObjectRecord
  cases objectByName schema type with
  | error => exact iff_of_false Bool.false_ne_true Bool.false_ne_true
  | ok object =>
    exact iff_of_true rfl rfl

def fanOutObjectDelete (tenantId appId objectType objectId : String) (nowMs : Int) : GatewayHub :=
  match removalDelta config.schema objectType objectId nowMs with
  | none => hub
  | some frame => hub.broadcastToSubscribers .object objectType none tenantId appId frame

/-- `fan_out_object_visibility_revoked`: every subscriber to the type is looked at again, one by
one, and sent the removal if it cannot read the row any more. -/
def fanOutObjectVisibilityRevoked
    (tenantId appId objectType objectId : String) (nowMs : Int) : List Deferred :=
  match removalDelta config.schema objectType objectId nowMs with
  | none => []
  | some frame => hub.deferredFor
      (fun c => c.inPartition tenantId appId && c.subscribes .object objectType none) frame

/-- The frame of `fan_out_stream_append`; an event that does not pack has none. -/
def streamDelta (event : StreamEventInput) : Option FrickFrame :=
  match packStreamEvent config.schema event with
  | .error _ => none
  | .ok packed => some (.delta ⟨[], [packed], event.sequence, none⟩)

def fanOutStreamAppend (tenantId appId : String) (event : StreamEventInput) : GatewayHub :=
  match streamDelta config event with
  | none => hub
  | some frame =>
    hub.broadcastToSubscribers .stream event.stream (some event.streamId) tenantId appId frame

/-- The presence frames one connection gets, one for each of its matching subscriptions. -/
def presenceFrames (name key : String) (records : List PackedKeyedRecord) (cleared : List String)
    (connection : Connection) : List Outbound :=
  (connection.subscriptions.filter fun sub =>
    sub.kind = .presence && sub.name = name && sub.key = some key).map fun sub =>
      .frame (.presenceDelta ⟨sub.subscriptionId, records, cleared⟩)

def fanOutPresenceDelta (tenantId appId name key : String)
    (records : List (String × Value)) (cleared : List String) : GatewayHub :=
  let packed := (records.filter fun record => record.2 ≠ .nil).filterMap fun record =>
    (packPresenceRecord config.schema name record.1 record.2).toOption
  { hub with
    connections := hub.connections.updateWhere (fun c => c.inPartition tenantId appId)
      (fun c => { c with outbound := c.outbound ++ presenceFrames name key packed cleared c })
      fun _ => rfl }

/-- `fan_out_presence`: a set has a value, a clear says so. -/
def fanOutPresence (tenantId appId name key : String) (value : Option Value)
    (cleared : Bool) : GatewayHub :=
  hub.fanOutPresenceDelta config tenantId appId name key
    (value.toList.map fun value => (key, value))
    (if cleared then [key] else [])

def fanOutSignalLocal (tenantId appId name key : String) (value : Value) : GatewayHub :=
  match packSignalEnvelope config.schema name key value with
  | .error _ => hub
  | .ok envelope =>
    hub.broadcastToSubscribers .signal name (some key) tenantId appId (.signalDeliver envelope)

/-- What is fanned out, whoever wrote it and on whichever node: a `FrickStoreWriteEvent`, a
revoked grant, a presence change or a signal. -/
inductive Publication where
  | objectUpsert (tenantId appId objectType objectId : String) (object : Value)
      (writerUserId : Option String)
  | objectDelete (tenantId appId objectType objectId : String)
  | visibilityRevoked (tenantId appId objectType objectId : String)
  | streamAppend (tenantId appId : String) (event : StreamEventInput)
  | presence (tenantId appId name key : String) (records : List (String × Value))
      (cleared : List String)
  | signal (tenantId appId name key : String) (value : Value)

/-- `handle_store_write`, `fan_out_presence` and `fan_out_signal`: what is enqueued at once, and
what is left to detached tasks. -/
def publish (publication : Publication) (nowMs : Int) : GatewayHub × List Deferred :=
  match publication with
  | .objectUpsert tenantId appId objectType objectId object writerUserId =>
    hub.fanOutObjectUpsert config tenantId appId objectType objectId object writerUserId nowMs
  | .objectDelete tenantId appId objectType objectId =>
    (hub.fanOutObjectDelete config tenantId appId objectType objectId nowMs, [])
  | .visibilityRevoked tenantId appId objectType objectId =>
    (hub, hub.fanOutObjectVisibilityRevoked config tenantId appId objectType objectId nowMs)
  | .streamAppend tenantId appId event => (hub.fanOutStreamAppend config tenantId appId event, [])
  | .presence tenantId appId name key records cleared =>
    (hub.fanOutPresenceDelta config tenantId appId name key records cleared, [])
  | .signal tenantId appId name key value =>
    (hub.fanOutSignalLocal config tenantId appId name key value, [])

end

/-! ## What the connections carry

`Every` carries a property of the principal, the session token and the task of each connection
through the functions above. -/

/-- The property holds of the principal, the token and the task of every connection. -/
def Every (Q : Option Principal → Option String → FrameTask → Prop) : Prop :=
  ∀ c ∈ hub.connections, Q c.principal c.sessionToken c.task

/-- The task holds no session that was read for a `Hello`. -/
def Quiet (task : FrameTask) : Prop := ∀ payload authed, task ≠ .helloRead payload authed

section Every

variable {hub} {Q : Option Principal → Option String → FrameTask → Prop} {config : GatewayConfig}
  {id : Nat} {connection : Connection}

section

variable (h : hub.Every Q)
include h

variable {f : Connection → Connection} {hf : ∀ c, (f c).id = c.id}

lemma every_modify
    (hf' : ∀ c ∈ hub.connections, c.id = id → Q c.principal c.sessionToken c.task →
      Q (f c).principal (f c).sessionToken (f c).task) : (hub.modify id f hf).Every Q := by
  intro c hc
  obtain ⟨before, hpre, rfl⟩ := (Table.mem_updateWhere hf).mp hc
  by_cases hid : before.id = id
  · rw [if_pos (decide_eq_true hid)]
    exact hf' before hpre hid (h before hpre)
  · rw [if_neg (by simpa using hid)]
    exact h before hpre

lemma every_updateWhere {p : Connection → Bool}
    (hkeep : ∀ c, (f c).principal = c.principal ∧ (f c).sessionToken = c.sessionToken ∧
      (f c).task = c.task) :
    ({ hub with connections := hub.connections.updateWhere p f hf } : GatewayHub).Every Q := by
  intro c hc
  obtain ⟨before, hpre, rfl⟩ := (Table.mem_updateWhere hf).mp hc
  obtain ⟨hprin, htoken, htask⟩ := hkeep before
  split_ifs
  · rw [hprin, htoken, htask]
    exact h before hpre
  · exact h before hpre

lemma every_sendFrame (id : Nat) (frame : FrickFrame) : (hub.sendFrame id frame).Every Q :=
  every_modify h fun _ _ _ hc => hc

lemma every_sendClose (id code : Nat) (reason : String) : (hub.sendClose id code reason).Every Q :=
  every_modify h fun _ _ _ hc => hc

lemma every_addSubscription (id : Nat) (sub : SubKey) : (hub.addSubscription id sub).Every Q :=
  every_modify h fun _ _ _ hc => hc

lemma every_removeSubscription (id : Nat) (subId : String) :
    (hub.removeSubscription id subId).Every Q :=
  every_modify h fun _ _ _ hc => hc

lemma every_sendAuthNack (id : Nat) (requestId : String) (reason : DenyReason)
    (publicMessage : String) : (hub.sendAuthNack id requestId reason publicMessage).Every Q :=
  every_sendFrame h id _

lemma every_publish (config : GatewayConfig) (pub : Publication)
    (nowMs : Int) : (hub.publish config pub nowMs).1.Every Q := by
  have hcast : ∀ kind name key tenantId appId frame,
      (hub.broadcastToSubscribers kind name key tenantId appId frame).Every Q :=
    fun _ _ _ _ _ _ => every_updateWhere h fun _ => ⟨rfl, rfl, rfl⟩
  cases pub with
  | objectUpsert =>
    simp only [publish, fanOutObjectUpsert]
    split
    · exact h
    · exact every_updateWhere h fun _ => ⟨rfl, rfl, rfl⟩
  | objectDelete =>
    simp only [publish, fanOutObjectDelete]
    split
    · exact h
    · exact hcast _ _ _ _ _ _
  | visibilityRevoked => exact h
  | streamAppend =>
    simp only [publish, fanOutStreamAppend]
    split
    · exact h
    · exact hcast _ _ _ _ _ _
  | presence => exact every_updateWhere h fun _ => ⟨rfl, rfl, rfl⟩
  | signal _ _ _ _ _ =>
    simp only [publish, fanOutSignalLocal]
    split
    · exact h
    · exact hcast _ _ _ _ _ _

omit h in
lemma connections_unregister (hub : GatewayHub) (id : Nat) :
    (hub.unregister id).connections = hub.connections.deleteWhere fun c => c.id = id := by
  unfold unregister
  split
  next hnone =>
    refine (Table.deleteWhere_of_forall fun c hc => decide_eq_false ?_).symm
    exact Table.find?_eq_none_iff.mp hnone c hc
  · dsimp only
    split <;> rfl

lemma every_unregister (id : Nat) : (hub.unregister id).Every Q := by
  intro c hc
  rw [connections_unregister] at hc
  exact h c (Table.mem_deleteWhere.mp hc).1

lemma every_runConnection (config : GatewayConfig) {p : Option Principal}
    {bearer : Option String} (hnew : Q p bearer .idle) :
    (hub.runConnection config p bearer).Every Q := by
  have hregister : (hub.register p bearer).Every Q := by
    intro c hc
    rcases Table.mem_upsert.mp hc with rfl | ⟨hc, _⟩
    · exact hnew
    · exact h c hc
  unfold runConnection
  split_ifs
  · exact h
  split
  · split_ifs
    · exact h
    · exact hregister
  · exact hregister

end

/-- The property does not depend on where a task stands that holds no read session. -/
def QuietStable (Q : Option Principal → Option String → FrameTask → Prop) : Prop :=
  ∀ principal token task task', Quiet task' → Q principal token task → Q principal token task'

variable (hquiet : QuietStable Q)

include hquiet

section

variable (h : hub.Every Q)
include h

lemma every_setTask (id : Nat) {task : FrameTask} (htask : Quiet task) :
    (hub.setTask id task).Every Q :=
  every_modify h fun _ _ _ hc => hquiet _ _ _ _ htask hc

lemma every_setTask_idle (id : Nat) : (hub.setTask id .idle).Every Q :=
  every_setTask hquiet h id fun _ _ => nofun

lemma every_sendHelloAuthNack (id : Nat) (code : FrickErrorCode)
    (msg reason : String) : (hub.sendHelloAuthNack id code msg reason).Every Q :=
  every_setTask hquiet (every_sendClose (every_sendFrame h _ _) _ _ _) _ fun _ _ => nofun

lemma every_completeHello (payload : HelloPayload) {authed : Option (Principal × String)}
    (hnew : ∀ p token, authed = some (p, token) → Q (some p) (some token) .idle) :
    (hub.completeHello config connection payload authed).Every Q := by
  unfold completeHello
  split
  · exact every_setTask_idle hquiet (every_sendFrame h _ _) _
  · refine every_sendFrame (every_sendFrame (every_modify h fun c _ _ hc => ?_) _ _) _ _
    cases authed with
    | none => exact hquiet _ _ _ _ (fun _ _ => nofun) hc
    | some pair => exact hnew pair.1 pair.2 rfl

lemma every_resumeHello (payload : HelloPayload) {token : String}
    {authed : Except ServerError Principal}
    (hnew : ∀ p, authed = .ok p → Q (some p) (some token) .idle) :
    (hub.resumeHello config connection payload token authed).Every Q := by
  unfold resumeHello
  split
  · exact every_sendHelloAuthNack hquiet h _ _ _ _
  next p =>
    split_ifs
    · exact every_sendHelloAuthNack hquiet h _ _ _ _
    split
    · refine every_setTask hquiet (every_sendClose (every_sendFrame h _ _) _ _ _) _ ?_
      exact fun _ _ => nofun
    next reserved hreserved =>
      have hsame := connections_reserveHelloPrincipal hreserved
      refine every_completeHello hquiet (fun c hc => h c (hsame ▸ hc)) payload ?_
      intro principal' token' hauthed
      obtain ⟨rfl, rfl⟩ := Prod.mk.inj (Option.some.inj hauthed)
      exact hnew p rfl

lemma every_resumeSubscribe (config : GatewayConfig) (id : Nat)
    (payload : SubscribePayload) (p : Principal) :
    (hub.resumeSubscribe config id payload p).Every Q := by
  have hread : (hub.setTask id (.read payload p)).Every Q :=
    every_setTask hquiet h id fun _ _ => nofun
  unfold resumeSubscribe
  dsimp only
  split
  · refine every_setTask_idle hquiet (every_sendAuthNack ?_ _ _ _ _) _
    exact every_removeSubscription h _ _
  split
  · exact every_setTask_idle hquiet h id
  · exact every_setTask_idle hquiet h id
  · exact hread
  · exact hread
  · split_ifs
    · exact hread
    · refine every_setTask_idle hquiet (every_sendFrame ?_ _ _) _
      exact every_removeSubscription h _ _

/-- Re-validation replaces the principal only by the same one, as the session names it now. -/
lemma every_resumeFrame (frame : FrickFrame) {p : Principal}
    {active : Option (Except ServerError Principal)}
    (hsame : ∀ current, active = some (.ok current) → samePrincipal p current →
      ∀ c ∈ hub.connections, c.id = connection.id → Q (some current) c.sessionToken c.task) :
    (hub.resumeFrame config connection frame p active).Every Q := by
  have hvalid : (hub.activePrincipalForFrame connection.id (requestIdOf frame) p
      active).1.Every Q := by
    unfold activePrincipalForFrame
    split
    next current =>
      split_ifs with hcur
      · exact every_modify h fun c hc hid _ => hsame current rfl hcur c hc hid
      · exact every_sendClose (every_sendAuthNack h _ _ _ _) _ _ _
    · exact every_sendClose (every_sendFrame h _ _) _ _ _
    · split_ifs
      · exact h
      · exact every_sendClose (every_sendAuthNack h _ _ _ _) _ _ _
  unfold resumeFrame
  dsimp only
  split
  next hact =>
    rw [hact] at hvalid
    exact every_setTask_idle hquiet (every_removeSubscription hvalid _ _) _
  next _ hact =>
    rw [hact] at hvalid
    exact every_setTask_idle hquiet hvalid _
  next hact =>
    rw [hact] at hvalid
    exact every_resumeSubscribe hquiet hvalid _ _ _ _
  next _ hact =>
    rw [hact] at hvalid
    exact every_setTask_idle hquiet hvalid _

lemma every_beginFrame (frame : FrickFrame) : (hub.beginFrame config connection frame).Every Q := by
  unfold beginFrame
  split
  · exact every_setTask hquiet h _ fun _ _ => nofun
  · exact every_resumeFrame hquiet h frame nofun
  · split
    · exact every_removeSubscription (every_sendAuthNack h _ _ _ _) _ _
    · exact every_sendAuthNack h _ _ _ _

lemma every_beginSubscribe (payload : SubscribePayload) :
    (hub.beginSubscribe config connection payload).Every Q := by
  unfold beginSubscribe
  dsimp only
  split_ifs
  · exact every_sendFrame h _ _
  · exact every_sendFrame h _ _
  · split
    · exact every_sendAuthNack h _ _ _ _
    · exact every_beginFrame hquiet (every_addSubscription h _ _) _

end

/-- No inbound frame attaches a principal before it has read a session. -/
theorem every_receive (h : hub.Every Q) (config : GatewayConfig) (id : Nat) (frame : FrickFrame)
    (nowMs : Int) : (hub.receive config id frame nowMs).Every Q := by
  have hsynced : ∀ connection, (hub.dispatchSynced config connection frame).Every Q := by
    intro connection
    unfold dispatchSynced
    split
    · exact every_beginSubscribe hquiet h _
    all_goals first
      | exact every_beginFrame hquiet h _
      | exact every_sendFrame h _ _
      | exact h
  unfold receive
  split
  · exact h
  split_ifs
  · exact h
  split
  · split
    · exact every_setTask hquiet h _ fun _ _ => nofun
    · exact every_completeHello hquiet h _ nofun
  · exact every_sendFrame h _ _
  · split
    · exact hsynced _
    · exact every_sendFrame h _ _

end Every

end GatewayHub

end Frick.Server
