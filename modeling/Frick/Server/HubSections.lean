import Frick.Framework.Program
import Frick.Server.Gateway

/-!
# The gateway by its lock sections

`Server/Gateway.lean` runs a handler from one await point to the next. Between two lock sections
another task may take the lock, so what several connections do at the same time has to be looked at
section by section. Here `run_connection`, `handle_hello` and `unregister` are programs whose
operations are the single lock sections of `GatewayHub::inner`, and the calls on the cluster bus.
-/

namespace Frick.Server

open Framework Framework.Program Protocol

/-- The hub, and the tenant set that the cluster bus was handed last. -/
structure SharedHub where
  hub : GatewayHub
  subscribedTenants : Option (String → Bool)

/-- A lock section of the hub, or a call on the bus. `moveTask` is not one: it records how far the
task of a connection is, which the source has in its control flow. -/
inductive HubSection where
  /-- `inner.connections.len()`. -/
  | connectionCount
  /-- `inner.per_principal.get(&key)`. -/
  | principalCount (key : String)
  | register (principal : Option Principal) (bearer : Option String)
  | connectionPrincipal (id : Nat)
  | reserveHelloPrincipal (id : Nat) (principal : Principal)
  /-- Step 5 of `handle_hello`. -/
  | attach (id : Nat) (authed : Option (Principal × String)) (appId : String)
  | applyTenantTransitions (transitions : List (String × Int))
  | send (id : Nat) (message : Outbound)
  | moveTask (id : Nat) (task : FrameTask)
  | unregister (id : Nat)
  /-- `inner.tenant_subscriber_counts.keys()`. -/
  | tenants
  | setSubscribedTenants (tenants : String → Bool)

abbrev HubSection.Reply : HubSection → Type
  | .connectionCount => Nat
  | .principalCount _ => Nat
  | .register _ _ => Nat × Bool
  | .connectionPrincipal _ => Option Principal
  | .reserveHelloPrincipal _ _ => Bool
  | .attach _ _ _ => List (String × Int)
  | .applyTenantTransitions _ => Bool
  | .send _ _ => Unit
  | .moveTask _ _ => Unit
  | .unregister _ => Bool
  | .tenants => String → Bool
  | .setSubscribedTenants _ => Unit

/-! ## The sections -/

/-- The result of `bump_tenant_count`: the tenant came or went. -/
def tenantTransitioned (counts : String → Nat) (tenantId : String) (delta : Int) : Bool :=
  decide (counts tenantId = 0) != decide ((counts tenantId : Int) + delta ≤ 0)

/-- The loop of `apply_tenant_transitions`. -/
def bumpTenantCounts (counts : String → Nat) : List (String × Int) → (String → Nat) × Bool
  | [] => (counts, false)
  | (tenantId, delta) :: rest =>
    let (bumped, moved) := bumpTenantCounts (GatewayHub.bumpTenantCount counts tenantId delta) rest
    (bumped, tenantTransitioned counts tenantId delta || moved)

def tenantTransitions (previous : Option Principal) (principal : Principal) : List (String × Int) :=
  if previous.map Principal.tenantId = some principal.tenantId then []
  else (previous.map fun before => (before.tenantId, -1)).toList ++ [(principal.tenantId, 1)]

namespace HubSection

variable (config : GatewayConfig)

/-- What a section does, and what it hands out. -/
def handle (s : SharedHub) : (o : HubSection) → SharedHub × o.Reply
  | .connectionCount => (s, s.hub.connections.rows.length)
  | .principalCount key => (s, s.hub.perPrincipal key)
  | .register principal bearer =>
    ({ s with hub := s.hub.register principal bearer },
      (s.hub.nextId, principal.any fun p =>
        tenantTransitioned s.hub.tenantSubscriberCounts p.tenantId 1))
  | .connectionPrincipal id => (s, (s.hub.connections.find? id).bind Connection.principal)
  | .reserveHelloPrincipal id principal =>
    -- a connection that is gone has no previous key
    let connection :=
      (s.hub.connections.find? id).getD (GatewayHub.freshConnection id none none)
    match s.hub.reserveHelloPrincipal config connection principal with
    | none => (s, false)
    | some reserved => ({ s with hub := reserved }, true)
  | .attach id authed appId =>
    let transitions := match s.hub.connections.find? id, authed with
      | some connection, some (principal, _) => tenantTransitions connection.principal principal
      | _, _ => []
    ({ s with hub := s.hub.attach id authed appId }, transitions)
  | .applyTenantTransitions transitions =>
    let (counts, moved) := bumpTenantCounts s.hub.tenantSubscriberCounts transitions
    ({ s with hub := { s.hub with tenantSubscriberCounts := counts } }, moved)
  | .send id message => ({ s with hub := s.hub.modify id (·.enqueue message) fun _ => rfl }, ())
  | .moveTask id task => ({ s with hub := s.hub.setTask id task }, ())
  | .unregister id =>
    let transitioned := ((s.hub.connections.find? id).bind Connection.principal).any fun p =>
      tenantTransitioned s.hub.tenantSubscriberCounts p.tenantId (-1)
    ({ s with hub := s.hub.unregister id }, transitioned)
  | .tenants => (s, fun tenant => s.hub.tenantSubscriberCounts tenant ≠ 0)
  | .setSubscribedTenants set => ({ s with subscribedTenants := some set }, ())

lemma handle_reserveHelloPrincipal (s : SharedHub) {c : Connection}
    (h : s.hub.connections.find? c.id = some c) (p : Principal) :
    handle config s (.reserveHelloPrincipal c.id p) =
      match s.hub.reserveHelloPrincipal config c p with
      | none => (s, false)
      | some reserved => (⟨reserved, s.subscribedTenants⟩, true) := by
  show (match s.hub.reserveHelloPrincipal config ((s.hub.connections.find? c.id).getD _)
    p with
    | none => (s, false)
    | some reserved => (⟨reserved, s.subscribedTenants⟩, true)) = _
  rw [h, Option.getD_some]

lemma handle_attach (s : SharedHub) {connection : Connection}
    (h : s.hub.connections.find? connection.id = some connection)
    (authed : Option (Principal × String)) (appId : String) :
    handle config s (.attach connection.id authed appId) =
      (⟨s.hub.attach connection.id authed appId, s.subscribedTenants⟩,
        authed.elim [] fun found => tenantTransitions connection.principal found.1) := by
  show (_, (match s.hub.connections.find? connection.id, authed with
    | some c, some (p, _) => tenantTransitions c.principal p
    | _, _ => [])) = _
  rw [h]
  cases authed with
  | none | some => rfl

end HubSection

/-- A task that takes the lock of the hub now and then. -/
abbrev HubProgram := Program HubSection HubSection.Reply Empty

namespace HubProgram

/-! ## Single sections -/

def connectionCount : HubProgram Nat := perform HubSection.connectionCount

def principalCount (key : String) : HubProgram Nat := perform (HubSection.principalCount key)

/-- The id, and whether a tenant came. -/
def register (principal : Option Principal) (bearer : Option String) : HubProgram (Nat × Bool) :=
  perform (HubSection.register principal bearer)

def connectionPrincipal (id : Nat) : HubProgram (Option Principal) :=
  perform (HubSection.connectionPrincipal id)

def reserveHelloPrincipal (id : Nat) (principal : Principal) : HubProgram Bool :=
  perform (HubSection.reserveHelloPrincipal id principal)

def attach (id : Nat) (authed : Option (Principal × String)) (appId : String) :
    HubProgram (List (String × Int)) := perform (HubSection.attach id authed appId)

def bumpTenants (transitions : List (String × Int)) : HubProgram Bool :=
  perform (HubSection.applyTenantTransitions transitions)

def sendFrame (id : Nat) (frame : FrickFrame) : HubProgram Unit :=
  perform (HubSection.send id (.frame frame))

def sendClose (id : Nat) (code : Nat) (reason : String) : HubProgram Unit :=
  perform (HubSection.send id (.close code reason))

def moveTask (id : Nat) (task : FrameTask) : HubProgram Unit :=
  perform (HubSection.moveTask id task)

/-- Whether a tenant went. -/
def unregister (id : Nat) : HubProgram Bool := perform (HubSection.unregister id)

/-- `push_subscribed_tenants`, on a node with a bus or without. -/
def pushSubscribedTenants (clustered : Bool) : HubProgram Unit :=
  if clustered then
    (perform HubSection.tenants : HubProgram (String → Bool)) >>= fun tenants =>
      perform (HubSection.setSubscribedTenants tenants)
  else pure ()

/-- The push that follows a change of the tenants' counts. -/
def pushIf (clustered transitioned : Bool) : HubProgram Unit :=
  if transitioned then pushSubscribedTenants clustered else pure ()

section

variable (config : GatewayConfig) (clustered : Bool)

/-! ## Connecting -/

/-- The second check of `run_connection`. -/
def overCap (principal : Option Principal) : HubProgram Bool :=
  match principal with
  | none => pure false
  | some p => do
    let current ← principalCount p.connectionKey
    return decide (config.maxConnectionsPerPrincipal ≤ (current : Int))

/-- `run_connection` up to the inbound loop: `none` if the socket is turned away. -/
def connect (principal : Option Principal) (bearer : Option String) : HubProgram (Option Nat) := do
  let active ← connectionCount
  if config.maxWebSocketConnections ≤ active then
    return none
  else if ← overCap config principal then
    return none
  else
    let (id, transitioned) ← register principal bearer
    pushIf clustered transitioned
    return some id

/-! ## Hello -/

/-- `send_hello_auth_nack`; the connection closes. -/
def sendHelloAuthNack (id : Nat) (code : FrickErrorCode) (message reason : String) :
    HubProgram Bool := do
  sendFrame id
    (GatewayHub.simpleNack code message "hello" false (GatewayHub.reasonDetails reason) none)
  sendClose id policyViolation message
  moveTask id .closing
  return true

def applyTenantTransitions (transitions : List (String × Int)) : HubProgram Unit :=
  if transitions.isEmpty then pure ()
  else do
    let transitioned ← bumpTenants transitions
    pushIf clustered transitioned

/-- Steps 2 to 5 of `handle_hello`; the connection stays. -/
def completeHello (id : Nat) (payload : HelloPayload) (authed : Option (Principal × String)) :
    HubProgram Bool :=
  match config.negotiate payload with
  | .error envelope => do
    sendFrame id (.nack envelope)
    moveTask id .idle
    return false
  | .ok target => do
    let transitions ← attach id authed target.appId
    applyTenantTransitions clustered transitions
    sendFrame id (.helloAck
      ⟨target.schema.hash, target.schema.schemaId, target.schema.schemaRevision⟩)
    sendFrame id (.schema target.schema)
    return false

/-- `handle_hello` with a session that was found for its token. -/
def resumeHello (id : Nat) (payload : HelloPayload) (token : String) (principal : Principal) :
    HubProgram Bool := do
  let existing ← connectionPrincipal id
  if existing.any fun existing => !samePrincipal existing principal then
    sendHelloAuthNack id .authForbidden
      "Hello session token does not match the connection principal" "notAuthorizedForResource"
  else if ← reserveHelloPrincipal id principal then
    completeHello config clustered id payload (some (principal, token))
  else
    sendFrame id (GatewayHub.principalCapNack "hello" config.maxConnectionsPerPrincipal)
    sendClose id tryAgainLater "connection limit exceeded"
    moveTask id .closing
    return true

/-- `handle_hello`; the result says whether the connection closes. -/
def handleHello (id : Nat) (payload : HelloPayload) (session : Except ServerError Principal) :
    HubProgram Bool :=
  match payload.sessionToken with
  | none => completeHello config clustered id payload none
  | some token =>
    match session with
    | .error _ =>
      sendHelloAuthNack id .authUnauthenticated "Invalid session token" "unauthenticated"
    | .ok principal => resumeHello config clustered id payload token principal

/-! ## The life of a connection -/

/-- The inbound loop, over the `Hello`s that arrive. -/
def inboundLoop (id : Nat) : List (HelloPayload × Except ServerError Principal) → HubProgram Unit
  | [] => pure ()
  | (payload, session) :: rest => do
    if ← handleHello config clustered id payload session then
      return ()
    else
      inboundLoop id rest

/-- `unregister`, with what it pushes. -/
def disconnect (id : Nat) : HubProgram Unit := do
  let transitioned ← unregister id
  pushIf clustered transitioned

def runConnection (principal : Option Principal) (bearer : Option String)
    (hellos : List (HelloPayload × Except ServerError Principal)) : HubProgram Unit := do
  match ← connect config clustered principal bearer with
  | none => return ()
  | some id =>
    inboundLoop config clustered id hellos
    disconnect clustered id

end

end HubProgram

end Frick.Server
