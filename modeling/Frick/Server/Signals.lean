import Frick.Server.Calls
import Frick.Server.Gateway

/-!
# Signals

A signal is put into an outbox, where its key can be drained, and is fanned out to the subscribers
of the key. It comes as a `Signal` frame (`handle_signal` in `gateway.rs`) or over HTTP
(`send_signal` in `routes/signals.rs`). The drain and the cluster bus are not part of the model.
-/

namespace Frick.Server

open Protocol

/-- `CallControlPlane::is_signal_member`, on the objects of the call. -/
def isSignalMember (call : CallStore) (callId userId : String) : Bool :=
  match call.room with
  | none => false
  | some room =>
    if room.state = .ended then false
    else if room.createdBy = userId then true
    else if (call.invites.find? (callId ++ ":" ++ userId)).any fun invite =>
        invite.status ≠ .declined && invite.status ≠ .cancelled then true
    else call.participants.rows.any fun p => p.callId = callId && p.userId = userId

/-- `WEBRTC_SIGNAL` and `CALL_DATA_CHANNEL`, the signals whose key is the id of a call. -/
def isCallSignal (name : String) : Bool := name = "WebRTCSignal" || name = "CallDataChannel"

structure SignalPayload where
  requestId : String
  name : String
  key : String
  value : Value

structure SignalRow where
  appId : String
  tenantId : String
  signalType : String
  signalKey : String
  packed : PackedKeyedRecord
  expiresAt : Int

/-- The calls by tenant, app and id, the outbox and the connections. -/
structure SignalServer where
  calls : String → String → String → CallStore
  outbox : List SignalRow
  hub : GatewayHub

def defaultSignalTtlMs : Int := 30000

def GatewayHub.connectionAppId (hub : GatewayHub) (id : Nat) : String :=
  (hub.connections.find? id).elim defaultAppId Connection.appId

namespace SignalServer

variable (config : GatewayConfig) (server : SignalServer)

/-- `FrickStore::enqueue_signal` without a `ttl_ms`. -/
def enqueueSignal (tenantId signalType signalKey : String) (value : Value) (appId : String)
    (nowMs : Int) : Except ProtocolError SignalServer :=
  match packSignalEnvelope config.schema signalType signalKey value with
  | .error error => .error error
  | .ok packed => .ok { server with
      outbox := server.outbox ++
        [⟨appId, tenantId, signalType, signalKey, packed, nowMs + defaultSignalTtlMs⟩] }

/-- `handle_signal`, with what `active_principal_for_frame` gave it. -/
def handleSignal (id : Nat) (principal : Principal) (payload : SignalPayload) (nowMs : Int) :
    SignalServer :=
  match decideBaseline principal .signalSend ⟨principal.tenantId, none⟩ with
  | .deny reason publicMessage =>
    { server with hub := server.hub.sendAuthNack id payload.requestId reason publicMessage }
  | .allow =>
    let appId := server.hub.connectionAppId id
    if isCallSignal payload.name && !isSignalMember
        (server.calls principal.tenantId appId payload.key) payload.key principal.userId then
      { server with
        hub := server.hub.sendFrame id (GatewayHub.simpleNack .authForbidden
          "Not a member of this call" payload.requestId false
          (GatewayHub.reasonDetails "notMember") none) }
    else
      -- an error of the store is dropped
      let stored := (server.enqueueSignal config principal.tenantId payload.name payload.key
        payload.value appId nowMs).toOption.getD server
      { stored with
        hub := (stored.hub.fanOutSignalLocal config principal.tenantId appId payload.name
          payload.key payload.value).sendFrame id (.ack payload.requestId none none) }

/-- `send_signal`, with the authenticated principal and the app of the request. -/
def sendSignal (principal : Principal) (appId name key : String) (value : Value) (nowMs : Int) :
    Except ServerError SignalServer :=
  match decideBaseline principal .signalSend ⟨principal.tenantId, none⟩ with
  | .deny reason publicMessage => .error (.authorization publicMessage (some reason.asStr))
  | .allow =>
    match server.enqueueSignal config principal.tenantId name key value appId nowMs with
    | .error error => .error (.badRequest error.message)
    | .ok stored => .ok { stored with
        hub := stored.hub.fanOutSignalLocal config principal.tenantId appId name key value }

end SignalServer

end Frick.Server
