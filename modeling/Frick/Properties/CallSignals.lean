import Frick.Properties.ConnectionAccounting
import Frick.Server.Signals

/-!
# Who signals into a call

The gateway lets only members of a call send its signals (`handle_signal`). The HTTP route puts a
signal into the same outbox and the same fan-out, and leaves the check to the gateway, which does
not make it there.
-/

namespace Frick.Properties

open Framework Protocol Server

/-- One access of a command to its call, or a signal over one of the two transports. -/
inductive SignalEvent where
  | call (tenantId appId callId : String) (access : CallAccess)
  | frame (id : Nat) (principal : Principal) (payload : SignalPayload) (nowMs : Int)
  | post (principal : Principal) (appId name key : String) (value : Value) (nowMs : Int)

/-- Who sends, in which app, under which name and key. -/
structure SignalSend where
  principal : Principal
  appId : String
  name : String
  key : String

/-- The sender is a member of the call that the key names. -/
def SignalSend.byMember (server : SignalServer) (send : SignalSend) : Bool :=
  isSignalMember (server.calls send.principal.tenantId send.appId send.key) send.key
    send.principal.userId

namespace SignalEvent

/-- An access to a call, or a signal; one that the HTTP route refuses changes nothing. -/
def step (config : GatewayConfig) (server : SignalServer) : SignalEvent → SignalServer
  | .call tenantId appId callId access =>
    { server with
      calls := fun t a c =>
        if t = tenantId ∧ a = appId ∧ c = callId then ((server.calls t a c).handle access).1
        else server.calls t a c }
  | .frame id principal payload nowMs => server.handleSignal config id principal payload nowMs
  | .post principal appId name key value nowMs =>
    (server.sendSignal config principal appId name key value nowMs).toOption.getD server

def send (server : SignalServer) : SignalEvent → Option SignalSend
  | .call _ _ _ _ => none
  | .frame id principal payload _ =>
    some ⟨principal, server.hub.connectionAppId id, payload.name, payload.key⟩
  | .post principal appId name key _ _ => some ⟨principal, appId, name, key⟩

end SignalEvent

open SignalEvent (step)

def isSignalDeliver : Outbound → Bool
  | .frame (.signalDeliver _) => true
  | _ => false

def signalsQueued (hub : GatewayHub) : List (Nat × List Outbound) :=
  hub.connections.rows.map fun c => (c.id, c.outbound.filter isSignalDeliver)

/-- A signal was put into the outbox, or into the queue of a connection. -/
def Relayed (before after : SignalServer) : Prop :=
  after.outbox ≠ before.outbox ∨ signalsQueued after.hub ≠ signalsQueued before.hub

def SentByMember (config : GatewayConfig) (server : SignalServer) (event : SignalEvent) : Prop :=
  ∀ send ∈ event.send server, isCallSignal send.name = true →
    Relayed server (event.step config server) → send.byMember server = true

/-- A signal of a call that the HTTP route would take, from a user it knows and with a value that
fits the schema, is from a member. -/
def PostedByMember (config : GatewayConfig) (server : SignalServer) : SignalEvent → Prop
  | .post principal appId name key value _ =>
    isCallSignal name = true → principal.userId ≠ "" →
      (∃ packed, packSignalEnvelope config.schema name key value = .ok packed) →
      SignalSend.byMember server ⟨principal, appId, name, key⟩ = true
  | _ => True

section Step

variable {config : GatewayConfig} {server : SignalServer}

lemma signalsQueued_sendFrame (hub : GatewayHub) (id : Nat) {frame : FrickFrame}
    (h : isSignalDeliver (.frame frame) = false) :
    signalsQueued (hub.sendFrame id frame) = signalsQueued hub := by
  show (hub.connections.rows.map _).map _ = _
  rw [List.map_map]
  apply List.map_congr_left
  intro c _
  rw [Function.comp_apply]
  split_ifs
  · simp [Connection.enqueue, h]
  · rfl

lemma not_relayed_sendFrame (id : Nat) {frame : FrickFrame}
    (h : isSignalDeliver (.frame frame) = false) :
    ¬Relayed server { server with hub := server.hub.sendFrame id frame } := by
  rintro (houtbox | hqueued)
  · exact houtbox rfl
  · exact hqueued (signalsQueued_sendFrame server.hub id h)

lemma decideBaseline_signalSend (p : Principal) :
    decideBaseline p .signalSend ⟨p.tenantId, none⟩ =
      if p.userId = "" then .deny .unauthenticated "Not authenticated" else .allow := by
  simp [decideBaseline]

lemma sentByMember_frame (id : Nat) (p : Principal) (pay : SignalPayload)
    (now : Int) : SentByMember config server (.frame id p pay now) := by
  rintro send ⟨⟩ hcall hrelay
  by_contra hmember
  rw [step, SignalServer.handleSignal, decideBaseline_signalSend] at hrelay
  split_ifs at hrelay
  · exact not_relayed_sendFrame id rfl hrelay
  have hrefused : (isCallSignal pay.name && !isSignalMember
      (server.calls p.tenantId (server.hub.connectionAppId id) pay.key) pay.key
      p.userId) := by
    rw [Bool.and_eq_true, Bool.not_eq_true']
    exact ⟨hcall, Bool.eq_false_iff.mpr hmember⟩
  rw [if_pos hrefused] at hrelay
  exact not_relayed_sendFrame id rfl hrelay

lemma relayed_post_iff (p : Principal) (appId name key : String) (val : Value)
    (now : Int) :
    Relayed server (step config server (.post p appId name key val now)) ↔
      p.userId ≠ "" ∧ ∃ packed, packSignalEnvelope config.schema name key val = .ok packed := by
  have hsame : ¬Relayed server server := fun h => h.elim (· rfl) (· rfl)
  rw [step, SignalServer.sendSignal, decideBaseline_signalSend]
  split_ifs with huser
  · exact iff_of_false hsame fun h => h.1 huser
  rw [SignalServer.enqueueSignal]
  cases packSignalEnvelope config.schema name key val with
  | error error => exact iff_of_false hsame (by rintro ⟨-, packed, ⟨⟩⟩)
  | ok packed =>
    refine iff_of_true (Or.inl ?_) ⟨huser, packed, rfl⟩
    show server.outbox ++ [_] ≠ server.outbox
    simp

lemma sentByMember_iff (ev : SignalEvent) :
    SentByMember config server ev ↔ PostedByMember config server ev := by
  cases ev with
  | call tenant appId callId access => exact iff_of_true nofun trivial
  | frame id p pay now =>
    exact iff_of_true (sentByMember_frame id p pay now) trivial
  | post p appId name key val now =>
    constructor
    · intro h hcall huser hpacked
      exact h _ rfl hcall ((relayed_post_iff ..).mpr ⟨huser, hpacked⟩)
    · rintro h send ⟨⟩ hcall hrelay
      obtain ⟨huser, hpacked⟩ := (relayed_post_iff ..).mp hrelay
      exact h hcall huser hpacked

end Step

/-- **Signals of calls.** In any run of call commands, access by access, and of signals over both
transports, every signal of a call that gets into the outbox or to a subscriber was sent by a member
of the call, exactly if every one that the HTTP route takes is. -/
theorem call_signals_from_members_iff (config : GatewayConfig) (server : SignalServer)
    (events : List SignalEvent) :
    (∀ before event after, events = before ++ event :: after →
      SentByMember config (run (step config) server before) event) ↔
      Guarded (step config) (PostedByMember config) server events := by
  rw [guarded_iff_forall_split]
  simp only [sentByMember_iff]

/-! ## An outsider -/

def callGateway : GatewayConfig :=
  { oneEach with schema := { hash := "calls", signals := [⟨1, "WebRTCSignal", [], [], 0⟩] } }

def bobWaits : SignalServer where
  calls _ _ _ := .empty
  outbox := []
  hub := (GatewayHub.new.register (some (member "bob")) none).addSubscription 1
    ⟨"sub", .signal, "WebRTCSignal", some "call-1"⟩

/-- Ana calls Bob. Eve is no member of the call, and posts a signal that Bob gets. -/
theorem outsider_signals_into_call :
    let call := SignalEvent.call (member "ana").tenantId defaultAppId "call-1"
    let before := run (step callGateway) bobWaits
      [call (.writeRoom ⟨"call-1", "c", .ringing, "ana", .audio, "t", none, none, none, none⟩),
        call (.writeInvite ⟨"call-1:bob", "call-1", "bob", .ringing, "ana", "t", none⟩)]
    let after := step callGateway before
      (.post (member "eve") defaultAppId "WebRTCSignal" "call-1" (.map []) 0)
    SignalSend.byMember before ⟨member "eve", defaultAppId, "WebRTCSignal", "call-1"⟩ = false ∧
      SignalSend.byMember before ⟨member "bob", defaultAppId, "WebRTCSignal", "call-1"⟩ ∧
      after.outbox.length = 1 ∧
      signalsQueued after.hub = [(1, [.frame (.signalDeliver ⟨1, "call-1", []⟩)])] := by
  decide +kernel

end Frick.Properties
