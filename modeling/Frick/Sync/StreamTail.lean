import Frick.Client.Runtime
import Frick.Framework.Run
import Frick.Server.StreamPages

/-!
# A client that tails a stream

One `FrickClient`, the gateway connection it has at the moment, and the stream store behind it, for
one `(stream, key)`. Every point where the two sides can interleave is a step of its own:

* an append commits first, and its write listener runs later (`append_event` awaits the search
  projector in between), so fan-outs of different appends may overtake each other;
* `handle_subscribe` registers the subscription before it awaits the store, so a fan-out may be
  enqueued before the page that answers the subscription;
* the outbound channel of a connection is a queue the client works off one frame at a time, and
  what is still in it when the socket closes is lost.
-/

namespace Frick.Sync

open Protocol Store Server Client

/-- The server a client tails a stream on, and the stream. The gateway serves the store's schema.
A stream is addressed by a non-empty key, since `#sendSubscribe` drops an empty one, and by a name
without `:`, since `#resubscribe` cuts the signal's key at the first one. -/
structure Tail (β : Type) where
  store : StreamStore β
  config : GatewayConfig
  schema_eq : config.schema = store.schema
  tenantId : String
  appId : String
  stream : String
  key : String
  keyed : key ≠ ""
  plainName : ':' ∉ stream.toList

namespace Tail

variable {β : Type} (tail : Tail β)

def address : StreamKey := ⟨tail.tenantId, tail.stream, tail.key⟩

def subscriptionId : String := streamKey tail.stream tail.key

end Tail

/-- What the connection's frame loop is doing. -/
inductive SubscribeTask where
  | idle
  /-- The subscription is registered; its page is not read yet. -/
  | reading (payload : SubscribePayload)
  /-- The page is read and about to be enqueued. -/
  | replying (page : StreamPagePayload)

/-- A gateway connection: the client's frames it has not handled, its subscriptions, everything it
enqueued for the client, and how much of that the client has handled. -/
structure TailConnection where
  inbox : List SubscribePayload := []
  subscriptions : List SubscribePayload := []
  task : SubscribeTask := .idle
  sent : List FrickFrame := []
  received : Nat := 0

namespace TailConnection

variable (connection : TailConnection)

/-- The subscription filter of `broadcast_to_subscribers` for a stream event. -/
def subscribes (event : StreamEventInput) : Bool :=
  connection.subscriptions.any fun sub =>
    sub.kind = .stream && sub.name = event.stream && sub.key = some event.streamId

/-- `send_frame`. -/
def enqueue (frame : FrickFrame) : TailConnection :=
  { connection with sent := connection.sent ++ [frame] }

/-- The next frame of the client is a subscription: it is registered before anything is awaited. -/
def register : TailConnection :=
  match connection.task, connection.inbox with
  | .idle, payload :: rest =>
    { connection with
      inbox := rest
      subscriptions := connection.subscriptions ++ [payload]
      task := .reading payload }
  | _, _ => connection

def sendPage : TailConnection :=
  match connection.task with
  | .replying page => { connection.enqueue (.streamPage page) with task := .idle }
  | _ => connection

end TailConnection

/-- The store, the events whose write listener has not run, the connection, and the client. -/
structure TailWorld (β : Type) where
  db : StreamTables β
  cache : Option FrontCache
  unpublished : List StoredEvent
  connection : Option TailConnection
  client : FrickClient

/-- The client handles the next frame of the connection. -/
def TailWorld.receive {β : Type} (w : TailWorld β) (connection : TailConnection) : TailWorld β :=
  match connection.sent[connection.received]? with
  | none => w
  | some frame =>
    { w with
      client := w.client.receive frame
      connection := some { connection with received := connection.received + 1 } }

/-- The steps of the two sides. -/
inductive TailLabel where
  /-- `append_event` up to the commit. -/
  | append (args : AppendArgs)
  /-- The write listener of the `n`-th unpublished event. -/
  | publish (n : Nat)
  /-- The application calls `stream(..)`. -/
  | stream
  | openSocket
  | closeSocket
  /-- The gateway takes the client's next subscription. -/
  | register
  /-- The gateway reads the page; a store error may come up. -/
  | readPage (failed : Bool)
  | sendPage
  /-- The client handles the next frame. -/
  | receive

namespace Tail

variable {β : Type} (tail : Tail β)

/-- `append_event`: only a created event has a write listener to run. -/
def append (w : TailWorld β) (args : AppendArgs) : TailWorld β :=
  let outcome := tail.store.append w.db w.cache args
  let created := match outcome.result with
    | .ok ⟨event, true⟩ => [event]
    | _ => []
  { w with
    db := outcome.db
    cache := outcome.cache
    unpublished := w.unpublished ++ created }

/-- `fan_out_stream_append` at one connection of the tail's tenant and app. -/
def fanOut (stored : StoredEvent) (connection : TailConnection) : TailConnection :=
  if stored.tenantId = tail.tenantId && stored.appId = tail.appId &&
      connection.subscribes stored.event then
    match GatewayHub.streamDelta tail.config stored.event with
    | some frame => connection.enqueue frame
    | none => connection
  else connection

/-- The read of `handle_subscribe`; a store error is answered with an empty page. -/
def readPage (db : StreamTables β) (failed : Bool) (connection : TailConnection) : TailConnection :=
  match connection.task with
  | .reading payload =>
    let page := if failed then GatewayHub.streamPage tail.config payload []
      else readStreamPage tail.store tail.config db tail.tenantId tail.appId
        (payload.key.getD "") payload
    { connection with task := .replying page }
  | _ => connection

/-- One step of either side. -/
def step (w : TailWorld β) : TailLabel → TailWorld β
  | .append args => tail.append w args
  | .publish n =>
    match w.unpublished[n]? with
    | none => w
    | some stored =>
      { w with
        unpublished := w.unpublished.eraseIdx n
        connection := w.connection.map (tail.fanOut stored) }
  | .stream =>
    let called := w.client.stream tail.stream tail.key
    { w with
      client := called.1
      connection := w.connection.map fun c => { c with inbox := c.inbox ++ called.2 } }
  | .openSocket =>
    match w.connection with
    | some _ => w
    | none =>
      { w with
        client := { w.client with connected := true }
        connection := some { inbox := w.client.resubscribe } }
  | .closeSocket =>
    { w with
      client := { w.client with connected := false }
      connection := none }
  | .register => { w with connection := w.connection.map TailConnection.register }
  | .readPage failed => { w with connection := w.connection.map (tail.readPage w.db failed) }
  | .sendPage => { w with connection := w.connection.map TailConnection.sendPage }
  | .receive =>
    match w.connection with
    | none => w
    | some connection => w.receive connection

end Tail

end Frick.Sync
