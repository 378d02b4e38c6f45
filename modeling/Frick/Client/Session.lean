import Frick.Client.Runtime

/-!
# Sessions, sockets and queues

`FrickClient` of `packages/core/src/runtime.ts` beyond the stores of `Client/Runtime.lean`: the
session it acts for, the socket it has open, the writes that wait for their answer, and the signals
for presence, channels and projections.

A socket is a number. `connect` takes the next one; the listeners of a socket that has been replaced
are not removed. Those for `open` and `close` look whether the socket still is the client's, the one
for `message` does not.
-/

namespace Frick.Client

open Framework Protocol Table

structure FrickSession where
  sessionToken : String
  tenantId : Option String := none
  userId : String
  deviceId : String
  replicaId : String

def sessionScope (session : Option FrickSession) : Option String :=
  session.map fun s => s.tenantId.getD "" ++ "\x00" ++ s.userId

structure PendingAppend where
  requestId : String
  stream : String
  key : String
  event : String
  payload : Value

/-- `PendingUpsert`; what settles its promise is in the answer of the handler. -/
structure PendingUpsert where
  requestId : String
  objectType : String
  objectId : String
  value : Value
  expectedVersion : Option Int

inductive ClientFrame where
  | hello (replicaId deviceId : String) (sessionToken : Option String)
  | subscribe (payload : SubscribePayload)
  | append (append : PendingAppend)
  | objectUpsert (upsert : PendingUpsert)

/-- How the promise of an `upsertObject` is settled. -/
inductive UpsertOutcome where
  | version (version : Int)
  /-- `FrickObjectConflictError`, or `OptimisticConflictError` for an optimistic write. -/
  | conflict
  /-- `FrickClientLimitError`. -/
  | refused
  deriving DecidableEq

/-- `FrickClient`: `stores` is what `Client/Runtime.lean` has of it, and `cachedAppends` the pending
appends of its cache. -/
structure ClientRuntime where
  stores : FrickClient
  session : Option FrickSession := none
  sessionToken : Option String := none
  replicaId : String
  deviceId : String
  maxPendingAppends : Nat := 1000
  socket : Option Nat := none
  /-- How many sockets the client has opened. -/
  opened : Nat := 0
  pendingAppends : Dict String PendingAppend := empty _
  cachedAppends : Dict String PendingAppend := empty _
  pendingUpserts : Dict String PendingUpsert := empty _
  callCommandResolvers : List String := []
  presenceSignals : Dict String (Option Value) := empty _
  signalSignals : Dict String (List Value) := empty _
  projectionRows : Dict String (Dict String Value) := empty _
  projectionSignals : List String := []

namespace ClientRuntime

variable (client : ClientRuntime)

/-! ## Sessions and sockets -/

def cacheScopeOf (session : Option FrickSession) : Option FrickCacheScope :=
  session.map fun s => ⟨s.tenantId, some s.userId⟩

def connect : ClientRuntime :=
  match client.socket with
  | some _ => client
  | none => { client with socket := some client.opened, opened := client.opened + 1 }

def disconnect : ClientRuntime :=
  { client with socket := none, stores := { client.stores with connected := false } }

def clearUserState : ClientRuntime :=
  { client with
    stores := { client.stores with
      objects := empty _
      streams := empty _
      cursors := empty _
      cache := .empty }
    pendingAppends := empty _
    cachedAppends := empty _
    pendingUpserts := empty _
    callCommandResolvers := []
    presenceSignals := client.presenceSignals.updateWhere (fun _ => true)
      (fun entry => (entry.1, none)) fun _ => rfl
    signalSignals := client.signalSignals.updateWhere (fun _ => true)
      (fun entry => (entry.1, [])) fun _ => rfl
    projectionRows := empty _ }

def adopt (session : Option FrickSession) : ClientRuntime :=
  { client with
    session
    sessionToken := session.map FrickSession.sessionToken
    replicaId := (session.map FrickSession.replicaId).getD client.replicaId
    deviceId := (session.map FrickSession.deviceId).getD client.deviceId
    stores := { client.stores with cacheScope := cacheScopeOf session } }

def setSession (session : Option FrickSession) : ClientRuntime :=
  let shouldReconnect := client.socket.isSome
  let scopeChanged := sessionScope client.session ≠ sessionScope session
  let left := if shouldReconnect then client.disconnect else client
  let cleared := if scopeChanged then left.clearUserState else left
  let adopted := cleared.adopt session
  if shouldReconnect then adopted.connect else adopted

/-! ## Sending -/

def resubscribe : List SubscribePayload :=
  client.stores.resubscribe ++
    (client.presenceSignals.rows.map fun entry =>
      client.stores.subscribePayload .presence (FrickClient.splitSubscriptionKey entry.1).1
        (FrickClient.splitSubscriptionKey entry.1).2) ++
    (client.signalSignals.rows.map fun entry =>
      client.stores.subscribePayload .signal (FrickClient.splitSubscriptionKey entry.1).1
        (FrickClient.splitSubscriptionKey entry.1).2) ++
    client.projectionSignals.map fun name => client.stores.subscribePayload .projection name ""

/-- `#send`: nothing goes out without an open socket. A socket that is closing without the client
having been told counts as open here, and what is sent on it as lost on the way. -/
def send (frames : List ClientFrame) : List ClientFrame :=
  if client.stores.connected then frames else []

def onOpen (socket : Nat) : ClientRuntime × List ClientFrame :=
  if client.socket ≠ some socket then (client, [])
  else
    ({ client with stores := { client.stores with connected := true } },
      .hello client.replicaId client.deviceId client.sessionToken ::
        (client.resubscribe.map .subscribe ++
          client.pendingAppends.rows.map (fun entry => .append entry.2) ++
          client.pendingUpserts.rows.map fun entry => .objectUpsert entry.2))

def onClose (socket : Nat) : ClientRuntime :=
  if client.socket ≠ some socket then client
  else { client with socket := none, stores := { client.stores with connected := false } }

/-- `append`, with the request id that it draws; a full queue rejects it. -/
def append (append : PendingAppend) : ClientRuntime × List ClientFrame :=
  if client.maxPendingAppends ≤ client.pendingAppends.rows.length then (client, [])
  else
    ({ client with
        pendingAppends := client.pendingAppends.set append.requestId append
        cachedAppends := client.cachedAppends.set append.requestId append
        stores := { client.stores with
          cache := client.stores.cache.writeMetadata client.stores.schema client.stores.scope } },
      client.send [.append append])

/-- `upsertObject`, with the request id that it draws. -/
def upsertObject (upsert : PendingUpsert) : ClientRuntime × List ClientFrame :=
  if client.maxPendingAppends ≤
      client.pendingUpserts.rows.length + client.pendingAppends.rows.length then (client, [])
  else
    ({ client with pendingUpserts := client.pendingUpserts.set upsert.requestId upsert },
      client.send [.objectUpsert upsert])

/-- `callCommand`, with the request id that it draws; the command itself is left out. -/
def callCommand (requestId : String) : ClientRuntime :=
  { client with callCommandResolvers := client.callCommandResolvers ++ [requestId] }

/-! ## Subscribing -/

def objects (type : String) : ClientRuntime × List ClientFrame :=
  if type ∈ client.stores.objectListSignals then (client, [])
  else
    ({ client with
        stores := { client.stores with
          objectListSignals := client.stores.objectListSignals ++ [type] } },
      client.send [.subscribe (client.stores.subscribePayload .object type "")])

def stream (name key : String) : ClientRuntime × List ClientFrame :=
  let (stores, sent) := client.stores.stream name key
  ({ client with stores }, sent.map .subscribe)

def presence (name key : String) : ClientRuntime × List ClientFrame :=
  if (client.presenceSignals.get? (streamKey name key)).isSome then (client, [])
  else
    ({ client with presenceSignals := client.presenceSignals.set (streamKey name key) none },
      client.send [.subscribe (client.stores.subscribePayload .presence name key)])

def signalChannel (name key : String) : ClientRuntime × List ClientFrame :=
  if (client.signalSignals.get? (streamKey name key)).isSome then (client, [])
  else
    ({ client with signalSignals := client.signalSignals.set (streamKey name key) [] },
      client.send [.subscribe (client.stores.subscribePayload .signal name key)])

def projection (name : String) : ClientRuntime × List ClientFrame :=
  if name ∈ client.projectionSignals then (client, [])
  else
    ({ client with
        projectionRows := client.projectionRows.set name
          ((client.projectionRows.get? name).getD (empty _))
        projectionSignals := client.projectionSignals ++ [name] },
      client.send [.subscribe (client.stores.subscribePayload .projection name "")])

/-! ## Frames -/

def setSignal {ν : Type} (signals : Dict String ν) (id : String) (value : ν) : Dict String ν :=
  if (signals.get? id).isSome then signals.set id value else signals

variable {ν : Type} {id : String}

lemma get?_setSignal_self {sigs : Dict String ν} (val : ν)
    (h : (sigs.get? id).isSome) : (setSignal sigs id val).get? id = some val := by
  rw [setSignal, if_pos h, Dict.get?_set_self]

lemma get?_setSignal_of_ne {sigs : Dict String ν} {id' : String} (val : ν) (h : id' ≠ id) :
    (setSignal sigs id val).get? id' = sigs.get? id' := by
  rw [setSignal]
  split_ifs
  · exact Dict.get?_set_of_ne h
  · rfl

lemma isSome_get?_setSignal (sigs : Dict String ν) (id : String) (val : ν) (id' : String) :
    ((setSignal sigs id val).get? id').isSome = (sigs.get? id').isSome := by
  by_cases hid : id' = id
  · subst hid
    cases hsome : (sigs.get? id').isSome with
    | true => rw [get?_setSignal_self val hsome]; rfl
    | false => rw [setSignal, if_neg (by rw [hsome]; exact Bool.false_ne_true), hsome]
  · rw [get?_setSignal_of_ne val hid]

/-- The loop over the records of a `PresenceDelta`; the flag says that it came to its end. -/
def storePresence (schema : FrickSchema) :
    Dict String (Option Value) → List PackedKeyedRecord → Dict String (Option Value) × Bool
  | signals, [] => (signals, true)
  | signals, packed :: rest =>
    match unpackPresenceRecord schema packed with
    | .error _ => (signals, false)
    | .ok presence =>
      storePresence schema
        (setSignal signals (streamKey presence.recordType presence.key) (some presence.value)) rest

def presenceDelta (payload : PresenceDeltaPayload) : ClientRuntime :=
  let (stored, ended) := storePresence client.stores.schema client.presenceSignals payload.records
  { client with
    presenceSignals :=
      if ended then payload.cleared.foldl (fun signals key => setSignal signals key none) stored
      else stored }

def projectionDelta (payload : ProjectionDeltaPayload) : ClientRuntime :=
  let rows := (client.projectionRows.get? payload.projection).getD (empty _)
  { client with
    projectionRows := client.projectionRows.set payload.projection
      (payload.changes.foldl (fun rows change =>
        if change.2 = .nil then rows.erase change.1 else rows.set change.1 change.2) rows) }

def signalDeliver (envelope : PackedKeyedRecord) : ClientRuntime :=
  match unpackSignalEnvelope client.stores.schema envelope with
  | .error _ => client
  | .ok signal =>
    let id := streamKey signal.recordType signal.key
    { client with
      signalSignals := setSignal client.signalSignals id
        ((client.signalSignals.get? id).getD [] ++ [signal.value]) }

def settleAppend (requestId : String) : ClientRuntime :=
  { client with
    pendingAppends := client.pendingAppends.erase requestId
    cachedAppends := client.cachedAppends.erase requestId }

def settleUpsert (requestId : String) : ClientRuntime :=
  { client with pendingUpserts := client.pendingUpserts.erase requestId }

/-- `Ack`, and how it settles an upsert. -/
def onAck (requestId : String) (version : Option Int) : ClientRuntime × Option UpsertOutcome :=
  if (client.pendingUpserts.get? requestId).isSome then
    (client.settleUpsert requestId, some (.version (version.getD 0)))
  else (client.settleAppend requestId, none)

def onCallCommandResult (requestId : String) : ClientRuntime :=
  { client with callCommandResolvers := client.callCommandResolvers.filter (· ≠ requestId) }

/-- `Nack`, and how it settles an upsert. -/
def onNack (error : FrickErrorEnvelope) : ClientRuntime × Option UpsertOutcome :=
  if error.requestId ∈ client.callCommandResolvers then
    (client.onCallCommandResult error.requestId, none)
  else if (client.pendingUpserts.get? error.requestId).isSome then
    (client.settleUpsert error.requestId,
      some (if error.code = .storageConflict then .conflict else .refused))
  else (client.settleAppend error.requestId, none)

/-- `#handleFrame`, which the listener for `message` comes to once the data is there. -/
def receive (frame : FrickFrame) : ClientRuntime :=
  match frame with
  | .presenceDelta payload => client.presenceDelta payload
  | .projectionDelta payload => client.projectionDelta payload
  | .signalDeliver envelope => client.signalDeliver envelope
  | .callCommandResult requestId => client.onCallCommandResult requestId
  | .ack requestId _ version => (client.onAck requestId version).1
  | .nack error => (client.onNack error).1
  | frame => { client with stores := client.stores.receive frame }

/-! ## Runs -/

/-- What can happen to a client: a call of its interface, or an event of one of its sockets. -/
inductive Event where
  | connect
  | disconnect
  | setSession (session : Option FrickSession)
  | clearUserState
  | append (append : PendingAppend)
  | upsertObject (upsert : PendingUpsert)
  | callCommand (requestId : String)
  | objects (type : String)
  | stream (name key : String)
  | presence (name key : String)
  | signalChannel (name key : String)
  | projection (name : String)
  | opened (socket : Nat)
  | closed (socket : Nat)
  | message (socket : Nat) (frame : FrickFrame)

/-- The client after an event, and what it sends. -/
def handle : Event → ClientRuntime × List ClientFrame
  | .connect => (client.connect, [])
  | .disconnect => (client.disconnect, [])
  | .setSession session => (client.setSession session, [])
  | .clearUserState => (client.clearUserState, [])
  | .append append => client.append append
  | .upsertObject upsert => client.upsertObject upsert
  | .callCommand requestId => (client.callCommand requestId, [])
  | .objects type => client.objects type
  | .stream name key => client.stream name key
  | .presence name key => client.presence name key
  | .signalChannel name key => client.signalChannel name key
  | .projection name => client.projection name
  | .opened socket => client.onOpen socket
  | .closed socket => (client.onClose socket, [])
  -- `socket` is not compared with the client's own.
  | .message _ frame => (client.receive frame, [])

end ClientRuntime

end Frick.Client
