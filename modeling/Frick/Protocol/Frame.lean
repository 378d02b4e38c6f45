import Frick.Protocol.Codec

/-!
# Frames

`frame.rs` and `errors.rs`: the messages of the WebSocket protocol between the gateway and a
client. A frame is `[kind, payload]` on the wire; here it is one constructor per kind, with the
payload fields that the gateway or the client reads or fills in.
-/

namespace Frick.Protocol

inductive SubscriptionKind where
  | object
  | stream
  | presence
  | signal
  | projection
  deriving Repr, DecidableEq

/-- `FrickErrorCode`, with the codes the gateway sends. -/
inductive FrickErrorCode where
  | authUnauthenticated
  | authForbidden
  | schemaIncompatible
  | syncProtocolError
  | rateLimitExceeded
  | storageConflict
  deriving Repr, DecidableEq

/-- `HelloPayload`; `clientCapabilities` as the dynamic value it arrives as. -/
structure HelloPayload where
  replicaId : String
  deviceId : String
  schemaHash : String
  sessionToken : Option String := none
  clientCapabilities : Option Value := none
  deriving DecidableEq

structure SubscribePayload where
  subscriptionId : String
  kind : SubscriptionKind
  name : String
  key : Option String := none
  cursor : Option Int := none
  deriving DecidableEq

structure SnapshotPayload where
  subscriptionId : String
  objects : List PackedRecord
  cursor : Int
  deriving DecidableEq

structure StreamPagePayload where
  subscriptionId : String
  events : List PackedStreamEvent
  cursor : Int
  hasMore : Bool
  deriving DecidableEq

structure ObjectRemoval where
  objectType : String
  id : String
  deriving DecidableEq

structure DeltaPayload where
  objects : List PackedRecord
  events : List PackedStreamEvent
  cursor : Int
  removed : Option (List ObjectRemoval)
  deriving DecidableEq

structure PresenceDeltaPayload where
  subscriptionId : String
  records : List PackedKeyedRecord
  cleared : List String
  deriving DecidableEq

/-- `ProjectionDeltaPayload`; a `nil` value deletes the row. -/
structure ProjectionDeltaPayload where
  projection : String
  changes : List (String × Value)
  deriving DecidableEq

structure FrickErrorEnvelope where
  code : FrickErrorCode
  message : String
  requestId : String
  retryable : Bool
  details : Option Value
  schemaHash : Option String
  schemaRevision : Option Int
  deriving DecidableEq

/-- `HelloAckPayload`, without the capability records. -/
structure HelloAckPayload where
  schemaHash : String
  schemaId : String
  schemaRevision : Int
  deriving DecidableEq

/-- `FrickFrame`. The payloads of the frames that only carry a request into a store call are
reduced to the request id their answer names. -/
inductive FrickFrame where
  | hello (payload : HelloPayload)
  | helloAck (payload : HelloAckPayload)
  | schema (payload : FrickSchema)
  | subscribe (payload : SubscribePayload)
  | snapshot (payload : SnapshotPayload)
  | streamPage (payload : StreamPagePayload)
  | append (requestId : String)
  | objectUpsert (requestId : String)
  | ack (requestId : String) (cursor version : Option Int)
  | nack (error : FrickErrorEnvelope)
  | delta (payload : DeltaPayload)
  | presenceSet (requestId : String)
  | presenceClear (requestId : String)
  | presenceDelta (payload : PresenceDeltaPayload)
  | signalSend (requestId : String)
  | signalDeliver (envelope : PackedKeyedRecord)
  | projectionDelta (payload : ProjectionDeltaPayload)
  | cursorCommit (subscriptionId : String) (cursor : Int)
  | callCommand (requestId : String)
  | callCommandResult (requestId : String)
  | ping (sentAt : Int)
  | pong (sentAt receivedAt : Int)
  deriving DecidableEq

end Frick.Protocol
