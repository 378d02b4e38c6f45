import Frick.Protocol.Schema

/-!
# Schema compatibility at Hello

`frick-protocol/src/compatibility.rs`: whether a client with one schema may talk to a server with
another. The verdict looks at the schema ids, the revisions and the hashes, never at the
definitions. `capabilities.rs` adds what the client may ask for by name.
-/

namespace Frick.Protocol

inductive SchemaCompatibilityReason where
  | exact
  | revisionCompatibleHashMismatch
  | schemaIdMismatch
  | clientTooOld
  | serverTooOld
  deriving Repr

structure SchemaCompatibilityResult where
  compatible : Bool
  reason : SchemaCompatibilityReason
  clientRevision : Int
  serverRevision : Int
  message : Option String
  deriving Repr

def compareSchemaCompatibility (client server : FrickSchema) : SchemaCompatibilityResult :=
  let result := fun compatible reason message =>
    ⟨compatible, reason, client.schemaRevision, server.schemaRevision, message⟩
  if client.schemaId ≠ server.schemaId then
    result false .schemaIdMismatch (some (s!"Schema id mismatch: client={client.schemaId} " ++
      s!"server={server.schemaId}"))
  else if client.schemaRevision < server.minimumClientRevision then
    result false .clientTooOld
      (some (s!"Client schema revision {client.schemaRevision} is below " ++
      s!"server minimum {server.minimumClientRevision}"))
  else if server.schemaRevision < client.minimumServerRevision then
    result false .serverTooOld
      (some (s!"Server schema revision {server.schemaRevision} is below " ++
      s!"client minimum {client.minimumServerRevision}"))
  else if client.hash ≠ server.hash then
    result true .revisionCompatibleHashMismatch
      (some "Schema revisions are compatible but hashes differ")
  else result true .exact none

/-! ## Capabilities -/

inductive FrickTransportCapability where
  | websocket
  | http
  | sse
  deriving Repr

inductive FrickEncodingCapability where
  | msgpack
  | json
  deriving Repr

inductive FrickPrimitiveCapability where
  | objects
  | streams
  | presence
  | signals
  | blobs
  | jobs
  | projections
  deriving Repr

inductive FrickBlobUploadCapability where
  | direct
  | resumable
  | signedUrl
  | localOnly
  deriving Repr

inductive FrickPushCapability where
  | apns
  | fcm
  | webPush
  | test
  deriving Repr

def FrickTransportCapability.asStr : FrickTransportCapability → String
  | websocket => "websocket"
  | http => "http"
  | sse => "sse"

def FrickEncodingCapability.asStr : FrickEncodingCapability → String
  | msgpack => "msgpack"
  | json => "json"

def FrickPrimitiveCapability.asStr : FrickPrimitiveCapability → String
  | objects => "objects"
  | streams => "streams"
  | presence => "presence"
  | signals => "signals"
  | blobs => "blobs"
  | jobs => "jobs"
  | projections => "projections"

/-- The wire name of a way to upload blobs. -/
def FrickBlobUploadCapability.asStr : FrickBlobUploadCapability → String
  | direct => "direct"
  | resumable => "resumable"
  | signedUrl => "signedUrl"
  | localOnly => "localOnly"

/-- The wire name of a push service. -/
def FrickPushCapability.asStr : FrickPushCapability → String
  | apns => "apns"
  | fcm => "fcm"
  | webPush => "webPush"
  | test => "test"

structure FrickSchemaCapability where
  schemaId : String
  schemaRevision : Int
  schemaHash : String
  deriving Repr

/-- `FrickClientCapabilities`, with the fields a `Hello` is judged by. -/
structure FrickClientCapabilities where
  schema : FrickSchemaCapability
  required : List String
  deriving Repr

/-- `FrickServerCapabilities`, without its limits. -/
structure FrickServerCapabilities where
  schema : FrickSchemaCapability
  transports : List FrickTransportCapability
  encodings : List FrickEncodingCapability
  primitives : List FrickPrimitiveCapability
  blobUploads : List FrickBlobUploadCapability
  push : List FrickPushCapability
  experimental : List String
  deriving Repr

def schemaCapability (schema : FrickSchema) : FrickSchemaCapability :=
  ⟨schema.schemaId, schema.schemaRevision, schema.hash⟩

def defaultServerCapabilities (schema : FrickSchema) : FrickServerCapabilities where
  schema := schemaCapability schema
  transports := [.websocket, .http]
  encodings := [.msgpack, .json]
  primitives := [.objects, .streams, .presence, .signals, .blobs, .jobs, .projections]
  blobUploads := [.direct]
  push := []
  experimental := []

def serverCapabilityNames (server : FrickServerCapabilities) : List String :=
  (server.transports.map fun name => "transport." ++ name.asStr) ++
    (server.encodings.map fun name => "encoding." ++ name.asStr) ++
    (server.primitives.map fun name => "primitive." ++ name.asStr) ++
    (server.blobUploads.map fun name => "blobUpload." ++ name.asStr) ++
    (server.push.map fun name => "push." ++ name.asStr) ++
    (server.experimental.map fun name => "experimental." ++ name)

def unsupportedRequiredCapabilities (client : FrickClientCapabilities)
    (server : FrickServerCapabilities) : List String :=
  client.required.filter fun name => name ∉ serverCapabilityNames server

lemma unsupportedRequiredCapabilities_eq_nil_iff {client : FrickClientCapabilities}
    {server : FrickServerCapabilities} :
    unsupportedRequiredCapabilities client server = [] ↔
      client.required ⊆ serverCapabilityNames server := by
  rw [unsupportedRequiredCapabilities, List.filter_eq_nil_iff]
  simp only [decide_eq_true_eq, not_not]
  rfl

end Frick.Protocol
