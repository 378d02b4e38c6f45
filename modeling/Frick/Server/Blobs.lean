import Frick.Framework.Text
import Frick.Server.Basic
import Frick.Store.Blob
import Frick.Store.Sharing

/-!
# Blobs: declaration, upload, resumable upload and download

`routes/blobs.rs`. `POST /blobs` declares a metadata row, `PUT /blobs/:id/content` uploads the
bytes in one body or, under a `Content-Range` header, one chunk of them, and
`GET /blobs/:id/content` serves them. An upload checks the requester against the stored owner, or
against the owner it names itself while there is no row; a declaration always checks the owner
named in its own body.

A partial upload is staged in the derivative table, in one row for each tenant and blob id.
-/

namespace Frick.Server

open Framework Protocol Store BlobTables

/-! ## Requests, responses, configuration -/

/-- What the upload handler reads of a `PUT /blobs/:id/content` request, headers and query
decoded. -/
structure BlobUpload where
  blobId : String
  ownerIdQuery : Option String := none
  ownerIdHeader : Option String := none
  contentType : Option String := none
  contentRange : Option String := none
  body : Bytes
  deriving Repr

/-- What the modelled routes answer. -/
inductive BlobResponse where
  /-- 201 to a declaration. -/
  | declared (blobId : String)
  /-- 200 or 201 to a complete upload. -/
  | stored (status : Nat) (blobId : String) (byteLength : Int) (contentHash : String)
  /-- 202 to an interior chunk. -/
  | accepted (blobId : String) (receivedOffset totalBytes : Nat)
  /-- 200 with the bytes. -/
  | content (mimeType blobId contentHash : String) (bytes : Bytes)
  | notFound (code : String)
  | error (err : ServerError)
  deriving Repr, DecidableEq

structure BlobValidateContext where
  tenantId : String
  blobId : String
  ownerId : String
  mimeType : String
  byteLength : Int
  preview : Bytes

/-- `BlobProcessor`: which uploads it looks at and, if it validates, why it rejects one. -/
structure BlobProcessor where
  id : String
  accepts : String → Int → Bool
  validate : Option (BlobValidateContext → Option String)

/-- What the routes read of the server's configuration. -/
structure BlobServer where
  /-- Lowercase hex of the SHA-256 digest. -/
  sha256Hex : Bytes → String
  maxBlobBytes : Int
  maxBlobBytesPerPrincipal : Int
  processors : List BlobProcessor
  hooks : List PolicyHook
  encryption : Option (AtRestEncryption Bytes)

/-- A server without cipher, processors, quota or hooks, for evaluating the model. -/
def plainBlobServer : BlobServer where
  sha256Hex := fun content => toString (content.map UInt8.toNat)
  maxBlobBytes := 1048576
  maxBlobBytesPerPrincipal := 9007199254740991
  processors := []
  hooks := []
  encryption := none

/-! ## Helpers -/

section

variable (server : BlobServer) (db : BlobTables) (principal : Principal)

def BlobServer.sha256ContentHash (content : Bytes) : String :=
  "sha256-" ++ server.sha256Hex content

def trimChars (text : List Char) : List Char :=
  ((text.dropWhile isWhiteSpace).reverse.dropWhile isWhiteSpace).reverse

def validateBlobContent (blobId : String) (expectedByteLength : Int) (expectedContentHash : String)
    (content : Bytes) (actualContentHash : String) : Except ServerError Unit :=
  let actualLen : Int := content.length
  if actualLen ≠ expectedByteLength then
    .error (.badRequest
      s!"blob {blobId} byteLength mismatch: expected {expectedByteLength}, got {actualLen}")
  -- Hashes of another scheme pass unchecked.
  else if "sha256-".toList.isPrefixOf expectedContentHash.toList ∧
      expectedContentHash ≠ actualContentHash then
    .error (.badRequest (s!"blob {blobId} contentHash mismatch: expected {expectedContentHash}, " ++
      s!"got {actualContentHash}"))
  else .ok ()

def inferMimeType (upload : BlobUpload) : String :=
  match upload.contentType with
  | none => "application/octet-stream"
  | some value =>
    match trimChars (value.toList.takeWhile (· ≠ ';')) with
    | [] => "application/octet-stream"
    | mime => String.ofList mime

def quotaConfigured (quota : Int) : Bool := quota < 9007199254740991

def tooLarge (actual : Nat) (configuredMax : Int) : ServerError :=
  .limit .maxBlobBytes (.map [
    (.string "limit", .string "maxBlobBytes"),
    (.string "configuredMax", .integer configuredMax),
    (.string "actualValue", .integer (min i64Max actual))])

def quotaExceeded (ownerId : String) (projected quota : Int) : ServerError :=
  .limit .maxBlobBytesPerPrincipal (.map [
    (.string "limit", .string "maxBlobBytesPerPrincipal"),
    (.string "configuredMax", .integer quota),
    (.string "actualValue", .integer projected),
    (.string "message",
      .string s!"blob quota exceeded for owner {ownerId}: {projected} > {quota}")])

/-- `store_error`. -/
def blobStoreError (err : StoreError) : ServerError := .badRequest err.message

/-! ## Authorization -/

def ownershipDecision (hooks : List PolicyHook) (principal : Principal) (ownerId : String)
    (blobId : Option String) (context : Option Value) : Except ServerError Unit :=
  let baseline := decideBaseline principal .blobWrite ⟨principal.tenantId, some ownerId⟩
  decisionToResult (applyPolicyHooks baseline
    { principal := principal
      action := .blobWrite
      resource := ⟨"blob", none, blobId, none, some ownerId, principal.tenantId⟩
      context := context } hooks)

def assertCanReadBlob (sharing : SharingTables) (principal : Principal) (ownerId blobId : String) :
    Except ServerError Unit :=
  match decideBaseline principal .blobRead ⟨principal.tenantId, some ownerId⟩ with
  | .allow => .ok ()
  | .deny reason publicMessage =>
    if reason = .ownerMismatch ∧
        sharing.hasActiveGrantForRecordId principal.tenantId principal.userId blobId then .ok ()
    else decisionToResult (.deny reason publicMessage)

/-! ## `POST /blobs` -/

/-- What `declare_blob` reads of its body after the ownership check. -/
def parseDeclaration (body : Value) (ownerId : String) : Except ServerError BlobMetadataInput := do
  let blobId ← requireString body "blobId" "blobId"
  let contentHash ← requireString body "contentHash" "contentHash"
  let byteLength ← requireNumber body "byteLength" "byteLength"
  let mimeType ← requireString body "mimeType" "mimeType"
  let storageKey := (mapGet body "storageKey").bind Value.asStr
  pure ⟨blobId, ownerId, contentHash, byteLength, mimeType, storageKey⟩

def BlobServer.checkDeclaration (body : Value) : Except ServerError BlobMetadataInput := do
  let ownerId ← requireString body "ownerId" "ownerId"
  ownershipDecision server.hooks principal ownerId none (some body)
  parseDeclaration body ownerId

def BlobServer.declareBlob
    (appId : String) (nowMs : Int) (body : Value) : BlobTables × BlobResponse :=
  match server.checkDeclaration principal body with
  | .error err => (db, .error err)
  | .ok input =>
    match db.create principal.tenantId input appId nowMs with
    | .error err => (db, .error (blobStoreError err))
    | .ok db => (db, .declared input.blobId)

/-! ## The upload sequence -/

structure ResolvedUpload where
  status : Nat
  responseContentHash : String
  ownerId : String
  mimeType : String
  existingByteLength : Int

/-- The owner a request names for a blob without a metadata row. -/
def requestedOwner (upload : BlobUpload) : Except ServerError String :=
  match upload.ownerIdQuery <|> upload.ownerIdHeader with
  | some ownerId =>
    if ownerId = "" then .error (.badRequest "ownerId must be a non-empty string")
    else .ok ownerId
  | none => .error (.badRequest "ownerId must be a non-empty string")

def BlobServer.resolveUpload
    (metadata : Option BlobMetadata) (upload : BlobUpload) (content : Bytes) :
    Except ServerError ResolvedUpload :=
  let contentHash := server.sha256ContentHash content
  match metadata with
  | some metadata => do
    ownershipDecision server.hooks principal metadata.ownerId (some upload.blobId) none
    validateBlobContent upload.blobId metadata.byteLength metadata.contentHash content contentHash
    pure ⟨200, metadata.contentHash, metadata.ownerId, metadata.mimeType, metadata.byteLength⟩
  | none => do
    let ownerId ← requestedOwner upload
    ownershipDecision server.hooks principal ownerId (some upload.blobId) none
    pure ⟨201, contentHash, ownerId, inferMimeType upload, 0⟩

def runSyncValidators (context : BlobValidateContext) : List BlobProcessor → Except ServerError Unit
  | [] => .ok ()
  | processor :: processors =>
    match processor.validate.bind fun validate => validate context with
    | some reason =>
      .error (.blobValidationRejected s!"Blob rejected by processor {processor.id}: {reason}"
        processor.id (some reason))
    | none => runSyncValidators context processors

/-- The quota projection, in `i64` arithmetic. -/
def BlobServer.checkQuota
    (appId : String) (resolved : ResolvedUpload) (content : Bytes) : Except ServerError Unit :=
  let quota := server.maxBlobBytesPerPrincipal
  if quotaConfigured quota then
    match db.totalBytesForOwner principal.tenantId resolved.ownerId appId with
    | .error err => .error (blobStoreError err)
    | .ok currentBytes =>
      let incoming := min i64Max content.length
      let projected := wrapI64 (wrapI64 (currentBytes - resolved.existingByteLength) + incoming)
      if projected > quota then .error (quotaExceeded resolved.ownerId projected quota) else .ok ()
  else .ok ()

/-- Every check on complete content, in order: owner and declared content, validators, quota. -/
def BlobServer.checkUpload (appId : String) (upload : BlobUpload) (content : Bytes) :
    Except ServerError ResolvedUpload := do
  let metadata := db.readMetadata principal.tenantId upload.blobId appId
  let resolved ← server.resolveUpload principal metadata upload content
  let context : BlobValidateContext := ⟨principal.tenantId, upload.blobId, resolved.ownerId,
    resolved.mimeType, content.length, content.take 4096⟩
  runSyncValidators context (server.processors.filter fun processor =>
    processor.accepts resolved.mimeType content.length)
  server.checkQuota db principal appId resolved content
  pure resolved

/-- The metadata row of a new blob is created before its bytes. -/
def BlobServer.createMetadata (appId : String) (nowMs : Int) (upload : BlobUpload) (content : Bytes)
    (resolved : ResolvedUpload) : Except StoreError BlobTables :=
  if (db.readMetadata principal.tenantId upload.blobId appId).isNone then
    db.create principal.tenantId ⟨upload.blobId, resolved.ownerId, server.sha256ContentHash content,
      content.length, inferMimeType upload, none⟩ appId nowMs
  else .ok db

/-- The upload sequence on complete content. A failed byte write leaves the new metadata row. -/
def BlobServer.storeUpload (appId : String) (nowMs : Int) (upload : BlobUpload) (content : Bytes) :
    BlobTables × BlobResponse :=
  match server.checkUpload db principal appId upload content with
  | .error err => (db, .error err)
  | .ok resolved =>
    match server.createMetadata db principal appId nowMs upload content resolved with
    | .error err => (db, .error (blobStoreError err))
    | .ok created =>
      match created.writeContent server.encryption principal.tenantId upload.blobId content
          appId nowMs with
      | .error err => (created, .error (blobStoreError err))
      | .ok written => (written, .stored resolved.status upload.blobId content.length
          resolved.responseContentHash)

/-! ## Resumable upload -/

structure ContentRange where
  start : Nat
  last : Nat
  total : Nat
  deriving Repr, DecidableEq

def ContentRange.isFinal (range : ContentRange) : Bool := range.last + 1 = range.total

def contentRangeFields (raw : List Char) : Option ContentRange := do
  let rest ← match trimChars raw with
    | 'b' :: 'y' :: 't' :: 'e' :: 's' :: ' ' :: rest => some rest
    | _ => none
  let (range, total) ← splitOnce '/' rest
  let (start, last) ← splitOnce '-' range
  let start ← parseUnsigned 64 (trimChars start)
  let last ← parseUnsigned 64 (trimChars last)
  let total ← parseUnsigned 64 (trimChars total)
  pure ⟨start, last, total⟩

def parseContentRange (raw : String) : Except ServerError ContentRange :=
  match contentRangeFields raw.toList with
  | some range =>
    if range.last < range.start ∨ range.total ≤ range.last then
      .error (.badRequest s!"invalid Content-Range header: {raw}")
    else .ok range
  | none => .error (.badRequest s!"invalid Content-Range header: {raw}")

example : parseContentRange "bytes 0-3/10" = .ok ⟨0, 3, 10⟩ := by decide +kernel

def stagingNamespace : String := "\x00aura-432-upload\x00"

def stagingDerivativeId : String := "chunk"

def stageKeyFor (blobId : String) : String := stagingNamespace ++ blobId

def readStagedBytes (tenantId blobId : String) : Bytes :=
  (db.readDerivative (stageKeyFor blobId) stagingDerivativeId tenantId).getD []

/-- The derivative row of `write_staged_bytes`, as `record_derivative` completes it. -/
def BlobServer.stagedRow (tenantId blobId : String) (content : Bytes)
    (nowMs : Int) : DerivativeRow where
  parentBlobId := stageKeyFor blobId
  derivativeId := stagingDerivativeId
  tenantId := tenantId
  processorId := "aura-432-chunk-stage"
  mimeType := "application/octet-stream"
  byteLength := content.length
  contentHash := server.sha256ContentHash content
  storageKey := s!"derivative/{stageKeyFor blobId}/{stagingDerivativeId}"
  content := content
  metadata := none
  createdAt := isoFromEpochMs nowMs

def BlobServer.writeStagedBytes (tenantId blobId : String)
    (content : Bytes) (nowMs : Int) : BlobTables :=
  db.recordDerivative (server.stagedRow tenantId blobId content nowMs)

def clearStagedBytes (tenantId blobId : String) : BlobTables :=
  db.deleteDerivatives (stageKeyFor blobId) tenantId

def resolveChunkOwner (metadata : Option BlobMetadata) (upload : BlobUpload) :
    Except ServerError String :=
  match metadata with
  | some metadata => .ok metadata.ownerId
  | none => requestedOwner upload

/-- `uploadOffsetMismatch`. -/
def offsetMismatch (stagedLen start : Nat) : ServerError :=
  .storageConflict (.map [
    (.string "reason", .string "uploadOffsetMismatch"),
    (.string "expectedOffset", .integer (min i64Max stagedLen)),
    (.string "receivedOffset", .integer (min i64Max start))])

/-- The checks of `put_content_chunk` up to the assembled bytes. -/
def BlobServer.admitChunk
    (appId : String) (range : ContentRange) (upload : BlobUpload) : Except ServerError Bytes :=
  let declared := range.last - range.start + 1
  let carried := upload.body.length
  if carried ≠ declared then
    .error (.badRequest s!"Content-Range declared {declared} bytes but the body carried {carried}")
  else if min i64Max range.total > server.maxBlobBytes then
    .error (tooLarge range.total server.maxBlobBytes)
  else do
    let metadata := db.readMetadata principal.tenantId upload.blobId appId
    let ownerId ← resolveChunkOwner metadata upload
    ownershipDecision server.hooks principal ownerId (some upload.blobId) none
    let staged := readStagedBytes db principal.tenantId upload.blobId
    if range.start ≠ staged.length then .error (offsetMismatch staged.length range.start)
    else pure (staged ++ upload.body)

def BlobServer.putContentChunk
    (appId : String) (nowMs : Int) (range : ContentRange) (upload : BlobUpload) :
    BlobTables × BlobResponse :=
  match server.admitChunk db principal appId range upload with
  | .error err => (db, .error err)
  | .ok assembled =>
    if !range.isFinal then
      (server.writeStagedBytes db principal.tenantId upload.blobId assembled nowMs,
        .accepted upload.blobId assembled.length range.total)
    else if assembled.length ≠ range.total then
      (db, .error (.badRequest (s!"assembled upload is {assembled.length} bytes but " ++
        s!"Content-Range declared {range.total}")))
    else match server.storeUpload db principal appId nowMs upload assembled with
      | (written, .stored status blobId byteLength contentHash) =>
        (clearStagedBytes written principal.tenantId upload.blobId,
          .stored status blobId byteLength contentHash)
      | failed => failed

def BlobServer.putContent
    (appId : String) (nowMs : Int) (upload : BlobUpload) : BlobTables × BlobResponse :=
  match upload.contentRange with
  | some header =>
    match parseContentRange header with
    | .error err => (db, .error err)
    | .ok range => server.putContentChunk db principal appId nowMs range upload
  | none =>
    if min i64Max upload.body.length > server.maxBlobBytes then
      (db, .error (tooLarge upload.body.length server.maxBlobBytes))
    else server.storeUpload db principal appId nowMs upload upload.body

/-! ## `GET /blobs/:id/content` -/

def BlobServer.getContent (sharing : SharingTables)
    (principal : Principal) (appId blobId : String) : BlobResponse :=
  match db.readContent server.encryption principal.tenantId blobId appId with
  | .error err => .error (blobStoreError err)
  | .ok content =>
    match db.readMetadata principal.tenantId blobId appId, content with
    | some metadata, some bytes =>
      match assertCanReadBlob sharing principal metadata.ownerId metadata.blobId with
      | .error err => .error err
      | .ok () => .content metadata.mimeType metadata.blobId metadata.contentHash bytes
    | _, _ => .notFound "blob_content_not_found"

/-! ## Runs -/

/-- What a request asks for. -/
inductive BlobCall where
  | declare (body : Value)
  | put (upload : BlobUpload)
  | get (blobId : String)

structure BlobRequest where
  principal : Principal
  appId : String
  nowMs : Int
  call : BlobCall

/-- The tables, and every request with its answer. -/
structure BlobWorld where
  tables : BlobTables
  sharing : SharingTables
  log : List (BlobRequest × BlobResponse)

def BlobWorld.empty : BlobWorld := ⟨.empty, .empty, []⟩

/-- The handler of a request. -/
def BlobServer.handle (w : BlobWorld) (r : BlobRequest) : BlobTables × BlobResponse :=
  match r.call with
  | .declare body => server.declareBlob w.tables r.principal r.appId r.nowMs body
  | .put upload => server.putContent w.tables r.principal r.appId r.nowMs upload
  | .get blobId => (w.tables, server.getContent w.tables w.sharing r.principal r.appId blobId)

/-- One request, logged with its answer. -/
def BlobServer.serve (w : BlobWorld) (r : BlobRequest) : BlobWorld :=
  { w with
    tables := (server.handle w r).1
    log := w.log ++ [(r, (server.handle w r).2)] }

end

/-! ## What the handlers do -/

section Handlers

variable {server : BlobServer} {db : BlobTables} {principal : Principal} {appId : String}
  {nowMs : Int} {upload : BlobUpload} {content : Bytes}

variable {ownerId blobId : String} {resolved : ResolvedUpload} {created : BlobTables}
  {row : BlobMetadata}

lemma eq_of_ownershipDecision {hooks : List PolicyHook} {blobId : Option String}
    {context : Option Value}
    (h : ownershipDecision hooks principal ownerId blobId context = .ok ()) :
    ownerId = principal.userId := by
  cases hbaseline : decideBaseline principal .blobWrite ⟨principal.tenantId, some ownerId⟩ with
  | allow => exact eq_owner_of_decideBaseline (by simp) hbaseline
  | deny => simp [ownershipDecision, hbaseline, applyPolicyHooks, decisionToResult] at h

lemma validateBlobContent_eq_ok {byteLength : Int} {digest actual : String}
    (h : validateBlobContent blobId byteLength digest content actual = .ok ()) :
    (content.length : Int) = byteLength ∧
      ("sha256-".toList.isPrefixOf digest.toList → digest = actual) := by
  unfold validateBlobContent at h
  dsimp only at h
  split_ifs at h with hlen hhash
  exact ⟨not_not.mp hlen, fun hsha => not_not.mp fun hne => hhash ⟨hsha, hne⟩⟩

lemma eq_of_assertCanReadBlob (h : assertCanReadBlob .empty principal ownerId blobId = .ok ()) :
    ownerId = principal.userId := by
  cases hbaseline : decideBaseline principal .blobRead ⟨principal.tenantId, some ownerId⟩ with
  | allow => exact eq_owner_of_decideBaseline (by simp) hbaseline
  | deny =>
    simp [assertCanReadBlob, hbaseline, SharingTables.hasActiveGrantForRecordId,
      SharingTables.empty, Table.empty, decisionToResult] at h

lemma checkDeclaration_eq_ok {body : Value} {input : BlobMetadataInput}
    (h : server.checkDeclaration principal body = .ok input) :
    requireString body "ownerId" "ownerId" = .ok principal.userId ∧
      ownershipDecision server.hooks principal principal.userId none (some body) = .ok () ∧
      parseDeclaration body principal.userId = .ok input ∧ input.ownerId = principal.userId := by
  obtain ⟨ownerId, howner, h⟩ := bind_eq_ok.mp h
  obtain ⟨_, hallowed, hparse⟩ := bind_eq_ok.mp h
  obtain rfl := eq_of_ownershipDecision hallowed
  refine ⟨howner, hallowed, hparse, ?_⟩
  obtain ⟨blobId, _, hparse⟩ := bind_eq_ok.mp hparse
  obtain ⟨digest, _, hparse⟩ := bind_eq_ok.mp hparse
  obtain ⟨byteLength, _, hparse⟩ := bind_eq_ok.mp hparse
  obtain ⟨mimeType, _, hparse⟩ := bind_eq_ok.mp hparse
  obtain rfl := Except.ok.inj hparse
  rfl

/-- The tables as an upload leaves them before it writes the bytes: at most a metadata row is new,
it belongs to the requester, and there was none before. -/
structure Prepared (db created : BlobTables) (principal : Principal) (appId blobId : String) :
    Prop where
  content : created.content = db.content
  derivatives : created.derivatives = db.derivatives
  metadata : created.metadata = db.metadata ∨
    db.readMetadata principal.tenantId blobId appId = none ∧
      ∃ (input : BlobMetadataInput) (nowMs : Int), input.blobId = blobId ∧
        input.ownerId = principal.userId ∧ 0 ≤ input.byteLength ∧ created.metadata =
          db.metadata.upsert (newMetadata principal.tenantId input appId nowMs)

lemma Prepared.refl (db : BlobTables) (principal : Principal) (appId blobId : String) :
    Prepared db db principal appId blobId := ⟨rfl, rfl, .inl rfl⟩

lemma Prepared.mem (h : Prepared db created principal appId blobId) (hrow : row ∈ db.metadata)
    (hten : row.tenantId = principal.tenantId) (happ : row.appId = appId) :
    row ∈ created.metadata := by
  rcases h.metadata with hsame | ⟨hnone, new, _, hnew, _, _, hups⟩
  · rwa [hsame]
  · have hother : row.blobId ≠ blobId := readMetadata_eq_none hnone hrow happ hten
    rw [hups]
    exact Table.mem_upsert.mpr (.inr ⟨hrow, fun hkey => hother (Eq.trans hkey hnew)⟩)

lemma Prepared.old_or_new (h : Prepared db created principal appId blobId)
    (hrow : row ∈ created.metadata) :
    row ∈ db.metadata ∨ row.tenantId = principal.tenantId ∧ row.appId = appId := by
  rcases h.metadata with hsame | ⟨_, new, _, _, _, _, hups⟩
  · rw [hsame] at hrow
    exact .inl hrow
  · rw [hups] at hrow
    rcases Table.mem_upsert.mp hrow with rfl | ⟨hold, _⟩
    · exact .inr ⟨rfl, rfl⟩
    · exact .inl hold

/-- An upload of `content` that goes through: `created` before the bytes, `written` after them. -/
structure Stores (server : BlobServer) (db : BlobTables) (r : BlobRequest) (upload : BlobUpload)
    (content : Bytes) (created written : BlobTables) : Prop where
  checked : ∃ resolved, server.checkUpload db r.principal r.appId upload content = .ok resolved ∧
    server.createMetadata db r.principal r.appId r.nowMs upload content resolved = .ok created
  write : created.writeContent server.encryption r.principal.tenantId upload.blobId content r.appId
    r.nowMs = .ok written

lemma checkUpload_eq_ok (h : server.checkUpload db principal appId upload content = .ok resolved) :
    resolved.ownerId = principal.userId ∧
      (∀ row, db.readMetadata principal.tenantId upload.blobId appId = some row →
        row.ownerId = principal.userId ∧ validateBlobContent upload.blobId row.byteLength
          row.contentHash content (server.sha256ContentHash content) = .ok ()) ∧
      resolved.existingByteLength = ((db.readMetadata principal.tenantId upload.blobId appId).map
        fun row => row.byteLength).getD 0 ∧
      server.checkQuota db principal appId resolved content = .ok () := by
  obtain ⟨found, hresol, h⟩ := bind_eq_ok.mp h
  obtain ⟨_, _, h⟩ := bind_eq_ok.mp h
  obtain ⟨_, hquota, h⟩ := bind_eq_ok.mp h
  obtain rfl := Except.ok.inj h
  cases hmeta : db.readMetadata principal.tenantId upload.blobId appId with
  | some =>
    rw [hmeta] at hresol
    obtain ⟨_, hallowed, hresol⟩ := bind_eq_ok.mp hresol
    obtain ⟨_, hvalid, hresol⟩ := bind_eq_ok.mp hresol
    obtain rfl := Except.ok.inj hresol
    have howner := eq_of_ownershipDecision hallowed
    exact ⟨howner, fun other hother => Option.some.inj hother ▸ ⟨howner, hvalid⟩, rfl, hquota⟩
  | none =>
    rw [hmeta] at hresol
    obtain ⟨ownerId, _, hresol⟩ := bind_eq_ok.mp hresol
    obtain ⟨_, hallowed, hresol⟩ := bind_eq_ok.mp hresol
    obtain rfl := Except.ok.inj hresol
    exact ⟨eq_of_ownershipDecision hallowed, nofun, rfl, hquota⟩

lemma prepared_of_createMetadata
    (hcheck : server.checkUpload db principal appId upload content = .ok resolved)
    (h : server.createMetadata db principal appId nowMs upload content resolved = .ok created) :
    Prepared db created principal appId upload.blobId ∧
      ∃ row, created.readMetadata principal.tenantId upload.blobId appId = some row ∧
        row.ownerId = principal.userId ∧ validateBlobContent upload.blobId row.byteLength
          row.contentHash content (server.sha256ContentHash content) = .ok () := by
  obtain ⟨howner, hstored, _⟩ := checkUpload_eq_ok hcheck
  unfold BlobServer.createMetadata at h
  cases hmeta : db.readMetadata principal.tenantId upload.blobId appId with
  | none =>
    rw [hmeta] at h
    have hread := readMetadata_of_create h
    refine ⟨?_, _, hread, howner, by simp [validateBlobContent, newMetadata]⟩
    rw [create_eq_ok h]
    exact ⟨rfl, rfl, .inr ⟨hmeta, _, nowMs, rfl, howner, Int.natCast_nonneg _, rfl⟩⟩
  | some row =>
    rw [hmeta] at h
    obtain rfl := Except.ok.inj h
    exact ⟨.refl _ _ _ _, row, hmeta, hstored row hmeta⟩

section

variable {r : BlobRequest} {written : BlobTables}

variable (h : Stores server db r upload content created written)
include h

lemma Stores.prepared : Prepared db created r.principal r.appId upload.blobId := by
  obtain ⟨_, hcheck, hmake⟩ := h.checked
  exact (prepared_of_createMetadata hcheck hmake).1

lemma Stores.exists_row :
    ∃ row, written.readMetadata r.principal.tenantId upload.blobId r.appId = some row ∧
      row.ownerId = r.principal.userId ∧ validateBlobContent upload.blobId row.byteLength
        row.contentHash content (server.sha256ContentHash content) = .ok () := by
  obtain ⟨_, hcheck, hmake⟩ := h.checked
  obtain ⟨_, rfl⟩ := writeContent_eq_ok h.write
  exact (prepared_of_createMetadata hcheck hmake).2

end

/-- **The upload sequence.** It fails with at most a metadata row left behind, or it writes exactly
the given content for a blob that belongs to the requester. -/
lemma storeUpload_cases (server : BlobServer) (db : BlobTables) (r : BlobRequest)
    (upload : BlobUpload) (content : Bytes) :
    (∃ created err, Prepared db created r.principal r.appId upload.blobId ∧
        server.storeUpload db r.principal r.appId r.nowMs upload content = (created, .error err)) ∨
      ∃ created written status digest, Stores server db r upload content created written ∧
        server.storeUpload db r.principal r.appId r.nowMs upload content =
          (written, .stored status upload.blobId content.length digest) := by
  unfold BlobServer.storeUpload
  cases hcheck : server.checkUpload db r.principal r.appId upload content with
  | error err => exact .inl ⟨db, err, .refl _ _ _ _, rfl⟩
  | ok resolved =>
    dsimp only
    cases hmake : server.createMetadata db r.principal r.appId r.nowMs upload content resolved with
    | error err => exact .inl ⟨db, _, .refl _ _ _ _, rfl⟩
    | ok created =>
      dsimp only
      cases hwrite : created.writeContent server.encryption r.principal.tenantId upload.blobId
          content r.appId r.nowMs with
      | error err => exact .inl ⟨created, _, (prepared_of_createMetadata hcheck hmake).1, rfl⟩
      | ok written =>
        exact .inr ⟨created, written, _, _, ⟨⟨resolved, hcheck, hmake⟩, hwrite⟩, rfl⟩

/-- A chunk that `admitChunk` lets through: where it joins the staged bytes, and who may. -/
@[mk_iff]
structure Joins (server : BlobServer) (db : BlobTables) (principal : Principal) (appId : String)
    (range : ContentRange) (upload : BlobUpload) : Prop where
  carried : upload.body.length = range.last - range.start + 1
  size : min i64Max range.total ≤ server.maxBlobBytes
  owner : resolveChunkOwner (db.readMetadata principal.tenantId upload.blobId appId) upload =
    .ok principal.userId
  allowed : ownershipDecision server.hooks principal principal.userId (some upload.blobId) none =
    .ok ()
  offset : range.start = (readStagedBytes db principal.tenantId upload.blobId).length

instance (server : BlobServer) (db : BlobTables) (principal : Principal) (appId : String)
    (range : ContentRange) (upload : BlobUpload) :
    Decidable (Joins server db principal appId range upload) :=
  decidable_of_iff' _ (joins_iff server db principal appId range upload)

lemma admitChunk_eq_ok {range : ContentRange} {assembled : Bytes}
    (h : server.admitChunk db principal appId range upload = .ok assembled) :
    Joins server db principal appId range upload ∧
      assembled = readStagedBytes db principal.tenantId upload.blobId ++ upload.body := by
  unfold BlobServer.admitChunk at h
  dsimp only at h
  split_ifs at h with hcarried hsize hoffset
  · obtain ⟨_, _, h⟩ := bind_eq_ok.mp h
    obtain ⟨_, _, h⟩ := bind_eq_ok.mp h
    exact nomatch h
  obtain ⟨ownerId, howner, h⟩ := bind_eq_ok.mp h
  obtain ⟨_, hallowed, hassembled⟩ := bind_eq_ok.mp h
  obtain rfl := eq_of_ownershipDecision hallowed
  obtain rfl := Except.ok.inj hassembled
  exact ⟨⟨not_not.mp hcarried, by omega, howner, hallowed, not_not.mp hoffset⟩, rfl⟩

/-- What a request does to the tables and how it is answered. -/
inductive BlobEffect (server : BlobServer) (w : BlobWorld) (r : BlobRequest) :
    BlobTables × BlobResponse → Prop where
  | got {blobId : String} (hcall : r.call = .get blobId) : BlobEffect server w r
      (w.tables, server.getContent w.tables w.sharing r.principal r.appId blobId)
  /-- At most a metadata row is left behind. -/
  | failed {blobId : String} {created : BlobTables} {err : ServerError}
      (hprepared : Prepared w.tables created r.principal r.appId blobId) :
      BlobEffect server w r (created, .error err)
  | declared {body : Value} {input : BlobMetadataInput} (hcall : r.call = .declare body)
      (hcheck : server.checkDeclaration r.principal body = .ok input) : BlobEffect server w r
      ({ w.tables with
          metadata := w.tables.metadata.upsert
            (newMetadata r.principal.tenantId input r.appId r.nowMs) },
        .declared input.blobId)
  /-- An upload in one body. -/
  | whole {upload : BlobUpload} {created written : BlobTables} {status : Nat} {contentHash : String}
      (hcall : r.call = .put upload) (hheader : upload.contentRange = none)
      (hstores : Stores server w.tables r upload upload.body created written)
      (hsize : min i64Max upload.body.length ≤ server.maxBlobBytes) :
      BlobEffect server w r
        (written, .stored status upload.blobId upload.body.length contentHash)
  /-- An interior chunk is staged behind the bytes before it. -/
  | staged {upload : BlobUpload} {header : String} {range : ContentRange} {offset : Nat}
      (hcall : r.call = .put upload) (hheader : upload.contentRange = some header)
      (hparse : parseContentRange header = .ok range)
      (hjoins : Joins server w.tables r.principal r.appId range upload) : BlobEffect server w r
      (server.writeStagedBytes w.tables r.principal.tenantId upload.blobId
        (readStagedBytes w.tables r.principal.tenantId upload.blobId ++ upload.body) r.nowMs,
        .accepted upload.blobId offset range.total)
  /-- A final chunk completes the upload with the bytes before it. -/
  | final {upload : BlobUpload} {header : String} {range : ContentRange}
      {created written : BlobTables} {status : Nat} {byteLength : Int} {contentHash : String}
      (hcall : r.call = .put upload) (hheader : upload.contentRange = some header)
      (hparse : parseContentRange header = .ok range)
      (hjoins : Joins server w.tables r.principal r.appId range upload)
      (hstores : Stores server w.tables r upload
        (readStagedBytes w.tables r.principal.tenantId upload.blobId ++ upload.body) created
        written)
      (hlength : (readStagedBytes w.tables r.principal.tenantId upload.blobId ++
        upload.body).length = range.total) : BlobEffect server w r
      (clearStagedBytes written r.principal.tenantId upload.blobId,
        .stored status upload.blobId byteLength contentHash)

lemma effect_putContentChunk {w : BlobWorld} {r : BlobRequest} {header : String}
    {range : ContentRange} (hcall : r.call = .put upload)
    (hheader : upload.contentRange = some header)
    (hparse : parseContentRange header = .ok range) : BlobEffect server w r
      (server.putContentChunk w.tables r.principal r.appId r.nowMs range upload) := by
  unfold BlobServer.putContentChunk
  cases hadmit : server.admitChunk w.tables r.principal r.appId range upload with
  | error => exact .failed (.refl _ _ _ upload.blobId)
  | ok =>
    obtain ⟨hjoins, rfl⟩ := admitChunk_eq_ok hadmit
    dsimp only
    split_ifs with hinterior hlen
    · exact .staged hcall hheader hparse hjoins
    · exact .failed (.refl _ _ _ upload.blobId)
    rcases storeUpload_cases server w.tables r upload
        (readStagedBytes w.tables r.principal.tenantId upload.blobId ++ upload.body) with
      ⟨_, _, hprepared, heq⟩ | ⟨_, _, _, _, hstores, heq⟩
    · rw [heq]
      exact .failed hprepared
    · rw [heq]
      exact .final hcall hheader hparse hjoins hstores (not_not.mp hlen)

lemma handle_effect (server : BlobServer) (w : BlobWorld) (r : BlobRequest) :
    BlobEffect server w r (server.handle w r) := by
  unfold BlobServer.handle
  cases hcall : r.call with
  | get => exact .got hcall
  | declare body =>
    dsimp only [BlobServer.declareBlob]
    cases hcheck : server.checkDeclaration r.principal body with
    | error => exact .failed (.refl _ _ _ "")
    | ok input =>
      dsimp only
      cases hmake : w.tables.create r.principal.tenantId input r.appId r.nowMs with
      | error => exact .failed (.refl _ _ _ "")
      | ok =>
        rw [create_eq_ok hmake]
        exact .declared hcall hcheck
  | put upload =>
    dsimp only [BlobServer.putContent]
    cases hheader : upload.contentRange with
    | some header =>
      dsimp only
      cases hparse : parseContentRange header with
      | error => exact .failed (.refl _ _ _ "")
      | ok range => exact effect_putContentChunk hcall hheader hparse
    | none =>
      split_ifs with hsize
      · exact .failed (.refl _ _ _ "")
      rcases storeUpload_cases server w.tables r upload upload.body with
        ⟨_, _, hprepared, heq⟩ | ⟨_, _, _, _, hstores, heq⟩
      · rw [heq]
        exact .failed hprepared
      · rw [heq]
        exact .whole hcall hheader hstores (not_lt.mp hsize)

/-! ### The staging area -/

lemma stageKeyFor_inj {other : String} (h : stageKeyFor blobId = stageKeyFor other) :
    blobId = other := by
  have hlist := congrArg String.toList h
  rw [stageKeyFor, stageKeyFor, String.toList_append, String.toList_append] at hlist
  exact String.toList_inj.mp (List.append_cancel_left hlist)

lemma readStagedBytes_congr {db' : BlobTables} (h : db'.derivatives = db.derivatives)
    (tenantId blobId : String) :
    readStagedBytes db' tenantId blobId = readStagedBytes db tenantId blobId := by
  rw [readStagedBytes, readStagedBytes, readDerivative, readDerivative, h]

lemma readStagedBytes_write (server : BlobServer) (db : BlobTables)
    (tenantId blobId tenant other : String) (content : Bytes) (nowMs : Int) :
    readStagedBytes (server.writeStagedBytes db tenantId blobId content nowMs) tenant other =
      if tenantId = tenant ∧ blobId = other then content else readStagedBytes db tenant other := by
  split_ifs with hsame
  · obtain ⟨rfl, rfl⟩ := hsame
    have hself := readDerivative_recordDerivative_self db
      (server.stagedRow tenantId blobId content nowMs)
    exact congrArg (Option.getD · []) hself
  · have hother := readDerivative_recordDerivative_of_ne db
      (server.stagedRow tenantId blobId content nowMs) (stageKeyFor other) stagingDerivativeId
      tenant fun hkey => by
        simp only [DerivativeRow.primaryKey, Prod.mk.injEq] at hkey
        exact hsame ⟨hkey.1.symm, (stageKeyFor_inj hkey.2.1).symm⟩
    exact congrArg (Option.getD · []) hother

lemma readStagedBytes_clear (db : BlobTables) (tenantId blobId tenant other : String) :
    readStagedBytes (clearStagedBytes db tenantId blobId) tenant other =
      if tenantId = tenant ∧ blobId = other then [] else readStagedBytes db tenant other := by
  split_ifs with hsame
  · obtain ⟨rfl, rfl⟩ := hsame
    rw [readStagedBytes, clearStagedBytes, readDerivative_deleteDerivatives_self]
    rfl
  · rw [readStagedBytes, clearStagedBytes, readDerivative_deleteDerivatives_of_ne]
    · rfl
    · rintro ⟨hten, hkey⟩
      exact hsame ⟨hten.symm, (stageKeyFor_inj hkey).symm⟩

lemma getContent_eq_content {sharing : SharingTables} {mimeType found digest : String}
    {bytes : Bytes} (h : server.getContent db sharing principal appId blobId =
      .content mimeType found digest bytes) :
    found = blobId ∧
      db.readContent server.encryption principal.tenantId blobId appId = .ok (some bytes) ∧
      ∃ row, db.readMetadata principal.tenantId blobId appId = some row ∧ row.contentHash = digest ∧
        assertCanReadBlob sharing principal row.ownerId row.blobId = .ok () := by
  unfold BlobServer.getContent at h
  split at h
  · exact nomatch h
  next content hread =>
    split at h
    next row bytes' hrow =>
      split at h
      · exact nomatch h
      next hallowed =>
        injection h with _ hfound hhash hbytes
        have hblob := (readMetadata_eq_some_iff.mp hrow).2.2.2
        rw [hread, hbytes, ← hfound, hblob]
        exact ⟨rfl, rfl, row, hrow, hhash, hallowed⟩
    · exact nomatch h

lemma served_content {w : BlobWorld} {r : BlobRequest} {mimeType digest : String}
    {bytes : Bytes} (h : (server.handle w r).2 = .content mimeType blobId digest bytes) :
    w.tables.readContent server.encryption r.principal.tenantId blobId r.appId = .ok (some bytes) ∧
      ∃ row, w.tables.readMetadata r.principal.tenantId blobId r.appId = some row ∧
        row.contentHash = digest ∧
        assertCanReadBlob w.sharing r.principal row.ownerId row.blobId = .ok () := by
  have heff := handle_effect server w r
  generalize server.handle w r = outcome at heff h
  cases heff with
  | failed | declared | whole | staged | final => exact nomatch h
  | got =>
    obtain ⟨rfl, hserved⟩ := getContent_eq_content h
    exact hserved

end Handlers

end Frick.Server
