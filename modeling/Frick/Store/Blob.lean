import Frick.Framework.Partition
import Frick.Store.Dialect

/-!
# Blobs: metadata, bytes and derivatives

`stores/blob.rs`, the SQL arm of `stores/blob_bytes.rs` and the facade's byte and derivative
functions. The primary key of `blob_metadata` and of `blob_content` is the blob id alone; tenant and
app are plain columns that every read filters by. `create` guards against another app's row before
it upserts, and against nothing else.

`blob_content` has a foreign key on `blob_metadata` with `ON DELETE CASCADE`. SQLite runs with
foreign keys off; Postgres checks it, so there a byte write needs a metadata row under its id, and
the delete of a metadata row takes the bytes along.
-/

namespace Frick.Store

open Framework Table

structure BlobMetadataInput where
  blobId : String
  ownerId : String
  contentHash : String
  byteLength : Int
  mimeType : String
  storageKey : Option String
  deriving Repr, DecidableEq

/-- `BlobMetadata`, a row of `blob_metadata`. -/
structure BlobMetadata extends BlobMetadataInput where
  tenantId : String
  appId : String
  createdAt : String
  deriving Repr, DecidableEq

structure BlobContentRow where
  blobId : String
  appId : String
  tenantId : String
  content : Bytes
  updatedAt : String
  deriving Repr

structure DerivativeRow where
  parentBlobId : String
  derivativeId : String
  tenantId : String
  processorId : String
  mimeType : String
  byteLength : Int
  contentHash : String
  storageKey : String
  content : Bytes
  metadata : Option String
  createdAt : String
  deriving Repr

/-- `PRIMARY KEY (tenant_id, parent_blob_id, derivative_id)`. -/
def DerivativeRow.primaryKey (row : DerivativeRow) : String × String × String :=
  (row.tenantId, row.parentBlobId, row.derivativeId)

open DerivativeRow (primaryKey)

def BlobMetadata.primaryKey (row : BlobMetadata) : String := row.blobId

def BlobMetadata.partition (row : BlobMetadata) : String × String := (row.appId, row.tenantId)

def BlobContentRow.partition (row : BlobContentRow) : String × String := (row.appId, row.tenantId)

/-- The three tables of the blob store. -/
structure BlobTables where
  metadata : Table BlobMetadata.primaryKey
  content : Table BlobContentRow.blobId
  derivatives : Table primaryKey

namespace BlobTables

/-- A freshly migrated database. -/
def empty : BlobTables := ⟨Table.empty _, Table.empty _, Table.empty _⟩

/-! ## `BlobStore` -/

section

variable (db : BlobTables) (tenantId blobId : String)

/-- The row `create` upserts. -/
def newMetadata (input : BlobMetadataInput) (appId : String) (nowMs : Int) : BlobMetadata :=
  ⟨input, tenantId, appId, isoFromEpochMs nowMs⟩

/-- `BlobStore::create`: the cross-app guard and the upsert. -/
def create (input : BlobMetadataInput) (appId : String)
    (nowMs : Int) : Except StoreError BlobTables :=
  let created := { db with metadata := db.metadata.upsert (newMetadata tenantId input appId nowMs) }
  match db.metadata.find? input.blobId with
  | some owner =>
    if owner.appId ≠ appId then
      .error (.crossAppAccess appId owner.appId tenantId "blob_metadata" input.blobId)
    else .ok created
  | none => .ok created

/-- `BlobStore::read`. -/
def readMetadata (appId : String) : Option BlobMetadata :=
  db.metadata.rows.find? fun row =>
    row.appId = appId ∧ row.tenantId = tenantId ∧ row.blobId = blobId

def lengthsForOwner (ownerId appId : String) : List Int :=
  (db.metadata.rows.filter fun row =>
    row.appId = appId ∧ row.tenantId = tenantId ∧ row.ownerId = ownerId).map
      fun row => row.byteLength

def totalBytesForOwner (ownerId appId : String) : Except StoreError Int :=
  sumI64 (db.lengthsForOwner tenantId ownerId appId)

/-- `BlobStore::create` on either engine: `byte_length` is bound to an `INTEGER`. -/
def createOn (dialect : SqlDialect) (input : BlobMetadataInput) (appId : String) (nowMs : Int) :
    Except StoreError BlobTables := do
  let created ← db.create tenantId input appId nowMs
  dialect.bindParams [⟨input.byteLength, .int4⟩]
  pure created

/-- `BlobStore::delete_metadata`: also whether a row was reported as deleted. -/
def deleteMetadata (dialect : SqlDialect) (appId : String) : BlobTables × Bool :=
  let doomed : BlobMetadata → Bool := fun row =>
    row.appId = appId ∧ row.tenantId = tenantId ∧ row.blobId = blobId
  let metadata := db.metadata.deleteWhere doomed
  let found := db.metadata.rows.any doomed
  match dialect with
  | .sqlite => ({ db with metadata }, found)
  -- The foreign key cascades, and the arm reports no changes.
  | .postgres =>
    ({ db with metadata, content := db.content.deleteWhere fun row => found ∧ row.blobId = blobId },
      false)

/-! ## Bytes -/

/-- The upsert of `SqlBlobBytesDriver::write`. -/
def writeBytes (content : Bytes) (appId : String) (nowMs : Int) : BlobTables :=
  { db with content := db.content.upsert ⟨blobId, appId, tenantId, content, isoFromEpochMs nowMs⟩ }

/-- `SqlBlobBytesDriver::write` on either engine: Postgres checks the foreign key. -/
def writeBytesOn (dialect : SqlDialect) (content : Bytes) (appId : String) (nowMs : Int) :
    Except StoreError BlobTables :=
  if dialect = .postgres ∧ (db.metadata.find? blobId).isNone then
    .error (.driver "insert or update on table \"blob_content\" violates foreign key constraint")
  else .ok (db.writeBytes tenantId blobId content appId nowMs)

/-- `SqlBlobBytesDriver::read`. -/
def readBytes (appId : String) : Option Bytes :=
  (db.content.rows.find? fun row =>
    row.appId = appId ∧ row.tenantId = tenantId ∧ row.blobId = blobId).map BlobContentRow.content

/-- `SqlBlobBytesDriver::delete`. -/
def deleteBytes (appId : String) : BlobTables :=
  { db with
    content := db.content.deleteWhere fun row =>
      row.appId = appId ∧ row.tenantId = tenantId ∧ row.blobId = blobId }

/-- What `write_content` hands to the bytes driver. -/
def sealContent (encryption : Option (AtRestEncryption Bytes)) (tenantId : String)
    (content : Bytes) : Except StoreError Bytes :=
  match encryption with
  | some encryption => encryption.encrypt tenantId content
  | none => .ok content

def writeContent (encryption : Option (AtRestEncryption Bytes)) (db : BlobTables)
    (tenantId blobId : String) (content : Bytes) (appId : String) (nowMs : Int) :
    Except StoreError BlobTables := do
  let stored ← sealContent encryption tenantId content
  pure (db.writeBytes tenantId blobId stored appId nowMs)

def readContent (encryption : Option (AtRestEncryption Bytes)) (db : BlobTables)
    (tenantId blobId appId : String) : Except StoreError (Option Bytes) :=
  match encryption, db.readBytes tenantId blobId appId with
  | some encryption, some stored => do
    let content ← encryption.decrypt tenantId stored
    pure (some content)
  | none, stored => .ok stored
  | some _, none => .ok none

/-! ## Derivatives -/

/-- `FrickStore::record_derivative`, an upsert of the whole row. -/
def recordDerivative (row : DerivativeRow) : BlobTables :=
  { db with derivatives := db.derivatives.upsert row }

/-- The bytes of `FrickStore::read_derivative`. -/
def readDerivative (parentBlobId derivativeId tenantId : String) : Option Bytes :=
  (db.derivatives.find? (tenantId, parentBlobId, derivativeId)).map DerivativeRow.content

def deleteDerivatives (parentBlobId tenantId : String) : BlobTables :=
  { db with
    derivatives := db.derivatives.deleteWhere fun row =>
      row.tenantId = tenantId ∧ row.parentBlobId = parentBlobId }

end

/-! ## What the statements do -/

section Statements

variable {db db' : BlobTables} {tenantId blobId appId : String} {nowMs : Int}

variable {input : BlobMetadataInput} {row : BlobMetadata} {content : Bytes}
  {encryption : Option (AtRestEncryption Bytes)}

lemma create_eq_ok (h : db.create tenantId input appId nowMs = .ok db') :
    db' = { db with metadata := db.metadata.upsert (newMetadata tenantId input appId nowMs) } := by
  unfold create at h
  split at h
  · split_ifs at h
    exact (Except.ok.inj h).symm
  · exact (Except.ok.inj h).symm

lemma readMetadata_eq_view (db : BlobTables) (tenantId blobId appId : String) :
    db.readMetadata tenantId blobId appId =
      db.metadata.view BlobMetadata.partition (appId, tenantId) blobId :=
  find?_rows_eq_view fun row => by
    simp [BlobMetadata.partition, BlobMetadata.primaryKey, and_assoc]

lemma readBytes_eq_view (db : BlobTables) (tenantId blobId appId : String) :
    db.readBytes tenantId blobId appId =
      (db.content.view BlobContentRow.partition (appId, tenantId) blobId).map
        BlobContentRow.content := by
  refine congrArg (Option.map BlobContentRow.content) (find?_rows_eq_view fun row => ?_)
  simp [BlobContentRow.partition, and_assoc]

lemma readMetadata_eq_some_iff :
    db.readMetadata tenantId blobId appId = some row ↔
      row ∈ db.metadata ∧ row.appId = appId ∧ row.tenantId = tenantId ∧ row.blobId = blobId := by
  rw [readMetadata_eq_view, view_eq_some_iff, BlobMetadata.primaryKey, BlobMetadata.partition,
    Prod.mk.injEq, and_comm (a := row.blobId = blobId), and_assoc]

lemma readMetadata_of_create (h : db.create tenantId input appId nowMs = .ok db') :
    db'.readMetadata tenantId input.blobId appId =
      some (newMetadata tenantId input appId nowMs) := by
  rw [readMetadata_eq_some_iff, create_eq_ok h]
  exact ⟨mem_upsert.mpr (.inl rfl), rfl, rfl, rfl⟩

lemma readMetadata_eq_none (h : db.readMetadata tenantId blobId appId = none)
    (hrow : row ∈ db.metadata) (happ : row.appId = appId) (hten : row.tenantId = tenantId) :
    row.blobId ≠ blobId := by
  intro hblob
  have hno := List.find?_eq_none.mp h row hrow
  simp [happ, hten, hblob] at hno

lemma readBytes_eq_some_iff :
    db.readBytes tenantId blobId appId = some content ↔
      ∃ row, db.content.find? blobId = some row ∧ row.appId = appId ∧ row.tenantId = tenantId ∧
        row.content = content := by
  rw [readBytes_eq_view, Option.map_eq_some_iff]
  simp only [view_eq_some_iff, find?_eq_some_iff, BlobContentRow.partition,
    Prod.mk.injEq, and_assoc]

lemma readBytes_congr (h : db.content.find? blobId = db'.content.find? blobId) :
    db.readBytes tenantId blobId appId = db'.readBytes tenantId blobId appId := by
  apply Option.ext
  intro content
  rw [readBytes_eq_some_iff, readBytes_eq_some_iff, h]

lemma readContent_congr (h : db.content.find? blobId = db'.content.find? blobId) :
    readContent encryption db tenantId blobId appId =
      readContent encryption db' tenantId blobId appId := by
  unfold readContent
  rw [readBytes_congr h]

lemma exists_find?_of_readContent
    (h : readContent encryption db tenantId blobId appId = .ok (some content)) :
    ∃ stored, db.content.find? blobId = some stored := by
  cases hbytes : db.readBytes tenantId blobId appId with
  | some =>
    obtain ⟨row, hfind, _⟩ := readBytes_eq_some_iff.mp hbytes
    exact ⟨row, hfind⟩
  | none => cases encryption <;> simp [readContent, hbytes] at h

lemma writeContent_eq_ok
    (h : writeContent encryption db tenantId blobId content appId nowMs = .ok db') :
    ∃ stored, db' = db.writeBytes tenantId blobId stored appId nowMs := by
  obtain ⟨stored, _, h⟩ := bind_eq_ok.mp h
  exact ⟨stored, (Except.ok.inj h).symm⟩

lemma readBytes_writeBytes_self (db : BlobTables) (tenantId blobId : String) (content : Bytes)
    (appId : String) (nowMs : Int) :
    (db.writeBytes tenantId blobId content appId nowMs).readBytes tenantId blobId appId =
      some content :=
  readBytes_eq_some_iff.mpr ⟨_, find?_upsert_self _ _, rfl, rfl, rfl⟩

lemma find?_content_writeBytes {other : String} (hne : other ≠ blobId) :
    (db.writeBytes tenantId blobId content appId nowMs).content.find? other =
      db.content.find? other :=
  find?_upsert_of_ne hne

lemma readContent_of_writeContent
    (h : writeContent encryption db tenantId blobId content appId nowMs = .ok db') :
    readContent encryption db' tenantId blobId appId = .ok (some content) := by
  obtain ⟨stored, hseal, h⟩ := bind_eq_ok.mp h
  obtain rfl := Except.ok.inj h
  cases encryption with
  | none =>
    obtain rfl := Except.ok.inj hseal
    simp [readContent, readBytes_writeBytes_self]
  | some encryption =>
    have hopen := encryption.decrypt_encrypt tenantId content stored hseal
    simp [readContent, readBytes_writeBytes_self, hopen]

lemma readDerivative_recordDerivative_self (db : BlobTables) (row : DerivativeRow) :
    (db.recordDerivative row).readDerivative row.parentBlobId row.derivativeId row.tenantId =
      some row.content := by
  rw [readDerivative, recordDerivative]
  have hself := find?_upsert_self db.derivatives row
  rw [primaryKey] at hself
  simp [hself]

lemma readDerivative_recordDerivative_of_ne (db : BlobTables) (row : DerivativeRow)
    (parent deriv tenantId : String)
    (hne : (tenantId, parent, deriv) ≠ row.primaryKey) :
    (db.recordDerivative row).readDerivative parent deriv tenantId =
      db.readDerivative parent deriv tenantId := by
  rw [readDerivative, readDerivative, recordDerivative, find?_upsert_of_ne hne]

lemma readDerivative_deleteDerivatives_self (db : BlobTables) (parent deriv tenantId :
    String) : (db.deleteDerivatives parent tenantId).readDerivative parent deriv
      tenantId = none := by
  rw [readDerivative, find?_eq_none_iff.mpr]
  · rfl
  · intro row hrow hkey
    simp only [primaryKey, Prod.mk.injEq] at hkey
    have hkept := (mem_deleteWhere.mp hrow).2
    simp [hkey] at hkept

lemma readDerivative_deleteDerivatives_of_ne {parentBlobId deriv parent tenant : String}
    (hne : ¬(tenantId = tenant ∧ parentBlobId = parent)) :
    (db.deleteDerivatives parent tenant).readDerivative parentBlobId deriv tenantId =
      db.readDerivative parentBlobId deriv tenantId := by
  rw [readDerivative, deleteDerivatives]
  congr 1
  refine find?_congr fun row hkey => ?_
  simp only [primaryKey, Prod.mk.injEq] at hkey
  rw [mem_deleteWhere, hkey.1, hkey.2.1]
  simp [hne]

end Statements

end BlobTables

end Frick.Store
