import Frick.Framework.Run
import Frick.Server.Blobs

/-!
# What the rows say of the stored bytes

Bytes and metadata are written by separate requests. An upload is compared with the row as it is
then; a declaration replaces the row and looks at no bytes.
-/

namespace Frick.Properties

open Framework Store Server BlobTables Table

/-- Rows are of the partition, and stored bytes have a row that describes them. -/
structure Describes (P : BlobMetadata → Bytes → Prop) (server : BlobServer)
    (tenantId appId : String) (db : BlobTables) : Prop where
  partition : ∀ row ∈ db.metadata, row.tenantId = tenantId ∧ row.appId = appId
  content : ∀ blobId stored, db.content.find? blobId = some stored →
    ∃ row ∈ db.metadata, row.blobId = blobId ∧ ∃ bytes,
      db.readContent server.encryption tenantId blobId appId = .ok (some bytes) ∧ P row bytes

section Steps

variable {P Q : BlobMetadata → Bytes → Prop} {server : BlobServer} {tenantId appId blobId : String}
  {db created written : BlobTables} {bytes content : Bytes} {row : BlobMetadata} {r : BlobRequest}
  {upload : BlobUpload}

lemma describes_empty : Describes P server tenantId appId .empty where
  partition := nofun
  content := fun _ stored hsto =>
    absurd (Table.find?_eq_some_iff.mp hsto).1 (not_mem_empty stored)

lemma Describes.read (h : Describes P server tenantId appId db)
    (hread : db.readContent server.encryption tenantId blobId appId = .ok (some bytes))
    (hrow : row ∈ db.metadata) (hblob : row.blobId = blobId) : P row bytes := by
  obtain ⟨stored, hsto⟩ := exists_find?_of_readContent hread
  obtain ⟨own, hown, hsame, found, hfound, hdesc⟩ := h.content blobId stored hsto
  obtain rfl : own = row := eq_of_key_eq hown hrow (hsame.trans hblob.symm)
  obtain rfl := Option.some.inj (Except.ok.inj (hread.symm.trans hfound))
  exact hdesc

/-- The bytes stay; the row of each blob stays or is replaced by one that describes them. -/
lemma Describes.rows (h : Describes P server tenantId appId db)
    (hcont : created.content = db.content) (hpart : ∀ row ∈ created.metadata, row ∈ db.metadata ∨
      row.tenantId = tenantId ∧ row.appId = appId)
    (hkept : ∀ row ∈ db.metadata, ∃ new ∈ created.metadata, new.blobId = row.blobId ∧
      ∀ bytes, db.readContent server.encryption tenantId row.blobId appId = .ok (some bytes) →
        P row bytes → Q new bytes) : Describes Q server tenantId appId created where
  partition row hrow := (hpart row hrow).elim (h.partition row) id
  content blobId stored hstored := by
    rw [hcont] at hstored
    obtain ⟨row, hrow, rfl, bytes, hread, hdesc⟩ := h.content blobId stored hstored
    obtain ⟨new, hnew, hsame, hdescribes⟩ := hkept row hrow
    exact ⟨new, hnew, hsame, bytes, (readContent_congr (by rw [hcont])).trans hread,
      hdescribes bytes hread hdesc⟩

section

variable (h : Describes P server r.principal.tenantId r.appId db)
include h

lemma Describes.prepared (hprep : Prepared db created r.principal r.appId blobId)
    (hdesc : ∀ row bytes, P row bytes → Q row bytes) :
    Describes Q server r.principal.tenantId r.appId created := by
  refine h.rows hprep.content (fun row => hprep.old_or_new) fun row hrow => ?_
  obtain ⟨hten, happ⟩ := h.partition row hrow
  exact ⟨row, hprep.mem hrow hten happ, rfl, fun bytes _ => hdesc row bytes⟩

lemma Describes.declared
    {input : BlobMetadataInput} (hoth : ∀ row bytes, P row bytes → Q row bytes)
    (hthis : ∀ row ∈ db.metadata, row.blobId = input.blobId → ∀ bytes,
      db.readContent server.encryption r.principal.tenantId input.blobId r.appId =
        .ok (some bytes) → P row bytes →
          Q (newMetadata r.principal.tenantId input r.appId r.nowMs) bytes) :
    Describes Q server r.principal.tenantId r.appId { db with
      metadata := db.metadata.upsert
        (newMetadata r.principal.tenantId input r.appId r.nowMs) } := by
  refine h.rows rfl (fun row hrow => ?_) fun row hrow => ?_
  · rcases mem_upsert.mp hrow with rfl | ⟨hold, _⟩
    · exact .inr ⟨rfl, rfl⟩
    · exact .inl hold
  by_cases hblob : row.blobId = input.blobId
  · refine ⟨_, mem_upsert.mpr (.inl rfl), hblob.symm, ?_⟩
    rw [hblob]
    exact hthis row hrow hblob
  · exact ⟨row, mem_upsert.mpr (.inr ⟨hrow, hblob⟩), rfl, fun bytes _ => hoth row bytes⟩

lemma Describes.stored (hsto : Stores server db r upload content created written)
    (hoth : ∀ row bytes, row.blobId ≠ upload.blobId → P row bytes → Q row bytes)
    (hthis : ∀ row, row.blobId = upload.blobId → row.ownerId = r.principal.userId →
      validateBlobContent upload.blobId row.byteLength row.contentHash content
        (server.sha256ContentHash content) = .ok () → Q row content) :
    Describes Q server r.principal.tenantId r.appId written := by
  obtain ⟨row, hrow, howner, hvalid⟩ := hsto.exists_row
  obtain ⟨hmem, _, _, hblob⟩ := readMetadata_eq_some_iff.mp hrow
  have hread := readContent_of_writeContent hsto.write
  have hprepared := hsto.prepared
  have hmade := h.prepared (Q := P) hprepared fun _ _ => id
  obtain ⟨stored, rfl⟩ := writeContent_eq_ok hsto.write
  refine ⟨hmade.partition, fun blobId found hfound => ?_⟩
  by_cases hsame : blobId = upload.blobId
  · subst hsame
    exact ⟨row, hmem, hblob, content, hread, hthis row hblob howner hvalid⟩
  have hfind := @BlobTables.find?_content_writeBytes created r.principal.tenantId _ r.appId r.nowMs
    stored _ hsame
  obtain ⟨other, hmem, rfl, bytes, hread, hdesc⟩ :=
    hmade.content blobId found (hfind ▸ hfound)
  exact ⟨other, hmem, rfl, bytes, (readContent_congr hfind).trans hread,
    hoth other bytes hsame hdesc⟩

end

end Steps

end Frick.Properties
