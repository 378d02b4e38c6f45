import Frick.Properties.BlobOwnership

/-!
# Served bytes and their metadata

An upload must match the length and the hash of the row, as the row is then. A declaration over
stored bytes is compared with nothing, so it can put any length and hash over them.
-/

namespace Frick.Properties

open Framework Store Server

/-- The row describes the bytes: `validate_blob_content` would let them through. -/
def Matches (server : BlobServer) (row : BlobMetadata) (bytes : Bytes) : Prop :=
  validateBlobContent row.blobId row.byteLength row.contentHash bytes
    (server.sha256ContentHash bytes) = .ok ()

/-- What a download answers with has the length of the row and, if that is a SHA-256, its hash. -/
def ServesAsDescribed (server : BlobServer) (w : BlobWorld) (r : BlobRequest) : Prop :=
  ∀ mimeType blobId contentHash bytes,
    (server.handle w r).2 = .content mimeType blobId contentHash bytes →
    ∃ row, w.tables.readMetadata r.principal.tenantId blobId r.appId = some row ∧
      (bytes.length : Int) = row.byteLength ∧
      ("sha256-".toList.isPrefixOf row.contentHash.toList →
        row.contentHash = server.sha256ContentHash bytes)

/-- A declaration that passes its checks describes the bytes already stored under its blob id. -/
def DeclaresStored (server : BlobServer) (w : BlobWorld) (r : BlobRequest) : Prop :=
  match r.call with
  | .declare body =>
    match server.checkDeclaration r.principal body with
    | .ok input =>
      match w.tables.readContent server.encryption r.principal.tenantId input.blobId r.appId with
      | .ok (some bytes) => Matches server
          (BlobTables.newMetadata r.principal.tenantId input r.appId r.nowMs) bytes
      | _ => True
    | .error _ => True
  | _ => True

instance (server : BlobServer) (w : BlobWorld) : DecidablePred (DeclaresStored server w)
  | ⟨p, appId, _, .declare body⟩ => by
    dsimp only [DeclaresStored, Matches]
    exact match server.checkDeclaration p body with
      | .ok input => by
        dsimp only
        exact match w.tables.readContent server.encryption p.tenantId input.blobId appId with
          | .ok (some _) => inferInstanceAs (Decidable (_ = _))
          | .ok none | .error _ => instDecidableTrue
      | .error _ => instDecidableTrue
  | ⟨_, _, _, .put _⟩ | ⟨_, _, _, .get _⟩ => instDecidableTrue

/-- **Step.** A request keeps the stored bytes as their rows describe them, if what it declares over
stored bytes describes these. -/
lemma matches_serve {server : BlobServer} {w : BlobWorld} {r : BlobRequest}
    (hinv : Describes (Matches server) server r.principal.tenantId r.appId w.tables)
    (hguard : DeclaresStored server w r) :
    Describes (Matches server) server r.principal.tenantId r.appId (server.serve w r).tables := by
  have hstored : ∀ {upload : BlobUpload} {content : Bytes} {created written : BlobTables},
      Stores server w.tables r upload content created written →
        Describes (Matches server) server r.principal.tenantId r.appId written := fun hstores =>
    hinv.stored hstores (fun _ _ _ h => h) fun row hblob _ hvalid => by
      rwa [Matches, hblob]
  have heff := handle_effect server w r
  unfold BlobServer.serve
  generalize server.handle w r = outcome at heff ⊢
  cases heff with
  -- The staging area is no part of the statement.
  | got | staged => exact ⟨hinv.partition, hinv.content⟩
  | failed hprepared => exact hinv.prepared hprepared fun _ _ h => h
  | declared hcall hcheck =>
    refine hinv.declared (fun _ _ h => h) fun _ _ _ bytes hread _ => ?_
    simpa only [DeclaresStored, hcall, hcheck, hread] using hguard
  | whole _ _ hstores => exact hstored hstores
  | final _ _ _ _ hstores => exact ⟨(hstored hstores).partition, (hstored hstores).content⟩

/-- **Every run.** While each declaration describes the bytes it is laid over, every download
answers with the length and the hash of the row. -/
theorem served_bytes_match_metadata (server : BlobServer) (sharing : SharingTables)
    (tenantId appId : String) (requests : List BlobRequest) (r : BlobRequest)
    (hdomain : ∀ q ∈ requests ++ [r], q.principal.tenantId = tenantId ∧ q.appId = appId)
    (hguard : Guarded server.serve (DeclaresStored server) ⟨.empty, sharing, []⟩ requests) :
    ServesAsDescribed server (run server.serve ⟨.empty, sharing, []⟩ requests) r := by
  have hinv : Describes (Matches server) server tenantId appId
      (run server.serve ⟨.empty, sharing, []⟩ requests).tables := by
    refine run_invariant (I := fun w => Describes (Matches server) server tenantId appId w.tables)
      ?_ describes_empty (guarded_and (fun q hq => hdomain q (List.mem_append_left _ hq)) hguard)
    rintro w q hinv ⟨⟨rfl, rfl⟩, hdeclares⟩
    exact matches_serve hinv hdeclares
  intro mimeType blobId contentHash bytes h
  obtain ⟨rfl, rfl⟩ := hdomain r (by simp)
  obtain ⟨hread, row, hrow, _⟩ := served_content h
  obtain ⟨hmem, _, _, hblob⟩ := BlobTables.readMetadata_eq_some_iff.mp hrow
  exact ⟨row, hrow, validateBlobContent_eq_ok (hinv.read hread hmem hblob)⟩

theorem served_bytes_match_metadata_uploaded :
    ServesAsDescribed plainBlobServer (run plainBlobServer.serve ⟨.empty, .empty, []⟩
      [declarePhoto "ada", putPhoto "ada" [1]]) (getPhoto "ada") :=
  served_bytes_match_metadata plainBlobServer .empty "acme" "_default"
    [declarePhoto "ada", putPhoto "ada" [1]] (getPhoto "ada")
    (by simp [declarePhoto, putPhoto, getPhoto, member]) (by decide +kernel)

/-- `ada` uploads three bytes, declares the blob again with length one, and is served three. -/
theorem declared_over_own_bytes :
    ¬ServesAsDescribed plainBlobServer (run plainBlobServer.serve ⟨.empty, .empty, []⟩
      [putPhoto "ada" [1, 2, 3], declarePhoto "ada"]) (getPhoto "ada") := by
  intro h
  obtain ⟨row, hrow, hlength, _⟩ := h "image/png" "photo" "none" [1, 2, 3] (by decide +kernel)
  have hone : (run plainBlobServer.serve ⟨.empty, .empty, []⟩ [putPhoto "ada" [1, 2, 3],
      declarePhoto "ada"]).tables.readMetadata "acme" "photo" "_default" =
        some (BlobTables.newMetadata "acme" ⟨"photo", "ada", "none", 1, "image/png", none⟩
          "_default" 1700000000001) := by
    decide +kernel
  obtain rfl := Option.some.inj (hrow.symm.trans hone)
  exact absurd hlength (by decide)

end Frick.Properties
