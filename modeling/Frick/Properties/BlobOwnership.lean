import Frick.Properties.BlobContents

/-!
# Whose blob it is

Declarations, whole-body uploads and downloads by any principals of one tenant and app, in any
order, with no grants. An upload and a download are checked against the recorded owner, so on
their own they leave other people's blobs alone. A declaration is checked against the owner named
in its own body, and the row it upserts is keyed by blob id alone.
-/

namespace Frick.Properties

open Framework Store Server BlobTables

/-! ## What is claimed of one request -/

/-- Sender and bytes of a logged whole-body upload of the blob, if the entry is one. -/
def storedUpload (blobId : String) (entry : BlobRequest × BlobResponse) : Option (String × Bytes) :=
  match entry.1.call, entry.2 with
  | .put upload, .stored _ _ _ _ =>
    if upload.blobId = blobId then some (entry.1.principal.userId, upload.body) else none
  | _, _ => none

/-- Sender and bytes of the last stored upload of the blob. -/
def lastUpload (log : List (BlobRequest × BlobResponse)) (blobId : String) :
    Option (String × Bytes) :=
  log.foldl (fun last entry => (storedUpload blobId entry).or last) none

lemma lastUpload_append (log : List (BlobRequest × BlobResponse))
    (ent : BlobRequest × BlobResponse) (blobId : String) :
    lastUpload (log ++ [ent]) blobId = (storedUpload blobId ent).or (lastUpload log blobId) := by
  simp [lastUpload]

/-- A request leaves owner, hash, length and stored bytes of every blob of another user as they are,
and the bytes it is served are those its sender uploaded last to that blob. -/
structure OwnersOnly (server : BlobServer) (w : BlobWorld) (r : BlobRequest) : Prop where
  kept : ∀ row ∈ w.tables.metadata, row.ownerId ≠ r.principal.userId →
    (∃ after ∈ (server.serve w r).tables.metadata.rows, after.blobId = row.blobId ∧
      after.ownerId = row.ownerId ∧ after.contentHash = row.contentHash ∧
      after.byteLength = row.byteLength) ∧
    (server.serve w r).tables.content.find? row.blobId = w.tables.content.find? row.blobId
  served : ∀ mimeType blobId contentHash bytes,
    (server.handle w r).2 = .content mimeType blobId contentHash bytes →
      lastUpload w.log blobId = some (r.principal.userId, bytes)

/-- The requests considered: one tenant, one app, uploads in one body. -/
def WholeBody (tenantId appId : String) (r : BlobRequest) : Prop :=
  r.principal.tenantId = tenantId ∧ r.appId = appId ∧ match r.call with
    | .put upload => upload.contentRange = none
    | _ => True

/-- No declaration that passes its checks names the blob of another user. -/
def DeclaresOwn (server : BlobServer) (w : BlobWorld) (r : BlobRequest) : Prop :=
  match r.call with
  | .declare body =>
    match parseDeclaration body r.principal.userId with
    | .ok input =>
      requireString body "ownerId" "ownerId" = .ok r.principal.userId →
      ownershipDecision server.hooks r.principal r.principal.userId none (some body) = .ok () →
      ∀ row ∈ w.tables.metadata.rows, row.blobId = input.blobId → row.ownerId = r.principal.userId
    | .error _ => True
  | _ => True

instance (server : BlobServer) (w : BlobWorld) (r : BlobRequest) :
    Decidable (DeclaresOwn server w r) := by
  unfold DeclaresOwn
  split
  · split <;> infer_instance
  · infer_instance

/-! ## The invariant -/

/-- Stored bytes are the last upload of the row's owner. -/
structure Owned (server : BlobServer) (tenantId appId : String) (w : BlobWorld) : Prop where
  uploads : Describes (fun row bytes => lastUpload w.log row.blobId = some (row.ownerId, bytes))
    server tenantId appId w.tables
  sharing : w.sharing = .empty

section Steps

variable {server : BlobServer} {tenantId appId : String} {w : BlobWorld} {r : BlobRequest}

variable (hinv : Owned server tenantId appId w) (hdomain : WholeBody tenantId appId r)
include hinv hdomain

/-- **Step.** A request keeps every stored blob as its owner last uploaded it, if no declaration
goes over the row of another user. -/
lemma Owned.serve (hguard : DeclaresOwn server w r) :
    Owned server tenantId appId (server.serve w r) := by
  obtain ⟨rfl, rfl, hwhole⟩ := hdomain
  refine ⟨?_, hinv.sharing⟩
  have heff := handle_effect server w r
  unfold BlobServer.serve
  generalize server.handle w r = outcome at heff ⊢
  simp only [lastUpload_append]
  cases heff with
  | got hcall =>
    exact hinv.uploads.prepared (.refl _ _ _ "") fun row bytes h => by simpa [storedUpload, hcall]
  | @failed _ _ err hprepared =>
    have hnone : ∀ blobId, storedUpload blobId (r, .error err) = none := by
      intro blobId
      unfold storedUpload
      split
      next h => exact nomatch h
      · rfl
    exact hinv.uploads.prepared hprepared fun row bytes h => by rwa [hnone]
  | declared hcall hcheck =>
    obtain ⟨howner, hallowed, hparse, hinput⟩ := checkDeclaration_eq_ok hcheck
    simp only [DeclaresOwn, hcall, hparse] at hguard
    have hown := hguard howner hallowed
    refine hinv.uploads.declared (fun row bytes h => by simpa [storedUpload]) ?_
    intro row hrow hblob bytes _ hlast
    have hfrom : row.ownerId = _ := (hown row hrow hblob).trans hinput.symm
    rw [hblob, hfrom] at hlast
    simpa [storedUpload, newMetadata] using hlast
  | whole hcall _ hstores =>
    refine hinv.uploads.stored hstores (fun row bytes hother h => ?_) fun row hblob howner _ => ?_
    · simpa [storedUpload, hcall, hother.symm] using h
    · simp [storedUpload, hcall, hblob, howner]
  | staged hcall hheader | final hcall hheader => simp [hcall, hheader] at hwhole

lemma Owned.kept (hg : DeclaresOwn server w r) {row : BlobMetadata}
    (hrow : row ∈ w.tables.metadata) (hfor : row.ownerId ≠ r.principal.userId) :
    row ∈ (server.handle w r).1.metadata ∧
      (server.handle w r).1.content.find? row.blobId = w.tables.content.find? row.blobId := by
  obtain ⟨rfl, rfl, hwhole⟩ := hdomain
  obtain ⟨hten, happ⟩ := hinv.uploads.partition row hrow
  have heff := handle_effect server w r
  generalize server.handle w r = outcome at heff ⊢
  cases heff with
  | got => exact ⟨hrow, rfl⟩
  | failed hprep => exact ⟨hprep.mem hrow hten happ, by rw [hprep.content]⟩
  | declared hcall hcheck =>
    obtain ⟨howner, hallow, hparse, _⟩ := checkDeclaration_eq_ok hcheck
    simp only [DeclaresOwn, hcall, hparse] at hg
    exact ⟨Table.mem_upsert.mpr (.inr ⟨hrow, fun hblob =>
      hfor (hg howner hallow row hrow hblob)⟩), rfl⟩
  | @whole up _ _ _ _ _ _ hsto =>
    obtain ⟨own, hown, hfrom, _⟩ := hsto.exists_row
    obtain ⟨hown, _, _, hblob⟩ := readMetadata_eq_some_iff.mp hown
    have hprep := hsto.prepared
    obtain ⟨stored, rfl⟩ := writeContent_eq_ok hsto.write
    have hmem := hprep.mem hrow hten happ
    -- The uploaded blob has a row of the sender's, and there is one row for each blob id.
    have hother : row.blobId ≠ up.blobId := by
      intro hsame
      have heq : row = own := Table.eq_of_key_eq hmem hown (hsame.trans hblob.symm)
      exact hfor (by rw [heq, hfrom])
    exact ⟨hmem, (find?_content_writeBytes hother).trans (by rw [hprep.content])⟩
  | staged hcall hhead | final hcall hhead => simp [hcall, hhead] at hwhole

lemma Owned.served {mimeType blobId digest : String} {bytes : Bytes}
    (h : (server.handle w r).2 = .content mimeType blobId digest bytes) :
    lastUpload w.log blobId = some (r.principal.userId, bytes) := by
  obtain ⟨rfl, rfl, _⟩ := hdomain
  obtain ⟨hread, row, hrow, _, hallow⟩ := served_content h
  obtain ⟨hmem, _, _, hblob⟩ := readMetadata_eq_some_iff.mp hrow
  rw [hinv.sharing] at hallow
  rw [← eq_of_assertCanReadBlob hallow, ← hblob]
  exact hinv.uploads.read hread hmem hblob

end Steps

/-! ## Every run -/

/-- **Every run.** While every declaration that passes its checks names a new blob id or one of the
sender's own, each request leaves other people's blobs alone and is served only its sender's own
bytes. -/
theorem others_blobs_untouched (server : BlobServer) (tenantId appId : String)
    (requests : List BlobRequest) (r : BlobRequest)
    (hdomain : ∀ q ∈ requests ++ [r], WholeBody tenantId appId q)
    (hguard : Guarded server.serve (DeclaresOwn server) .empty (requests ++ [r])) :
    OwnersOnly server (run server.serve .empty requests) r := by
  obtain ⟨hbefore, hlast⟩ := guarded_append.mp hguard
  have hinv := run_invariant (I := Owned server tenantId appId)
    (fun _ _ hinv hr => hinv.serve hr.1 hr.2) ⟨describes_empty, rfl⟩
    (guarded_and (fun q hq => hdomain q (List.mem_append_left _ hq)) hbefore)
  have hr : WholeBody tenantId appId r := hdomain r (by simp)
  constructor
  · intro row hrow hforeign
    obtain ⟨hmem, hcontent⟩ := hinv.kept hr hlast.1 hrow hforeign
    exact ⟨⟨row, hmem, rfl, rfl, rfl, rfl⟩, hcontent⟩
  · intro mimeType blobId contentHash bytes h
    exact hinv.served hr h

/-! ## A declaration over somebody else's blob -/

def putPhoto (userId : String) (bytes : Bytes) : BlobRequest :=
  ⟨member userId, "_default", 1700000000000,
    .put { blobId := "photo", ownerIdQuery := some userId, body := bytes }⟩

def declarePhoto (userId : String) : BlobRequest :=
  ⟨member userId, "_default", 1700000000001, .declare (.map [(.string "ownerId", .string userId),
    (.string "blobId", .string "photo"), (.string "contentHash", .string "none"),
    (.string "byteLength", .integer 1), (.string "mimeType", .string "image/png")])⟩

def getPhoto (userId : String) : BlobRequest :=
  ⟨member userId, "_default", 1700000000002, .get "photo"⟩

theorem others_blobs_untouched_own_photo :
    OwnersOnly plainBlobServer (run plainBlobServer.serve .empty
      [putPhoto "ada" [1, 2, 3], declarePhoto "ada"]) (getPhoto "ada") := by
  refine others_blobs_untouched plainBlobServer "acme" "_default"
    [putPhoto "ada" [1, 2, 3], declarePhoto "ada"] (getPhoto "ada") ?_ (by decide +kernel)
  intro q hq
  simp only [List.cons_append, List.nil_append, List.mem_cons, List.not_mem_nil, or_false] at hq
  rcases hq with rfl | rfl | rfl
  · exact ⟨rfl, rfl, rfl⟩
  · exact ⟨rfl, rfl, trivial⟩
  · exact ⟨rfl, rfl, trivial⟩

/-- `ada` uploads a photo; `mallory` declares the same blob id and downloads what `ada` uploaded. -/
theorem declared_over :
    ¬OwnersOnly plainBlobServer (run plainBlobServer.serve .empty [putPhoto "ada" [1, 2, 3]])
        (declarePhoto "mallory") ∧
      ¬OwnersOnly plainBlobServer (run plainBlobServer.serve .empty
        [putPhoto "ada" [1, 2, 3], declarePhoto "mallory"]) (getPhoto "mallory") := by
  constructor
  · intro h
    have hrow : newMetadata "acme" ⟨"photo", "ada",
        plainBlobServer.sha256ContentHash [1, 2, 3], 3, "application/octet-stream", none⟩ "_default"
        1700000000000 ∈
        (run plainBlobServer.serve .empty [putPhoto "ada" [1, 2, 3]]).tables.metadata.rows := by
      decide +kernel
    have hkept := (h.kept _ hrow (by decide)).1
    exact absurd hkept (by decide +kernel)
  · intro h
    have hserved : (plainBlobServer.handle (run plainBlobServer.serve .empty
        [putPhoto "ada" [1, 2, 3], declarePhoto "mallory"]) (getPhoto "mallory")).2 =
          .content "image/png" "photo" "none" [1, 2, 3] := by
      decide +kernel
    exact absurd (h.served _ _ _ _ hserved) (by decide +kernel)

end Frick.Properties
