import Frick.Framework.Run
import Frick.Server.Blobs

/-!
# Whose bytes a resumable upload commits

Chunks of any users and apps, interleaved with any other blob requests. The staging area of a blob
id is one row for each tenant: it records neither who sent the bytes in it nor for which app, and
while the blob has no metadata row every request names its owner itself.
-/

namespace Frick.Properties

open Framework Store Server List Option

/-! ## Staged chunks, as the log tells them -/

def sentBytes (r : BlobRequest) : Bytes :=
  match r.call with
  | .put upload => upload.body
  | _ => []

def IsChunk (tenantId blobId : String) (r : BlobRequest) : Prop :=
  r.principal.tenantId = tenantId ∧
    ∃ upload, r.call = .put upload ∧ upload.blobId = blobId ∧ upload.contentRange.isSome

/-- What an answered request does to the list of staged chunks of a blob id. -/
def stageEntry (tenantId blobId : String) (chunks : List BlobRequest)
    (entry : BlobRequest × BlobResponse) : List BlobRequest :=
  match entry.1.call, entry.2 with
  | .put upload, .accepted _ _ _ =>
    if entry.1.principal.tenantId = tenantId ∧ upload.blobId = blobId then chunks ++ [entry.1]
    else chunks
  | .put upload, .stored _ _ _ _ =>
    if upload.contentRange.isSome ∧ entry.1.principal.tenantId = tenantId ∧
        upload.blobId = blobId then []
    else chunks
  | _, _ => chunks

/-- The chunks accepted since the last finalised upload of the blob id. -/
def stagedChunks (log : List (BlobRequest × BlobResponse)) (tenantId blobId : String) :
    List BlobRequest :=
  log.foldl (stageEntry tenantId blobId) []

lemma stagedChunks_append (log : List (BlobRequest × BlobResponse))
    (ent : BlobRequest × BlobResponse) (tenant blobId : String) :
    stagedChunks (log ++ [ent]) tenant blobId =
      stageEntry tenant blobId (stagedChunks log tenant blobId) ent := by
  simp [stagedChunks]

/-- Two requests come from one user in one app. -/
def SameSender (c d : BlobRequest) : Prop :=
  c.principal.userId = d.principal.userId ∧ c.appId = d.appId

instance (c d : BlobRequest) : Decidable (SameSender c d) :=
  inferInstanceAs (Decidable (_ ∧ _))

/-! ## What is claimed -/

/-- If the request finalises a chunked upload after the requests `before`, every byte of the
committed content was sent, in a chunk of that blob id in that app, by the blob's owner. -/
def OwnersBytes (server : BlobServer) (before : List BlobRequest) (r : BlobRequest) : Prop :=
  let w := run server.serve .empty before
  ∀ upload status blobId byteLength contentHash, r.call = .put upload → upload.contentRange.isSome →
    (server.handle w r).2 = .stored status blobId byteLength contentHash →
    ∃ (row : BlobMetadata) (chunks : List BlobRequest),
      (server.serve w r).tables.readMetadata r.principal.tenantId upload.blobId r.appId = some row ∧
      (server.serve w r).tables.readContent server.encryption r.principal.tenantId upload.blobId
        r.appId = .ok (some (chunks.flatMap sentBytes)) ∧
      ∀ c ∈ chunks, c ∈ before ++ [r] ∧ IsChunk r.principal.tenantId upload.blobId c ∧
        c.principal.userId = row.ownerId ∧ c.appId = r.appId

/-- A chunk that joins the staged bytes of its blob id comes from the sender and the app of the
chunk before it. -/
def ContinuesOwn (server : BlobServer) (w : BlobWorld) (r : BlobRequest) : Prop :=
  match r.call with
  | .put upload =>
    match upload.contentRange.map parseContentRange with
    | some (.ok range) =>
      Joins server w.tables r.principal r.appId range upload →
        ∀ c ∈ (stagedChunks w.log r.principal.tenantId upload.blobId).getLast?, SameSender c r
    | _ => True
  | _ => True

instance (server : BlobServer) (w : BlobWorld) : DecidablePred (ContinuesOwn server w)
  | ⟨p, appId, _, .put upload⟩ => by
    dsimp only [ContinuesOwn]
    exact match upload.contentRange.map parseContentRange with
      | some (.ok range) => inferInstanceAs (Decidable (Joins _ _ _ _ range _ → _))
      | some (.error _) | none => instDecidableTrue
  | ⟨_, _, _, .declare _⟩ | ⟨_, _, _, .get _⟩ => instDecidableTrue

/-! ## The invariant -/

/-- The staged bytes are those of the staged chunks, and the chunks are one sender's. -/
structure StagedFrom (w : BlobWorld) : Prop where
  bytes : ∀ tenantId blobId, readStagedBytes w.tables tenantId blobId =
    (stagedChunks w.log tenantId blobId).flatMap sentBytes
  chunk : ∀ tenantId blobId, ∀ c ∈ stagedChunks w.log tenantId blobId,
    IsChunk tenantId blobId c ∧ c ∈ w.log.map Prod.fst
  sender : ∀ tenantId blobId, ∀ c ∈ stagedChunks w.log tenantId blobId,
    ∀ d ∈ stagedChunks w.log tenantId blobId, SameSender c d

section Steps

variable {server : BlobServer} {w : BlobWorld} {r : BlobRequest}

lemma ContinuesOwn.sameSender {up : BlobUpload} {header : String} {range : ContentRange}
    (hg : ContinuesOwn server w r) (hcall : r.call = .put up)
    (hhead : up.contentRange = some header) (hparse : parseContentRange header = .ok range)
    (hjoins : Joins server w.tables r.principal r.appId range up) :
    ∀ c ∈ (stagedChunks w.log r.principal.tenantId up.blobId).getLast?, SameSender c r := by
  simp only [ContinuesOwn, hcall, hhead, map_some, hparse] at hg
  exact hg hjoins

variable (hinv : StagedFrom w)
include hinv

/-- A chunk that follows its own sender's last chunk follows only its own sender's chunks. -/
lemma StagedFrom.sameSender {blobId : String}
    (hsame : ∀ c ∈ (stagedChunks w.log r.principal.tenantId blobId).getLast?, SameSender c r) :
    ∀ c ∈ stagedChunks w.log r.principal.tenantId blobId, SameSender c r := by
  intro c hc
  have hne := ne_nil_of_mem hc
  have hlast := hsame _ (List.getLast?_eq_some_getLast hne)
  have hfirst := hinv.sender _ _ c hc _ (getLast_mem hne)
  exact ⟨hfirst.1.trans hlast.1, hfirst.2.trans hlast.2⟩

omit hinv in
lemma stagedFrom_empty : StagedFrom .empty where
  bytes := fun _ _ => rfl
  chunk := nofun
  sender := nofun

variable {tables : BlobTables} {response : BlobResponse}

lemma StagedFrom.answered_of_sublist
    (hbytes : ∀ tenant blobId, readStagedBytes tables tenant blobId =
      (stagedChunks (w.log ++ [(r, response)]) tenant blobId).flatMap sentBytes)
    (hsub : ∀ tenant blobId, ∀ c ∈ stagedChunks (w.log ++ [(r, response)]) tenant blobId,
      c ∈ stagedChunks w.log tenant blobId) :
    StagedFrom { w with tables, log := w.log ++ [(r, response)] } where
  bytes := hbytes
  chunk := by
    intro tenant blobId c hc
    obtain ⟨hchunk, hlog⟩ := hinv.chunk tenant blobId c (hsub _ _ c hc)
    exact ⟨hchunk, map_append ▸ mem_append_left _ hlog⟩
  sender := fun tenant blobId c hc d hd =>
    hinv.sender tenant blobId c (hsub _ _ c hc) d (hsub _ _ d hd)

lemma StagedFrom.quiet (htabs : tables.derivatives = w.tables.derivatives)
    (hlog : ∀ tenant blobId chunks, stageEntry tenant blobId chunks (r, response) = chunks) :
    StagedFrom { w with tables, log := w.log ++ [(r, response)] } := by
  refine hinv.answered_of_sublist (fun tenant blobId => ?_) fun tenant blobId c hc => ?_
  · rw [stagedChunks_append, hlog, readStagedBytes_congr htabs, hinv.bytes]
  · rwa [stagedChunks_append, hlog] at hc

lemma StagedFrom.staged {up : BlobUpload} {blobId : String} {offset total : Nat}
    (hput : r.call = .put up) (hrange : up.contentRange.isSome)
    (hsame : ∀ c ∈ (stagedChunks w.log r.principal.tenantId up.blobId).getLast?, SameSender c r) :
    StagedFrom { w with
      tables := server.writeStagedBytes w.tables r.principal.tenantId up.blobId
        (readStagedBytes w.tables r.principal.tenantId up.blobId ++ up.body) r.nowMs
      log := w.log ++ [(r, .accepted blobId offset total)] } := by
  have hchunks : ∀ tenant blobId',
      stagedChunks (w.log ++ [(r, .accepted blobId offset total)]) tenant blobId' =
        if r.principal.tenantId = tenant ∧ up.blobId = blobId' then
          stagedChunks w.log tenant blobId' ++ [r]
        else stagedChunks w.log tenant blobId' := by
    intro tenant blobId'
    simp only [stagedChunks_append, stageEntry, hput]
  have hall := hinv.sameSender hsame
  refine ⟨?_, ?_, ?_⟩
  · intro tenant blobId
    rw [hchunks, readStagedBytes_write, hinv.bytes, hinv.bytes]
    split_ifs with hhere
    · obtain ⟨rfl, rfl⟩ := hhere
      simp [sentBytes, hput]
    · rfl
  · intro tenant blobId c hc
    rw [map_append, mem_append]
    rw [hchunks] at hc
    split_ifs at hc with hhere
    · rcases mem_append.mp hc with hmem | hmem
      · exact (hinv.chunk tenant blobId c hmem).imp_right .inl
      · obtain rfl := mem_singleton.mp hmem
        exact ⟨⟨hhere.1, up, hput, hhere.2, hrange⟩, .inr (by simp)⟩
    · exact (hinv.chunk tenant blobId c hc).imp_right .inl
  · intro tenant blobId c hc d hd
    rw [hchunks] at hc hd
    split_ifs at hc hd with hhere
    · obtain ⟨rfl, rfl⟩ := hhere
      -- Each of the two is an older chunk or this one, and all are of this sender.
      have hthis := forall_mem_append.mpr ⟨hall, forall_mem_singleton.mpr ⟨rfl, rfl⟩⟩
      obtain ⟨huser, happ⟩ := hthis c hc
      obtain ⟨huser', happ'⟩ := hthis d hd
      exact ⟨huser.trans huser'.symm, happ.trans happ'.symm⟩
    · exact hinv.sender tenant blobId c hc d hd

/-- **Step.** A request that continues only what its own sender has staged keeps every stage one
sender's. -/
lemma StagedFrom.serve (hg : ContinuesOwn server w r) : StagedFrom (server.serve w r) := by
  have heff := handle_effect server w r
  unfold BlobServer.serve
  generalize server.handle w r = outcome at heff ⊢
  cases heff with
  | got hcall | declared hcall => exact hinv.quiet rfl fun _ _ _ => by simp only [stageEntry, hcall]
  | failed hprep =>
    refine hinv.quiet hprep.derivatives fun tenant blobId chunks => ?_
    unfold stageEntry
    split
    next h => exact nomatch h
    next h => exact nomatch h
    · rfl
  | whole hcall hhead hsto =>
    obtain ⟨_, rfl⟩ := BlobTables.writeContent_eq_ok hsto.write
    exact hinv.quiet hsto.prepared.derivatives fun _ _ _ => by simp [stageEntry, hcall, hhead]
  | staged hcall hhead hparse hjoins =>
    exact hinv.staged hcall (by simp [hhead]) (hg.sameSender hcall hhead hparse hjoins)
  | @final up _ _ created _ _ _ _ hcall hhead _ _ hsto =>
    obtain ⟨stored, rfl⟩ := BlobTables.writeContent_eq_ok hsto.write
    have hkept : ∀ tenant blobId, readStagedBytes (created.writeBytes r.principal.tenantId
        up.blobId stored r.appId r.nowMs) tenant blobId =
          readStagedBytes w.tables tenant blobId :=
      readStagedBytes_congr hsto.prepared.derivatives
    refine hinv.answered_of_sublist (fun tenant blobId => ?_) fun tenant blobId c hc => ?_
    · rw [readStagedBytes_clear, hkept, hinv.bytes]
      simp only [stagedChunks_append, stageEntry, hcall, hhead, isSome_some, true_and]
      split_ifs <;> rfl
    · simp only [stagedChunks_append, stageEntry, hcall] at hc
      split_ifs at hc
      · exact nomatch hc
      · exact hc

end Steps

/-! ## Every run -/

lemma log_run (server : BlobServer) (reqs : List BlobRequest) :
    (run server.serve .empty reqs).log.map Prod.fst = reqs := by
  have hlog : ∀ (reqs : List BlobRequest) (w : BlobWorld),
      (run server.serve w reqs).log.map Prod.fst = w.log.map Prod.fst ++ reqs := by
    intro reqs
    induction reqs with
    | nil => simp
    | cons _ _ ih =>
      intro w
      rw [run_cons, ih]
      simp [BlobServer.serve]
  simpa [BlobWorld.empty] using hlog reqs .empty

/-- **Every run.** If each chunk that joins staged bytes continues its own sender's upload, what a
final chunk commits was sent by the blob's owner, for that blob id and in that app. -/
theorem finalised_bytes_are_owners (server : BlobServer) (requests : List BlobRequest)
    (r : BlobRequest)
    (hguard : Guarded server.serve (ContinuesOwn server) .empty (requests ++ [r])) :
    OwnersBytes server requests r := by
  intro upload status blobId byteLength contentHash hput hrange hstored
  obtain ⟨hbefore, hlast⟩ := guarded_append.mp hguard
  have hinv := run_invariant (I := StagedFrom) (fun _ _ hinv hcontinues => hinv.serve hcontinues)
    stagedFrom_empty hbefore
  have hrequests := log_run server requests
  generalize run server.serve .empty requests = w at *
  unfold BlobServer.serve
  have heffect := handle_effect server w r
  generalize server.handle w r = outcome at *
  cases heffect with
  | failed | staged => exact nomatch hstored
  | got hcall | declared hcall => exact nomatch hput.symm.trans hcall
  | whole hcall hheader =>
    obtain rfl : upload = _ := BlobCall.put.inj (hput.symm.trans hcall)
    simp [hheader] at hrange
  | final hcall hheader hparse hjoins hstores =>
    obtain rfl : upload = _ := BlobCall.put.inj (hput.symm.trans hcall)
    have hsame := hlast.1.sameSender hcall hheader hparse hjoins
    obtain ⟨row, hrow, howner, _⟩ := hstores.exists_row
    refine ⟨row, stagedChunks w.log r.principal.tenantId upload.blobId ++ [r], hrow, ?_, ?_⟩
    · have hsent :
          (stagedChunks w.log r.principal.tenantId upload.blobId ++ [r]).flatMap sentBytes =
          readStagedBytes w.tables r.principal.tenantId upload.blobId ++ upload.body := by
        simp [hinv.bytes, sentBytes, hput]
      have hread := BlobTables.readContent_of_writeContent hstores.write
      rw [hsent]
      exact hread
    · intro c hc
      rcases mem_append.mp hc with hmem | hmem
      · obtain ⟨hchunk, hlogged⟩ := hinv.chunk _ _ c hmem
        obtain ⟨huser, happ⟩ := hinv.sameSender hsame c hmem
        rw [hrequests] at hlogged
        exact ⟨mem_append_left _ hlogged, hchunk, huser.trans howner.symm, happ⟩
      · obtain rfl := mem_singleton.mp hmem
        exact ⟨by simp, ⟨rfl, upload, hput, rfl, hrange⟩, howner.symm, rfl⟩

/-! ## A stranger's first chunk -/

/-- `userId` sends one byte of `photo` under the given `Content-Range`, in the app `appId`. -/
def chunkPhoto (userId appId range : String) (byte : UInt8) : BlobRequest :=
  ⟨member userId, appId, 1700000000000,
    .put { blobId := "photo", ownerIdQuery := some userId, contentRange := some range,
           body := [byte] }⟩

theorem finalised_bytes_are_owners_two_chunks :
    OwnersBytes plainBlobServer [chunkPhoto "ada" "_default" "bytes 0-0/2" 1]
      (chunkPhoto "ada" "_default" "bytes 1-1/2" 2) :=
  finalised_bytes_are_owners plainBlobServer [chunkPhoto "ada" "_default" "bytes 0-0/2" 1]
    (chunkPhoto "ada" "_default" "bytes 1-1/2" 2) (by decide +kernel)

/-- `mallory` stages the first byte of `photo` in another app; `ada`, who goes on from there in
theirs, commits it as their own. -/
theorem finalised_behind_a_stranger :
    ¬OwnersBytes plainBlobServer [chunkPhoto "mallory" "other" "bytes 0-0/2" 9]
      (chunkPhoto "ada" "_default" "bytes 1-1/2" 2) := by
  intro h
  obtain ⟨row, chunks, hrow, hread, hchunks⟩ := h _ 201 "photo" 2 "sha256-[9, 2]" rfl rfl
    (by decide +kernel)
  have hcommitted : (plainBlobServer.serve (run plainBlobServer.serve .empty
      [chunkPhoto "mallory" "other" "bytes 0-0/2" 9])
        (chunkPhoto "ada" "_default" "bytes 1-1/2" 2)).tables.readContent none "acme" "photo"
          "_default" = .ok (some [9, 2]) := by
    decide +kernel
  have hbytes : chunks.flatMap sentBytes = [9, 2] :=
    some.inj (Except.ok.inj (hread.symm.trans hcommitted))
  have hnine : (9 : UInt8) ∈ chunks.flatMap sentBytes := by
    rw [hbytes]
    exact mem_cons_self
  obtain ⟨c, hc, hsent⟩ := mem_flatMap.mp hnine
  -- The only chunk of the app is `ada`'s, and it carries another byte.
  obtain ⟨hrequest, _, _, happ⟩ := hchunks c hc
  simp only [cons_append, nil_append, mem_cons, not_mem_nil, or_false]
    at hrequest
  rcases hrequest with rfl | rfl
  · exact absurd happ (by decide)
  · exact absurd hsent (by decide)

end Frick.Properties
