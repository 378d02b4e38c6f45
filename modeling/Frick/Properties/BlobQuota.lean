import Mathlib.Algebra.Order.BigOperators.Group.List
import Frick.Properties.BlobOwnership

/-!
# The blob quota

An upload is refused when the owner's declared lengths would pass the quota. A declaration is
refused for no length, so one below the stored length, or below zero, makes room that is not there;
and one near `i64::MAX` makes the projected sum wrap around to a negative one, which passes.
-/

namespace Frick.Properties

open Framework Store Server BlobTables List Option

/-- The length of the bytes stored under a blob id. -/
def storedBytes (server : BlobServer) (db : BlobTables) (tenantId appId blobId : String) : Int :=
  match db.readContent server.encryption tenantId blobId appId with
  | .ok (some bytes) => bytes.length
  | _ => 0

/-- The length of everything stored for an owner. -/
def committedBytes (server : BlobServer) (db : BlobTables) (tenantId ownerId appId : String) :
    Int :=
  ((db.metadata.rows.filter fun row =>
    row.appId = appId ∧ row.tenantId = tenantId ∧ row.ownerId = ownerId).map
      fun row => storedBytes server db tenantId appId row.blobId).sum

/-- The condition on the declared lengths. A declaration that passes its checks declares at least
the length that is stored, and an upload comes only while the owner's lengths leave room in an `i64`
for the largest body. -/
def DeclaresInBounds (server : BlobServer) (w : BlobWorld) (r : BlobRequest) : Prop :=
  match r.call with
  | .declare body =>
    match server.checkDeclaration r.principal body with
    | .ok input =>
      storedBytes server w.tables r.principal.tenantId r.appId input.blobId ≤ input.byteLength
    | .error _ => True
  | .put _ =>
    (w.tables.lengthsForOwner r.principal.tenantId r.principal.userId r.appId).sum +
      server.maxBlobBytes ≤ i64Max
  | .get _ => True

instance (server : BlobServer) (w : BlobWorld) : DecidablePred (DeclaresInBounds server w)
  | ⟨p, _, _, .declare body⟩ => by
    dsimp only [DeclaresInBounds]
    exact match server.checkDeclaration p body with
      | .ok _ => Int.decLe _ _
      | .error _ => instDecidableTrue
  | ⟨_, _, _, .put _⟩ => Int.decLe _ _
  | ⟨_, _, _, .get _⟩ => instDecidableTrue

lemma eq_sum_of_foldlM_sumStep {values : List Int} {start total : Int}
    (h : values.foldlM sumStep start = .ok total) : total = start + values.sum := by
  induction values generalizing start with
  | nil => rw [← Except.ok.inj h, List.sum_nil, Int.add_zero]
  | cons n values ih =>
    obtain ⟨next, hnext, h⟩ := bind_eq_ok.mp h
    unfold sumStep at hnext
    split_ifs at hnext
    rw [ih h, ← Except.ok.inj hnext, List.sum_cons, Int.add_assoc]

lemma eq_sum_of_sumI64 {values : List Int} {total : Int} (h : sumI64 values = .ok total) :
    total = values.sum := by
  rw [eq_sum_of_foldlM_sumStep h, Int.zero_add]

/-- The row declares at least the length of the bytes. -/
def Covers (row : BlobMetadata) (bytes : Bytes) : Prop := (bytes.length : Int) ≤ row.byteLength

/-- Every row is the owner's and covers what is stored, and what is stored is within the quota. -/
structure WithinQuota (server : BlobServer) (tenantId ownerId appId : String) (db : BlobTables) :
    Prop where
  described : Describes Covers server tenantId appId db
  rows : ∀ row ∈ db.metadata, row.ownerId = ownerId ∧ 0 ≤ row.byteLength
  total : (db.metadata.rows.map fun row => storedBytes server db tenantId appId row.blobId).sum ≤
    server.maxBlobBytesPerPrincipal

section Steps

variable {server : BlobServer} {tenantId ownerId appId blobId : String} {w : BlobWorld}
  {r : BlobRequest} {db created written : BlobTables} {upload : BlobUpload} {content : Bytes}

lemma Describes.storedBytes_eq_zero {P : BlobMetadata → Bytes → Prop}
    (h : Describes P server tenantId appId db) (hnone : db.metadata.find? blobId = none) :
    storedBytes server db tenantId appId blobId = 0 := by
  unfold storedBytes
  split
  next bytes hread =>
    obtain ⟨stored, hsto⟩ := exists_find?_of_readContent hread
    obtain ⟨row, hrow, hblob, _⟩ := h.content blobId stored hsto
    exact absurd hblob (Table.find?_eq_none_iff.mp hnone row hrow)
  next => rfl

lemma storedBytes_nonneg : 0 ≤ storedBytes server db tenantId appId blobId := by
  unfold storedBytes
  split
  · exact Int.natCast_nonneg _
  · exact le_rfl

lemma storedBytes_le {row : BlobMetadata} (h : Describes Covers server tenantId appId db)
    (hrow : row ∈ db.metadata) (hlen : 0 ≤ row.byteLength) :
    storedBytes server db tenantId appId row.blobId ≤ row.byteLength := by
  unfold storedBytes
  split
  next hread => exact h.read hread hrow rfl
  next => exact hlen

lemma WithinQuota.filter_rows (h : WithinQuota server tenantId ownerId appId db) :
    (db.metadata.rows.filter fun row =>
      row.appId = appId ∧ row.tenantId = tenantId ∧ row.ownerId = ownerId) = db.metadata.rows := by
  refine filter_eq_self.mpr fun row hrow => ?_
  simp [h.described.partition row hrow, h.rows row hrow]

lemma WithinQuota.lengths (h : WithinQuota server tenantId ownerId appId db) :
    db.lengthsForOwner tenantId ownerId appId = db.metadata.rows.map fun row => row.byteLength := by
  rw [lengthsForOwner, h.filter_rows]

lemma WithinQuota.upsert (h : WithinQuota server tenantId ownerId appId db) {row : BlobMetadata}
    (hcont : created.content = db.content) (hmeta : created.metadata = db.metadata.upsert row)
    (hdesc : Describes Covers server tenantId appId created)
    (hrow : row.ownerId = ownerId ∧ 0 ≤ row.byteLength) :
    WithinQuota server tenantId ownerId appId created := by
  have hstored : ∀ blobId, storedBytes server created tenantId appId blobId =
      storedBytes server db tenantId appId blobId := by
    intro blobId
    simp only [storedBytes, readContent, readBytes, hcont]
  refine ⟨hdesc, fun other hoth => ?_, ?_⟩
  · rw [hmeta] at hoth
    rcases Table.mem_upsert.mp hoth with rfl | ⟨hold, _⟩
    · exact hrow
    · exact h.rows other hold
  · simp only [hstored, hmeta]
    exact (Table.sum_upsert _ h.described.storedBytes_eq_zero).trans_le h.total

lemma WithinQuota.prepared
    (h : WithinQuota server r.principal.tenantId r.principal.userId r.appId db)
    (hprep : Prepared db created r.principal r.appId blobId) :
    WithinQuota server r.principal.tenantId r.principal.userId r.appId created := by
  have hdesc := h.described.prepared hprep fun _ _ h => h
  rcases hprep.metadata with hsame | ⟨_, input, now, _, howner, hlen, hups⟩
  · have htabs : created = { db with derivatives := created.derivatives } := by
      rw [← hsame, ← hprep.content]
    rw [htabs]
    exact ⟨⟨h.described.partition, h.described.content⟩, h.rows, h.total⟩
  · exact h.upsert hprep.content hups hdesc ⟨howner, hlen⟩

lemma WithinQuota.existing_le (h : WithinQuota server tenantId ownerId appId db) (blobId : String) :
    let existing := ((db.readMetadata tenantId blobId appId).map fun row => row.byteLength).getD 0
    0 ≤ existing ∧ existing ≤ (db.metadata.rows.map fun row => row.byteLength).sum := by
  have hnonneg : ∀ n ∈ db.metadata.rows.map fun row => row.byteLength, 0 ≤ n := by
    intro n hn
    obtain ⟨row, hrow, rfl⟩ := mem_map.mp hn
    exact (h.rows row hrow).2
  cases hread : db.readMetadata tenantId blobId appId with
  | none => exact ⟨le_rfl, sum_nonneg hnonneg⟩
  | some row =>
    have hrow := (readMetadata_eq_some_iff.mp hread).1
    exact ⟨(h.rows row hrow).2, single_le_sum hnonneg _ (mem_map_of_mem hrow)⟩

section

variable (hquota : quotaConfigured server.maxBlobBytesPerPrincipal = true)
include hquota

/-- While the lengths leave room for a body, the projection does not wrap around. -/
lemma projected_le_of_checkQuota {principal : Principal} {resolved : ResolvedUpload}
    {lengths : List Int} (hlengths : db.lengthsForOwner principal.tenantId resolved.ownerId appId =
      lengths)
    (hexisting : 0 ≤ resolved.existingByteLength ∧ resolved.existingByteLength ≤ lengths.sum)
    (hroom : lengths.sum + server.maxBlobBytes ≤ i64Max)
    (hsize : min i64Max content.length ≤ server.maxBlobBytes)
    (h : server.checkQuota db principal appId resolved content = .ok ()) :
    lengths.sum - resolved.existingByteLength + content.length ≤
      server.maxBlobBytesPerPrincipal := by
  rw [BlobServer.checkQuota, if_pos hquota] at h
  cases htotal : db.totalBytesForOwner principal.tenantId resolved.ownerId appId with
  | error err =>
    rw [htotal] at h
    cases h
  | ok current =>
    have hcurrent := eq_sum_of_sumI64 htotal
    rw [hlengths] at hcurrent
    have hmax : i64Max = 9223372036854775807 := rfl
    rw [htotal, hcurrent] at h
    dsimp only at h
    rw [wrapI64_eq (n := lengths.sum - _) (by omega) (by omega),
      wrapI64_eq (by omega) (by omega)] at h
    split_ifs at h with hproj
    have hfinite : server.maxBlobBytesPerPrincipal < 9007199254740991 := of_decide_eq_true hquota
    omega

section

variable (h : WithinQuota server r.principal.tenantId r.principal.userId r.appId db)
  (hstores : Stores server db r upload content created written)
  (hroom : (db.lengthsForOwner r.principal.tenantId r.principal.userId r.appId).sum +
    server.maxBlobBytes ≤ i64Max)
  (hsize : min i64Max content.length ≤ server.maxBlobBytes)
include h hstores hroom hsize

lemma declared_le_of_stores :
    (created.metadata.rows.map fun row => row.byteLength).sum ≤
      server.maxBlobBytesPerPrincipal := by
  obtain ⟨resolved, hcheck, hmake⟩ := hstores.checked
  obtain ⟨howner, hvalid, hexisting, hchecked⟩ := checkUpload_eq_ok hcheck
  have hdeclared := h.existing_le upload.blobId
  rw [← hexisting] at hdeclared
  rw [h.lengths] at hroom
  have hproj :=
    projected_le_of_checkQuota hquota (howner ▸ h.lengths) hdeclared hroom hsize hchecked
  rw [hexisting] at hproj
  unfold BlobServer.createMetadata at hmake
  cases hmeta : db.readMetadata r.principal.tenantId upload.blobId r.appId with
  | some row =>
    rw [hmeta] at hmake hproj
    obtain rfl := Except.ok.inj hmake
    have hlen := (validateBlobContent_eq_ok (hvalid row hmeta).2).1
    simp only [map_some, getD_some] at hproj
    omega
  | none =>
    rw [hmeta] at hmake hproj
    have hfresh : ∀ row ∈ db.metadata, row.blobId ≠ upload.blobId := by
      intro row hrow
      obtain ⟨hten, happ⟩ := h.described.partition row hrow
      exact readMetadata_eq_none hmeta hrow happ hten
    rw [create_eq_ok hmake, Table.rows_upsert_of_fresh hfresh]
    simp only [map_none, getD_none] at hproj
    simp only [map_append, map_singleton, sum_append, sum_singleton, newMetadata]
    omega

lemma WithinQuota.stored :
    WithinQuota server r.principal.tenantId r.principal.userId r.appId written := by
  have hrows := (h.prepared hstores.prepared).rows
  have hdesc := h.described.stored hstores (fun _ _ _ h => h) fun _ _ _ hvalid =>
      (validateBlobContent_eq_ok hvalid).1.le
  have hdeclared := declared_le_of_stores hquota h hstores hroom hsize
  obtain ⟨_, rfl⟩ := writeContent_eq_ok hstores.write
  exact ⟨hdesc, hrows, (sum_le_sum fun row hrow =>
    storedBytes_le hdesc hrow (hrows row hrow).2).trans hdeclared⟩

end

/-- **Step.** A request whose declared lengths are in bounds keeps the owner within the quota. -/
lemma WithinQuota.serve
    (h : WithinQuota server r.principal.tenantId r.principal.userId r.appId w.tables)
    (hg : DeclaresInBounds server w r) :
    WithinQuota server r.principal.tenantId r.principal.userId r.appId
      (server.serve w r).tables := by
  have heff := handle_effect server w r
  unfold BlobServer.serve
  generalize server.handle w r = outcome at heff ⊢
  cases heff with
  | failed hprep => exact h.prepared hprep
  | @declared _ input hcall hcheck =>
    simp only [DeclaresInBounds, hcall, hcheck] at hg
    obtain ⟨_, _, _, howner⟩ := checkDeclaration_eq_ok hcheck
    have hlen : 0 ≤ input.byteLength := le_trans storedBytes_nonneg hg
    refine h.upsert rfl rfl (h.described.declared (fun _ _ h => h) fun _ _ _ bytes hread _ => ?_)
      ⟨howner, hlen⟩
    rwa [storedBytes, hread] at hg
  | whole hcall _ hstores hsize =>
    simp only [DeclaresInBounds, hcall] at hg
    exact h.stored hquota hstores hg hsize
  -- The staging area counts for nothing.
  | got | staged => exact ⟨⟨h.described.partition, h.described.content⟩, h.rows, h.total⟩
  | final hcall _ _ hjoins hstores hlength =>
    simp only [DeclaresInBounds, hcall] at hg
    have hwrit := h.stored hquota hstores hg (by rw [hlength]; exact hjoins.size)
    exact ⟨⟨hwrit.described.partition, hwrit.described.content⟩, hwrit.rows, hwrit.total⟩

end

end Steps

/-- **Every run.** While each declaration of the owner covers what is stored under its blob id and
each upload finds declared lengths that leave room for a body, the owner's stored bytes stay within
the quota. -/
theorem quota_bounds_committed_bytes (server : BlobServer) (sharing : SharingTables)
    (tenantId ownerId appId : String) (requests : List BlobRequest)
    (hquota : quotaConfigured server.maxBlobBytesPerPrincipal = true)
    (hlimit : 0 ≤ server.maxBlobBytesPerPrincipal)
    (hdomain : ∀ q ∈ requests,
      q.principal.tenantId = tenantId ∧ q.principal.userId = ownerId ∧ q.appId = appId)
    (hguard : Guarded server.serve (DeclaresInBounds server) ⟨.empty, sharing, []⟩ requests) :
    committedBytes server (run server.serve ⟨.empty, sharing, []⟩ requests).tables tenantId ownerId
      appId ≤ server.maxBlobBytesPerPrincipal := by
  have hempty : WithinQuota server tenantId ownerId appId .empty := ⟨describes_empty, nofun, hlimit⟩
  have hinv : WithinQuota server tenantId ownerId appId
      (run server.serve ⟨.empty, sharing, []⟩ requests).tables := by
    refine run_invariant (I := fun w => WithinQuota server tenantId ownerId appId w.tables) ?_
      hempty (guarded_and hdomain hguard)
    rintro w q hinv ⟨⟨rfl, rfl, rfl⟩, hdeclares⟩
    exact hinv.serve hquota hdeclares
  rw [committedBytes, hinv.filter_rows]
  exact hinv.total

def threeBytes : BlobServer := { plainBlobServer with maxBlobBytesPerPrincipal := 3 }

theorem quota_bounds_committed_bytes_photo :
    committedBytes threeBytes (run threeBytes.serve ⟨.empty, .empty, []⟩
      [declarePhoto "ada", putPhoto "ada" [1]]).tables "acme" "ada" "_default" ≤ 3 :=
  quota_bounds_committed_bytes threeBytes .empty "acme" "ada" "_default"
    [declarePhoto "ada", putPhoto "ada" [1]] (by decide) (by decide)
    (by simp [declarePhoto, putPhoto, member]) (by decide +kernel)

/-- `ada` uploads two bytes, declares one of them away and uploads two more. -/
theorem declared_away :
    ¬committedBytes threeBytes (run threeBytes.serve ⟨.empty, .empty, []⟩
      [putPhoto "ada" [1, 2], declarePhoto "ada",
        ⟨member "ada", "_default", 1700000000003,
          .put { blobId := "film", ownerIdQuery := some "ada", body := [3, 4] }⟩]).tables
        "acme" "ada" "_default" ≤ 3 := by
  decide +kernel

end Frick.Properties
