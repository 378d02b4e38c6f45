import Frick.Framework.Run
import Frick.Store.Blob

/-!
# Blobs of other partitions

Blob metadata and blob bytes are read by app, tenant and id, and stored by id alone. `create` turns
away a caller of another app, but not one of another tenant; `SqlBlobBytesDriver::write` turns away
nobody. So an upsert under an id that another partition uses takes that partition's row over. On
Postgres the delete of a metadata row takes the bytes under its id along, whosever they are.
-/

namespace Frick.Properties

open Framework Store BlobTables

/-- One call on the blob store or on the bytes driver. -/
inductive BlobOp where
  | create (tenantId : String) (input : BlobMetadataInput) (appId : String) (nowMs : Int)
  | deleteMetadata (tenantId blobId appId : String)
  | write (tenantId blobId : String) (content : Bytes) (appId : String) (nowMs : Int)
  | delete (tenantId blobId appId : String)

namespace BlobOp

/-- The app and tenant that the call is issued for. -/
def partition : BlobOp → String × String
  | .create tenantId _ appId _ => (appId, tenantId)
  | .deleteMetadata tenantId _ appId => (appId, tenantId)
  | .write tenantId _ _ appId _ => (appId, tenantId)
  | .delete tenantId _ appId => (appId, tenantId)

/-- The tables after the call; one that fails changes nothing. -/
def step (dialect : SqlDialect) (db : BlobTables) : BlobOp → BlobTables
  | .create tenantId input appId nowMs =>
    ((db.createOn tenantId dialect input appId nowMs).toOption).getD db
  | .deleteMetadata tenantId blobId appId => (db.deleteMetadata tenantId blobId dialect appId).1
  | .write tenantId blobId content appId nowMs =>
    ((db.writeBytesOn tenantId blobId dialect content appId nowMs).toOption).getD db
  | .delete tenantId blobId appId => db.deleteBytes tenantId blobId appId

end BlobOp

/-- No other partition reads anything else after the call. -/
def Contained (dialect : SqlDialect) (db : BlobTables) (op : BlobOp) : Prop :=
  ∀ tenantId appId, (appId, tenantId) ≠ op.partition → ∀ blobId,
    (op.step dialect db).readMetadata tenantId blobId appId =
        db.readMetadata tenantId blobId appId ∧
      (op.step dialect db).readBytes tenantId blobId appId = db.readBytes tenantId blobId appId

/-- The bytes under a blob id, if any, are of the partition. -/
def BytesOf (db : BlobTables) (tenantId blobId appId : String) : Prop :=
  ∀ row ∈ db.content.find? blobId, row.appId = appId ∧ row.tenantId = tenantId

/-- The condition. A `create` whose length can be bound finds no row of another tenant of its app
under its id. A `write`, which on Postgres needs a metadata row, finds no bytes of another
partition; and on Postgres neither does a `delete_metadata` that finds its row. -/
def Unshared (dialect : SqlDialect) (db : BlobTables) : BlobOp → Prop
  | .create tenantId input appId _ => dialect.Binds [⟨input.byteLength, .int4⟩] →
    ∀ row ∈ db.metadata.find? input.blobId, row.appId = appId → row.tenantId = tenantId
  | .write tenantId blobId _ appId _ =>
    (dialect = .postgres → (db.metadata.find? blobId).isSome) → BytesOf db tenantId blobId appId
  | .deleteMetadata tenantId blobId appId =>
    dialect = .postgres → (db.readMetadata tenantId blobId appId).isSome →
      BytesOf db tenantId blobId appId
  | .delete _ _ _ => True

/-! ## One call -/

section Call

variable {dialect : SqlDialect} {db : BlobTables} {tenantId blobId appId : String} {nowMs : Int}

/-- A call is contained when no other partition's view of the two tables changes. -/
lemma contained_iff_views {op : BlobOp} :
    Contained dialect db op ↔
      (∀ p, p ≠ op.partition →
        ∀ k, ((op.step dialect db).metadata.view BlobMetadata.partition p k).map
          id = (db.metadata.view BlobMetadata.partition p k).map id) ∧
        ∀ p, p ≠ op.partition → ∀ k,
          ((op.step dialect db).content.view BlobContentRow.partition p k).map
            BlobContentRow.content =
            (db.content.view BlobContentRow.partition p k).map BlobContentRow.content := by
  simp only [Contained, readMetadata_eq_view, readBytes_eq_view, Prod.forall, Option.map_id]
  constructor
  · intro h
    exact ⟨fun appId tenantId hne k => (h tenantId appId hne k).1,
      fun appId tenantId hne k => (h tenantId appId hne k).2⟩
  · rintro ⟨hmetadata, hcontent⟩ tenantId appId hne k
    exact ⟨hmetadata appId tenantId hne k, hcontent appId tenantId hne k⟩

lemma step_create (dialect : SqlDialect) (db : BlobTables) (tenantId : String)
    (input : BlobMetadataInput) (appId : String) (nowMs : Int) :
    (((∃ row ∈ db.metadata.find? input.blobId, row.appId ≠ appId) ∨
        ¬dialect.Binds [⟨input.byteLength, .int4⟩]) ∧
        (BlobOp.create tenantId input appId nowMs).step dialect db = db) ∨
      (∀ row ∈ db.metadata.find? input.blobId, row.appId = appId) ∧
        dialect.Binds [⟨input.byteLength, .int4⟩] ∧
        (BlobOp.create tenantId input appId nowMs).step dialect db =
          { db with
            metadata := db.metadata.upsert (newMetadata tenantId input appId nowMs) } := by
  unfold BlobOp.step createOn create
  dsimp only
  cases hbind : dialect.bindParams [⟨input.byteLength, .int4⟩] with
  | error =>
    refine .inl ⟨.inr fun hbinds => ?_, ?_⟩
    · rw [SqlDialect.bindParams_eq_ok_iff.mpr hbinds] at hbind
      cases hbind
    · cases db.metadata.find? input.blobId with
      | none => rfl
      | some owner =>
        dsimp only
        split_ifs <;> rfl
  | ok =>
    have hbinds := SqlDialect.bindParams_eq_ok_iff.mp hbind
    cases hfind : db.metadata.find? input.blobId with
    | none =>
      refine .inr ⟨fun row hrow => ?_, hbinds, rfl⟩
      cases hrow
    | some owner =>
      dsimp only
      by_cases happ : owner.appId ≠ appId
      · rw [if_pos happ]
        exact .inl ⟨.inl ⟨owner, rfl, happ⟩, rfl⟩
      · rw [if_neg happ]
        refine .inr ⟨fun row hrow => ?_, hbinds, rfl⟩
        obtain rfl := Option.some.inj hrow
        exact not_not.mp happ

lemma contained_create_iff {input : BlobMetadataInput} :
    Contained dialect db (.create tenantId input appId nowMs) ↔
      Unshared dialect db (.create tenantId input appId nowMs) := by
  rw [contained_iff_views]
  rcases step_create dialect db tenantId input appId nowMs with
    ⟨hfailed, hstep⟩ | ⟨happ, hbinds, hstep⟩
  · -- It fails: nothing changes, and the row is another app's or the length is not bound.
    rw [hstep]
    refine iff_of_true ⟨fun _ _ _ => rfl, fun _ _ _ => rfl⟩ fun hbinds row hrow hsame => ?_
    rcases hfailed with ⟨owner, howner, happ⟩ | hfailed
    · rw [Option.mem_unique hrow howner] at hsame
      exact absurd hsame happ
    · exact absurd hbinds hfailed
  · rw [hstep, and_iff_left fun _ _ _ => rfl]
    refine (Table.view_upsert_unchanged_iff db.metadata BlobMetadata.partition
      (newMetadata tenantId input appId nowMs) id).trans
        ⟨fun h _ row hrow _ => ?_, fun h row hrow => ?_⟩
    · exact (Prod.mk.inj (h row hrow)).2
    · exact Prod.ext (happ row hrow) (h hbinds row hrow (happ row hrow))

lemma contained_write_iff {content : Bytes} :
    Contained dialect db (.write tenantId blobId content appId nowMs) ↔
      Unshared dialect db (.write tenantId blobId content appId nowMs) := by
  rw [contained_iff_views]
  unfold BlobOp.step writeBytesOn
  dsimp only
  split_ifs with hkey
  · -- The foreign key fails.
    refine iff_of_true ⟨fun _ _ _ => rfl, fun _ _ _ => rfl⟩ fun hrow => ?_
    have hnone := Option.isNone_iff_eq_none.mp hkey.2
    simp [hnone] at hrow
    exact absurd hkey.1 hrow
  · have hrow : dialect = .postgres → (db.metadata.find? blobId).isSome := by
      intro hpg
      by_contra hnone
      exact hkey ⟨hpg, by simpa using hnone⟩
    refine (and_iff_right fun _ _ _ => rfl).trans ((Table.view_upsert_unchanged_iff db.content
      BlobContentRow.partition ⟨blobId, appId, tenantId, content, isoFromEpochMs nowMs⟩
      BlobContentRow.content).trans ⟨fun h _ row hrow => ?_, fun h row hfind => ?_⟩)
    · exact Prod.mk.inj (h row hrow)
    · obtain ⟨happ, hten⟩ := h hrow row hfind
      exact Prod.ext happ hten

lemma contained_deleteMetadata_iff :
    Contained dialect db (.deleteMetadata tenantId blobId appId) ↔
      Unshared dialect db (.deleteMetadata tenantId blobId appId) := by
  have hmetadata := (Table.view_deleteWhere_unchanged_iff db.metadata BlobMetadata.partition
    (appId, tenantId) (fun row => row.appId = appId ∧ row.tenantId = tenantId ∧ row.blobId = blobId)
    id).mpr fun row _ hrow => by
      simp only [decide_eq_true_eq] at hrow
      exact Prod.ext hrow.1 hrow.2.1
  rw [contained_iff_views]
  cases dialect with
  | sqlite => exact iff_of_true ⟨hmetadata, fun _ _ _ => rfl⟩ nofun
  | postgres =>
    refine (and_iff_right hmetadata).trans ((Table.view_deleteWhere_unchanged_iff db.content
      BlobContentRow.partition (appId, tenantId) _ BlobContentRow.content).trans ?_)
    -- The cascade meets the bytes under the id, if the statement deletes a row.
    have hfound : (db.metadata.rows.any fun row =>
        row.appId = appId ∧ row.tenantId = tenantId ∧ row.blobId = blobId) ↔
          (db.readMetadata tenantId blobId appId).isSome :=
      List.any_eq_true.trans List.find?_isSome.symm
    simp only [decide_eq_true_eq, hfound]
    constructor
    · intro h _ hsome row hrow
      obtain ⟨hmem, hkey⟩ := Table.find?_eq_some_iff.mp hrow
      exact Prod.mk.inj (h row hmem ⟨hsome, hkey⟩)
    · rintro h row hmem ⟨hsome, hkey⟩
      obtain ⟨happ, hten⟩ := h rfl hsome row (Table.find?_eq_some_iff.mpr ⟨hmem, hkey⟩)
      exact Prod.ext happ hten

lemma contained_delete : Contained dialect db (.delete tenantId blobId appId) := by
  rw [contained_iff_views]
  refine ⟨fun _ _ _ => rfl, (Table.view_deleteWhere_unchanged_iff db.content
    BlobContentRow.partition (appId, tenantId) _ BlobContentRow.content).mpr fun row _ hrow => ?_⟩
  simp only [decide_eq_true_eq] at hrow
  exact Prod.ext hrow.1 hrow.2.1

/-- **Step.** A call is contained exactly when its id is not shared. -/
lemma contained_iff_unshared {op : BlobOp} : Contained dialect db op ↔ Unshared dialect db op := by
  cases op with
  | create => exact contained_create_iff
  | deleteMetadata => exact contained_deleteMetadata_iff
  | write => exact contained_write_iff
  | delete => exact iff_of_true contained_delete trivial

end Call

/-! ## Runs -/

/-- **Isolation of partitions.** Over a run on either engine no call changes what another partition
reads, exactly when no call of the run meets a row of another partition under its id. -/
theorem partitions_isolated_iff (dialect : SqlDialect) (db : BlobTables) (ops : List BlobOp) :
    (∀ before op after, ops = before ++ op :: after →
        Contained dialect (run (BlobOp.step dialect) db before) op) ↔
      Guarded (BlobOp.step dialect) (Unshared dialect) db ops := by
  rw [guarded_iff_forall_split]
  simp only [contained_iff_unshared]

def acmesBlob : BlobMetadataInput := ⟨"avatar", "ada", "sha256-1", 1, "image/png", none⟩

def acmesUpload : List BlobOp :=
  [.create "acme" acmesBlob "_default" 1700000000000,
    .write "acme" "avatar" [1] "_default" 1700000000001]

/-- **One id, two tenants.** `globex` creates a blob of the same id in the same app and stores its
bytes: `acme` then reads neither metadata nor bytes. -/
theorem globex_takes_over_acmes_blob :
    let before := run (BlobOp.step .sqlite) .empty acmesUpload
    let after := run (BlobOp.step .sqlite) before
      [.create "globex" acmesBlob "_default" 1700000000002,
        .write "globex" "avatar" [2] "_default" 1700000000003]
    before.readMetadata "acme" "avatar" "_default" =
        some ⟨acmesBlob, "acme", "_default", isoFromEpochMs 1700000000000⟩ ∧
      before.readBytes "acme" "avatar" "_default" = some [1] ∧
      after.readMetadata "acme" "avatar" "_default" = none ∧
      after.readBytes "acme" "avatar" "_default" = none := by
  decide +kernel

/-- On Postgres `acme` deletes its metadata, and the bytes of `globex` under the id go with it. -/
example :
    ((run (BlobOp.step .postgres) .empty
      [.create "acme" acmesBlob "_default" 1700000000000,
        .write "globex" "avatar" [2] "_default" 1700000000001,
        .deleteMetadata "acme" "avatar" "_default"]).readBytes "globex" "avatar" "_default") =
      none := by
  decide +kernel

end Frick.Properties
