import Frick.Client.Runtime
import Frick.Server.Gateway

/-!
# What a snapshot leaves in the client

A client that comes back online subscribes again and is sent the current rows of each object type it
watches. The handler stores every row of the snapshot, in memory and in the cache; it removes
nothing. So the client ends up with the snapshot's rows and whatever else it had.
-/

namespace Frick.Properties

open Protocol Server Client MemoryFrickCache FrickClient List

/-! ## The property and its condition -/

/-- The value the snapshot's records give an id; of two records for one id the later one counts. -/
def lookupLast (records : List UnpackedRecord) (id : String) : Option Value :=
  (records.reverse.find? fun record => record.id = id).map UnpackedRecord.value

/-- The client's objects of a type, in memory and in the cache, are the snapshot's. -/
def Reconciled (type : String) (records : List UnpackedRecord) (version : Int)
    (client : FrickClient) : Prop :=
  (∀ id, client.object type id = lookupLast records id) ∧
    ∀ row, row ∈ client.cache.objects ∧ row.type = type ↔
      ∃ id value, lookupLast records id = some value ∧ row = cachedRow type id value version

/-- Every object of the type that the client has, in memory or in the cache, is in the snapshot. -/
def NothingStale (type : String) (records : List UnpackedRecord) (client : FrickClient) : Prop :=
  (∀ id, client.object type id ≠ none → lookupLast records id ≠ none) ∧
    ∀ row ∈ client.cache.objects, row.type = type → lookupLast records row.id ≠ none

/-- A snapshot of objects of one type, as the client unpacks it. -/
structure SnapshotOf (schema : FrickSchema) (type : String) (payload : SnapshotPayload)
    (records : List UnpackedRecord) : Prop where
  unpacks : payload.objects.mapM (unpackObjectRecord schema) = .ok records
  ofType : ∀ record ∈ records, record.recordType = type

/-! ## The handler's loop -/

section Loop

variable {type : String} {version : Int} {records : List UnpackedRecord} {client : FrickClient}

def storeAll (version : Int) (client : FrickClient) (records : List UnpackedRecord) : FrickClient :=
  records.foldl (fun c record =>
    c.storeObject record.recordType record.id record.value version) client

lemma lookupLast_concat (records : List UnpackedRecord) (record : UnpackedRecord) (id : String) :
    lookupLast (records ++ [record]) id =
      if record.id = id then some record.value else lookupLast records id := by
  rw [lookupLast, reverse_append, reverse_singleton, singleton_append]
  by_cases hid : record.id = id
  · simp [hid]
  · simp [hid, lookupLast]

/-- **Memory.** The snapshot's value where it has one, and what was there where it has none. -/
lemma object_storeAll (htype : ∀ record ∈ records, record.recordType = type) (id : String) :
    (storeAll version client records).object type id =
      (lookupLast records id).or (client.object type id) := by
  induction records using List.reverseRecOn with
  | nil => rfl
  | append_singleton _ record ih =>
    have hrecord : record.recordType = type := htype record (by simp)
    have ih := ih fun r hr => htype r (by simp [hr])
    rw [storeAll, foldl_append, foldl_cons, foldl_nil, hrecord, lookupLast_concat]
    by_cases hid : record.id = id
    · rw [if_pos hid, hid, object_storeObject_self, Option.some_or]
    · rw [if_neg hid, object_storeObject_of_ne _ _ fun heq => hid heq.symm]
      exact ih

lemma exists_cachedRow_iff {row : CachedObject} {lookup : String → Option Value} :
    (∃ id value, lookup id = some value ∧ row = cachedRow type id value version) ↔
      ∃ value, lookup row.id = some value ∧ row = cachedRow type row.id value version := by
  constructor
  · rintro ⟨id, value, hlook, rfl⟩
    exact ⟨value, hlook, rfl⟩
  · exact fun ⟨value, h⟩ => ⟨row.id, value, h⟩

lemma mem_cache_storeAll (htype : ∀ record ∈ records, record.recordType = type)
    (row : CachedObject) :
    row ∈ (storeAll version client records).cache.objects ∧ row.type = type ↔
      (∃ id value, lookupLast records id = some value ∧ row = cachedRow type id value version) ∨
      (row ∈ client.cache.objects ∧ row.type = type) ∧ lookupLast records row.id = none := by
  induction records using List.reverseRecOn with
  | nil => simp [storeAll, lookupLast]
  | append_singleton records record ih =>
    have hrecord : record.recordType = type := htype record (by simp)
    have hstep : storeAll version client (records ++ [record]) =
        (storeAll version client records).storeObject type record.id record.value version := by
      rw [storeAll, foldl_append, foldl_cons, hrecord]
      rfl
    have hkey : row.type = type → (row.key ≠ objectKey type record.id ↔ row.id ≠ record.id) := by
      intro h
      rw [CachedObject.key, h, Ne, objectKey_inj]
    rw [hstep, storeObject, mem_saveObject, exists_cachedRow_iff, lookupLast_concat]
    -- A row of another id is as it was.
    by_cases hid : record.id = row.id
    · grind [cachedRow]
    · grind [cachedRow]

end Loop

/-! ## Exactly when the snapshot replaces -/

/-- **Snapshot.** After the snapshot of a type is handled, the client's objects of that type are the
snapshot's exactly when it had none that the snapshot lacks. -/
theorem snapshot_reconciles_iff (client : FrickClient) (type : String) (payload : SnapshotPayload)
    (records : List UnpackedRecord) (h : SnapshotOf client.schema type payload records) :
    Reconciled type records payload.cursor (client.receive (.snapshot payload)) ↔
      NothingStale type records client := by
  rw [receive_snapshot h.unpacks]
  have hobject : ∀ id, ((storeAll payload.cursor client records).saveCursor
      payload.subscriptionId payload.cursor).object type id =
        (lookupLast records id).or (client.object type id) := object_storeAll h.ofType
  have hcache : ∀ row, row ∈ ((storeAll payload.cursor client records).saveCursor
      payload.subscriptionId payload.cursor).cache.objects ↔
        row ∈ (storeAll payload.cursor client records).cache.objects := by
    intro row
    rw [FrickClient.saveCursor, saveCursor_objects]
  have hrow : ∀ row, row ∈ (storeAll payload.cursor client records).cache.objects ∧
      row.type = type ↔ _ := mem_cache_storeAll h.ofType
  constructor
  · rintro ⟨hmemory, hrows⟩
    refine ⟨fun id hsome hnone => hsome ?_, fun row hmem htype hnone => ?_⟩
    · have heq := (hobject id).symm.trans (hmemory id)
      rw [hnone] at heq
      exact heq
    have hstays := (hrow row).mpr (.inr ⟨⟨hmem, htype⟩, hnone⟩)
    obtain ⟨id, value, hlookup, rfl⟩ := (hrows row).mp ⟨(hcache row).mpr hstays.1, htype⟩
    have hid : (cachedRow type id value payload.cursor).id = id := rfl
    rw [hid, hlookup] at hnone
    simp at hnone
  · rintro ⟨hmemory, hrows⟩
    refine ⟨fun id => ?_, fun row => ?_⟩
    · refine (hobject id).trans ?_
      cases hlookup : lookupLast records id with
      | some => rfl
      | none =>
        exact not_not.mp fun hsome => hmemory id hsome hlookup
    · refine ((and_congr_left' (hcache row)).trans (hrow row)).trans ⟨?_, .inl⟩
      rintro (hnew | ⟨⟨hmem, htype⟩, hnone⟩)
      · exact hnew
      · exact absurd hnone (hrows row hmem htype)

/-! ## On a schema with one object type -/

def memoSchema : FrickSchema where
  objects := [{ id := 1, name := "Memo", fields := [⟨1, "body", .string, true, none, none, none⟩] }]

def memoScope : FrickCacheScope := ⟨some "acme", some "ada"⟩

def memo (id body : String) : Value :=
  .map [(.string "id", .string id), (.string "body", .string body)]

def memoClient : FrickClient :=
  storeObject { schema := memoSchema, cacheScope := some memoScope } "Memo" "m1"
    (memo "m1" "one") 0

def memoSnapshot (rows : List Value) : SnapshotPayload :=
  ⟨"Memo", GatewayHub.packObjectRows memoSchema "Memo" rows, 0⟩

/-- `m1` changed and `m2` is new: the client ends up with both, as they are now. -/
theorem snapshot_reconciles_update :
    Reconciled "Memo" [⟨"Memo", "m1", memo "m1" "new"⟩, ⟨"Memo", "m2", memo "m2" "two"⟩] 0
      (memoClient.receive (.snapshot (memoSnapshot [memo "m1" "new", memo "m2" "two"]))) := by
  refine (snapshot_reconciles_iff memoClient "Memo" _ _
    ⟨by decide +kernel, by decide +kernel⟩).mpr ⟨fun id hsome => ?_, ?_⟩
  · by_cases hid : id = "m1"
    · rw [hid]
      decide +kernel
    · exact absurd (object_storeObject_of_ne _ _ hid) hsome
  · show ∀ row ∈ memoClient.cache.objects.rows, _
    decide +kernel

/-- `m1` was deleted while the client was away. It comes back from the cache, and the snapshot
without it leaves it in memory and in the cache. -/
theorem deleted_memo_survives_snapshot :
    ∃ client, new memoSchema (some memoScope) memoClient.cache = .ok client ∧
      (client.receive (.snapshot (memoSnapshot []))).object "Memo" "m1" = some (memo "m1" "one") ∧
      ¬ Reconciled "Memo" [] 0 (client.receive (.snapshot (memoSnapshot []))) := by
  refine ⟨_, rfl, by decide +kernel, fun h => ?_⟩
  have hobject := h.1 "m1"
  revert hobject
  decide +kernel

end Frick.Properties
