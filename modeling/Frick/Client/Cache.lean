import Mathlib.Data.List.Sort
import Frick.Framework.Dict
import Frick.Protocol.Codec

/-!
# The client's local cache

`MemoryFrickCache` of `packages/core/src/cache.ts`: what a client keeps across restarts — objects,
stream events and cursors, each saved one at a time by the frame handlers — together with the
schema and session identity it was last written under.
-/

namespace Frick.Client

open Framework Protocol List

/-! ## Keys -/

def objectKey (type id : String) : String := type ++ ":" ++ id

def streamKey (stream key : String) : String := stream ++ ":" ++ key

/-- Ids of one type do not share a key; a `:` in a type name may make two types share one. -/
lemma objectKey_inj {type id id' : String} : objectKey type id = objectKey type id' ↔ id = id' := by
  simp [objectKey]

/-! ## Event lists -/

/-- The list update of `#storeStreamEvent` and `saveStreamEvent`: the event replaces the one with
its id or is pushed, and the list is sorted by sequence. -/
def mergeEvent (events : List StreamEventInput) (event : StreamEventInput) :
    List StreamEventInput :=
  let next := match events.findIdx? fun candidate => candidate.eventId = event.eventId with
    | none => events ++ [event]
    | some existing => events.set existing event
  next.insertionSort fun left right => left.sequence ≤ right.sequence

lemma mem_mergeEvent_self (events : List StreamEventInput) (ev : StreamEventInput) :
    ev ∈ mergeEvent events ev := by
  rw [mergeEvent, mem_insertionSort]
  cases hfound : events.findIdx? fun cand => cand.eventId = ev.eventId with
  | none => simp
  | some old =>
    have hlt : old < events.length := (List.findIdx?_eq_some_iff_getElem.mp hfound).1
    exact mem_set hlt ev

lemma mem_mergeEvent_of_ne {events : List StreamEventInput} {held ev : StreamEventInput}
    (hmem : held ∈ events) (hne : held.eventId ≠ ev.eventId) :
    held ∈ mergeEvent events ev := by
  rw [mergeEvent, mem_insertionSort]
  cases hfound : events.findIdx? fun cand => cand.eventId = ev.eventId with
  | none => exact mem_append_left _ hmem
  | some old =>
    obtain ⟨hlt, hid, _⟩ := List.findIdx?_eq_some_iff_getElem.mp hfound
    obtain ⟨i, hi, rfl⟩ := getElem_of_mem hmem
    have hother : old ≠ i := by
      rintro rfl
      exact hne (by simpa using hid)
    refine mem_iff_getElem.mpr ⟨i, by simpa using hi, ?_⟩
    exact getElem_set_of_ne hother ev (by simpa using hi)

/-! ## The cache -/

structure CachedObject where
  type : String
  id : String
  value : Value
  version : Int

/-- The key a cached object is stored under. -/
def CachedObject.key (object : CachedObject) : String := objectKey object.type object.id

structure FrickCacheScope where
  tenantId : Option String := none
  userId : Option String := none

structure FrickCacheMetadata where
  schemaId : String
  schemaVersion : String
  schemaRevision : Int
  schemaHash : String
  tenantId : Option String
  userId : Option String

def schemaIdentity (schema : FrickSchema) (scope : FrickCacheScope) : FrickCacheMetadata :=
  ⟨schema.schemaId, schema.schemaVersion, schema.schemaRevision, schema.hash, scope.tenantId,
    scope.userId⟩

def withId (id : String) : Value → Value
  | .map entries => .map (entries.foldl (fun fields entry =>
    match entry.1.asStr with
    | some name => assign name entry.2 fields
    | none => fields ++ [entry]) [(.string "id", .string id)])
  | _ => .map [(.string "id", .string id)]

/-- `MemoryFrickCache`, without its pending appends. -/
structure MemoryFrickCache where
  objects : Table CachedObject.key
  streamEvents : Dict String (List StreamEventInput)
  cursors : Dict String Int
  metadata : Option FrickCacheMetadata

namespace MemoryFrickCache

/-- `new MemoryFrickCache()`. -/
def empty : MemoryFrickCache := ⟨Table.empty _, Table.empty _, Table.empty _, none⟩

variable (cache : MemoryFrickCache) (schema : FrickSchema) (scope : FrickCacheScope)

/-- `#writeMetadata`: a change of `schemaVersion` alone keeps the old record. -/
def writeMetadata : MemoryFrickCache :=
  let next := schemaIdentity schema scope
  match cache.metadata with
  | none => { cache with metadata := some next }
  | some old =>
    if old.schemaId = next.schemaId ∧ old.schemaHash = next.schemaHash ∧
        old.schemaRevision = next.schemaRevision ∧ old.tenantId = next.tenantId ∧
        old.userId = next.userId then cache
    else { cache with metadata := some next }

def cachedRow (type id : String) (value : Value) (version : Int) : CachedObject :=
  ⟨type, id, withId id value, version⟩

def saveObject (type id : String) (value : Value) (version : Int) : MemoryFrickCache :=
  let cache := cache.writeMetadata schema scope
  { cache with objects := cache.objects.upsert (cachedRow type id value version) }

def deleteObject (type id : String) : MemoryFrickCache :=
  let cache := cache.writeMetadata schema scope
  { cache with objects := cache.objects.deleteWhere fun object => object.key = objectKey type id }

def saveStreamEvent (event : StreamEventInput) : MemoryFrickCache :=
  let cache := cache.writeMetadata schema scope
  let key := streamKey event.stream event.streamId
  { cache with
    streamEvents := cache.streamEvents.set key
      (mergeEvent ((cache.streamEvents.get? key).getD []) event) }

def saveCursor (key : String) (cursor : Int) : MemoryFrickCache :=
  let cache := cache.writeMetadata schema scope
  { cache with cursors := cache.cursors.set key (max ((cache.cursors.get? key).getD 0) cursor) }

/-! ## Loading -/

/-- `FrickCacheIncompatibleReason`. -/
inductive IncompatibleReason where
  | schemaIdMismatch
  | cacheTooOld
  | sessionScopeMismatch
  deriving Repr

def compatibilityReason (cached : FrickCacheMetadata) : Option IncompatibleReason :=
  if cached.schemaId ≠ schema.schemaId then some .schemaIdMismatch
  else if cached.schemaRevision < schema.minimumClientRevision then some .cacheTooOld
  else if (scope.tenantId.isSome ∧ cached.tenantId ≠ scope.tenantId) ∨
      (scope.userId.isSome ∧ cached.userId ≠ scope.userId) then some .sessionScopeMismatch
  else none

/-- The check of `load`; what it returns is the cache itself. -/
def load : Except IncompatibleReason MemoryFrickCache :=
  match cache.metadata.bind (compatibilityReason schema scope) with
  | some reason => .error reason
  | none => .ok cache

/-! ## What saving does -/

@[simp] lemma writeMetadata_objects :
    (cache.writeMetadata schema scope).objects = cache.objects := by
  unfold writeMetadata
  dsimp only
  split
  · rfl
  · split_ifs <;> rfl

@[simp] lemma saveCursor_objects (key : String) (cursor : Int) :
    (cache.saveCursor schema scope key cursor).objects = cache.objects :=
  cache.writeMetadata_objects schema scope

lemma mem_saveObject {type id : String} {val : Value} {ver : Int} {row : CachedObject} :
    row ∈ (cache.saveObject schema scope type id val ver).objects ↔
      row = cachedRow type id val ver ∨ row ∈ cache.objects ∧ row.key ≠ objectKey type id := by
  rw [saveObject, Table.mem_upsert, writeMetadata_objects]
  exact Iff.rfl

end MemoryFrickCache

end Frick.Client
