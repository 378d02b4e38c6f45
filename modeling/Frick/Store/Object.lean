import Mathlib.Data.List.Sort
import Frick.Framework.Table
import Frick.Store.Basic

/-!
# The object store

`stores/object.rs`: the durable records. The primary key is `(tenant, type, id)`; `app_id` is a
plain column, and a cross-app guard before the upsert keeps one app from overwriting another's
row. `upsert_with_policy` runs its read and its write in one transaction, so it is one function
of the table here.

The stored record drops the `id` key of the value and `unpack` puts the record id back in front,
so what the store wrote reads back under its own id, and what was read back packs and unpacks to
itself from then on (`ReadsBack`).
-/

namespace Frick.Store

open Framework Protocol Table List

structure ObjectRow (β : Type) where
  appId : String
  tenantId : String
  objectType : String
  objectId : String
  version : Int
  packed : β
  updatedAt : String
  deriving DecidableEq

/-- `PRIMARY KEY (tenant_id, object_type, object_id)`. -/
def ObjectRow.primaryKey {β : Type} (row : ObjectRow β) : String × String × String :=
  (row.tenantId, row.objectType, row.objectId)

open ObjectRow (primaryKey)

abbrev ObjectTable (β : Type) := Table (primaryKey (β := β))

structure ObjectUpsertResult where
  previousVersion : Int
  nextVersion : Int
  created : Bool
  deriving Repr

/-- `ObjectStore`: a validated schema and the column codec. -/
structure ObjectStore (β : Type) extends PackedColumn PackedRecord β where
  schema : FrickSchema
  schemaValid : schema.DistinctIds

def withoutRecordId : Value → Value
  | .map entries => .map (entries.filter fun entry => entry.1.asStr ≠ some "id")
  | other => other

def resolveObjectMergePolicy (schema : FrickSchema) (name : String) : FrickObjectMergePolicy :=
  ((schema.objects.find? fun object => object.name = name).bind ObjectDef.mergePolicy).getD
    .lastWriteWins

namespace ObjectStore

variable {β : Type} (store : ObjectStore β)

section

variable (db : ObjectTable β) (tenantId objectType : String)

def pack (objectId : String) (value : Value) : Except StoreError β := do
  let record ← liftProtocol (packObjectRecord store.schema objectType objectId
    (withoutRecordId value))
  store.encodeColumn tenantId record

def unpack (row : ObjectRow β) : Except StoreError Value := do
  let packed ← store.decodeColumn tenantId row.packed
  let record ← liftProtocol (unpackObjectRecord store.schema packed)
  pure record.value

/-- The row of one app, as every read selects it. -/
def selectRow (objectId appId : String) : Option (ObjectRow β) :=
  db.rows.find? fun row => row.appId = appId ∧ row.primaryKey = (tenantId, objectType, objectId)

/-- `write_row_packed`: the cross-app guard and the upsert. -/
def writeRowPacked (row : ObjectRow β) : Except StoreError (ObjectTable β) :=
  match db.find? row.primaryKey with
  | some owner =>
    if owner.appId ≠ row.appId then
      .error (.crossAppAccess row.appId owner.appId row.tenantId row.objectType row.objectId)
    else .ok (db.upsert row)
  | none => .ok (db.upsert row)

/-- `upsert`: unconditional, under the version the caller gives. -/
def upsert (objectId : String) (value : Value)
    (version : Int) (appId : String) (nowMs : Int) : Except StoreError (ObjectTable β) := do
  let packed ← store.pack tenantId objectType objectId value
  writeRowPacked db ⟨appId, tenantId, objectType, objectId, version, packed, isoFromEpochMs nowMs⟩

/-- The version `upsert_with_policy` writes over `previousVersion`, or its conflict. -/
def nextVersion (objectId : String) (previousVersion : Int) (found : Bool)
    (expectedVersion : Option Int) : FrickObjectMergePolicy → Except StoreError Int
  | .lastWriteWins => .ok (wrapI64 (previousVersion + 1))
  | .versionPrecondition =>
    match expectedVersion with
    | none =>
      if found then
        .error (.objectVersionConflict tenantId objectType objectId none previousVersion)
      else .ok 1
    | some expected =>
      if previousVersion ≠ expected then
        .error (.objectVersionConflict tenantId objectType objectId (some expected) previousVersion)
      else .ok (wrapI64 (expected + 1))

def upsertWithPolicy (appId tenantId objectType objectId : String)
    (value : Value) (expectedVersion : Option Int) (mergePolicy : FrickObjectMergePolicy)
    (nowMs : Int) : Except StoreError (ObjectTable β × ObjectUpsertResult) := do
  let packed ← store.pack tenantId objectType objectId value
  let current := selectRow db tenantId objectType objectId appId
  let previousVersion := (current.map ObjectRow.version).getD 0
  let next ← nextVersion tenantId objectType objectId previousVersion current.isSome
    expectedVersion mergePolicy
  let db ← writeRowPacked db
    ⟨appId, tenantId, objectType, objectId, next, packed, isoFromEpochMs nowMs⟩
  pure (db, ⟨previousVersion, next, !current.isSome⟩)

def read (objectId appId : String) : Except StoreError (Option Value) :=
  match selectRow db tenantId objectType objectId appId with
  | none => .ok none
  | some row => do
    let value ← store.unpack tenantId row
    pure (some value)

def delete (objectId appId : String) : ObjectTable β × Bool :=
  (db.deleteWhere fun row =>
      row.appId = appId ∧ row.primaryKey = (tenantId, objectType, objectId),
    (selectRow db tenantId objectType objectId appId).isSome)

def list (appId : String) : Except StoreError (List Value) :=
  let rows := db.rows.filter fun row =>
    row.appId = appId ∧ row.tenantId = tenantId ∧ row.objectType = objectType
  (rows.insertionSort fun a b => a.objectId ≤ b.objectId).mapM (store.unpack tenantId)

end

/-! ## What packs reads back -/

variable {store}

lemma toString_ne_id (n : Int) : toString n ≠ "id" := by
  intro h
  have hchars : (toString n).toList = ['i', 'd'] := by rw [h]; rfl
  cases n with
  | ofNat m =>
    change (Nat.repr m).toList = _ at hchars
    have hdigits : Nat.toDigits 10 m = ['i', 'd'] := by simpa [Nat.repr] using hchars
    have hdigit : Char.isDigit 'i' :=
      Nat.isDigit_of_mem_toDigits (b := 10) (n := m) (by decide) (by decide)
        (by rw [hdigits]; simp)
    exact absurd hdigit (by decide)
  | negSucc m =>
    change ("-" ++ Nat.repr (m + 1)).toList = _ at hchars
    simp at hchars

variable {packed : List PackedField}

lemma packFields_withoutRecordId {fields : List FieldDef} (hids : (fields.map FieldDef.id).Nodup)
    {value : Value} (h : packFields fields (withoutRecordId value) = .ok packed) :
    ∀ p ∈ packed, ∀ field, fieldById fields p.1 = .ok field → field.name ≠ "id" := by
  intro p hp field hfield
  cases value with
  | map =>
    obtain ⟨entry, hentry, hpack⟩ := exists_of_mem_mapM h hp
    obtain ⟨name, hname, source, hmem, hsrc, rfl⟩ := packField_eq_ok hpack
    have hkey : entry.1.asStr ≠ some "id" := by simpa using (mem_filter.mp hentry).2
    have hsame : field = source := by
      have hlook : fieldById fields source.id = .ok source :=
        fieldById_eq_ok_iff.mpr (findById_of_mem hmem hids)
      exact Except.ok.inj (hfield.symm.trans hlook)
    rw [hsame, hsrc]
    cases hentryKey : entry.1 with
    | string =>
      rw [hentryKey] at hname hkey
      obtain rfl := Except.ok.inj hname
      simpa using hkey
    | integer n =>
      rw [hentryKey] at hname
      obtain rfl := Except.ok.inj hname
      exact toString_ne_id n
    | _ => rw [hentryKey] at hname; cases hname
  | boolean | integer | f32 | f64 =>
    obtain rfl := Except.ok.inj h
    simp at hp
  | _ => cases h

lemma unpackFieldsInto_id {fields : List FieldDef} {id : Value}
    (hne : ∀ p ∈ packed, ∀ field, fieldById fields p.1 = .ok field → field.name ≠ "id")
    {rest out : List (Value × Value)}
    (h : unpackFieldsInto fields packed ((.string "id", id) :: rest) = .ok out) :
    ∃ rest', out = (.string "id", id) :: rest' := by
  induction packed generalizing rest with
  | nil => exact ⟨rest, (Except.ok.inj h).symm⟩
  | cons p _ ih =>
    obtain ⟨field, hfield, h⟩ := bind_eq_ok.mp h
    have hname : (Value.string "id").asStr ≠ some field.name := by
      simpa [eq_comm] using hne p (by simp) field hfield
    rw [assign, if_neg hname] at h
    exact ih (fun q hq => hne q (by simp [hq])) h

end ObjectStore

/-- A value as the store hands it out for the record `objectId`: it carries that id, it packs, and
what it packs to unpacks to itself. -/
structure ReadsBack (schema : FrickSchema) (objectType objectId : String) (value : Value) :
    Prop where
  id : value.field? "id" = some (.string objectId)
  packs : ∃ record,
    packObjectRecord schema objectType objectId (withoutRecordId value) = .ok record ∧
      unpackObjectRecord schema record = .ok ⟨objectType, objectId, value⟩

/-- The value that a record written with `value` reads back as. -/
def readBack (schema : FrickSchema) (objectType objectId : String) (value : Value) : Option Value :=
  match packObjectRecord schema objectType objectId (withoutRecordId value) with
  | .error _ => none
  | .ok record => (unpackObjectRecord schema record).toOption.map UnpackedRecord.value

variable {objectId objectType : String} {schema : FrickSchema} {value : Value}

lemma ReadsBack.eq_of_pack_eq {other : Value} (hvalue : ReadsBack schema objectType objectId value)
    (hother : ReadsBack schema objectType objectId other)
    (h : packObjectRecord schema objectType objectId (withoutRecordId value) =
      packObjectRecord schema objectType objectId (withoutRecordId other)) : value = other := by
  obtain ⟨record, hpack, hunp⟩ := hvalue.packs
  obtain ⟨record', hpack', hunpack'⟩ := hother.packs
  obtain rfl : record = record' := Except.ok.inj (hpack.symm.trans (h.trans hpack'))
  have hsame := Except.ok.inj (hunp.symm.trans hunpack')
  exact congrArg UnpackedRecord.value hsame

lemma withoutRecordId_cons {objectId : Value} {rest : List (Value × Value)}
    (h : .string "id" ∉ rest.map Prod.fst) :
    withoutRecordId (.map ((.string "id", objectId) :: rest)) = .map rest := by
  have hrest : rest.filter (fun entry => entry.1.asStr ≠ some "id") = rest := by
    refine filter_eq_self.mpr fun entry hentry => ?_
    have hkey : entry.1 ≠ .string "id" := fun heq => h (mem_map.mpr ⟨entry, hentry, heq⟩)
    have hstr : entry.1.asStr ≠ some "id" := by
      intro hsome
      apply hkey
      cases hentry : entry.1 <;> simp_all [Value.asStr]
    simpa using hstr
  rw [withoutRecordId, filter_cons_of_neg (by simp), hrest]

/-- What a packed record unpacks to packs again, and unpacks to itself from there on. -/
lemma exists_readsBack (hdist : schema.DistinctIds) {record : PackedRecord}
    (h : packObjectRecord schema objectType objectId (withoutRecordId value) = .ok record) :
    ∃ out, unpackObjectRecord schema record = .ok ⟨objectType, objectId, out⟩ ∧
      ReadsBack schema objectType objectId out := by
  obtain ⟨object, hobj, h⟩ := bind_eq_ok.mp h
  obtain ⟨packed, hpacked, h⟩ := bind_eq_ok.mp h
  obtain rfl := Except.ok.inj h
  obtain ⟨hmem, hname⟩ := findByName_eq_ok hobj
  have hids := hdist.objectFields object hmem
  have hlook : objectById schema object.id = .ok object := findById_of_mem hmem hdist.objects
  -- The entries are the id first and then one for each packed field.
  obtain ⟨es, hents⟩ := exists_unpackFieldsInto (packFields_ids hpacked)
    [(.string "id", .string objectId)]
  obtain ⟨rest, rfl⟩ := ObjectStore.unpackFieldsInto_id
    (ObjectStore.packFields_withoutRecordId hids hpacked) hents
  have hnodup := unpackFieldsInto_nodup (by simp) hents
  obtain ⟨hid, _⟩ := nodup_cons.mp hnodup
  have hkeys : ∀ entry ∈ rest, ∃ field ∈ object.fields, entry.1 = .string field.name := by
    intro entry hentry
    rcases key_of_mem_unpackFieldsInto hents (mem_cons_of_mem _ hentry) with
      ⟨old, hold, hkey⟩ | hnamed
    · obtain rfl := mem_singleton.mp hold
      exact absurd (mem_map.mpr ⟨entry, hentry, hkey⟩) hid
    · exact hnamed
  obtain ⟨again, hagain⟩ := exists_packFields hkeys
  have hunp : ∀ fields : List PackedField,
      unpackFieldsInto object.fields fields [(.string "id", .string objectId)] =
        .ok ((.string "id", .string objectId) :: rest) →
      unpackObjectRecord schema ⟨object.id, objectId, fields⟩ =
        .ok ⟨objectType, objectId, .map ((.string "id", .string objectId) :: rest)⟩ := by
    intro fields hflds
    rw [unpackObjectRecord, hlook, ok_bind, hflds, ← hname]
    rfl
  refine ⟨_, hunp packed hents, by simp [Value.field?], ⟨object.id, objectId, again⟩, ?_, ?_⟩
  · rw [withoutRecordId_cons hid, packObjectRecord, hobj, ok_bind, hagain]
    rfl
  · refine hunp again (unpackFieldsInto_packed hids (mapM_eq_ok_iff.mp hagain) ?_ _ hnodup)
    intro entry hentry
    obtain ⟨field, _, hkey⟩ := hkeys entry hentry
    exact ⟨field.name, hkey⟩

lemma readsBack_of_readBack (hdist : schema.DistinctIds) {out : Value}
    (h : readBack schema objectType objectId value = some out) :
    ReadsBack schema objectType objectId out := by
  unfold readBack at h
  cases hpack : packObjectRecord schema objectType objectId (withoutRecordId value) with
  | error =>
    rw [hpack] at h
    cases h
  | ok =>
    obtain ⟨unpacked, hunp, hreads⟩ := exists_readsBack hdist hpack
    rw [hpack] at h
    dsimp only at h
    rw [hunp] at h
    obtain rfl := Option.some.inj h
    exact hreads

namespace ObjectStore

variable {β : Type} {store : ObjectStore β}

lemma exists_unpack_of_pack {row : ObjectRow β} {value : Value}
    (h : store.pack row.tenantId row.objectType row.objectId value = .ok row.packed) :
    ∃ record out,
      packObjectRecord store.schema row.objectType row.objectId (withoutRecordId value) =
        .ok record ∧
      unpackObjectRecord store.schema record = .ok ⟨row.objectType, row.objectId, out⟩ ∧
      store.unpack row.tenantId row = .ok out ∧
      ReadsBack store.schema row.objectType row.objectId out := by
  obtain ⟨record, hrecord, henc⟩ := bind_eq_ok.mp h
  obtain ⟨out, hunp, hreads⟩ := exists_readsBack store.schemaValid (liftProtocol_eq_ok.mp hrecord)
  refine ⟨record, out, liftProtocol_eq_ok.mp hrecord, hunp, ?_, hreads⟩
  rw [unpack, PackedColumn.decodeColumn_of_encodeColumn henc, ok_bind, liftProtocol_eq_ok.mpr hunp]
  rfl

/-! ## What a write does -/

section Writes

variable {db db' : ObjectTable β} {row written : ObjectRow β}
  {tenantId objectType objectId appId : String} {value : Value} {nowMs : Int}

lemma selectRow_eq_some_iff :
    selectRow db tenantId objectType objectId appId = some row ↔
      row ∈ db ∧ row.appId = appId ∧ row.primaryKey = (tenantId, objectType, objectId) := by
  constructor
  · intro h
    exact ⟨mem_of_find?_eq_some h, by simpa using List.find?_some h⟩
  rintro ⟨hmem, happ, hkey⟩
  cases hfound : selectRow db tenantId objectType objectId appId with
  | none => exact absurd (List.find?_eq_none.mp hfound row hmem) (by simp [happ, hkey])
  | some found =>
    have haddr : found.appId = appId ∧ found.primaryKey = (tenantId, objectType, objectId) := by
      simpa using List.find?_some hfound
    rw [eq_of_key_eq (mem_of_find?_eq_some hfound) hmem (haddr.2.trans hkey.symm)]

lemma selectRow_congr (h : ∀ row : ObjectRow β, row.appId = appId →
      row.primaryKey = (tenantId, objectType, objectId) → (row ∈ db' ↔ row ∈ db)) :
    selectRow db' tenantId objectType objectId appId =
      selectRow db tenantId objectType objectId appId := by
  refine Option.ext fun row => ?_
  rw [selectRow_eq_some_iff, selectRow_eq_some_iff]
  constructor
  · rintro ⟨hmem, happ, hkey⟩
    exact ⟨(h row happ hkey).mp hmem, happ, hkey⟩
  · rintro ⟨hmem, happ, hkey⟩
    exact ⟨(h row happ hkey).mpr hmem, happ, hkey⟩

lemma writeRowPacked_eq_ok_iff : writeRowPacked db row = .ok db' ↔
    (∀ owner, db.find? row.primaryKey = some owner → owner.appId = row.appId) ∧
      db.upsert row = db' := by
  unfold writeRowPacked
  cases db.find? row.primaryKey with
  | none => simp
  | some owner => by_cases happ : owner.appId = row.appId <;> simp [happ]

lemma selectRow_writeRowPacked (h : writeRowPacked db row = .ok db') :
    selectRow db' row.tenantId row.objectType row.objectId row.appId = some row ∧
      ∀ tenantId objectType objectId appId,
        (tenantId, objectType, objectId, appId) ≠
          (row.tenantId, row.objectType, row.objectId, row.appId) →
        selectRow db' tenantId objectType objectId appId =
          selectRow db tenantId objectType objectId appId := by
  obtain ⟨hguard, rfl⟩ := writeRowPacked_eq_ok_iff.mp h
  refine ⟨selectRow_eq_some_iff.mpr ⟨mem_upsert.mpr (.inl rfl), rfl, rfl⟩, ?_⟩
  intro tenantId objectType objectId appId hne
  refine selectRow_congr fun other happ hkey => ?_
  rw [mem_upsert]
  constructor
  · rintro (rfl | ⟨hmem, _⟩)
    · simp only [primaryKey, Prod.mk.injEq] at hkey
      exact absurd (by rw [← happ, hkey.1, hkey.2.1, hkey.2.2]) hne
    · exact hmem
  · intro hmem
    refine .inr ⟨hmem, fun hsame => ?_⟩
    -- The cross-app guard: a row under the written key is the written app's.
    have hrow := hguard other (find?_eq_some_iff.mpr ⟨hmem, hsame⟩)
    rw [hkey] at hsame
    simp only [primaryKey, Prod.mk.injEq] at hsame
    exact hne (by rw [← happ, hrow, hsame.1, hsame.2.1, hsame.2.2])

lemma selectRow_delete (db : ObjectTable β) (tenantId objectType objectId appId : String) :
    selectRow (delete db tenantId objectType objectId appId).1 tenantId objectType objectId appId =
        none ∧
      ∀ tenantId' objectType' objectId' appId',
        (tenantId', objectType', objectId', appId') ≠ (tenantId, objectType, objectId, appId) →
        selectRow (delete db tenantId objectType objectId appId).1 tenantId' objectType' objectId'
            appId' = selectRow db tenantId' objectType' objectId' appId' := by
  constructor
  · refine List.find?_eq_none.mpr fun row hrow => ?_
    have hkept := (mem_deleteWhere.mp hrow).2
    simpa using hkept
  intro tenantId' objectType' objectId' appId' hne
  refine selectRow_congr fun row happ hkey => ?_
  unfold delete
  rw [mem_deleteWhere]
  refine ⟨fun h => h.1, fun hmem => ⟨hmem, ?_⟩⟩
  rw [decide_eq_false_iff_not]
  rintro ⟨happ', hkey'⟩
  have hsame := hkey.symm.trans hkey'
  simp only [Prod.mk.injEq] at hsame
  exact hne (by rw [hsame.1, hsame.2.1, hsame.2.2, ← happ, happ'])

variable {expectedVersion : Option Int} {mergePolicy : FrickObjectMergePolicy}
  {result : ObjectUpsertResult}

lemma upsertWithPolicy_eq_ok
    (h : store.upsertWithPolicy db appId tenantId objectType objectId value expectedVersion
      mergePolicy nowMs = .ok (db', result)) :
    ∃ version packed, store.pack tenantId objectType objectId value = .ok packed ∧
      writeRowPacked db ⟨appId, tenantId, objectType, objectId, version, packed,
        isoFromEpochMs nowMs⟩ = .ok db' := by
  obtain ⟨packed, hpack, h⟩ := bind_eq_ok.mp h
  obtain ⟨next, _, h⟩ := bind_eq_ok.mp h
  obtain ⟨written, hwrite, h⟩ := bind_eq_ok.mp h
  obtain ⟨rfl, _⟩ := Prod.mk.inj (Except.ok.inj h)
  exact ⟨next, packed, hpack, hwrite⟩

end Writes

/-! ## Tables that the store wrote -/

variable (store) in
/-- Every row holds what `pack` made of some value. -/
def Written (db : ObjectTable β) : Prop :=
  ∀ row ∈ db, ∃ value, store.pack row.tenantId row.objectType row.objectId value = .ok row.packed

variable (store) in
/-- What a read of the record finds. -/
def current (db : ObjectTable β) (tenantId objectType objectId appId : String) : Option Value :=
  (store.read db tenantId objectType objectId appId).toOption.join

section Written

variable {db db' : ObjectTable β} {row : ObjectRow β}
  {tenantId objectType objectId appId : String} {value : Value}

lemma written_empty : store.Written (empty _ : ObjectTable β) :=
  nofun

section

variable (hdb : store.Written db)
include hdb

lemma written_writeRowPacked
    (hpack : store.pack row.tenantId row.objectType row.objectId value = .ok row.packed)
    (h : writeRowPacked db row = .ok db') : store.Written db' := by
  obtain ⟨_, rfl⟩ := writeRowPacked_eq_ok_iff.mp h
  intro other hother
  rcases mem_upsert.mp hother with rfl | ⟨hold, _⟩
  · exact ⟨value, hpack⟩
  · exact hdb other hold

omit hdb in
lemma current_congr (h : selectRow db' tenantId objectType objectId appId =
      selectRow db tenantId objectType objectId appId) :
    store.current db' tenantId objectType objectId appId =
      store.current db tenantId objectType objectId appId := by
  unfold current read
  rw [h]

omit hdb in
lemma current_of_selectRow_none (h : selectRow db tenantId objectType objectId appId = none) :
    store.current db tenantId objectType objectId appId = none := by
  unfold current read
  rw [h]
  rfl

omit hdb in
lemma current_eq_some_iff : store.current db tenantId objectType objectId appId = some value ↔
    ∃ row, selectRow db tenantId objectType objectId appId = some row ∧
      store.unpack tenantId row = .ok value := by
  unfold current read
  cases selectRow db tenantId objectType objectId appId with
  | none => simp [Except.toOption]
  | some row => cases h : store.unpack tenantId row <;> simp [h, Except.toOption]

lemma exists_unpack (h : selectRow db tenantId objectType objectId appId = some row) :
    ∃ out, store.unpack tenantId row = .ok out ∧
      ReadsBack store.schema objectType objectId out := by
  obtain ⟨hmem, _, hkey⟩ := selectRow_eq_some_iff.mp h
  obtain ⟨rfl, rfl, rfl⟩ := hkey
  obtain ⟨value, hpack⟩ := hdb row hmem
  obtain ⟨_, out, _, _, hunp, hreads⟩ := exists_unpack_of_pack hpack
  exact ⟨out, hunp, hreads⟩

lemma read_eq_current (tenantId objectType objectId appId : String) :
    store.read db tenantId objectType objectId appId =
      .ok (store.current db tenantId objectType objectId appId) := by
  unfold current read
  cases hrow : selectRow db tenantId objectType objectId appId with
  | none => rfl
  | some =>
    obtain ⟨out, hunp, _⟩ := exists_unpack hdb hrow
    dsimp only
    rw [hunp]
    rfl

lemma readsBack_of_current (h : store.current db tenantId objectType objectId appId = some value) :
    ReadsBack store.schema objectType objectId value := by
  obtain ⟨row, hrow, hvalue⟩ := current_eq_some_iff.mp h
  obtain ⟨out, hout, hreads⟩ := exists_unpack hdb hrow
  obtain rfl := Except.ok.inj (hout.symm.trans hvalue)
  exact hreads

lemma selectRow_isSome (tenantId objectType objectId appId : String) :
    (selectRow db tenantId objectType objectId appId).isSome =
      (store.current db tenantId objectType objectId appId).isSome := by
  cases hrow : selectRow db tenantId objectType objectId appId with
  | none =>
    rw [current_of_selectRow_none hrow]
    rfl
  | some =>
    obtain ⟨out, hunp, _⟩ := exists_unpack hdb hrow
    rw [current_eq_some_iff.mpr ⟨_, hrow, hunp⟩]
    rfl

end

/-- **Step.** After a write, the record reads back as what was written, and no other is touched. -/
lemma current_writeRowPacked
    (hpack : store.pack row.tenantId row.objectType row.objectId value = .ok row.packed)
    (h : writeRowPacked db row = .ok db') :
    (∃ out, store.current db' row.tenantId row.objectType row.objectId row.appId = some out ∧
        readBack store.schema row.objectType row.objectId value = some out) ∧
      ∀ tenantId objectType objectId appId,
        (tenantId, objectType, objectId, appId) ≠
          (row.tenantId, row.objectType, row.objectId, row.appId) →
        store.current db' tenantId objectType objectId appId =
          store.current db tenantId objectType objectId appId := by
  obtain ⟨hself, hother⟩ := selectRow_writeRowPacked h
  obtain ⟨record, out, hrecord, hunpacked, hunp, _⟩ := exists_unpack_of_pack hpack
  refine ⟨⟨out, current_eq_some_iff.mpr ⟨row, hself, hunp⟩, ?_⟩, ?_⟩
  · rw [readBack, hrecord]
    dsimp only
    rw [hunpacked]
    rfl
  · intro tenantId objectType objectId appId hne
    exact current_congr (hother tenantId objectType objectId appId hne)

lemma exists_list (hdb : store.Written db) (tenantId objectType appId : String) :
    ∃ values, store.list db tenantId objectType appId = .ok values ∧
      (values.map fun value => value.field? "id").Nodup ∧
      ∀ value, value ∈ values ↔
        ∃ objectId, store.current db tenantId objectType objectId appId = some value := by
  obtain ⟨rows, hrows⟩ : ∃ rows, rows = (db.rows.filter fun row =>
      row.appId = appId ∧ row.tenantId = tenantId ∧ row.objectType = objectType).insertionSort
        fun a b => a.objectId ≤ b.objectId := ⟨_, rfl⟩
  have hsort := perm_insertionSort (fun a b : ObjectRow β => a.objectId ≤ b.objectId)
    (db.rows.filter fun row =>
      row.appId = appId ∧ row.tenantId = tenantId ∧ row.objectType = objectType)
  rw [← hrows] at hsort
  have hmem : ∀ {row}, row ∈ rows ↔
      selectRow db tenantId objectType row.objectId appId = some row :=
    hsort.mem_iff.trans (by rw [selectRow_eq_some_iff]; simp [primaryKey, mem_def])
  have hnodup : rows.Nodup := hsort.nodup_iff.mpr (db.nodup.of_map.filter _)
  obtain ⟨values, hvalues, hall⟩ := exists_mapM_forall₂
    (R := fun row value => ReadsBack store.schema objectType row.objectId value) fun row hrow =>
      exists_unpack hdb (hmem.mp hrow)
  refine ⟨values, by rw [list, ← hrows]; exact hvalues, ?_, fun value => ?_⟩
  · -- The ids are the rows' ids, which the primary key keeps distinct.
    have hids := map_eq_map_of_forall₂ hall fun _ _ hreads => hreads.id.symm
    rw [← hids]
    refine hnodup.map_on fun row hrow other hother heq => ?_
    have hid : row.objectId = other.objectId := by simpa using heq
    have hrow := hmem.mp hrow
    rw [hid, hmem.mp hother] at hrow
    exact (Option.some.inj hrow).symm
  · constructor
    · intro hvalue
      obtain ⟨row, hrow, hout⟩ := exists_of_mem_mapM hvalues hvalue
      exact ⟨row.objectId, current_eq_some_iff.mpr ⟨row, hmem.mp hrow, hout⟩⟩
    · rintro ⟨objectId, hcur⟩
      obtain ⟨row, hrow, hout⟩ := current_eq_some_iff.mp hcur
      have hkey := (selectRow_eq_some_iff.mp hrow).2.2
      simp only [primaryKey, Prod.mk.injEq] at hkey
      obtain ⟨value, hvalue, hout'⟩ := mem_of_mapM_eq_ok hvalues
        (hmem.mpr (by rw [hkey.2.2]; exact hrow))
      rwa [Except.ok.inj (hout.symm.trans hout')]

end Written

end ObjectStore

/-! ## Notes -/

def noteSchema : FrickSchema where
  objects := [{ id := 1, name := "Note", fields := [⟨1, "ownerUserId", .string, true, none, none,
    none⟩, ⟨2, "body", .string, false, none, none, none⟩] }]

def noteStore : ObjectStore PackedRecord where
  toPackedColumn := ⟨PackedCodec.plain _, none⟩
  schema := noteSchema
  schemaValid := by
    have hvalid : validateSchema id noteSchema = .ok () := by decide
    exact validateSchema_distinctIds hvalid

end Frick.Store
