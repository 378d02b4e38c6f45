import Frick.Properties.WriteReplay
import Frick.Sync.ObjectFeed

/-!
# Object versions

Calls of `upsert_with_policy` and `delete`, each one transaction. The version check reads the row of
the calling app while the primary key leaves the app out; the cross-app guard closes the gap, and an
upsert that succeeds moves the version of the row on by one. So an expected version is met again
only after a delete.

This is for versions that have a successor in the `version` column. On Postgres that is an `INTEGER`
of 32 bits, and the upsert behind its largest value fails; on SQLite it holds an `i64`, and the sum
wraps.
-/

namespace Frick.Properties

open Framework Protocol Store Sync ObjectStore

/-- A call of `upsert_with_policy` or of `delete`. -/
inductive ObjectCall where
  | upsert (value : Value) (expectedVersion : Option Int) (mergePolicy : FrickObjectMergePolicy)
      (nowMs : Int)
  | delete

variable {β : Type} (store : ObjectStore β) (db : ObjectTable β)

/-- The table after a call and whether the call succeeded; a call that fails is rolled back. -/
def serveCall : ObjectAddress × ObjectCall → ObjectTable β × Bool
  | (⟨tenantId, appId, objectType, objectId⟩, .upsert value expectedVersion mergePolicy nowMs) =>
    match store.upsertWithPolicy db appId tenantId objectType objectId value expectedVersion
        mergePolicy nowMs with
    | .ok (db, _) => (db, true)
    | .error _ => (db, false)
  | (⟨tenantId, appId, objectType, objectId⟩, .delete) =>
    delete db tenantId objectType objectId appId

def rowAt (address : ObjectAddress) : Option (ObjectRow β) :=
  selectRow db address.tenantId address.objectType address.objectId address.appId

def versionAt (address : ObjectAddress) : Int := ((rowAt db address).map ObjectRow.version).getD 0

/-- The version after this one fits the `version` column of either engine. -/
def HasNext (version : Int) : Prop := -2147483648 ≤ version ∧ version < 2147483647

/-- No other app owns the row. -/
def NotForeign (address : ObjectAddress) : Prop :=
  ∀ owner, db.find? (address.tenantId, address.objectType, address.objectId) = some owner →
    owner.appId = address.appId

/-- The row is as a caller under `versionPrecondition` expects it. -/
def AsExpected (address : ObjectAddress) : Option Int → Prop
  | none => rowAt db address = none
  | some expected => versionAt db address = expected

variable {store db} {address : ObjectAddress} {value : Value} {expectedVersion : Option Int}
  {mergePolicy : FrickObjectMergePolicy} {nowMs : Int} {call : ObjectAddress × ObjectCall}

lemma nextVersion_eq_ok_iff {next : Int} :
    nextVersion address.tenantId address.objectType address.objectId (versionAt db address)
        (rowAt db address).isSome expectedVersion mergePolicy = .ok next ↔
      (mergePolicy = .versionPrecondition → AsExpected db address expectedVersion) ∧
        wrapI64 (versionAt db address + 1) = next := by
  cases mergePolicy with
  | lastWriteWins => simp [nextVersion]
  | versionPrecondition =>
    cases expectedVersion with
    | none =>
      have hfirst : wrapI64 1 = 1 := by decide
      cases h : rowAt db address <;> simp [nextVersion, AsExpected, versionAt, h, hfirst]
    | some expected =>
      by_cases h : versionAt db address = expected <;> simp [nextVersion, AsExpected, h]

lemma serveCall_upsert_iff {db' : ObjectTable β} :
    serveCall store db (address, .upsert value expectedVersion mergePolicy nowMs) = (db', true) ↔
      (mergePolicy = .versionPrecondition → AsExpected db address expectedVersion) ∧
      ∃ packed, store.pack address.tenantId address.objectType address.objectId value = .ok packed ∧
        writeRowPacked db ⟨address.appId, address.tenantId, address.objectType, address.objectId,
          wrapI64 (versionAt db address + 1), packed, isoFromEpochMs nowMs⟩ = .ok db' := by
  constructor
  · intro h
    unfold serveCall at h
    dsimp only at h
    split at h
    next hcall =>
      obtain ⟨packed, hpack, hcall⟩ := bind_eq_ok.mp hcall
      obtain ⟨next, hnext, hcall⟩ := bind_eq_ok.mp hcall
      obtain ⟨written, hwrite, hcall⟩ := bind_eq_ok.mp hcall
      obtain ⟨hexp, rfl⟩ := nextVersion_eq_ok_iff.mp hnext
      obtain ⟨rfl, _⟩ := Prod.mk.inj (Except.ok.inj hcall)
      obtain ⟨rfl, _⟩ := Prod.mk.inj h
      exact ⟨hexp, packed, hpack, hwrite⟩
    next => simp at h
  · rintro ⟨hexp, packed, hpack, hwrite⟩
    have hnext := nextVersion_eq_ok_iff.mpr ⟨hexp, rfl⟩
    have hcall : store.upsertWithPolicy db address.appId address.tenantId address.objectType
        address.objectId value expectedVersion mergePolicy nowMs = .ok (db', ⟨versionAt db address,
          wrapI64 (versionAt db address + 1), !(rowAt db address).isSome⟩) :=
      bind_eq_ok.mpr ⟨packed, hpack, bind_eq_ok.mpr ⟨_, hnext, bind_eq_ok.mpr ⟨db', hwrite, rfl⟩⟩⟩
    simp [serveCall, hcall]

lemma serveCall_of_failed (h : (serveCall store db call).2 = false) :
    (serveCall store db call).1 = db := by
  obtain ⟨address, call⟩ := call
  cases call with
  | upsert =>
    revert h
    unfold serveCall
    dsimp only
    split <;> simp
  | delete =>
    refine Table.deleteWhere_of_forall fun row hrow => decide_eq_false fun haddr => ?_
    have hfound := selectRow_eq_some_iff.mpr ⟨hrow, haddr⟩
    simp [serveCall, delete, hfound] at h

lemma rowAt_serveCall_of_ne (hne : address ≠ call.1) :
    rowAt (serveCall store db call).1 address = rowAt db address := by
  obtain ⟨⟨tenantId, appId, type, objectId⟩, call⟩ := call
  have haddr : (address.tenantId, address.objectType, address.objectId, address.appId) ≠
      (tenantId, type, objectId, appId) := fun heq => hne (by cases address; simp_all)
  cases call with
  | upsert =>
    unfold serveCall
    dsimp only
    split
    next hcall =>
      obtain ⟨_, _, _, hwrite⟩ := upsertWithPolicy_eq_ok hcall
      exact (selectRow_writeRowPacked hwrite).2 _ _ _ _ haddr
    next => rfl
  | delete => exact (selectRow_delete ..).2 _ _ _ _ haddr

lemma exists_rowAt_upsert (hnext : HasNext (versionAt db address)) (h : (serveCall store db
      (address, .upsert value expectedVersion mergePolicy nowMs)).2) :
    ∃ row, rowAt (serveCall store db
        (address, .upsert value expectedVersion mergePolicy nowMs)).1 address = some row ∧
      row.version = versionAt db address + 1 := by
  obtain ⟨_, packed, _, hwrite⟩ := serveCall_upsert_iff.mp (Prod.ext rfl h)
  have hfits : versionAt db address + 1 ≤ i64Max := by
    have := hnext.2
    unfold i64Max
    omega
  exact ⟨_, (selectRow_writeRowPacked hwrite).1, wrapI64_eq (by have := hnext.1; omega) hfits⟩

/-- The row is there, with a version above the expected one. -/
def Passed (address : ObjectAddress) (expected : Int) (db : ObjectTable β) : Prop :=
  ∃ row, rowAt db address = some row ∧ expected < row.version

lemma Passed.step {expected : Int} (h : Passed address expected db)
    (hkept : ¬(call = (address, .delete) ∧ (serveCall store db call).2))
    (hroom : HasNext (versionAt db address)) :
    Passed address expected (serveCall store db call).1 := by
  obtain ⟨row, hrow, hvers⟩ := h
  by_cases hne : address = call.1
  · obtain ⟨_, call⟩ := call
    obtain rfl := hne
    cases hok : (serveCall store db (address, call)).2 with
    | false => exact ⟨row, by rw [serveCall_of_failed hok, hrow], hvers⟩
    | true =>
      cases call with
      | upsert =>
        obtain ⟨next, hnext, hmoved⟩ := exists_rowAt_upsert hroom hok
        have hprev : versionAt db address = row.version := by simp [versionAt, hrow]
        exact ⟨next, hnext, by omega⟩
      | delete => exact absurd ⟨rfl, hok⟩ hkept
  · exact ⟨row, (rowAt_serveCall_of_ne hne).trans hrow, hvers⟩

end Frick.Properties
