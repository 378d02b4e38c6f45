import Frick.Framework.Table
import Frick.Store.Basic

/-!
# Invitations and grants

`stores/invitation.rs` and `stores/grant.rs`, the two halves of cross-user sharing. An
invitation is a single-use token its issuer hands out; redeeming it stamps the row, and the
caller then creates a grant, which lasts until it is revoked.

Every id, token and timestamp is an argument. Neither table is ever deleted from, and an
`UPDATE` only touches the redemption or revocation stamp, so what a row says about who shared
what with whom never changes: `Invitation.issued` and `Grant.granted` are that part.
-/

namespace Frick.Store

open Framework Table

/-- `sharing_permission_satisfies`, over raw column strings. -/
def sharingPermissionSatisfies (permission required : String) : Bool :=
  if required = "read" then permission = "read" || permission = "write"
  else permission = "write"

/-- `Grant`, a row of `grants`. -/
structure Grant where
  id : String
  tenantId : String
  ownerUserId : String
  recordType : String
  recordId : String
  granteeUserId : String
  permission : String
  createdAt : String
  revokedAt : Option String := none
  deriving Repr

def Grant.granted (grant : Grant) : Grant := { grant with revokedAt := none }

/-- `Invitation`, a row of `invitations`. -/
structure Invitation where
  id : String
  tenantId : String
  ownerUserId : String
  recordType : String
  recordId : String
  permission : String
  token : String
  createdAt : String
  expiresAt : String
  redeemedAt : Option String := none
  redeemedByUserId : Option String := none
  deriving Repr

def Invitation.issued (invitation : Invitation) : Invitation :=
  { invitation with redeemedAt := none, redeemedByUserId := none }

/-- The two tables of the sharing model. -/
structure SharingTables where
  grants : Table Grant.id
  invitations : Table Invitation.id

namespace SharingTables

/-- A freshly migrated database. -/
def empty : SharingTables := ⟨Table.empty _, Table.empty _⟩

/-! ## `GrantStore` -/

section

variable (now : String) (db : SharingTables) (tenantId : String)

/-- `is_empty_async`. -/
def grantsEmpty : Bool := db.grants.rows.isEmpty

/-- `GrantStore::create`. -/
def createGrant (grant : Grant) : Except StoreError (SharingTables × Grant) :=
  match db.grants.insert grant.granted with
  | some grants => .ok ({ db with grants }, grant.granted)
  | none => .error (.driver "UNIQUE constraint failed: grants.id")

/-- `GrantStore::get_by_id`. -/
def getGrantById (id : String) : Option Grant :=
  db.grants.rows.find? fun grant => grant.tenantId = tenantId ∧ grant.id = id

def stampRevoked (grant : Grant) : Grant := { grant with revokedAt := some now }

lemma stampRevoked_id (grant : Grant) : (stampRevoked now grant).id = grant.id := rfl

/-- The `UPDATE` of `GrantStore::revoke`. -/
def updateRevoked (id now : String) : SharingTables :=
  { db with
    grants := db.grants.updateWhere
      (fun grant => grant.tenantId = tenantId ∧ grant.id = id ∧ grant.revokedAt = none)
      (stampRevoked now) (stampRevoked_id now) }

/-- `GrantStore::revoke`: idempotent, an earlier stamp is kept. -/
def revokeGrant (id now : String) : SharingTables × Option Grant :=
  match db.getGrantById tenantId id with
  | none => (db, none)
  | some existing =>
    if existing.revokedAt.isSome then (db, some existing)
    else (db.updateRevoked tenantId id now, some (stampRevoked now existing))

def hasActiveGrantFor (granteeUserId recordType recordId required : String) : Bool :=
  let rows := db.grants.rows.filter fun grant =>
    grant.tenantId = tenantId ∧ grant.granteeUserId = granteeUserId ∧
      grant.recordType = recordType ∧ grant.recordId = recordId ∧ grant.revokedAt = none
  rows.any fun grant => sharingPermissionSatisfies grant.permission required

/-- `has_active_grant_for_record_id`, whatever the record's type. -/
def hasActiveGrantForRecordId (granteeUserId recordId : String) : Bool :=
  let rows := db.grants.rows.filter fun grant =>
    grant.tenantId = tenantId ∧ grant.granteeUserId = granteeUserId ∧
      grant.recordId = recordId ∧ grant.revokedAt = none
  rows.any fun grant => sharingPermissionSatisfies grant.permission "read"

/-! ## `InvitationStore` -/

/-- `InvitationStore::create`. -/
def createInvitation (invitation : Invitation) : Except StoreError (SharingTables × Invitation) :=
  if db.invitations.rows.any fun row => row.token = invitation.token then
    .error (.driver "UNIQUE constraint failed: invitations.token")
  else match db.invitations.insert invitation.issued with
    | some invitations => .ok ({ db with invitations }, invitation.issued)
    | none => .error (.driver "UNIQUE constraint failed: invitations.id")

/-- `get_by_token`. -/
def getInvitationByToken (token : String) : Option Invitation :=
  db.invitations.rows.find? fun invitation => invitation.token = token

inductive RedeemOutcome where
  | ok (invitation : Invitation)
  | notFound
  | expired (invitation : Invitation)
  | alreadyRedeemed (invitation : Invitation)
  | tenantMismatch (invitation : Invitation)
  deriving Repr

def stampRedeemed (redeemerUserId : String) (invitation : Invitation) : Invitation :=
  { invitation with redeemedAt := some now, redeemedByUserId := some redeemerUserId }

lemma stampRedeemed_id (redeemerUserId : String) (invitation : Invitation) :
    (stampRedeemed now redeemerUserId invitation).id = invitation.id := rfl

def updateRedeemed (id now redeemerUserId : String) : SharingTables :=
  { db with
    invitations := db.invitations.updateWhere
      (fun invitation => invitation.id = id ∧ invitation.redeemedAt = none)
      (stampRedeemed now redeemerUserId) (stampRedeemed_id now redeemerUserId) }

/-- `redeem`, run without interruption. -/
def redeem (token tenantId redeemerUserId now : String) : SharingTables × RedeemOutcome :=
  match db.getInvitationByToken token with
  | none => (db, .notFound)
  | some found =>
    if found.tenantId ≠ tenantId then (db, .tenantMismatch found)
    else if found.redeemedAt.isSome then (db, .alreadyRedeemed found)
    else if found.expiresAt ≤ now then (db, .expired found)
    else (db.updateRedeemed found.id now redeemerUserId,
      .ok (stampRedeemed now redeemerUserId found))

/-- What `redeem` decides after its `SELECT`; `ok` is the row it goes on to stamp. -/
def checkRedeem (token tenantId now : String) : RedeemOutcome :=
  match db.getInvitationByToken token with
  | none => .notFound
  | some found =>
    if found.tenantId ≠ tenantId then .tenantMismatch found
    else if found.redeemedAt.isSome then .alreadyRedeemed found
    else if found.expiresAt ≤ now then .expired found
    else .ok found

end

lemma checkRedeem_eq_ok {db : SharingTables} {token tenantId now : String} {found : Invitation}
    (h : db.checkRedeem token tenantId now = .ok found) :
    db.getInvitationByToken token = some found ∧ found.redeemedAt = none := by
  rw [checkRedeem] at h
  cases hfound : db.getInvitationByToken token with
  | none => rw [hfound] at h; cases h
  | some =>
    rw [hfound] at h
    dsimp only at h
    split_ifs at h with hten hrdm hexp
    obtain rfl := RedeemOutcome.ok.inj h
    exact ⟨rfl, Option.not_isSome_iff_eq_none.mp hrdm⟩

/-! ## What the statements do -/

section Statements

variable {db db' : SharingTables} {grant created : Grant} {invitation found : Invitation}

lemma createGrant_eq_ok (h : db.createGrant grant = .ok (db', created)) :
    created = grant.granted ∧ db'.invitations = db.invitations ∧
      ∀ row, row ∈ db'.grants ↔ row ∈ db.grants ∨ row = grant.granted := by
  unfold createGrant at h
  split at h
  next grants hins =>
    obtain ⟨rfl, rfl⟩ := Prod.mk.inj (Except.ok.inj h)
    exact ⟨rfl, rfl, fun row => mem_of_insert hins⟩
  next => cases h

variable
  {id now tenantId granteeUserId recordId recordType required tenant redeemerUserId token : String}

lemma mem_revokeGrant {row : Grant} (h : row ∈ (db.revokeGrant tenantId id now).1.grants) :
    ∃ old ∈ db.grants, row.granted = old.granted ∧ (row.revokedAt = none → row = old) := by
  unfold revokeGrant at h
  split at h
  next => exact ⟨row, h, rfl, fun _ => rfl⟩
  next existing _ =>
    split_ifs at h
    · exact ⟨row, h, rfl, fun _ => rfl⟩
    obtain ⟨old, hold, rfl⟩ := (mem_updateWhere (stampRevoked_id now)).mp h
    refine ⟨old, hold, ?_, ?_⟩
    · split_ifs <;> rfl
    · intro hact
      split_ifs at hact ⊢
      · cases hact
      · rfl

lemma revokeGrant_invitations (db : SharingTables) (tenantId id now : String) :
    (db.revokeGrant tenantId id now).1.invitations = db.invitations := by
  unfold revokeGrant
  split
  · rfl
  · split_ifs <;> rfl

lemma hasActiveGrantFor_iff :
    db.hasActiveGrantFor tenantId granteeUserId recordType recordId required ↔
      ∃ grant ∈ db.grants, (grant.tenantId = tenantId ∧ grant.granteeUserId = granteeUserId ∧
        grant.recordType = recordType ∧ grant.recordId = recordId ∧ grant.revokedAt = none) ∧
        sharingPermissionSatisfies grant.permission required := by
  simp only [hasActiveGrantFor, List.any_eq_true, List.mem_filter, decide_eq_true_eq]
  constructor
  · rintro ⟨grant, ⟨hmem, haddr⟩, hperm⟩
    exact ⟨grant, hmem, haddr, hperm⟩
  · rintro ⟨grant, hmem, haddr, hperm⟩
    exact ⟨grant, ⟨hmem, haddr⟩, hperm⟩

lemma hasActiveGrantFor_createGrant (h : db.createGrant grant = .ok (db', created))
    (hne : recordId ≠ grant.recordId) :
    db'.hasActiveGrantFor tenantId granteeUserId recordType recordId required =
      db.hasActiveGrantFor tenantId granteeUserId recordType recordId required := by
  obtain ⟨_, _, hmem⟩ := createGrant_eq_ok h
  rw [Bool.eq_iff_iff, hasActiveGrantFor_iff, hasActiveGrantFor_iff]
  constructor
  · rintro ⟨row, hrow, haddr, hperm⟩
    rcases (hmem row).mp hrow with hold | rfl
    · exact ⟨row, hold, haddr, hperm⟩
    · exact absurd haddr.2.2.2.1.symm hne
  · rintro ⟨row, hrow, haddr, hperm⟩
    exact ⟨row, (hmem row).mpr (.inl hrow), haddr, hperm⟩

lemma hasActiveGrantFor_of_revokeGrant
    (h : (db.revokeGrant tenantId id now).1.hasActiveGrantFor tenant granteeUserId recordType
      recordId required) :
    db.hasActiveGrantFor tenant granteeUserId recordType recordId required := by
  obtain ⟨row, hrow, haddr, hperm⟩ := hasActiveGrantFor_iff.mp h
  obtain ⟨old, hold, _, hact⟩ := mem_revokeGrant hrow
  obtain rfl := hact haddr.2.2.2.2
  exact hasActiveGrantFor_iff.mpr ⟨row, hold, haddr, hperm⟩

lemma revokeGrant_spec (db : SharingTables) (tenantId id now : String) :
    ((db.revokeGrant tenantId id now).2 = none ∧ (db.revokeGrant tenantId id now).1 = db) ∨
      ∃ found, (db.revokeGrant tenantId id now).2 = some found ∧ found.tenantId = tenantId ∧
        ∀ row ∈ db.grants, (row.tenantId, row.recordType, row.recordId) ≠
            (found.tenantId, found.recordType, found.recordId) →
          row ∈ (db.revokeGrant tenantId id now).1.grants := by
  unfold revokeGrant
  cases hfound : db.getGrantById tenantId id with
  | none => exact .inl ⟨rfl, rfl⟩
  | some old =>
    right
    have hexi : old.tenantId = tenantId ∧ old.id = id := by
      simpa using List.find?_some hfound
    dsimp only
    split_ifs
    · exact ⟨old, rfl, hexi.1, fun row hrow _ => hrow⟩
    refine ⟨stampRevoked now old, rfl, hexi.1, fun row hrow hne => ?_⟩
    refine (mem_updateWhere (stampRevoked_id now)).mpr ⟨row, hrow, ?_⟩
    have hother : row.id ≠ id := by
      intro hid
      have hsame : row = old := eq_of_key_eq hrow
        (List.mem_of_find?_eq_some hfound) (hid.trans hexi.2.symm)
      exact hne (by rw [hsame]; rfl)
    rw [if_neg (by simp [hother])]

lemma hasActiveGrantFor_revokeGrant {found : Grant}
    (h : (db.revokeGrant tenantId id now).2 = some found)
    (hne : (tenant, recordType, recordId) ≠ (found.tenantId, found.recordType, found.recordId)) :
    (db.revokeGrant tenantId id now).1.hasActiveGrantFor tenant granteeUserId recordType recordId
        required = db.hasActiveGrantFor tenant granteeUserId recordType recordId required := by
  rw [Bool.eq_iff_iff]
  refine ⟨hasActiveGrantFor_of_revokeGrant, fun hact => ?_⟩
  obtain ⟨row, hrow, haddr, hperm⟩ := hasActiveGrantFor_iff.mp hact
  rcases revokeGrant_spec db tenantId id now with ⟨hnone, _⟩ | ⟨answered, hans, _, hkept⟩
  · rw [hnone] at h
    cases h
  obtain rfl := Option.some.inj (hans.symm.trans h)
  have hother : (row.tenantId, row.recordType, row.recordId) ≠
      (answered.tenantId, answered.recordType, answered.recordId) := by
    rwa [haddr.1, haddr.2.2.1, haddr.2.2.2.1]
  exact hasActiveGrantFor_iff.mpr ⟨row, hkept row hrow hother, haddr, hperm⟩

lemma createInvitation_eq_ok {stored : Invitation}
    (h : db.createInvitation invitation = .ok (db', stored)) :
    stored = invitation.issued ∧ db'.grants = db.grants ∧
      ∀ row, row ∈ db'.invitations ↔ row ∈ db.invitations ∨ row = invitation.issued := by
  unfold createInvitation at h
  split_ifs at h
  split at h
  next invitations hins =>
    obtain ⟨rfl, rfl⟩ := Prod.mk.inj (Except.ok.inj h)
    exact ⟨rfl, rfl, fun row => mem_of_insert hins⟩
  next => cases h

lemma getInvitationByToken_updateRedeemed (db : SharingTables)
    (token id now redeemerUserId : String) :
    (db.updateRedeemed id now redeemerUserId).getInvitationByToken token =
      (db.getInvitationByToken token).map fun row =>
        if row.id = id ∧ row.redeemedAt = none then stampRedeemed now redeemerUserId row
        else row := by
  have htoken : ((fun row : Invitation => decide (row.token = token)) ∘ fun row =>
      if decide (row.id = id ∧ row.redeemedAt = none) then
        stampRedeemed now redeemerUserId row else row) =
      fun row => decide (row.token = token) := by
    funext row
    dsimp only [Function.comp]
    split_ifs
    · rfl
    · rfl
  rw [getInvitationByToken, getInvitationByToken, updateRedeemed]
  dsimp only [updateWhere]
  rw [List.find?_map, htoken]
  simp

lemma mem_updateRedeemed {row : Invitation} {id : String}
    (h : row ∈ (db.updateRedeemed id now redeemerUserId).invitations) :
    ∃ old ∈ db.invitations, row.issued = old.issued := by
  obtain ⟨old, hold, rfl⟩ := (mem_updateWhere (stampRedeemed_id now redeemerUserId)).mp h
  refine ⟨old, hold, ?_⟩
  split_ifs <;> rfl

/-- The token names an invitation that a member of the tenant can redeem. -/
structure Redeemable (db : SharingTables) (token tenantId now : String) (found : Invitation) :
    Prop where
  named : db.getInvitationByToken token = some found
  tenant : found.tenantId = tenantId
  unredeemed : found.redeemedAt = none
  unexpired : ¬found.expiresAt ≤ now

lemma Redeemable.redeem_eq (h : db.Redeemable token tenantId now found) :
    db.redeem token tenantId redeemerUserId now =
      (db.updateRedeemed found.id now redeemerUserId,
        .ok (stampRedeemed now redeemerUserId found)) := by
  simp [redeem, h.named, h.tenant, h.unredeemed, h.unexpired]

lemma redeem_cases (db : SharingTables) (token tenantId redeemerUserId now : String) :
    (∃ found, db.Redeemable token tenantId now found) ∨
      ∃ refusal, db.redeem token tenantId redeemerUserId now = (db, refusal) ∧
        ∀ invitation, refusal ≠ .ok invitation := by
  unfold redeem
  split
  next => exact .inr ⟨_, rfl, nofun⟩
  next found hfound =>
    split_ifs with hten hrdm hexp
    · exact .inr ⟨_, rfl, nofun⟩
    · exact .inr ⟨_, rfl, nofun⟩
    · exact .inr ⟨_, rfl, nofun⟩
    · exact .inl ⟨found, hfound, not_not.mp hten, by simpa using hrdm, hexp⟩

end Statements

end SharingTables

end Frick.Store
