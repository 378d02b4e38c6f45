import Frick.Server.Basic
import Frick.Store.Sharing

/-!
# The `/share` routes

`routes/share.rs`: inviting, accepting, revoking and leaving. A handler takes the tables, the
authenticated principal, the clock and the request, and gives back the tables and its answer;
the random tokens it draws are arguments.

`invite` stamps the caller as the invitation's owner. It does not look at the record it names,
so the caller need not own it.
-/

namespace Frick.Server

open Protocol Store SharingTables

/-- `DEFAULT_INVITATION_TTL_SECONDS`: 14 days. -/
def defaultInvitationTtlSeconds : Nat := 14 * 24 * 60 * 60

/-- `MAX_INVITATION_TTL_SECONDS`: 90 days. -/
def maxInvitationTtlSeconds : Nat := 90 * 24 * 60 * 60

/-- What a `/share` route answers. -/
inductive ShareResponse where
  /-- 201 `{invitation}`. -/
  | invited (invitation : Invitation)
  /-- 201 `{grant}`. -/
  | granted (grant : Grant)
  /-- 200 `{grant}`, after a revocation. -/
  | revoked (grant : Option Grant)
  /-- The bespoke 404. -/
  | grantNotFound
  | error (err : ServerError)

def parseSharingPermission (body : Value) : Except ServerError String :=
  match (mapGet body "permission").bind Value.asStr with
  | some "read" => .ok "read"
  | some "write" => .ok "write"
  | _ => .error (.badRequest "permission must be \"read\" or \"write\"")

def resolveInvitationTtlSeconds (body : Value) : Except ServerError Nat :=
  match mapGet body "expiresInSeconds" with
  | none | some .nil => .ok defaultInvitationTtlSeconds
  | some value =>
    match positiveFloor value with
    | some seconds => .ok (min seconds maxInvitationTtlSeconds)
    | none => .error (.badRequest "expiresInSeconds must be a positive finite number")

def requestedInvitation (principal : Principal) (nowMs : Int) (body : Value)
    (idToken token : String) : Except ServerError Invitation := do
  let recordType ← requireString body "recordType" "recordType"
  let recordId ← requireString body "recordId" "recordId"
  let permission ← parseSharingPermission body
  let ttlSeconds ← resolveInvitationTtlSeconds body
  pure
    { id := "inv-" ++ idToken
      tenantId := principal.tenantId
      ownerUserId := principal.userId
      recordType := recordType
      recordId := recordId
      permission := permission
      token := token
      createdAt := isoFromEpochMs nowMs
      expiresAt := isoFromEpochMs (min i64Max (nowMs + ttlSeconds * 1000)) }

def invite (db : SharingTables) (principal : Principal) (nowMs : Int) (body : Value)
    (idToken token : String) : SharingTables × ShareResponse :=
  match requestedInvitation principal nowMs body idToken token with
  | .error err => (db, .error err)
  | .ok requested =>
    match db.createInvitation requested with
    | .ok (db, invitation) => (db, .invited invitation)
    | .error err => (db, .error (.badRequest err.message))

def forbidden (reason message : String) : ServerError := .authorization message (some reason)

/-- The invitation `accept` may go on with, or the refusal of each redeem outcome. -/
def redeemedInvitation : RedeemOutcome → Except ServerError Invitation
  | .ok invitation => .ok invitation
  | .notFound => .error (forbidden "notAuthorizedForResource" "Invitation token is invalid")
  | .tenantMismatch _ =>
    .error (forbidden "tenantMismatch" "Invitation belongs to a different tenant")
  | .expired _ => .error (forbidden "notAuthorizedForResource" "Invitation has expired")
  | .alreadyRedeemed _ =>
    .error (forbidden "notAuthorizedForResource" "Invitation has already been redeemed")

/-- The grant `accept` creates from a redeemed invitation. -/
def grantFromInvitation (invitation : Invitation) (principal : Principal) (nowMs : Int)
    (idToken : String) : Grant where
  id := "grant-" ++ idToken
  tenantId := invitation.tenantId
  ownerUserId := invitation.ownerUserId
  recordType := invitation.recordType
  recordId := invitation.recordId
  granteeUserId := principal.userId
  permission := invitation.permission
  createdAt := isoFromEpochMs nowMs

/-- `accept`. The invitation is redeemed before the self-accept check and the grant. -/
def accept (db : SharingTables) (principal : Principal) (nowMs : Int) (body : Value)
    (idToken : String) : SharingTables × ShareResponse :=
  match requireString body "token" "token" with
  | .error err => (db, .error err)
  | .ok token =>
    let (db, outcome) := db.redeem token principal.tenantId principal.userId
      (isoFromEpochMs nowMs)
    match redeemedInvitation outcome with
    | .error err => (db, .error err)
    | .ok invitation =>
      if invitation.ownerUserId = principal.userId then
        (db, .error (forbidden "notAuthorizedForResource"
          "Owners cannot accept their own invitations"))
      else match db.createGrant (grantFromInvitation invitation principal nowMs idToken) with
        | .ok (db, grant) => (db, .granted grant)
        | .error err => (db, .error (.badRequest err.message))

/-- `revoke_grant` and `leave_grant`, which differ in the party that may end the grant. -/
def endGrant (party : Grant → String) (db : SharingTables) (principal : Principal) (nowMs : Int)
    (grantId : String) : SharingTables × ShareResponse :=
  match (db.getGrantById principal.tenantId grantId).filter
      (fun grant => party grant = principal.userId) with
  | none => (db, .grantNotFound)
  | some existing =>
    let (db, grant) := db.revokeGrant principal.tenantId existing.id (isoFromEpochMs nowMs)
    (db, .revoked grant)

/-- `revoke_grant`: only the owner. -/
def revokeGrant : SharingTables → Principal → Int → String → SharingTables × ShareResponse :=
  endGrant Grant.ownerUserId

/-- `leave_grant`: only the grantee. -/
def leaveGrant : SharingTables → Principal → Int → String → SharingTables × ShareResponse :=
  endGrant Grant.granteeUserId

/-! ## What a request does to the tables -/

section Effects

variable (db : SharingTables) (principal : Principal) (nowMs : Int)

lemma invite_cases (body : Value) (idToken token : String) :
    (∃ inv, (invite db principal nowMs body idToken token).2 = .invited inv ∧
        inv.ownerUserId = principal.userId ∧ inv.tenantId = principal.tenantId ∧
        inv.issued = inv ∧
        (invite db principal nowMs body idToken token).1.grants = db.grants ∧
        ∀ row, row ∈ (invite db principal nowMs body idToken token).1.invitations ↔
          row ∈ db.invitations ∨ row = inv) ∨
      (invite db principal nowMs body idToken token).1 = db := by
  unfold invite
  split
  next => exact .inr rfl
  next requested hreq =>
    obtain ⟨recordType, _, hreq⟩ := Framework.bind_eq_ok.mp hreq
    obtain ⟨recordId, _, hreq⟩ := Framework.bind_eq_ok.mp hreq
    obtain ⟨permission, _, hreq⟩ := Framework.bind_eq_ok.mp hreq
    obtain ⟨ttl, _, hreq⟩ := Framework.bind_eq_ok.mp hreq
    obtain rfl := Except.ok.inj hreq
    split
    next created inv hmake =>
      obtain ⟨rfl, hgrant, hrows⟩ := createInvitation_eq_ok hmake
      exact .inl ⟨_, rfl, rfl, rfl, rfl, hgrant, hrows⟩
    next => exact .inr rfl

variable {db principal nowMs} in
/-- `accept` redeems the invitation its token names; an owner then fails, and the grant comes last.
-/
lemma accept_of_redeemable {body : Value} {idToken token : String} {found : Invitation}
    (htoken : requireString body "token" "token" = .ok token)
    (h : db.Redeemable token principal.tenantId (isoFromEpochMs nowMs) found) :
    accept db principal nowMs body idToken =
      let redeemed := db.updateRedeemed found.id (isoFromEpochMs nowMs) principal.userId
      if found.ownerUserId = principal.userId then
        (redeemed, .error (forbidden "notAuthorizedForResource"
          "Owners cannot accept their own invitations"))
      else match redeemed.createGrant (grantFromInvitation found principal nowMs idToken) with
        | .ok (db, grant) => (db, .granted grant)
        | .error err => (redeemed, .error (.badRequest err.message)) := by
  rw [accept, htoken]
  dsimp only
  rw [h.redeem_eq]
  rfl

lemma accept_outcomes (body : Value) (idToken : String) :
    (∃ token found, requireString body "token" "token" = .ok token ∧
        db.Redeemable token principal.tenantId (isoFromEpochMs nowMs) found) ∨
      ∃ err, accept db principal nowMs body idToken = (db, .error err) := by
  unfold accept
  split
  next => exact .inr ⟨_, rfl⟩
  next token htoken =>
    rcases db.redeem_cases token principal.tenantId principal.userId (isoFromEpochMs nowMs) with
      ⟨found, hfound⟩ | ⟨refusal, hredeem, hrefused⟩
    · exact .inl ⟨token, found, htoken, hfound⟩
    · rw [hredeem]
      cases refusal with
      | ok inv => exact absurd rfl (hrefused inv)
      | notFound | expired | alreadyRedeemed | tenantMismatch => exact .inr ⟨_, rfl⟩

/-- An `accept` adds the grant it answers with, made out of a stored invitation somebody else
issued in the caller's tenant, or no grant. -/
lemma accept_cases (body : Value) (idToken : String) :
    (∀ row ∈ (accept db principal nowMs body idToken).1.invitations,
      ∃ old ∈ db.invitations, row.issued = old.issued) ∧
    ((∃ grant found, (accept db principal nowMs body idToken).2 = .granted grant ∧
        found ∈ db.invitations ∧ found.tenantId = principal.tenantId ∧
        found.ownerUserId ≠ principal.userId ∧
        grant = grantFromInvitation found principal nowMs idToken ∧
        ∀ row, row ∈ (accept db principal nowMs body idToken).1.grants ↔
          row ∈ db.grants ∨ row = grant) ∨
      (accept db principal nowMs body idToken).1.grants = db.grants) := by
  rcases accept_outcomes db principal nowMs body idToken with
    ⟨token, found, htoken, hfound⟩ | ⟨err, haccept⟩
  · rw [accept_of_redeemable htoken hfound]
    have hissue := fun row (h : row ∈ (db.updateRedeemed found.id (isoFromEpochMs nowMs)
      principal.userId).invitations) => mem_updateRedeemed h
    dsimp only
    split_ifs with hself
    · exact ⟨hissue, .inr rfl⟩
    split
    next created grant hmake =>
      obtain ⟨rfl, hinvs, hrows⟩ := createGrant_eq_ok hmake
      rw [hinvs]
      exact ⟨hissue, .inl ⟨_, found, rfl, List.mem_of_find?_eq_some hfound.named,
        hfound.tenant, hself, rfl, hrows⟩⟩
    next => exact ⟨hissue, .inr rfl⟩
  · rw [haccept]
    exact ⟨fun row hrow => ⟨row, hrow, rfl⟩, .inr rfl⟩

variable {db principal nowMs}

lemma endGrant_grants {party : Grant → String} {grantId : String} {row : Grant}
    (h : row ∈ (endGrant party db principal nowMs grantId).1.grants) :
    ∃ old ∈ db.grants, row.granted = old.granted ∧ (row.revokedAt = none → row = old) := by
  unfold endGrant at h
  split at h
  next => exact ⟨row, h, rfl, fun _ => rfl⟩
  next => exact mem_revokeGrant h

lemma endGrant_invitations (party : Grant → String) (grantId : String) :
    (endGrant party db principal nowMs grantId).1.invitations = db.invitations := by
  unfold endGrant
  split
  · rfl
  · exact db.revokeGrant_invitations _ _ _

end Effects

end Frick.Server
