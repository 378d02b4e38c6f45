import Frick.Properties.SingleUse

/-!
# A failed accept costs nothing

`redeem` is documented as running inside a transaction of the routes, but `accept` opens none: the
invitation is already stamped when the owner is turned away or when the grant is not inserted.
-/

namespace Frick.Properties

open Framework Protocol Store Server SharingTables

section

variable {db : SharingTables} {principal : Principal} {nowMs : Int} {body : Value}
  {idToken token : String} {found : Invitation} {fault : Option StoreError}

/-- `accept` where the `INSERT` of the grant may fail with a `fault` of the driver. -/
def acceptUnder (fault : Option StoreError) (db : SharingTables) (principal : Principal)
    (nowMs : Int) (body : Value) (idToken : String) : SharingTables × ShareResponse :=
  match fault, accept db principal nowMs body idToken with
  | some err, (after, .granted _) =>
    ({ after with grants := db.grants }, .error (.badRequest err.message))
  | _, outcome => outcome

/-- Unless a grant is the answer, every redemption by another user ends as it would have before. -/
def CostsNothing (db : SharingTables) (principal : Principal)
    (outcome : SharingTables × ShareResponse) : Prop :=
  (∀ grant, outcome.2 ≠ .granted grant) → ∀ token tenantId userId now, userId ≠ principal.userId →
    (outcome.1.redeem token tenantId userId now).2 = (db.redeem token tenantId userId now).2

variable (h : db.Redeemable token principal.tenantId (isoFromEpochMs nowMs) found)
include h

lemma not_costsNothing {after : SharingTables} {err : ServerError}
    (hafter : after.invitations =
      (db.updateRedeemed found.id (isoFromEpochMs nowMs) principal.userId).invitations) :
    ¬CostsNothing db principal (after, .error err) := by
  intro hcosts
  have hoth : principal.userId ++ "." ≠ principal.userId := by simp
  have hsame := hcosts nofun token principal.tenantId _ (isoFromEpochMs nowMs) hoth
  have hstamped : after.getInvitationByToken token =
      some (stampRedeemed (isoFromEpochMs nowMs) principal.userId found) := by
    rw [getInvitationByToken, hafter, ← getInvitationByToken,
      getInvitationByToken_updateRedeemed, h.named]
    simp [h.unredeemed]
  rw [h.redeem_eq, redeem, hstamped] at hsame
  simp [stampRedeemed, h.tenant] at hsame

/-- With an invitation to redeem, `accept` costs it unless the grant follows. -/
lemma costsNothing_iff_of_redeemable (htoken : requireString body "token" "token" = .ok token) :
    CostsNothing db principal (acceptUnder fault db principal nowMs body idToken) ↔
      found.ownerUserId ≠ principal.userId ∧ fault = none ∧
        db.grants.find? ("grant-" ++ idToken) = none := by
  unfold acceptUnder
  rw [accept_of_redeemable htoken h]
  dsimp only
  split_ifs with hself
  · refine iff_of_false ?_ fun hall => hall.1 hself
    cases fault <;> exact not_costsNothing h rfl
  rw [createGrant]
  cases hins : (db.updateRedeemed found.id (isoFromEpochMs nowMs)
      principal.userId).grants.insert (grantFromInvitation found principal nowMs idToken).granted
  with
  | none =>
    refine iff_of_false ?_ fun hall => Table.insert_eq_none_iff.mp hins hall.2.2
    cases fault <;> exact not_costsNothing h rfl
  | some grants =>
    have hnew : db.grants.find? ("grant-" ++ idToken) = none := by
      by_contra hstored
      exact Option.some_ne_none _ (hins.symm.trans (Table.insert_eq_none_iff.mpr hstored))
    cases fault with
    | none => exact iff_of_true (fun hgrant => absurd rfl (hgrant _)) ⟨hself, rfl, hnew⟩
    | some err => exact iff_of_false (not_costsNothing h rfl) fun hall => nomatch hall.2.1

end

/-- An `accept` costs nothing exactly if an invitation it can redeem is somebody else's and the
grant can be inserted: the driver does not fail and the id is fresh. -/
theorem failed_accept_costs_nothing_iff (fault : Option StoreError) (db : SharingTables)
    (principal : Principal) (nowMs : Int) (body : Value) (idToken : String) :
    CostsNothing db principal (acceptUnder fault db principal nowMs body idToken) ↔
      ∀ token found, requireString body "token" "token" = .ok token →
        db.Redeemable token principal.tenantId (isoFromEpochMs nowMs) found →
        found.ownerUserId ≠ principal.userId ∧ fault = none ∧
          db.grants.find? ("grant-" ++ idToken) = none := by
  by_cases hany : ∃ token found, requireString body "token" "token" = .ok token ∧
      db.Redeemable token principal.tenantId (isoFromEpochMs nowMs) found
  · obtain ⟨token, found, htoken, hfound⟩ := hany
    rw [costsNothing_iff_of_redeemable hfound htoken]
    refine ⟨fun h token' found' htoken' hfound' => ?_, fun h => h token found htoken hfound⟩
    obtain rfl := Except.ok.inj (htoken.symm.trans htoken')
    obtain rfl := Option.some.inj (hfound.named.symm.trans hfound'.named)
    exact h
  · obtain ⟨err, haccept⟩ := (accept_outcomes db principal nowMs body idToken).resolve_left hany
    have hunder : acceptUnder fault db principal nowMs body idToken = (db, .error err) := by
      unfold acceptUnder
      rw [haccept]
      cases fault <;> rfl
    rw [hunder]
    exact iff_of_true (fun _ _ _ _ _ _ => rfl) fun token found htoken hfound =>
      absurd ⟨token, found, htoken, hfound⟩ hany

/-- Ana tries the link before sending it on, and nobody can use it any more. -/
theorem self_accept_spends_invitation :
    ¬CostsNothing anasInvitation (member "ana")
      (acceptUnder none anasInvitation (member "ana") 1000
        (.map [(.string "token", .string "secret")]) "a") := by
  rw [costsNothing_iff_of_redeemable ⟨rfl, rfl, rfl, by decide +kernel⟩ rfl]
  exact fun h => h.1 rfl

end Frick.Properties
