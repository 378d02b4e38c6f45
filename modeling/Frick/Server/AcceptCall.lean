import Frick.Framework.Run
import Frick.Server.Share

/-!
# Concurrent accepts, one SQL statement at a time

`/share/accept` issues three statements: `redeem` selects the invitation by its token and, if the
row passes its checks, stamps it; `accept` then inserts the grant. The route holds no transaction
around them, so other calls run between any two. `AcceptState` is the program point of one call
between its statements and what it holds there; `step` performs the next statement of one call.
-/

namespace Frick.Server

open Protocol Store

/-- A request to `/share/accept`, with the clock and the random part of the grant's id. -/
structure AcceptArgs where
  principal : Principal
  nowMs : Int
  body : Value
  idToken : String

def AcceptArgs.token (args : AcceptArgs) : Except ServerError String :=
  requireString args.body "token" "token"

/-- Where a call stands. -/
inductive AcceptState where
  /-- Before the `SELECT` of `redeem`. -/
  | idle
  /-- Before the `UPDATE` of `redeem`; the row passed its checks. -/
  | stamp (found : Invitation)
  /-- Before the `INSERT` of the grant. -/
  | insert (invitation : Invitation)
  | returned (response : ShareResponse)

structure AcceptSystem (ι : Type) where
  db : SharingTables
  calls : ι → AcceptState

namespace AcceptSystem

variable {ι : Type} [DecidableEq ι]

def start (db : SharingTables) : AcceptSystem ι := ⟨db, fun _ => .idle⟩

def setCall (s : AcceptSystem ι) (i : ι) (c : AcceptState) : AcceptSystem ι :=
  { s with calls := Function.update s.calls i c }

/-- What follows the `SELECT`: `redeem`'s checks, and for a refusal the route's answer. -/
def selected (db : SharingTables) (args : AcceptArgs) : AcceptState :=
  match args.token with
  | .error err => .returned (.error err)
  | .ok token =>
    match redeemedInvitation (db.checkRedeem token args.principal.tenantId
        (isoFromEpochMs args.nowMs)) with
    | .error err => .returned (.error err)
    | .ok found => .stamp found

/-- What follows the `UPDATE`: `redeem` answers with the stamped row, whether or not the `UPDATE`
found it unredeemed. -/
def stamped (args : AcceptArgs) (found : Invitation) : AcceptState :=
  if found.ownerUserId = args.principal.userId then
    .returned (.error (forbidden "notAuthorizedForResource"
      "Owners cannot accept their own invitations"))
  else .insert (SharingTables.stampRedeemed (isoFromEpochMs args.nowMs) args.principal.userId found)

/-- The next statement of call `i`. -/
def step (args : ι → AcceptArgs) (s : AcceptSystem ι) (i : ι) : AcceptSystem ι :=
  match s.calls i with
  | .idle => s.setCall i (selected s.db (args i))
  | .stamp found =>
    let db := s.db.updateRedeemed found.id (isoFromEpochMs (args i).nowMs)
      (args i).principal.userId
    { s with db }.setCall i (stamped (args i) found)
  | .insert invitation =>
    match s.db.createGrant (grantFromInvitation invitation (args i).principal (args i).nowMs
        (args i).idToken) with
    | .ok (db, grant) => { s with db }.setCall i (.returned (.granted grant))
    | .error err => s.setCall i (.returned (.error (.badRequest err.message)))
  | .returned _ => s

/-! ## One step -/

section Step

variable {args : ι → AcceptArgs} {s : AcceptSystem ι} {i : ι}

lemma step_idle (h : s.calls i = .idle) :
    step args s i = s.setCall i (selected s.db (args i)) := by
  rw [step, h]

lemma step_stamp {found : Invitation} (h : s.calls i = .stamp found) :
    step args s i =
      ({ s with db := s.db.updateRedeemed found.id (isoFromEpochMs (args i).nowMs)
                  (args i).principal.userId } : AcceptSystem ι).setCall i
        (stamped (args i) found) := by
  rw [step, h]

lemma step_insert {inv : Invitation} (h : s.calls i = .insert inv) :
    step args s i =
      match s.db.createGrant (grantFromInvitation inv (args i).principal (args i).nowMs
          (args i).idToken) with
      | .ok (db, grant) =>
        ({ s with db } : AcceptSystem ι).setCall i (.returned (.granted grant))
      | .error err => s.setCall i (.returned (.error (.badRequest err.message))) := by
  rw [step, h]

lemma step_returned {response : ShareResponse} (h : s.calls i = .returned response) :
    step args s i = s := by
  rw [step, h]

@[simp] lemma calls_setCall_self (c : AcceptState) : (s.setCall i c).calls i = c := by
  simp [setCall]

end Step

end AcceptSystem

end Frick.Server
