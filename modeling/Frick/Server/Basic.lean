import Mathlib.Algebra.Order.Ring.Int
import Frick.Store.Basic

/-!
# Principals, errors and the authorization baseline

`principal.rs`, `error.rs`, `authz.rs` and the request helpers of `routes/mod.rs`: what every
route handler shares. Authentication itself happens before a handler's own logic and hands it a
`Principal`, which is where the modelled handlers start.
-/

namespace Frick.Server

open Protocol Store

/-! ## Principals -/

inductive PrincipalScope where
  | tenant
  | admin
  | service
  deriving Repr, DecidableEq

structure Principal where
  userId : String
  deviceId : String
  replicaId : String
  tenantId : String
  scope : PrincipalScope := .tenant
  serviceScopes : List String := []
  deriving Repr, DecidableEq

def Principal.isAdmin (principal : Principal) : Bool := principal.scope = .admin

def defaultTenantId : String := "_default"

def defaultAppId : String := "_default"

def archivedTenantPrefix : String := "_archived_"

/-- `tenant_id.starts_with(ARCHIVED_TENANT_PREFIX)`. -/
def hasArchivedPrefix (tenantId : String) : Bool :=
  archivedTenantPrefix.toList.isPrefixOf tenantId.toList

def Principal.isActiveCheap (principal : Principal) : Bool :=
  principal.isAdmin || !hasArchivedPrefix principal.tenantId

def Principal.connectionKey (principal : Principal) : String :=
  principal.tenantId ++ "\x00" ++ principal.userId

def samePrincipal (left right : Principal) : Bool :=
  left.userId = right.userId ∧ left.deviceId = right.deviceId ∧
    left.replicaId = right.replicaId ∧ left.tenantId = right.tenantId

/-- A signed-in user of the tenant `acme`, for evaluating the model. -/
def member (userId : String) : Principal := ⟨userId, "device", "replica", "acme", .tenant, []⟩

/-! ## Errors -/

/-- `LimitKind`, with the limits the modelled routes enforce. -/
inductive LimitKind where
  | maxBlobBytes
  | maxBlobBytesPerPrincipal
  | maxAuthAttemptsPerWindow
  deriving Repr, DecidableEq

/-- `ServerError`, with the variants the modelled routes raise. -/
inductive ServerError where
  | authentication (message : String)
  | sessionExpired
  | authorization (message : String) (reason : Option String)
  | limit (kind : LimitKind) (detail : Value)
  | blobValidationRejected (message processorId : String) (rejectionReason : Option String)
  | storageConflict (detail : Value)
  | badRequest (message : String)
  | internal
  deriving Repr, DecidableEq

/-! ## Request bodies -/

def mapGet (value : Value) (key : String) : Option Value := value.field? key

def requireString (body : Value) (key name : String) : Except ServerError String :=
  match (mapGet body key).bind Value.asStr with
  | some s => if s = "" then .error (.badRequest s!"{name} must be a non-empty string") else .ok s
  | none => .error (.badRequest s!"{name} must be a non-empty string")

/-- The sign bit of an IEEE 754 number. -/
def floatNegative (expBits fracBits bits : Nat) : Bool := bits / 2 ^ (fracBits + expBits) % 2 = 1

/-- The magnitude of a finite IEEE 754 number with the given field widths, rounded towards zero;
`none` for the infinities and `NaN`. -/
def floatMagnitude (expBits fracBits bits : Nat) : Option Nat :=
  let frac := bits % 2 ^ fracBits
  let exp := bits / 2 ^ fracBits % 2 ^ expBits
  let bias := 2 ^ (expBits - 1) - 1
  if exp = 2 ^ expBits - 1 then none
  else if exp = 0 then some 0
  else if bias + fracBits ≤ exp then some ((2 ^ fracBits + frac) * 2 ^ (exp - bias - fracBits))
  else some ((2 ^ fracBits + frac) / 2 ^ (bias + fracBits - exp))

/-- The floor of a positive finite number; `none` for the others, zero included. -/
def positiveFloatFloor (expBits fracBits bits : Nat) : Option Nat :=
  if floatNegative expBits fracBits bits ∨ bits % 2 ^ (fracBits + expBits) = 0 then none
  else floatMagnitude expBits fracBits bits

/-- `float as i64` of a finite number: towards zero, saturating. -/
def floatAsI64 (expBits fracBits bits : Nat) : Option Int :=
  (floatMagnitude expBits fracBits bits).map fun n =>
    if floatNegative expBits fracBits bits then max (-i64Max - 1) (-(n : Int)) else min i64Max n

def requireNumber (body : Value) (key name : String) : Except ServerError Int :=
  let bad : ServerError := .badRequest s!"{name} must be a finite number"
  match mapGet body key with
  -- A `u64` beyond `i64::MAX` goes through `as_f64` and saturates.
  | some (.integer n) => .ok (min i64Max n)
  | some (.f32 bits) => ((floatAsI64 8 23 bits.toNat).map Except.ok).getD (.error bad)
  | some (.f64 bits) => ((floatAsI64 11 52 bits.toNat).map Except.ok).getD (.error bad)
  | _ => .error bad

/-- `value.as_f64().filter(|n| n.is_finite() && *n > 0.0)`, floored. An integer is compared
exactly here; the rounding of `as f64` sets in above `2^53`, beyond every bound the floor is
clamped to. -/
def positiveFloor : Value → Option Nat
  | .integer n => if 0 < n then some n.toNat else none
  | .f32 bits => positiveFloatFloor 8 23 bits.toNat
  | .f64 bits => positiveFloatFloor 11 52 bits.toNat
  | _ => none

example : positiveFloor (.f64 0x4004000000000000) = some 2 := by decide

/-! ## The authorization baseline -/

/-- `Action`, with the actions the modelled routes decide. -/
inductive Action where
  | objectRead
  | objectWrite
  | streamRead
  | streamAppend
  | presenceRead
  | signalRead
  | signalSend
  | blobRead
  | blobWrite
  | projectionRead
  | searchQuery
  deriving Repr

inductive DenyReason where
  | unauthenticated
  | notAuthorizedForResource
  | notMember
  | ownerMismatch
  | schemaIncompatible
  | tenantMismatch
  deriving Repr, DecidableEq

def DenyReason.asStr : DenyReason → String
  | .unauthenticated => "unauthenticated"
  | .notAuthorizedForResource => "notAuthorizedForResource"
  | .notMember => "notMember"
  | .ownerMismatch => "ownerMismatch"
  | .schemaIncompatible => "schemaIncompatible"
  | .tenantMismatch => "tenantMismatch"

inductive Decision where
  | allow
  | deny (reason : DenyReason) (publicMessage : String)
  deriving Repr, DecidableEq

structure ResourceContext where
  tenantId : String
  ownerUserId : Option String
  deriving Repr

def decideBaseline (principal : Principal) (action : Action) (resource : ResourceContext) :
    Decision :=
  if principal.userId = "" then .deny .unauthenticated "Not authenticated"
  else if principal.scope ≠ .admin ∧ resource.tenantId ≠ "" ∧
      resource.tenantId ≠ principal.tenantId then
    .deny .tenantMismatch "Tenant mismatch"
  else match action with
    | .objectRead | .objectWrite | .blobRead | .blobWrite =>
      match resource.ownerUserId with
      | some owner =>
        if owner = principal.userId then .allow
        else .deny .ownerMismatch "Not the resource owner"
      | none => .allow
    | _ => .allow

structure PolicyResource where
  kind : String
  name : Option String
  key : Option String
  event : Option String
  ownerId : Option String
  tenantId : String
  deriving Repr

structure PolicyInput where
  principal : Principal
  action : Action
  resource : PolicyResource
  context : Option Value

/-- An app's `PolicyHook`, as a function of its input. -/
abbrev PolicyHook := PolicyInput → Option Decision

/-- The loop of `apply_policy_hooks`: the first deny wins. -/
def firstDeny (baseline : Decision) (input : PolicyInput) : List PolicyHook → Decision
  | [] => baseline
  | hook :: hooks =>
    match hook input with
    | some (.deny reason publicMessage) => .deny reason publicMessage
    | _ => firstDeny baseline input hooks

/-- `apply_policy_hooks`: hooks run only on an allow. -/
def applyPolicyHooks (baseline : Decision) (input : PolicyInput) (hooks : List PolicyHook) :
    Decision :=
  match baseline with
  | .allow => firstDeny .allow input hooks
  | deny => deny

def decisionToResult : Decision → Except ServerError Unit
  | .allow => .ok ()
  | .deny reason publicMessage => .error (.authorization publicMessage (some reason.asStr))

/-- An owner-scoped action on a resource with a recorded owner is allowed at the baseline only to
that owner. -/
lemma eq_owner_of_decideBaseline {p : Principal} {action : Action} {tenantId owner : String}
    (haction : action = .objectRead ∨ action = .objectWrite ∨ action = .blobRead ∨
      action = .blobWrite) (h : decideBaseline p action ⟨tenantId, some owner⟩ = .allow) :
    owner = p.userId := by
  unfold decideBaseline at h
  split_ifs at h
  rcases haction with rfl | rfl | rfl | rfl <;> simpa using h

end Frick.Server
