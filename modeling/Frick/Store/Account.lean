import Frick.Framework.Run
import Frick.Framework.Table
import Frick.Store.PasswordHasher

/-!
# Accounts: verifying and changing a password

`stores/account.rs`. `setPassword` is one `UPDATE`; `verifyPassword` is a `SELECT`, a hash
computation and, if the stored hash is weaker than the active hasher's, a best-effort `UPDATE` that
rewrites it.

Each function is written out as a whole, and again one statement at a time: `AccountSystem.step`
performs the next statement of one of many concurrent calls.
-/

namespace Frick.Store

open Framework Option

structure AccountRow where
  userId : String
  handle : String
  displayName : String
  passwordSalt : String
  passwordHash : String
  createdAt : String
  tenantId : String
  deriving Repr, DecidableEq

/-- `auth_accounts`, keyed by user id alone. -/
abbrev AccountTable := Table AccountRow.userId

/-- `StoredAccount`, the public projection of a row. -/
structure StoredAccount where
  tenantId : String
  userId : String
  handle : String
  displayName : String
  createdAt : String
  deriving Repr, DecidableEq

/-- `map_account_row`. -/
def AccountRow.stored (row : AccountRow) : StoredAccount :=
  ⟨row.tenantId, row.userId, row.handle, row.displayName, row.createdAt⟩

def AccountRow.credential (row : AccountRow) : String :=
  toStoredHash row.passwordHash row.passwordSalt

/-- SQL `LOWER`, which folds ASCII letters only. -/
def lowerAscii (text : String) : String := String.ofList (text.toList.map Char.toLower)

namespace AccountTable

/-- The `WHERE` clause of `read_row_by_identity`. -/
def identifies (tenantId identity : String) (row : AccountRow) : Bool :=
  row.tenantId = tenantId ∧ (lowerAscii row.handle = lowerAscii identity ∨ row.userId = identity)

def readRowByIdentity (t : AccountTable) (tenantId identity : String) : Option AccountRow :=
  t.rows.find? (identifies tenantId identity)

/-- The columns a password `UPDATE` sets. -/
def withPassword (passwordHash : String) (row : AccountRow) : AccountRow :=
  { row with passwordSalt := "", passwordHash }

lemma withPassword_userId (hash : String) (row : AccountRow) :
    (withPassword hash row).userId = row.userId := rfl

/-- The `UPDATE` of `set_password` and of the rehash. -/
def updatePassword (t : AccountTable) (tenantId userId passwordHash : String) : AccountTable :=
  t.updateWhere (fun row => row.tenantId = tenantId ∧ row.userId = userId)
    (withPassword passwordHash) (withPassword_userId passwordHash)

/-- `changes` of that `UPDATE`. -/
def matchedRows (t : AccountTable) (tenantId userId : String) : Nat :=
  t.rows.countP fun row => row.tenantId = tenantId ∧ row.userId = userId

lemma readRowByIdentity_updatePassword (t : AccountTable)
    (tenantId identity tenant userId hash : String) :
    (t.updatePassword tenant userId hash).readRowByIdentity tenantId identity =
      (t.readRowByIdentity tenantId identity).map fun row =>
        if row.tenantId = tenant ∧ row.userId = userId then withPassword hash row
        else row := by
  unfold readRowByIdentity updatePassword Table.updateWhere
  rw [List.find?_map]
  have hsame : (identifies tenantId identity ∘ fun row =>
      if decide (row.tenantId = tenant ∧ row.userId = userId) then
        withPassword hash row
      else row) = identifies tenantId identity := by
    funext row
    simp only [Function.comp_apply]
    split_ifs
    · rfl
    · rfl
  rw [hsame]
  simp

lemma mem_updatePassword {t : AccountTable} {tenantId userId hash : String}
    {row : AccountRow} (h : row ∈ t.updatePassword tenantId userId hash)
    (hten : row.tenantId = tenantId) (huser : row.userId = userId) :
    row.passwordHash = hash := by
  obtain ⟨old, _, rfl⟩ := (Table.mem_updateWhere (withPassword_userId hash)).mp h
  split_ifs at hten huser ⊢ with hmatch
  · rfl
  · exact absurd (decide_eq_true ⟨hten, huser⟩) hmatch

lemma readRowByIdentity_eq_some {t : AccountTable} {tenantId identity : String} {row : AccountRow}
    (h : t.readRowByIdentity tenantId identity = some row) : row ∈ t ∧ row.tenantId = tenantId := by
  have hmatch := List.find?_some h
  simp only [identifies, decide_eq_true_eq] at hmatch
  exact ⟨List.mem_of_find?_eq_some h, hmatch.1⟩

end AccountTable

/-! ## `AccountStore` -/

/-- `AccountStore`, without the connection. -/
structure AccountStore where
  crypto : PasswordPrimitives
  hasher : PasswordHasher

namespace AccountStore

/-- What `verify_password` decides about the row it has read. -/
inductive PasswordCheck where
  | denied
  | accepted
  | upgrade (upgraded : String)
  deriving Repr

/-- The part of `verify_password` between its two statements. -/
def checkRow (store : AccountStore) (row : AccountRow) (password : String) (salt : Bytes) :
    PasswordCheck :=
  if !store.crypto.verify password row.credential then .denied
  else if store.hasher.needsRehash row.credential then
    match store.hasher.hash store.crypto password salt with
    | .ok upgraded => .upgrade upgraded
    | .error _ => .accepted
  else .accepted

def setPassword (store : AccountStore) (t : AccountTable) (tenantId userId newPassword : String)
    (salt : Bytes) : Except StoreError (AccountTable × Bool) :=
  match store.hasher.hash store.crypto newPassword salt with
  | .error message => .error (.store message)
  | .ok passwordHash =>
    .ok (t.updatePassword tenantId userId passwordHash, 0 < t.matchedRows tenantId userId)

def verifyPassword (store : AccountStore) (t : AccountTable) (tenantId identity password : String)
    (salt : Bytes) : AccountTable × Option StoredAccount :=
  match t.readRowByIdentity tenantId identity with
  | none => (t, none)
  | some row =>
    match store.checkRow row password salt with
    | .denied => (t, none)
    | .accepted => (t, some row.stored)
    | .upgrade upgraded => (t.updatePassword row.tenantId row.userId upgraded, some row.stored)

lemma checkRow_eq_denied_iff (store : AccountStore) (row : AccountRow) (password : String)
    (salt : Bytes) : store.checkRow row password salt = .denied ↔
      store.crypto.verify password row.credential = false := by
  unfold checkRow
  split_ifs with hdeny
  · simpa using hdeny
  · cases store.hasher.hash store.crypto password salt <;> simpa using hdeny
  · simpa using hdeny

lemma hash_of_checkRow {store : AccountStore} {row : AccountRow} {password upgraded : String}
    {salt : Bytes} (h : store.checkRow row password salt = .upgrade upgraded) :
    store.hasher.hash store.crypto password salt = .ok upgraded := by
  unfold checkRow at h
  split_ifs at h
  split at h
  next hash =>
    obtain rfl := PasswordCheck.upgrade.inj h
    exact hash
  · exact nomatch h

end AccountStore

/-! ## Which password an account accepts -/

/-- The account's stored hash verifies exactly `p`. -/
def Accepts (store : AccountStore) (tenantId userId p : String) (table : AccountTable) : Prop :=
  ∀ row ∈ table, row.tenantId = tenantId → row.userId = userId →
    ∀ candidate, store.crypto.verify candidate row.credential = true ↔ candidate = p

section Accepts

variable {store : AccountStore} {tenantId userId p : String} {t : AccountTable}

variable (hexact : store.hasher.VerifiesExactly store.crypto)
include hexact

variable {salt : Bytes}

lemma accepts_updatePassword {hash : String}
    (hhash : store.hasher.hash store.crypto p salt = .ok hash) (table : AccountTable)
    (tenantId userId : String) :
    Accepts store tenantId userId p (table.updatePassword tenantId userId hash) := by
  intro row hrow hten huser candidate
  have hstored := AccountTable.mem_updatePassword hrow hten huser
  rw [AccountRow.credential, hstored, PasswordHasher.toStoredHash_of_hash hhash]
  exact hexact p salt hash hhash candidate

omit hexact in
lemma Accepts.updatePassword_of_ne (h : Accepts store tenantId userId p t) {tenant user : String}
    (hne : ¬(tenant = tenantId ∧ user = userId)) (hash : String) :
    Accepts store tenantId userId p (t.updatePassword tenant user hash) := by
  intro row hrow hten huser
  obtain ⟨before, hpre, hupd⟩ :=
    (Table.mem_updateWhere (AccountTable.withPassword_userId hash)).mp hrow
  by_cases hmatch : before.tenantId = tenant ∧ before.userId = user
  · rw [if_pos (decide_eq_true hmatch)] at hupd
    subst hupd
    exact absurd ⟨hmatch.1.symm.trans hten, hmatch.2.symm.trans huser⟩ hne
  · rw [if_neg (by simpa using hmatch)] at hupd
    subst hupd
    exact h row hpre hten huser

lemma accepts_setPassword {t' : AccountTable} {changed : Bool}
    (h : store.setPassword t tenantId userId p salt = .ok (t', changed)) :
    Accepts store tenantId userId p t' := by
  unfold AccountStore.setPassword at h
  split at h
  · exact nomatch h
  next hhash =>
    obtain ⟨rfl, _⟩ := Prod.mk.inj (Except.ok.inj h)
    exact accepts_updatePassword hexact hhash t tenantId userId

omit hexact in
lemma tenantId_of_verifyPassword {tenant identity password : String} {acct : StoredAccount}
    (h : (store.verifyPassword t tenant identity password salt).2 = some acct) :
    acct.tenantId = tenant := by
  unfold AccountStore.verifyPassword at h
  split at h
  · exact nomatch h
  next row hrow =>
    have hten := (AccountTable.readRowByIdentity_eq_some hrow).2
    split at h
    · exact nomatch h
    · rwa [← some.inj h]
    · rwa [← some.inj h]

/-- An uninterrupted `verify_password` of the account succeeds for the accepted password only, and
leaves it accepted. -/
lemma Accepts.verifyPassword (h : Accepts store tenantId userId p t)
    (tenant identity password : String) (salt : Bytes) :
    Accepts store tenantId userId p (store.verifyPassword t tenant identity password salt).1 ∧
      ∀ acct, (store.verifyPassword t tenant identity password salt).2 = some acct →
        acct.tenantId = tenantId → acct.userId = userId → password = p := by
  unfold AccountStore.verifyPassword
  split
  · exact ⟨h, nofun⟩
  next row hrow =>
    obtain ⟨hmem, _⟩ := AccountTable.readRowByIdentity_eq_some hrow
    have hver : store.checkRow row password salt ≠ .denied →
        row.tenantId = tenantId → row.userId = userId → password = p := by
      intro hcheck hten huser
      refine (h row hmem hten huser password).mp (eq_true_of_ne_false fun hfalse => ?_)
      exact hcheck ((store.checkRow_eq_denied_iff row password salt).mpr hfalse)
    split
    · exact ⟨h, nofun⟩
    next hcheck =>
      refine ⟨h, fun acct hacc => ?_⟩
      obtain rfl := some.inj hacc
      exact hver (by rw [hcheck]; nofun)
    next upgraded hcheck =>
      have hpw := hver (by rw [hcheck]; nofun)
      refine ⟨?_, fun acct hacc => ?_⟩
      · by_cases hown : row.tenantId = tenantId ∧ row.userId = userId
        · obtain ⟨rfl, rfl⟩ := hown
          have hhash := AccountStore.hash_of_checkRow hcheck
          rw [hpw rfl rfl] at hhash
          exact accepts_updatePassword hexact hhash t _ _
        · exact h.updatePassword_of_ne hown upgraded
      · obtain rfl := some.inj hacc
        exact hpw

end Accepts

/-! ## One statement at a time -/

/-- A call of one of the two functions, with the salt its hasher will draw. -/
inductive AccountCall where
  | verifyPassword (tenantId identity password : String) (salt : Bytes)
  | setPassword (tenantId userId newPassword : String) (salt : Bytes)

/-- Where a call stands, and what it holds there. -/
inductive AccountCallState where
  /-- Not called yet. -/
  | idle
  /-- `set_password` before its `UPDATE`. -/
  | hashed (passwordHash : String)
  /-- `verify_password` before the `UPDATE` of the rehash. -/
  | upgrading (row : AccountRow) (upgraded : String)
  /-- `verify_password` has returned. -/
  | verified (result : Except StoreError (Option StoredAccount))
  /-- `set_password` has returned. -/
  | changed (result : Except StoreError Bool)
  deriving DecidableEq

structure AccountSystem (ι : Type) where
  table : AccountTable
  calls : ι → AccountCallState

namespace AccountSystem

variable {ι : Type} [DecidableEq ι]

def setCall (s : AccountSystem ι) (i : ι) (c : AccountCallState) : AccountSystem ι :=
  { s with calls := Function.update s.calls i c }

@[simp] lemma calls_setCall_self (s : AccountSystem ι) (i : ι) (c : AccountCallState) :
    (s.setCall i c).calls i = c := by
  simp [setCall]

lemma calls_setCall_of_ne {s : AccountSystem ι} {i j : ι} (hj : j ≠ i) (c : AccountCallState) :
    (s.setCall i c).calls j = s.calls j := by
  simp [setCall, Function.update_of_ne hj]

/-- The error of a statement the driver could not execute. -/
def statementFailed : StoreError := .driver "statement failed"

/-- The next step of the call `label.1`; `label.2` says whether its statement fails. -/
def step (store : AccountStore) (args : ι → AccountCall) (s : AccountSystem ι) (label : ι × Bool) :
    AccountSystem ι :=
  match args label.1, s.calls label.1 with
  | .setPassword _ _ newPassword salt, .idle =>
    match store.hasher.hash store.crypto newPassword salt with
    | .error message => s.setCall label.1 (.changed (.error (.store message)))
    | .ok passwordHash => s.setCall label.1 (.hashed passwordHash)
  | .setPassword tenantId userId _ _, .hashed passwordHash =>
    if label.2 then s.setCall label.1 (.changed (.error statementFailed))
    else
      { s with table := s.table.updatePassword tenantId userId passwordHash }.setCall label.1
        (.changed (.ok (0 < s.table.matchedRows tenantId userId)))
  | .verifyPassword tenantId identity password salt, .idle =>
    if label.2 then s.setCall label.1 (.verified (.error statementFailed))
    else match s.table.readRowByIdentity tenantId identity with
      | none => s.setCall label.1 (.verified (.ok none))
      | some row =>
        match store.checkRow row password salt with
        | .denied => s.setCall label.1 (.verified (.ok none))
        | .accepted => s.setCall label.1 (.verified (.ok (some row.stored)))
        | .upgrade upgraded => s.setCall label.1 (.upgrading row upgraded)
  | .verifyPassword _ _ _ _, .upgrading row upgraded =>
    -- A failed rewrite is swallowed.
    if label.2 then s.setCall label.1 (.verified (.ok (some row.stored)))
    else
      { s with table := s.table.updatePassword row.tenantId row.userId upgraded }.setCall label.1
        (.verified (.ok (some row.stored)))
  | _, _ => s

/-- The same step as a relation, with what each case knows. -/
inductive Performs (store : AccountStore) (args : ι → AccountCall) (s : AccountSystem ι)
    (label : ι × Bool) : AccountSystem ι → Prop where
  /-- The call has returned. -/
  | nothing : Performs store args s label s
  | hashFails {tenantId userId newPassword salt err}
      (hargs : args label.1 = .setPassword tenantId userId newPassword salt) :
      Performs store args s label (s.setCall label.1 (.changed (.error err)))
  | hash {tenantId userId newPassword passwordHash salt}
      (hargs : args label.1 = .setPassword tenantId userId newPassword salt)
      (hhash : store.hasher.hash store.crypto newPassword salt = .ok passwordHash) :
      Performs store args s label (s.setCall label.1 (.hashed passwordHash))
  | change {tenantId userId newPassword passwordHash salt}
      (hargs : args label.1 = .setPassword tenantId userId newPassword salt)
      (hcall : s.calls label.1 = .hashed passwordHash) :
      Performs store args s label
        ({ s with table := s.table.updatePassword tenantId userId passwordHash }.setCall label.1
          (.changed (.ok (0 < s.table.matchedRows tenantId userId))))
  | readFails {tenantId identity password salt}
      (hargs : args label.1 = .verifyPassword tenantId identity password salt)
      (hfault : label.2 = true) :
      Performs store args s label (s.setCall label.1 (.verified (.error statementFailed)))
  | unknown {tenantId identity password salt}
      (hargs : args label.1 = .verifyPassword tenantId identity password salt)
      (hrow : s.table.readRowByIdentity tenantId identity = none) :
      Performs store args s label (s.setCall label.1 (.verified (.ok none)))
  | checked {tenantId identity password salt row found}
      (hargs : args label.1 = .verifyPassword tenantId identity password salt)
      (hrow : s.table.readRowByIdentity tenantId identity = some row)
      (hcheck : found.isSome = store.crypto.verify password row.credential) :
      Performs store args s label (s.setCall label.1 (.verified (.ok found)))
  | upgrade {tenantId identity password upgraded salt row}
      (hargs : args label.1 = .verifyPassword tenantId identity password salt)
      (hrow : s.table.readRowByIdentity tenantId identity = some row)
      (hcheck : store.crypto.verify password row.credential = true)
      (hhash : store.hasher.hash store.crypto password salt = .ok upgraded) :
      Performs store args s label (s.setCall label.1 (.upgrading row upgraded))
  | rewriteFails {tenantId identity password upgraded salt row}
      (hargs : args label.1 = .verifyPassword tenantId identity password salt)
      (hcall : s.calls label.1 = .upgrading row upgraded) :
      Performs store args s label (s.setCall label.1 (.verified (.ok (some row.stored))))
  | rewrite {tenantId identity password upgraded salt row}
      (hargs : args label.1 = .verifyPassword tenantId identity password salt)
      (hcall : s.calls label.1 = .upgrading row upgraded) (hlands : label.2 = false) :
      Performs store args s label
        ({ s with table := s.table.updatePassword row.tenantId row.userId upgraded }.setCall label.1
          (.verified (.ok (some row.stored))))

lemma performs_step (store : AccountStore) (args : ι → AccountCall) (s : AccountSystem ι)
    (label : ι × Bool) : Performs store args s label (step store args s label) := by
  unfold step
  split
  next hargs _ =>
    split
    · exact .hashFails hargs
    next hhash => exact .hash hargs hhash
  next hargs hcall =>
    split_ifs
    · exact .hashFails hargs
    · exact .change hargs hcall
  next hargs _ =>
    split_ifs with hfault
    · exact .readFails hargs hfault
    split
    next hrow => exact .unknown hargs hrow
    next row hrow =>
      have hver := store.checkRow_eq_denied_iff row
      split
      next hcheck => exact .checked hargs hrow ((hver _ _).mp hcheck).symm
      next hcheck =>
        refine .checked hargs hrow (eq_true_of_ne_false fun hfalse => ?_).symm
        exact nomatch hcheck.symm.trans ((hver _ _).mpr hfalse)
      next hcheck =>
        refine .upgrade hargs hrow (eq_true_of_ne_false fun hfalse => ?_)
          (AccountStore.hash_of_checkRow hcheck)
        exact nomatch hcheck.symm.trans ((hver _ _).mpr hfalse)
  next hargs hcall =>
    split_ifs with hfault
    · exact .rewriteFails hargs hcall
    · exact .rewrite hargs hcall (by simpa using hfault)
  · exact .nothing

section

variable {store : AccountStore} {args : ι → AccountCall} {s s' : AccountSystem ι} {label : ι × Bool}

lemma Performs.other (hstep : Performs store args s label s') {j : ι} (hj : j ≠ label.1) :
    s'.calls j = s.calls j := by
  cases hstep with
  | nothing => rfl
  | _ => exact calls_setCall_of_ne hj _

lemma step_of_changed {result : Except StoreError Bool} (h : s.calls label.1 = .changed result) :
    step store args s label = s := by
  unfold step
  rw [h]
  cases args label.1 <;> rfl

/-- How many steps a login still needs. -/
def remaining : AccountCallState → Nat
  | .idle => 2
  | .upgrading _ _ => 1
  | _ => 0

variable {identity password tenantId : String} {salt : Bytes}

lemma remaining_step (store : AccountStore) (s : AccountSystem ι)
    (hargs : args label.1 = .verifyPassword tenantId identity password salt) :
    remaining ((step store args s label).calls label.1) ≤ remaining (s.calls label.1) - 1 := by
  cases hcall : s.calls label.1 with
  | idle =>
    unfold step
    rw [hargs, hcall]
    dsimp only
    split_ifs
    · simp [remaining]
    · split
      · simp [remaining]
      · split <;> simp [remaining]
  | upgrading =>
    unfold step
    rw [hargs, hcall]
    split_ifs <;> simp [remaining]
  | hashed hash | verified result | changed result => simp [step, hargs, hcall, remaining]

/-- Two steps are enough for any login, whatever happens in between. -/
lemma remaining_run (store : AccountStore) {v : ι}
    (hargs : args v = .verifyPassword tenantId identity password salt) (labels : List (ι × Bool))
    (s : AccountSystem ι) :
    remaining ((run (step store args) s labels).calls v) ≤
      remaining (s.calls v) - labels.countP fun label => label.1 = v := by
  induction labels generalizing s with
  | nil => simp
  | cons label _ ih =>
    have htail := ih (step store args s label)
    rw [run_cons]
    by_cases hown : label.1 = v
    · subst hown
      have hstep := remaining_step store s hargs
      simp only [List.countP_cons, decide_true, if_true]
      omega
    · have hsame := (performs_step store args s label).other (Ne.symm hown)
      simp only [List.countP_cons, hown, decide_false, Bool.false_eq_true, if_false]
      rw [hsame] at htail
      omega

end

end AccountSystem

end Frick.Store
