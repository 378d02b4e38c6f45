import Frick.Store.Account

/-!
# A password change against concurrent logins

Any number of `verify_password` and `set_password` calls on one account, interleaved statement by
statement. `verify_password` reads the row, verifies, and may then rewrite the stored hash with a
stronger one of the password it verified. That rewrite does not check that the row still holds
what was read.
-/

namespace Frick.Properties

open Framework Store Store.AccountSystem Option
open AccountSystem (step)

variable {ι : Type} [DecidableEq ι]

/-! ## The setting -/

def IsChange (call : AccountCall) : Prop :=
  match call with
  | .setPassword _ _ _ _ => True
  | .verifyPassword _ _ _ _ => False

instance (call : AccountCall) : Decidable (IsChange call) := by
  unfold IsChange
  split <;> infer_instance

def OnAccount (args : ι → AccountCall) (tenantId userId : String) (table : AccountTable) : Prop :=
  ∀ i, match args i with
    | .setPassword tenant user _ _ => tenant = tenantId ∧ user = userId
    | .verifyPassword tenant identity _ _ => tenant = tenantId ∧
        ∃ row, table.readRowByIdentity tenantId identity = some row ∧ row.userId = userId

/-- The calls `k` and `v` of a run `before ++ during ++ after`: `k` changes the password to `p`, it
starts after `before` and has returned `true` after `during`; no other change takes a step once `k`
has started; `v` verifies `password`, starts after that, is given the two steps a call needs, and
its statements are executed. -/
structure ChangeThenVerify (store : AccountStore) (args : ι → AccountCall) (start : AccountSystem ι)
    (before during after : List (ι × Bool)) (k v : ι) (p password : String) : Prop where
  change : ∃ tenantId userId salt, args k = .setPassword tenantId userId p salt
  verify : ∃ tenantId identity salt, args v = .verifyPassword tenantId identity password salt
  starts : (run (step store args) start before).calls k = .idle
  returned : (run (step store args) start (before ++ during)).calls k = .changed (.ok true)
  others : ∀ label ∈ during ++ after, IsChange (args label.1) → label.1 = k
  later : (run (step store args) start (before ++ during)).calls v = .idle
  scheduled : 2 ≤ after.countP fun label => label.1 = v
  executed : (v, true) ∉ after

/-- The login returned, and it succeeded exactly if its password is the new one. -/
def SucceedsExactlyFor (p password : String) (c : AccountCallState) : Prop :=
  ∃ result, c = .verified (.ok result) ∧ (result.isSome = true ↔ password = p)

/-- A rewrite that lands finds a stored hash that the password it verified still verifies against.
-/
def RewritesCurrent (store : AccountStore) (args : ι → AccountCall) (s : AccountSystem ι)
    (label : ι × Bool) : Prop :=
  match args label.1, s.calls label.1 with
  | .verifyPassword _ _ password _, .upgrading row _ =>
    label.2 = false → ∀ current ∈ s.table.rows, current.tenantId = row.tenantId →
      current.userId = row.userId → store.crypto.verify password current.credential = true
  | _, _ => True

instance (store : AccountStore) (args : ι → AccountCall) (s : AccountSystem ι) (label : ι × Bool) :
    Decidable (RewritesCurrent store args s label) := by
  unfold RewritesCurrent
  split <;> infer_instance

/-! ## What stays true of the calls -/

section Invariants

variable {store : AccountStore} {args : ι → AccountCall} {tenantId userId : String}
  {s s' : AccountSystem ι} {label : ι × Bool}

/-- A hash a call holds is the hash of its own password, and a row it holds is the account's. -/
def Holds (store : AccountStore) (tenantId userId : String) : AccountCall → AccountCallState → Prop
  | .setPassword _ _ p salt, .hashed passwordHash =>
    store.hasher.hash store.crypto p salt = .ok passwordHash
  | .verifyPassword _ _ password salt, .upgrading row upgraded =>
    row.tenantId = tenantId ∧ row.userId = userId ∧
      store.hasher.hash store.crypto password salt = .ok upgraded
  | _, _ => True

/-- Calls keep addressing the account, and hold what is theirs. -/
structure Addressed (store : AccountStore) (args : ι → AccountCall) (tenantId userId : String)
    (s : AccountSystem ι) : Prop where
  onAccount : OnAccount args tenantId userId s.table
  holds : ∀ i, Holds store tenantId userId (args i) (s.calls i)

variable {table : AccountTable} {identity password tenant : String} {salt : Bytes} {k : ι}

omit [DecidableEq ι] in
lemma OnAccount.updatePassword (h : OnAccount args tenantId userId table)
    (tenant' user' passwordHash : String) :
    OnAccount args tenantId userId (table.updatePassword tenant' user' passwordHash) := by
  intro i
  have hi := h i
  cases hargs : args i with
  | setPassword => rwa [hargs] at hi
  | verifyPassword _ identity =>
    rw [hargs] at hi
    obtain ⟨hten, row, hrow, huser⟩ := hi
    have hread :=
      AccountTable.readRowByIdentity_updatePassword table tenantId identity tenant' user'
      passwordHash
    rw [hrow, map_some] at hread
    refine ⟨hten, _, hread, ?_⟩
    split_ifs <;> exact huser

section

variable (h : Addressed store args tenantId userId s)
include h

lemma Addressed.setCall (htable : OnAccount args tenantId userId table) (i : ι)
    {c : AccountCallState} (hholds : Holds store tenantId userId (args i) c) :
    Addressed store args tenantId userId ({ s with table }.setCall i c) := by
  refine ⟨htable, fun j => ?_⟩
  by_cases hij : j = i
  · subst hij
    rwa [calls_setCall_self]
  · rw [calls_setCall_of_ne hij]
    exact h.holds j

lemma Addressed.performs (hstep : Performs store args s label s') :
    Addressed store args tenantId userId s' := by
  cases hstep with
  | nothing => exact h
  | hash hargs hhash =>
    refine h.setCall h.onAccount _ ?_
    rwa [hargs]
  | hashFails hargs | readFails hargs | unknown hargs | checked hargs | rewriteFails hargs =>
    refine h.setCall h.onAccount _ ?_
    rw [hargs]
    trivial
  | change hargs | rewrite hargs =>
    refine h.setCall (h.onAccount.updatePassword _ _ _) _ ?_
    rw [hargs]
    trivial
  | upgrade hargs hrow _ hhash =>
    refine h.setCall h.onAccount _ ?_
    have haddr := h.onAccount label.1
    rw [hargs] at haddr ⊢
    obtain ⟨rfl, found, hfound, huser⟩ := haddr
    obtain rfl := some.inj (hrow.symm.trans hfound)
    exact ⟨(AccountTable.readRowByIdentity_eq_some hrow).2, huser, hhash⟩

variable {p : String}

omit [DecidableEq ι] in
lemma Addressed.exists_row {i : ι}
    (hargs : args i = .verifyPassword tenant identity password salt) :
    ∃ row, s.table.readRowByIdentity tenant identity = some row ∧ row ∈ s.table ∧
      row.tenantId = tenantId ∧ row.userId = userId := by
  have haddr := h.onAccount i
  rw [hargs] at haddr
  obtain ⟨rfl, row, hrow, huser⟩ := haddr
  obtain ⟨hmem, hten⟩ := AccountTable.readRowByIdentity_eq_some hrow
  exact ⟨row, hrow, hmem, hten, huser⟩

end

variable (hexact : store.hasher.VerifiesExactly store.crypto)
include hexact

/-- **Step.** Logins whose rewrites meet the condition leave the accepted password alone. -/
lemma accepts_performs (haddr : Addressed store args tenantId userId s)
    (hacc : Accepts store tenantId userId p s.table)
    (hguard : RewritesCurrent store args s label) (hlogin : ¬IsChange (args label.1))
    (hstep : Performs store args s label s') : Accepts store tenantId userId p s'.table := by
  cases hstep with
  | nothing | hashFails hargs | hash hargs hhash | readFails hargs hfault | unknown hargs hrow
  | checked hargs hrow hcheck | upgrade hargs hrow hcheck hhash | rewriteFails => exact hacc
  | change hargs =>
    rw [hargs] at hlogin
    exact absurd trivial hlogin
  | rewrite hargs hcall hlands =>
    have hholds := haddr.holds label.1
    rw [hargs, hcall] at hholds
    obtain ⟨rfl, rfl, hhash⟩ := hholds
    obtain ⟨current, _, hmem, hten, huser⟩ := haddr.exists_row hargs
    simp only [RewritesCurrent, hargs, hcall] at hguard
    have hverifies := hguard hlands current hmem hten huser
    -- The rewritten hash is of a password that still verifies, so of `p`.
    have hpw := (hacc current hmem hten huser _).mp hverifies
    rw [hpw] at hhash
    exact accepts_updatePassword hexact hhash _ _ _

/-- While the change `k` is under way, and once it has returned. -/
structure Changing (store : AccountStore) (args : ι → AccountCall) (tenantId userId : String)
    (k : ι) (p : String) (s : AccountSystem ι) : Prop where
  addressed : Addressed store args tenantId userId s
  progress : s.calls k = .idle ∨ (∃ passwordHash, s.calls k = .hashed passwordHash) ∨
    ∃ result, s.calls k = .changed result ∧
      (result = .ok true → Accepts store tenantId userId p s.table)

lemma Changing.step {user : String} (hk : args k = .setPassword tenant user p salt)
    (h : Changing store args tenantId userId k p s) (hguard : RewritesCurrent store args s label)
    (hoth : IsChange (args label.1) → label.1 = k) :
    Changing store args tenantId userId k p (step store args s label) := by
  have hperf := performs_step store args s label
  refine ⟨h.addressed.performs hperf, ?_⟩
  by_cases hown : label.1 = k
  · subst hown
    rcases h.progress with hcall | ⟨_, hcall⟩ | ⟨result, hcall, hacc⟩
    · cases hhash : store.hasher.hash store.crypto p salt with
      | error msg | ok hash => simp [step, hk, hcall, hhash]
    · by_cases hfault : label.2
      · refine .inr (.inr ⟨.error statementFailed, ?_, fun h => by cases h⟩)
        simp [step, hk, hcall, hfault]
      · have haddr := h.addressed.onAccount label.1
        rw [hk] at haddr
        obtain ⟨rfl, rfl⟩ := haddr
        have hhash := h.addressed.holds label.1
        rw [hk, hcall] at hhash
        refine .inr (.inr ⟨.ok (0 < s.table.matchedRows tenant user), ?_, fun _ => ?_⟩)
        · simp [step, hk, hcall, hfault]
        · have hacc := accepts_updatePassword hexact hhash s.table tenant user
          simpa [step, setCall, hk, hcall, hfault] using hacc
    · rw [step_of_changed hcall]
      exact .inr (.inr ⟨result, hcall, hacc⟩)
  · have hsame := hperf.other (Ne.symm hown)
    rw [hsame]
    rcases h.progress with hcall | hcall | ⟨result, hcall, hacc⟩
    · exact .inl hcall
    · exact .inr (.inl hcall)
    · refine .inr (.inr ⟨result, hcall, fun hres => ?_⟩)
      exact accepts_performs hexact h.addressed (hacc hres) hguard
        (fun hchg => hown (hoth hchg)) hperf

/-- What a login that started after the change can be at. -/
def LoginSettled (p password : String) (c : AccountCallState) : Prop :=
  c = .idle ∨ (∃ row upgraded, c = .upgrading row upgraded ∧ password = p) ∨
    SucceedsExactlyFor p password c

/-- Once the change `k` has returned `true`. -/
structure Settled (store : AccountStore) (args : ι → AccountCall) (tenantId userId : String)
    (k v : ι) (p password : String) (s : AccountSystem ι) : Prop where
  addressed : Addressed store args tenantId userId s
  accepts : Accepts store tenantId userId p s.table
  returned : s.calls k = .changed (.ok true)
  login : LoginSettled p password (s.calls v)

omit hexact in
lemma loginSettled_performs (hargs : args label.1 = .verifyPassword tenant identity password salt)
    (haddr : Addressed store args tenantId userId s)
    (hacc : Accepts store tenantId userId p s.table) (hexec : label.2 ≠ true)
    (hlogin : LoginSettled p password (s.calls label.1)) (hstep : Performs store args s label s') :
    LoginSettled p password (s'.calls label.1) := by
  obtain ⟨row, hread, hmem, hten, huser⟩ := haddr.exists_row hargs
  have hver := hacc row hmem hten huser password
  -- A pending rewrite was of the accepted password.
  have hupgrading : ∀ found upgraded, s.calls label.1 = .upgrading found upgraded →
      password = p := by
    intro found upgraded hcall
    rcases hlogin with hidle | ⟨_, _, _, hpw⟩ | ⟨_, hverified, _⟩
    · exact nomatch hidle.symm.trans hcall
    · exact hpw
    · exact nomatch hverified.symm.trans hcall
  cases hstep with
  | nothing => exact hlogin
  | hashFails hset | hash hset | change hset => exact nomatch hset.symm.trans hargs
  | readFails _ hfault => exact absurd hfault hexec
  | unknown hcalled hrow =>
    obtain ⟨rfl, rfl, rfl, rfl⟩ := AccountCall.verifyPassword.inj (hargs.symm.trans hcalled)
    exact nomatch hread.symm.trans hrow
  | checked hcalled hrow hcheck =>
    obtain ⟨rfl, rfl, rfl, rfl⟩ := AccountCall.verifyPassword.inj (hargs.symm.trans hcalled)
    obtain rfl := some.inj (hread.symm.trans hrow)
    refine .inr (.inr ⟨_, calls_setCall_self _ _ _, ?_⟩)
    rw [hcheck, hver]
  | upgrade hcalled hrow hcheck =>
    obtain ⟨rfl, rfl, rfl, rfl⟩ := AccountCall.verifyPassword.inj (hargs.symm.trans hcalled)
    obtain rfl := some.inj (hread.symm.trans hrow)
    exact .inr (.inl ⟨_, _, calls_setCall_self _ _ _, hver.mp hcheck⟩)
  | rewriteFails _ hcall | rewrite _ hcall _ =>
    refine .inr (.inr ⟨_, calls_setCall_self _ _ _, ?_⟩)
    simp [hupgrading _ _ hcall]

lemma Settled.step {v : ι} (hv : args v = .verifyPassword tenant identity password salt)
    (h : Settled store args tenantId userId k v p password s)
    (hguard : RewritesCurrent store args s label) (hoth : IsChange (args label.1) → label.1 = k)
    (hexec : label ≠ (v, true)) :
    Settled store args tenantId userId k v p password (step store args s label) := by
  by_cases hchg : IsChange (args label.1)
  · have hcall : s.calls label.1 = .changed (.ok true) := by
      rw [hoth hchg]
      exact h.returned
    rwa [step_of_changed hcall]
  · have hperf := performs_step store args s label
    refine ⟨h.addressed.performs hperf,
      accepts_performs hexact h.addressed h.accepts hguard hchg hperf, ?_, ?_⟩
    · by_cases hk : label.1 = k
      · subst hk
        rw [step_of_changed h.returned]
        exact h.returned
      · rw [hperf.other (Ne.symm hk)]
        exact h.returned
    · by_cases hown : label.1 = v
      · subst hown
        refine loginSettled_performs hv h.addressed h.accepts ?_ h.login hperf
        intro hfault
        exact hexec (Prod.ext rfl hfault)
      · rw [hperf.other (Ne.symm hown)]
        exact h.login

end Invariants

/-! ## Every run -/

/-- **Every run.** After a completed change to `p`, with no other change taking a step and every
rewrite that lands meeting the condition, a login that starts later returns, and it succeeds
exactly for `p`. -/
theorem change_is_final (store : AccountStore)
    (hexact : store.hasher.VerifiesExactly store.crypto) (args : ι → AccountCall)
    (start : AccountSystem ι) (tenantId userId : String)
    (hidle : ∀ i, start.calls i = .idle) (haccount : OnAccount args tenantId userId start.table)
    (before during after : List (ι × Bool)) (k v : ι) (p password : String)
    (h : ChangeThenVerify store args start before during after k v p password)
    (hguard : Guarded (step store args) (RewritesCurrent store args) start
      (before ++ during ++ after)) :
    SucceedsExactlyFor p password
      ((run (step store args) start (before ++ during ++ after)).calls v) := by
  obtain ⟨tenant, user, salt, hk⟩ := h.change
  obtain ⟨tenant', identity, salt', hv⟩ := h.verify
  obtain ⟨hguard, hguardAfter⟩ := guarded_append.mp hguard
  obtain ⟨hguardBefore, hguardDuring⟩ := guarded_append.mp hguard
  have hstart : Addressed store args tenantId userId start := by
    refine ⟨haccount, fun i => ?_⟩
    rw [hidle i]
    cases args i <;> trivial
  have hbefore : Addressed store args tenantId userId (run (step store args) start before) :=
    run_invariant (fun s label hs _ => hs.performs (performs_step store args s label)) hstart
      hguardBefore
  have hduring : Changing store args tenantId userId k p
      (run (step store args) start (before ++ during)) := by
    rw [run_append]
    refine run_invariant (I := Changing store args tenantId userId k p) ?_
      ⟨hbefore, .inl h.starts⟩ (guarded_and (D := fun label => IsChange (args label.1) →
        label.1 = k) ?_ hguardDuring)
    · rintro s label hs ⟨hothers, hrewrites⟩
      exact hs.step hexact hk hrewrites hothers
    · intro label hlabel
      exact h.others label (List.mem_append_left _ hlabel)
  have hsettled : Settled store args tenantId userId k v p password
      (run (step store args) start (before ++ during)) := by
    refine ⟨hduring.addressed, ?_, h.returned, .inl h.later⟩
    rcases hduring.progress with hcall | ⟨_, hcall⟩ | ⟨result, hcall, haccepts⟩
    · exact nomatch h.returned.symm.trans hcall
    · exact nomatch h.returned.symm.trans hcall
    · exact haccepts (AccountCallState.changed.inj (hcall.symm.trans h.returned))
  have hafter : Settled store args tenantId userId k v p password
      (run (step store args) start (before ++ during ++ after)) := by
    rw [run_append]
    refine run_invariant (I := Settled store args tenantId userId k v p password) ?_ hsettled
      (guarded_and (D := fun label => (IsChange (args label.1) → label.1 = k) ∧ label ≠ (v, true))
        ?_ hguardAfter)
    · rintro s label hs ⟨⟨hothers, hexecuted⟩, hrewrites⟩
      exact hs.step hexact hv hrewrites hothers hexecuted
    · intro label hlabel
      refine ⟨h.others label (List.mem_append_right _ hlabel), ?_⟩
      rintro rfl
      exact h.executed hlabel
  -- Two steps have been taken since the login was idle, so it has returned.
  have hdone := remaining_run store hv after
    (run (step store args) start (before ++ during))
  have hscheduled := h.scheduled
  rw [← run_append, h.later, remaining] at hdone
  rcases hafter.login with hcall | ⟨_, _, hcall, _⟩ | hexactly
  · rw [hcall, remaining] at hdone
    omega
  · rw [hcall, remaining] at hdone
    omega
  · exact hexactly

/-! ## A rewrite that lands late -/

/-- Argon2 with default parameters over readable digests. -/
def plainAccountStore : AccountStore := ⟨.plain, defaultPasswordHasher⟩

/-- One account with a credential of the two-column format, for the password `old`. -/
def legacyAccount : AccountTable :=
  ⟨[⟨"ada", "ada", "Ada", "salt", "old", "2023-11-14T22:13:20.000Z", "acme"⟩], by decide⟩

/-- A login with the old password, a change to `new`, and a login with the new one. -/
def changeCalls : Fin 3 → AccountCall
  | 0 => .verifyPassword "acme" "ada" "old" []
  | 1 => .setPassword "acme" "ada" "new" []
  | 2 => .verifyPassword "acme" "ada" "new" []

def changeStart : AccountSystem (Fin 3) := ⟨legacyAccount, fun _ => .idle⟩

lemma onAccount_changeCalls : OnAccount changeCalls "acme" "ada" changeStart.table
  | 0 => ⟨rfl, _, rfl, rfl⟩
  | 1 => ⟨rfl, rfl⟩
  | 2 => ⟨rfl, _, rfl, rfl⟩

/-- The old login completes, rewrite included, before the change starts. -/
theorem change_is_final_after_rewrite :
    SucceedsExactlyFor "new" "new" ((run (step plainAccountStore changeCalls) changeStart
      ([(0, false), (0, false)] ++ [(1, false), (1, false)] ++ [(2, false),
        (2, false)])).calls 2) :=
  change_is_final plainAccountStore plain_verifiesExactly changeCalls changeStart "acme"
    "ada" (fun _ => rfl) onAccount_changeCalls _ _ _ 1 2 "new" "new"
    ⟨⟨_, _, _, rfl⟩, ⟨_, _, _, rfl⟩, by decide +kernel, by decide +kernel, by decide,
      by decide +kernel, by decide, by decide⟩ (by decide +kernel)

/-- The old login reads the row, the change completes, and then the old login's rewrite lands: a
login with the new password is refused. -/
theorem change_undone_by_rewrite :
    OnAccount changeCalls "acme" "ada" changeStart.table ∧
      ChangeThenVerify plainAccountStore changeCalls changeStart [(0, false)]
        [(1, false), (1, false)] [(0, false), (2, false), (2, false)] 1 2 "new" "new" ∧
      ¬SucceedsExactlyFor "new" "new" ((run (step plainAccountStore changeCalls) changeStart
        ([(0, false)] ++ [(1, false), (1, false)] ++
          [(0, false), (2, false), (2, false)])).calls 2) := by
  refine ⟨onAccount_changeCalls, ⟨⟨_, _, _, rfl⟩, ⟨_, _, _, rfl⟩, by decide +kernel,
    by decide +kernel, by decide, by decide +kernel, by decide, by decide⟩, ?_⟩
  have hrefused : (run (step plainAccountStore changeCalls) changeStart ([(0, false)] ++
      [(1, false), (1, false)] ++ [(0, false), (2, false), (2, false)])).calls 2 =
        .verified (.ok none) := by
    decide +kernel
  rintro ⟨result, hresult, hiff⟩
  obtain rfl := Except.ok.inj (AccountCallState.verified.inj (hrefused.symm.trans hresult))
  exact absurd (hiff.mpr rfl) (by decide)

end Frick.Properties
