import Mathlib.Data.Fintype.Basic
import Frick.Server.Auth

/-!
# A password reset against everything that holds an old credential

`email_reset_password` is documented to cut off prior credentials. It sets the password, deletes
the account's sessions and revokes its refresh tokens, in three store calls whose outcomes it does
not all look at, and it leaves the gateway's connections alone.
-/

namespace Frick.Properties

open Framework Protocol Store Server GatewayHub AuthWorld RefreshTokenTable Option

variable {ι : Type}

/-! ## Old credentials -/

section

variable (server : AuthServer) (w : AuthWorld ι) (account : ConsumedResetToken)

/-- The pair of ids names the account. -/
def IsHolder (tenantId userId : String) : Prop :=
  tenantId = account.tenantId ∧ userId = account.userId

instance (account : ConsumedResetToken) (tenantId userId : String) :
    Decidable (IsHolder account tenantId userId) :=
  inferInstanceAs (Decidable (_ ∧ _))

def Presents (call : AuthCall) (password : String) : Prop :=
  match call with
  | .login args => args.password = password
  | _ => False

/-- A session token obtained with the old password: the token of a session the account had from the
start, of one a refresh created, or of one a sign-in created that verified before the password was
changed or presented another password than the new one. -/
def OldSession (args : ι → AuthCall) (resetArgs : ResetArgs)
    (start w : AuthWorld ι) (account : ConsumedResetToken) (token : String) : Prop :=
  (∃ row ∈ start.sessions, row.sessionTokenDigest = server.digests.sessionTokenDigest token ∧
    IsHolder account row.tenantId row.userId) ∨
  ∃ i session refreshToken afterChange, w.calls i = .signedIn session refreshToken afterChange ∧
    session.sessionToken = token ∧ IsHolder account session.tenantId session.userId ∧
    (afterChange = false ∨ ¬Presents (args i) resetArgs.password)

/-- `Delta`, `Snapshot`, `PresenceDelta` and `SignalDeliver`. -/
def isPublished : Outbound → Bool
  | .frame (.delta _) | .frame (.snapshot _) | .frame (.presenceDelta _)
  | .frame (.signalDeliver _) => true
  | _ => false

/-- The published data enqueued on the connection so far. -/
def published (connection : Connection) : List Outbound := connection.outbound.filter isPublished

/-- The account's old credentials are worth nothing in the state `w`, and the next step, whatever it
is, enqueues nothing published on a connection that authenticated with one. -/
structure CutOff [DecidableEq ι] (server : AuthServer) (args : ι → AuthCall) (resetArgs : ResetArgs)
    (start w : AuthWorld ι) (account : ConsumedResetToken) : Prop where
  sessions : ∀ token, OldSession server args resetArgs start w account token →
    ∀ nowMs principal,
      (server.principalFromAuthorizedSessionToken w.sessions token nowMs).2 ≠ .ok principal
  refreshTokens : ∀ token fresh ttlSeconds nowMs table record,
    w.refreshTokens.rotate server.digests token fresh ttlSeconds nowMs = .ok (table, some record) →
      ¬IsHolder account record.tenantId record.userId
  connections : ∀ connection ∈ w.hub.connections, ∀ principal ∈ connection.principal,
    IsHolder account principal.tenantId principal.userId →
      ∀ token ∈ connection.sessionToken, OldSession server args resetArgs start w account token →
        ∀ label, ∀ next ∈ (step server args resetArgs w label).hub.connections,
          next.id = connection.id → published next = published connection

/-- Nothing has been called yet, and the random tokens are new. -/
structure FreshStart (server : AuthServer) (args : ι → AuthCall) (start : AuthWorld ι) : Prop where
  calls : ∀ i, start.calls i = .idle
  reset : start.reset = .idle
  distinct : ∀ i j token token', (args i).drawn = some token → (args j).drawn = some token' →
    server.digests.sessionTokenDigest token = server.digests.sessionTokenDigest token' → i = j
  unused : ∀ i token, (args i).drawn = some token →
    ∀ row ∈ start.sessions.rows, row.sessionTokenDigest ≠ server.digests.sessionTokenDigest token

/-! ## The condition -/

/-- The call has signed in with this session after the password was changed. -/
def renews (digest : String) : AuthCallState → Bool
  | .signedIn session _ true => server.digests.sessionTokenDigest session.sessionToken = digest
  | _ => false

/-- The digest is that of a session that was signed in to after the password was changed. -/
def Renewed (digest : String) : Prop :=
  ∃ i, renews server digest (w.calls i) = true

/-- The session a task has read for a `Hello` and not attached yet. -/
def heldSession : FrameTask → Option (Principal × Option String)
  | .helloRead payload (.ok principal) => some (principal, payload.sessionToken)
  | _ => none

/-- A principal of the account goes with the token of a renewed session. -/
def VouchedFor (principal : Option Principal) (token : Option String) : Prop :=
  ∀ p ∈ principal, IsHolder account p.tenantId p.userId →
    ∃ t ∈ token, Renewed server w (server.digests.sessionTokenDigest t)

/-- The connection is not authenticated as the account, and not about to be, except with a renewed
session. -/
def Vouched (principal : Option Principal) (token : Option String) (task : FrameTask) : Prop :=
  VouchedFor server w account principal token ∧
    VouchedFor server w account ((heldSession task).map Prod.fst) ((heldSession task).bind Prod.snd)

/-- The same of an upgrade between its session read and `run_connection`. -/
def UpgradeVouched : AuthCallState → Prop
  | .upgrading bearer principal => VouchedFor server w account principal bearer
  | _ => True

/-- The condition on a step: the reset's two clean-up statements are executed, it answers when no
connection is open or opening as the account on an old session, and no call that holds an old
credential creates a session for the account once the sessions have been deleted. -/
def CleanReset : AuthLabel ι → Prop
  | .reset fault =>
    match w.reset with
    | .passwordSet _ | .sessionsDeleted _ => fault = false
    | .tokensRevoked account => w.hub.Every (Vouched server w account) ∧
        ∀ i, UpgradeVouched server w account (w.calls i)
    | _ => True
  | .call i fault =>
    match w.calls i with
    | .minting session _ false => fault = false →
        ∀ account ∈ w.reset.deleted, ¬IsHolder account session.tenantId session.userId
    | _ => True
  | _ => True

end

section Decidable

variable [Fintype ι] (server : AuthServer) (w : AuthWorld ι) (account : ConsumedResetToken)

instance (digest : String) : Decidable (Renewed server w digest) :=
  inferInstanceAs (Decidable (∃ i, renews server digest (w.calls i) = true))

instance (principal : Option Principal) (token : Option String) :
    Decidable (VouchedFor server w account principal token) :=
  inferInstanceAs (Decidable (∀ p ∈ principal, IsHolder account p.tenantId p.userId →
    ∃ t ∈ token, Renewed server w (server.digests.sessionTokenDigest t)))

instance (c : AuthCallState) : Decidable (UpgradeVouched server w account c) := by
  unfold UpgradeVouched
  split <;> infer_instance

instance : Decidable (w.hub.Every (Vouched server w account)) :=
  inferInstanceAs (Decidable (∀ c ∈ w.hub.connections.rows, _ ∧ _))

instance (label : AuthLabel ι) : Decidable (CleanReset server w label) := by
  unfold CleanReset
  split
  · split <;> infer_instance
  · split <;> infer_instance
  · infer_instance

end Decidable

/-! ## Renewed sessions stay renewed -/

section Renewed

variable {server : AuthServer} {w w' : AuthWorld ι} {account : ConsumedResetToken}

/-- Answered calls stay answered. -/
def Keeps (w w' : AuthWorld ι) : Prop :=
  ∀ i session refreshToken afterChange, w.calls i = .signedIn session refreshToken afterChange →
    w'.calls i = .signedIn session refreshToken afterChange

def Open (w : AuthWorld ι) (i : ι) : Prop :=
  ∀ session refreshToken afterChange, w.calls i ≠ .signedIn session refreshToken afterChange

lemma open_of_eq {i : ι} {c : AuthCallState} (h : w.calls i = c)
    (hc : ∀ session refresh changed, c ≠ .signedIn session refresh changed) :
    Open w i := by
  rwa [Open, h]

lemma keeps_setCall [DecidableEq ι] {i : ι} (hopen : Open w i) (c : AuthCallState) : Keeps w
    (w.setCall i c) := by
  intro j session refresh changed hj
  have hne : j ≠ i := by
    rintro rfl
    exact hopen _ _ _ hj
  rw [← hj]
  exact Function.update_of_ne hne c w.calls

section

variable (hkeeps : Keeps w w')
include hkeeps

lemma Renewed.mono {digest : String} (h : Renewed server w digest) : Renewed server w' digest := by
  obtain ⟨i, hi⟩ := h
  refine ⟨i, ?_⟩
  unfold renews at hi
  split at hi
  next hcall =>
    rwa [hkeeps i _ _ _ hcall]
  · exact nomatch hi

lemma VouchedFor.mono {principal : Option Principal} {token : Option String}
    (h : VouchedFor server w account principal token) :
    VouchedFor server w' account principal token := by
  intro p hp hhold
  obtain ⟨t, ht, hrenew⟩ := h p hp hhold
  exact ⟨t, ht, hrenew.mono hkeeps⟩

lemma UpgradeVouched.mono {c : AuthCallState} (h : UpgradeVouched server w account c) :
    UpgradeVouched server w' account c := by
  unfold UpgradeVouched at h ⊢
  split
  next hc => exact VouchedFor.mono hkeeps h
  · trivial

lemma every_vouched_mono {hub : GatewayHub} (h : hub.Every (Vouched server w account)) :
    hub.Every (Vouched server w' account) :=
  fun c hc => ⟨(h c hc).1.mono hkeeps, (h c hc).2.mono hkeeps⟩

end

lemma vouchedFor_none (token : Option String) : VouchedFor server w account none token := nofun

lemma quietStable_vouched : QuietStable (Vouched server w account) := by
  intro p token task task' hquiet h
  refine ⟨h.1, ?_⟩
  have hnone : heldSession task' = none := by
    unfold heldSession
    split
    · exact absurd rfl (hquiet _ _)
    · rfl
  rw [hnone]
  exact vouchedFor_none _

end Renewed

/-! ## The invariant -/

/-- What a call has established and holds, as `(tenant, user, afterChange)`. -/
def signingIn (call : AuthCall) (c : AuthCallState) : Option (String × String × Bool) :=
  match call, c with
  | .login args, .verified account afterChange => some (args.tenantId, account.userId, afterChange)
  | _, .minting session _ afterChange => some (session.tenantId, session.userId, afterChange)
  | _, .signedIn session _ afterChange => some (session.tenantId, session.userId, afterChange)
  | _, _ => none

def sessionOf : AuthCallState → Option CreateSessionInput
  | .minting session _ _ => some session
  | .signedIn session _ _ => some session
  | _ => none

/-- A sign-in that verified after the change presented the new password, and a call creates the
session whose token it drew. -/
structure CallSound (resetArgs : ResetArgs) (reset : ResetStage) (call : AuthCall)
    (c : AuthCallState) : Prop where
  history : ∀ tenantId userId, signingIn call c = some (tenantId, userId, true) →
    ∃ account, reset.changed = some account ∧
      (IsHolder account tenantId userId → Presents call resetArgs.password)
  drawn : ∀ session, sessionOf c = some session → call.drawn = some session.sessionToken

/-- Where the reset has got to, and what holds from there on. -/
structure Severing (server : AuthServer) (args : ι → AuthCall) (resetArgs : ResetArgs)
    (start w : AuthWorld ι) : Prop where
  calls : ∀ i, CallSound resetArgs w.reset (args i) (w.calls i)
  issued : ∀ row ∈ w.sessions,
    (∃ before ∈ start.sessions, row.sessionTokenDigest = before.sessionTokenDigest ∧
      row.tenantId = before.tenantId ∧ row.userId = before.userId) ∨
    ∃ i session refreshToken afterChange, w.calls i = .signedIn session refreshToken afterChange ∧
      row.sessionTokenDigest = server.digests.sessionTokenDigest session.sessionToken ∧
      row.tenantId = session.tenantId ∧ row.userId = session.userId
  changed : ∀ account, w.reset.changed = some account →
    Accepts server.accounts account.tenantId account.userId resetArgs.password w.accounts
  deleted : ∀ account, w.reset.deleted = some account → ∀ row ∈ w.sessions,
    IsHolder account row.tenantId row.userId → Renewed server w row.sessionTokenDigest
  revoked : ∀ account, w.reset.revoked = some account → ∀ row ∈ w.refreshTokens,
    IsHolder account row.tenantId row.userId → row.revokedAt.isSome
  severed : ∀ account, w.reset = .answered account →
    w.hub.Every (Vouched server w account) ∧ ∀ i, UpgradeVouched server w account (w.calls i)

section Severing

variable {server : AuthServer} {args : ι → AuthCall} {resetArgs : ResetArgs} {start w : AuthWorld ι}

lemma severing_start (hstart : FreshStart server args start) :
    Severing server args resetArgs start start where
  calls := by
    intro i
    rw [hstart.calls i]
    exact ⟨by cases args i <;> nofun, nofun⟩
  issued := fun row hrow => .inl ⟨row, hrow, rfl, rfl, rfl⟩
  changed := hstart.reset ▸ nofun
  deleted := hstart.reset ▸ nofun
  revoked := hstart.reset ▸ nofun
  severed := hstart.reset ▸ nofun

variable {account : ConsumedResetToken} {token : String} {c : AuthCallState} {i : ι} {fault : Bool}
  {reset : ResetStage}

variable (h : Severing server args resetArgs start w)
include h

lemma Severing.renewed_of_resolved
    (hdel : w.reset.deleted = some account) {nowMs : Int} {p : Principal}
    (hresol : (server.principalFromAuthorizedSessionToken w.sessions token nowMs).2 =
      .ok p) (hhold : IsHolder account p.tenantId p.userId) :
    Renewed server w (server.digests.sessionTokenDigest token) := by
  obtain ⟨row, hrow, hdigest, hten, huser⟩ :=
    server.principalFromAuthorizedSessionToken_eq_ok hresol
  rw [hten, huser] at hhold
  rw [← hdigest]
  exact h.deleted account hdel row hrow hhold

lemma Severing.drawn {session : CreateSessionInput} {refresh : Option String} {changed : Bool}
    (hi : w.calls i = .signedIn session refresh changed) :
    (args i).drawn = some session.sessionToken := by
  have hsound := h.calls i
  rw [hi] at hsound
  exact hsound.drawn session rfl

/-! ### One component at a time -/

lemma Severing.accounts {accounts : AccountTable}
    (hacc : ∀ account, w.reset.changed = some account →
      Accepts server.accounts account.tenantId account.userId resetArgs.password accounts) :
    Severing server args resetArgs start { w with accounts } :=
  ⟨h.calls, h.issued, hacc, h.deleted, h.revoked, h.severed⟩

lemma Severing.sessions {sessions : SessionTable}
    (hfrom : ∀ row ∈ sessions, ∃ before ∈ w.sessions,
      row.sessionTokenDigest = before.sessionTokenDigest ∧ row.tenantId = before.tenantId ∧
        row.userId = before.userId) :
    Severing server args resetArgs start { w with sessions } := by
  refine ⟨h.calls, fun row hrow => ?_, h.changed, fun account hacc row hrow hhold => ?_,
    h.revoked, h.severed⟩
  · obtain ⟨before, hpre, hdigest, hten, huser⟩ := hfrom row hrow
    rw [hdigest, hten, huser]
    exact h.issued before hpre
  · obtain ⟨before, hpre, hdigest, hten, huser⟩ := hfrom row hrow
    rw [hten, huser] at hhold
    rw [hdigest]
    exact h.deleted account hacc before hpre hhold

lemma Severing.refreshTokens {tokens : RefreshTokenTable}
    (hfrom : ∀ row ∈ tokens, row ∈ w.refreshTokens ∨ row.revokedAt.isSome ∨
      ∃ pres ∈ w.refreshTokens, pres.revokedAt = none ∧
        row.tenantId = pres.tenantId ∧ row.userId = pres.userId) :
    Severing server args resetArgs start { w with refreshTokens := tokens } := by
  refine ⟨h.calls, h.issued, h.changed, h.deleted, fun account hacc row hrow hhold => ?_, h.severed⟩
  rcases hfrom row hrow with hold | hrev | ⟨pres, hmem, hact, hten, huser⟩
  · exact h.revoked account hacc row hold hhold
  · exact hrev
  -- A token of the account that is not revoked would be needed to make this row.
  rw [hten, huser] at hhold
  have hrev := h.revoked account hacc pres hmem hhold
  rw [hact] at hrev
  exact nomatch hrev

lemma Severing.hub {hub : GatewayHub} {deferred : List Deferred}
    (hevery : ∀ account, w.reset = .answered account → w.hub.Every (Vouched server w account) →
      hub.Every (Vouched server w account)) :
    Severing server args resetArgs start { w with hub, deferred } :=
  ⟨h.calls, h.issued, h.changed, h.deleted, h.revoked, fun account hacc =>
    ⟨hevery account hacc (h.severed account hacc).1, (h.severed account hacc).2⟩⟩

lemma Severing.setCall [DecidableEq ι] (hsound : CallSound resetArgs w.reset (args i) c)
    (hupgrade : ∀ account, w.reset = .answered account → UpgradeVouched server w account c)
    (hopen : Open w i := by apply open_of_eq; assumption; nofun) :
    Severing server args resetArgs start (w.setCall i c) := by
  have hkeeps := keeps_setCall hopen c
  refine ⟨fun j => ?_, fun row hrow => ?_, h.changed, fun account hacc row hrow hhold => ?_,
    h.revoked, fun account hacc => ?_⟩
  · by_cases hj : j = i
    · subst hj
      simpa [setCall] using hsound
    · simpa [AuthWorld.setCall, Function.update_of_ne hj] using h.calls j
  · refine (h.issued row hrow).imp_right ?_
    rintro ⟨j, session, refresh, changed, hj, hrest⟩
    exact ⟨j, session, refresh, changed, hkeeps j _ _ _ hj, hrest⟩
  · exact (h.deleted account hacc row hrow hhold).mono hkeeps
  obtain ⟨hevery, hupgrades⟩ := h.severed account hacc
  refine ⟨every_vouched_mono hkeeps hevery, fun j => ?_⟩
  by_cases hj : j = i
  · subst hj
    simpa [setCall] using (hupgrade account hacc).mono hkeeps
  · simpa [AuthWorld.setCall, Function.update_of_ne hj] using (hupgrades j).mono hkeeps

lemma Severing.settle [DecidableEq ι] (hupgrade : ∀ account, UpgradeVouched server w account c)
    (hopen : Open w i := by apply open_of_eq; assumption; nofun)
    (hsigning : ∀ call, signingIn call c = none := by rintro ⟨⟩ <;> rfl)
    (hsess : sessionOf c = none := by rfl) :
    Severing server args resetArgs start (w.setCall i c) := by
  refine h.setCall ⟨fun tenantId userId hsome => ?_, fun session hsome => ?_⟩
    (fun account _ => hupgrade account) hopen
  · rw [hsigning] at hsome
    exact nomatch hsome
  · rw [hsess] at hsome
    exact nomatch hsome

lemma Severing.refuse [DecidableEq ι] (err : ServerError)
    (hopen : Open w i := by apply open_of_eq; assumption; nofun) :
    Severing server args resetArgs start (w.setCall i (.refused err)) :=
  h.settle (fun _ => trivial) hopen

/-! ### Sign-ins, refreshes and upgrades -/

section

variable (hguard : CleanReset server w (.call i fault))
include hguard

/-- **Step.** A session that is created for the account after its sessions were deleted comes from
a sign-in that verified after the change. -/
lemma severing_mintStep [DecidableEq ι] {session : CreateSessionInput}
    {refresh : Option String} {changed : Bool}
    (hcall : w.calls i = .minting session refresh changed) (nowMs : Int) :
    Severing server args resetArgs start
      (mintStep server w i fault session refresh changed nowMs) := by
  unfold mintStep
  split_ifs with hfault
  · exact h.refuse _
  split
  · exact h.refuse _
  next sessions stored hmake =>
    obtain ⟨_, hmem⟩ := SessionTable.mem_create hmake
    have hsound : CallSound resetArgs w.reset (args i)
        (.signedIn session refresh changed) := by
      have hpre := h.calls i
      rw [hcall] at hpre
      refine ⟨fun tenantId userId hsome => hpre.history tenantId userId ?_, hpre.drawn⟩
      cases hargs : args i <;> simpa [signingIn] using hsome
    have hset := h.setCall hsound fun _ _ => trivial
    refine ⟨hset.calls, fun row hrow => ?_, hset.changed,
      fun account hacc row hrow hhold => ?_, hset.revoked, hset.severed⟩
    · rcases (hmem row).mp hrow with hrow | rfl
      · exact hset.issued row hrow
      · exact .inr ⟨i, session, refresh, changed, Function.update_self _ _ _, rfl, rfl, rfl⟩
    · rcases (hmem row).mp hrow with hrow | rfl
      · exact hset.deleted account hacc row hrow hhold
      · cases changed with
        | false =>
          simp only [CleanReset, hcall] at hguard
          exact absurd hhold (hguard (by simpa using hfault) account hacc)
        | true =>
          refine ⟨i, ?_⟩
          simp [setCall, renews, SessionTable.newRow]

lemma severing_loginStep [DecidableEq ι]
    (hexact : server.accounts.hasher.VerifiesExactly server.accounts.crypto) {login : LoginArgs}
    (hargs : args i = .login login) :
    Severing server args resetArgs start (loginStep server w i fault login) := by
  unfold loginStep
  split
  next hidle =>
    split_ifs
    · exact h.refuse _
    have hver := fun account hacc => (h.changed account hacc).verifyPassword hexact
      login.tenantId login.identity login.password login.salt
    have haccounts := h.accounts fun account hacc => (hver account hacc).1
    dsimp only
    split
    · exact haccounts.refuse _
    next account hsome =>
      refine haccounts.setCall ⟨fun tenantId userId hholds => ?_, nofun⟩
        fun _ _ => trivial
      rw [hargs] at hholds ⊢
      simp only [signingIn, some.injEq, Prod.mk.injEq] at hholds
      obtain ⟨rfl, rfl, hchg⟩ := hholds
      obtain ⟨reset, hreset⟩ := isSome_iff_exists.mp hchg
      refine ⟨reset, hreset, fun hhold => ?_⟩
      have hten := tenantId_of_verifyPassword hsome
      exact (hver reset hreset).2 account hsome (hten.trans hhold.1) hhold.2
  next account changed hverified =>
    split_ifs
    · exact h.settle fun _ => trivial
    have hpre := h.calls i
    rw [hverified, hargs] at hpre
    refine h.setCall ⟨?_, ?_⟩ fun _ _ => trivial
    · rw [hargs]
      exact hpre.history
    · rw [hargs]
      rintro session hsess
      obtain rfl := some.inj hsess
      rfl
  next hminting => exact severing_mintStep h hguard hminting _
  · exact h

lemma severing_refreshStep [DecidableEq ι] {refresh : RefreshArgs}
    (hargs : args i = .refresh refresh) :
    Severing server args resetArgs start (refreshStep server w i fault refresh) := by
  unfold refreshStep
  split
  next hidle =>
    split_ifs
    · exact h.refuse _
    · exact h.refuse _
    split
    · exact h.refuse _
    next tokens hrot =>
      exact (h.refreshTokens (mem_rotate hrot).1).refuse _
    next tokens record hrot =>
      exact (h.refreshTokens (mem_rotate hrot).1).settle fun _ => trivial
  next record hrotated =>
    split_ifs
    · exact h.refuse _
    refine h.setCall ⟨fun tenantId userId hsome => ?_, ?_⟩ fun _ _ => trivial
    · rw [hargs] at hsome
      simp [signingIn] at hsome
    · rw [hargs]
      rintro session hsess
      obtain rfl := some.inj hsess
      rfl
  next hminting => exact severing_mintStep h hguard hminting _
  · exact h

end

lemma Severing.vouchedFor_resolved
    (hans : w.reset = .answered account) (nowMs : Int) {principal : Option Principal}
    (hprin : ∀ p ∈ principal,
      (server.principalFromAuthorizedSessionToken w.sessions token nowMs).2 = .ok p) :
    VouchedFor server w account principal (some token) := by
  intro p hp hhold
  have hdel : w.reset.deleted = some account := by
    rw [hans]
    rfl
  exact ⟨token, rfl, h.renewed_of_resolved hdel (hprin p hp) hhold⟩

lemma severing_upgradeStep [DecidableEq ι] (i : ι)
    (fault : Bool) (bearer : Option String) (nowMs : Int) :
    Severing server args resetArgs start (upgradeStep server w i fault bearer nowMs) := by
  unfold upgradeStep
  split
  next token hidle =>
    split_ifs
    · exact h.settle fun _ => vouchedFor_none _
    have hsess : Severing server args resetArgs start
        { w with
          sessions := (server.principalFromAuthorizedSessionToken w.sessions token nowMs).1 } :=
      h.sessions fun row hrow => server.mem_principalFromAuthorizedSessionToken hrow
    refine hsess.setCall ⟨?_, nofun⟩ fun account hans => ?_
    · cases args i <;> nofun
    refine h.vouchedFor_resolved hans nowMs fun p hp => ?_
    cases hresol : (server.principalFromAuthorizedSessionToken w.sessions token nowMs).2 with
    | error =>
      rw [hresol] at hp
      exact nomatch hp
    | ok =>
      rw [hresol] at hp
      rw [some.inj hp]
  next hidle =>
    exact h.settle fun _ => vouchedFor_none _
  next held principal hupgrading =>
    have hhub : Severing server args resetArgs start
        { w with hub := w.hub.runConnection server.gateway principal held } :=
      h.hub fun account hans hevery => by
        refine every_runConnection hevery _ ⟨?_, vouchedFor_none _⟩
        have hvouch := (h.severed account hans).2 i
        rwa [hupgrading] at hvouch
    exact hhub.settle fun _ => trivial
  · exact h

/-! ### The reset -/

lemma Severing.early (hpre : w.reset.changed = none)
    (hafter : reset.changed = none) (resetTokens : PasswordResetTable) :
    Severing server args resetArgs start { w with resetTokens, reset } := by
  refine ⟨fun i => ⟨fun tenantId userId hsome => ?_, (h.calls i).drawn⟩, h.issued, ?_, ?_, ?_, ?_⟩
  · obtain ⟨account, hacc, _⟩ := (h.calls i).history tenantId userId hsome
    rw [hpre] at hacc
    exact nomatch hacc
  · intro account hacc
    exact nomatch hafter.symm.trans hacc
  all_goals
    cases reset with
    | idle | consumed | refused => nofun
    | passwordSet | sessionsDeleted | tokensRevoked | answered => exact nomatch hafter

lemma Severing.advance {tokens : RefreshTokenTable} (hsame : w.reset.changed = reset.changed)
    (hdel : ∀ account, reset.deleted = some account → ∀ row ∈ w.sessions,
      IsHolder account row.tenantId row.userId → Renewed server w row.sessionTokenDigest)
    (hrev : ∀ account, reset.revoked = some account → ∀ row ∈ tokens,
      IsHolder account row.tenantId row.userId → row.revokedAt.isSome)
    (hsevered : ∀ account, reset = .answered account →
      w.hub.Every (Vouched server w account) ∧ ∀ i, UpgradeVouched server w account (w.calls i)) :
    Severing server args resetArgs start { w with reset, refreshTokens := tokens } := by
  refine ⟨fun i => ⟨?_, (h.calls i).drawn⟩, h.issued, ?_, hdel, hrev, hsevered⟩
  · rw [← hsame]
    exact (h.calls i).history
  · rw [← hsame]
    exact h.changed

lemma severing_resetStep (hexact : server.accounts.hasher.VerifiesExactly server.accounts.crypto)
    (hguard : CleanReset server w (.reset fault)) :
    Severing server args resetArgs start (resetStep server w fault resetArgs) := by
  unfold resetStep
  split
  next hreset =>
    have hpre : w.reset.changed = none := by
      rw [hreset]
      rfl
    split_ifs
    iterate 3 exact h.early hpre rfl _
    dsimp only
    split <;> exact h.early hpre rfl _
  next account hreset =>
    have hpre : w.reset.changed = none := by
      rw [hreset]
      rfl
    split_ifs
    · exact h.early hpre rfl _
    split
    next accounts hset =>
      refine ⟨fun i => ⟨fun tenantId userId hsome => ?_, (h.calls i).drawn⟩, h.issued, ?_, nofun,
        nofun, nofun⟩
      · obtain ⟨changed, hchg, _⟩ := (h.calls i).history tenantId userId hsome
        exact nomatch hpre.symm.trans hchg
      · rintro changed hchg
        obtain rfl := some.inj hchg
        exact accepts_setPassword hexact hset
    · exact h.early hpre rfl _
  next account hreset =>
    simp only [CleanReset, hreset] at hguard
    simp only [hguard]
    have hsess : Severing server args resetArgs start
        { w with
          sessions := (w.sessions.deleteForUser account.userId (some account.tenantId)).1 } :=
      h.sessions fun row hrow => ⟨row, (SessionTable.mem_deleteForUser hrow).1, rfl, rfl, rfl⟩
    refine hsess.advance (by rw [hreset]; rfl) ?_ nofun nofun
    intro deleted heq row hrow hhold
    obtain rfl := some.inj heq
    exact absurd ⟨hhold.2, hhold.1⟩ (SessionTable.mem_deleteForUser hrow).2
  next account hreset =>
    simp only [CleanReset, hreset] at hguard
    simp only [hguard]
    have hdel := h.deleted
    rw [hreset] at hdel
    refine h.advance (by rw [hreset]; rfl) hdel ?_ nofun
    intro revoked heq row hrow hhold
    obtain rfl := some.inj heq
    exact mem_revokeForUser hrow hhold.2 hhold.1
  next account hreset =>
    simp only [CleanReset, hreset] at hguard
    have hdel := h.deleted
    have hrev := h.revoked
    rw [hreset] at hdel hrev
    refine h.advance (by rw [hreset]; rfl) hdel hrev ?_
    intro answered heq
    obtain rfl := ResetStage.answered.inj heq
    exact hguard
  · exact h

/-! ### Connections -/

lemma Severing.readSession (token : String) (reply : StoreReply) :
    Severing server args resetArgs start
      { w with sessions := (readSession server w token reply).1 } := by
  unfold AuthWorld.readSession
  split_ifs
  · exact h
  · exact h.sessions fun row hrow => server.mem_principalFromAuthorizedSessionToken hrow

lemma severing_advanceStep (id : Nat) (reply : StoreReply) :
    Severing server args resetArgs start (advanceStep server w id reply) := by
  have hquiet : ∀ account, QuietStable (Vouched server w account) :=
    fun account => quietStable_vouched
  unfold advanceStep
  split
  · exact h
  next connection hfind =>
    obtain ⟨hmem, rfl⟩ := Table.find?_eq_some_iff.mp hfind
    split
    next payload _ =>
      split
      · exact h
      next token htoken =>
        refine (h.readSession token reply).hub fun account hans hevery => ?_
        refine every_modify hevery fun c hc _ hvouch => ⟨hvouch.1, ?_⟩
        cases hread : (readSession server w token reply).2 with
        | error => exact vouchedFor_none _
        | ok principal =>
          show VouchedFor server w account (some principal) payload.sessionToken
          rw [htoken]
          refine h.vouchedFor_resolved hans reply.nowMs fun p hp => ?_
          unfold readSession at hread
          split_ifs at hread
          rw [hread, some.inj hp]
    next payload authed htask =>
      split
      · exact h
      next token htoken =>
        refine h.hub fun account hans hevery => ?_
        refine every_resumeHello (hquiet account) hevery payload ?_
        rintro principal rfl
        have hheld := (hevery connection hmem).2
        rw [htask] at hheld
        refine ⟨?_, vouchedFor_none _⟩
        rwa [← htoken]
    next frame token _ _ =>
      refine (h.readSession token reply).hub fun account _ hevery => ?_
      exact every_setTask (hquiet account) hevery _ fun _ _ => nofun
    next frame active principal _ hprin =>
      refine h.hub fun account _ hevery => ?_
      refine every_resumeFrame (hquiet account) hevery frame ?_
      intro current _ hsame c hc hid
      obtain rfl := Table.eq_of_key_eq hc hmem hid
      obtain ⟨hvouch, hheld⟩ := hevery c hc
      refine ⟨fun p hp hhold => ?_, hheld⟩
      obtain rfl := some.inj hp
      simp only [samePrincipal, decide_eq_true_eq] at hsame
      refine hvouch principal hprin ?_
      rwa [hsame.1, hsame.2.2.2]
    · refine h.hub fun account _ hevery => ?_
      exact every_setTask (hquiet account) hevery _ fun _ _ => nofun
    · refine h.hub fun account _ hevery => ?_
      exact every_setTask_idle (hquiet account)
        (every_sendFrame hevery _ _) _
    · exact h.hub fun account _ hevery => every_unregister hevery _
    · exact h

/-- **Step.** Every step that meets the condition keeps the invariant. -/
theorem severing_step [DecidableEq ι]
    (hexact : server.accounts.hasher.VerifiesExactly server.accounts.crypto) {label : AuthLabel ι}
    (hguard : CleanReset server w label) :
    Severing server args resetArgs start (step server args resetArgs w label) := by
  cases label with
  | call i fault =>
    unfold step
    dsimp only
    split
    next hargs => exact severing_loginStep h hguard hexact hargs
    next hargs => exact severing_refreshStep h hguard hargs
    · exact severing_upgradeStep h i fault _ _
  | reset => exact severing_resetStep h hexact hguard
  | receive => exact h.hub fun account _ hevery => every_receive quietStable_vouched hevery _ _ _ _
  | advance id reply => exact severing_advanceStep h id reply
  | publish => exact h.hub fun account _ hevery => every_publish hevery _ _ _
  | deliver =>
    unfold step
    dsimp only
    split
    · exact h
    · refine h.hub fun account _ hevery => ?_
      split_ifs
      · exact every_sendFrame hevery _ _
      · exact hevery
  | disconnect => exact h.hub fun account _ hevery => every_unregister hevery _

/-! ## The result -/

variable (hstart : FreshStart server args start)
include hstart

/-- A renewed session is not an old one: the random tokens differ. -/
lemma Severing.not_old (hans : w.reset = .answered account)
    (hold : OldSession server args resetArgs start w account token)
    (hrenew : Renewed server w (server.digests.sessionTokenDigest token)) : False := by
  obtain ⟨j, hj⟩ := hrenew
  unfold renews at hj
  split at hj
  next session refresh hcall =>
    have hdigest : server.digests.sessionTokenDigest session.sessionToken =
        server.digests.sessionTokenDigest token := by simpa using hj
    have hsound := h.calls j
    rw [hcall] at hsound
    have hdrawn := h.drawn hcall
    rcases hold with ⟨row, hrow, hrowDigest, _⟩ | ⟨i, old, _, afterChange, hi, rfl, hhold, hstale⟩
    · exact hstart.unused j _ hdrawn row hrow (hrowDigest.trans hdigest.symm)
    have hsame := hstart.distinct i j _ _ (h.drawn hi) hdrawn hdigest.symm
    subst hsame
    obtain ⟨rfl, rfl, rfl⟩ := AuthCallState.signedIn.inj (hi.symm.trans hcall)
    obtain ⟨changed, hchg, hpresents⟩ := hsound.history _ _ (by cases args i <;> rfl)
    rw [hans] at hchg
    obtain rfl := some.inj hchg
    exact hstale.elim nofun fun hother => hother (hpresents hhold)
  · exact nomatch hj

lemma Severing.holder_of_old (hold : OldSession server args resetArgs start w account token)
    {row : SessionRow} (hrow : row ∈ w.sessions)
    (hdigest : row.sessionTokenDigest = server.digests.sessionTokenDigest token) :
    IsHolder account row.tenantId row.userId := by
  rcases h.issued row hrow with ⟨before, hpre, hsame, hten, huser⟩ |
    ⟨j, session, _, _, hj, hsame, hten, huser⟩
  · rw [hten, huser]
    rcases hold with ⟨first, hfirst, hfirstDigest, hhold⟩ | ⟨i, old, _, _, hi, rfl, _⟩
    · have hkey := hsame.symm.trans (hdigest.trans hfirstDigest.symm)
      obtain rfl := Table.eq_of_key_eq hpre hfirst hkey
      exact hhold
    · exact absurd (hsame.symm.trans hdigest) (hstart.unused i _ (h.drawn hi) before hpre)
  · rw [hten, huser]
    have hdigest' := hsame.symm.trans hdigest
    rcases hold with ⟨first, hfirst, hfirstDigest, _⟩ | ⟨i, old, _, _, hi, rfl, hhold, _⟩
    · exact absurd (hfirstDigest.trans hdigest'.symm) (hstart.unused j _ (h.drawn hj) first hfirst)
    · have heq := hstart.distinct j i _ _ (h.drawn hj) (h.drawn hi) hdigest'
      subst heq
      obtain ⟨rfl, _⟩ := AuthCallState.signedIn.inj (hi.symm.trans hj)
      exact hhold

end Severing

/-- **Every run.** If every step meets the condition, then from the moment the reset has answered
ok the account's old credentials are cut off. -/
theorem reset_cuts_off [DecidableEq ι] (server : AuthServer) (args : ι → AuthCall)
    (resetArgs : ResetArgs)
    (start : AuthWorld ι) (labels : List (AuthLabel ι)) (account : ConsumedResetToken)
    (hexact : server.accounts.hasher.VerifiesExactly server.accounts.crypto)
    (hstart : FreshStart server args start)
    (hguard : Guarded (step server args resetArgs) (CleanReset server) start labels)
    (hanswered : (run (step server args resetArgs) start labels).reset = .answered account) :
    CutOff server args resetArgs start (run (step server args resetArgs) start labels) account := by
  have h : Severing server args resetArgs start (run (step server args resetArgs) start labels) :=
    run_invariant (I := Severing server args resetArgs start)
      (fun w label hw hlabel => severing_step hw hexact hlabel) (severing_start hstart) hguard
  generalize run (step server args resetArgs) start labels = w at hanswered h
  have hdeleted : w.reset.deleted = some account := by
    rw [hanswered]
    rfl
  have hrevoked : w.reset.revoked = some account := by
    rw [hanswered]
    rfl
  refine ⟨fun token hold nowMs principal hresolved => ?_, ?_, ?_⟩
  · obtain ⟨row, hrow, hdigest, htenant, huser⟩ :=
      server.principalFromAuthorizedSessionToken_eq_ok hresolved
    have hholder := h.holder_of_old hstart hold hrow hdigest
    have hrenewed := h.deleted account hdeleted row hrow hholder
    rw [hdigest] at hrenewed
    exact h.not_old hstart hanswered hold hrenewed
  · intro token fresh ttlSeconds nowMs table record hrotate hholder
    obtain ⟨presented, hmem, hactive, htenant, huser⟩ :=
      (mem_rotate hrotate).2 record rfl
    rw [htenant, huser] at hholder
    have hsome := h.revoked account hrevoked presented hmem hholder
    rw [hactive] at hsome
    exact nomatch hsome
  · intro connection hconnection principal hprincipal hholder token htoken hold
    -- Nothing open as the account is left on an old session.
    obtain ⟨t, ht, hrenewed⟩ :=
      ((h.severed account hanswered).1 connection hconnection).1 principal hprincipal hholder
    obtain rfl := some.inj (htoken.symm.trans ht)
    exact absurd hrenewed (h.not_old hstart hanswered hold)

/-! ## Runs of a server with one account -/

def notesSchema : FrickSchema := { objects := [{ id := 1, name := "Note", fields := [] }] }

def notesGateway : GatewayConfig := .ofSchema notesSchema

def notesServer : AuthServer where
  accounts := ⟨.plain, defaultPasswordHasher⟩
  digests := .plain
  sessionTtlMs := 3600000
  archivedAt := fun _ => false
  authorizeSession := fun _ _ => .ok ()
  gateway := notesGateway

/-- An account with the password `old-password` and a reset token for it. -/
def notesStart (n : Nat) : AuthWorld (Fin n) where
  accounts :=
    ⟨[⟨"ada", "ada", "Ada", "", "argon2$$argon2id$v=19$m=19456,t=2,p=1$salt$old-password", "",
    "acme"⟩], by decide⟩
  sessions := Table.empty _
  refreshTokens := Table.empty _
  resetTokens := ⟨[⟨"reset", "acme", "ada", "2999-01-01T00:00:00.000Z", none⟩], by decide⟩
  calls := fun _ => .idle
  reset := .idle
  hub := .new
  deferred := []

def signIn (password token : String) : AuthCall :=
  .login ⟨"acme", "ada", password, "device", "replica", token, [], 0⟩

def notesReset : ResetArgs := ⟨"reset", "new-password", [], 2⟩

/-- A sign-in with the old password, one with the new password, and an upgrade on the second. -/
def orderlyCalls : Fin 3 → AuthCall
  | 0 => signIn "old-password" "token-0"
  | 1 => signIn "new-password" "token-1"
  | 2 => .upgrade (some "token-1") 3

/-- The old sign-in is over before the reset begins, the new one begins after it. -/
def orderlyRun : List (AuthLabel (Fin 3)) :=
  [.call 0 false, .call 0 false, .call 0 false,
    .reset false, .reset false, .reset false, .reset false, .reset false,
    .call 1 false, .call 1 false, .call 1 false, .call 2 false, .call 2 false]

lemma freshStart_notes {n : Nat} {args : Fin n → AuthCall}
    (hdist : ∀ i j, (args i).drawn.isSome → (args i).drawn = (args j).drawn → i = j) :
    FreshStart notesServer args (notesStart n) where
  calls := fun _ => rfl
  reset := rfl
  distinct := by
    intro i j token token' hi hj hdigest
    refine hdist i j (by rw [hi]; rfl) ?_
    rw [hi, hj]
    exact congrArg some hdigest
  unused := by
    intro i token _ row hrow
    exact nomatch hrow

theorem reset_cuts_off_orderly :
    CutOff notesServer orderlyCalls notesReset (notesStart 3)
      (run (step notesServer orderlyCalls notesReset) (notesStart 3) orderlyRun)
        ⟨"acme", "ada"⟩ := by
  have hrun : Guarded (step notesServer orderlyCalls notesReset) (CleanReset notesServer)
      (notesStart 3) orderlyRun ∧
      (run (step notesServer orderlyCalls notesReset) (notesStart 3) orderlyRun).reset =
        .answered ⟨"acme", "ada"⟩ := by decide +kernel
  exact reset_cuts_off notesServer orderlyCalls notesReset (notesStart 3) orderlyRun
    ⟨"acme", "ada"⟩ plain_verifiesExactly (freshStart_notes (by decide +kernel)) hrun.1 hrun.2

/-- Two sign-ins with the old password, and an upgrade on the first. -/
def lateCalls : Fin 3 → AuthCall
  | 0 => signIn "old-password" "token-0"
  | 1 => signIn "old-password" "token-1"
  | 2 => .upgrade (some "token-0") 1

/-- The first sign-in opens a connection and subscribes. The second verifies its password before
the reset and creates its session after the reset has answered. -/
def lateRun : List (AuthLabel (Fin 3)) :=
  [.call 0 false, .call 0 false, .call 0 false, .call 2 false, .call 2 false,
    .receive 1 (.hello ⟨"replica", "device", "", none, none⟩) 1,
    .receive 1 (.subscribe ⟨"notes", .object, "Note", none, none⟩) 1,
    .advance 1 {}, .advance 1 {}, .advance 1 {}, .advance 1 {},
    .call 1 false, .reset false, .reset false, .reset false, .reset false, .reset false,
    .call 1 false, .call 1 false]

def lateWorld : AuthWorld (Fin 3) :=
  run (step notesServer lateCalls notesReset) (notesStart 3) lateRun

/-- After the reset has answered, the session of the second sign-in is accepted, and an object that
is written is delivered on the connection of the first. -/
theorem old_credentials_outlive_reset :
    FreshStart notesServer lateCalls (notesStart 3) ∧ lateWorld.reset = .answered ⟨"acme", "ada"⟩ ∧
    (OldSession notesServer lateCalls notesReset (notesStart 3) lateWorld
      ⟨"acme", "ada"⟩ "token-1" ∧
      (notesServer.principalFromAuthorizedSessionToken lateWorld.sessions "token-1" 5).2 =
        .ok ⟨"ada", "device", "replica", "acme", .tenant, []⟩) ∧
    OldSession notesServer lateCalls notesReset (notesStart 3) lateWorld ⟨"acme", "ada"⟩ "token-0" ∧
    ∃ connection ∈ lateWorld.hub.connections.rows, connection.sessionToken = some "token-0" ∧
      ∃ next ∈ (step notesServer lateCalls notesReset lateWorld
        (.publish (.objectUpsert "acme" "_default" "Note" "n1" (.map []) none)
          5)).hub.connections.rows,
        next.id = connection.id ∧ published next ≠ published connection := by
  -- The run is evaluated once, for all the facts about its last state.
  have hlate : lateWorld.reset = .answered ⟨"acme", "ada"⟩ ∧
      (∀ i : Fin 3, i ≠ 2 → lateWorld.calls i = .signedIn (sessionInput notesServer
        ((lateCalls i).drawn.getD "") "acme" "ada" "device" "replica" 0) none false) ∧
      (notesServer.principalFromAuthorizedSessionToken lateWorld.sessions "token-1" 5).2 =
        .ok ⟨"ada", "device", "replica", "acme", .tenant, []⟩ ∧
      ∃ connection ∈ lateWorld.hub.connections.rows, connection.sessionToken = some "token-0" ∧
        ∃ next ∈ (step notesServer lateCalls notesReset lateWorld (.publish (.objectUpsert "acme"
          "_default" "Note" "n1" (.map []) none) 5)).hub.connections.rows,
          next.id = connection.id ∧ published next ≠ published connection := by decide +kernel
  obtain ⟨hreset, hcalls, haccepted, hdelivered⟩ := hlate
  have hold : ∀ i : Fin 3, i ≠ 2 →
      OldSession notesServer lateCalls notesReset (notesStart 3) lateWorld ⟨"acme", "ada"⟩
        ((lateCalls i).drawn.getD "") :=
    fun i hi => .inr ⟨i, _, none, false, hcalls i hi, rfl, ⟨rfl, rfl⟩, .inl rfl⟩
  exact ⟨freshStart_notes (by decide +kernel), hreset, ⟨hold 1 (by decide), haccepted⟩,
    hold 0 (by decide), hdelivered⟩

end Frick.Properties
