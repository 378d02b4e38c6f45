import Frick.Framework.Table
import Frick.Store.Basic

/-!
# Sessions, refresh tokens and password-reset tokens

`stores/session.rs`, `stores/refresh_token.rs` and `stores/password_reset.rs`. Each of the three
tables is keyed by a SHA-256 digest of an opaque token; the token itself is never stored. The digest
is a parameter, and so is every random token: the caller draws it.

A session or a refresh token names its holder, the pair of a tenant and a user.
-/

namespace Frick.Store

open Framework Table

/-- SHA-256 of a token: `session_token_digest` in hex, `hash_token` in base64url. -/
structure TokenDigests where
  sessionTokenDigest : String → String
  hashToken : String → String

/-- Tokens stored as they are, for evaluating the model. -/
def TokenDigests.plain : TokenDigests := ⟨id, id⟩

/-- `Date.parse(expires_at) <= now`, false for a text that does not parse. -/
def isExpired (expiresAt : String) (nowMs : Int) : Bool :=
  match parseIsoMs expiresAt with
  | some expiresMs => expiresMs ≤ nowMs
  | none => false

/-! ## Sessions -/

structure SessionRow where
  sessionTokenDigest : String
  tenantId : String
  userId : String
  deviceId : String
  replicaId : String
  expiresAt : String
  createdAt : String
  lastSeenAt : String
  deriving Repr

abbrev SessionTable := Table SessionRow.sessionTokenDigest

structure CreateSessionInput where
  sessionToken : String
  tenantId : String
  userId : String
  deviceId : String
  replicaId : String
  expiresAt : String
  deriving Repr, DecidableEq

structure StoredSession extends CreateSessionInput where
  createdAt : String
  lastSeenAt : String
  deriving Repr

/-- `from_row_with_last_seen`. -/
def SessionRow.stored (row : SessionRow) (sessionToken lastSeenAt : String) : StoredSession :=
  ⟨⟨sessionToken, row.tenantId, row.userId, row.deviceId, row.replicaId, row.expiresAt⟩,
    row.createdAt, lastSeenAt⟩

namespace SessionTable

section

variable (t : SessionTable) (digests : TokenDigests)

/-- The `INSERT` of `create`. -/
def newRow (input : CreateSessionInput) (nowMs : Int) : SessionRow :=
  ⟨digests.sessionTokenDigest input.sessionToken, input.tenantId, input.userId, input.deviceId,
    input.replicaId, input.expiresAt, isoFromEpochMs nowMs, isoFromEpochMs nowMs⟩

def create (input : CreateSessionInput) (nowMs : Int) :
    Except StoreError (SessionTable × StoredSession) :=
  match t.insert (newRow digests input nowMs) with
  | some t' => .ok (t', ⟨input, isoFromEpochMs nowMs, isoFromEpochMs nowMs⟩)
  | none => .error (.driver "UNIQUE constraint failed: auth_sessions.session_token_digest")

/-- The column `read_active` writes. -/
def seenAt (now : String) (row : SessionRow) : SessionRow := { row with lastSeenAt := now }

lemma seenAt_digest (now : String) (row : SessionRow) :
    (seenAt now row).sessionTokenDigest = row.sessionTokenDigest := rfl

/-- `read_active`, which writes `last_seen_at` on every hit. -/
def readActive (sessionToken : String) (nowMs : Int) : SessionTable × Option StoredSession :=
  let digest := digests.sessionTokenDigest sessionToken
  match t.find? digest with
  | none => (t, none)
  | some row =>
    if isExpired row.expiresAt nowMs then (t, none)
    else
      let now := isoFromEpochMs nowMs
      (t.updateWhere (fun row => row.sessionTokenDigest = digest) (seenAt now) (seenAt_digest now),
        some (row.stored sessionToken now))

def readAny (sessionToken : String) : Option StoredSession :=
  (t.find? (digests.sessionTokenDigest sessionToken)).map fun row =>
    row.stored sessionToken row.lastSeenAt

/-- The `WHERE` clause of `delete_for_user`; without a tenant it spans all of them. -/
def heldBy (userId : String) (tenantId : Option String) (row : SessionRow) : Bool :=
  row.userId = userId ∧ (tenantId = none ∨ tenantId = some row.tenantId)

def deleteForUser (userId : String) (tenantId : Option String) : SessionTable × Nat :=
  (t.deleteWhere (heldBy userId tenantId), t.rows.countP (heldBy userId tenantId))

end

/-! ### Where the rows come from -/

variable {t t' : SessionTable} {digests : TokenDigests} {row : SessionRow}

variable {nowMs : Int} {session : StoredSession} {sessionToken : String}

lemma mem_create {input : CreateSessionInput}
    (h : t.create digests input nowMs = .ok (t', session)) : session.toCreateSessionInput = input ∧
      ∀ row, row ∈ t' ↔ row ∈ t ∨ row = newRow digests input nowMs := by
  unfold create at h
  split at h
  next hins =>
    obtain ⟨rfl, rfl⟩ := Prod.mk.inj (Except.ok.inj h)
    exact ⟨rfl, fun row => mem_of_insert hins⟩
  · exact nomatch h

lemma mem_readActive (h : row ∈ (t.readActive digests sessionToken nowMs).1) :
    ∃ before ∈ t, row.sessionTokenDigest = before.sessionTokenDigest ∧
      row.tenantId = before.tenantId ∧ row.userId = before.userId := by
  unfold readActive at h
  dsimp only at h
  split at h
  · exact ⟨row, h, rfl, rfl, rfl⟩
  split_ifs at h
  · exact ⟨row, h, rfl, rfl, rfl⟩
  obtain ⟨before, hpre, hrow⟩ :=
    (mem_updateWhere (seenAt_digest (isoFromEpochMs nowMs))).mp h
  refine ⟨before, hpre, ?_⟩
  by_cases hhit : before.sessionTokenDigest = digests.sessionTokenDigest sessionToken
  · simp [hrow, hhit, seenAt]
  · simp [hrow, hhit]

lemma readActive_eq_some (h : (t.readActive digests sessionToken nowMs).2 = some session) :
    ∃ row ∈ t, row.sessionTokenDigest = digests.sessionTokenDigest sessionToken ∧
      session.tenantId = row.tenantId ∧ session.userId = row.userId := by
  unfold readActive at h
  dsimp only at h
  split at h
  · exact nomatch h
  next row hrow =>
    split_ifs at h
    obtain rfl := Option.some.inj h
    obtain ⟨hmem, hkey⟩ := find?_eq_some_iff.mp hrow
    exact ⟨row, hmem, hkey, rfl, rfl⟩

lemma mem_deleteForUser {userId tenantId : String}
    (h : row ∈ (t.deleteForUser userId (some tenantId)).1) :
    row ∈ t ∧ ¬(row.userId = userId ∧ row.tenantId = tenantId) := by
  obtain ⟨hmem, hkept⟩ := mem_deleteWhere.mp h
  refine ⟨hmem, fun ⟨huser, hten⟩ => ?_⟩
  simp [heldBy, huser, hten] at hkept

end SessionTable

/-! ## Refresh tokens -/

structure RefreshTokenRow where
  tokenHash : String
  tenantId : String
  userId : String
  deviceId : String
  replicaId : String
  createdAt : String
  expiresAt : String
  revokedAt : Option String
  familyId : Option String
  deriving Repr, DecidableEq

abbrev RefreshTokenTable := Table RefreshTokenRow.tokenHash

structure IssuedRefreshToken where
  token : String
  tenantId : String
  userId : String
  deviceId : String
  replicaId : String
  expiresAt : String
  deriving Repr, DecidableEq

structure RefreshTokenRecord where
  tenantId : String
  userId : String
  deviceId : String
  replicaId : String
  expiresAt : String
  deriving Repr

namespace RefreshTokenTable

def issuedRow (digests : TokenDigests) (token familyId tenantId userId deviceId replicaId : String)
    (ttlSeconds nowMs : Int) : RefreshTokenRow :=
  ⟨digests.hashToken token, tenantId, userId, deviceId, replicaId, isoFromEpochMs nowMs,
    isoFromEpochMs (nowMs + ttlSeconds * 1000), none, some familyId⟩

def issue (t : RefreshTokenTable) (digests : TokenDigests)
    (token familyId tenantId userId deviceId replicaId : String) (ttlSeconds nowMs : Int) :
    Except StoreError (RefreshTokenTable × IssuedRefreshToken) :=
  let row := issuedRow digests token familyId tenantId userId deviceId replicaId ttlSeconds nowMs
  match t.insert row with
  | none => .error (.driver "UNIQUE constraint failed: auth_refresh_tokens.token_hash")
  | some t' => .ok (t', ⟨token, tenantId, userId, deviceId, replicaId, row.expiresAt⟩)

def readActive (t : RefreshTokenTable) (digests : TokenDigests) (token : String) (nowMs : Int) :
    Option RefreshTokenRecord :=
  match t.find? (digests.hashToken token) with
  | none => none
  | some row =>
    if row.revokedAt.isSome then none
    else if isExpired row.expiresAt nowMs then none
    else some ⟨row.tenantId, row.userId, row.deviceId, row.replicaId, row.expiresAt⟩

/-- `SET revoked_at`. -/
def revokedOn (now : String) (row : RefreshTokenRow) : RefreshTokenRow :=
  { row with revokedAt := some now }

lemma revokedOn_tokenHash (now : String) (row : RefreshTokenRow) :
    (revokedOn now row).tokenHash = row.tokenHash := rfl

/-- `UPDATE auth_refresh_tokens SET revoked_at = ? WHERE p`. -/
def revokeWhere (t : RefreshTokenTable) (now : String) (p : RefreshTokenRow → Bool) :
    RefreshTokenTable :=
  t.updateWhere p (revokedOn now) (revokedOn_tokenHash now)

/-- The reuse branch of `rotate`: burn what is left of the family. -/
def burnFamily (t : RefreshTokenTable) (now : String) : Option String → RefreshTokenTable
  | none => t
  | some family => t.revokeWhere now fun row => row.familyId = some family ∧ row.revokedAt = none

/-- The row `rotate` inserts for the fresh token. -/
def successor (digests : TokenDigests) (presented : RefreshTokenRow) (freshToken : String)
    (ttlSeconds nowMs : Int) : RefreshTokenRow :=
  ⟨digests.hashToken freshToken, presented.tenantId, presented.userId, presented.deviceId,
    presented.replicaId, isoFromEpochMs nowMs, isoFromEpochMs (nowMs + ttlSeconds * 1000), none,
    presented.familyId⟩

/-- `rotate`, one transaction. -/
def rotate (t : RefreshTokenTable) (digests : TokenDigests) (token freshToken : String)
    (ttlSeconds nowMs : Int) : Except StoreError (RefreshTokenTable × Option IssuedRefreshToken) :=
  let presentedHash := digests.hashToken token
  let now := isoFromEpochMs nowMs
  match t.find? presentedHash with
  | none => .ok (t, none)
  | some row =>
    if row.revokedAt.isSome then .ok (t.burnFamily now row.familyId, none)
    else if isExpired row.expiresAt nowMs then .ok (t, none)
    else
      let fresh := successor digests row freshToken ttlSeconds nowMs
      match (t.revokeWhere now fun row => row.tokenHash = presentedHash).insert fresh with
      | none => .error (.driver "UNIQUE constraint failed: auth_refresh_tokens.token_hash")
      | some t' => .ok (t', some ⟨freshToken, row.tenantId, row.userId, row.deviceId,
          row.replicaId, fresh.expiresAt⟩)

/-- `revoke`: also whether an active row was revoked. -/
def revoke (t : RefreshTokenTable) (digests : TokenDigests) (token : String) (nowMs : Int) :
    RefreshTokenTable × Bool :=
  let doomed : RefreshTokenRow → Bool := fun row =>
    row.tokenHash = digests.hashToken token ∧ row.revokedAt = none
  (t.revokeWhere (isoFromEpochMs nowMs) doomed, t.rows.any doomed)

/-- `purge_expired`: also how many rows it removed. -/
def purgeExpired (t : RefreshTokenTable) (nowMs : Int) : RefreshTokenTable × Nat :=
  let doomed : RefreshTokenRow → Bool := fun row => row.expiresAt < isoFromEpochMs nowMs
  (t.deleteWhere doomed, t.rows.countP doomed)

/-- `revoke_for_user`, with a tenant or without. -/
def revokeForUser (t : RefreshTokenTable) (userId : String) (tenantId : Option String)
    (nowMs : Int) : RefreshTokenTable :=
  t.revokeWhere (isoFromEpochMs nowMs) fun row =>
    row.userId = userId ∧ (tenantId = none ∨ tenantId = some row.tenantId) ∧ row.revokedAt = none

/-! ### Where the rows come from -/

variable {t t' : RefreshTokenTable} {digests : TokenDigests} {row : RefreshTokenRow}

variable {now freshToken token : String} {p : RefreshTokenRow → Bool} {nowMs ttlSeconds : Int}
  {issued : Option IssuedRefreshToken}

section

variable (h : row ∈ t.revokeWhere now p)
include h

lemma revokeWhere_mem : ∃ old ∈ t, row = old ∨ row = revokedOn now old := by
  obtain ⟨old, hold, rfl⟩ := (mem_updateWhere (revokedOn_tokenHash now)).mp h
  refine ⟨old, hold, ?_⟩
  split_ifs
  · exact .inr rfl
  · exact .inl rfl

lemma mem_revokeWhere : row ∈ t ∨ row.revokedAt.isSome := by
  obtain ⟨old, hold, rfl | rfl⟩ := revokeWhere_mem h
  · exact .inl hold
  · exact .inr rfl

lemma revokedAt_of_mem_revokeWhere (hp : p row) : row.revokedAt.isSome := by
  obtain ⟨old, hold, hrow⟩ := (mem_updateWhere (revokedOn_tokenHash now)).mp h
  split_ifs at hrow with hmatch
  · rw [hrow]
    rfl
  · rw [← hrow] at hmatch
    exact absurd hp hmatch

end

/-- **What `rotate` does.** It finds no row; it finds a revoked one and burns the family; it finds
an expired one; or it revokes the row and stores the successor. -/
lemma rotate_cases (h : t.rotate digests token freshToken ttlSeconds nowMs = .ok (t', issued)) :
    (t' = t ∧ issued = none) ∨
      (∃ row ∈ t, row.tokenHash = digests.hashToken token ∧ row.revokedAt.isSome ∧
        t' = t.burnFamily (isoFromEpochMs nowMs) row.familyId ∧ issued = none) ∨
      ∃ row ∈ t, row.tokenHash = digests.hashToken token ∧ row.revokedAt = none ∧
        issued = some ⟨freshToken, row.tenantId, row.userId, row.deviceId, row.replicaId,
          (successor digests row freshToken ttlSeconds nowMs).expiresAt⟩ ∧
        (t.revokeWhere (isoFromEpochMs nowMs) fun row =>
          row.tokenHash = digests.hashToken token).insert
            (successor digests row freshToken ttlSeconds nowMs) = some t' := by
  unfold rotate at h
  dsimp only at h
  cases hfind : t.find? (digests.hashToken token) with
  | none =>
    rw [hfind] at h
    obtain ⟨rfl, rfl⟩ := Prod.mk.inj (Except.ok.inj h)
    exact .inl ⟨rfl, rfl⟩
  | some row =>
    obtain ⟨hmem, hkey⟩ := find?_eq_some_iff.mp hfind
    rw [hfind] at h
    dsimp only at h
    split_ifs at h with hrev hexp
    · obtain ⟨rfl, rfl⟩ := Prod.mk.inj (Except.ok.inj h)
      exact .inr (.inl ⟨row, hmem, hkey, hrev, rfl, rfl⟩)
    · obtain ⟨rfl, rfl⟩ := Prod.mk.inj (Except.ok.inj h)
      exact .inl ⟨rfl, rfl⟩
    split at h
    · cases h
    next inserted hins =>
      obtain ⟨rfl, rfl⟩ := Prod.mk.inj (Except.ok.inj h)
      exact .inr (.inr ⟨row, hmem, hkey, by simpa using hrev, rfl, hins⟩)

section

variable (h : ∀ row ∈ t, row.tokenHash = digests.hashToken token → row.revokedAt.isSome = true)
include h

lemma rotate_of_revoked (freshToken : String) (ttlSeconds nowMs : Int) :
    ∃ t', t.rotate digests token freshToken ttlSeconds nowMs = .ok (t', none) := by
  unfold rotate
  dsimp only
  cases hfind : t.find? (digests.hashToken token) with
  | none => exact ⟨t, rfl⟩
  | some row =>
    obtain ⟨hmem, hkey⟩ := find?_eq_some_iff.mp hfind
    dsimp only
    rw [if_pos (h row hmem hkey)]
    exact ⟨_, rfl⟩

lemma readActive_of_revoked (nowMs : Int) : t.readActive digests token nowMs = none := by
  unfold readActive
  cases hfind : t.find? (digests.hashToken token) with
  | none => rfl
  | some row =>
    obtain ⟨hmem, hkey⟩ := find?_eq_some_iff.mp hfind
    dsimp only
    rw [if_pos (h row hmem hkey)]

end

/-- After a rotation a row is an old row, or revoked, or the successor of a row that was not
revoked; and a token is issued only to the holder of such a row. -/
lemma mem_rotate (h : t.rotate digests token freshToken ttlSeconds nowMs = .ok (t', issued)) :
    (∀ row ∈ t', row ∈ t ∨ row.revokedAt.isSome ∨ ∃ pres ∈ t, pres.revokedAt = none ∧
      row.tenantId = pres.tenantId ∧ row.userId = pres.userId) ∧
    ∀ record, issued = some record → ∃ pres ∈ t, pres.revokedAt = none ∧
      record.tenantId = pres.tenantId ∧ record.userId = pres.userId := by
  rcases rotate_cases h with ⟨rfl, rfl⟩ | ⟨pres, _, _, _, rfl, rfl⟩ |
    ⟨pres, hmem, _, hact, rfl, hins⟩
  · exact ⟨fun row hrow => .inl hrow, nofun⟩
  · refine ⟨fun row hrow => ?_, nofun⟩
    unfold burnFamily at hrow
    split at hrow
    · exact .inl hrow
    · exact (mem_revokeWhere hrow).imp_right .inl
  · refine ⟨fun row hrow => ?_, fun record hrecord => ?_⟩
    · rcases (mem_of_insert hins).mp hrow with hrow | rfl
      · exact (mem_revokeWhere hrow).imp_right .inl
      · exact .inr (.inr ⟨pres, hmem, hact, rfl, rfl⟩)
    · obtain rfl := Option.some.inj hrecord
      exact ⟨pres, hmem, hact, rfl, rfl⟩

lemma mem_revokeForUser {userId tenantId : String}
    (h : row ∈ t.revokeForUser userId (some tenantId) nowMs) (huser : row.userId = userId)
    (hten : row.tenantId = tenantId) : row.revokedAt.isSome := by
  cases hrev : row.revokedAt with
  | none =>
    rw [← hrev]
    exact revokedAt_of_mem_revokeWhere h (decide_eq_true ⟨huser, .inr (by rw [hten]), hrev⟩)
  | some => rfl

end RefreshTokenTable

/-! ## Password-reset tokens -/

/-- A row of `auth_password_reset_tokens`. -/
structure PasswordResetRow where
  tokenHash : String
  tenantId : String
  userId : String
  expiresAt : String
  consumedAt : Option String
  deriving Repr

/-- `auth_password_reset_tokens`. -/
abbrev PasswordResetTable := Table PasswordResetRow.tokenHash

/-- `ConsumedResetTokenRow`: the account a reset token was issued for. -/
structure ConsumedResetToken where
  tenantId : String
  userId : String
  deriving Repr, DecidableEq

namespace PasswordResetTable

/-- `SET consumed_at`. -/
def consumedOn (now : String) (row : PasswordResetRow) : PasswordResetRow :=
  { row with consumedAt := some now }

lemma consumedOn_tokenHash (now : String) (row : PasswordResetRow) :
    (consumedOn now row).tokenHash = row.tokenHash := rfl

/-- `consume`, one transaction. The expiry is compared as text. -/
def consume (t : PasswordResetTable) (digests : TokenDigests) (token : String) (nowMs : Int) :
    PasswordResetTable × Option ConsumedResetToken :=
  let tokenHash := digests.hashToken token
  let now := isoFromEpochMs nowMs
  match t.find? tokenHash with
  | none => (t, none)
  | some row =>
    if row.consumedAt.isSome ∨ row.expiresAt < now then (t, none)
    else (t.updateWhere (fun row => row.tokenHash = tokenHash) (consumedOn now)
      (consumedOn_tokenHash now), some ⟨row.tenantId, row.userId⟩)

end PasswordResetTable

end Frick.Store
