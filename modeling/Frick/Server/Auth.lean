import Frick.Server.Gateway
import Frick.Store.Account
import Frick.Store.Session

/-!
# Signing in, refreshing, resetting a password

`session.rs` resolves a session token to a principal. `auth_routes.rs` hands out session tokens
(`login`, `refresh`) and takes them away (`email_reset_password`). None of these routes is one
transaction: `login` verifies the password in one store call and creates the session in a later one,
and the reset consumes its token, sets the password, deletes the sessions and revokes the refresh
tokens in four.

`AuthWorld` is the shared state of any number of such calls, one password reset, and the gateway
with its connections; `step` performs one store call of one of them, or what a task does to the hub
after such a call.
-/

namespace Frick.Server

open Framework Protocol Store

/-- What the auth routes and the session gate read of the app state. `archivedAt` is the lookup in
the tenants store and `authorizeSession` the app's session-authorization hook. -/
structure AuthServer where
  accounts : AccountStore
  digests : TokenDigests
  sessionTtlMs : Int
  archivedAt : String → Bool
  authorizeSession : String → Principal → Except ServerError Unit
  gateway : GatewayConfig

/-! ## Sessions -/

namespace AuthServer

variable (server : AuthServer)

def isTenantArchived (tenantId : String) : Bool :=
  if tenantId = defaultTenantId then false
  else if hasArchivedPrefix tenantId then true
  else server.archivedAt tenantId

/-- `principal_from_active_session_token`, with the `last_seen_at` it writes. -/
def principalFromActiveSessionToken (sessions : SessionTable) (token : String) (nowMs : Int) :
    SessionTable × Except ServerError Principal :=
  let read := sessions.readActive server.digests token nowMs
  (read.1,
    match read.2, read.1.readAny server.digests token with
    | some session, _ =>
      if server.isTenantArchived session.tenantId then
        .error (.authentication "Tenant is archived")
      else .ok ⟨session.userId, session.deviceId, session.replicaId, session.tenantId, .tenant, []⟩
    | none, some _ => .error .sessionExpired
    | none, none => .error (.authentication "Invalid session"))

def principalFromAuthorizedSessionToken (sessions : SessionTable) (token : String) (nowMs : Int) :
    SessionTable × Except ServerError Principal :=
  let active := server.principalFromActiveSessionToken sessions token nowMs
  (active.1, do
    let principal ← active.2
    let _ ← server.authorizeSession token principal
    pure principal)

lemma mem_principalFromAuthorizedSessionToken {sessions : SessionTable} {token : String}
    {nowMs : Int} {row : SessionRow}
    (h : row ∈ (server.principalFromAuthorizedSessionToken sessions token nowMs).1) :
    ∃ before ∈ sessions, row.sessionTokenDigest = before.sessionTokenDigest ∧
      row.tenantId = before.tenantId ∧ row.userId = before.userId :=
  SessionTable.mem_readActive h

/-- A token is accepted only if it is the token of a session, and for that session's holder. -/
lemma principalFromAuthorizedSessionToken_eq_ok {sessions : SessionTable} {token : String}
    {nowMs : Int} {p : Principal}
    (h : (server.principalFromAuthorizedSessionToken sessions token nowMs).2 = .ok p) :
    ∃ row ∈ sessions, row.sessionTokenDigest = server.digests.sessionTokenDigest token ∧
      p.tenantId = row.tenantId ∧ p.userId = row.userId := by
  obtain ⟨active, hact, h⟩ := bind_eq_ok.mp h
  obtain ⟨_, _, h⟩ := bind_eq_ok.mp h
  obtain rfl := Except.ok.inj h
  unfold principalFromActiveSessionToken at hact
  dsimp only at hact
  split at hact
  next hread =>
    split_ifs at hact
    obtain rfl := Except.ok.inj hact
    exact SessionTable.readActive_eq_some hread
  · exact nomatch hact
  · exact nomatch hact

end AuthServer

/-! ## Calls -/

/-- A `login`: the body, and what the handler draws at random. `email_login` is the same call with
the normalised email as identity, under an app lifecycle that keeps the tenant. -/
structure LoginArgs where
  tenantId : String
  identity : String
  password : String
  deviceId : String
  replicaId : String
  token : String
  salt : Bytes
  nowMs : Int

/-- A `refresh`: the presented token, and what the handler draws. -/
structure RefreshArgs where
  presented : String
  fresh : String
  token : String
  nowMs : Int

/-- A call that hands out a session, or a WebSocket upgrade that presents one. -/
inductive AuthCall where
  | login (args : LoginArgs)
  | refresh (args : RefreshArgs)
  | upgrade (bearer : Option String) (nowMs : Int)

def AuthCall.drawn : AuthCall → Option String
  | .login args => some args.token
  | .refresh args => some args.token
  | .upgrade _ _ => none

/-- Where a call stands between two store calls. `afterChange` is history: whether the reset had
already changed the password when the login verified it. -/
inductive AuthCallState where
  /-- Not called yet. -/
  | idle
  /-- `login` before the registration lock. -/
  | verified (account : StoredAccount) (afterChange : Bool)
  /-- `refresh` before it looks the account up. -/
  | rotated (record : IssuedRefreshToken)
  /-- `mint_session` before `sessions().create`. -/
  | minting (session : CreateSessionInput) (refreshToken : Option String) (afterChange : Bool)
  /-- Answered with a session. -/
  | signedIn (session : CreateSessionInput) (refreshToken : Option String) (afterChange : Bool)
  /-- `upgrade` before `run_connection`. -/
  | upgrading (bearer : Option String) (principal : Option Principal)
  /-- The upgrade is done, with a connection or not. -/
  | upgraded
  /-- Answered with the registration-lock challenge. -/
  | challenged
  /-- Answered with an error. -/
  | refused (err : ServerError)
  deriving DecidableEq

/-- The body of `email_reset_password`, and what its hasher draws. -/
structure ResetArgs where
  token : String
  password : String
  salt : Bytes
  nowMs : Int

/-- Where `email_reset_password` stands. -/
inductive ResetStage where
  | idle
  /-- The token is consumed. -/
  | consumed (account : ConsumedResetToken)
  /-- `set_password` has returned true. -/
  | passwordSet (account : ConsumedResetToken)
  /-- `delete_for_user` has been called. -/
  | sessionsDeleted (account : ConsumedResetToken)
  /-- `revoke_for_user` has been called. -/
  | tokensRevoked (account : ConsumedResetToken)
  /-- Answered ok. -/
  | answered (account : ConsumedResetToken)
  /-- Answered with an error. -/
  | refused (err : ServerError)
  deriving DecidableEq

/-- The account whose password the reset has changed. -/
def ResetStage.changed : ResetStage → Option ConsumedResetToken
  | .passwordSet account | .sessionsDeleted account | .tokensRevoked account | .answered account =>
    some account
  | _ => none

/-- The account whose sessions the reset has been through. -/
def ResetStage.deleted : ResetStage → Option ConsumedResetToken
  | .sessionsDeleted account | .tokensRevoked account | .answered account => some account
  | _ => none

/-- The account whose refresh tokens the reset has been through. -/
def ResetStage.revoked : ResetStage → Option ConsumedResetToken
  | .tokensRevoked account | .answered account => some account
  | _ => none

def minEmailPasswordLength : Nat := 8

def invalidRefreshToken : ServerError := .authentication "invalid refresh token"

/-! ## The world -/

/-- The tables, the hub, the detached deliveries, and where every call stands. -/
structure AuthWorld (ι : Type) where
  accounts : AccountTable
  sessions : SessionTable
  refreshTokens : RefreshTokenTable
  resetTokens : PasswordResetTable
  calls : ι → AuthCallState
  reset : ResetStage
  hub : GatewayHub
  deferred : List GatewayHub.Deferred

/-- What the store answers to a connection's task. -/
structure StoreReply where
  failed : Bool := false
  nowMs : Int := 0
  answer : GatewayHub.SubscribeRead := {}

/-- One step of the world. -/
inductive AuthLabel (ι : Type) where
  /-- The next store call of a sign-in, a refresh or an upgrade; `fault` says that it fails, or that
  the registration lock stops the login. -/
  | call (i : ι) (fault : Bool)
  /-- The next store call of the reset. -/
  | reset (fault : Bool)
  /-- A frame arrives. -/
  | receive (id : Nat) (frame : FrickFrame) (nowMs : Int)
  /-- A connection's task goes on to its next await point. -/
  | advance (id : Nat) (reply : StoreReply)
  /-- Something is fanned out. -/
  | publish (publication : GatewayHub.Publication) (nowMs : Int)
  /-- A detached delivery is decided. -/
  | deliver (n : Nat) (allowed : Bool)
  /-- The socket closes. -/
  | disconnect (id : Nat)

namespace AuthWorld

variable {ι : Type} [DecidableEq ι]

def setCall (w : AuthWorld ι) (i : ι) (c : AuthCallState) : AuthWorld ι :=
  { w with calls := Function.update w.calls i c }

variable (server : AuthServer)

section

variable (w : AuthWorld ι) (i : ι) (fault : Bool)

/-- `mint_session` for the call `i`. -/
def mintStep (session : CreateSessionInput)
    (refreshToken : Option String) (afterChange : Bool) (nowMs : Int) : AuthWorld ι :=
  if fault then w.setCall i (.refused .internal)
  else match w.sessions.create server.digests session nowMs with
    | .error _ => w.setCall i (.refused .internal)
    | .ok (sessions, _) =>
      { w with sessions }.setCall i (.signedIn session refreshToken afterChange)

def sessionInput (token tenantId userId deviceId replicaId : String) (nowMs : Int) :
    CreateSessionInput :=
  ⟨token, tenantId, userId, deviceId, replicaId, isoFromEpochMs (nowMs + server.sessionTtlMs)⟩

/-- The next store call of `login`. -/
def loginStep (args : LoginArgs) : AuthWorld ι :=
  match w.calls i with
  | .idle =>
    if fault then w.setCall i (.refused (.authentication "Invalid credentials"))
    else
      let outcome := server.accounts.verifyPassword w.accounts args.tenantId args.identity
        args.password args.salt
      match outcome.2 with
      | none => { w with accounts := outcome.1 }.setCall i
          (.refused (.authentication "Invalid credentials"))
      | some account => { w with accounts := outcome.1 }.setCall i
          (.verified account w.reset.changed.isSome)
  | .verified account afterChange =>
    if fault then w.setCall i .challenged
    else w.setCall i (.minting (sessionInput server args.token args.tenantId account.userId
      args.deviceId args.replicaId args.nowMs) none afterChange)
  | .minting session refreshToken afterChange =>
    mintStep server w i fault session refreshToken afterChange args.nowMs
  | _ => w

def defaultRefreshTtlSeconds : Int := 30 * 24 * 60 * 60

/-- The next store call of `refresh`. -/
def refreshStep (args : RefreshArgs) : AuthWorld ι :=
  match w.calls i with
  | .idle =>
    if args.presented = "" then w.setCall i (.refused (.badRequest "refreshToken required"))
    else if fault then w.setCall i (.refused invalidRefreshToken)
    else match w.refreshTokens.rotate server.digests args.presented args.fresh
        defaultRefreshTtlSeconds args.nowMs with
      | .error _ => w.setCall i (.refused invalidRefreshToken)
      | .ok (tokens, none) =>
        { w with refreshTokens := tokens }.setCall i (.refused invalidRefreshToken)
      | .ok (tokens, some record) => { w with refreshTokens := tokens }.setCall i (.rotated record)
  | .rotated record =>
    if fault ∨ (w.accounts.readRowByIdentity record.tenantId record.userId).isNone then
      w.setCall i (.refused invalidRefreshToken)
    else w.setCall i (.minting (sessionInput server args.token record.tenantId record.userId
      record.deviceId record.replicaId args.nowMs) (some record.token) false)
  | .minting session refreshToken afterChange =>
    mintStep server w i fault session refreshToken afterChange args.nowMs
  | _ => w

/-- `upgrade`: an invalid bearer token is ignored. -/
def upgradeStep (bearer : Option String) (nowMs : Int) : AuthWorld ι :=
  match w.calls i, bearer with
  | .idle, some token =>
    if fault then w.setCall i (.upgrading (some token) none)
    else
      let resolved := server.principalFromAuthorizedSessionToken w.sessions token nowMs
      { w with sessions := resolved.1 }.setCall i (.upgrading (some token) resolved.2.toOption)
  | .idle, none => w.setCall i (.upgrading none none)
  | .upgrading bearer principal, _ =>
    { w with hub := w.hub.runConnection server.gateway principal bearer }.setCall i .upgraded
  | _, _ => w

/-- `email_reset_password`. The results of the last two store calls are discarded. -/
def resetStep (args : ResetArgs) : AuthWorld ι :=
  match w.reset with
  | .idle =>
    if args.token = "" then { w with reset := .refused (.badRequest "missing token") }
    else if args.password.length < minEmailPasswordLength then
      { w with reset := .refused (.badRequest "Password must be at least 8 characters.") }
    else if fault then { w with reset := .refused (.badRequest "invalid or expired token") }
    else
      let outcome := w.resetTokens.consume server.digests args.token args.nowMs
      match outcome.2 with
      | none =>
        { w with
          resetTokens := outcome.1
          reset := .refused (.badRequest "invalid or expired token") }
      | some account => { w with resetTokens := outcome.1, reset := .consumed account }
  | .consumed account =>
    if fault then { w with reset := .refused (.badRequest "account no longer exists") }
    else match server.accounts.setPassword w.accounts account.tenantId account.userId args.password
        args.salt with
      | .ok (accounts, true) => { w with accounts, reset := .passwordSet account }
      | _ => { w with reset := .refused (.badRequest "account no longer exists") }
  | .passwordSet account =>
    let deleted := w.sessions.deleteForUser account.userId (some account.tenantId)
    { w with
      sessions := if fault then w.sessions else deleted.1
      reset := .sessionsDeleted account }
  | .sessionsDeleted account =>
    { w with
      refreshTokens := if fault then w.refreshTokens
        else w.refreshTokens.revokeForUser account.userId (some account.tenantId) args.nowMs
      reset := .tokensRevoked account }
  | .tokensRevoked account => { w with reset := .answered account }
  | _ => w

/-- A session read by the task of a connection. -/
def readSession (token : String) (reply : StoreReply) :
    SessionTable × Except ServerError Principal :=
  if reply.failed then (w.sessions, .error .internal)
  else server.principalFromAuthorizedSessionToken w.sessions token reply.nowMs

/-- The task of a connection goes on. -/
def advanceStep (id : Nat) (reply : StoreReply) : AuthWorld ι :=
  match w.hub.connections.find? id with
  | none => w
  | some connection =>
    match connection.task, connection.principal, connection.sessionToken with
    | .hello payload, _, _ =>
      match payload.sessionToken with
      | none => w
      | some token =>
        let read := readSession server w token reply
        { w with
          sessions := read.1
          hub := w.hub.setTask id (.helloRead payload read.2) }
    | .helloRead payload authed, _, _ =>
      match payload.sessionToken with
      | none => w
      | some token =>
        { w with hub := w.hub.resumeHello server.gateway connection payload token authed }
    | .revalidate frame, _, some token =>
      let read := readSession server w token reply
      { w with
        sessions := read.1
        hub := w.hub.setTask id (.revalidated frame read.2) }
    | .revalidated frame active, some principal, _ =>
      { w with
        hub := w.hub.resumeFrame server.gateway connection frame principal (some active) }
    | .read payload _, _, _ =>
      let answer := if reply.failed then {} else reply.answer
      { w with
        hub := w.hub.setTask id (.reply (GatewayHub.subscribeReply server.gateway payload answer)) }
    | .reply frame, _, _ => { w with hub := (w.hub.sendFrame id frame).setTask id .idle }
    | .closing, _, _ => { w with hub := w.hub.unregister id }
    | _, _, _ => w

end

/-- One store call of a call or of the reset, or something that happens at the hub. -/
def step (args : ι → AuthCall) (resetArgs : ResetArgs) (w : AuthWorld ι) (label : AuthLabel ι) :
    AuthWorld ι :=
  match label with
  | .call i fault =>
    match args i with
    | .login loginArgs => loginStep server w i fault loginArgs
    | .refresh refreshArgs => refreshStep server w i fault refreshArgs
    | .upgrade bearer nowMs => upgradeStep server w i fault bearer nowMs
  | .reset fault => resetStep server w fault resetArgs
  | .receive id frame nowMs => { w with hub := w.hub.receive server.gateway id frame nowMs }
  | .advance id reply => advanceStep server w id reply
  | .publish publication nowMs =>
    let published := w.hub.publish server.gateway publication nowMs
    { w with hub := published.1, deferred := w.deferred ++ published.2 }
  | .deliver n allowed =>
    match w.deferred[n]? with
    | none => w
    | some delivery =>
      { w with
        hub := if allowed then w.hub.sendFrame delivery.connectionId delivery.frame else w.hub
        deferred := w.deferred.eraseIdx n }
  | .disconnect id => { w with hub := w.hub.unregister id }

end AuthWorld

end Frick.Server
