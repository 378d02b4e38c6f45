import Frick.Framework.Run

/-!
# The registration lock

`stores/reglock.rs`, and `check_registration_lock` of `auth_reglock.rs`. A login with the right
password has to come with the verifier of a recovery PIN. Wrong verifiers are counted, and from the
third one on each of them closes the lock for a while.

A check is a sequence of statements on the row of the lock, and other checks go on between them:
`step` performs the next statement of one of many. The row is there, and no statement fails.
-/

namespace Frick.Server

def lockoutThreshold : Nat := 3

def lockoutMaxSeconds : Nat := 3600

def lockoutWaitSeconds (failures : Nat) : Nat :=
  if failures < lockoutThreshold then 0
  else if 12 ≤ failures - lockoutThreshold then lockoutMaxSeconds
  else min (2 ^ (failures - lockoutThreshold)) lockoutMaxSeconds

lemma lockoutWaitSeconds_eq {failures : Nat} (h : 3 ≤ failures) :
    lockoutWaitSeconds failures = min (2 ^ (failures - 3)) 3600 := by
  rw [lockoutWaitSeconds, lockoutThreshold, lockoutMaxSeconds, if_neg (by omega)]
  split_ifs with hlong
  · have hpow : 2 ^ 12 ≤ 2 ^ (failures - 3) := Nat.pow_le_pow_right (by omega) hlong
    omega
  · rfl

/-- `RegistrationLockRecord`, without its keys and its time stamp. -/
structure RegistrationLockRecord where
  verifierHash : String
  salt : String
  enabled : Bool
  failedAttempts : Nat
  lockedUntilMs : Int
  lastActivityMs : Int
  deriving Repr, DecidableEq

inductive ChallengeReason where
  | rateLimited | pinRequired | pinIncorrect
  deriving Repr, DecidableEq

/-- The login goes on, or it is answered with a `challenge_response`. -/
inductive LockOutcome where
  | passed
  | challenge (reason : ChallengeReason) (salt : String) (failedAttempts : Nat)
      (retryAfterSeconds : Int)
  deriving Repr, DecidableEq

structure LockCheck where
  submittedVerifier : Option String
  nowMs : Int

/-- Where a check stands, with the record it has read and the verifier it will compare. -/
inductive CheckStage where
  | waiting
  | verifying (record : RegistrationLockRecord) (verifier : String)
  | succeeding
  | failing (record : RegistrationLockRecord)
  | counting (record : RegistrationLockRecord) (failures : Nat)
  | rereading (record : RegistrationLockRecord)
  | ended (outcome : LockOutcome)
  deriving Repr, DecidableEq

def secondsUntil (untilMs nowMs : Int) : Int :=
  if untilMs - nowMs ≤ 0 then 0 else (untilMs - nowMs + 999) / 1000

/-- The hash of verifiers, and how long a lock outlives the last activity. -/
structure LockServer where
  hashVerifier : String → String
  reglockExpirySeconds : Int

/-- The lock and the checks. `comparisons` has the times of the checks that compared their verifier,
latest first. -/
structure LockWorld (ι : Type) where
  lock : RegistrationLockRecord
  stage : ι → CheckStage
  comparisons : List Int

namespace LockServer

variable (server : LockServer)

def firstRead (check : LockCheck) (record : RegistrationLockRecord) : CheckStage :=
  if record.enabled = false ∨
      server.reglockExpirySeconds * 1000 ≤ check.nowMs - record.lastActivityMs then .ended .passed
  else if check.nowMs < record.lockedUntilMs then
    .ended (.challenge .rateLimited record.salt record.failedAttempts
      (secondsUntil record.lockedUntilMs check.nowMs))
  else
    match check.submittedVerifier.filter fun verifier => verifier ≠ "" with
    | none => .ended (.challenge .pinRequired record.salt record.failedAttempts 0)
    | some verifier => .verifying record verifier

/-- The row that `register_failure` stores. -/
def registerFailure (lock : RegistrationLockRecord) (failures : Nat) (nowMs : Int) :
    RegistrationLockRecord :=
  { lock with
    failedAttempts := failures
    lockedUntilMs :=
      if 0 < lockoutWaitSeconds failures then nowMs + lockoutWaitSeconds failures * 1000 else 0 }

variable {ι : Type} [DecidableEq ι]

/-- The next statement of check `i`. -/
def step (checks : ι → LockCheck) (w : LockWorld ι) (i : ι) : LockWorld ι :=
  let now := (checks i).nowMs
  let goto := Function.update w.stage i
  match w.stage i with
  | .waiting => { w with stage := goto (server.firstRead (checks i) w.lock) }
  | .verifying record verifier =>
    { w with
      stage := goto (if server.hashVerifier verifier = w.lock.verifierHash then .succeeding
        else .failing record)
      comparisons := now :: w.comparisons }
  -- `register_success`.
  | .succeeding =>
    { w with
      lock := { w.lock with failedAttempts := 0, lockedUntilMs := 0, lastActivityMs := now }
      stage := goto (.ended .passed) }
  -- `register_failure`: a read, an `UPDATE` and another read.
  | .failing record => { w with stage := goto (.counting record (w.lock.failedAttempts + 1)) }
  | .counting record failures =>
    { w with lock := registerFailure w.lock failures now, stage := goto (.rereading record) }
  | .rereading record =>
    { w with
      stage := goto (.ended (.challenge .pinIncorrect record.salt w.lock.failedAttempts
        (secondsUntil w.lock.lockedUntilMs now))) }
  | .ended _ => w

end LockServer

end Frick.Server
