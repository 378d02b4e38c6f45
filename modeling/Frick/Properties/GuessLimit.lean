import Mathlib.Data.Fintype.Basic
import Frick.Server.RegistrationLock

/-!
# Guessing at a registration lock

Wrong verifiers should all be counted, and the lock should keep the next one waiting. But the lock
is looked at, the verifier is compared, and the count is read and stored, in separate statements:
checks that run in parallel are all let in by the same count, and all store the same next one.
-/

namespace Frick.Properties

open Function Framework Server

/-- After the `k`-th comparison, with `3 ≤ k`, the others are `min (2 ^ (k - 3)) 3600` seconds
later. The latest comes first. -/
def Spaced (comparisons : List Int) : Prop :=
  ∀ (later : List Int) time before, comparisons = later ++ time :: before →
    3 ≤ before.length + 1 →
      ∀ next ∈ later, time + (min (2 ^ (before.length + 1 - 3)) 3600 : Nat) * 1000 ≤ next

/-- A check is between its first read and its `UPDATE`. -/
def Guessing : CheckStage → Prop
  | .verifying _ _ | .succeeding | .failing _ | .counting _ _ => True
  | .waiting | .rereading _ | .ended _ => False

instance : DecidablePred Guessing
  | .verifying _ _ | .succeeding | .failing _ | .counting _ _ => isTrue trivial
  | .waiting | .rereading _ | .ended _ => isFalse id

/-- The first read of a check finds none between its first read and its `UPDATE`. -/
def InTurn {ι : Type} (w : LockWorld ι) (i : ι) : Prop :=
  w.stage i = .waiting → ∀ j, ¬Guessing (w.stage j)

instance {ι : Type} [Fintype ι] (w : LockWorld ι) (i : ι) : Decidable (InTurn w i) :=
  inferInstanceAs (Decidable (_ → _))

/-! ## The invariant -/

section AllCounted

variable (lock : RegistrationLockRecord) (comparisons : List Int)

/-- Every comparison is counted, and the lock is closed for as long as the last one asks. -/
def AllCounted : Prop :=
  lock.failedAttempts = comparisons.length ∧
    ∀ last ∈ comparisons.head?, 3 ≤ comparisons.length →
      last + lockoutWaitSeconds comparisons.length * 1000 ≤ lock.lockedUntilMs

def Stands (check : LockCheck) : CheckStage → Prop
  | .verifying _ verifier => AllCounted lock comparisons ∧ lock.lockedUntilMs ≤ check.nowMs ∧
      verifier ∈ check.submittedVerifier
  | .succeeding => False
  | .failing _ =>
    lock.failedAttempts + 1 = comparisons.length ∧ comparisons.head? = some check.nowMs
  | .counting _ failures => failures = comparisons.length ∧ comparisons.head? = some check.nowMs
  | .waiting | .rereading _ | .ended _ => True

end AllCounted

/-- The invariant of a run: at most one check is on its way. -/
structure Limited {ι : Type} (checks : ι → LockCheck) (verifierHash : String) (w : LockWorld ι) :
    Prop where
  hash : w.lock.verifierHash = verifierHash
  spaced : Spaced w.comparisons
  one : ∀ i j, Guessing (w.stage i) → Guessing (w.stage j) → i = j
  stands : ∀ i, Stands w.lock w.comparisons (checks i) (w.stage i)
  settled : (∀ i, ¬Guessing (w.stage i)) → AllCounted w.lock w.comparisons

lemma Spaced.cons {comparisons : List Int} {now : Int} (h : Spaced comparisons)
    (hnow : ∀ last ∈ comparisons.head?, 3 ≤ comparisons.length →
      last + lockoutWaitSeconds comparisons.length * 1000 ≤ now) : Spaced (now :: comparisons) := by
  rintro (_ | ⟨_, later⟩) time pre heq hthree next hnext
  · cases hnext
  obtain ⟨rfl, rfl⟩ := List.cons.inj heq
  rcases List.mem_cons.mp hnext with rfl | hpre
  · cases later with
    | nil =>
      rw [← lockoutWaitSeconds_eq hthree]
      exact hnow time rfl hthree
    | cons last later =>
      -- The last one came late enough, and this one comes after it.
      have hlast := h (last :: later) time pre rfl hthree last List.mem_cons_self
      have hafter := hnow last rfl (by simp; omega)
      omega
  · exact h later time pre rfl hthree next hpre

section Step

variable {ι : Type} [DecidableEq ι] {checks : ι → LockCheck} {verifierHash : String}
  {w : LockWorld ι} {i : ι} {next : CheckStage}

variable (h : Limited checks verifierHash w)
include h

lemma Limited.move {lock : RegistrationLockRecord} {comparisons : List Int}
    (hoth : ∀ j ≠ i, ¬Guessing (w.stage j)) (hhash : lock.verifierHash = w.lock.verifierHash)
    (hspaced : Spaced comparisons) (hstands : Stands lock comparisons (checks i) next)
    (hsett : ¬Guessing next → AllCounted lock comparisons) :
    Limited checks verifierHash ⟨lock, update w.stage i next, comparisons⟩ := by
  have hnone : ∀ j, Guessing (update w.stage i next j) → j = i := by
    intro j hj
    by_contra hne
    rw [update_of_ne hne] at hj
    exact hoth j hne hj
  refine ⟨hhash.trans h.hash, hspaced, fun j k hj hk => (hnone j hj).trans (hnone k hk).symm,
    fun j => ?_, fun hidle => hsett (by simpa using hidle i)⟩
  by_cases hj : j = i
  · rw [hj]
    simpa using hstands
  have hquiet := hoth j hj
  dsimp only
  rw [update_of_ne hj]
  generalize w.stage j = stage at hquiet
  cases stage with
  | waiting | rereading | ended => trivial
  | _ => exact absurd trivial hquiet

lemma Limited.finish (hi : ¬Guessing (w.stage i)) (out : LockOutcome) :
    Limited checks verifierHash { w with stage := update w.stage i (.ended out) } := by
  have hiff : ∀ j, Guessing (update w.stage i (.ended out) j) ↔ Guessing (w.stage j) := by
    intro j
    by_cases hj : j = i
    · rw [hj, update_self]
      exact iff_of_false id hi
    · rw [update_of_ne hj]
  refine ⟨h.hash, h.spaced, fun j k hj hk => h.one j k ((hiff j).mp hj) ((hiff k).mp hk),
    fun j => ?_, fun hidle => h.settled fun j hj => hidle j ((hiff j).mpr hj)⟩
  by_cases hj : j = i
  · dsimp only
    rw [hj, update_self]
    trivial
  · dsimp only
    rw [update_of_ne hj]
    exact h.stands j

/-- **Step.** Checks that start one at a time keep the comparisons as far apart as the lockout asks.
-/
lemma Limited.step {server : LockServer}
    (hwrong : ∀ i, ∀ verifier ∈ (checks i).submittedVerifier,
      server.hashVerifier verifier ≠ verifierHash) (hturn : InTurn w i) :
    Limited checks verifierHash (server.step checks w i) := by
  have hoth (hi : Guessing (w.stage i)) (j : ι) (hne : j ≠ i) : ¬Guessing (w.stage j) :=
    fun hj => hne (h.one j i hj hi)
  have hstands := h.stands i
  unfold LockServer.step
  cases hi : w.stage i with
  | waiting =>
    have hidle := hturn hi
    have hsett := h.settled hidle
    refine h.move (fun j _ => hidle j) rfl h.spaced ?_ fun _ => hsett
    rw [LockServer.firstRead]
    split_ifs with _ hshut
    · trivial
    · trivial
    · cases hverifier : (checks i).submittedVerifier.filter fun verifier => verifier ≠ "" with
      | none => trivial
      | some => exact ⟨hsett, not_lt.mp hshut, (Option.filter_eq_some_iff.mp hverifier).1⟩
  | verifying rec verifier =>
    rw [hi] at hstands hoth
    obtain ⟨⟨hcount, hshut⟩, hopen, hverifier⟩ := hstands
    have hmiss := h.hash ▸ hwrong i verifier hverifier
    dsimp only
    rw [if_neg hmiss]
    refine h.move (hoth trivial) rfl (h.spaced.cons fun last hlast hthree => ?_)
      ⟨congrArg (· + 1) hcount, rfl⟩ fun hquiet => absurd trivial hquiet
    exact (hshut last hlast hthree).trans hopen
  | succeeding =>
    rw [hi] at hstands
    cases hstands
  | failing =>
    rw [hi] at hstands hoth
    exact h.move (hoth trivial) rfl h.spaced hstands fun hquiet => absurd trivial hquiet
  | counting failures =>
    rw [hi] at hstands hoth
    obtain ⟨rfl, hlast⟩ := hstands
    refine h.move (hoth trivial) rfl h.spaced trivial fun _ => ⟨rfl, fun last hmem hthree => ?_⟩
    obtain rfl := Option.some.inj (hlast.symm.trans hmem)
    have hwait : 0 < lockoutWaitSeconds w.comparisons.length := by
      rw [lockoutWaitSeconds_eq hthree]
      exact lt_min (Nat.two_pow_pos _) (by omega)
    exact (if_pos hwait).ge
  | rereading => exact h.finish (by rw [hi]; exact id) _
  | ended => exact h

end Step

/-- **Every run.** Every wrong comparison is counted, and after the third one they are as far apart
as the lock asks, in every run in which no check looks at the lock between the first read and the
`UPDATE` of another. -/
theorem guesses_limited {ι : Type} [DecidableEq ι] (server : LockServer) (checks : ι → LockCheck)
    (lock : RegistrationLockRecord) (hfresh : lock.failedAttempts = 0)
    (hwrong : ∀ i, ∀ verifier ∈ (checks i).submittedVerifier,
      server.hashVerifier verifier ≠ lock.verifierHash) (labels : List ι)
    (hguard : Guarded (server.step checks) InTurn ⟨lock, fun _ => .waiting, []⟩ labels) :
    let w := run (server.step checks) ⟨lock, fun _ => .waiting, []⟩ labels
    ((∀ i, ¬Guessing (w.stage i)) → w.lock.failedAttempts = w.comparisons.length) ∧
      Spaced w.comparisons := by
  have hstart : Limited checks lock.verifierHash ⟨lock, fun _ => .waiting, []⟩ := by
    refine ⟨rfl, fun later time before heq => ?_, fun _ _ hi => hi.elim, fun _ => trivial,
      fun _ => ⟨hfresh, by simp⟩⟩
    simp at heq
  have hend := run_invariant (I := Limited checks lock.verifierHash)
    (fun _ _ h hturn => h.step hwrong hturn) hstart hguard
  exact ⟨fun hidle => (hend.settled hidle).1, hend.spaced⟩

/-! ## Four guesses -/

def sampleLock : RegistrationLockRecord := ⟨"right", "salt", true, 0, 0, 0⟩

def sampleLockServer : LockServer := ⟨id, 86400⟩

/-- Four wrong guesses, the last of them after a second. -/
def fourGuesses (i : Fin 4) : LockCheck := ⟨some "wrong", if i = 3 then 1000 else 0⟩

/-- One after the other, they are all counted. -/
theorem four_guesses_in_turn :
    let w := run (sampleLockServer.step fourGuesses) ⟨sampleLock, fun _ => .waiting, []⟩
      [0, 0, 0, 0, 0, 1, 1, 1, 1, 1, 2, 2, 2, 2, 2, 3, 3, 3, 3, 3]
    w.lock.failedAttempts = 4 ∧ Spaced w.comparisons := by
  have h := guesses_limited sampleLockServer fourGuesses sampleLock rfl
    (by simp [fourGuesses, sampleLockServer, sampleLock])
    [0, 0, 0, 0, 0, 1, 1, 1, 1, 1, 2, 2, 2, 2, 2, 3, 3, 3, 3, 3] (by decide +kernel)
  exact ⟨(h.1 (by decide +kernel)).trans (by decide +kernel), h.2⟩

/-- All at once, they are all compared at the same time, and counted as one. -/
theorem four_guesses_at_once :
    let w := run (sampleLockServer.step fun _ : Fin 4 => ⟨some "wrong", 0⟩)
      ⟨sampleLock, fun _ => .waiting, []⟩
      [0, 1, 2, 3, 0, 1, 2, 3, 0, 1, 2, 3, 0, 1, 2, 3, 0, 1, 2, 3]
    (∀ i, ¬Guessing (w.stage i)) ∧ w.comparisons = [0, 0, 0, 0] ∧ w.lock.failedAttempts = 1 ∧
      ¬Spaced w.comparisons := by
  intro w
  have htimes : w.comparisons = [0, 0, 0, 0] := by decide +kernel
  refine ⟨by decide +kernel, htimes, by decide +kernel, fun h => ?_⟩
  have hspaced := h [0] 0 [0, 0] htimes (by decide) 0 (by decide)
  exact absurd hspaced (by decide)

end Frick.Properties
