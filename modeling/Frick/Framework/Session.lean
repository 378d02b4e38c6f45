import Mathlib.Order.Defs.Unbundled

/-!
# Actions on a database whose calls may fail

An `Action` is a program that talks to a database engine in calls, one after the other. Any call
can fail: which ones do is decided by `Faults`, a choice made in advance for every number of a
call, so a statement about all faults is a statement about every way the engine can misbehave. An
action that fails keeps the database as its last successful call left it.

`transaction` is the one combinator that undoes: unless its body and its `COMMIT` succeed, the
database is what it was at `BEGIN`. A `ROLLBACK` that fails is not reported and makes no
difference, because what was never committed is not part of the database.
-/

namespace Frick.Framework

/-- A database and the number of calls made to it. -/
structure Session (D : Type) where
  db : D
  calls : Nat := 0

/-- The calls that fail, each with its error. -/
abbrev Faults (φ : Type) := Nat → Option φ

def quiet {φ : Type} : Faults φ := fun _ => none

/-- Only call number `n` fails. -/
def failAt {φ : Type} (n : Nat) (fault : φ) : Faults φ :=
  fun i => if i = n then some fault else none

/-- A program over a database `D` that returns an `α` or fails with an `ε`, on an engine whose calls
fail with a `φ`. -/
def Action (φ ε D α : Type) : Type := Faults φ → Session D → Except ε α × Session D

namespace Action

variable {φ ε ε' D α β : Type}

/-- Go on with the result of an action, unless it failed. -/
protected def bind (m : Action φ ε D α) (k : α → Action φ ε D β) : Action φ ε D β :=
  fun faults s =>
    match m faults s with
    | (.ok a, s') => k a faults s'
    | (.error e, s') => (.error e, s')

instance : Monad (Action φ ε D) where
  pure a := fun _ s => (.ok a, s)
  bind := Action.bind

/-- A computation that makes no call. -/
def ofExcept (x : Except ε α) : Action φ ε D α := fun _ s => (x, s)

def call (f : D → Except φ (α × D)) : Action φ φ D α := fun faults s =>
  match faults s.calls with
  | some fault => (.error fault, ⟨s.db, s.calls + 1⟩)
  | none =>
    match f s.db with
    | .ok (a, db) => (.ok a, ⟨db, s.calls + 1⟩)
    | .error e => (.error e, ⟨s.db, s.calls + 1⟩)

def query (f : D → Except φ α) : Action φ φ D α := call fun db => (f db).map fun a => (a, db)

/-- A call that only writes, and fails only with the engine. -/
def exec (f : D → D) : Action φ φ D Unit := call fun db => .ok ((), f db)

/-- Report errors of another kind. -/
def mapError (f : ε → ε') (m : Action φ ε D α) : Action φ ε' D α := fun faults s =>
  ((m faults s).1.mapError f, (m faults s).2)

/-- Go on with the error instead of failing. -/
def attempt (m : Action φ ε D α) : Action φ ε' D (Except ε α) := fun faults s =>
  (.ok (m faults s).1, (m faults s).2)

/-- Run an action between `BEGIN` and `COMMIT`, or `ROLLBACK` if it fails. -/
def transaction (lift : φ → ε) (m : Action φ ε D α) : Action φ ε D α := fun faults s =>
  match faults s.calls with
  | some fault => (.error (lift fault), ⟨s.db, s.calls + 1⟩)
  | none =>
    match m faults ⟨s.db, s.calls + 1⟩ with
    | (.error e, s') => (.error e, ⟨s.db, s'.calls + 1⟩)
    | (.ok a, s') =>
      match faults s'.calls with
      | some fault => (.error (lift fault), ⟨s.db, s'.calls + 1⟩)
      | none => (.ok a, ⟨s'.db, s'.calls + 1⟩)

/-! ## Running -/

@[simp] lemma pure_run (a : α) (faults : Faults φ) (s : Session D) :
    (pure a : Action φ ε D α) faults s = (.ok a, s) := rfl

lemma bind_run (m : Action φ ε D α) (k : α → Action φ ε D β) (faults : Faults φ)
    (s : Session D) :
    (m >>= k) faults s = match m faults s with
      | (.ok a, s') => k a faults s'
      | (.error e, s') => (.error e, s') := rfl

variable {a : α} {faults : Faults φ} {k : α → Action φ ε D β} {m : Action φ ε D α}
  {s s' s'' : Session D} {e : ε} {f : ε → ε'} {lift : φ → ε} {as : List α}

lemma bind_run_ok (h : m faults s = (.ok a, s')) : (m >>= k) faults s = k a faults s' := by
  rw [bind_run, h]

lemma bind_run_error (h : m faults s = (.error e, s')) : (m >>= k) faults s = (.error e, s') := by
  rw [bind_run, h]

lemma bind_run_eq_ok {b : β} (h : (m >>= k) faults s = (.ok b, s'')) :
    ∃ a s', m faults s = (.ok a, s') ∧ k a faults s' = (.ok b, s'') := by
  rw [bind_run] at h
  split at h
  next a s' hm => exact ⟨a, s', hm, h⟩
  next => cases h

lemma bind_run_eq_error (h : (m >>= k) faults s = (.error e, s'')) :
    m faults s = (.error e, s'') ∨
      ∃ a s', m faults s = (.ok a, s') ∧ k a faults s' = (.error e, s'') := by
  rw [bind_run] at h
  split at h
  next a s' hm => exact .inr ⟨a, s', hm, h⟩
  next e' s' hm =>
    cases h
    exact .inl hm

lemma mapError_run_eq_ok : mapError f m faults s = (.ok a, s') ↔ m faults s = (.ok a, s') := by
  rw [mapError]
  rcases m faults s with ⟨_ | _, _⟩ <;> constructor <;> rintro ⟨⟩ <;> rfl

lemma call_eq_ok {f : D → Except φ (α × D)} (h : call f faults s = (.ok a, s')) :
    f s.db = .ok (a, s'.db) := by
  unfold call at h
  split at h
  · cases h
  split at h
  next b db hf =>
    cases h
    exact hf
  next => cases h

lemma call_eq_error {f : D → Except φ (α × D)} {e : φ} (h : call f faults s = (.error e, s')) :
    s'.db = s.db := by
  unfold call at h
  split at h
  · cases h
    rfl
  · split at h
    · cases h
    · cases h
      rfl

lemma query_eq_ok {f : D → Except φ α} (h : query f faults s = (.ok a, s')) :
    f s.db = .ok a ∧ s'.db = s.db := by
  have hcall := call_eq_ok h
  cases hf : f s.db with
  | error => simp [hf, Except.map] at hcall
  | ok =>
    simp only [hf, Except.map, Except.ok.injEq, Prod.mk.injEq] at hcall
    exact ⟨by rw [hcall.1], hcall.2.symm⟩

lemma exec_eq_ok {f : D → D} {a : Unit} (h : exec f faults s = (.ok a, s')) : s'.db = f s.db := by
  have hcall := call_eq_ok h
  simp only [Except.ok.injEq, Prod.mk.injEq] at hcall
  exact hcall.2.symm

lemma query_quiet {f : D → Except φ α} (h : f s.db = .ok a) :
    query f quiet s = (.ok a, ⟨s.db, s.calls + 1⟩) := by
  simp [query, call, quiet, h, Except.map]

/-- Without faults a block is its body and two more calls. -/
lemma transaction_quiet (h : m quiet ⟨s.db, s.calls + 1⟩ = (.ok a, s')) :
    transaction lift m quiet s = (.ok a, ⟨s'.db, s'.calls + 1⟩) := by
  simp [transaction, h, quiet]

/-! ## Blocks that failed and blocks that did not -/

/-- **All or nothing.** A block that fails leaves the database as it was. -/
theorem transaction_rolls_back (h : (transaction lift m faults s).1 = .error e) :
    (transaction lift m faults s).2.db = s.db := by
  unfold transaction at h ⊢
  split
  · rfl
  next hbegin =>
    rw [hbegin] at h
    split
    · rfl
    next a s' hbody =>
      rw [hbody] at h
      dsimp only at h ⊢
      split
      · rfl
      next hcomm =>
        rw [hcomm] at h
        cases h

lemma transaction_eq_ok (h : transaction lift m faults s = (.ok a, s'')) :
    ∃ s', m faults ⟨s.db, s.calls + 1⟩ = (.ok a, s') ∧ s''.db = s'.db := by
  unfold transaction at h
  split at h
  · cases h
  split at h
  · cases h
  next b s' hbody =>
    split at h
    · cases h
    · cases h
      exact ⟨s', hbody, rfl⟩

/-! ## What an action can do to the database -/

section Respects

variable {R : D → D → Prop}

/-- However an action ends, the database it leaves is related to the one it found. -/
def Respects (R : D → D → Prop) (m : Action φ ε D α) : Prop := ∀ faults s, R s.db (m faults s).2.db

/-- An action that leaves the database alone. -/
abbrev ReadOnly (m : Action φ ε D α) : Prop := Respects (· = ·) m

lemma Respects.pure [Std.Refl R] (a : α) : Respects R (pure a : Action φ ε D α) :=
  fun _ s => refl_of R s.db

lemma Respects.ofExcept [Std.Refl R] (x : Except ε α) :
    Respects R (ofExcept x : Action φ ε D α) := fun _ s => refl_of R s.db

lemma Respects.call [Std.Refl R] {f : D → Except φ (α × D)}
    (hf : ∀ db a db', f db = .ok (a, db') → R db db') : Respects R (call f) := by
  intro faults s
  cases hrun : Action.call f faults s with
  | mk res s' =>
    cases res with
    | ok a => exact hf s.db a s'.db (call_eq_ok hrun)
    | error =>
      rw [call_eq_error hrun]
      exact refl_of R s.db

lemma Respects.query [Std.Refl R] (f : D → Except φ α) : Respects R (query f) := by
  refine Respects.call fun db a db' h => ?_
  cases hf : f db with
  | error => simp [hf, Except.map] at h
  | ok =>
    simp only [hf, Except.map, Except.ok.injEq, Prod.mk.injEq] at h
    rw [← h.2]
    exact refl_of R db

lemma Respects.exec [Std.Refl R] {f : D → D} (hf : ∀ db, R db (f db)) :
    Respects R (exec f : Action φ φ D Unit) := by
  refine Respects.call fun db a db' h => ?_
  simp only [Except.ok.injEq, Prod.mk.injEq] at h
  rw [← h.2]
  exact hf db

variable {m : Action φ ε D α}

lemma Respects.bind [IsTrans D R] {k : α → Action φ ε D β} (hm : Respects R m)
    (hk : ∀ a, Respects R (k a)) : Respects R (m >>= k) := by
  intro faults s
  have hfirst := hm faults s
  rw [bind_run]
  split
  next a s' h =>
    rw [h] at hfirst
    exact trans_of R hfirst (hk a faults s')
  next e s' h =>
    rwa [h] at hfirst

lemma Respects.mapError {f : ε → ε'} (hm : Respects R m) :
    Respects R (mapError f m) := fun faults s => hm faults s

lemma Respects.forM [Std.Refl R] [IsTrans D R] {f : α → Action φ ε D PUnit} {as : List α}
    (h : ∀ a ∈ as, Respects R (f a)) : Respects R (as.forM f) := by
  induction as with
  | nil => exact Respects.pure ()
  | cons a _ ih => exact Respects.bind (h a (by simp)) fun _ => ih fun b hb => h b (by simp [hb])

lemma Respects.transaction [Std.Refl R] {lift : φ → ε} (hm : Respects R m) :
    Respects R (transaction lift m) := by
  intro faults s
  cases hrun : Action.transaction lift m faults s with
  | mk res =>
    cases res with
    | error =>
      have hback := transaction_rolls_back (congrArg Prod.fst hrun)
      rw [hrun] at hback
      rw [hback]
      exact refl_of R s.db
    | ok =>
      obtain ⟨t, hbody, hdb⟩ := transaction_eq_ok hrun
      have hkept := hm faults ⟨s.db, s.calls + 1⟩
      rw [hbody] at hkept
      rwa [hdb]

end Respects

/-! ## Succeeding -/

/-- An action that only the engine can make fail. -/
def Succeeds (m : Action φ ε D α) : Prop := ∀ s, ∃ a s', m quiet s = (.ok a, s')

lemma Succeeds.pure (a : α) : Succeeds (pure a : Action φ ε D α) := fun s => ⟨a, s, rfl⟩

lemma Succeeds.exec (f : D → D) : Succeeds (exec f : Action φ φ D Unit) :=
  fun s => ⟨(), ⟨f s.db, s.calls + 1⟩, rfl⟩

lemma Succeeds.query (f : D → α) : Succeeds (query fun db => .ok (f db) : Action φ φ D α) :=
  fun s => ⟨f s.db, ⟨s.db, s.calls + 1⟩, rfl⟩

lemma Succeeds.bind (hm : Succeeds m) (hk : ∀ a, Succeeds (k a)) : Succeeds (m >>= k) := by
  intro s
  obtain ⟨a, s', h⟩ := hm s
  obtain ⟨b, s'', h'⟩ := hk a s'
  exact ⟨b, s'', by rw [bind_run_ok h, h']⟩

lemma Succeeds.mapError (hm : Succeeds m) : Succeeds (mapError f m) := by
  intro s
  obtain ⟨a, s', h⟩ := hm s
  exact ⟨a, s', mapError_run_eq_ok.mpr h⟩

lemma Succeeds.transaction (hm : Succeeds m) : Succeeds (transaction lift m) := by
  intro s
  obtain ⟨a, s', h⟩ := hm ⟨s.db, s.calls + 1⟩
  exact ⟨a, _, transaction_quiet h⟩

/-! ## Locality -/

/-- Calls are only ever added, and a run is determined by the faults of the calls it makes. -/
structure Local (m : Action φ ε D α) : Prop where
  calls_le : ∀ faults s, s.calls ≤ (m faults s).2.calls
  run_eq : ∀ faults faults' s, (∀ i < (m faults s).2.calls, faults' i = faults i) →
    m faults' s = m faults s

lemma Local.pure (a : α) : Local (pure a : Action φ ε D α) :=
  ⟨fun _ _ => Nat.le_refl _, fun _ _ _ _ => rfl⟩

lemma Local.call (f : D → Except φ (α × D)) : Local (call f) := by
  have hcalls : ∀ faults s, (Action.call f faults s).2.calls = s.calls + 1 := by
    intro faults s
    unfold Action.call
    split
    · rfl
    · split <;> rfl
  refine ⟨fun faults s => ?_, fun faults faults' s h => ?_⟩
  · have := hcalls faults s
    omega
  · have hsame : faults' s.calls = faults s.calls := h s.calls (by rw [hcalls]; omega)
    unfold Action.call
    rw [hsame]

lemma Local.mapError (hm : Local m) : Local (mapError f m) := by
  refine ⟨hm.calls_le, fun faults faults' s h => ?_⟩
  have hrun := hm.run_eq faults faults' s h
  simp only [Action.mapError, hrun]

lemma Local.bind (hm : Local m) (hk : ∀ a, Local (k a)) : Local (m >>= k) := by
  refine ⟨fun faults s => ?_, fun faults faults' s h => ?_⟩
  · have hfirst := hm.calls_le faults s
    rw [bind_run]
    split
    next a s' hrun =>
      rw [hrun] at hfirst
      exact Nat.le_trans hfirst ((hk a).calls_le faults s')
    next e s' hrun =>
      rwa [hrun] at hfirst
  · cases hrun : m faults s with
    | mk res s' =>
      cases res with
      | error =>
        rw [bind_run_error hrun] at h ⊢
        have hsame := hm.run_eq faults faults' s (by rw [hrun]; exact h)
        rw [bind_run_error (hsame.trans hrun)]
      | ok a =>
        rw [bind_run_ok hrun] at h ⊢
        -- The second part only adds calls, so `h` covers those of the first.
        have hle := (hk a).calls_le faults s'
        have hsame := hm.run_eq faults faults' s (by
          rw [hrun]
          exact fun i hi => h i (Nat.lt_of_lt_of_le hi hle))
        rw [bind_run_ok (hsame.trans hrun)]
        exact (hk a).run_eq faults faults' s' h

lemma Local.transaction (hm : Local m) : Local (transaction lift m) := by
  -- A block is a sequence of its `BEGIN`, its body and its last call, run on copies of the session.
  have hlast : ∀ (faults : Faults φ) (s : Session D), faults s.calls = none →
      (Action.transaction lift m faults s).2.calls =
        (m faults ⟨s.db, s.calls + 1⟩).2.calls + 1 := by
    intro faults s hbegin
    unfold Action.transaction
    rw [hbegin]
    dsimp only
    split
    next e s' hbody => rw [hbody]
    next a s' hbody =>
      rw [hbody]
      split <;> rfl
  refine ⟨fun faults s => ?_, fun faults faults' s h => ?_⟩
  · cases hbegin : faults s.calls with
    | some => simp [Action.transaction, hbegin]
    | none =>
      have hbody := hm.calls_le faults ⟨s.db, s.calls + 1⟩
      rw [hlast faults s hbegin]
      dsimp only at hbody
      omega
  · cases hbegin : faults s.calls with
    | some fault =>
      have hsame : faults' s.calls = some fault := by
        rw [← hbegin]
        exact h s.calls (by simp [Action.transaction, hbegin])
      simp [Action.transaction, hbegin, hsame]
    | none =>
      rw [hlast faults s hbegin] at h
      have hle := hm.calls_le faults ⟨s.db, s.calls + 1⟩
      dsimp only at hle
      have hsame : faults' s.calls = none := by
        rw [← hbegin]
        exact h s.calls (by omega)
      have hbody := hm.run_eq faults faults' ⟨s.db, s.calls + 1⟩ fun i hi => h i (by omega)
      unfold Action.transaction
      rw [hbegin, hsame, hbody]
      dsimp only
      split
      · rfl
      next a s' hrun =>
        rw [hrun] at h
        rw [h s'.calls (by dsimp only; omega)]

/-- A fault placed right after a run without faults does not disturb it. -/
lemma Local.run_failAt (hm : Local m) (s : Session D) (fault : φ) :
    m (failAt (m quiet s).2.calls fault) s = m quiet s := by
  refine hm.run_eq quiet _ s fun i hi => ?_
  exact if_neg (Nat.ne_of_lt hi)

end Action

end Frick.Framework
