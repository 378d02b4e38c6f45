import Frick.Framework.Run

/-!
# Programs over a shared store

A program is a tree: it has ended, with a value or an error, or it performs an operation and goes on
with the reply. Several programs that interleave on one store, one operation at a time, are a
`Workers` state; which of them moves next is the label of a step.

A *discipline* is an automaton over operations and their replies: `next q o r` is where an operation
leads, or `none` if it is not allowed there. `Keeps` says that a program never leaves the
discipline, whatever replies it gets, and in which places it may end.
-/

namespace Frick.Framework

open Function

/-- A program with operations `o : ω`, replies in `ρ o` and errors in `ε`. -/
inductive Program (ω : Type) (ρ : ω → Type) (ε α : Type) where
  | done (a : α)
  | fail (e : ε)
  | call (o : ω) (next : ρ o → Program ω ρ ε α)

namespace Program

variable {ω : Type} {ρ : ω → Type} {ε α β : Type}

def bind : Program ω ρ ε α → (α → Program ω ρ ε β) → Program ω ρ ε β
  | .done a, f => f a
  | .fail e, _ => .fail e
  | .call o next, f => .call o fun r => (next r).bind f

instance : Monad (Program ω ρ ε) where
  pure := .done
  bind := bind

/-- A single operation. -/
def perform (o : ω) : Program ω ρ ε (ρ o) := .call o .done

/-- A result that came from elsewhere. -/
def ofExcept : Except ε α → Program ω ρ ε α
  | .ok a => .done a
  | .error e => .fail e

/-! ## Disciplines -/

section Discipline

variable {q : Type} (next : q → (o : ω) → ρ o → Option q)

/-- From place `p` the program keeps to the discipline, and where it ends with a value, the value
and the place are as `post` says. -/
def Keeps : q → Program ω ρ ε α → (α → q → Prop) → Prop
  | p, .done a, post => post a p
  | _, .fail _, _ => True
  | p, .call o k, post => ∀ r, ∃ p', next p o r = some p' ∧ Keeps p' (k r) post

variable {next} {p : q} {prog : Program ω ρ ε α} {post : α → q → Prop}

lemma Keeps.mono {post' : α → q → Prop} (h : Keeps next p prog post)
    (hpost : ∀ a p, post a p → post' a p) : Keeps next p prog post' := by
  induction prog generalizing p with
  | done a => exact hpost a p h
  | fail => trivial
  | call _ _ ih =>
    intro r
    obtain ⟨p', ho, hk⟩ := h r
    exact ⟨p', ho, ih r hk⟩

variable {f : α → Program ω ρ ε β} {post : β → q → Prop}

lemma keeps_bind (h : Keeps next p prog fun a p' => Keeps next p' (f a) post) :
    Keeps next p (prog >>= f) post := by
  induction prog generalizing p with
  | done => exact h
  | fail => trivial
  | call _ _ ih =>
    intro r
    obtain ⟨p', ho, hk⟩ := h r
    exact ⟨p', ho, ih r hk⟩

/-- A program that stays at one place, followed by one that starts there. -/
lemma keeps_bind_stay (h : Keeps next p prog fun _ p' => p' = p)
    (hf : ∀ a, Keeps next p (f a) post) : Keeps next p (prog >>= f) post := by
  apply keeps_bind
  apply h.mono
  rintro a _ rfl
  exact hf a

end Discipline

end Program

/-! ## Workers -/

structure Workers (σ ι ω : Type) (ρ : ω → Type) (ε α : Type) where
  store : σ
  programs : ι → Program ω ρ ε α

namespace Workers

open Program

variable {σ ι ω : Type} {ρ : ω → Type} {ε α : Type} [DecidableEq ι]
variable (handle : σ → (o : ω) → σ × ρ o)

/-- The next operation of worker `i`. -/
def step (w : Workers σ ι ω ρ ε α) (i : ι) : Workers σ ι ω ρ ε α :=
  match w.programs i with
  | .done _ => w
  | .fail _ => w
  | .call o k => ⟨(handle w.store o).1, update w.programs i (k (handle w.store o).2)⟩

variable {handle} {w : Workers σ ι ω ρ ε α} {i : ι}

/-- The operation that worker `i` performs next. -/
def pending (w : Workers σ ι ω ρ ε α) (i : ι) : Option ω :=
  match w.programs i with
  | .call o _ => some o
  | _ => none

lemma step_of_pending_none (h : w.pending i = none) : step handle w i = w := by
  rw [pending] at h
  rw [step]
  cases hprog : w.programs i with
  | done | fail => rfl
  | call => rw [hprog] at h; cases h

variable {o : ω}

omit [DecidableEq ι] in
lemma exists_call_of_pending (h : w.pending i = some o) : ∃ k, w.programs i = .call o k := by
  rw [pending] at h
  cases hprog : w.programs i with
  | done | fail => rw [hprog] at h; cases h
  | call _ k =>
    rw [hprog] at h
    obtain rfl := Option.some.inj h
    exact ⟨k, rfl⟩

lemma step_call {k : ρ o → Program ω ρ ε α} (h : w.programs i = .call o k) :
    step handle w i = ⟨(handle w.store o).1, update w.programs i (k (handle w.store o).2)⟩ := by
  rw [step, h]

lemma store_step_of_pending (handle : σ → (o : ω) → σ × ρ o) (h : w.pending i = some o) :
    (step handle w i).store = (handle w.store o).1 := by
  obtain ⟨k, hprog⟩ := exists_call_of_pending h
  rw [step_call hprog]

/-- Where every worker stands in a discipline, and where it may end. -/
def Follows {q : Type} (next : q → (o : ω) → ρ o → Option q) (post : α → q → Prop) (place : ι → q)
    (w : Workers σ ι ω ρ ε α) : Prop :=
  ∀ i, Keeps next (place i) (w.programs i) post

lemma programs_step_of_ne (handle : σ → (o : ω) → σ × ρ o) {j : ι} (h : j ≠ i) :
    (step handle w i).programs j = w.programs j := by
  cases hprog : w.programs i with
  | done | fail => rw [step, hprog]
  | call =>
    rw [step_call hprog]
    exact update_of_ne h _ _

variable {q : Type} {next : q → (o : ω) → ρ o → Option q} {post : α → q → Prop} {place : ι → q}

omit [DecidableEq ι] in
/-- A worker that may not end where it stands, and cannot fail, has an operation before it. -/
lemma Follows.exists_pending [IsEmpty ε] (h : Follows next post place w)
    (hend : ∀ a, ¬post a (place i)) (reply : (o : ω) → ρ o) :
    ∃ o p', w.pending i = some o ∧ next (place i) o (reply o) = some p' := by
  have hkeeps := h i
  cases hprog : w.programs i with
  | done a =>
    rw [hprog] at hkeeps
    exact absurd hkeeps (hend a)
  | fail e => exact isEmptyElim e
  | call o =>
    rw [hprog] at hkeeps
    obtain ⟨p', hnext, -⟩ := hkeeps (reply o)
    exact ⟨o, p', by rw [pending, hprog], hnext⟩

/-- **One operation.** It is allowed at the worker's place, and takes the worker to the next one. -/
lemma Follows.step (handle : σ → (o : ω) → σ × ρ o) (h : Follows next post place w)
    (ho : w.pending i = some o) :
    ∃ p', next (place i) o (handle w.store o).2 = some p' ∧
      Follows next post (update place i p') (step handle w i) := by
  obtain ⟨k, hprog⟩ := exists_call_of_pending ho
  have hi := h i
  rw [hprog] at hi
  obtain ⟨p', hnext, hk⟩ := hi (handle w.store o).2
  refine ⟨p', hnext, fun j => ?_⟩
  by_cases hj : j = i
  · rw [hj, step_call hprog]
    simpa only [update_self] using hk
  · rw [programs_step_of_ne handle hj, update_of_ne hj]
    exact h j

end Workers

end Frick.Framework
