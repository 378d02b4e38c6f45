import Mathlib.Algebra.Order.Ring.Int

/-!
# Runs of a labelled machine

A machine is a step function `step : σ → ι → σ`: all nondeterminism (which request arrives,
which task of several is scheduled next, which random id is drawn) sits in the label. A run
is a list of labels. Two rules carry every result about whole runs, `run_invariant` and
`run_relation`; a third, `forall_run_iff_guarded`, is for a guard that cannot be weakened.

`Guarded` says that each step of a run meets a condition on the state *before* that step and
on its label, so a condition never speaks about what the step itself computes.
-/

namespace Frick.Framework

variable {σ ι : Type*}

/-- The state reached from `s` by performing `labels` in order. -/
def run (step : σ → ι → σ) (s : σ) (labels : List ι) : σ :=
  labels.foldl step s

section Run

variable (step : σ → ι → σ)

@[simp] lemma run_nil (s : σ) : run step s [] = s := rfl

@[simp] lemma run_cons (s : σ) (a : ι) (as : List ι) :
    run step s (a :: as) = run step (step s a) as := rfl

lemma run_append (s : σ) (as bs : List ι) : run step s (as ++ bs) = run step (run step s as) bs :=
  List.foldl_append

lemma run_concat (s : σ) (as : List ι) (a : ι) :
    run step s (as ++ [a]) = step (run step s as) a := by
  rw [run_append, run_cons, run_nil]

end Run

/-- Every step of the run meets `C`, a condition on the state before the step and its label. -/
def Guarded (step : σ → ι → σ) (C : σ → ι → Prop) : σ → List ι → Prop
  | _, [] => True
  | s, a :: as => C s a ∧ Guarded step C (step s a) as

section Guarded

variable {step : σ → ι → σ} {C : σ → ι → Prop}

instance Guarded.decidable [∀ s a, Decidable (C s a)] : ∀ s as, Decidable (Guarded step C s as)
  | _, [] => isTrue trivial
  | s, a :: as =>
    have := Guarded.decidable (step s a) as
    inferInstanceAs (Decidable (C s a ∧ Guarded step C (step s a) as))

@[simp] lemma guarded_nil (s : σ) : Guarded step C s [] := trivial

@[simp] lemma guarded_cons (s : σ) (a : ι) (as : List ι) :
    Guarded step C s (a :: as) ↔ C s a ∧ Guarded step C (step s a) as := Iff.rfl

variable {as : List ι} {s : σ} {I : σ → Prop}

lemma guarded_append {bs : List ι} :
    Guarded step C s (as ++ bs) ↔ Guarded step C s as ∧ Guarded step C (run step s as) bs := by
  induction as generalizing s with
  | nil => simp
  | cons _ _ ih => simp [ih, and_assoc]

/-- A run is guarded when the condition holds wherever the run is cut. -/
lemma guarded_iff_forall_split :
    Guarded step C s as ↔
      ∀ pre a after, as = pre ++ a :: after → C (run step s pre) a := by
  induction as generalizing s with
  | nil => simp
  | cons b as ih =>
    rw [guarded_cons, ih]
    constructor
    · rintro ⟨hb, hrest⟩ pre a after heq
      cases pre with
      | nil =>
        obtain ⟨rfl, rfl⟩ := List.cons.inj heq
        exact hb
      | cons _ pre =>
        obtain ⟨rfl, rfl⟩ := List.cons.inj heq
        exact hrest pre a after rfl
    · intro h
      refine ⟨h [] b as rfl, fun pre a after heq => ?_⟩
      rw [heq] at h
      exact h (b :: pre) a after rfl

/-- A condition on the labels alone can be carried in the guard. -/
lemma guarded_and {D : ι → Prop} (hlabels : ∀ a ∈ as, D a) (hg : Guarded step C s as) :
    Guarded step (fun s a => D a ∧ C s a) s as := by
  induction as generalizing s with
  | nil => exact trivial
  | cons a _ ih =>
    refine ⟨⟨hlabels a (by simp), hg.1⟩, ih (fun b hb => hlabels b ?_) hg.2⟩
    exact List.mem_cons_of_mem a hb

/-- What every step preserves, every run preserves. -/
lemma run_of_forall_step (hstep : ∀ s a, I s → I (step s a)) (hs : I s) (as : List ι) :
    I (run step s as) := by
  induction as generalizing s with
  | nil => exact hs
  | cons a _ ih => exact ih (hstep s a hs)

/-- **Invariant rule.** What every guarded step preserves, every guarded run preserves. -/
theorem run_invariant (hstep : ∀ s a, I s → C s a → I (step s a)) (hs : I s)
    (hg : Guarded step C s as) : I (run step s as) := by
  induction as generalizing s with
  | nil => exact hs
  | cons a _ ih => exact ih (hstep s a hs hg.1) hg.2

/-- **Exactness rule.** If from every state with `I` a step keeps `I` exactly when it meets `C`,
then `I` holds all along a run exactly when the run is guarded. `J` may be assumed of every state.
-/
theorem forall_run_iff_guarded {J : σ → Prop} (hJ : ∀ s a, J s → J (step s a))
    (hstep : ∀ s a, J s → I s → (I (step s a) ↔ C s a)) (hs : J s) (hI : I s) (as : List ι) :
    (∀ pre after, as = pre ++ after → I (run step s pre)) ↔ Guarded step C s as := by
  induction as generalizing s with
  | nil =>
    refine iff_of_true (fun pre after h => ?_) trivial
    rwa [(List.append_eq_nil_iff.mp h.symm).1]
  | cons a as ih =>
    rw [guarded_cons, ← hstep s a hs hI]
    constructor
    · intro h
      have hnext : I (step s a) := h [a] as rfl
      refine ⟨hnext, (ih (hJ s a hs) hnext).mp fun pre after heq => ?_⟩
      exact h (a :: pre) after (by rw [heq]; rfl)
    · rintro ⟨hnext, hg⟩ pre after heq
      cases pre with
      | nil => exact hI
      | cons _ pre =>
        obtain ⟨rfl, rfl⟩ := List.cons.inj heq
        exact (ih (hJ s a hs) hnext).mpr hg pre after rfl

/-- **Relation rule.** A preorder that every guarded step respects, on states satisfying an
invariant, relates the first and the last state of every guarded run. -/
theorem run_relation {R : σ → σ → Prop} (hinv : ∀ s a, I s → C s a → I (step s a))
    (hrefl : ∀ s, R s s) (htrans : ∀ s t u, R s t → R t u → R s u)
    (hstep : ∀ s a, I s → C s a → R s (step s a)) (hs : I s) (hg : Guarded step C s as) :
    R s (run step s as) := by
  induction as generalizing s with
  | nil => exact hrefl s
  | cons a _ ih =>
    have hnext := ih (hinv s a hs hg.1) hg.2
    exact htrans _ _ _ (hstep s a hs hg.1) hnext

end Guarded

end Frick.Framework
