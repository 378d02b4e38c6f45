import Frick.Framework.Run

/-!
# Looks that go out of date

A task looks at a shared state and acts on what it saw some steps later. `Watch.step` runs a machine
and keeps, for every task, whether another task has spoilt what it saw last. The marks depend on the
order of the steps alone: a condition on them is one on the schedule, and says nothing about what a
look would find now. The machine itself is not changed (`run_state`).
-/

namespace Frick.Framework

variable {σ ι : Type}

/-- Where a task looks, and where a step of one task spoils what another has seen. -/
structure Watch (σ ι : Type) where
  looks : σ → ι → Bool
  spoils : σ → ι → ι → Bool

/-- A state, and the tasks whose last look is out of date. -/
structure Watched (σ ι : Type) where
  state : σ
  outdated : ι → Bool

/-- Nobody has missed anything. -/
def Watched.start (s : σ) : Watched σ ι := ⟨s, fun _ => false⟩

namespace Watch

variable [DecidableEq ι] (watch : Watch σ ι) (next : σ → ι → σ)

/-- A step of the machine, and the marks after it. -/
def step (x : Watched σ ι) (i : ι) : Watched σ ι where
  state := next x.state i
  outdated j :=
    if j = i then x.outdated i && !watch.looks x.state i
    else x.outdated j || watch.spoils x.state i j

/-- Where a task acts, its last look is not out of date. -/
def InTime (acts : σ → ι → Bool) (x : Watched σ ι) (i : ι) : Prop :=
  acts x.state i = true → x.outdated i = false

instance (acts : σ → ι → Bool) (x : Watched σ ι) (i : ι) : Decidable (InTime acts x i) :=
  inferInstanceAs (Decidable (_ → _))

lemma run_state (x : Watched σ ι) (labels : List ι) :
    (run (watch.step next) x labels).state = run next x.state labels := by
  induction labels generalizing x with
  | nil => rfl
  | cons _ _ ih => exact ih _

variable {watch next} {x : Watched σ ι} {i j : ι}

/-- What another task has seen is still good only if it was, and was not spoilt. -/
lemma outdated_of_ne (hj : j ≠ i) (h : (watch.step next x i).outdated j = false) :
    x.outdated j = false ∧ watch.spoils x.state i j = false := by
  simpa [Watch.step, hj] using h

lemma outdated_of_not_looks (hlook : watch.looks x.state i = false)
    (h : (watch.step next x i).outdated j = false) : x.outdated j = false := by
  by_cases hj : j = i
  · simpa [Watch.step, hj, hlook] using h
  · exact (outdated_of_ne hj h).1

end Watch

end Frick.Framework
