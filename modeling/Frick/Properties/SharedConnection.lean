import Frick.Store.Driver

/-!
# Acknowledged writes and other tasks' rollbacks

`SqlDriver::run` answers `Ok` as soon as its statement has executed on the shared connection.
The statement of a task that is in no transaction of its own still executes inside the
transaction another task has open at that moment, and shares its fate. The transactions are
those without savepoints: rolling back to one undoes foreign statements as well, and leaves the
transaction to commit.
-/

namespace Frick.Properties

open Framework Store DriverSystem

variable {ι D Row T : Type}

/-- Task `i` has executed no statement yet. -/
def Unwritten (i : ι) (journal : List (Entry (ι × Statement D))) : Prop :=
  ∀ statement, .write (i, statement) ∉ journal

/-- The statement of task `i` was executed while a transaction was open that a `ROLLBACK`
closed. -/
def ExecutedInRolledBack (i : ι) (journal : List (Entry (ι × Statement D))) : Prop :=
  ∃ before statement after, journal = before ++ .write (i, statement) :: after ∧
    Entry.isOpen false before = true ∧ Entry.undoes after = true

/-- What the journal holds of a task that calls `SqlDriver::run` once. -/
def RunAccounted (i : ι) (statement : Statement D) (s : DriverSystem ι D Row T) : Prop :=
  match s.tasks i with
  | .run pending => pending = statement ∧ Unwritten i s.journal
  | .ran (.error _) => Unwritten i s.journal
  | .ran (.ok _) => ∃ before after, s.journal = before ++ .write (i, statement) :: after ∧
      Unwritten i before ∧ Unwritten i after
  | _ => False

variable {i : ι} {s : DriverSystem ι D Row T} {statement : Statement D}

lemma Unwritten.append {journal later : List (Entry (ι × Statement D))} (h : Unwritten i journal)
    (hlater : Unwritten i later) : Unwritten i (journal ++ later) := by
  intro statement hmem
  rcases List.mem_append.mp hmem with hj | hl
  · exact h statement hj
  · exact hlater statement hl

/-- **Step.** The accounting of a `run` task survives every lock section. -/
lemma RunAccounted.step [DecidableEq ι] (h : RunAccounted i statement s) (j : ι) :
    RunAccounted i statement (s.step j) := by
  by_cases hji : j = i
  · subst hji
    unfold RunAccounted at h
    split at h
    next pending htask =>
      -- The task executes its one statement now.
      obtain ⟨rfl, hnone⟩ := h
      rw [step, htask]
      dsimp only
      cases hrun : s.conn.run pending with
      | ok =>
        simp only [RunAccounted, setTask, Function.update_self]
        exact ⟨s.journal, [], rfl, hnone, by simp [Unwritten]⟩
      | error => simpa [RunAccounted, setTask] using hnone
    next err htask => simpa [step, RunAccounted, htask] using h
    next result htask => simpa [step, RunAccounted, htask] using h
    next => exact h.elim
  · obtain ⟨es, hjour, hsect, htasks⟩ := step_cases s j
    generalize (s.step j).conn = conn' at hsect
    have hquiet : Unwritten i es := by
      intro statement hmem
      cases hsect <;> simp_all
    unfold RunAccounted at h ⊢
    rw [htasks i (Ne.symm hji), hjour]
    split at h
    next => exact ⟨h.1, h.2.append hquiet⟩
    next => exact h.append hquiet
    next =>
      obtain ⟨before, after, heq, hpre, hafter⟩ := h
      exact ⟨before, after ++ es, by rw [heq]; simp, hpre, hafter.append hquiet⟩
    next => exact h

lemma RunAccounted.survives_iff (h : RunAccounted i statement s) {result : RunResult}
    (hran : s.tasks i = .ran (.ok result)) :
    (i, statement) ∈ Entry.survivors false s.journal ↔ ¬ ExecutedInRolledBack i s.journal := by
  unfold RunAccounted at h
  rw [hran] at h
  obtain ⟨before, after, heq, hpre, hafter⟩ := h
  rw [heq, Entry.mem_survivors_iff (hpre statement) (hafter statement)]
  refine not_congr ⟨fun hundo => ⟨before, statement, after, rfl, hundo⟩, ?_⟩
  rintro ⟨before', statement', after', heq', hopen, hundoes⟩
  -- The task's one write stands at one place, so the two splits of the journal agree.
  have hsplit : before = before' ∧ after = after' := by
    rcases List.append_eq_append_iff.mp heq' with ⟨mid, hb, ha⟩ | ⟨mid, hb, ha⟩
    · cases mid with
      | nil => simp_all
      | cons =>
        have hmem : Entry.write (i, statement') ∈ after := by simp_all
        exact absurd hmem (hafter statement')
    · cases mid with
      | nil => simp_all
      | cons =>
        have hmem : Entry.write (i, statement') ∈ before := by simp_all
        exact absurd hmem (hpre statement')
  rw [hsplit.1, hsplit.2]
  exact ⟨hopen, hundoes⟩

def insertRow (row : String) : Statement (List String) :=
  fun rows => .ok (rows ++ [row], ⟨1, rows.length + 1⟩)

/-- Task `false` runs a transaction whose callback inserts a row and then fails; task `true`
inserts a row with a plain `run`. -/
def failingBesideRun : Bool → DriverTask (List String) Unit Unit
  | false => .transaction (.run (insertRow "callback") fun _ => .done (.error (.store "abort")))
  | true => .run (insertRow "run")

def acknowledged : DriverTask D Row T → Bool
  | .ran (.ok _) => true
  | _ => false

end Frick.Properties
