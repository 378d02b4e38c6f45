import Frick.Framework.Run
import Frick.Store.Job

/-!
# The end of a job

`completed` and `dead_lettered` are the states a job ends in. `claim` and `next` take `ready` rows
only and `complete` leaves a dead-lettered row alone, so of the five operations only `fail` can move
a row out of either: it updates by id alone, whatever the row has become.
-/

namespace Frick.Properties

open Framework Protocol Store JobStore

variable {β : Type} (store : JobStore β)

/-- One call on the job store. -/
inductive JobOp where
  | enqueue (input : EnqueueInput) (nowMs : Int)
  | claim (workerId : String) (jobType : Option String) (limit : Int) (appId : Option String)
      (nowMs : Int)
  | next (tenantId jobType : String) (appId : Option String) (nowMs : Int)
  | complete (jobId : Int) (result : Option Value) (nowMs : Int)
  | fail (jobId : Int) (errorCode errorMessage : String) (retryable : Bool) (nowMs : Int)

/-- The table after a call. -/
def JobOp.step (db : JobTables β) : JobOp → JobTables β
  | .enqueue input nowMs => (store.enqueue db input nowMs).1
  | .claim workerId jobType limit appId nowMs =>
    (store.claim db workerId jobType limit appId nowMs).1
  | .next tenantId jobType appId nowMs => (store.next db tenantId jobType appId nowMs).1
  | .complete jobId result nowMs => (store.complete db jobId result nowMs).1
  | .fail jobId errorCode errorMessage retryable nowMs =>
    (store.fail db jobId errorCode errorMessage retryable nowMs).1

/-! ## The property and its condition -/

/-- Every terminal row is still there with its status, and was not attempted again. -/
def TerminalKept (before after : JobTables β) : Prop :=
  ∀ row ∈ before.jobs, row.status.isTerminal = true →
    ∃ later ∈ after.jobs, later.id = row.id ∧ later.status = row.status ∧
      later.attemptCount ≤ row.attemptCount

/-- Between any two states of the run the terminal rows are kept. -/
def TerminalAbsorbing (db : JobTables β) (ops : List JobOp) : Prop :=
  ∀ before middle after, ops = before ++ middle ++ after →
    TerminalKept (run (JobOp.step store) db before) (run (JobOp.step store) db (before ++ middle))

/-- The condition on a call: a `fail` does not find its job completed, nor dead-lettered with
attempts left that it would use for a retry. A row that cannot be decoded stops it before its
update. -/
def Spares (db : JobTables β) : JobOp → Prop
  | .fail jobId _ _ retryable _ =>
    ∀ row ∈ db.jobs.find? jobId, (store.mapRow row).isOk = true →
      row.status ≠ .completed ∧
        (row.status = .deadLettered → ¬(retryable = true ∧ row.attemptCount < row.maxAttempts))
  | .enqueue .. | .claim .. | .next .. | .complete .. => True

instance (db : JobTables β) : DecidablePred (Spares store db)
  | .fail jobId _ _ _ _ =>
    inferInstanceAs (Decidable (∀ row ∈ db.jobs.find? jobId, _ → _ ∧ (_ → ¬_)))
  | .enqueue .. | .claim .. | .next .. | .complete .. => inferInstanceAs (Decidable True)

/-! ## One call -/

lemma terminalKept_refl (db : JobTables β) : TerminalKept db db :=
  fun row hrow _ => ⟨row, hrow, rfl, rfl, le_refl _⟩

lemma TerminalKept.trans {a b c : JobTables β} (hab : TerminalKept a b) (hbc : TerminalKept b c) :
    TerminalKept a c := by
  intro row hrow hterm
  obtain ⟨row', hrow', hid, hstat, hcount⟩ := hab row hrow hterm
  obtain ⟨row'', hrow'', hid', hstatus', hcount'⟩ := hbc row' hrow' (by rw [hstat]; exact hterm)
  exact ⟨row'', hrow'', hid'.trans hid, hstatus'.trans hstat, hcount'.trans hcount⟩

lemma terminalKept_updateJobs {db : JobTables β} {p : JobRow β → Bool} {f : JobRow β → JobRow β}
    {hf : ∀ r, (f r).id = r.id}
    (h : ∀ row ∈ db.jobs, row.status.isTerminal → p row →
      (f row).status = row.status ∧ (f row).attemptCount ≤ row.attemptCount) :
    TerminalKept db (db.updateJobs p f hf) := by
  intro row hrow hterm
  refine ⟨if p row then f row else row, JobTables.mem_updateJobs.mpr ⟨row, hrow, rfl⟩, ?_⟩
  by_cases hp : p row
  · obtain ⟨hstat, hcount⟩ := h row hrow hterm hp
    rw [if_pos hp]
    exact ⟨hf row, hstat, hcount⟩
  · rw [if_neg hp]
    exact ⟨rfl, rfl, le_refl _⟩

lemma terminalKept_enqueue (db : JobTables β) (input : EnqueueInput) (nowMs : Int) :
    TerminalKept db (store.enqueue db input nowMs).1 := by
  rcases store.enqueue_cases db input nowMs with heq | ⟨packed, ins, _, hins, heq⟩
  · rw [heq]
    exact terminalKept_refl db
  · rw [heq]
    intro row hrow _
    exact ⟨row, (JobTables.mem_insertJob hins).mpr (.inl hrow), rfl, rfl, le_refl _⟩

lemma terminalKept_claim (db : JobTables β) (workerId : String) (jobType : Option String)
    (limit : Int) (appId : Option String) (nowMs : Int) :
    TerminalKept db (store.claim db workerId jobType limit appId nowMs).1 := by
  refine terminalKept_updateJobs fun row hrow hterm hclaim => ?_
  have hready := status_of_mem_claimIds hrow (of_decide_eq_true hclaim)
  rw [hready] at hterm
  cases hterm

lemma terminalKept_complete (db : JobTables β) (jobId : Int) (res : Option Value) (nowMs : Int) :
    TerminalKept db (store.complete db jobId res nowMs).1 := by
  have hupdate : ∀ stored, TerminalKept db
      (updateCompleted db jobId stored (isoFromEpochMs nowMs)) := by
    intro stored
    refine terminalKept_updateJobs fun row _ hterm hmatch => ⟨?_, le_refl _⟩
    cases hstat : row.status <;> simp_all [JobStatus.isTerminal, completed]
  unfold complete
  split
  · exact hupdate none
  · split
    · exact terminalKept_refl db
    · exact terminalKept_refl db
    · exact hupdate _

variable {store} {db : JobTables β} {jobId : Int} {errorCode errorMessage : String}
  {retryable : Bool} {nowMs : Int}

lemma fail_cases :
    ((∀ row ∈ db.jobs.find? jobId, (store.mapRow row).isOk = false) ∧
        (store.fail db jobId errorCode errorMessage retryable nowMs).1 = db) ∨
      ∃ row m, db.jobs.find? jobId = some row ∧ store.mapRow row = .ok m ∧
        (store.fail db jobId errorCode errorMessage retryable nowMs).1 =
          updateFailed db jobId (planFailure m retryable nowMs) errorCode
            errorMessage (isoFromEpochMs nowMs) := by
  unfold fail
  rw [getById_eq]
  cases hfind : db.jobs.find? jobId with
  | none => exact .inl ⟨by simp, rfl⟩
  | some row =>
    cases hmap : store.mapRow row with
    | error =>
      refine .inl ⟨?_, by simp [mapFound, hmap, Except.map]⟩
      intro found hfound
      rw [← Option.some.inj hfound, hmap]
      rfl
    | ok m => exact .inr ⟨row, m, rfl, hmap, by simp [mapFound, hmap, Except.map]⟩

lemma status_failed_iff {row : JobRow β} {m : JobRow Value}
    (hmap : store.mapRow row = .ok m) (hterm : row.status.isTerminal) :
    (failed (planFailure m retryable nowMs) errorCode errorMessage
        (isoFromEpochMs nowMs) row).status = row.status ↔
      row.status ≠ .completed ∧
        (row.status = .deadLettered → ¬(retryable ∧ row.attemptCount < row.maxAttempts)) := by
  obtain ⟨_, _, hcount, hmax, _⟩ := mapRow_eq_ok hmap
  unfold planFailure
  rw [hcount, hmax]
  cases hstat : row.status with
  | ready | running => simp [hstat, JobStatus.isTerminal] at hterm
  | completed => split <;> simp [failed]
  | deadLettered =>
    split
    next hretry => simp [failed, hretry]
    next hretry => simpa [failed] using hretry

lemma find?_updateFailed {fail : Failure} {now : String} {row : JobRow β}
    (hfind : db.jobs.find? jobId = some row) :
    (updateFailed db jobId fail errorCode errorMessage now).jobs.find? jobId =
      some (failed fail errorCode errorMessage now row) := by
  have hid : row.id = jobId := (Table.find?_eq_some_iff.mp hfind).2
  rw [updateFailed, JobTables.updateJobs, Table.find?_updateWhere, hfind]
  simp [hid]

lemma terminalKept_fail_iff :
    TerminalKept db (store.fail db jobId errorCode errorMessage retryable nowMs).1 ↔
      Spares store db (.fail jobId errorCode errorMessage retryable nowMs) := by
  rcases fail_cases with ⟨hunread, heq⟩ | ⟨row, m, hfind, hmap, heq⟩
  · rw [heq]
    refine iff_of_true (terminalKept_refl db) fun row hrow hread => ?_
    rw [hunread row hrow] at hread
    cases hread
  · rw [heq]
    obtain ⟨hrow, hid⟩ := Table.find?_eq_some_iff.mp hfind
    have hok : (store.mapRow row).isOk := by rw [hmap]; rfl
    constructor
    · -- A terminal row that was kept is the updated one, so its status did not change.
      intro hkept found hfound _
      obtain rfl := Option.some.inj (hfind.symm.trans hfound)
      by_cases hterm : row.status.isTerminal
      · obtain ⟨later, hlater, hlaterId, hstat, _⟩ := hkept row hrow hterm
        have hupd := Table.find?_eq_some_iff.mpr ⟨hlater, hlaterId.trans hid⟩
        rw [find?_updateFailed hfind] at hupd
        rw [← Option.some.inj hupd] at hstat
        exact (status_failed_iff hmap hterm).mp hstat
      · cases hstat : row.status <;> simp_all [JobStatus.isTerminal]
    · intro hspares
      refine terminalKept_updateJobs fun other hoth hterm hmatch => ?_
      obtain rfl := Table.eq_of_key_eq hoth hrow ((of_decide_eq_true hmatch).trans hid.symm)
      refine ⟨?_, le_of_eq (by unfold failed; split <;> rfl)⟩
      exact (status_failed_iff hmap hterm).mpr (hspares other hfind hok)

/-- **Every call.** Exactly the calls that meet the condition keep the terminal rows. -/
lemma terminalKept_step_iff (db : JobTables β) (op : JobOp) :
    TerminalKept db (op.step store db) ↔ Spares store db op := by
  cases op with
  | enqueue input nowMs => exact iff_of_true (terminalKept_enqueue store db input nowMs) trivial
  | claim workerId jobType limit appId nowMs =>
    exact iff_of_true (terminalKept_claim store db workerId jobType limit appId nowMs) trivial
  | next _ _ _ nowMs => exact iff_of_true (terminalKept_claim store db _ _ _ _ nowMs) trivial
  | complete jobId res nowMs =>
    exact iff_of_true (terminalKept_complete store db jobId res nowMs) trivial
  | fail => exact terminalKept_fail_iff

/-! ## Every run -/

lemma terminalKept_run {db : JobTables β} {ops : List JobOp}
    (hg : Guarded (JobOp.step store) (Spares store) db ops) :
    TerminalKept db (run (JobOp.step store) db ops) :=
  run_relation (I := fun _ => True) (fun _ _ _ _ => trivial) terminalKept_refl
    (fun _ _ _ hab hbc => hab.trans hbc) (fun db op _ hop => (terminalKept_step_iff db op).mpr hop)
    trivial hg

/-- **Every run**, from any table: the terminal states are absorbing if and only if every call
meets the condition in the state it is made in. -/
theorem terminal_states_absorbing_iff (store : JobStore β) (db : JobTables β) (ops : List JobOp) :
    TerminalAbsorbing store db ops ↔ Guarded (JobOp.step store) (Spares store) db ops := by
  constructor
  · intro h
    refine guarded_iff_forall_split.mpr fun before op after heq => ?_
    have hkept := h before [op] after (by rw [heq]; simp)
    rw [run_concat] at hkept
    exact (terminalKept_step_iff _ op).mp hkept
  · intro hguard before middle after heq
    rw [heq, guarded_append, guarded_append] at hguard
    rw [run_append]
    exact terminalKept_run hguard.1.2

/-- A job is claimed by a worker and completed; the failure of a second worker comes late. -/
def lateFailure : List JobOp :=
  [.enqueue { tenantId := "_default", jobType := "TestJob", payload := .nil } 1000000000000,
    .claim "worker-a" none 10 none 1000000000000,
    .complete 1 none 1000000000001,
    .fail 1 "test.timeout" "late" true 1000000000002,
    .claim "worker-b" none 10 none 1000000060002]

/-- **A completed job runs again.** The late failure finds the job `completed`, puts it back to
`ready`, and the next claim runs it a second time. -/
theorem completed_job_claimed_again :
    ¬TerminalAbsorbing testJobStore JobTables.empty lateFailure ∧
      ((run (JobOp.step testJobStore) JobTables.empty lateFailure).jobs.find? 1).map
        (fun row => (row.status, row.attemptCount)) = some (.running, 2) := by
  refine ⟨fun h => ?_, by decide +kernel⟩
  have hkept := h (lateFailure.take 3) [.fail 1 "test.timeout" "late" true 1000000000002] _ rfl
  rw [run_concat, terminalKept_step_iff] at hkept
  revert hkept
  decide +kernel

end Frick.Properties
