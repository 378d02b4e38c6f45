import Frick.Framework.Run
import Frick.Store.Job

/-!
# Job workers

`jobs/worker.rs`: any number of `JobWorker`s polling one `jobs` table. A tick claims a batch and
runs its jobs one after the other: the handler, then `complete_job` or `fail_job`, whose errors are
logged and dropped.

A step is one statement of one worker, or one thing that happens to it: its handler returns, it
dies. `complete` and `fail` read the row before they update it, so each takes two steps, and the
steps of other workers can come in between. Handlers are not modelled; they return anything at any
time. `claims` records the ids of all claims made so far; no transition reads it.
-/

namespace Frick.Server

open Protocol Store JobStore Function

structure JobError where
  errorCode : String
  errorMessage : String
  retryable : Bool
  deriving Repr

/-- How far a worker is with a job. -/
inductive JobStage (β : Type) where
  /-- The handler runs. -/
  | handling
  /-- In `complete_job`, before the row is read. -/
  | completing (result : Value)
  /-- In `complete_job`, before the row is updated. -/
  | storing (stored : β)
  /-- In `fail_job`, before the row is read. -/
  | failing (error : JobError)
  /-- In `fail_job`, before the row is updated. -/
  | recording (failure : Failure) (error : JobError)

/-- A tick in progress: its time, the job at hand and the rest of the batch. -/
structure JobTick (β : Type) where
  nowMs : Int
  job : JobRow Value
  stage : JobStage β
  rest : List (JobRow Value)

/-- The workers of a deployment: their ids, batch sizes and the job types their registries
resolve. -/
structure JobWorkers where
  workerId : Nat → String
  claimBatchSize : Nat → Int
  resolves : Nat → String → Bool

/-- The table, what each worker is doing, and the claims made so far. -/
structure JobWorld (β : Type) where
  db : JobTables β
  ticks : Nat → Option (JobTick β)
  claims : List Int

/-- What happens next. -/
inductive JobLabel where
  | enqueue (input : EnqueueInput) (nowMs : Int)
  /-- An idle worker claims a batch. -/
  | tick (worker : Nat) (nowMs : Int)
  /-- The handler returns. -/
  | handled (worker : Nat) (outcome : Except JobError Value)
  /-- The first half of `complete` or `fail`; `ok` is false when its query fails. -/
  | readRow (worker : Nat) (ok : Bool)
  /-- The `UPDATE` of `complete` or `fail`; `applied` is false when it has no effect. An error that
  is reported after it took effect is logged and dropped like any other. -/
  | writeRow (worker : Nat) (applied : Bool)
  /-- The worker dies, and starts again with nothing in hand. -/
  | crash (worker : Nat)

namespace JobTick

variable {β : Type}

/-- The ids a tick in progress has in hand. -/
def heldBy : Option (JobTick β) → List Int
  | none => []
  | some tick => tick.job.id :: tick.rest.map JobRow.id

/-- The start of `run_job`: without a handler the job fails at once. -/
def start (resolves : String → Bool) (nowMs : Int) (job : JobRow Value)
    (rest : List (JobRow Value)) : JobTick β where
  nowMs := nowMs
  job := job
  stage :=
    if resolves job.jobType then .handling
    else .failing ⟨"jobs.unknownHandler",
      "No handler registered for job type \"" ++ job.jobType ++ "\"", false⟩
  rest := rest

/-- The loop of `poll_once` over what is left of the batch. -/
def loop (resolves : String → Bool) (nowMs : Int) : List (JobRow Value) → Option (JobTick β)
  | [] => none
  | job :: rest => some (start resolves nowMs job rest)

@[simp] lemma heldBy_loop (resolves : String → Bool) (nowMs : Int) (jobs : List (JobRow Value)) :
    heldBy (loop resolves nowMs jobs : Option (JobTick β)) = jobs.map JobRow.id := by
  cases jobs <;> rfl

end JobTick

open JobTick (heldBy)

namespace JobWorld

variable {β : Type} (store : JobStore β) (workers : JobWorkers)

def empty : JobWorld β := ⟨JobTables.empty, fun _ => none, []⟩

section

variable (s : JobWorld β) (worker : Nat)

def held : List Int := heldBy (s.ticks worker)

def setTick (tick : Option (JobTick β)) : JobWorld β :=
  { s with ticks := update s.ticks worker tick }

/-- The call that settles the job has returned: on to the rest of the batch. -/
def settled (tick : JobTick β) : JobWorld β :=
  s.setTick worker (JobTick.loop (workers.resolves worker) tick.nowMs tick.rest)

/-- The claim at the start of `poll_once`; its error is logged. -/
def claim (s : JobWorld β) (worker : Nat) (nowMs : Int) : JobWorld β :=
  let (db, claimed) := store.claim s.db (workers.workerId worker) none
    (workers.claimBatchSize worker) none nowMs
  let tick := match claimed with
    | .ok jobs => JobTick.loop (workers.resolves worker) nowMs jobs
    | .error _ => none
  { db := db
    ticks := update s.ticks worker tick
    claims := s.claims ++ claimIds s.db none (workers.claimBatchSize worker) none nowMs }

/-- The first half of `complete` or `fail`. -/
def readRow (tick : JobTick β) (ok : Bool) : JobWorld β :=
  match tick.stage with
  | .completing result =>
    match store.sealResult s.db tick.job.id result, ok with
    | .ok (some stored), true => s.setTick worker (some { tick with stage := .storing stored })
    | _, _ => s.settled workers worker tick
  | .failing error =>
    match store.getById s.db tick.job.id none none, ok with
    | .ok (some row), true =>
      let failure := planFailure row error.retryable tick.nowMs
      s.setTick worker (some { tick with stage := .recording failure error })
    | _, _ => s.settled workers worker tick
  | _ => s

/-- The `UPDATE` of `complete` or `fail`. -/
def writeRow (tick : JobTick β) (applied : Bool) : JobWorld β :=
  let now := isoFromEpochMs tick.nowMs
  match tick.stage with
  | .storing stored =>
    let db := updateCompleted s.db tick.job.id (some stored) now
    { s with db := if applied then db else s.db }.settled workers worker tick
  | .recording failure error =>
    let db := updateFailed s.db tick.job.id failure error.errorCode error.errorMessage now
    { s with db := if applied then db else s.db }.settled workers worker tick
  | _ => s

def handled (tick : JobTick β) (outcome : Except JobError Value) : JobWorld β :=
  match tick.stage with
  | .handling =>
    let stage := match outcome with
      | .ok result => .completing result
      | .error error => .failing error
    s.setTick worker (some { tick with stage })
  | _ => s

/-- One step; a label that does not fit the state changes nothing. -/
def step : JobLabel → JobWorld β
  | .enqueue input nowMs => { s with db := (store.enqueue s.db input nowMs).1 }
  | .tick worker nowMs =>
    match s.ticks worker with
    | none => s.claim store workers worker nowMs
    | some _ => s
  | .handled worker outcome =>
    match s.ticks worker with
    | none => s
    | some tick => s.handled worker tick outcome
  | .readRow worker ok =>
    match s.ticks worker with
    | none => s
    | some tick => s.readRow store workers worker tick ok
  | .writeRow worker applied =>
    match s.ticks worker with
    | none => s
    | some tick => s.writeRow workers worker tick applied
  | .crash worker => s.setTick worker none

end

variable {s : JobWorld β} {worker : Nat} {tick : JobTick β}

/-- The job is at hand in the worker's tick: its handler runs, or it is being settled. -/
def Handles (s : JobWorld β) (worker : Nat) (jobId : Int) : Prop :=
  ∃ tick, s.ticks worker = some tick ∧ tick.job.id = jobId

lemma held_setTick (s : JobWorld β) (worker : Nat) (tick : Option (JobTick β)) :
    (s.setTick worker tick).held = update s.held worker (heldBy tick) := by
  funext i
  by_cases hi : i = worker
  · simp [held, setTick, hi]
  · simp [held, setTick, update_of_ne hi]

lemma held_mk (s : JobWorld β) (worker : Nat) (tick : Option (JobTick β)) (db : JobTables β)
    (claims : List Int) : held ⟨db, (s.setTick worker tick).ticks, claims⟩ =
      update s.held worker (heldBy tick) := held_setTick s worker tick

lemma ticks_setTick_cases {i : Nat} {next : Option (JobTick β)}
    (h : (s.setTick worker next).ticks i = some tick) :
    i = worker ∧ next = some tick ∨ i ≠ worker ∧ s.ticks i = some tick := by
  change update s.ticks worker next i = some tick at h
  by_cases hi : i = worker
  · rw [hi, update_self] at h
    exact .inl ⟨hi, h⟩
  · rw [update_of_ne hi] at h
    exact .inr ⟨hi, h⟩

lemma held_of_tick (h : s.ticks worker = some tick) :
    s.held worker = tick.job.id :: tick.rest.map JobRow.id := by
  rw [held, h]
  rfl

lemma stage_of_loop {resolves : String → Bool} {nowMs : Int} {jobs : List (JobRow Value)}
    (h : JobTick.loop resolves nowMs jobs = some tick) (failure : Failure)
    (error : JobError) : tick.stage ≠ .recording failure error := by
  cases jobs with
  | nil => cases h
  | cons job =>
    obtain rfl := Option.some.inj h
    show (if resolves job.jobType then JobStage.handling else _) ≠ _
    split <;> simp

/-- A claim puts the ids it took in the worker's hands, or, when a row does not decode, in no
one's. -/
lemma claim_spec (s : JobWorld β) (worker : Nat) (nowMs : Int) :
    let ids := claimIds s.db none (workers.claimBatchSize worker) none nowMs
    let claimed := store.claim s.db (workers.workerId worker) none
      (workers.claimBatchSize worker) none nowMs
    ∃ tick : Option (JobTick β),
      s.claim store workers worker nowMs =
        ⟨claimed.1, (s.setTick worker tick).ticks, s.claims ++ ids⟩ ∧
      (heldBy tick).Nodup ∧ (∀ jobId ∈ heldBy tick, jobId ∈ ids) ∧
      (∀ t, tick = some t → ∀ failure error, t.stage ≠ .recording failure error) ∧
      (∀ jobs, claimed.2 = .ok jobs → ∀ jobId ∈ ids, jobId ∈ heldBy tick) := by
  intro ids claimed
  cases hjobs : claimed.2 with
  | error err =>
    refine ⟨none, ?_, List.nodup_nil, by simp [heldBy], ?_, ?_⟩
    · simp only [claim, setTick]
      rw [show store.claim s.db (workers.workerId worker) none (workers.claimBatchSize worker)
        none nowMs = (claimed.1, .error err) from Prod.ext rfl hjobs]
    · intro t ht
      cases ht
    · intro jobs heq
      cases heq
  | ok jobs =>
    obtain ⟨hnodup, hmem⟩ := claim_returns hjobs
    refine ⟨JobTick.loop (workers.resolves worker) nowMs jobs, ?_, ?_, ?_, ?_, ?_⟩
    · simp only [claim, setTick]
      rw [show store.claim s.db (workers.workerId worker) none (workers.claimBatchSize worker)
        none nowMs = (claimed.1, .ok jobs) from Prod.ext rfl hjobs]
    · rwa [JobTick.heldBy_loop]
    · intro jobId hjobId
      rw [JobTick.heldBy_loop] at hjobId
      exact (hmem jobId).mp hjobId
    · exact fun t ht => stage_of_loop ht
    · intro _ _ jobId hjobId
      rw [JobTick.heldBy_loop]
      exact (hmem jobId).mpr hjobId

end JobWorld

end Frick.Server
