import Frick.Framework.Custody
import Frick.Server.JobWorker

/-!
# One job, one handler

Any number of workers interleave their statements on one table. A job is in at most one worker's
hands, and it is claimed at most `max(1, max_attempts)` times.

A job in hand is `running`, and only `ready` jobs are claimed, so a claim never takes a job that
someone holds. A row's `attempt_count` is the number of its claims, and a row is `ready` again only
while it has attempts left: `fail` decides that on what it read, and between its read and its update
no one else changes a row in hand.
-/

namespace Frick.Properties

open Framework Protocol Store Server JobWorld JobStore List

variable {β : Type}

/-! ## What a step does -/

/-- What a worker decided about the job it is failing is what it would decide now. -/
def PlanCurrent (db : JobTables β) (tick : JobTick β) : Prop :=
  ∀ failure error, tick.stage = .recording failure error →
    ∀ row ∈ db.jobs, row.id = tick.job.id → failure = planFailure row error.retryable tick.nowMs

lemma planCurrent_of_stage {db : JobTables β} {tick : JobTick β}
    (hstage : ∀ fail error, tick.stage ≠ .recording fail error) : PlanCurrent db tick :=
  fun fail error heq => absurd heq (hstage fail error)

lemma planFailure_of_getById {store : JobStore β} {db : JobTables β} {read : JobRow Value}
    {row : JobRow β} (hread : store.getById db row.id none none = .ok (some read))
    (hrow : row ∈ db.jobs) (retryable : Bool) (nowMs : Int) :
    planFailure read retryable nowMs = planFailure row retryable nowMs := by
  rw [getById_eq, Table.find?_eq_some_iff.mpr ⟨hrow, rfl⟩] at hread
  cases hmap : store.mapRow row with
  | error => simp [mapFound, hmap, Except.map] at hread
  | ok m =>
    obtain rfl : m = read := by simpa [mapFound, hmap, Except.map] using hread
    obtain ⟨_, _, hcount, hmax, _⟩ := mapRow_eq_ok hmap
    unfold planFailure
    rw [hcount, hmax]

/-- The condition on a step: no worker dies with a job in hand, the first half of `complete` and
`fail` succeeds, and their update takes effect (whatever is reported about it). -/
def Settles (store : JobStore β) (s : JobWorld β) : JobLabel → Prop
  | .crash worker => (s.ticks worker).isNone = true
  | .readRow worker ok =>
    ∀ tick ∈ s.ticks worker, match tick.stage with
      | .completing result => ok = true ∧ (store.sealResult s.db tick.job.id result).isOk = true
      | .failing _ => ok = true
      | .handling | .storing _ | .recording .. => True
  | .writeRow worker applied =>
    ∀ tick ∈ s.ticks worker, match tick.stage with
      | .storing _ | .recording .. => applied = true
      | .handling | .completing _ | .failing _ => True
  | .enqueue .. | .tick .. | .handled .. => True

/-- What a step does. A job is dropped without an update on an error, or when its row cannot be
read. -/
inductive JobEffect (store : JobStore β) (workers : JobWorkers) (s : JobWorld β) :
    JobLabel → JobWorld β → Prop where
  | stay {label} (hsettles : Settles store s label) : JobEffect store workers s label s
  | enqueue (input nowMs) : JobEffect store workers s (.enqueue input nowMs)
      { s with db := (store.enqueue s.db input nowMs).1 }
  | claim {i} (hidle : s.ticks i = none) (nowMs) :
      JobEffect store workers s (.tick i nowMs) (s.claim store workers i nowMs)
  | stage {label i tick stage} (htick : s.ticks i = some tick) (hsettles : Settles store s label)
      (hplan : PlanCurrent s.db { tick with stage }) :
      JobEffect store workers s label (s.setTick i (some { tick with stage }))
  | drop {label i tick} (htick : s.ticks i = some tick) (hnot : Settles store s label →
        ∀ row, store.getById s.db tick.job.id none none ≠ .ok (some row)) :
      JobEffect store workers s label (s.settled workers i tick)
  | complete {label i tick} (htick : s.ticks i = some tick) (hsettles : Settles store s label)
      (stored now) : JobEffect store workers s label
        ({ s with db := updateCompleted s.db tick.job.id stored now }.settled workers i tick)
  | fail {label i tick failure error} (htick : s.ticks i = some tick)
      (hsettles : Settles store s label) (hstage : tick.stage = .recording failure error) :
      JobEffect store workers s label
        ({ s with
            db := updateFailed s.db tick.job.id failure error.errorCode error.errorMessage
              (isoFromEpochMs tick.nowMs) }.settled workers i tick)
  | crash (i) : JobEffect store workers s (.crash i) (s.setTick i none)

section Effect

variable (store : JobStore β) (workers : JobWorkers) (s : JobWorld β) {i : Nat} {tick : JobTick β}

lemma readRow_effect (htick : s.ticks i = some tick) (ok : Bool) :
    JobEffect store workers s (.readRow i ok) (s.readRow store workers i tick ok) := by
  unfold readRow
  cases hstage : tick.stage with
  | completing res =>
    dsimp only
    split
    next hseal =>
      refine .stage htick ?_ (planCurrent_of_stage nofun)
      simp [Settles, htick, hstage, hseal, Except.toBool]
    next hnot =>
      refine .drop htick fun hsett row hrow => ?_
      simp only [Settles, htick, Option.mem_def, Option.some.injEq, forall_eq', hstage] at hsett
      obtain ⟨stored, hsto⟩ := exists_sealResult hrow hsett.2
      exact hnot stored hsto hsett.1
  | failing error =>
    dsimp only
    split
    next row hread =>
      refine .stage htick (by simp [Settles, htick, hstage]) ?_
      intro fail error' hrecd found hfound hid
      obtain ⟨rfl, rfl⟩ := JobStage.recording.inj hrecd
      rw [← hid] at hread
      exact planFailure_of_getById hread hfound _ _
    next hnot =>
      refine .drop htick fun hsett row hrow => ?_
      simp only [Settles, htick, Option.mem_def, Option.some.injEq, forall_eq', hstage] at hsett
      exact hnot row hrow hsett
  | handling | storing | recording => exact .stay (by simp [Settles, htick, hstage])

lemma writeRow_effect (htick : s.ticks i = some tick) (applied : Bool) :
    JobEffect store workers s (.writeRow i applied) (s.writeRow workers i tick applied) := by
  unfold writeRow
  cases hstage : tick.stage with
  | storing =>
    cases applied with
    | false => exact .drop htick (by simp [Settles, htick, hstage])
    | true => exact .complete htick (by simp [Settles, htick, hstage]) _ _
  | recording =>
    cases applied with
    | false => exact .drop htick (by simp [Settles, htick, hstage])
    | true => exact .fail htick (by simp [Settles, htick, hstage]) hstage
  | handling | completing | failing => exact .stay (by simp [Settles, htick, hstage])

/-- **What a step can do**, whatever its label. -/
lemma step_effect (label : JobLabel) :
    JobEffect store workers s label (s.step store workers label) := by
  cases label with
  | enqueue input nowMs => exact .enqueue input nowMs
  | crash i => exact .crash i
  | tick i nowMs =>
    simp only [step]
    split
    next hidle => exact .claim hidle nowMs
    next => exact .stay trivial
  | handled i out =>
    simp only [step]
    split
    · exact .stay trivial
    next htick =>
      unfold handled
      split
      · refine .stage htick trivial (planCurrent_of_stage fun _ _ => ?_)
        cases out <;> simp
      · exact .stay trivial
  | readRow i ok =>
    simp only [step]
    split
    next hnone => exact .stay (by simp [Settles, hnone])
    next htick => exact readRow_effect store workers s htick ok
  | writeRow i applied =>
    simp only [step]
    split
    next hnone => exact .stay (by simp [Settles, hnone])
    next htick => exact writeRow_effect store workers s htick applied

end Effect

/-! ## The invariant -/

/-- A row's attempts are its claims, within its budget, and a `ready` row has one left. -/
structure WithinBudget (claims : List Int) (row : JobRow β) : Prop where
  counted : row.attemptCount = claims.count row.id
  bounded : row.attemptCount ≤ max 1 row.maxAttempts
  ready : row.status = .ready → row.attemptCount + 1 ≤ max 1 row.maxAttempts

/-- Who has which job in hand, and what the table says about it. -/
structure Custody (s : JobWorld β) : Prop where
  exclusive : Exclusive s.held
  running : ∀ i, ∀ jobId ∈ s.held i, jobId ∈ s.claims ∧
    ∃ row ∈ s.db.jobs, row.id = jobId ∧ row.status = .running
  budget : ∀ row ∈ s.db.jobs, WithinBudget s.claims row
  known : ∀ jobId ∈ s.claims, ∃ row ∈ s.db.jobs, row.id = jobId
  current : ∀ i tick, s.ticks i = some tick → PlanCurrent s.db tick

lemma custody_empty : Custody (empty : JobWorld β) where
  exclusive := exclusive_nil
  running _ _ h := absurd h not_mem_nil
  budget _ h := absurd h (Table.not_mem_empty _)
  known _ h := absurd h not_mem_nil
  current _ _ h := nomatch h

namespace Custody

variable {s : JobWorld β}

variable {i : Nat} {row : JobRow β} {tick : JobTick β} {jobId nowMs : Int}

variable (h : Custody s)
include h

lemma status_of_held (hrow : row ∈ s.db.jobs) (hheld : row.id ∈ s.held i) :
    row.status = .running := by
  obtain ⟨_, found, hfound, hid, hstat⟩ := h.running i row.id hheld
  rwa [← Table.eq_of_key_eq hfound hrow hid]

omit h in
lemma mem_held_of_tick (htick : s.ticks i = some tick) : tick.job.id ∈ s.held i := by
  rw [held_of_tick htick]
  exact mem_cons_self

/-! ## A worker goes on without a write -/

lemma keep {tick : Option (JobTick β)} (hsub : (JobTick.heldBy tick).Sublist (s.held i))
    (hplan : ∀ t, tick = some t → PlanCurrent s.db t) : Custody (s.setTick i tick) where
  exclusive := by
    rw [held_setTick]
    exact h.exclusive.keep i hsub
  running j jobId hmem := by
    rw [held_setTick] at hmem
    rcases mem_update_held hmem with ⟨_, hmem⟩ | ⟨_, hmem⟩
    · exact h.running i jobId (hsub.subset hmem)
    · exact h.running j jobId hmem
  budget := h.budget
  known := h.known
  current j t ht := by
    rcases ticks_setTick_cases ht with ⟨_, hnext⟩ | ⟨_, hold⟩
    · exact hplan t hnext
    · exact h.current j t hold

lemma settled (workers : JobWorkers) (htick : s.ticks i = some tick) :
    Custody (s.settled workers i tick) := by
  refine h.keep ?_ fun t ht => planCurrent_of_stage (stage_of_loop ht)
  rw [JobTick.heldBy_loop, held_of_tick htick]
  exact sublist_cons_self _ _

lemma setStage (htick : s.ticks i = some tick) {stage : JobStage β}
    (hplan : PlanCurrent s.db { tick with stage }) :
    Custody (s.setTick i (some { tick with stage })) := by
  refine h.keep ?_ fun t ht => ?_
  · rw [held_of_tick htick]
    exact List.Sublist.refl _
  · obtain rfl := Option.some.inj ht
    exact hplan

/-! ## A job is settled -/

lemma ne_of_held_settled {workers : JobWorkers} {j : Nat} (htick : s.ticks i = some tick)
    (hmem : jobId ∈ (s.settled workers i tick).held j) :
    jobId ∈ s.held j ∧ jobId ≠ tick.job.id := by
  have hheld := held_of_tick htick
  rw [JobWorld.settled, JobWorld.held_setTick, JobTick.heldBy_loop] at hmem
  rcases mem_update_held hmem with ⟨rfl, hrest⟩ | ⟨hj, hoth⟩
  · refine ⟨by rw [hheld]; exact mem_cons_of_mem _ hrest, ?_⟩
    rintro rfl
    have hnd := h.exclusive.nodup j
    rw [hheld] at hnd
    exact (nodup_cons.mp hnd).1 hrest
  · refine ⟨hoth, ?_⟩
    rintro rfl
    exact hj (h.exclusive.eq_of_mem j i _ hoth (mem_held_of_tick htick))

lemma settle (workers : JobWorkers) (htick : s.ticks i = some tick) {p : JobRow β → Bool}
    {f : JobRow β → JobRow β} {hf : ∀ row, (f row).id = row.id}
    (hp : ∀ row, p row → row.id = tick.job.id)
    (hcount : ∀ row, (f row).attemptCount = row.attemptCount)
    (hmax : ∀ row, (f row).maxAttempts = row.maxAttempts)
    (hready : ∀ row ∈ s.db.jobs, p row → (f row).status = .ready →
      row.attemptCount < row.maxAttempts) :
    Custody ({ s with db := s.db.updateJobs p f hf }.settled workers i tick) := by
  have hgone := h.settled workers htick
  -- Everyone else's rows, and the rest of the batch, are not the row that is updated.
  have hkeep : ∀ row ∈ s.db.jobs, row.id ≠ tick.job.id → row ∈ (s.db.updateJobs p f hf).jobs := by
    intro row hrow hne
    refine JobTables.mem_updateJobs.mpr ⟨row, hrow, ?_⟩
    rw [if_neg fun hmatch => hne (hp row hmatch)]
  have hback : ∀ row ∈ (s.db.updateJobs p f hf).jobs, row.id ≠ tick.job.id → row ∈ s.db.jobs := by
    intro row hrow hne
    obtain ⟨old, hold, rfl⟩ := JobTables.mem_updateJobs.mp hrow
    by_cases hmatch : p old
    · rw [if_pos hmatch, hf, hp old hmatch] at hne
      exact absurd rfl hne
    · rwa [if_neg hmatch]
  refine ⟨hgone.exclusive, ?_, ?_, ?_, ?_⟩
  · intro j jobId hmem
    obtain ⟨hheld, hne⟩ := h.ne_of_held_settled htick hmem
    obtain ⟨htaken, row, hrow, rfl, hstat⟩ := h.running j jobId hheld
    exact ⟨htaken, row, hkeep row hrow hne, rfl, hstat⟩
  · intro row hrow
    obtain ⟨old, hold, rfl⟩ := JobTables.mem_updateJobs.mp hrow
    have hbudget := h.budget old hold
    by_cases hmatch : p old
    · rw [if_pos hmatch]
      refine ⟨?_, ?_, fun hstat => ?_⟩
      · rw [hcount, hf]
        exact hbudget.counted
      · rw [hcount, hmax]
        exact hbudget.bounded
      · rw [hcount, hmax]
        have hleft := hready old hold hmatch hstat
        omega
    · rwa [if_neg hmatch]
  · intro jobId hclaim
    obtain ⟨row, hrow, hid⟩ := h.known jobId hclaim
    refine ⟨_, JobTables.mem_updateJobs.mpr ⟨row, hrow, rfl⟩, ?_⟩
    rw [← hid]
    split
    · exact hf row
    · rfl
  · intro j t ht
    rcases ticks_setTick_cases ht with ⟨_, hnext⟩ | ⟨hj, hold⟩
    · exact planCurrent_of_stage (stage_of_loop hnext)
    intro fail error hstage row hrow hid
    have hne : row.id ≠ tick.job.id := by
      rw [hid]
      intro heq
      have hmine := mem_held_of_tick htick
      rw [← heq] at hmine
      exact hj (h.exclusive.eq_of_mem j i _ (mem_held_of_tick hold) hmine)
    exact h.current j t hold fail error hstage row (hback row hrow hne) hid

/-! ## A batch is claimed -/

lemma not_mem_claimIds (hheld : jobId ∈ s.held i) {jobType : Option String} {limit : Int}
    {appId : Option String} : jobId ∉ claimIds s.db jobType limit appId nowMs := by
  intro hclaim
  obtain ⟨row, hrow, rfl, hdue⟩ := exists_of_mem_claimIds hclaim
  have hrunn := h.status_of_held hrow hheld
  rw [status_of_isClaimable hdue] at hrunn
  cases hrunn

omit h in
lemma withinBudget_claimed {claims ids : List Int} (hnd : ids.Nodup)
    (h : WithinBudget claims row) (hready : row.id ∈ ids → row.status = .ready)
    (workerId now : String) :
    WithinBudget (claims ++ ids) (if row.id ∈ ids then claimed workerId now row else row) := by
  by_cases hmem : row.id ∈ ids
  · rw [if_pos hmem]
    have hone : ids.count row.id = 1 := count_eq_one_of_mem hnd hmem
    have hcounted := h.counted
    refine ⟨?_, h.ready (hready hmem), fun hstat => nomatch hstat⟩
    show row.attemptCount + 1 = ((claims ++ ids).count row.id : Int)
    rw [count_append]
    omega
  · rw [if_neg hmem]
    refine ⟨?_, h.bounded, h.ready⟩
    rw [count_append, count_eq_zero_of_not_mem hmem]
    exact h.counted

lemma claim (store : JobStore β) (workers : JobWorkers) (i : Nat) (nowMs : Int) :
    Custody (s.claim store workers i nowMs) := by
  obtain ⟨tick, hworld, hnd, hsub, hstage, _⟩ := claim_spec store workers s i nowMs
  set ids := claimIds s.db none (workers.claimBatchSize i) none nowMs
  rw [hworld]
  have hfree : ∀ jobId ∈ JobTick.heldBy tick, ∀ j, jobId ∉ s.held j :=
    fun jobId hjobId j hj => h.not_mem_claimIds hj (hsub jobId hjobId)
  have hrows (row : JobRow β) : row ∈ (store.claim s.db (workers.workerId i) none
      (workers.claimBatchSize i) none nowMs).1.jobs ↔ _ := mem_claim
  refine ⟨?_, ?_, ?_, ?_, ?_⟩
  · rw [held_mk]
    exact h.exclusive.take i hnd hfree
  · intro j jobId hmem
    rw [held_mk] at hmem
    rcases mem_update_held hmem with ⟨_, hmine⟩ | ⟨_, hoth⟩
    · obtain ⟨old, hold, rfl, _⟩ := exists_of_mem_claimIds (hsub jobId hmine)
      refine ⟨mem_append_right _ (hsub old.id hmine), _, (hrows _).mpr ⟨old, hold, rfl⟩, ?_⟩
      rw [if_pos (hsub old.id hmine)]
      exact ⟨rfl, rfl⟩
    · obtain ⟨htaken, old, hold, rfl, hstat⟩ := h.running j jobId hoth
      refine ⟨mem_append_left _ htaken, _, (hrows _).mpr ⟨old, hold, rfl⟩, ?_⟩
      rw [if_neg (h.not_mem_claimIds hoth)]
      exact ⟨rfl, hstat⟩
  · intro row hrow
    obtain ⟨old, hold, rfl⟩ := (hrows row).mp hrow
    exact withinBudget_claimed (nodup_claimIds ..) (h.budget old hold)
      (status_of_mem_claimIds hold) _ _
  · intro jobId hmem
    have hknown : ∃ old ∈ s.db.jobs, old.id = jobId := by
      rcases mem_append.mp hmem with hold | hnew
      · exact h.known jobId hold
      · obtain ⟨old, hold, hid, _⟩ := exists_of_mem_claimIds hnew
        exact ⟨old, hold, hid⟩
    obtain ⟨old, hold, rfl⟩ := hknown
    refine ⟨_, (hrows _).mpr ⟨old, hold, rfl⟩, ?_⟩
    split <;> rfl
  · intro j t ht
    rcases ticks_setTick_cases (s := s) ht with ⟨_, hnext⟩ | ⟨_, hoth⟩
    · exact planCurrent_of_stage (hstage t hnext)
    · -- The row of a job that someone holds is not claimed, so it is the row that was there.
      intro fail error hrecd row hrow hid
      obtain ⟨old, hold, rfl⟩ := (hrows row).mp hrow
      have hidOld : old.id = t.job.id := by
        rw [← hid]
        split <;> rfl
      have hfreeOld : old.id ∉ ids := by
        rw [hidOld]
        exact h.not_mem_claimIds (mem_held_of_tick hoth)
      rw [if_neg hfreeOld]
      exact h.current j t hoth fail error hrecd old hold hidOld

/-! ## A job is enqueued -/

lemma enqueue (store : JobStore β) (input : EnqueueInput) (nowMs : Int) :
    Custody { s with db := (store.enqueue s.db input nowMs).1 } := by
  rcases store.enqueue_cases s.db input nowMs with heq | ⟨packed, ins, _, hins, heq⟩
  · rwa [heq]
  rw [heq]
  have hmem := @JobTables.mem_insertJob β s.db ins (newRow input packed nowMs)
  have hnew : ∀ jobId ∈ s.claims, jobId ≠ s.db.lastId + 1 := by
    intro jobId hclaim heq
    obtain ⟨row, hrow, hid⟩ := h.known jobId hclaim
    have hle := s.db.le_lastId row hrow
    omega
  refine ⟨h.exclusive, ?_, ?_, ?_, ?_⟩
  · intro i jobId hheld
    obtain ⟨htaken, row, hrow, hrest⟩ := h.running i jobId hheld
    exact ⟨htaken, row, (hmem hins).mpr (.inl hrow), hrest⟩
  · intro row hrow
    rcases (hmem hins).mp hrow with hold | rfl
    · exact h.budget row hold
    have hzero : s.claims.count (s.db.lastId + 1) = 0 :=
      count_eq_zero_of_not_mem fun hclaim => hnew _ hclaim rfl
    refine ⟨?_, ?_, fun _ => ?_⟩
    · show (0 : Int) = (s.claims.count (s.db.lastId + 1) : Int)
      rw [hzero]
      rfl
    · show (0 : Int) ≤ max 1 _
      omega
    · show (0 : Int) + 1 ≤ max 1 _
      omega
  · intro jobId hclaim
    obtain ⟨row, hrow, hid⟩ := h.known jobId hclaim
    exact ⟨row, (hmem hins).mpr (.inl hrow), hid⟩
  intro i tick htick fail error hstage row hrow hid
  rcases (hmem hins).mp hrow with hold | rfl
  · exact h.current i tick htick fail error hstage row hold hid
  -- The job at hand has a row already, and the new one has a new id.
  obtain ⟨_, held, hheld, hheldId, _⟩ := h.running i _ (mem_held_of_tick htick)
  have hle := s.db.le_lastId held hheld
  change s.db.lastId + 1 = tick.job.id at hid
  omega

/-! ## Every step -/

omit h in
lemma lt_of_status_failed {retryable : Bool} {errorCode errorMessage now : String}
    (h : (failed (planFailure row retryable nowMs) errorCode errorMessage now
      row).status = .ready) : row.attemptCount < row.maxAttempts := by
  unfold planFailure at h
  split at h
  next hretry => exact hretry.2
  next => cases h

lemma step (store : JobStore β) (workers : JobWorkers) (label : JobLabel) :
    Custody (s.step store workers label) := by
  have heff := step_effect store workers s label
  generalize s.step store workers label = next at heff ⊢
  cases heff with
  | stay => exact h
  | enqueue input nowMs => exact h.enqueue store input nowMs
  | claim _ nowMs => exact h.claim store workers _ nowMs
  | stage htick _ hplan => exact h.setStage htick hplan
  | drop htick => exact h.settled workers htick
  | complete htick =>
    exact h.settle workers htick (fun row hmatch => (of_decide_eq_true hmatch).1)
      (fun _ => rfl) (fun _ => rfl) fun _ _ _ hstat => nomatch hstat
  | @fail _ i tick failure error htick _ hstage =>
    refine h.settle workers htick (fun row hmatch => of_decide_eq_true hmatch)
      (fun row => ?_) (fun row => ?_) fun row hrow hmatch hstat => ?_
    · cases failure <;> rfl
    · cases failure <;> rfl
    · rw [h.current i tick htick failure error hstage row hrow (of_decide_eq_true hmatch)]
        at hstat
      exact lt_of_status_failed hstat
  | crash i =>
    have hnone : (JobTick.heldBy (none : Option (JobTick β))).Sublist (s.held i) := nil_sublist _
    exact h.keep hnone fun t ht => nomatch ht

lemma run (store : JobStore β) (workers : JobWorkers) (labels : List JobLabel) :
    Custody (Framework.run (JobWorld.step store workers) s labels) :=
  run_of_forall_step (fun _ label hs => hs.step store workers label) h labels

end Custody

/-- **Every run** of any workers: no job is in two workers' hands, and every job that was claimed
was claimed at most `max(1, max_attempts)` times. -/
theorem one_job_one_handler (store : JobStore β) (workers : JobWorkers) (labels : List JobLabel) :
    (∀ i j jobId,
      (run (step store workers) empty labels).Handles i jobId →
      (run (step store workers) empty labels).Handles j jobId → i = j) ∧
    ∀ jobId ∈ (run (step store workers) empty labels).claims,
      ∃ row, (run (step store workers) empty labels).db.jobs.find? jobId = some row ∧
        ((run (step store workers) empty labels).claims.count jobId : Int) ≤
          max 1 row.maxAttempts := by
  have h := custody_empty.run store workers labels
  constructor
  · rintro i j jobId ⟨mine, hmine, rfl⟩ ⟨yours, hyours, hid⟩
    have hheld := Custody.mem_held_of_tick hyours
    rw [hid] at hheld
    exact h.exclusive.eq_of_mem i j _ (Custody.mem_held_of_tick hmine) hheld
  · intro jobId hclaimed
    obtain ⟨row, hrow, rfl⟩ := h.known jobId hclaimed
    refine ⟨row, Table.find?_eq_some_iff.mpr ⟨hrow, rfl⟩, ?_⟩
    rw [← (h.budget row hrow).counted]
    exact (h.budget row hrow).bounded

end Frick.Properties
