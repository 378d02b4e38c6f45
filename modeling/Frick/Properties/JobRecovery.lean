import Frick.Properties.JobCustody

/-!
# Jobs whose settlement is lost

A worker drops the errors of `complete` and `fail`; "the next tick re-claims if the write was lost",
says `complete_job`. The claim query takes `ready` rows only, and only `fail` makes a row `ready`
again, so a job that was in hand when its settlement was lost stays `running` for good.

`Lost` is that state of affairs. In the runs of `Settles`, which leave out every way to lose a
settlement, every claimed job is in some worker's hands, ended, or waiting for its backoff to run
out.
-/

namespace Frick.Properties

open Framework Store Server JobWorld JobStore List Option

variable {β : Type} (store : JobStore β) (workers : JobWorkers)

/-! ## The property and its condition -/

/-- A claim of the row's type and app at the given time, with the queue otherwise empty, returns
the job. -/
def Reclaimed (row : JobRow β) (nowMs : Int) : Prop :=
  ∀ (db : JobTables β) (workerId : String) (limit : Int), row ∈ db.jobs → limit ≠ 0 →
    (∀ other ∈ db.jobs, isClaimable (some row.jobType) (some row.appId)
      (isoFromEpochMs nowMs) other = true → other.id = row.id) →
    ∃ jobs, (store.claim db workerId (some row.jobType) limit (some row.appId) nowMs).2 = .ok jobs ∧
      ∃ job ∈ jobs, job.id = row.id

/-- The job was claimed, has not ended, and no worker has it in hand: its settlement is lost, or
has put it back to `ready`. -/
structure Unattended (s : JobWorld β) (row : JobRow β) : Prop where
  mem : row ∈ s.db.jobs
  claimed : row.id ∈ s.claims
  alive : row.status.isTerminal = false
  unheld : ∀ i, row.id ∉ s.held i

/-- In every state of the run, some later claim returns every unattended job. -/
def NeverStranded (labels : List JobLabel) : Prop :=
  ∀ before after, labels = before ++ after →
    ∀ row, Unattended (run (step store workers) empty before) row →
      ∃ nowMs, Reclaimed store row nowMs

variable {store workers} {s : JobWorld β}

/-! ## A lost job stays lost -/

/-- The job is `running` and in no one's hands. -/
structure Lost (s : JobWorld β) (row : JobRow β) : Prop where
  mem : row ∈ s.db.jobs
  running : row.status = .running
  unheld : ∀ i, row.id ∉ s.held i

namespace Lost

variable {row : JobRow β}

lemma not_mem_claimIds (h : Lost s row) (jobType : Option String) (limit : Int)
    (appId : Option String) (now : Int) :
    row.id ∉ claimIds s.db jobType limit appId now := by
  intro hclaim
  have hready := status_of_mem_claimIds h.mem hclaim
  rw [h.running] at hready
  cases hready

variable {i : Nat} {tick : JobTick β}

section

variable (h : Lost s row)
include h

lemma setTick {tick : Option (JobTick β)} (hfree : row.id ∉ JobTick.heldBy tick) :
    Lost (s.setTick i tick) row := by
  refine ⟨h.mem, h.running, fun j hj => ?_⟩
  rw [held_setTick] at hj
  rcases mem_update_held hj with ⟨_, hmine⟩ | ⟨_, hoth⟩
  · exact hfree hmine
  · exact h.unheld j hoth

section

variable (htick : s.ticks i = some tick)
include htick

lemma ne_of_tick : row.id ≠ tick.job.id := by
  intro heq
  refine h.unheld i ?_
  rw [heq]
  exact Custody.mem_held_of_tick htick

lemma settled : Lost (s.settled workers i tick) row := by
  refine h.setTick ?_
  rw [JobTick.heldBy_loop]
  intro hrest
  refine h.unheld i ?_
  rw [held_of_tick htick]
  exact mem_cons_of_mem _ hrest

lemma setStage (stage : JobStage β) :
    Lost (s.setTick i (some { tick with stage })) row := by
  refine h.setTick ?_
  have hfree := h.unheld i
  rwa [held_of_tick htick] at hfree

end

lemma updateJobs {p : JobRow β → Bool} {f : JobRow β → JobRow β}
    {hf : ∀ r, (f r).id = r.id} (hp : p row = false) :
    Lost { s with db := s.db.updateJobs p f hf } row := by
  refine ⟨JobTables.mem_updateJobs.mpr ⟨row, h.mem, ?_⟩, h.running, h.unheld⟩
  rw [hp]
  rfl

lemma claim (i : Nat) (now : Int) : Lost (s.claim store workers i now) row := by
  obtain ⟨tick, hworld, _, hsub, _⟩ := claim_spec store workers s i now
  have hnot := h.not_mem_claimIds none (workers.claimBatchSize i) none now
  have hmoved : Lost (s.setTick i tick) row := h.setTick fun hmine => hnot (hsub row.id hmine)
  have hmem : row ∈ (store.claim s.db (workers.workerId i) none (workers.claimBatchSize i) none
      now).1.jobs := mem_claim.mpr ⟨row, h.mem, by rw [if_neg hnot]⟩
  rw [hworld]
  exact ⟨hmem, h.running, hmoved.unheld⟩

lemma enqueue (input : EnqueueInput) (now : Int) :
    Lost { s with db := (store.enqueue s.db input now).1 } row := by
  refine ⟨?_, h.running, h.unheld⟩
  rcases store.enqueue_cases s.db input now with heq | ⟨packed, ins, _, hins, heq⟩
  · rw [heq]
    exact h.mem
  · rw [heq]
    exact (JobTables.mem_insertJob hins).mpr (.inl h.mem)

lemma step (label : JobLabel) : Lost (s.step store workers label) row := by
  have heff := step_effect store workers s label
  generalize s.step store workers label = next at heff ⊢
  cases heff with
  | stay => exact h
  | enqueue input now => exact h.enqueue input now
  | claim _ now => exact h.claim _ now
  | stage htick => exact h.setStage htick _
  | drop htick => exact h.settled htick
  | complete htick | fail htick =>
    have hne := h.ne_of_tick htick
    exact (h.updateJobs (by simp [hne])).settled htick
  | crash => exact h.setTick (by simp [JobTick.heldBy])

end

lemma run (store : JobStore β) (workers : JobWorkers) (h : Lost s row) (labels : List JobLabel) :
    Lost (Framework.run (JobWorld.step store workers) s labels) row :=
  run_of_forall_step (I := fun t => Lost t row) (fun _ label ht => ht.step label) h labels

end Lost

lemma not_reclaimed_of_running {row : JobRow β} (h : row.status = .running) (now : Int) :
    ¬Reclaimed store row now := by
  intro hrecl
  -- A table with nothing but the row.
  have hsing : ∀ r ∈ (⟨[row], nodup_singleton _⟩ : Table (JobRow.id : JobRow β → Int)),
      r.id ≤ row.id := fun r hr => le_of_eq (congrArg _ (mem_singleton.mp hr))
  obtain ⟨jobs, hclaim, job, hjob, hid⟩ := hrecl ⟨_, row.id, hsing⟩ "" 1
    (mem_singleton.mpr rfl) (by decide)
    fun other hoth _ => congrArg _ (mem_singleton.mp hoth)
  have htaken := ((claim_returns hclaim).2 job.id).mp (mem_map_of_mem hjob)
  rw [hid] at htaken
  have hready := status_of_mem_claimIds (mem_singleton.mpr rfl) htaken
  rw [h] at hready
  cases hready

/-! ## How a job is lost -/

lemma lost_of_crash (h : Custody s) {i : Nat} {tick : JobTick β} (htick : s.ticks i = some tick) :
    ∃ row, row.id = tick.job.id ∧ Lost (s.setTick i none) row := by
  have hmine := Custody.mem_held_of_tick htick
  obtain ⟨_, row, hrow, hid, hstat⟩ := h.running i _ hmine
  refine ⟨row, hid, hrow, hstat, fun j hj => ?_⟩
  rw [held_setTick] at hj
  rcases mem_update_held hj with ⟨_, hnone⟩ | ⟨hne, hoth⟩
  · cases hnone
  · rw [hid] at hoth
    exact hne (h.exclusive.eq_of_mem j i _ hoth hmine)

lemma lost_of_settled (workers : JobWorkers) (h : Custody s) {i : Nat} {tick : JobTick β}
    (htick : s.ticks i = some tick) :
    ∃ row, row.id = tick.job.id ∧ Lost (s.settled workers i tick) row := by
  obtain ⟨_, row, hrow, hid, hstat⟩ := h.running i _ (Custody.mem_held_of_tick htick)
  refine ⟨row, hid, hrow, hstat, fun j hj => ?_⟩
  exact (h.ne_of_held_settled htick hj).2 hid

/-- **A step that does not meet the condition** loses a job that was in hand. -/
lemma lost_of_not_settles (workers : JobWorkers) (h : Custody s) {label : JobLabel}
    (hlabel : ¬Settles store s label) :
    ∃ i row, row.id ∈ s.held i ∧ Lost (s.step store workers label) row := by
  have hlose {i : Nat} {tick : JobTick β} {next : JobWorld β} (htick : s.ticks i = some tick)
      (hstep : ∃ row, row.id = tick.job.id ∧ Lost next row) :
      ∃ i row, row.id ∈ s.held i ∧ Lost next row := by
    obtain ⟨row, hid, hlost⟩ := hstep
    exact ⟨i, row, by rw [hid]; exact Custody.mem_held_of_tick htick, hlost⟩
  have heff := step_effect store workers s label
  generalize s.step store workers label = next at heff ⊢
  cases heff with
  | stay hsett | stage _ hsett | complete _ hsett | fail _ hsett =>
    exact absurd hsett hlabel
  | enqueue | claim => exact absurd trivial hlabel
  | drop htick => exact hlose htick (lost_of_settled workers h htick)
  | crash i =>
    cases htick : s.ticks i with
    | none => simp [Settles, htick] at hlabel
    | some => exact hlose htick (lost_of_crash h htick)

/-! ## Runs that lose nothing -/

/-- A `ready` row that was claimed before waits for its backoff after the failure it records. -/
def BacksOff (row : JobRow β) : Prop :=
  ∃ failedMs, row.failedAt = some (isoFromEpochMs failedMs) ∧
    row.availableAt = isoFromEpochMs (failedMs + jobBackoffMs row.attemptCount)

/-- Whoever is `running` is in hand, whoever is `ready` again waits for its backoff, and what can
be claimed can be decoded. -/
structure Attended (store : JobStore β) (s : JobWorld β) : Prop where
  running : ∀ row ∈ s.db.jobs, row.status = .running → ∃ i, row.id ∈ s.held i
  rearmed : ∀ row ∈ s.db.jobs, row.status = .ready → row.id ∈ s.claims → BacksOff row
  readable : ∀ row ∈ s.db.jobs, row.status ≠ .completed →
    ∃ payload, store.decodeColumn row.tenantId row.payload = .ok payload

namespace Attended

variable {i : Nat} {tick : JobTick β}

lemma of_rows (h : ∀ row ∈ s.db.jobs, (row.status = .running → ∃ i, row.id ∈ s.held i) ∧
      (row.status = .ready → row.id ∈ s.claims → BacksOff row) ∧
      (row.status ≠ .completed →
        ∃ pay, store.decodeColumn row.tenantId row.payload = .ok pay)) :
    Attended store s :=
  ⟨fun row hrow => (h row hrow).1, fun row hrow => (h row hrow).2.1,
    fun row hrow => (h row hrow).2.2⟩

lemma setTick (h : Attended store s) {tick : Option (JobTick β)}
    (hsame : JobTick.heldBy tick = s.held i) : Attended store (s.setTick i tick) := by
  refine ⟨fun row hrow hstat => ?_, h.rearmed, h.readable⟩
  obtain ⟨j, hj⟩ := h.running row hrow hstat
  refine ⟨j, ?_⟩
  rwa [held_setTick, hsame, Function.update_eq_self]

lemma setStage (h : Attended store s) (htick : s.ticks i = some tick) (stage : JobStage β) :
    Attended store (s.setTick i (some { tick with stage })) := by
  refine h.setTick ?_
  rw [held_of_tick htick]
  rfl

lemma held_settled {j : Nat} (htick : s.ticks i = some tick) {jobId : Int}
    (hheld : jobId ∈ s.held j) (hne : jobId ≠ tick.job.id) :
    jobId ∈ (s.settled workers i tick).held j := by
  rw [settled, held_setTick, JobTick.heldBy_loop]
  by_cases hj : j = i
  · rw [hj, Function.update_self]
    rw [hj, held_of_tick htick] at hheld
    rcases mem_cons.mp hheld with heq | hrest
    · exact absurd heq hne
    · exact hrest
  · rwa [Function.update_of_ne hj]

lemma settle (h : Attended store s) (htick : s.ticks i = some tick) {p : JobRow β → Bool}
    {f : JobRow β → JobRow β} {hf : ∀ row, (f row).id = row.id}
    (hp : ∀ row ∈ s.db.jobs, row.id = tick.job.id → p row)
    (hrunn : ∀ row, (f row).status ≠ .running)
    (hready : ∀ row ∈ s.db.jobs, p row → (f row).status = .ready → BacksOff (f row))
    (hread : ∀ row ∈ s.db.jobs, p row → (f row).status ≠ .completed →
      row.status ≠ .completed ∧ (f row).tenantId = row.tenantId ∧ (f row).payload = row.payload) :
    Attended store ({ s with db := s.db.updateJobs p f hf }.settled workers i tick) := by
  refine of_rows fun row hrow => ?_
  obtain ⟨old, hold, rfl⟩ := JobTables.mem_updateJobs.mp hrow
  by_cases hmatch : p old
  · rw [if_pos hmatch]
    refine ⟨fun hstat => absurd hstat (hrunn old), fun hstat _ => hready old hold hmatch hstat,
      fun hstat => ?_⟩
    obtain ⟨halive, hten, hpay⟩ := hread old hold hmatch hstat
    rw [hten, hpay]
    exact h.readable old hold halive
  · rw [if_neg hmatch]
    refine ⟨fun hstat => ?_, h.rearmed old hold, h.readable old hold⟩
    obtain ⟨j, hj⟩ := h.running old hold hstat
    exact ⟨j, held_settled htick hj fun hid => hmatch (hp old hold hid)⟩

lemma claim (h : Attended store s) (i : Nat) (now : Int) (hidle : s.ticks i = none) :
    Attended store (s.claim store workers i now) := by
  obtain ⟨tick, hworld, _, _, _, hall⟩ := claim_spec store workers s i now
  set ids := claimIds s.db none (workers.claimBatchSize i) none now
  -- Every row that is taken can be decoded, so the claim returns all of them.
  obtain ⟨jobs, hjobs⟩ : ∃ jobs, (store.claim s.db (workers.workerId i) none
      (workers.claimBatchSize i) none now).2 = .ok jobs := by
    refine exists_claim fun row hrow htaken => h.readable row hrow ?_
    rw [status_of_mem_claimIds hrow htaken]
    simp
  have hrows (row : JobRow β) : row ∈ (store.claim s.db (workers.workerId i) none
      (workers.claimBatchSize i) none now).1.jobs ↔ _ := mem_claim
  rw [hworld]
  refine of_rows fun row hrow => ?_
  obtain ⟨old, hold, rfl⟩ := (hrows row).mp hrow
  rw [held_mk]
  by_cases htaken : old.id ∈ ids
  · rw [if_pos htaken]
    refine ⟨fun _ => ⟨i, ?_⟩, nofun, fun _ => h.readable old hold ?_⟩
    · rw [Function.update_self]
      exact hall jobs hjobs old.id htaken
    · rw [status_of_mem_claimIds hold htaken]
      simp
  · rw [if_neg htaken]
    refine ⟨fun hstat => ?_, fun hstat hclaim => ?_, h.readable old hold⟩
    · obtain ⟨j, hj⟩ := h.running old hold hstat
      have hne : j ≠ i := by
        rintro rfl
        rw [held, hidle] at hj
        cases hj
      exact ⟨j, by rw [Function.update_of_ne hne]; exact hj⟩
    · rcases mem_append.mp hclaim with hpre | hnow
      · exact h.rearmed old hold hstat hpre
      · exact absurd hnow htaken

lemma enqueue (hcustody : Custody s) (h : Attended store s) (input : EnqueueInput) (now : Int) :
    Attended store { s with db := (store.enqueue s.db input now).1 } := by
  rcases store.enqueue_cases s.db input now with heq | ⟨packed, ins, hpacked, hins, heq⟩
  · rwa [heq]
  rw [heq]
  refine of_rows fun row hrow => ?_
  rcases (JobTables.mem_insertJob hins).mp hrow with hold | rfl
  · exact ⟨h.running row hold, h.rearmed row hold, h.readable row hold⟩
  refine ⟨nofun, fun _ hclaim => ?_,
    fun _ => ⟨input.payload, PackedColumn.decodeColumn_of_encodeColumn hpacked⟩⟩
  -- The new id was never claimed.
  obtain ⟨known, hknown, hid⟩ := hcustody.known _ hclaim
  have hle := s.db.le_lastId known hknown
  change known.id = s.db.lastId + 1 at hid
  omega

section

variable (hcustody : Custody s) (h : Attended store s) (htick : s.ticks i = some tick)
include hcustody h htick

lemma exists_getById : ∃ row, store.getById s.db tick.job.id none none = .ok (some row) := by
  obtain ⟨_, row, hrow, hid, hstat⟩ := hcustody.running i _ (Custody.mem_held_of_tick htick)
  obtain ⟨pay, hdec⟩ := h.readable row hrow (by rw [hstat]; simp)
  obtain ⟨m, hmapped⟩ := exists_mapRow hdec
  refine ⟨m, ?_⟩
  rw [getById_eq, Table.find?_eq_some_iff.mpr ⟨hrow, hid⟩]
  simp [mapFound, hmapped, Except.map]

omit h in
lemma status_of_tick {row : JobRow β} (hrow : row ∈ s.db.jobs) (hid : row.id = tick.job.id) :
    row.status = .running := by
  refine hcustody.status_of_held hrow (i := i) ?_
  rw [hid]
  exact Custody.mem_held_of_tick htick

end

lemma step (hcustody : Custody s) (h : Attended store s) (label : JobLabel)
    (hg : Settles store s label) : Attended store (s.step store workers label) := by
  have heff := step_effect store workers s label
  generalize s.step store workers label = next at heff ⊢
  cases heff with
  | stay => exact h
  | enqueue input now => exact h.enqueue hcustody input now
  | claim hidle now => exact h.claim _ now hidle
  | stage htick => exact h.setStage htick _
  | drop htick hnot =>
    obtain ⟨row, hrow⟩ := exists_getById hcustody h htick
    exact absurd hrow (hnot hg row)
  | complete htick =>
    refine h.settle htick (fun row hrow hid => ?_) (fun _ => by simp [completed])
      (fun _ _ _ hready => by simp [completed] at hready)
      fun _ _ _ hcompleted => absurd rfl hcompleted
    rw [decide_eq_true_eq, status_of_tick hcustody htick hrow hid]
    exact ⟨hid, by simp⟩
  | @fail _ i tick failure error htick _ hstage =>
    refine h.settle htick (fun row _ hid => decide_eq_true hid) (fun row => ?_)
      (fun row hrow hmatch hready => ?_) fun row hrow hmatch _ => ⟨?_, ?_, ?_⟩
    · cases failure <;> simp [failed]
    · have hid := of_decide_eq_true hmatch
      rw [hcustody.current i tick htick failure error hstage row hrow hid] at hready ⊢
      unfold planFailure at hready ⊢
      split at hready
      · rw [if_pos (by assumption)]
        exact ⟨tick.nowMs, rfl, rfl⟩
      · cases hready
    · rw [status_of_tick hcustody htick hrow (of_decide_eq_true hmatch)]
      simp
    · cases failure <;> rfl
    · cases failure <;> rfl
  | crash =>
    refine h.setTick ?_
    rw [held, isNone_iff_eq_none.mp hg]

end Attended

/-! ## Every run -/

lemma claims_subset_step (store : JobStore β) (workers : JobWorkers) (s : JobWorld β)
    (label : JobLabel) : s.claims ⊆ (s.step store workers label).claims := by
  have heff := step_effect store workers s label
  generalize s.step store workers label = next at heff ⊢
  cases heff with
  | claim => exact subset_append_left _ _
  | stay | enqueue | stage | drop | complete | fail | crash => exact List.Subset.refl _

/-- An unattended job is claimed again by every claim from the end of its backoff on. -/
lemma Attended.reclaimed (h : Attended store s) {row : JobRow β} (hrow : Unattended s row) :
    ∃ failedMs, row.failedAt = some (isoFromEpochMs failedMs) ∧
      ∀ now, isoFromEpochMs (failedMs + jobBackoffMs row.attemptCount) ≤ isoFromEpochMs now →
        Reclaimed store row now := by
  have hready : row.status = .ready := by
    cases hstat : row.status with
    | ready => rfl
    | running =>
      obtain ⟨i, hi⟩ := h.running row hrow.mem hstat
      exact absurd hi (hrow.unheld i)
    | completed | deadLettered => simpa [hstat, JobStatus.isTerminal] using hrow.alive
  obtain ⟨failedMs, hfail, havailable⟩ := h.rearmed row hrow.mem hready hrow.claimed
  obtain ⟨pay, hdec⟩ := h.readable row hrow.mem (by rw [hready]; simp)
  refine ⟨failedMs, hfail, fun now hlate db workerId limit hmem hlimit halone => ?_⟩
  have hdue : isClaimable (some row.jobType) (some row.appId)
      (isoFromEpochMs now) row := by
    rw [← havailable] at hlate
    simp [isClaimable, hready, hlate]
  have hfirst : FirstDue db (some row.jobType) (some row.appId) now row := by
    refine ⟨hmem, hdue, fun other hoth hclaim => ?_⟩
    rw [Table.eq_of_key_eq hoth hmem (halone other hoth hclaim)]
    exact .inr ⟨rfl, le_refl _⟩
  have htaken := mem_claimIds_of_firstDue hfirst hlimit
  obtain ⟨jobs, hjobs⟩ : ∃ jobs, (store.claim db workerId (some row.jobType) limit
      (some row.appId) now).2 = .ok jobs := by
    refine exists_claim fun other hoth hothertaken => ?_
    obtain ⟨found, hfound, hid, hfoundClaimable⟩ := exists_of_mem_claimIds hothertaken
    have hsame := hid.symm.trans (halone found hfound hfoundClaimable)
    rw [Table.eq_of_key_eq hoth hmem hsame]
    exact ⟨pay, hdec⟩
  refine ⟨jobs, hjobs, ?_⟩
  exact mem_map.mp (((claim_returns hjobs).2 row.id).mpr htaken)

lemma attended_run {labels : List JobLabel}
    (hg : Guarded (step store workers) (Settles store) empty labels) :
    Attended store (run (step store workers) empty labels) :=
  (run_invariant (I := fun s => Custody s ∧ Attended store s)
    (fun _ label hs hlabel => ⟨hs.1.step store workers label, hs.2.step hs.1 label hlabel⟩)
    ⟨custody_empty, Attended.of_rows fun _ h => absurd h (Table.not_mem_empty _)⟩ hg).2

/-- **Every run**: no job is stranded if and only if every step meets the condition. Then every
claim from the end of its backoff on returns an unattended job. -/
theorem never_stranded_iff (store : JobStore β) (workers : JobWorkers) (labels : List JobLabel) :
    (NeverStranded store workers labels ↔
      Guarded (step store workers) (Settles store) empty labels) ∧
    (Guarded (step store workers) (Settles store) empty labels →
      ∀ row, Unattended (run (step store workers) empty labels) row →
        ∃ failedMs, row.failedAt = some (isoFromEpochMs failedMs) ∧
          ∀ nowMs,
            isoFromEpochMs (failedMs + jobBackoffMs row.attemptCount) ≤ isoFromEpochMs nowMs →
              Reclaimed store row nowMs) := by
  refine ⟨⟨?_, ?_⟩, fun hguard row hrow => (attended_run hguard).reclaimed hrow⟩
  · intro h
    refine guarded_iff_forall_split.mpr fun before label after heq => ?_
    by_contra hlabel
    have hcustody := custody_empty.run store workers before
    obtain ⟨i, row, hheld, hlost⟩ := lost_of_not_settles workers hcustody hlabel
    have hclaimed : row.id ∈ ((run (step store workers) empty before).step store
        workers label).claims :=
          claims_subset_step store workers _ label (hcustody.running i _ hheld).1
    rw [← run_concat (step store workers)] at hlost hclaimed
    have hunattended : Unattended (run (step store workers) empty (before ++ [label])) row :=
      ⟨hlost.mem, hclaimed, by rw [hlost.running]; rfl, hlost.unheld⟩
    obtain ⟨nowMs, hreclaimed⟩ := h (before ++ [label]) after (by rw [heq]; simp) row hunattended
    exact not_reclaimed_of_running hlost.running nowMs hreclaimed
  · intro hguard before after heq row hrow
    rw [heq, guarded_append] at hguard
    obtain ⟨failedMs, _, hlate⟩ := (attended_run hguard.1).reclaimed hrow
    exact ⟨_, hlate _ (String.le_refl _)⟩

/-- Two workers that take five jobs at a time and have a handler for everything. -/
def testWorkers : JobWorkers where
  workerId i := "worker-" ++ toString i
  claimBatchSize _ := 5
  resolves _ _ := true

/-- A worker claims a job and dies while it handles it. -/
def dyingWorker : List JobLabel :=
  [.enqueue { tenantId := "_default", jobType := "TestJob", payload := .nil } 1000000000000,
    .tick 0 1000000000000, .crash 0]

/-- **A claimed job is stranded.** Whatever any workers do after the first one has died, the job is
there, `running`, and no claim of any type, app, size and time takes it. -/
theorem crashed_worker_strands_job :
    ¬NeverStranded testJobStore testWorkers dyingWorker ∧
      ∀ later, ∃ row, (run (step testJobStore testWorkers) empty
          (dyingWorker ++ later)).db.jobs.find? 1 = some row ∧ row.status = .running ∧
        ∀ jobType limit appId nowMs, 1 ∉ claimIds (run (step testJobStore
          testWorkers) empty (dyingWorker ++ later)).db jobType limit appId nowMs := by
  set claimed := run (step testJobStore testWorkers) empty (dyingWorker.take 2)
    with hclaimed
  have hcustody : Custody claimed := custody_empty.run testJobStore testWorkers _
  obtain ⟨tick, htick⟩ : ∃ tick, claimed.ticks 0 = some tick :=
    isSome_iff_exists.mp (by rw [hclaimed]; decide +kernel)
  have hid : tick.job.id = 1 := by
    have hhead : (claimed.held 0).head? = some 1 := by rw [hclaimed]; decide +kernel
    rw [held_of_tick htick] at hhead
    exact some.inj hhead
  obtain ⟨row, hrow, hlost⟩ := lost_of_crash hcustody htick
  rw [hid] at hrow
  constructor
  · intro h
    have hmem : row.id ∈ (run (step testJobStore testWorkers) empty dyingWorker).claims := by
      rw [hrow]
      decide +kernel
    obtain ⟨nowMs, hreclaimed⟩ := h dyingWorker [] (by simp) row
      ⟨hlost.mem, hmem, by rw [hlost.running]; rfl, hlost.unheld⟩
    exact not_reclaimed_of_running hlost.running nowMs hreclaimed
  · intro later
    have hstill := hlost.run testJobStore testWorkers later
    refine ⟨row, Table.find?_eq_some_iff.mpr ⟨hstill.mem, hrow⟩, hstill.running, ?_⟩
    intro jobType limit appId nowMs
    rw [← hrow]
    exact hstill.not_mem_claimIds jobType limit appId nowMs

end Frick.Properties
