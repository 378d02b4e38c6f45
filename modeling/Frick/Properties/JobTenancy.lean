import Frick.Store.Job

/-!
# The legacy job pop and tenants

`JobStore::next` is given a tenant, and uses it for the worker id only: the query it shares with
`claim` selects by type and app. So the pop takes the job that is due first among those of all
tenants.
-/

namespace Frick.Properties

open Protocol Store JobStore

variable {β : Type} {store : JobStore β} {db : JobTables β} {tenantId jobType : String}
  {appId : Option String} {nowMs : Int}

/-- The pop returns a job of the tenant, and the jobs of other tenants stay as they are. -/
def PopIsolated (store : JobStore β) (db : JobTables β) (tenantId jobType : String)
    (appId : Option String) (nowMs : Int) : Prop :=
  (∀ job, (store.next db tenantId jobType appId nowMs).2 = .ok (some job) →
      ∃ row ∈ db.jobs, row.id = job.id ∧ row.tenantId = tenantId) ∧
    ∀ row ∈ db.jobs, row.tenantId ≠ tenantId →
      row ∈ (store.next db tenantId jobType appId nowMs).1.jobs

lemma mem_next {row : JobRow β} :
    row ∈ (store.next db tenantId jobType appId nowMs).1.jobs ↔
      ∃ old ∈ db.jobs, row =
        if old.id ∈ claimIds db (some jobType) 1
            (some (appId.getD defaultAppId)) nowMs then
          claimed ("legacy:" ++ tenantId) (isoFromEpochMs nowMs) old else old := by
  show row ∈ (store.claim db _ _ 1 _ nowMs).1.jobs ↔ _
  exact mem_claim

lemma id_of_next {job : StoredJob}
    (h : (store.next db tenantId jobType appId nowMs).2 = .ok (some job)) :
    job.id ∈ claimIds db (some jobType) 1 (some (appId.getD defaultAppId))
      nowMs := by
  change (store.claim db ("legacy:" ++ tenantId) (some jobType) 1
    (some (appId.getD defaultAppId)) nowMs).2.map _ = .ok (some job) at h
  cases hclaim : (store.claim db ("legacy:" ++ tenantId) (some jobType) 1
      (some (appId.getD defaultAppId)) nowMs).2 with
  | error =>
    rw [hclaim] at h
    cases h
  | ok =>
    rw [hclaim] at h
    obtain ⟨first, hfirst, rfl⟩ := Option.map_eq_some_iff.mp (Except.ok.inj h)
    apply ((claim_returns hclaim).2 first.id).mp
    exact List.mem_map_of_mem (List.mem_of_head? hfirst)

/-- **When the pop keeps to its tenant.** Exactly when the job of the given type and app that is due
first, over all tenants, is the tenant's own. -/
theorem next_isolated_iff (store : JobStore β) (db : JobTables β) (tenantId jobType : String)
    (appId : Option String) (nowMs : Int) :
    PopIsolated store db tenantId jobType appId nowMs ↔
      ∀ row, FirstDue db (some jobType) (some (appId.getD defaultAppId)) nowMs row →
        row.tenantId = tenantId := by
  constructor
  · rintro ⟨_, hothers⟩ row hdue
    by_contra htenant
    have hready : row.status = .ready := status_of_isClaimable hdue.2.1
    obtain ⟨old, hold, heq⟩ := mem_next.mp (hothers row hdue.1 htenant)
    split_ifs at heq with htaken
    · rw [heq] at hready
      cases hready
    · subst heq
      exact htaken ((mem_claimIds_one hold).mpr hdue)
  · intro hfirst
    have hown : ∀ row ∈ db.jobs, row.id ∈ claimIds db (some jobType) 1
        (some (appId.getD defaultAppId)) nowMs → row.tenantId = tenantId :=
      fun row hrow htaken => hfirst row ((mem_claimIds_one hrow).mp htaken)
    refine ⟨fun job hjob => ?_, fun row hrow htenant => ?_⟩
    · have htaken := id_of_next hjob
      obtain ⟨row, hrow, hid, _⟩ := exists_of_mem_claimIds htaken
      exact ⟨row, hrow, hid, hown row hrow (hid ▸ htaken)⟩
    · refine mem_next.mpr ⟨row, hrow, ?_⟩
      rw [if_neg fun htaken => htenant (hown row hrow htaken)]

def acmesJob : JobTables Value :=
  (testJobStore.enqueue .empty
    { tenantId := "acme", jobType := "Mail", payload := .string "secret" } 1700000000000).1

/-- **The pop of another tenant takes it.** `globex` asks for its next job and is handed `acme`'s,
payload included; the job is `running` from then on. -/
theorem globex_pops_acmes_job :
    (testJobStore.next acmesJob "globex" "Mail" none 1700000000001).2 =
        .ok (some ⟨1, "Mail", .string "secret"⟩) ∧
      acmesJob.jobs.rows.map JobRow.tenantId = ["acme"] ∧
      (testJobStore.next acmesJob "globex" "Mail" none 1700000000001).1.jobs.rows.map
        JobRow.status = [.running] := by
  decide +kernel

end Frick.Properties
