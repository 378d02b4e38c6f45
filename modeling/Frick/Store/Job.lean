import Mathlib.Data.List.Sort
import Mathlib.Data.String.Basic
import Frick.Framework.Table
import Frick.Store.Basic

/-!
# JobStore

`stores/job.rs`: the background jobs of one `jobs` table. A job is `ready` until a worker claims it,
then `running`, and ends as `completed` or `dead_lettered`; a retryable failure puts it back to
`ready` with a later `available_at`.

A row holds its payload packed, a `JobRow` handed out holds the decoded value, so `JobRow` is
generic in the payload. `complete` and `fail` each read the row and then update it by id; the
reading half (`sealResult`, `planFailure`) and the update (`updateCompleted`, `updateFailed`) are
separate definitions, so that a worker's calls can be interleaved between the two.
-/

namespace Frick.Store

open Framework Protocol List Table

inductive JobStatus where
  | ready
  | running
  | completed
  | deadLettered
  deriving Repr, DecidableEq

/-- The two states the lifecycle ends in. -/
def JobStatus.isTerminal : JobStatus → Bool
  | .completed | .deadLettered => true
  | .ready | .running => false

/-- A row of `jobs`, or a `JobRow`, according to its payload. -/
structure JobRow (π : Type) where
  id : Int
  tenantId : String
  appId : String
  jobType : String
  payload : π
  status : JobStatus
  attemptCount : Int
  maxAttempts : Int
  availableAt : String
  createdAt : String
  claimedAt : Option String := none
  claimedBy : Option String := none
  completedAt : Option String := none
  failedAt : Option String := none
  deadLetteredAt : Option String := none
  idempotencyKey : Option String := none
  lastErrorCode : Option String := none
  lastErrorMessage : Option String := none

structure StoredJob where
  id : Int
  name : String
  value : Value
  deriving DecidableEq

structure EnqueueInput where
  tenantId : String
  appId : Option String := none
  jobType : String
  payload : Value
  idempotencyKey : Option String := none
  availableAt : Option String := none
  maxAttempts : Option Int := none

def jobBackoffMs (attemptCount : Int) : Int :=
  let exponent := min (max attemptCount 1 - 1) 32
  min (60 * 1000 * 2 ^ exponent.toNat) (5 * 60 * 1000)

example :
    [0, 1, 2, 3, 4, 50].map jobBackoffMs = [60000, 60000, 120000, 240000, 300000, 300000] := by
  decide

/-! ## The table -/

/-- The `jobs` table with the last id its `AUTOINCREMENT` handed out. -/
structure JobTables (β : Type) where
  jobs : Table (JobRow.id : JobRow β → Int)
  lastId : Int
  le_lastId : ∀ row ∈ jobs, row.id ≤ lastId

namespace JobTables

variable {β : Type}

def empty : JobTables β := ⟨Table.empty _, 0, by simp⟩

/-- `idx_jobs_idempotency_key`: the row that has `row`'s key already. -/
def duplicateOf (db : JobTables β) (row : JobRow β) : Option (JobRow β) :=
  db.jobs.rows.find? fun r => row.idempotencyKey.isSome ∧ r.appId = row.appId ∧
    r.tenantId = row.tenantId ∧ r.jobType = row.jobType ∧ r.idempotencyKey = row.idempotencyKey

lemma lastId_fresh (db : JobTables β) (row : JobRow β) :
    ∀ r ∈ db.jobs, r.id ≠ { row with id := db.lastId + 1 }.id := by
  intro r hr heq
  have hle := db.le_lastId r hr
  change r.id = db.lastId + 1 at heq
  omega

/-- `INSERT INTO jobs … RETURNING id`; the id in `row` is ignored. -/
def insertJob (db : JobTables β) (row : JobRow β) : Except StoreError (JobTables β) :=
  match db.duplicateOf row with
  | some _ => .error (.driver "UNIQUE constraint failed: index 'idx_jobs_idempotency_key'")
  | none => .ok
      { jobs := db.jobs.insertFresh { row with id := db.lastId + 1 } (db.lastId_fresh row)
        lastId := db.lastId + 1
        le_lastId := by
          intro r hr
          rcases (mem_insertFresh _).mp hr with hold | rfl
          · have hle := db.le_lastId r hold
            omega
          · exact le_refl _ }

/-- `UPDATE jobs SET f WHERE p`, for an `f` that does not set the id. -/
def updateJobs (db : JobTables β) (p : JobRow β → Bool) (f : JobRow β → JobRow β)
    (hf : ∀ r, (f r).id = r.id) : JobTables β where
  jobs := db.jobs.updateWhere p f hf
  lastId := db.lastId
  le_lastId := by
    intro r hr
    obtain ⟨s, hs, rfl⟩ := (mem_updateWhere hf).mp hr
    have hle := db.le_lastId s hs
    split
    · rwa [hf]
    · exact hle

lemma mem_updateJobs {db : JobTables β} {p : JobRow β → Bool} {f : JobRow β → JobRow β}
    {hf : ∀ r, (f r).id = r.id} {row : JobRow β} :
    row ∈ (db.updateJobs p f hf).jobs ↔ ∃ old ∈ db.jobs, row = if p old then f old else old :=
  mem_updateWhere hf

lemma mem_insertJob {db db' : JobTables β} {new row : JobRow β} (h : db.insertJob new = .ok db') :
    row ∈ db'.jobs ↔ row ∈ db.jobs ∨ row = { new with id := db.lastId + 1 } := by
  unfold insertJob at h
  split at h
  · cases h
  · obtain rfl := Except.ok.inj h
    exact mem_insertFresh (db.lastId_fresh new)

end JobTables

/-- `JobStore`: how `jobs.packed` is kept, and `AtRestEncryption::is_active`. -/
structure JobStore (β : Type) extends PackedColumn Value β where
  isActive : Bool

namespace JobStore

variable {β : Type} (store : JobStore β)

def defaultAppId : String := "_default"

/-! ## Reads -/

/-- `optional_text`: an empty text reads as an absent one. -/
def optionalText (text : Option String) : Option String :=
  text.filter fun t => t ≠ ""

def mapRow (row : JobRow β) : Except StoreError (JobRow Value) := do
  let payload ← store.decodeColumn row.tenantId row.payload
  pure
    { id := row.id
      tenantId := row.tenantId
      appId := (optionalText (some row.appId)).getD defaultAppId
      jobType := row.jobType
      payload := payload
      status := row.status
      attemptCount := row.attemptCount
      maxAttempts := row.maxAttempts
      availableAt := row.availableAt
      createdAt := row.createdAt
      claimedAt := optionalText row.claimedAt
      claimedBy := optionalText row.claimedBy
      completedAt := optionalText row.completedAt
      failedAt := optionalText row.failedAt
      deadLetteredAt := optionalText row.deadLetteredAt
      idempotencyKey := optionalText row.idempotencyKey
      lastErrorCode := optionalText row.lastErrorCode
      lastErrorMessage := optionalText row.lastErrorMessage }

/-- Map the row a `SELECT … LIMIT 1` found, if any. -/
def mapFound (row : Option (JobRow β)) : Except StoreError (Option (JobRow Value)) :=
  match row with
  | none => .ok none
  | some row => (store.mapRow row).map some

section

variable (db : JobTables β) (input : EnqueueInput) (jobId : Int)

def getById (tenantId appId : Option String) : Except StoreError (Option (JobRow Value)) :=
  store.mapFound ((db.jobs.find? jobId).filter fun row =>
    (∀ t ∈ tenantId, row.tenantId = t) ∧ (∀ a ∈ appId, row.appId = a))

def findByIdempotencyKey (tenantId jobType idempotencyKey appId : String) :
    Except StoreError (Option (JobRow Value)) :=
  store.mapFound (db.jobs.rows.find? fun row => row.appId = appId ∧ row.tenantId = tenantId ∧
    row.jobType = jobType ∧ row.idempotencyKey = some idempotencyKey)

/-! ## enqueue -/

def newRow (packed : β) (nowMs : Int) : JobRow β where
  id := 0
  tenantId := input.tenantId
  appId := input.appId.getD defaultAppId
  jobType := input.jobType
  payload := packed
  status := .ready
  attemptCount := 0
  maxAttempts := input.maxAttempts.getD 5
  availableAt := input.availableAt.getD (isoFromEpochMs nowMs)
  createdAt := isoFromEpochMs nowMs
  idempotencyKey := input.idempotencyKey

/-- The lookup `enqueue` makes when it is given an idempotency key. -/
def findExisting : Except StoreError (Option (JobRow Value)) :=
  match input.idempotencyKey with
  | none => .ok none
  | some key =>
    store.findByIdempotencyKey db input.tenantId input.jobType key
      (input.appId.getD defaultAppId)

/-- `enqueue` from the packing of the payload on. -/
def insertNew (nowMs : Int) : JobTables β × Except StoreError (JobRow Value) :=
  match store.encodeColumn input.tenantId input.payload with
  | .error err => (db, .error err)
  | .ok packed =>
    match db.insertJob (newRow input packed nowMs) with
    | .error err => (db, .error err)
    | .ok inserted =>
      (inserted, do
        let row ← store.getById inserted inserted.lastId none none
        match row with
        | some row => pure row
        | none => .error (.store s!"jobs.enqueue: inserted row {inserted.lastId} not found"))

def enqueue (nowMs : Int) : JobTables β × Except StoreError (JobRow Value) :=
  match store.findExisting db input with
  | .error err => (db, .error err)
  | .ok (some existing) => (db, .ok existing)
  | .ok none => store.insertNew db input nowMs

/-! ## claim and next -/

/-- The `WHERE` of `claim`'s subquery. -/
def isClaimable (jobType appId : Option String) (now : String) (row : JobRow β) : Bool :=
  row.status = .ready ∧ row.availableAt ≤ now ∧ (∀ t ∈ jobType, row.jobType = t) ∧
    (∀ a ∈ appId, row.appId = a)

/-- `ORDER BY available_at ASC, id ASC`. -/
def claimOrder (a b : JobRow β) : Prop :=
  a.availableAt < b.availableAt ∨ a.availableAt = b.availableAt ∧ a.id ≤ b.id

instance : DecidableRel (claimOrder (β := β)) := fun _ _ => inferInstanceAs (Decidable (_ ∨ _))

/-- The subquery of `claim`; a negative `LIMIT` is none, as in SQLite. -/
def selectClaimable (jobType : Option String) (limit : Int)
    (appId : Option String) (now : String) : List (JobRow β) :=
  let rows := (db.jobs.rows.filter (isClaimable jobType appId now)).insertionSort claimOrder
  if limit < 0 then rows else rows.take limit.toNat

def claimIds (jobType : Option String) (limit : Int) (appId : Option String)
    (nowMs : Int) : List Int :=
  (selectClaimable db jobType limit appId (isoFromEpochMs nowMs)).map JobRow.id

def claimed (workerId now : String) (row : JobRow β) : JobRow β :=
  { row with
    status := .running
    claimedAt := some now
    claimedBy := some workerId
    attemptCount := row.attemptCount + 1 }

@[simp] lemma claimed_id (workerId now : String) (row : JobRow β) :
    (claimed workerId now row).id = row.id := rfl

/-- `claim`. The rows come back in table order; the error of a row that does not decode is
returned after the statement has updated all of them. -/
def claim (workerId : String) (jobType : Option String) (limit : Int)
    (appId : Option String) (nowMs : Int) : JobTables β × Except StoreError (List (JobRow Value)) :=
  let ids := claimIds db jobType limit appId nowMs
  let updated := db.updateJobs (fun row => row.id ∈ ids) (claimed workerId (isoFromEpochMs nowMs))
    (claimed_id workerId (isoFromEpochMs nowMs))
  (updated, (updated.jobs.rows.filter fun row => row.id ∈ ids).mapM store.mapRow)

def next (tenantId jobType : String) (appId : Option String) (nowMs : Int) :
    JobTables β × Except StoreError (Option StoredJob) :=
  let (updated, claimed) := store.claim db ("legacy:" ++ tenantId) (some jobType) 1
    (some (appId.getD defaultAppId)) nowMs
  (updated, claimed.map fun rows => rows.head?.map fun row => ⟨row.id, row.jobType, row.payload⟩)

/-! ## complete -/

/-- The first half of `complete` with a result: encode it and, when a key is active, seal it for
the tenant of the row. `none` when there is no such row. -/
def sealResult (result : Value) : Except StoreError (Option β) :=
  match store.codec.encode result with
  | .error err => .error err
  | .ok encoded =>
    match store.encryption, store.isActive with
    | some encryption, true => do
      let row ← store.getById db jobId none none
      match row with
      | none => pure none
      | some row => (encryption.encrypt row.tenantId encoded).map some
    | _, _ => .ok (some encoded)

/-- The `SET` of `complete`, with the column that replaces `packed` if there is one. -/
def completed (stored : Option β) (now : String) (row : JobRow β) : JobRow β :=
  { row with
    status := .completed
    completedAt := some now
    payload := stored.getD row.payload }

@[simp] lemma completed_id (stored : Option β) (now : String) (row : JobRow β) :
    (completed stored now row).id = row.id := rfl

def updateCompleted (stored : Option β) (now : String) : JobTables β :=
  db.updateJobs (fun row => row.id = jobId ∧ row.status ≠ .deadLettered) (completed stored now)
    (completed_id stored now)

def complete (result : Option Value) (nowMs : Int) : JobTables β × Except StoreError Unit :=
  match result with
  | none => (updateCompleted db jobId none (isoFromEpochMs nowMs), .ok ())
  | some result =>
    match store.sealResult db jobId result with
    | .error err => (db, .error err)
    | .ok none => (db, .ok ())
    | .ok (some stored) => (updateCompleted db jobId (some stored) (isoFromEpochMs nowMs), .ok ())

/-! ## fail -/

/-- What `fail` does to the row it read. -/
inductive Failure where
  /-- Back to `ready`, available from the given time on. -/
  | rearm (nextAvailable : String)
  | deadLetter
  deriving Repr, DecidableEq

/-- The decision of `fail` about the row it read. -/
def planFailure {π : Type} (row : JobRow π) (retryable : Bool) (nowMs : Int) : Failure :=
  if retryable ∧ row.attemptCount < row.maxAttempts then
    .rearm (isoFromEpochMs (nowMs + jobBackoffMs row.attemptCount))
  else .deadLetter

/-- The `SET` of the two `UPDATE`s of `fail`. -/
def failed (failure : Failure) (errorCode errorMessage now : String) (row : JobRow β) : JobRow β :=
  match failure with
  | .rearm nextAvailable =>
    { row with
      status := .ready
      availableAt := nextAvailable
      failedAt := some now
      lastErrorCode := some errorCode
      lastErrorMessage := some errorMessage
      claimedAt := none
      claimedBy := none }
  | .deadLetter =>
    { row with
      status := .deadLettered
      deadLetteredAt := some now
      failedAt := some now
      lastErrorCode := some errorCode
      lastErrorMessage := some errorMessage }

@[simp] lemma failed_id (failure : Failure) (errorCode errorMessage now : String) (row : JobRow β) :
    (failed failure errorCode errorMessage now row).id = row.id := by
  cases failure <;> rfl

/-- The `UPDATE` of `fail`: by id alone. -/
def updateFailed (failure : Failure) (errorCode errorMessage now : String) : JobTables β :=
  db.updateJobs (fun row => row.id = jobId) (failed failure errorCode errorMessage now)
    (failed_id failure errorCode errorMessage now)

def fail (errorCode errorMessage : String) (retryable : Bool)
    (nowMs : Int) : JobTables β × Except StoreError Unit :=
  match store.getById db jobId none none with
  | .error err => (db, .error err)
  | .ok none => (db, .ok ())
  | .ok (some row) =>
    (updateFailed db jobId (planFailure row retryable nowMs) errorCode errorMessage
      (isoFromEpochMs nowMs), .ok ())

end

/-! ## What the operations do to the rows -/

section Spec

variable {store} {db : JobTables β}

variable {row a b : JobRow β} {jobId limit nowMs : Int} {appId jobType : Option String}
  {workerId : String}

lemma mapRow_eq_ok {mapped : JobRow Value} (h : store.mapRow row = .ok mapped) :
    mapped.id = row.id ∧ mapped.tenantId = row.tenantId ∧ mapped.attemptCount = row.attemptCount ∧
      mapped.maxAttempts = row.maxAttempts ∧
      store.decodeColumn row.tenantId row.payload = .ok mapped.payload := by
  obtain ⟨payload, hdec, h⟩ := bind_eq_ok.mp h
  obtain rfl := Except.ok.inj h
  exact ⟨rfl, rfl, rfl, rfl, hdec⟩

lemma exists_mapRow {payload : Value}
    (h : store.decodeColumn row.tenantId row.payload = .ok payload) :
    ∃ mapped, store.mapRow row = .ok mapped :=
  ⟨_, bind_eq_ok.mpr ⟨payload, h, rfl⟩⟩

lemma getById_eq (db : JobTables β) (jobId : Int) :
    store.getById db jobId none none = store.mapFound (db.jobs.find? jobId) := by
  unfold getById
  congr 1
  cases db.jobs.find? jobId <;> simp [Option.filter]

lemma exists_sealResult {result : Value} {row : JobRow Value}
    (hrow : store.getById db jobId none none = .ok (some row))
    (h : (store.sealResult db jobId result).isOk) :
    ∃ stored, store.sealResult db jobId result = .ok (some stored) := by
  unfold sealResult at h ⊢
  cases henc : store.codec.encode result with
  | error => simp [henc, Except.toBool] at h
  | ok encoded =>
    rw [henc] at h
    dsimp only at h ⊢
    split
    next _ _ encryption hciph hact =>
      rw [hciph, hact] at h
      rw [hrow] at h ⊢
      cases hencrypt : encryption.encrypt row.tenantId encoded with
      | error => simp [hencrypt, Except.map, Except.toBool] at h
      | ok stored => exact ⟨stored, by simp [hencrypt, Except.map]⟩
    next => exact ⟨encoded, rfl⟩

lemma enqueue_cases (store : JobStore β) (db : JobTables β) (input : EnqueueInput) (nowMs : Int) :
    (store.enqueue db input nowMs).1 = db ∨
      ∃ packed inserted, store.encodeColumn input.tenantId input.payload = .ok packed ∧
        db.insertJob (newRow input packed nowMs) = .ok inserted ∧
        (store.enqueue db input nowMs).1 = inserted := by
  unfold enqueue
  split
  · exact .inl rfl
  · exact .inl rfl
  unfold insertNew
  split
  · exact .inl rfl
  next packed hpacked =>
    split
    · exact .inl rfl
    next inserted hins => exact .inr ⟨packed, inserted, hpacked, hins, rfl⟩

lemma selectClaimable_sublist_perm (db : JobTables β) (jobType : Option String) (limit : Int)
    (appId : Option String) (now : String) :
    ∃ rows, (selectClaimable db jobType limit appId now).Sublist rows ∧
      rows.Perm (db.jobs.rows.filter (isClaimable jobType appId now)) := by
  refine ⟨_, ?_, perm_insertionSort claimOrder _⟩
  unfold selectClaimable
  split
  · exact List.Sublist.refl _
  · exact take_sublist _ _

lemma nodup_claimIds (db : JobTables β) (jobType : Option String) (limit : Int)
    (appId : Option String) (nowMs : Int) : (claimIds db jobType limit appId nowMs).Nodup := by
  obtain ⟨rows, hsub, hperm⟩ :=
    selectClaimable_sublist_perm db jobType limit appId (isoFromEpochMs nowMs)
  have hfilt : ((db.jobs.rows.filter (isClaimable jobType appId (isoFromEpochMs nowMs))).map
      JobRow.id).Nodup := db.jobs.nodup.sublist (filter_sublist.map _)
  exact ((hperm.map _).nodup_iff.mpr hfilt).sublist (hsub.map _)

lemma exists_of_mem_claimIds (h : jobId ∈ claimIds db jobType limit appId nowMs) :
    ∃ row ∈ db.jobs, row.id = jobId ∧ isClaimable jobType appId (isoFromEpochMs nowMs) row := by
  obtain ⟨row, hrow, rfl⟩ := mem_map.mp h
  obtain ⟨rows, hsub, hperm⟩ :=
    selectClaimable_sublist_perm db jobType limit appId (isoFromEpochMs nowMs)
  obtain ⟨hmem, hdue⟩ := mem_filter.mp (hperm.mem_iff.mp (hsub.subset hrow))
  exact ⟨row, hmem, rfl, hdue⟩

lemma status_of_isClaimable {now : String} (h : isClaimable jobType appId now row) :
    row.status = .ready :=
  (of_decide_eq_true h).1

lemma status_of_mem_claimIds (hrow : row ∈ db.jobs)
    (h : row.id ∈ claimIds db jobType limit appId nowMs) : row.status = .ready := by
  obtain ⟨claimable, hmem, hid, hdue⟩ := exists_of_mem_claimIds h
  rw [← eq_of_key_eq hmem hrow hid]
  exact status_of_isClaimable hdue

lemma claimOrder_total (a b : JobRow β) : claimOrder a b ∨ claimOrder b a := by
  rcases lt_trichotomy a.availableAt b.availableAt with h | h | h
  · exact .inl (.inl h)
  · exact (le_total a.id b.id).imp (fun hle => .inr ⟨h, hle⟩) fun hle => .inr ⟨h.symm, hle⟩
  · exact .inr (.inl h)

lemma claimOrder_trans {c : JobRow β} (hab : claimOrder a b) (hbc : claimOrder b c) :
    claimOrder a c := by
  rcases hab with hab | ⟨hab, hle⟩
  · rcases hbc with hbc | ⟨hbc, _⟩
    · exact .inl (lt_trans hab hbc)
    · exact .inl (hbc ▸ hab)
  · rcases hbc with hbc | ⟨hbc, hle'⟩
    · exact .inl (hab ▸ hbc)
    · exact .inr ⟨hab.trans hbc, by omega⟩

lemma id_eq_of_claimOrder (hab : claimOrder a b) (hba : claimOrder b a) : a.id = b.id := by
  rcases hab with hab | ⟨hab, hle⟩
  · rcases hba with hba | ⟨hba, _⟩
    · exact absurd hba (lt_asymm hab)
    · exact absurd hba (ne_of_gt hab)
  · rcases hba with hba | ⟨_, hle'⟩
    · exact absurd hab (ne_of_gt hba)
    · omega

instance : Std.Total (claimOrder (β := β)) := ⟨claimOrder_total⟩

instance : IsTrans (JobRow β) claimOrder := ⟨fun _ _ _ => claimOrder_trans⟩

def FirstDue (db : JobTables β) (jobType appId : Option String) (nowMs : Int) (row : JobRow β) :
    Prop :=
  row ∈ db.jobs ∧ isClaimable jobType appId (isoFromEpochMs nowMs) row = true ∧
    ∀ other ∈ db.jobs, isClaimable jobType appId (isoFromEpochMs nowMs) other = true →
      claimOrder row other

lemma mem_claimQueue :
    row ∈ (db.jobs.rows.filter (isClaimable jobType appId (isoFromEpochMs nowMs))).insertionSort
        claimOrder ↔
      row ∈ db.jobs ∧ isClaimable jobType appId (isoFromEpochMs nowMs) row := by
  rw [mem_insertionSort, mem_filter]
  exact Iff.rfl

lemma firstDue_of_claimQueue {first : JobRow β} {rest : List (JobRow β)}
    (h : (db.jobs.rows.filter
      (isClaimable jobType appId (isoFromEpochMs nowMs))).insertionSort claimOrder =
      first :: rest) :
    FirstDue db jobType appId nowMs first := by
  have hmem : ∀ other, other ∈ first :: rest ↔
      other ∈ db.jobs ∧ isClaimable jobType appId (isoFromEpochMs nowMs) other := by
    intro other
    rw [← h]
    exact mem_claimQueue
  have horder : (first :: rest).Pairwise claimOrder := by
    rw [← h]
    exact pairwise_insertionSort claimOrder _
  obtain ⟨hfirst, hdue⟩ := (hmem first).mp mem_cons_self
  refine ⟨hfirst, hdue, fun other hother hclaim => ?_⟩
  rcases mem_cons.mp ((hmem other).mpr ⟨hother, hclaim⟩) with rfl | hin
  · exact .inr ⟨rfl, le_refl _⟩
  · exact (pairwise_cons.mp horder).1 other hin

lemma mem_claimIds_of_firstDue (h : FirstDue db jobType appId nowMs row) (hlimit : limit ≠ 0) :
    row.id ∈ claimIds db jobType limit appId nowMs := by
  rw [claimIds, selectClaimable]
  cases hqueue : (db.jobs.rows.filter
      (isClaimable jobType appId (isoFromEpochMs nowMs))).insertionSort claimOrder with
  | nil =>
    have hin := mem_claimQueue.mpr ⟨h.1, h.2.1⟩
    rw [hqueue] at hin
    cases hin
  | cons first =>
    have hfirst := firstDue_of_claimQueue hqueue
    rw [id_eq_of_claimOrder (h.2.2 first hfirst.1 hfirst.2.1) (hfirst.2.2 row h.1 h.2.1)]
    refine mem_map_of_mem ?_
    split_ifs
    · exact mem_cons_self
    · obtain ⟨n, hn⟩ : ∃ n, limit.toNat = n + 1 := ⟨limit.toNat - 1, by omega⟩
      rw [hn]
      exact mem_cons_self

lemma mem_claimIds_one (hrow : row ∈ db.jobs) :
    row.id ∈ claimIds db jobType 1 appId nowMs ↔ FirstDue db jobType appId nowMs row := by
  refine ⟨fun htaken => ?_, fun h => mem_claimIds_of_firstDue h (by decide)⟩
  change row.id ∈ (List.take 1 _).map JobRow.id at htaken
  cases hqueue : (db.jobs.rows.filter
      (isClaimable jobType appId (isoFromEpochMs nowMs))).insertionSort claimOrder with
  | nil =>
    rw [hqueue] at htaken
    cases htaken
  | cons first =>
    rw [hqueue, take_succ_cons, take_zero, map_singleton, mem_singleton] at htaken
    have hfirst := firstDue_of_claimQueue hqueue
    rwa [eq_of_key_eq hrow hfirst.1 htaken]

lemma mem_claim :
    row ∈ (store.claim db workerId jobType limit appId nowMs).1.jobs ↔
      ∃ old ∈ db.jobs, row = if old.id ∈ claimIds db jobType limit appId nowMs then
        claimed workerId (isoFromEpochMs nowMs) old else old := by
  refine JobTables.mem_updateJobs.trans ?_
  simp

lemma claim_returns {jobs : List (JobRow Value)}
    (h : (store.claim db workerId jobType limit appId nowMs).2 = .ok jobs) :
    (jobs.map JobRow.id).Nodup ∧
      ∀ jobId, jobId ∈ jobs.map JobRow.id ↔ jobId ∈ claimIds db jobType limit appId nowMs := by
  set updated := (store.claim db workerId jobType limit appId nowMs).1 with hupd
  set taken := updated.jobs.rows.filter fun row => row.id ∈ claimIds db jobType limit appId nowMs
    with htaken
  have hids : taken.map JobRow.id = jobs.map JobRow.id :=
    map_eq_map_of_forall₂ (mapM_eq_ok_iff.mp h) fun row mapped hmap => (mapRow_eq_ok hmap).1.symm
  rw [← hids]
  refine ⟨updated.jobs.nodup.sublist (filter_sublist.map _), fun jobId => ?_⟩
  rw [mem_map]
  constructor
  · rintro ⟨row, hrow, rfl⟩
    exact of_decide_eq_true (mem_filter.mp hrow).2
  intro hmem
  obtain ⟨old, hold, rfl, _⟩ := exists_of_mem_claimIds hmem
  refine ⟨claimed workerId (isoFromEpochMs nowMs) old, ?_, rfl⟩
  refine mem_filter.mpr ⟨?_, decide_eq_true hmem⟩
  exact mem_claim.mpr ⟨old, hold, by rw [if_pos hmem]⟩

lemma exists_claim (h : ∀ row ∈ db.jobs, row.id ∈ claimIds db jobType limit appId nowMs →
      ∃ payload, store.decodeColumn row.tenantId row.payload = .ok payload) :
    ∃ jobs, (store.claim db workerId jobType limit appId nowMs).2 = .ok jobs := by
  refine exists_mapM_eq_ok fun row hrow => ?_
  obtain ⟨hmem, htaken⟩ := mem_filter.mp hrow
  obtain ⟨old, hold, rfl⟩ := JobTables.mem_updateJobs.mp hmem
  have hid : old.id ∈ claimIds db jobType limit appId nowMs := by
    by_contra hother
    rw [if_neg (by simpa using hother)] at htaken
    exact hother (of_decide_eq_true htaken)
  obtain ⟨payload, hdec⟩ := h old hold hid
  rw [if_pos (decide_eq_true hid)]
  show ∃ mapped, store.mapRow (claimed workerId (isoFromEpochMs nowMs) old) = .ok mapped
  exact exists_mapRow hdec

end Spec

end JobStore

/-- Jobs kept as they are, without a cipher, for evaluating the store on concrete calls. -/
def testJobStore : JobStore Value where
  codec := PackedCodec.plain Value
  encryption := none
  isActive := false

end Frick.Store
