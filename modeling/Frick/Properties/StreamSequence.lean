import Frick.Framework.Run
import Frick.Store.StreamSpec

/-!
# Stream sequence numbers over whole runs

A run is any list of stream-store operations: appends (with any front-cache), redactions and
retention passes. `next_sequence` is recomputed from the rows that survive, so whether a
sequence number can be handed out twice depends on retention alone.
-/

namespace Frick.Properties

open Framework Store StreamStore StreamTables SequencedLog.Extends
open Store.StreamStore (RetentionPolicy)

variable {β : Type}

/-! ## Operations -/

/-- One call on the stream store. -/
inductive StreamOp where
  | append (args : AppendArgs) (cache : Option FrontCache)
  | redactEvent (key : StreamKey) (sequence : Int) (appId : String)
  | redactByField (tenantId stream appId field value : String)
  | pruneRetention (policies : List (String × RetentionPolicy)) (nowMs : Int)

/-- The tables after one call, whether it succeeded or not. -/
def perform (store : StreamStore β) (db : StreamTables β) : StreamOp → StreamTables β
  | .append args cache => (store.append db cache args).db
  | .redactEvent key sequence appId => (store.redactEvent db key sequence appId).1
  | .redactByField tenantId stream appId field value =>
    (store.redactByField db tenantId stream appId field value).1
  | .pruneRetention policies nowMs => (pruneRetention db policies nowMs).1

def createdOf : Except StoreError AppendResult → Option StoredEvent
  | .ok ⟨event, true⟩ => some event
  | _ => none

lemma createdOf_eq_some {result : Except StoreError AppendResult} {event : StoredEvent}
    (h : createdOf result = some event) : result = .ok ⟨event, true⟩ := by
  unfold createdOf at h
  split at h
  · rw [Option.some.inj h]
  · cases h

/-- The event of an append that returned `created = true`. -/
def createdEvent (store : StreamStore β) (db : StreamTables β) : StreamOp → Option StoredEvent
  | .append args cache => createdOf (store.append db cache args).result
  | _ => none

def streamOf (stored : StoredEvent) : StreamKey :=
  ⟨stored.tenantId, stored.event.stream, stored.event.streamId⟩

/-- The entry a created event makes in the log. -/
def loggedOf (stored : StoredEvent) : LoggedEvent :=
  ⟨stored.appId, streamOf stored, stored.event.sequence, stored.event.eventId⟩

variable {stored : StoredEvent} {db : StreamTables β} {store : StreamStore β} {op : StreamOp}
  {nowMs : Int} {policy : String × RetentionPolicy} {row : StreamEventRow β}
  {policies : List (String × RetentionPolicy)} {ops : List StreamOp} {e : LoggedEvent}

lemma createdEvent_append {args : AppendArgs} {cache : Option FrontCache}
    (h : createdEvent store db (.append args cache) = some stored) :
    ∃ row, store.Created db args row (store.append db cache args) ∧
      row.logged = loggedOf stored := by
  have hres := createdOf_eq_some h
  rcases store.append_cases db cache args with ⟨row, hmade⟩ | ⟨_, hnot⟩
  · rw [hmade.result_eq, Except.ok.injEq, AppendResult.mk.injEq] at hres
    obtain ⟨_, _, _, _, hrow⟩ := newRow_eq_ok hmade.newRow_eq
    refine ⟨row, hmade, ?_⟩
    rw [hrow, ← hres.1]
    rfl
  · exact absurd hres (hnot stored)

lemma createdEvent_mem_log (h : createdEvent store db op = some stored) :
    loggedOf stored ∈ (perform store db op).log := by
  cases op with
  | append =>
    obtain ⟨row, hmade, hlog⟩ := createdEvent_append h
    rw [perform, hmade.log_eq, ← hlog]
    exact List.mem_append_right _ (List.mem_singleton_self _)
  | redactEvent | redactByField | pruneRetention => cases h

/-! ## The condition -/

/-- A policy deletes `row` although it is the newest of its stream: it is in scope, and either
its age is past the policy's bound or the policy keeps no event at all. -/
def reachesNewest (nowMs : Int) (policy : String × RetentionPolicy) (row : StreamEventRow β) :
    Bool :=
  row.streamType = policy.1 && policy.2.inScope row &&
    (policy.2.maxAgeMs.any (fun maxAgeMs =>
        0 < maxAgeMs && row.createdAt < isoFromEpochMs (nowMs - maxAgeMs)) ||
      policy.2.maxEvents = some 0)

/-- The condition under which a retention pass is safe, on the tables before it. -/
abbrev PoliciesSpare (db : StreamTables β) (nowMs : Int)
    (policies : List (String × RetentionPolicy)) : Prop :=
  ∀ row ∈ db.streamEvents.rows, db.maxSequence row.streamKey = some row.sequence →
    ∀ policy ∈ policies, reachesNewest nowMs policy row = false

/-- The condition on one call, given the tables before it: a retention pass reaches no row that
is the newest of its stream, and an append finds its stream short of `i64::MAX`. -/
def SparesNewest (db : StreamTables β) : StreamOp → Prop
  | .append args _ => (db.maxSequence args.streamKey).getD 0 < i64Max
  | .pruneRetention policies nowMs => PoliciesSpare db nowMs policies
  | _ => True

instance (db : StreamTables β) : DecidablePred (SparesNewest db)
  | .append _ _ => inferInstanceAs (Decidable (_ < _))
  | .redactEvent _ _ _ => inferInstanceAs (Decidable True)
  | .redactByField _ _ _ _ _ => inferInstanceAs (Decidable True)
  | .pruneRetention _ _ => inferInstanceAs (Decidable (∀ _ ∈ _, _ → ∀ _ ∈ _, _ = false))

/-! ## One step -/

/-- A deletion that spares the newest rows extends the log and moves no maximum. -/
lemma deleteEvents_spares (db : StreamTables β) (p : StreamEventRow β → Bool)
    (hspare : ∀ row ∈ db.streamEvents.rows,
      db.maxSequence row.streamKey = some row.sequence → p row = false) :
    LogExtends db.log (db.deleteEvents p).log ∧
      ∀ key, (db.deleteEvents p).maxSequence key = db.maxSequence key := by
  have hsub : ∀ e ∈ (db.deleteEvents p).log, e ∈ db.log := by
    intro e he
    obtain ⟨row, hrow, rfl⟩ := mem_log.mp he
    exact mem_log.mpr ⟨row, (mem_deleteEvents.mp hrow).1, rfl⟩
  have hkeep : ∀ e, SequencedLog.Newest LoggedEvent.key LoggedEvent.sequence db.log e →
      e ∈ (db.deleteEvents p).log := by
    intro e hnew
    obtain ⟨hmem, hmax⟩ := newest_iff.mp hnew
    obtain ⟨row, hrow, rfl⟩ := mem_log.mp hmem
    have hkept := mem_deleteEvents.mpr ⟨hrow, hspare row hrow hmax⟩
    exact mem_log.mpr ⟨row, hkept, rfl⟩
  exact ⟨of_subset hsub hkeep,
    maxSequence_congr fun e => SequencedLog.newest_iff_of_subset hsub hkeep⟩

lemma agePruned_of_not_reached (h : reachesNewest nowMs policy row = false) :
    agePruned policy.1 policy.2 nowMs row = false := by
  unfold agePruned
  unfold reachesNewest at h
  cases hage : policy.2.maxAgeMs with
  | none => rfl
  | some =>
    grind

lemma countPruned_of_not_reached (hmax : db.maxSequence row.streamKey = some row.sequence)
    (h : reachesNewest nowMs policy row = false) :
    countPruned db policy.1 policy.2 row = false := by
  unfold countPruned
  unfold reachesNewest at h
  cases hcount : policy.2.maxEvents with
  | none => rfl
  | some maxEvents =>
    by_cases hzero : maxEvents = 0
    · grind
    · have : ¬(0 ≤ maxEvents ∧ row.sequence ≤ row.sequence - maxEvents) := by omega
      grind

lemma prunePolicy_spares (result : RetentionPruneResult)
    (h : PoliciesSpare db nowMs (policy :: policies)) :
    LogExtends db.log (prunePolicy nowMs (db, result) policy).1.log ∧
      PoliciesSpare (prunePolicy nowMs (db, result) policy).1 nowMs policies := by
  set aged := db.deleteEvents (agePruned policy.1 policy.2 nowMs) with haged
  have hhead : ∀ row ∈ db.streamEvents.rows, db.maxSequence row.streamKey = some row.sequence →
      reachesNewest nowMs policy row = false :=
    fun row hrow hmax => h row hrow hmax policy List.mem_cons_self
  obtain ⟨hext, hmaxAged⟩ := deleteEvents_spares db (agePruned policy.1 policy.2 nowMs)
    fun row hrow hmax => agePruned_of_not_reached (hhead row hrow hmax)
  have hsubAged : ∀ row ∈ aged.streamEvents.rows, row ∈ db.streamEvents.rows :=
    fun row hrow => (mem_deleteEvents.mp hrow).1
  obtain ⟨hext', hmaxCounted⟩ := deleteEvents_spares aged
    (countPruned aged policy.1 policy.2) fun row hrow hmax => by
      refine countPruned_of_not_reached hmax (hhead row (hsubAged row hrow) ?_)
      rwa [← hmaxAged]
  refine ⟨hext.trans hext', fun row hrow hmax p hp => ?_⟩
  have hrow' := hsubAged row (mem_deleteEvents.mp hrow).1
  refine h row hrow' ?_ p (List.mem_cons_of_mem _ hp)
  rwa [← hmaxAged, ← hmaxCounted]

/-- **Retention extends**, as long as it reaches no newest row. -/
lemma pruneRetention_logExtends (h : PoliciesSpare db nowMs policies) :
    LogExtends db.log (pruneRetention db policies nowMs).1.log := by
  have hfold : ∀ (policies : List (String × RetentionPolicy))
      (state : StreamTables β × RetentionPruneResult),
      PoliciesSpare state.1 nowMs policies →
        LogExtends state.1.log (policies.foldl (prunePolicy nowMs) state).1.log := by
    intro policies
    induction policies with
    | nil => exact fun state _ => refl _
    | cons _ _ ih =>
      intro state hspare
      obtain ⟨hext, hrest⟩ := prunePolicy_spares state.2 hspare
      exact hext.trans (ih _ hrest)
  exact hfold policies (db, {}) h

/-- **Step.** Every call that meets the condition extends the log. -/
lemma perform_logExtends (store : StreamStore β) (h : SparesNewest db op) :
    LogExtends db.log (perform store db op).log := by
  cases op with
  | append args cache =>
    refine append_logExtends db cache args fun m hm => ?_
    rwa [SparesNewest, hm] at h
  | redactEvent =>
    rw [perform, redactEvent_log]
    exact refl _
  | redactByField tenantId stream appId field value =>
    refine redactByField_induction (P := fun d => LogExtends db.log d.log) ?_
      tenantId stream appId field value (refl _)
    intro d key seq appId hd
    rwa [redactEvent_log]
  | pruneRetention => exact pruneRetention_logExtends h

/-- **Step.** Every call keeps the log readable. -/
lemma perform_readable (h : store.Readable db) (op : StreamOp) :
    store.Readable (perform store db op) := by
  cases op with
  | append args cache => exact readable_append h cache args
  | redactEvent key seq appId => exact readable_redactEvent h key seq appId
  | redactByField tenantId stream appId field value =>
    exact redactByField_induction (P := store.Readable)
      (fun d key seq appId hd => readable_redactEvent hd key seq appId)
      tenantId stream appId field value h
  | pruneRetention policies nowMs =>
    exact prunePolicies_induction (P := store.Readable)
      (fun _ _ hd row hrow => hd row (mem_deleteEvents.mp hrow).1) policies nowMs h

/-! ## Whole runs -/

abbrev runOps (store : StreamStore β) (db : StreamTables β) (ops : List StreamOp) :
    StreamTables β :=
  run (perform store) db ops

lemma runOps_logExtends (hguard : Guarded (perform store) SparesNewest db ops) :
    LogExtends db.log (runOps store db ops).log := by
  refine run_relation (I := fun _ => True) (R := fun d d' => LogExtends d.log d'.log)
    (fun _ _ _ _ => trivial) (fun d => SequencedLog.Extends.refl d.log) ?_
    (fun _ _ _ h => perform_logExtends store h) trivial hguard
  intro d d' d'' h h'
  exact trans h h'

lemma runOps_readable (h : store.Readable db) (ops : List StreamOp) :
    store.Readable (runOps store db ops) :=
  run_of_forall_step (I := store.Readable) (fun _ op hd => perform_readable hd op) h ops

/-- In the run `ops`, an event created after another on the same stream has the larger
sequence, whatever happened to the earlier one in between. -/
def NeverReused (store : StreamStore β) (db : StreamTables β) (ops : List StreamOp) : Prop :=
  ∀ pre op₁ mid op₂ post, ops = pre ++ op₁ :: (mid ++ op₂ :: post) →
    ∀ e₁ e₂, createdEvent store (runOps store db pre) op₁ = some e₁ →
      createdEvent store (runOps store db (pre ++ op₁ :: mid)) op₂ = some e₂ →
        streamOf e₁ = streamOf e₂ → e₁.event.sequence < e₂.event.sequence

/-- In the run `ops`, a reader that has read an event with sequence `c` (after `pre`) and later
reads on from `c` (after `pre ++ mid`) is handed every event of its app and stream created in
between and still stored. -/
def ReaderMissesNothing (store : StreamStore β) (db : StreamTables β) (ops : List StreamOp) :
    Prop :=
  ∀ pre mid₁ op mid₂ post, ops = pre ++ (mid₁ ++ op :: mid₂) ++ post →
    ∀ key appId after limit events, store.read (runOps store db pre) key after limit appId =
        .ok events → ∀ last ∈ events,
      ∀ e, createdEvent store (runOps store db (pre ++ mid₁)) op = some e →
        streamOf e = key → e.appId = appId →
        (∃ e' ∈ (runOps store db (pre ++ (mid₁ ++ op :: mid₂))).log,
          e'.key = key ∧ e'.appId = appId ∧ e'.sequence = e.event.sequence) →
        ∃ out, store.read (runOps store db (pre ++ (mid₁ ++ op :: mid₂))) key
            last.event.sequence none appId = .ok out ∧
          ∃ stored ∈ out, stored.event.sequence = e.event.sequence ∧
            stored.event.eventId = e.event.eventId

/-- What was logged at any earlier point of a guarded run lies below an event created later. -/
lemma lt_of_logged_before {mid : List StreamOp}
    (hguard : Guarded (perform store) SparesNewest db (mid ++ [op]))
    (hmade : createdEvent store (runOps store db mid) op = some stored) (he : e ∈ db.log)
    (hkey : e.key = streamOf stored) : e.sequence < stored.event.sequence := by
  obtain ⟨hmid, hlast, _⟩ := guarded_append.mp hguard
  obtain ⟨e', he', hkey', hle⟩ := (runOps_logExtends hmid).covers e he
  cases op with
  | append args =>
    obtain ⟨row, hrow, hlog⟩ := createdEvent_append hmade
    have hroom : ∀ m, (runOps store db mid).maxSequence args.streamKey = some m → m < i64Max := by
      intro m hm
      rwa [SparesNewest, hm] at hlast
    have hstream : streamOf stored = args.streamKey :=
      (congrArg LoggedEvent.key hlog).symm.trans (newRow_streamKey hrow.newRow_eq)
    have hseq : row.sequence = stored.event.sequence := congrArg LoggedEvent.sequence hlog
    have hlt := hrow.lt_sequence hroom he' (hkey'.trans (hkey.trans hstream))
    omega
  | redactEvent | redactByField | pruneRetention => cases hmade

lemma logged_eq_of_sequence_eq (hguard : Guarded (perform store) SparesNewest db ops)
    {e' : LoggedEvent} (he : e ∈ db.log) (he' : e' ∈ (runOps store db ops).log)
    (hkey : e.key = e'.key) (hseq : e.sequence = e'.sequence) : e = e' := by
  rcases (runOps_logExtends hguard).fresh e' he' with hold | hnew
  · exact log_inj he hold hkey hseq
  · have hlt := hnew e he hkey
    omega

/-- **No sequence is used twice** in a run whose retention passes spare every stream's newest
row and whose appends stay short of `i64::MAX`; and, on a log whose rows are readable, no reader
that continues from the largest sequence it has read misses a later event. -/
theorem sequences_never_reused (store : StreamStore β) (db : StreamTables β)
    (ops : List StreamOp) (hguard : Guarded (perform store) SparesNewest db ops) :
    NeverReused store db ops ∧ (store.Readable db → ReaderMissesNothing store db ops) := by
  refine ⟨?_, ?_⟩
  · intro pre op₁ mid op₂ post hops e₁ e₂ h₁ h₂ hstream
    have hsplit : ops = (pre ++ [op₁]) ++ ((mid ++ [op₂]) ++ post) := by simp [hops]
    rw [hsplit] at hguard
    have hrest := (guarded_append.mp (guarded_append.mp hguard).2).1
    have hlogged : loggedOf e₁ ∈ (runOps store db (pre ++ [op₁])).log := by
      rw [runOps, run_concat]
      exact createdEvent_mem_log h₁
    refine lt_of_logged_before hrest ?_ hlogged hstream
    rw [runOps, ← run_append]
    simpa using h₂
  · intro hreadable pre mid₁ op mid₂ post hops key appId after limit events hread last hlast
      e he hkey happ hstored
    obtain ⟨e', he', hkey', happ', hseq'⟩ := hstored
    have hpre := runOps_readable hreadable pre
    obtain ⟨l, hl, hlkey, hlseq⟩ := read_sequence_mem hpre hread hlast
    -- The event read last was in the log before `op`, so `op` minted a larger sequence.
    have hsplit : ops = pre ++ ((mid₁ ++ [op]) ++ (mid₂ ++ post)) := by simp [hops]
    have hguard' := hguard
    rw [hsplit] at hguard'
    have hafterPre := (guarded_append.mp hguard').2
    have hmid := (guarded_append.mp hafterPre).1
    have hlt : last.event.sequence < e.event.sequence := by
      rw [← hlseq]
      refine lt_of_logged_before hmid ?_ hl (hlkey.trans hkey.symm)
      rw [runOps, ← run_append]
      exact he
    obtain ⟨out, hout, hcover⟩ := read_complete
      (runOps_readable hreadable (pre ++ (mid₁ ++ op :: mid₂))) key last.event.sequence appId
    obtain ⟨stored, hmem, hsseq, hseid⟩ := hcover e' he' happ' hkey' (by omega)
    -- Nothing else can have taken the event's sequence since.
    have hop : loggedOf e ∈ (runOps store db (pre ++ (mid₁ ++ [op]))).log := by
      rw [← List.append_assoc, runOps, run_concat]
      exact createdEvent_mem_log he
    have hlater : Guarded (perform store) SparesNewest (runOps store db (pre ++ (mid₁ ++ [op])))
        mid₂ := by
      rw [runOps, run_append]
      exact (guarded_append.mp (guarded_append.mp hafterPre).2).1
    have hsame : loggedOf e = e' := by
      refine logged_eq_of_sequence_eq hlater hop ?_ (hkey.trans hkey'.symm) hseq'.symm
      rw [runOps, ← run_append]
      simpa using he'
    refine ⟨out, hout, stored, hmem, hsseq.trans hseq', ?_⟩
    rw [hseid, ← hsame]
    rfl

/-- Two appends to one stream with a retention pass in between that keeps `keep` events. -/
def pruneBetweenAppends (keep : Int) : List StreamOp :=
  [.append (messageSent "request-1" "event-1") none,
    .pruneRetention [("MessageStream", { maxEvents := some keep })] 1700000000000,
    .append (messageSent "request-2" "event-2") none]

/-- A pass that keeps one event spares the newest row, so the two appends around it get
distinct numbers and their reader misses nothing. -/
theorem sequences_never_reused_keeping_one :
    NeverReused testStore empty (pruneBetweenAppends 1) ∧
      ReaderMissesNothing testStore empty (pruneBetweenAppends 1) := by
  have h := sequences_never_reused testStore empty (pruneBetweenAppends 1)
    (by decide +kernel)
  exact ⟨h.1, h.2 readable_empty⟩

/-- **A used sequence is handed out again.** A pass with `max_events = 0` empties the stream;
the next append receives sequence 1 a second time, and a reader at cursor 1 is handed nothing
although an event was created after it read. -/
theorem sequence_reused_after_pruning_newest :
    ¬NeverReused testStore empty (pruneBetweenAppends 0) ∧
      testStore.read (runOps testStore empty (pruneBetweenAppends 0))
        ⟨"_default", "MessageStream", "conv-1"⟩ 1 none "_default" = .ok [] := by
  refine ⟨fun h => ?_, by decide +kernel⟩
  have hlt := h [] _ [_] _ [] rfl ((messageSent "request-1" "event-1").storedEvent 1)
    ((messageSent "request-2" "event-2").storedEvent 1) (by decide +kernel) (by decide +kernel) rfl
  exact absurd hlt (by decide)

/-! ## Reading back -/

lemma selectAfter_sorted (db : StreamTables β) (appId : String) (key : StreamKey) (after : Int) :
    (selectAfter db appId key after).Pairwise fun a b => a.sequence < b.sequence := by
  have hnodup : (selectAfter db appId key after).Nodup :=
    (List.perm_insertionSort _ _).nodup_iff.mpr
      ((List.Nodup.of_map _ db.streamEvents.nodup).filter _)
  refine ((List.pairwise_insertionSort _ _).and hnodup).imp_of_mem fun ha hb h => ?_
  obtain ⟨ha, _, hkeyA, _⟩ := mem_selectAfter.mp ha
  obtain ⟨hb, _, hkeyB, _⟩ := mem_selectAfter.mp hb
  exact h.1.lt_of_ne fun heq =>
    h.2 (Table.eq_of_key_eq ha hb (Prod.ext (hkeyA.trans hkeyB.symm) heq))

def numbered (stored : StoredEvent) : Int × String := (stored.event.sequence, stored.event.eventId)

/-- **Read back.** After every run from the empty tables a read succeeds, and it hands out exactly
what the log has of the app and the stream above the cursor, each event once, by increasing
sequence. -/
theorem read_exact (store : StreamStore β) (ops : List StreamOp) (key : StreamKey) (after : Int)
    (appId : String) :
    ∃ out, store.read (runOps store .empty ops) key after none appId = .ok out ∧
      (out.map numbered).Pairwise (fun a b => a.1 < b.1) ∧
      ∀ n id, (n, id) ∈ out.map numbered ↔
        ⟨appId, key, n, id⟩ ∈ (runOps store .empty ops).log ∧ after < n := by
  set db := runOps store .empty ops
  have hrows : ∀ row ∈ selectAfter db appId key after, row ∈ db.streamEvents ∧
      row.streamKey = key :=
    fun row hrow => ⟨(mem_selectAfter.mp hrow).1, (mem_selectAfter.mp hrow).2.2.1⟩
  obtain ⟨out, hout, hall⟩ := mapEvents_of_readable (runOps_readable readable_empty ops) appId hrows
  have hsame : out.map numbered =
      (selectAfter db appId key after).map fun row => (row.sequence, row.eventId) := by
    rw [← List.forall₂_eq_eq_eq, List.forall₂_map_left_iff, List.forall₂_map_right_iff]
    exact hall.flip.imp fun _ _ h => Prod.ext h.1 h.2
  refine ⟨out, hout, ?_⟩
  rw [hsame]
  refine ⟨List.pairwise_map.mpr (selectAfter_sorted db appId key after), fun n id => ?_⟩
  simp only [List.mem_map, mem_selectAfter, mem_log, StreamEventRow.logged, Prod.mk.injEq,
    LoggedEvent.mk.injEq]
  grind

end Frick.Properties
