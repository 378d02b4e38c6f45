import Frick.Sync.FeedSettles

/-!
# The live view of an object subscription

A subscriber folds the frames it is sent over its Snapshot and should end up with the rows that a
fresh Subscribe would return, once nothing is in flight any more. The server does not always do its
part:

* an upsert that takes a row from the subscriber's sight (a change of the owner field) is announced
  to those who may read the new row, and the subscriber keeps the old one;
* a grant that opens a stored row is not announced, and neither is a revocation outside the default
  app's partition;
* a writer is sent its own write also when it may not read the row;
* announcements about one record can overtake each other, between the commit and the write listener
  and in the spawned task that checks grants;
* an announcement can be enqueued between the read of the rows and the Snapshot, which then covers
  it.

`undisturbed` leaves out the steps that do one of these things. In a run without them, what is in
flight about a record always settles to the fresh view of it (`Coherent`), so the view is fresh when
nothing is in flight.
-/

namespace Frick.Sync

open Framework Protocol Store Server ObjectStore ObjectFeed List Option Bool

namespace ObjectFeed

variable {β : Type} (feed : ObjectFeed β)

/-! ## The condition -/

/-- A change of the record can go unnoticed: the subscriber's rows are read, or a task about the
record is in flight. -/
def exposed (w : FeedWorld β) (id : String) : Bool :=
  w.stage.hasRead || w.tasks.any fun task => task.address = feed.address id

/-- A change of the grants does not change what the subscriber may read of the record: of its stored
row, and of a row that the Snapshot under way has not checked. -/
def unaffected (w : FeedWorld β) (sharing : SharingTables) (id : String) : Bool :=
  ((feed.row w id).all fun object =>
      feed.readable sharing object = feed.readable w.sharing object) &&
    w.stage.unchecked.all fun object => objectRecordId object ≠ some id ||
      feed.passes { w with sharing } object = feed.passes w object

/-- A task about the record takes its turn: nothing committed before it is still to be announced, no
Snapshot under way covers what it announces, and it echoes no row that the writer may not read. -/
def inTurn (w : FeedWorld β) (n : Nat) (task : FeedTask) : Bool :=
  let id := task.address.objectId
  (!task.point.meets || (w.tasks.take n).all fun earlier => earlier.address ≠ task.address) &&
    (!task.point.announces || !w.stage.preparing || feed.pending w id = feed.fresh w id) &&
    match task.point with
    | .stored object writerUserId =>
      w.stage = .absent || writerUserId ≠ some feed.principal.userId ||
        feed.announceable w.sharing id object
    | _ => true

/-- The step does none of the things that leave the subscriber with a wrong view. -/
def undisturbed (w : FeedWorld β) : FeedLabel → Bool
  | .upsert write =>
    let id := write.address.objectId
    write.address ≠ feed.address id || !feed.exposed w id ||
      !((feed.row w id).any (feed.readable w.sharing)) ||
      (readBack feed.config.schema feed.objectType id write.value).all (feed.readable w.sharing)
  | .createGrant grant =>
    match w.sharing.createGrant grant with
    | .ok (sharing, _) => !feed.exposed w grant.recordId || feed.unaffected w sharing grant.recordId
    | .error _ => true
  | .revokeGrant tenantId grantId now =>
    match w.sharing.revokeGrant tenantId grantId now with
    | (sharing, some grant) =>
      feed.appId = defaultAppId || !feed.exposed w grant.recordId ||
        feed.unaffected w sharing grant.recordId
    | (_, none) => true
  | .proceed n _ =>
    match w.tasks[n]? with
    | some task => task.address ≠ feed.address task.address.objectId || feed.inTurn w n task
    | none => true
  | .delete _ | .subscribe => true

/-- A server before the subscriber connects, with nothing in flight. -/
structure Start (w : FeedWorld β) : Prop where
  written : feed.store.Written w.objects
  tasks : w.tasks = []
  stage : w.stage = .absent
  sent : w.sent = []

/-! ## The invariant -/

/-- Where the tasks about a record stand, in the order of their commits. -/
def points (tasks : List FeedTask) (id : String) : List FeedPoint :=
  (tasks.filter fun task => task.address = feed.address id).map FeedTask.point

/-- What the subscriber shows of a record, or will once its Snapshot is enqueued. -/
def shown (w : FeedWorld β) (id : String) : Option PackedRecord :=
  match w.stage with
  | .absent | .registered => feed.fresh w id
  | .listed _ | .checking _ _ _ => feed.pending w id
  | .live => viewOf w.sent id

/-- What is in flight settles to a fresh view, record by record. -/
structure Coherent (w : FeedWorld β) : Prop where
  written : feed.store.Written w.objects
  listing : Listing feed.config.schema feed.objectType (w.stage.visible ++ w.stage.unchecked)
  met : ∀ task ∈ w.tasks, task.point.met = true → task.address = feed.address task.address.objectId
  carries : ∀ task ∈ w.tasks, ∀ id, task.address = feed.address id → Carries id task.point
  settles : ∀ id, feed.Settles w id (feed.points w.tasks id) (feed.shown w id)

variable {feed}
variable {w : FeedWorld β} {id : String} {sharing : SharingTables}

lemma points_append (before after : List FeedTask) (id : String) :
    feed.points (before ++ after) id = feed.points before id ++ feed.points after id := by
  rw [points, filter_append, map_append]
  rfl

lemma points_cons (task : FeedTask) (tasks : List FeedTask) (id : String) :
    feed.points (task :: tasks) id =
      if task.address = feed.address id then task.point :: feed.points tasks id
      else feed.points tasks id := by
  unfold points
  split_ifs with h
  · rw [filter_cons_of_pos (by simpa using h), map_cons]
  · rw [filter_cons_of_neg (by simpa using h)]

variable {task : FeedTask} {w' : FeedWorld β} {write : ObjectWrite} {n : Nat} {nowMs : Int}

lemma Coherent.start (h : feed.Coherent w) (hdb : feed.store.Written w'.objects)
    (hstage : w'.stage = w.stage) (htasks : w'.tasks = w.tasks ++ [task])
    (hmet : task.point.met = false) (hcarry : ∀ id, Carries id task.point)
    (hself : ∀ id, task.address = feed.address id →
      feed.Settles w' id (feed.points w.tasks id ++ [task.point]) (feed.shown w' id))
    (hother : ∀ id, task.address ≠ feed.address id →
      feed.Settles w' id (feed.points w.tasks id) (feed.shown w' id)) : feed.Coherent w' := by
  refine ⟨hdb, hstage ▸ h.listing, ?_, ?_, fun id => ?_⟩
  · intro other hmem hothermet
    rw [htasks, mem_append, mem_singleton] at hmem
    rcases hmem with hmem | rfl
    · exact h.met other hmem hothermet
    · rw [hmet] at hothermet
      cases hothermet
  · intro other hmem id haddr
    rw [htasks, mem_append, mem_singleton] at hmem
    rcases hmem with hmem | rfl
    · exact h.carries other hmem id haddr
    · exact hcarry id
  · rw [htasks, points_append, points_cons]
    split_ifs with haddr
    · exact hself id haddr
    · exact (append_nil _).symm ▸ hother id haddr

lemma address_ne {address : ObjectAddress} (h : address ≠ feed.address id) :
    (feed.principal.tenantId, feed.objectType, id, feed.appId) ≠
      (address.tenantId, address.objectType, address.objectId, address.appId) := by
  intro heq
  simp only [Prod.mk.injEq] at heq
  obtain ⟨hten, htype, hid, happ⟩ := heq
  apply h
  rw [ObjectFeed.address, hten, htype, hid, happ]

/-- The worlds differ in their rows and tasks at most. -/
structure SameView (w w' : FeedWorld β) : Prop where
  sharing : w'.sharing = w.sharing
  stage : w'.stage = w.stage
  sent : w'.sent = w.sent

lemma pending_of_sameStage (hshare : w'.sharing = w.sharing) (hstage : w'.stage = w.stage) :
    feed.pending w' id = feed.pending w id := by
  have hpass : feed.passes w' = feed.passes w := by
    funext object
    rw [passes, passes, hstage, hshare]
  rw [pending, pending, hpass, hstage]

lemma shown_congr (hrow : feed.row w' id = feed.row w id) (hview : SameView w w') :
    feed.shown w' id = feed.shown w id := by
  rw [shown, shown, pending_of_sameStage hview.sharing hview.stage, fresh_congr hrow hview.sharing,
    hview.stage, hview.sent]

lemma shown_of_hasRead (hview : SameView w w') (hread : w.stage.hasRead) :
    feed.shown w' id = feed.shown w id := by
  rw [shown, shown, pending_of_sameStage hview.sharing hview.stage, hview.stage, hview.sent]
  cases hcase : w.stage with
  | absent | registered => simp [hcase, SubscribeStage.hasRead] at hread
  | _ => rfl

lemma shown_of_not_hasRead (hread : w.stage.hasRead = false) :
    feed.shown w id = feed.fresh w id := by
  unfold shown
  cases hstage : w.stage with
  | absent | registered => rfl
  | _ =>
    rw [hstage] at hread
    cases hread

/-- A record that is not exposed has nothing in flight, and its view is yet to be made. -/
lemma of_not_exposed (h : feed.exposed w id = false) :
    feed.points w.tasks id = [] ∧ w.stage.hasRead = false := by
  unfold exposed at h
  rw [or_eq_false_iff] at h
  refine ⟨?_, h.1⟩
  have hnone : (w.tasks.filter fun task => task.address = feed.address id) = [] := by
    refine filter_eq_nil_iff.mpr fun task htask => ?_
    exact any_eq_false.mp h.2 task htask
  rw [points, hnone]
  rfl

lemma Coherent.settles_of_row (h : feed.Coherent w) (hview : SameView w w')
    (hrow : feed.row w' id = feed.row w id) :
    feed.Settles w' id (feed.points w.tasks id) (feed.shown w' id) := by
  rw [shown_congr hrow hview]
  exact (h.settles id).congr hrow hview.sharing

/-! ## Writes -/

lemma fresh_of_upsert {out : Value} (hguard : feed.undisturbed w (.upsert write))
    (haddr : write.address = feed.address id) (hexpo : feed.exposed w id)
    (hback : readBack feed.config.schema feed.objectType id write.value = some out)
    (hunreadable : feed.readable w.sharing out = false) : feed.fresh w id = none := by
  simp only [undisturbed, haddr, objectId_address, hexpo, hback, all_some, hunreadable,
    ne_eq, not_true_eq_false, decide_false, Bool.not_true, Bool.false_or, Bool.or_false,
    not_eq_true'] at hguard
  rw [fresh]
  cases hrow : feed.row w id with
  | none => rfl
  | some =>
    rw [hrow, any_some] at hguard
    rw [bind_some, hguard]
    rfl

section

variable (h : feed.Coherent w) (hguard : feed.undisturbed w (.upsert write) = true)
include h hguard

lemma Coherent.settles_upsert {out : Value} (hview : SameView w w')
    (hdb : feed.store.Written w'.objects) (haddr : write.address = feed.address id)
    (hrow : feed.row w' id = some out)
    (hback : readBack feed.config.schema feed.objectType id write.value = some out) :
    feed.Settles w' id (feed.points w.tasks id ++ [.written write.value write.writerUserId])
      (feed.shown w' id) := by
  refine (h.settles id).upsert h.written hdb hview.sharing hrow (fun hfresh => ?_) _ _
  have hunreadable : feed.readable w.sharing out = false := by
    obtain ⟨howns, hgrant⟩ := (fresh_eq_none_iff hdb hrow).mp hfresh
    rw [readable_eq (recordId_of_row hdb hrow), howns, ← hview.sharing, hgrant, Bool.or_false]
  cases hexpo : feed.exposed w id with
  | false =>
    obtain ⟨hpts, hread⟩ := of_not_exposed hexpo
    exact .inl ⟨hpts, (shown_of_not_hasRead (hview.stage ▸ hread)).trans hfresh⟩
  | true =>
    have hsight := fresh_of_upsert hguard haddr hexpo hback hunreadable
    refine .inr ⟨hsight, ?_⟩
    by_cases hread : w.stage.hasRead
    · exact shown_of_hasRead hview hread
    · rw [not_eq_true] at hread
      rw [shown_of_not_hasRead hread, shown_of_not_hasRead (hview.stage ▸ hread), hfresh, hsight]

lemma Coherent.upsert : feed.Coherent (feed.step w (.upsert write)) := by
  rw [step]
  cases hcommit : write.commit feed.store w.objects with
  | error => exact h
  | ok objects =>
    obtain ⟨version, packed, hpack, hwrite⟩ := ObjectWrite.commit_eq_ok hcommit
    have hdb : feed.store.Written objects := written_writeRowPacked h.written hpack hwrite
    obtain ⟨⟨out, hself, hback⟩, hother⟩ := current_writeRowPacked hpack hwrite
    refine h.start hdb rfl rfl rfl (fun _ => trivial) (fun id haddr => ?_) fun id haddr => ?_
    · replace haddr : write.address = feed.address id := haddr
      rw [haddr] at hself hback
      rw [← feed.schema_eq] at hback
      exact h.settles_upsert hguard ⟨rfl, rfl, rfl⟩ hdb haddr hself hback
    · exact h.settles_of_row ⟨rfl, rfl, rfl⟩ (hother _ _ _ _ (address_ne haddr))

end

lemma Coherent.delete (h : feed.Coherent w) (address : ObjectAddress) :
    feed.Coherent (feed.step w (.delete address)) := by
  obtain ⟨hself, hother⟩ := selectRow_delete w.objects
    address.tenantId address.objectType address.objectId address.appId
  have hdb : feed.store.Written (ObjectStore.delete w.objects address.tenantId address.objectType
      address.objectId address.appId).1 :=
    fun row hrow => h.written row (Table.mem_deleteWhere.mp hrow).1
  have hexisted : (ObjectStore.delete w.objects address.tenantId address.objectType
      address.objectId address.appId).2 = (feed.store.current w.objects address.tenantId
        address.objectType address.objectId address.appId).isSome :=
    selectRow_isSome h.written _ _ _ _
  rw [step, hexisted]
  split_ifs with hsome
  · refine h.start hdb rfl rfl rfl (fun _ => trivial) (fun id haddr => ?_) fun id haddr => ?_
    · obtain rfl : address = feed.address id := haddr
      obtain ⟨object, hrow⟩ := isSome_iff_exists.mp hsome
      exact Settles.delete (current_of_selectRow_none hself) (removal_of_row h.written hrow)
    · exact h.settles_of_row ⟨rfl, rfl, rfl⟩ (current_congr (hother _ _ _ _ (address_ne haddr)))
  · refine ⟨hdb, h.listing, h.met, h.carries, fun id => h.settles_of_row ⟨rfl, rfl, rfl⟩ ?_⟩
    by_cases haddr : address = feed.address id
    · subst haddr
      have hnone : feed.row w id = none := not_isSome_iff_eq_none.mp hsome
      rw [hnone]
      exact current_of_selectRow_none hself
    · exact current_congr (hother _ _ _ _ (address_ne haddr))

/-! ## Grants -/

lemma shown_of_granted (hdb : feed.store.Written w.objects)
    (hgrant : feed.granted sharing id = feed.granted w.sharing id) :
    feed.shown { w with sharing } id = feed.shown w id := by
  have hfresh := fresh_of_sharing hdb fun _ _ => .inl hgrant
  unfold shown
  rw [hfresh, pending_congr_of_granted hgrant]

section

variable (h : feed.Coherent w)
include h

lemma Coherent.settles_of_granted (hgrant : feed.granted sharing id = feed.granted w.sharing id) :
    feed.Settles { w with sharing } id (feed.points w.tasks id)
      (feed.shown { w with sharing } id) := by
  have hshown := shown_of_granted h.written hgrant
  exact (h.settles id).of_sharing h.written (fun _ => hshown) (fun _ _ _ _ => hshown)
    (.inl hshown) fun _ _ => .inl hgrant

lemma Coherent.settles_of_unaffected
    (hguard : feed.exposed w id = false ∨ feed.unaffected w sharing id) :
    feed.Settles { w with sharing } id (feed.points w.tasks id)
      (feed.shown { w with sharing } id) := by
  rcases hguard with hexpo | hframe
  · obtain ⟨hpts, hread⟩ := of_not_exposed hexpo
    rw [hpts]
    exact settles_nil (shown_of_not_hasRead hread)
  obtain ⟨hrow, hunchecked⟩ := (and_eq_true _ _).mp hframe
  have hreadable : ∀ object, feed.row w id = some object →
      feed.granted sharing id = feed.granted w.sharing id ∨ feed.owns object none := by
    intro object hfound
    have hnamed := recordId_of_row h.written hfound
    rw [hfound, all_some, decide_eq_true_eq, readable_eq hnamed, readable_eq hnamed] at hrow
    by_cases howns : feed.owns object none
    · exact .inr howns
    · rw [not_eq_true] at howns
      rw [howns] at hrow
      exact .inl hrow
  have hpend : feed.pending { w with sharing } id = feed.pending w id := by
    refine pending_congr fun object hobj hnamed => ?_
    have hsame := all_eq_true.mp hunchecked object hobj
    simpa [hnamed] using hsame
  have hshown : feed.shown { w with sharing } id = feed.shown w id := by
    unfold shown
    rw [fresh_of_sharing h.written hreadable, hpend]
  exact (h.settles id).of_sharing h.written (fun _ => hshown) (fun _ _ _ _ => hshown)
    (.inl hshown) hreadable

lemma Coherent.of_sharing
    (hsettles : ∀ id, feed.Settles { w with sharing } id (feed.points w.tasks id)
      (feed.shown { w with sharing } id)) :
    feed.Coherent { w with sharing } :=
  ⟨h.written, h.listing, h.met, h.carries, hsettles⟩

lemma Coherent.createGrant {grant : Grant}
    (hguard : feed.undisturbed w (.createGrant grant)) :
    feed.Coherent (feed.step w (.createGrant grant)) := by
  rw [step]
  cases hmake : w.sharing.createGrant grant with
  | error => exact h
  | ok result =>
    refine h.of_sharing fun id => ?_
    by_cases hid : id = grant.recordId
    · subst hid
      refine h.settles_of_unaffected ?_
      simpa [undisturbed, hmake] using hguard
    · exact h.settles_of_granted (SharingTables.hasActiveGrantFor_createGrant hmake hid)

/-- A lost grant can only take a row from the view that the subscriber does not own. -/
lemma Coherent.shown_of_lost (hgrant : feed.granted sharing id = false) :
    (feed.shown { w with sharing } id = feed.shown w id ∨ feed.shown { w with sharing } id = none) ∧
      ∀ object, feed.row w id = some object → feed.owns object none →
        feed.shown w id = feed.fresh w id →
        feed.shown { w with sharing } id = feed.shown w id := by
  have howned : ∀ object, feed.row w id = some object → feed.owns object none →
      feed.fresh { w with sharing } id = feed.fresh w id := by
    intro object hrow howns
    refine fresh_of_sharing h.written fun other hother => .inr ?_
    obtain rfl := some.inj (hrow.symm.trans hother)
    exact howns
  have hlost : feed.fresh { w with sharing } id = feed.fresh w id ∨
      feed.fresh { w with sharing } id = none := by
    cases hrow : feed.row w id with
    | none => exact .inr (fresh_of_row_none hrow)
    | some object =>
      by_cases howns : feed.owns object none
      · exact .inl (howned object hrow howns)
      · right
        exact (fresh_eq_none_iff (w := { w with sharing }) h.written hrow).mpr
          ⟨by simpa using howns, hgrant⟩
  have hpend : (feed.pending { w with sharing } id = feed.pending w id ∨
        feed.pending { w with sharing } id = none) ∧
      ∀ object, feed.row w id = some object → feed.owns object none →
        feed.pending w id = feed.fresh w id →
        feed.pending { w with sharing } id = feed.pending w id := by
    rcases pending_of_lost (w := w) hgrant with
      hsame | ⟨hnone, listed, hlist, hnamed, hrecord, hnotOwned⟩
    · exact ⟨.inl hsame, fun _ _ _ _ => hsame⟩
    refine ⟨.inr hnone, fun object hrow howns hfresh => ?_⟩
    -- The row that the Snapshot would have shown is the stored one.
    obtain ⟨own, hreads⟩ := h.listing.readsBack listed (mem_append_right _ hlist)
    obtain rfl : own = id := by
      rw [objectRecordId_of_readsBack hreads] at hnamed
      exact some.inj hnamed
    have hstored := readsBack_of_row h.written hrow
    rw [hrecord, fresh_of_row h.written hrow, howns, Bool.true_or] at hfresh
    obtain ⟨packed, hpack, _⟩ := hreads.packs
    obtain ⟨packed', hpack', _⟩ := hstored.packs
    rw [record, record, hpack, hpack'] at hfresh
    have hsame : packed = packed' := some.inj hfresh
    obtain rfl := hreads.eq_of_pack_eq hstored (by rw [hpack, hpack', hsame])
    rw [hnotOwned] at howns
    cases howns
  obtain ⟨objects, before, tasks, stage, sent⟩ := w
  cases stage with
  | absent | registered => exact ⟨hlost, fun object hrow howns _ => howned object hrow howns⟩
  | listed | checking => exact hpend
  | live => exact ⟨.inl rfl, fun _ _ _ _ => rfl⟩

lemma Coherent.revokeGrant {tenantId grantId now : String}
    (hguard : feed.undisturbed w (.revokeGrant tenantId grantId now)) :
    feed.Coherent (feed.step w (.revokeGrant tenantId grantId now)) := by
  rw [step]
  rcases hrevoke : w.sharing.revokeGrant tenantId grantId now with ⟨sharing, answer⟩
  have hshare : (w.sharing.revokeGrant tenantId grantId now).1 = sharing := by rw [hrevoke]
  have hans : (w.sharing.revokeGrant tenantId grantId now).2 = answer := by rw [hrevoke]
  rcases SharingTables.revokeGrant_spec w.sharing tenantId grantId now with
    ⟨hnone, hkept⟩ | ⟨grant, hgrant, hten, _⟩
  · obtain rfl : none = answer := hnone.symm.trans hans
    obtain rfl : w.sharing = sharing := hkept.symm.trans hshare
    exact h
  obtain rfl : some grant = answer := hgrant.symm.trans hans
  have hlost : ∀ id, feed.granted sharing id → feed.granted w.sharing id := by
    intro id hgranted
    rw [← hshare] at hgranted
    exact SharingTables.hasActiveGrantFor_of_revokeGrant hgranted
  -- The new task is no part of what a record settles to.
  refine h.start h.written rfl rfl rfl (fun _ => trivial) (fun id haddr => ?_)
    (fun id haddr => ?_) <;>
    refine Settles.congr (w := { w with sharing }) ?_ rfl rfl <;>
    change feed.Settles _ id _ (feed.shown { w with sharing } id)
  · by_cases hgranted : feed.granted sharing id
    · have hsame : feed.granted sharing id = feed.granted w.sharing id := by
        rw [hgranted, hlost id hgranted]
      have hshown := shown_of_granted h.written hsame
      exact (h.settles id).revoke h.written (fun _ => hshown) (fun _ _ _ _ => hshown)
        (.inl hshown) (hlost id)
    · rw [not_eq_true] at hgranted
      obtain ⟨hx, howned⟩ := h.shown_of_lost hgranted
      exact (h.settles id).revoke h.written (shown_of_granted h.written) howned hx (hlost id)
  · by_cases hframe : feed.exposed w id = false ∨ feed.unaffected w sharing id
    · exact h.settles_of_unaffected hframe
    · -- The task is another record's, so the grant is one on another record.
      refine h.settles_of_granted ?_
      rw [← hshare]
      refine SharingTables.hasActiveGrantFor_revokeGrant hgrant fun heq => ?_
      simp only [Prod.mk.injEq] at heq
      obtain ⟨htenantEq, htype, hid⟩ := heq
      have happ : feed.appId ≠ defaultAppId := by
        intro happ
        apply haddr
        rw [address, htenantEq, hten, happ, htype, hid]
      rw [undisturbed, hrevoke] at hguard
      dsimp only at hguard
      rw [← hid] at hguard
      exact hframe (by simpa [happ] using hguard)

end

/-! ## One step of a task -/

lemma split_tasks {tasks : List FeedTask} (h : tasks[n]? = some task) :
    tasks = tasks.take n ++ task :: tasks.drop (n + 1) := by
  obtain ⟨hn, rfl⟩ := List.getElem?_eq_some_iff.mp h
  rw [← drop_eq_getElem_cons hn, take_append_drop]

lemma viewOf_concat (frames : List FrickFrame) (frame : FrickFrame) (id : String) :
    viewOf (frames ++ [frame]) id = (recordEffect id frame).getD (viewOf frames id) := by
  rw [viewOf, map_append, map_singleton, overwrite_concat]
  rfl

/-- A frame is taken in as it is enqueued, unless the view is yet to be made or a Snapshot under way
will cover it. -/
lemma shown_of_frame (w : FeedWorld β) (tasks : List FeedTask) (frame : FrickFrame) (id : String) :
    let w' := { w with tasks, sent := w.sent ++ [frame] }
    feed.shown w' id = (recordEffect id frame).getD (feed.shown w id) ∨
      feed.shown w' id = feed.shown w id ∧
        (w.stage.preparing ∧ feed.shown w id = feed.pending w id ∨
          feed.shown w id = feed.fresh w id) := by
  obtain ⟨_, _, _, stage, sent⟩ := w
  cases stage with
  | absent | registered => exact .inr ⟨rfl, .inr rfl⟩
  | listed | checking => exact .inr ⟨rfl, .inl ⟨rfl, rfl⟩⟩
  | live => exact .inl (viewOf_concat sent frame id)

lemma Coherent.settles_of_resume (h : feed.Coherent w) (htask : w.tasks[n]? = some task)
    (haddr : task.address = feed.address id) (hturn : feed.inTurn w n task)
    (tasks : List FeedTask) :
    let outcome := feed.resume w task.address nowMs task.point
    let w' := { w with tasks, sent := w.sent ++ outcome.frame.toList }
    feed.Settles w' id (feed.points (w.tasks.take n) id ++ outcome.next.toList ++
      feed.points (w.tasks.drop (n + 1)) id) (feed.shown w' id) := by
  have hsplit : feed.points w.tasks id =
      feed.points (w.tasks.take n) id ++ task.point :: feed.points (w.tasks.drop (n + 1)) id := by
    conv_lhs => rw [split_tasks htask]
    rw [points_append, points_cons, if_pos haddr]
  have hsettles := h.settles id
  rw [hsplit] at hsettles
  rw [haddr]
  simp only [inTurn, haddr, objectId_address, and_eq_true] at hturn
  obtain ⟨⟨horder, hsnapshot⟩, hecho⟩ := hturn
  have hfirst : task.point.meets → feed.points (w.tasks.take n) id = [] := by
    intro hmeets
    rw [hmeets, Bool.not_true] at horder
    have hnone : ((w.tasks.take n).filter fun task => task.address = feed.address id) = [] := by
      refine filter_eq_nil_iff.mpr fun earlier hearl => ?_
      simpa using all_eq_true.mp horder earlier hearl
    rw [points, hnone]
    rfl
  replace hecho : ∀ object writer, task.point = .stored object writer →
      w.stage ≠ .absent → writer = some feed.principal.userId →
      feed.announceable w.sharing id object := by
    intro object writer hpoint hpresent hwriter
    rw [hpoint] at hecho
    simpa [hpresent, hwriter] using hecho
  refine Settles.congr (w := w) ?_ rfl rfl
  have hresu := resumes h.written id nowMs task.point
  rcases hresu.effect_eq h.written hecho with ⟨habsent, hmeets, hresume⟩ | ⟨hframe, heff⟩ |
    ⟨frame, hresume, hannounces, heff⟩
  · -- There is no subscription yet: the view that will be made is the fresh one.
    rw [hresume]
    rw [hfirst hmeets] at hsettles ⊢
    refine hsettles.first (.inr ⟨?_, shown_congr rfl ⟨rfl, rfl, append_nil _⟩⟩)
    exact shown_of_not_hasRead (by rw [habsent]; rfl)
  · rw [hframe, toList_none, append_nil]
    cases hnext : (feed.resume w (feed.address id) nowMs task.point).next with
    | some =>
      rw [hnext] at heff
      rw [toList_some, append_assoc]
      exact hsettles.follow h.written (hresu.eq_of_next hnext ▸ hresu) heff
    | none =>
      rw [hnext] at heff
      rw [toList_none, append_nil]
      cases hmeets : task.point.meets with
      | true =>
        rw [hfirst hmeets] at hsettles ⊢
        exact hsettles.first (.inl (by rw [heff]; rfl))
      | false => exact hsettles.ended h.written hmeets hresu hnext heff
  · rw [hresume]
    have hmeets : task.point.meets := by
      cases hpoint : task.point <;> simp [hpoint, FeedPoint.announces] at hannounces <;> rfl
    rw [hfirst hmeets] at hsettles ⊢
    refine hsettles.first ?_
    rw [heff]
    refine (shown_of_frame w tasks frame id).imp_right fun hcov => ?_
    obtain ⟨hsame, ⟨hpreparing, hpend⟩ | hfresh⟩ := hcov
    · rw [hannounces, hpreparing] at hsnapshot
      refine ⟨?_, hsame⟩
      rw [hpend]
      simpa using hsnapshot
    · exact ⟨hfresh, hsame⟩

lemma Coherent.proceed (h : feed.Coherent w) (hguard : feed.undisturbed w (.proceed n nowMs)) :
    feed.Coherent (feed.step w (.proceed n nowMs)) := by
  rw [step, ObjectFeed.proceed]
  rw [undisturbed] at hguard
  cases htask : w.tasks[n]? with
  | none => exact h
  | some task =>
    rw [htask] at hguard
    dsimp only at hguard ⊢
    have hmem : task ∈ w.tasks := mem_of_getElem? htask
    generalize hoc : feed.resume w task.address nowMs task.point = out
    have hold : ∀ other ∈ w.tasks.take n ++ (out.next.map (FeedTask.mk task.address)).toList ++
        w.tasks.drop (n + 1), other ∈ w.tasks ∨
          ∃ next, out.next = some next ∧ other = ⟨task.address, next⟩ := by
      intro other hother
      rw [mem_append, mem_append] at hother
      rcases hother with (hother | hother) | hother
      · exact .inl (mem_of_mem_take hother)
      · obtain ⟨next, hnext, rfl⟩ := map_eq_some_iff.mp (mem_toList.mp hother)
        exact .inr ⟨next, hnext, rfl⟩
      · exact .inl (mem_of_mem_drop hother)
    refine ⟨h.written, h.listing, ?_, ?_, fun id => ?_⟩
    · intro other hother hmet
      rcases hold other hother with hother | ⟨next, hnext, rfl⟩
      · exact h.met other hother hmet
      · exact reached_of_resume nowMs (h.met task hmem)
          (.inl ⟨next, by rw [hoc, hnext], hmet⟩)
    · intro other hother id haddr
      rcases hold other hother with hother | ⟨next, hnext, rfl⟩
      · exact h.carries other hother id haddr
      replace haddr : task.address = feed.address id := haddr
      have hresu := resumes h.written id nowMs task.point
      rw [← haddr, hoc] at hresu
      rw [hresu.eq_of_next hnext] at hresu
      exact hresu.carries (h.carries task hmem id haddr)
    · by_cases haddr : task.address = feed.address id
      · have hturn : feed.inTurn w n task := by
          simpa [haddr] using hguard
        have hpts : feed.points (out.next.map (FeedTask.mk task.address)).toList id =
            out.next.toList := by
          cases out.next with
          | none => rfl
          | some =>
            rw [map_some, toList_some, points_cons, if_pos haddr]
            rfl
        rw [points_append, points_append, hpts, ← hoc]
        exact h.settles_of_resume htask haddr hturn _
      · have hpts : feed.points (w.tasks.take n ++
            (out.next.map (FeedTask.mk task.address)).toList ++ w.tasks.drop (n + 1)) id =
              feed.points w.tasks id := by
          rw [points_append, points_append]
          conv_rhs => rw [split_tasks htask, points_append, points_cons, if_neg haddr]
          congr 1
          cases out.next with
          | none => exact append_nil _
          | some =>
            rw [map_some, toList_some, points_cons, if_neg haddr]
            exact append_nil _
        rw [hpts]
        cases hframe : out.frame with
        | none => exact h.settles_of_row ⟨rfl, rfl, append_nil _⟩ rfl
        | some frame =>
          have hown := reached_of_resume nowMs (h.met task hmem) (.inr (by rw [hoc, hframe]; rfl))
          rw [hown] at hoc
          have habout : FrameAbout task.address.objectId frame :=
            (resumes h.written _ nowMs task.point).frameAbout (h.carries task hmem _ hown)
              ((congrArg _ hoc).trans hframe)
          have hquiet : recordEffect id frame = none := by
            refine habout id fun heq => haddr ?_
            rwa [heq]
          refine Settles.congr (w := w) ?_ rfl rfl
          convert h.settles id using 1
          refine (shown_of_frame w _ frame id).elim (fun hshown => ?_) And.left
          rwa [hquiet] at hshown

/-! ## The subscription -/

lemma Coherent.restage {stage : SubscribeStage} {sent : List FrickFrame} (h : feed.Coherent w)
    (hlist : Listing feed.config.schema feed.objectType (stage.visible ++ stage.unchecked))
    (hshown : ∀ id, feed.shown { w with stage, sent } id = feed.shown w id) :
    feed.Coherent { w with stage, sent } := by
  refine ⟨h.written, hlist, h.met, h.carries, fun id => ?_⟩
  rw [hshown]
  exact (h.settles id).congr rfl rfl

lemma listing_nil (schema : FrickSchema) (type : String) : Listing schema type [] :=
  ⟨nodup_nil, nofun⟩

lemma Coherent.subscribe (h : feed.Coherent w) : feed.Coherent (feed.step w .subscribe) := by
  have hlist := h.listing
  rw [step, advance]
  cases hstage : w.stage with
  | absent =>
    refine h.restage (listing_nil _ _) fun id => ?_
    rw [shown, shown, hstage]
    rfl
  | registered =>
    refine h.restage (listRows_spec h.written).1 fun id => ?_
    rw [shown, shown, hstage]
    exact pending_listed h.written id
  | listed =>
    rw [hstage] at hlist
    refine h.restage hlist fun id => ?_
    rw [shown, shown]
    rw [pending, pending, hstage]
    have hpass : feed.passes w = feed.readable w.sharing := by
      funext object
      rw [passes, hstage]
    rw [hpass]
    rfl
  | checking _ rest visible =>
    rw [hstage] at hlist
    cases rest with
    | cons _ _ =>
      obtain ⟨hrest, hpend⟩ := pending_checked h.listing hstage
      refine h.restage hrest fun id => ?_
      rw [shown, shown, hstage]
      exact hpend id
    | nil =>
      refine h.restage (listing_nil _ _) fun id => ?_
      have hvis : Listing feed.config.schema feed.objectType visible := by
        simpa [SubscribeStage.visible, SubscribeStage.unchecked] using hlist
      rw [shown, shown, hstage]
      change viewOf (w.sent ++ [feed.snapshot visible]) id = feed.pending w id
      rw [viewOf_concat, recordEffect_snapshot hvis, getD_some, pending, hstage]
      change _ = ((visible.find? (isRow id)).or none).bind _
      rw [or_none]
  | live => exact h

/-! ## The view -/

lemma Start.coherent (h : feed.Start w) : feed.Coherent w := by
  refine ⟨h.written, ?_, by simp [h.tasks], by simp [h.tasks], fun id => ?_⟩
  · rw [h.stage]
    exact listing_nil _ _
  · rw [h.tasks]
    refine settles_nil ?_
    exact shown_of_not_hasRead (by rw [h.stage]; rfl)

/-- **Step.** An undisturbed step keeps what is in flight settling to a fresh view. -/
lemma Coherent.step (h : feed.Coherent w) (label : FeedLabel)
    (hguard : feed.undisturbed w label) : feed.Coherent (feed.step w label) := by
  cases label with
  | upsert => exact h.upsert hguard
  | delete address => exact h.delete address
  | createGrant => exact h.createGrant hguard
  | revokeGrant => exact h.revokeGrant hguard
  | proceed => exact h.proceed hguard
  | subscribe => exact h.subscribe

end ObjectFeed

/-! ## Two runs -/

/-- `ada`, subscribed to the notes of `acme` in owner-scoped mode. -/
def adasFeed : ObjectFeed PackedRecord where
  store := noteStore
  config := .ofSchema noteSchema
  schema_eq := rfl
  principal := { userId := "ada", deviceId := "d", replicaId := "r", tenantId := "acme" }
  active := by decide
  appId := defaultAppId
  objectType := "Note"
  subscriptionId := "s"

def FeedWorld.empty {β : Type} : FeedWorld β := ⟨Table.empty _, .empty, [], .absent, []⟩

lemma FeedWorld.start_empty {β : Type} (feed : ObjectFeed β) : feed.Start FeedWorld.empty :=
  ⟨written_empty, rfl, rfl, rfl⟩

def writeNote (id owner : String) : List FeedLabel :=
  [.upsert ⟨⟨"acme", defaultAppId, "Note", id⟩, .map [(.string "ownerUserId", .string owner)],
      .policy none (some "grace"), 1700000000000⟩,
    .proceed 0 1700000000001, .proceed 0 1700000000002]

def subscribeNotes : List FeedLabel := [.subscribe, .subscribe, .subscribe, .subscribe]

/-- A note that `ada` owns is given to `grace`; the spawned task finds no grants and ends. -/
def giveNoteAway : List FeedLabel :=
  subscribeNotes ++ writeNote "note-1" "ada" ++ writeNote "note-1" "grace" ++
    [.proceed 0 1700000000003]

/-- Notes of both owners, a subscription in between, and a deleted note. -/
def keepNotes : List FeedLabel :=
  writeNote "note-1" "ada" ++ subscribeNotes ++ [.subscribe] ++ writeNote "note-2" "ada" ++
    writeNote "note-3" "grace" ++
    [.proceed 0 1700000000003, .delete ⟨"acme", defaultAppId, "Note", "note-1"⟩,
      .proceed 0 1700000000004]

end Frick.Sync
