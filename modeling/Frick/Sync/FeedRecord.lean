import Frick.Sync.ObjectFeed

/-!
# One record of a feed

What the subscriber of an object feed may read of one record, and what the tasks in flight about the
record will still tell it.

A subscriber reads a row because ownership and hooks allow it (`owns`) or because it holds a grant
on the record (`granted`); `fresh` is what a Snapshot made now shows.  A task either leaves the
subscriber's view alone or overwrites it (`effect`). It carries the data of the moment it was
started, and a later write of the record outdates it; `Current` says that a task's data is not
outdated.
-/

namespace Frick.Sync

open Framework Protocol Store Server GatewayHub

/-! ## Frames about one record -/

lemma lastRecord_singleton (record : PackedRecord) (id : String) :
    lastRecord id [record] = if record.recordId = id then some record else none := by
  unfold lastRecord
  split_ifs with h
  · simp [h]
  · simp [h]

section

variable {objectId objectType : String} {record : PackedRecord} {schema : FrickSchema}
  {value : Value}

section

variable (h : packObjectRecord schema objectType objectId value = .ok record)
include h

lemma packObjectRecord_recordId : record.recordId = objectId := by
  obtain ⟨object, _, h⟩ := bind_eq_ok.mp h
  obtain ⟨fields, _, h⟩ := bind_eq_ok.mp h
  obtain rfl := Except.ok.inj h
  rfl

/-- The frame says nothing about any other record. -/
def FrameAbout (id : String) (frame : FrickFrame) : Prop :=
  ∀ other, other ≠ id → recordEffect other frame = none

lemma recordEffect_upsert (nowMs : Int) :
    recordEffect objectId (.delta ⟨[record], [], nowMs, none⟩) = some (some record) ∧
      FrameAbout objectId (.delta ⟨[record], [], nowMs, none⟩) := by
  have hid := packObjectRecord_recordId h
  constructor
  · simp [recordEffect, lastRecord_singleton, hid]
  · intro other hother
    simp [recordEffect, lastRecord_singleton, hid, hother.symm]

end

lemma recordEffect_removalDelta {nowMs : Int} {frame : FrickFrame}
    (h : removalDelta schema objectType objectId nowMs = some frame) :
    recordEffect objectId frame = some none ∧ FrameAbout objectId frame := by
  unfold removalDelta at h
  cases htomb : packObjectRecord schema objectType objectId (.map []) with
  | error =>
    rw [htomb] at h
    simp [Except.toOption] at h
  | ok =>
    rw [htomb] at h
    obtain rfl : _ = frame := by simpa [Except.toOption] using h
    have hid := packObjectRecord_recordId htomb
    constructor
    · simp [recordEffect]
    · intro other hother
      simp [recordEffect, lastRecord_singleton, hid, hother.symm]

lemma removalDelta_isSome (h : packObjectRecord schema objectType objectId value = .ok record)
    (nowMs : Int) : (removalDelta schema objectType objectId nowMs).isSome := by
  obtain ⟨object, hobj, _⟩ := bind_eq_ok.mp h
  apply (removalDelta_isSome_iff schema objectType objectId nowMs).mpr
  rw [hobj]
  rfl

end

namespace ObjectFeed

variable {β : Type} (feed : ObjectFeed β)

/-! ## What the subscriber may read -/

/-- Ownership and hooks allow the read. -/
def owns (object : Value) (writerUserId : Option String) : Bool :=
  objectReadDecision feed.config.policyHooks feed.config.objectVisibilityMode
    (ownerFieldForType feed.config.schema feed.objectType) feed.principal feed.objectType object
    writerUserId = .allow

/-- The subscriber holds an active grant on the record. -/
def granted (sharing : SharingTables) (id : String) : Bool :=
  sharing.hasActiveGrantFor feed.principal.tenantId feed.principal.userId feed.objectType id "read"

/-- The check of a fresh Subscribe. -/
def readable (sharing : SharingTables) (object : Value) : Bool :=
  feed.canRead sharing object (perRecordReadAuthzActive sharing) none

def row (w : FeedWorld β) (id : String) : Option Value :=
  feed.store.current w.objects feed.principal.tenantId feed.objectType id feed.appId

/-- A row as it goes over the wire. -/
def record (id : String) (object : Value) : Option PackedRecord :=
  (packObjectRecord feed.config.schema feed.objectType id (withoutRecordId object)).toOption

/-- What a Snapshot made now shows of the record. -/
def fresh (w : FeedWorld β) (id : String) : Option PackedRecord :=
  (feed.row w id).bind fun object =>
    if feed.readable w.sharing object then feed.record id object else none

variable {feed}
variable {w : FeedWorld β} {id : String} {object : Value} {sharing : SharingTables}

lemma canRead_eq (sharing : SharingTables) (object : Value) (perRecordActive : Bool)
    (writerUserId : Option String) :
    feed.canRead sharing object perRecordActive writerUserId =
      (feed.owns object writerUserId ||
        (perRecordActive && (objectRecordId object).any (feed.granted sharing))) := by
  unfold canRead subscriberCanReadObjectWithHooks owns
  cases perRecordActive <;> cases objectRecordId object <;> split_ifs <;> simp_all [granted]

lemma canRead_named (hid : objectRecordId object = some id) (perRecordActive : Bool)
    (writerUserId : Option String) :
    feed.canRead sharing object perRecordActive writerUserId =
      (feed.owns object writerUserId || (perRecordActive && feed.granted sharing id)) := by
  rw [canRead_eq, hid, Option.any_some]

lemma granted_of_inactive (h : perRecordReadAuthzActive sharing = false) (id : String) :
    feed.granted sharing id = false := by
  have hempty : sharing.grants.rows = [] := by
    simpa [perRecordReadAuthzActive, SharingTables.grantsEmpty] using h
  simp [granted, SharingTables.hasActiveGrantFor, hempty]

lemma active_and_granted (sharing : SharingTables) (id : String) :
    (perRecordReadAuthzActive sharing && feed.granted sharing id) = feed.granted sharing id := by
  cases hact : perRecordReadAuthzActive sharing with
  | false => rw [granted_of_inactive hact, Bool.and_false]
  | true => rw [Bool.true_and]

lemma readable_eq (hid : objectRecordId object = some id) :
    feed.readable sharing object = (feed.owns object none || feed.granted sharing id) := by
  rw [readable, canRead_named hid, active_and_granted]

lemma owns_of_owns_none (h : feed.owns object none) (writerUserId : Option String) :
    feed.owns object writerUserId :=
  decide_eq_true (objectReadDecision_of_none (of_decide_eq_true h) writerUserId)

variable {writerUserId : Option String} {perRecordActive : Bool}

lemma owns_of_ne (h : writerUserId ≠ some feed.principal.userId) :
    feed.owns object writerUserId = feed.owns object none := by
  rw [owns, owns, objectReadDecision_of_ne h]

lemma canRead_of_owns (h : feed.owns object writerUserId) :
    feed.canRead sharing object perRecordActive writerUserId := by
  rw [canRead_eq, h, Bool.true_or]

lemma owns_of_not_canRead (h : feed.canRead sharing object perRecordActive writerUserId = false) :
    feed.owns object writerUserId = false := by
  by_contra howns
  rw [canRead_of_owns (by simpa using howns)] at h
  cases h

/-! ## The stored row -/

lemma objectRecordId_of_readsBack {schema : FrickSchema} {objectType : String}
    (h : ReadsBack schema objectType id object) : objectRecordId object = some id := by
  simp [objectRecordId, objectFieldStr, h.id]

lemma record_of_readsBack (h : ReadsBack feed.config.schema feed.objectType id object) :
    ∃ record, feed.record id object = some record := by
  obtain ⟨record, hpack, _⟩ := h.packs
  exact ⟨record, by rw [ObjectFeed.record, hpack]; rfl⟩

lemma fresh_of_row_none (hrow : feed.row w id = none) : feed.fresh w id = none := by
  rw [fresh, hrow, Option.bind_none]

variable (hdb : feed.store.Written w.objects) (hrow : feed.row w id = some object)
include hdb hrow

lemma readsBack_of_row : ReadsBack feed.config.schema feed.objectType id object := by
  rw [feed.schema_eq]
  exact ObjectStore.readsBack_of_current hdb hrow

lemma recordId_of_row : objectRecordId object = some id :=
  objectRecordId_of_readsBack (readsBack_of_row hdb hrow)

lemma fresh_of_row :
    feed.fresh w id = if feed.owns object none || feed.granted w.sharing id then
      feed.record id object else none := by
  rw [fresh, hrow, Option.bind_some, readable_eq (recordId_of_row hdb hrow)]

lemma fresh_eq_none_iff :
    feed.fresh w id = none ↔ feed.owns object none = false ∧ feed.granted w.sharing id = false := by
  obtain ⟨record, hrecord⟩ := record_of_readsBack (readsBack_of_row hdb hrow)
  rw [fresh_of_row hdb hrow, hrecord]
  cases feed.owns object none <;> cases feed.granted w.sharing id <;> simp

end ObjectFeed

/-! ## What a task will do -/

namespace FeedPoint

/-- The task was started by a write of the record. -/
def writes : FeedPoint → Bool
  | .written _ _ | .stored _ _ | .deferred _ _ _ | .checking _ _ _ _ | .sending _ | .deleted => true
  | _ => false

/-- The task was started by a delete of the record. -/
def deletes : FeedPoint → Bool
  | .deleted => true
  | _ => false

/-- The next step of the task may enqueue a frame. -/
def announces : FeedPoint → Bool
  | .stored _ _ | .deleted | .sending _ | .removing _ => true
  | _ => false

/-- The task has found the subscriber. -/
def met : FeedPoint → Bool
  | .deferred _ _ _ | .checking _ _ _ _ | .rechecking _ _ _ | .sending _ | .removing _ => true
  | _ => false

/-- The next step of the task meets the subscriber: it looks for it or enqueues a frame. -/
def meets : FeedPoint → Bool
  | .stored _ _ | .deleted | .revokedProbed _ _ _ | .sending _ | .removing _ => true
  | _ => false

end FeedPoint

namespace ObjectFeed

variable {β : Type} (feed : ObjectFeed β)

/-- The fan-out of an upsert of the record by somebody else ends in a frame for the subscriber. -/
def announceable (sharing : SharingTables) (id : String) (object : Value) : Bool :=
  if feed.config.policyHooks.isEmpty then feed.owns object none || feed.granted sharing id
  else feed.readable sharing object

def announced (sharing : SharingTables) (id : String) (object : Value) :
    Option (Option PackedRecord) :=
  if feed.announceable sharing id object then (feed.record id object).map some else none

/-- What a removal says; there are none of an unknown type. -/
def removal (id : String) : Option (Option PackedRecord) :=
  (removalDelta feed.config.schema feed.objectType id 0).map fun _ => none

/-- What a task will say about the record if nothing changes any more. -/
def effect (w : FeedWorld β) (id : String) : FeedPoint → Option (Option PackedRecord)
  | .written value _ => feed.announced w.sharing id ((feed.row w id).getD value)
  | .stored object _ => feed.announced w.sharing id object
  | .deferred object writerUserId frame =>
    if feed.deferredAllowed w.sharing (feed.address id) object writerUserId
        (perRecordReadAuthzActive w.sharing) then recordEffect id frame
    else none
  | .checking object writerUserId frame perRecordActive =>
    if feed.deferredAllowed w.sharing (feed.address id) object writerUserId perRecordActive then
      recordEffect id frame
    else none
  | .deleted => feed.removal id
  | .revoked =>
    (feed.row w id).bind fun object =>
      if feed.readable w.sharing object then none else feed.removal id
  | .revokedRead object frame =>
    if feed.readable w.sharing object then none else recordEffect id frame
  | .revokedProbed object frame perRecordActive | .rechecking object frame perRecordActive =>
    if feed.canRead w.sharing object perRecordActive none then none else recordEffect id frame
  | .sending frame | .removing frame => recordEffect id frame

/-- A probe that found no grant at all still says what the subscriber may read. -/
def Probed (sharing : SharingTables) (id : String) (object : Value) (perRecordActive : Bool) :
    Prop :=
  perRecordActive = false → feed.granted sharing id = true → feed.owns object none = true

/-- The task's data is the record's data. -/
def Current (w : FeedWorld β) (id : String) : FeedPoint → Prop
  | .written _ _ => (feed.row w id).isSome = true
  | .stored object _ => feed.row w id = some object
  | .deferred object _ frame =>
    feed.row w id = some object ∧ recordEffect id frame = (feed.record id object).map some ∧
      (feed.config.policyHooks.isEmpty = true → feed.owns object none = false)
  | .checking object _ frame perRecordActive =>
    feed.row w id = some object ∧ recordEffect id frame = (feed.record id object).map some ∧
      (feed.config.policyHooks.isEmpty = true → feed.owns object none = false) ∧
      feed.Probed w.sharing id object perRecordActive
  | .deleted => feed.row w id = none ∧ feed.removal id = some none
  | .revoked => True
  | .revokedRead object frame => feed.row w id = some object ∧ recordEffect id frame = some none
  | .revokedProbed object frame perRecordActive | .rechecking object frame perRecordActive =>
    feed.row w id = some object ∧ recordEffect id frame = some none ∧
      feed.Probed w.sharing id object perRecordActive
  | .sending frame =>
    ∃ object, feed.row w id = some object ∧ recordEffect id frame = (feed.record id object).map some
  | .removing frame =>
    recordEffect id frame = some none ∧
      ∀ object, feed.row w id = some object → feed.owns object none = false

/-- The value a task carries is named after the record. -/
def Named (w : FeedWorld β) (id : String) : FeedPoint → Prop
  | .written value _ => (feed.row w id).isSome = true ∨ objectRecordId value = some id
  | .stored object _ | .deferred object _ _ | .checking object _ _ _ | .revokedRead object _
  | .revokedProbed object _ _ | .rechecking object _ _ => objectRecordId object = some id
  | .deleted => feed.removal id = some none
  | .revoked | .sending _ | .removing _ => True

/-- The frame a task carries is about the record. -/
def Carries (id : String) : FeedPoint → Prop
  | .deferred _ _ frame | .checking _ _ frame _ | .revokedRead _ frame | .revokedProbed _ frame _
  | .rechecking _ frame _ | .sending frame | .removing frame => FrameAbout id frame
  | .written _ _ | .stored _ _ | .deleted | .revoked => True

variable {feed}
variable {w : FeedWorld β} {id : String} {object : Value} {sharing : SharingTables}
  {point next : FeedPoint} {nowMs : Int}

lemma announceable_of_named (hid : objectRecordId object = some id) :
    feed.announceable sharing id object = feed.readable sharing object := by
  unfold announceable
  split_ifs
  · rw [readable_eq hid]
  · rfl

lemma removal_eq :
    feed.removal id = (removalDelta feed.config.schema feed.objectType id nowMs).map
      fun _ => none := by
  simp [removal, removalDelta, Function.comp_def]

lemma removal_of_row (hdb : feed.store.Written w.objects) (hrow : feed.row w id = some object) :
    feed.removal id = some none := by
  obtain ⟨record, hpack, _⟩ := (readsBack_of_row hdb hrow).packs
  obtain ⟨frame, hframe⟩ := Option.isSome_iff_exists.mp (removalDelta_isSome hpack 0)
  rw [removal, hframe]
  rfl

lemma read_address (hdb : feed.store.Written w.objects) (id : String) :
    feed.store.read w.objects (feed.address id).tenantId (feed.address id).objectType
      (feed.address id).objectId (feed.address id).appId = .ok (feed.row w id) :=
  ObjectStore.read_eq_current hdb _ _ _ _

@[simp] lemma objectId_address (id : String) : (feed.address id).objectId = id :=
  rfl

lemma reaches_address (w : FeedWorld β) (id : String) :
    feed.reaches w (feed.address id) = decide (w.stage ≠ .absent) := by
  simp [reaches, address]

lemma reaches_eq_true {address : ObjectAddress} (h : feed.reaches w address) :
    address = feed.address address.objectId := by
  simp only [reaches] at h
  cases address
  simp_all [ObjectFeed.address]

/-! ## One step of a task -/

variable {writerUserId : Option String}

lemma upsertBaseline_eq_true (hhooks : feed.config.policyHooks.isEmpty) :
    upsertBaseline feed.config feed.objectType object writerUserId feed.principal =
        true ↔ writerUserId = some feed.principal.userId ∨ feed.owns object none := by
  have hnil : feed.config.policyHooks = [] := List.isEmpty_iff.mp hhooks
  simp only [upsertBaseline, owns, hnil, objectReadDecision_nil]
  simp [or_assoc]

lemma deferredAllowed_of_isEmpty (hhooks : feed.config.policyHooks.isEmpty)
    (writerUserId : Option String) (perRecordActive : Bool) :
    feed.deferredAllowed sharing (feed.address id) object writerUserId perRecordActive =
      feed.granted sharing id :=
  if_pos hhooks

lemma deferredAllowed_named (hid : objectRecordId object = some id) (writerUserId : Option String)
    (perRecordActive : Bool) :
    feed.deferredAllowed sharing (feed.address id) object writerUserId perRecordActive =
      if feed.config.policyHooks.isEmpty then feed.granted sharing id
      else feed.owns object writerUserId || (perRecordActive && feed.granted sharing id) := by
  rw [deferredAllowed, canRead_named hid]
  rfl

lemma deferredAllowed_eq
    (hbaseline : feed.config.policyHooks.isEmpty →
      writerUserId ≠ some feed.principal.userId ∧ feed.owns object none = false)
    (hecho : writerUserId = some feed.principal.userId → feed.announceable sharing id object) :
    feed.deferredAllowed sharing (feed.address id) object writerUserId
        (perRecordReadAuthzActive sharing) = feed.announceable sharing id object := by
  unfold deferredAllowed announceable
  split_ifs with hhooks
  · rw [(hbaseline hhooks).2]
    rfl
  by_cases hwriter : writerUserId = some feed.principal.userId
  · have hread : feed.readable sharing object := by
      have h := hecho hwriter
      rwa [announceable, if_neg hhooks] at h
    rw [hread]
    rw [readable, canRead_eq, Bool.or_eq_true] at hread
    rw [canRead_eq, Bool.or_eq_true]
    exact hread.imp_left fun howns => owns_of_owns_none howns _
  · rw [readable, canRead_eq, canRead_eq, owns_of_ne hwriter]

variable (feed w id) in
/-- What one step of a task about the record can come to. A task that looks for the subscriber
before there is a subscription ends (`missed`); otherwise the step depends on what the task carries.
-/
inductive Resumes : FeedPoint → TaskOutcome → Prop
  | missed {point : FeedPoint} (hstage : w.stage = .absent) (hmeets : point.meets = true) :
      Resumes point {}
  | reread (value : Value) (writerUserId : Option String) :
      Resumes (.written value writerUserId)
        { next := some (.stored ((feed.row w id).getD value) writerUserId) }
  | unpacked {object : Value} (writerUserId : Option String)
      (hrecord : feed.record id object = none) :
      Resumes (.stored object writerUserId) {}
  | announce {object : Value} {writerUserId : Option String} {frame : FrickFrame}
      {packed : PackedRecord} (hrecord : feed.record id object = some packed)
      (hframe : recordEffect id frame = some (some packed)) (habout : FrameAbout id frame)
      (hstage : w.stage ≠ .absent) (hhooks : feed.config.policyHooks.isEmpty = true)
      (hbaseline : writerUserId = some feed.principal.userId ∨ feed.owns object none = true) :
      Resumes (.stored object writerUserId) { frame := some frame }
  | defer {object : Value} {writerUserId : Option String} {frame : FrickFrame}
      {packed : PackedRecord} (hrecord : feed.record id object = some packed)
      (hframe : recordEffect id frame = some (some packed)) (habout : FrameAbout id frame)
      (hstage : w.stage ≠ .absent) (hbaseline : feed.config.policyHooks.isEmpty = true →
        writerUserId ≠ some feed.principal.userId ∧ feed.owns object none = false) :
      Resumes (.stored object writerUserId) { next := some (.deferred object writerUserId frame) }
  | ungranted (object : Value) (writerUserId : Option String) (frame : FrickFrame)
      (hhooks : feed.config.policyHooks.isEmpty = true)
      (hinactive : perRecordReadAuthzActive w.sharing = false) :
      Resumes (.deferred object writerUserId frame) {}
  | probe (object : Value) (writerUserId : Option String) (frame : FrickFrame) :
      Resumes (.deferred object writerUserId frame)
        { next := some (.checking object writerUserId frame (perRecordReadAuthzActive w.sharing)) }
  | allow {object : Value} {writerUserId : Option String} (frame : FrickFrame)
      {perRecordActive : Bool} (hallowed : feed.deferredAllowed w.sharing (feed.address id) object
        writerUserId perRecordActive = true) :
      Resumes (.checking object writerUserId frame perRecordActive)
        { next := some (.sending frame) }
  | withhold {object : Value} {writerUserId : Option String} (frame : FrickFrame)
      {perRecordActive : Bool} (hrefused : feed.deferredAllowed w.sharing (feed.address id) object
        writerUserId perRecordActive = false) :
      Resumes (.checking object writerUserId frame perRecordActive) {}
  | unknown (hremoval : feed.removal id = none) : Resumes .deleted {}
  | remove {frame : FrickFrame} (hremoval : feed.removal id = some none)
      (hframe : recordEffect id frame = some none) (habout : FrameAbout id frame) :
      Resumes .deleted { frame := some frame }
  | gone (hrow : feed.row w id = none) : Resumes .revoked {}
  | readRow {object : Value} {frame : FrickFrame} (hrow : feed.row w id = some object)
      (hframe : recordEffect id frame = some none) (habout : FrameAbout id frame) :
      Resumes .revoked { next := some (.revokedRead object frame) }
  | probeRevoked (object : Value) (frame : FrickFrame) :
      Resumes (.revokedRead object frame)
        { next := some (.revokedProbed object frame (perRecordReadAuthzActive w.sharing)) }
  | collect (object : Value) (frame : FrickFrame) (perRecordActive : Bool) :
      Resumes (.revokedProbed object frame perRecordActive)
        { next := some (.rechecking object frame perRecordActive) }
  | keep {object : Value} (frame : FrickFrame) {perRecordActive : Bool}
      (hread : feed.canRead w.sharing object perRecordActive none = true) :
      Resumes (.rechecking object frame perRecordActive) {}
  | refuse {object : Value} (frame : FrickFrame) {perRecordActive : Bool}
      (hrefused : feed.canRead w.sharing object perRecordActive none = false) :
      Resumes (.rechecking object frame perRecordActive) { next := some (.removing frame) }
  | send (frame : FrickFrame) : Resumes (.sending frame) { frame := some frame }
  | sendRemoval (frame : FrickFrame) : Resumes (.removing frame) { frame := some frame }

lemma resumes_stored (w : FeedWorld β) (id : String) (nowMs : Int) (object : Value)
    (writerUserId : Option String) : feed.Resumes w id (.stored object writerUserId)
      (feed.resume w (feed.address id) nowMs (.stored object writerUserId)) := by
  rw [resume, reaches_address]
  cases hpack : packObjectRecord feed.config.schema (feed.address id).objectType
      (feed.address id).objectId (withoutRecordId object) with
  | error => exact .unpacked writerUserId (congrArg Except.toOption hpack)
  | ok packed =>
    have hrecord : feed.record id object = some packed := congrArg Except.toOption hpack
    obtain ⟨hframe, habout⟩ := recordEffect_upsert hpack nowMs
    dsimp only
    by_cases hstage : w.stage = .absent
    · rw [if_pos (by simp [hstage])]
      exact .missed hstage rfl
    rw [if_neg (by simp [hstage])]
    split_ifs with hinline
    · obtain ⟨hhooks, hbaseline⟩ := (Bool.and_eq_true _ _).mp hinline
      exact .announce hrecord hframe habout hstage hhooks
        ((upsertBaseline_eq_true hhooks).mp hbaseline)
    refine .defer hrecord hframe habout hstage fun hhooks => ?_
    rw [hhooks] at hinline
    have hbaseline := mt (upsertBaseline_eq_true hhooks).mpr hinline
    exact ⟨fun hwriter => hbaseline (.inl hwriter),
      Bool.eq_false_iff.mpr fun howns => hbaseline (.inr howns)⟩

lemma resumes (hdb : feed.store.Written w.objects) (id : String) (nowMs : Int)
    (point : FeedPoint) :
    feed.Resumes w id point (feed.resume w (feed.address id) nowMs point) := by
  cases point with
  | written value writerUserId =>
    rw [resume, read_address hdb]
    exact .reread value writerUserId
  | stored object writerUserId => exact resumes_stored w id nowMs object writerUserId
  | deferred object writerUserId frame =>
    rw [resume]
    split_ifs with hnone
    · obtain ⟨hhooks, hinactive⟩ : feed.config.policyHooks.isEmpty ∧
          perRecordReadAuthzActive w.sharing = false := by simpa using hnone
      exact .ungranted object writerUserId frame hhooks hinactive
    · exact .probe object writerUserId frame
  | checking _ _ frame _ =>
    rw [resume]
    split_ifs with hallowed
    · exact .allow frame hallowed
    · exact .withhold frame (by simpa using hallowed)
  | deleted =>
    rw [resume, reaches_address]
    cases hframe : removalDelta feed.config.schema (feed.address id).objectType
        (feed.address id).objectId nowMs with
    | none => exact .unknown (removal_eq.trans (congrArg _ hframe))
    | some =>
      obtain ⟨heff, habout⟩ := recordEffect_removalDelta hframe
      dsimp only
      by_cases hstage : w.stage = .absent
      · rw [if_neg (by simp [hstage])]
        exact .missed hstage rfl
      · rw [if_pos (by simp [hstage])]
        exact .remove (removal_eq.trans (congrArg _ hframe)) heff habout
  | revoked =>
    rw [resume, read_address hdb]
    cases hrow : feed.row w id with
    | none => exact .gone hrow
    | some =>
      obtain ⟨record, hpack, _⟩ := (readsBack_of_row hdb hrow).packs
      obtain ⟨frame, hframe⟩ := Option.isSome_iff_exists.mp (removalDelta_isSome hpack nowMs)
      obtain ⟨heff, habout⟩ := recordEffect_removalDelta hframe
      dsimp only [address]
      rw [hframe]
      exact .readRow hrow heff habout
  | revokedRead object frame => exact .probeRevoked object frame
  | revokedProbed object frame perRecordActive =>
    rw [resume, reaches_address]
    by_cases hstage : w.stage = .absent
    · rw [if_neg (by simp [hstage])]
      exact .missed hstage rfl
    · rw [if_pos (by simp [hstage])]
      exact .collect object frame perRecordActive
  | rechecking _ frame =>
    rw [resume]
    split_ifs with hread
    · exact .keep frame hread
    · exact .refuse frame (by simpa using hread)
  | sending frame => exact .send frame
  | removing frame => exact .sendRemoval frame

lemma probed_now (object : Value) :
    feed.Probed w.sharing id object (perRecordReadAuthzActive w.sharing) := by
  intro hinactive hgrant
  rw [granted_of_inactive hinactive] at hgrant
  cases hgrant

namespace Resumes

variable {outcome : TaskOutcome}

section

variable (h : feed.Resumes w id point outcome)
include h

/-- **Step.** Where a task's step does not enqueue a frame, what the task will say stays the same;
where it does, the frame says it. A task that looks for the subscriber before there is a
subscription ends. -/
lemma effect_eq (hdb : feed.store.Written w.objects)
    (hecho : ∀ object writerUserId, point = .stored object writerUserId → w.stage ≠ .absent →
      writerUserId = some feed.principal.userId →
      feed.announceable w.sharing id object) :
    (w.stage = .absent ∧ point.meets ∧ outcome = {}) ∨
      (outcome.frame = none ∧ feed.effect w id point = outcome.next.bind (feed.effect w id)) ∨
      ∃ frame, outcome = { frame := some frame } ∧ point.announces ∧
        feed.effect w id point = recordEffect id frame := by
  cases h with
  | missed hstage hmeets => exact .inl ⟨hstage, hmeets, rfl⟩
  | unpacked _ hrecord =>
    refine .inr (.inl ⟨rfl, ?_⟩)
    rw [effect, announced, hrecord]
    simp
  | @announce object writerUserId frame _ hrecord hframe _ hstage hhooks hbaseline =>
    have hannounce : feed.announceable w.sharing id object := by
      rcases hbaseline with hwriter | howns
      · exact hecho object writerUserId rfl hstage hwriter
      · rw [announceable, if_pos hhooks, howns, Bool.true_or]
    refine .inr (.inr ⟨frame, rfl, rfl, ?_⟩)
    rw [effect, announced, hannounce, hrecord, hframe]
    rfl
  | @defer object writerUserId _ _ hrecord hframe _ hstage hbaseline =>
    refine .inr (.inl ⟨rfl, ?_⟩)
    rw [Option.bind_some, effect, effect, announced, hrecord, hframe,
      deferredAllowed_eq hbaseline (hecho object writerUserId rfl hstage)]
    rfl
  | ungranted _ _ _ hhooks hinactive =>
    refine .inr (.inl ⟨rfl, ?_⟩)
    rw [effect, deferredAllowed_of_isEmpty hhooks, granted_of_inactive hinactive]
    rfl
  | allow _ hallowed => exact .inr (.inl ⟨rfl, if_pos hallowed⟩)
  | withhold _ hrefused => exact .inr (.inl ⟨rfl, if_neg (Bool.eq_false_iff.mp hrefused)⟩)
  | unknown hremoval => exact .inr (.inl ⟨rfl, hremoval⟩)
  | remove hremoval hframe => exact .inr (.inr ⟨_, rfl, rfl, hremoval.trans hframe.symm⟩)
  | gone hrow =>
    refine .inr (.inl ⟨rfl, ?_⟩)
    rw [effect, hrow]
    rfl
  | readRow hrow hframe =>
    refine .inr (.inl ⟨rfl, ?_⟩)
    rw [effect, hrow, removal_of_row hdb hrow, ← hframe]
    rfl
  | keep _ hread => exact .inr (.inl ⟨rfl, if_pos hread⟩)
  | refuse _ hrefused => exact .inr (.inl ⟨rfl, if_neg (Bool.eq_false_iff.mp hrefused)⟩)
  | send frame | sendRemoval frame => exact .inr (.inr ⟨frame, rfl, rfl, rfl⟩)
  | _ => exact .inr (.inl ⟨rfl, rfl⟩)

lemma frameAbout {frame : FrickFrame}
    (hcarry : Carries id point) (hframe : outcome.frame = some frame) : FrameAbout id frame := by
  cases h with
  | announce _ _ habout | remove _ _ habout =>
    obtain rfl := Option.some.inj hframe
    exact habout
  | send own | sendRemoval own =>
    obtain rfl := Option.some.inj hframe
    exact hcarry
  | _ => cases hframe

/-- A write that ends without having met the subscriber was about a row it may not read. -/
lemma fresh_none (hdb : feed.store.Written w.objects)
    (hended : outcome.next = none) (hwrite : point.writes) (hmeets : point.meets = false)
    (hcur : feed.Current w id point) :
    feed.fresh w id = none ∧ (feed.row w id).isSome := by
  cases h with
  | ungranted _ _ _ hhooks hinactive =>
    obtain ⟨hrow, _, hbaseline⟩ := hcur
    refine ⟨(fresh_eq_none_iff hdb hrow).mpr ⟨hbaseline hhooks, ?_⟩, by rw [hrow]; rfl⟩
    exact granted_of_inactive hinactive id
  | @withhold object _ _ _ hrefused =>
    obtain ⟨hrow, _, hbaseline, hprobe⟩ := hcur
    refine ⟨(fresh_eq_none_iff hdb hrow).mpr ?_, by rw [hrow]; rfl⟩
    by_cases hhooks : feed.config.policyHooks.isEmpty
    · rw [deferredAllowed_of_isEmpty hhooks] at hrefused
      exact ⟨hbaseline hhooks, hrefused⟩
    have hnamed := recordId_of_row hdb hrow
    rw [deferredAllowed, if_neg hhooks, canRead_named hnamed, Bool.or_eq_false_iff] at hrefused
    have howns : feed.owns object none = false := by
      refine Bool.eq_false_iff.mpr fun howns => ?_
      rw [owns_of_owns_none howns] at hrefused
      cases hrefused.1
    refine ⟨howns, Bool.eq_false_iff.mpr fun hgrant => ?_⟩
    rw [hgrant, Bool.and_true] at hrefused
    rw [hprobe hrefused.2 hgrant] at howns
    cases howns
  | _ => simp_all [FeedPoint.writes, FeedPoint.meets]

lemma eq_of_next (hnext : outcome.next = some next) : outcome = { next := some next } := by
  cases h <;> cases hnext <;> rfl

end

variable (h : feed.Resumes w id point { next := some next })
include h

lemma writes_eq : next.writes = point.writes := by
  cases h <;> rfl

lemma deletes_eq : point.deletes = false := by
  cases h <;> rfl

lemma current (hcur : feed.Current w id point) : feed.Current w id next := by
  cases h with
  | reread value =>
    obtain ⟨object, hrow⟩ := Option.isSome_iff_exists.mp hcur
    change feed.row w id = some ((feed.row w id).getD value)
    rw [hrow, Option.getD_some]
  | defer hrecord hframe _ _ hbaseline =>
    exact ⟨hcur, by rw [hframe, hrecord]; rfl, fun hhooks => (hbaseline hhooks).2⟩
  | probe object => exact ⟨hcur.1, hcur.2.1, hcur.2.2, probed_now object⟩
  | allow => exact ⟨_, hcur.1, hcur.2.1⟩
  | readRow hrow hframe => exact ⟨hrow, hframe⟩
  | probeRevoked object => exact ⟨hcur.1, hcur.2, probed_now object⟩
  | collect => exact hcur
  | refuse _ hrefused =>
    refine ⟨hcur.2.1, fun other hother => ?_⟩
    obtain rfl := Option.some.inj (hcur.1.symm.trans hother)
    exact owns_of_not_canRead hrefused

lemma named (hdb : feed.store.Written w.objects) (hnamed : feed.Named w id point) :
    feed.Named w id next := by
  cases h with
  | reread value =>
    cases hrow : feed.row w id with
    | none => exact hnamed.resolve_left (by simp [hrow])
    | some => exact recordId_of_row hdb hrow
  | readRow hrow => exact recordId_of_row hdb hrow
  | allow | refuse => exact trivial
  | _ => exact hnamed

lemma carries (hcarry : Carries id point) : Carries id next := by
  cases h with
  | reread => exact trivial
  | defer _ _ habout _ _ | readRow _ _ habout => exact habout
  | _ => exact hcarry

end Resumes

lemma reached_of_resume {address : ObjectAddress} (nowMs : Int)
    (hmet : point.met → address = feed.address address.objectId)
    (h : (∃ next, (feed.resume w address nowMs point).next = some next ∧ next.met) ∨
      (feed.resume w address nowMs point).frame.isSome) :
    address = feed.address address.objectId := by
  by_cases hreach : feed.reaches w address
  · exact reaches_eq_true hreach
  cases hpoint : point.met with
  | true => exact hmet hpoint
  | false =>
    exfalso
    cases point with
    | written | stored | deleted =>
      rw [resume] at h
      split at h <;> simp [hreach, FeedPoint.met] at h
    | revoked =>
      rw [resume] at h
      split at h
      · split at h <;> simp [FeedPoint.met] at h
      · simp at h
    | revokedRead | revokedProbed => simp [resume, hreach, FeedPoint.met] at h
    | _ => cases hpoint

/-! ## What current tasks say -/

/-- About a row the subscriber owns, a current write says what a Snapshot would, and a current
revocation says nothing. -/
lemma effect_of_owned (hdb : feed.store.Written w.objects) (hrow : feed.row w id = some object)
    (howns : feed.owns object none) (hcur : feed.Current w id point) :
    feed.effect w id point = if point.writes then some (feed.fresh w id) else none := by
  have hreads := readsBack_of_row hdb hrow
  obtain ⟨record, hrecord⟩ := record_of_readsBack hreads
  have hfresh : feed.fresh w id = some record := by
    rw [fresh_of_row hdb hrow, howns, Bool.true_or, if_pos rfl, hrecord]
  have hread : feed.readable w.sharing object := canRead_of_owns howns
  have hann : feed.announced w.sharing id object = some (some record) := by
    rw [announced, announceable_of_named (objectRecordId_of_readsBack hreads), hread, hrecord]
    rfl
  rw [hfresh]
  cases point with
  | written =>
    rw [effect, hrow, Option.getD_some, hann]
    rfl
  | stored =>
    obtain rfl := Option.some.inj (hrow.symm.trans hcur)
    exact hann
  | deferred other writerUserId frame | checking other writerUserId frame perRecordActive =>
    obtain rfl := Option.some.inj (hrow.symm.trans hcur.1)
    have hhooks : ¬feed.config.policyHooks.isEmpty := by
      intro hhooks
      simp [Current, hhooks, howns] at hcur
    rw [effect, deferredAllowed, if_neg hhooks, canRead_of_owns (owns_of_owns_none howns _),
      hcur.2.1, hrecord]
    rfl
  | deleted => simp [Current, hrow] at hcur
  | revoked =>
    rw [effect, hrow, Option.bind_some, hread]
    rfl
  | revokedRead =>
    obtain rfl := Option.some.inj (hrow.symm.trans hcur.1)
    rw [effect, hread]
    rfl
  | revokedProbed other frame perRecordActive | rechecking other frame perRecordActive =>
    obtain rfl := Option.some.inj (hrow.symm.trans hcur.1)
    rw [effect, canRead_of_owns howns]
    rfl
  | sending =>
    obtain ⟨other, hother, hframe⟩ := hcur
    obtain rfl := Option.some.inj (hrow.symm.trans hother)
    rw [effect, hframe, hrecord]
    rfl
  | removing => simp [hcur.2 object hrow] at howns

/-- About a record without a row, a current task says nothing, or that it is gone; a current write
does say so. -/
lemma effect_of_absent (hrow : feed.row w id = none) (hcur : feed.Current w id point) :
    feed.effect w id point = some none ∨ feed.effect w id point = none ∧ point.writes = false := by
  cases point with
  | deleted => exact .inl hcur.2
  | removing => exact .inl hcur.1
  | revoked =>
    refine .inr ⟨?_, rfl⟩
    rw [effect, hrow, Option.bind_none]
  | written value writerUserId | stored other writerUserId | deferred other writerUserId frame
  | checking other writerUserId frame perRecordActive | revokedRead other frame
  | revokedProbed other frame perRecordActive | rechecking other frame perRecordActive
  | sending => simp [Current, hrow] at hcur

/-! ## Grants on other records -/

lemma effect_congr (hdb : feed.store.Written w.objects)
    (hgrant : feed.granted sharing id = feed.granted w.sharing id)
    (hnamed : feed.Named w id point) :
    feed.effect { w with sharing } id point = feed.effect w id point := by
  have hread : ∀ object, objectRecordId object = some id →
      feed.readable sharing object = feed.readable w.sharing object := by
    intro object hid
    rw [readable_eq hid, readable_eq hid, hgrant]
  have hann : ∀ object, objectRecordId object = some id →
      feed.announced sharing id object = feed.announced w.sharing id object := by
    intro object hid
    rw [announced, announced, announceable_of_named hid, announceable_of_named hid,
      hread object hid]
  have hcanRead : ∀ object perRecordActive writerUserId, objectRecordId object = some id →
      feed.canRead sharing object perRecordActive writerUserId =
        feed.canRead w.sharing object perRecordActive writerUserId := by
    intro object perRecordActive writerUserId hid
    rw [canRead_named hid, canRead_named hid, hgrant]
  cases point with
  | written value =>
    change feed.announced sharing id ((feed.row w id).getD value) = _
    refine hann _ ?_
    cases hrow : feed.row w id with
    | none => exact hnamed.resolve_left (by simp [hrow])
    | some => exact recordId_of_row hdb hrow
  | stored object => exact hann object hnamed
  | deferred =>
    rw [effect, effect, deferredAllowed_named hnamed, deferredAllowed_named hnamed, hgrant,
      active_and_granted, ← hgrant, active_and_granted]
  | checking =>
    rw [effect, effect, deferredAllowed_named hnamed, deferredAllowed_named hnamed, hgrant]
  | deleted => rfl
  | revoked =>
    change (feed.row w id).bind _ = (feed.row w id).bind _
    cases hrow : feed.row w id with
    | none => rfl
    | some object =>
      rw [Option.bind_some, Option.bind_some, hread object (recordId_of_row hdb hrow)]
  | revokedRead object => rw [effect, effect, hread object hnamed]
  | revokedProbed object frame perRecordActive | rechecking object frame perRecordActive =>
    rw [effect, effect, hcanRead object _ _ hnamed]
  | sending | removing => rfl

end ObjectFeed

end Frick.Sync
