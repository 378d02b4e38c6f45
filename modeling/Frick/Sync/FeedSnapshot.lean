import Frick.Sync.FeedRecord

/-!
# The Snapshot under way

`handle_subscribe` reads the rows of a type and then checks them one by one, so a Snapshot in the
making holds rows that are decided and rows that are not. `pending` is the row of a record that it
will show if nothing changes any more: a row found visible, or a row still to be checked that the
check would let through. A change of the grants can only matter to the latter.
-/

namespace Frick.Sync

open Framework Protocol Store Server GatewayHub List

/-! ## Rows of a Snapshot by record -/

lemma find?_filter_of_unique {ρ : Type} {rows : List ρ} {p q : ρ → Bool}
    (h : rows.Pairwise fun r s => ¬(p r ∧ p s)) :
    (rows.filter q).find? p = (rows.find? p).filter q := by
  rw [← List.head?_filter, ← List.head?_filter, filter_comm]
  rcases filter_eq_nil_or_singleton h with hnil | ⟨r, hsing⟩
  · rw [hnil]
    rfl
  · rw [hsing, List.head?_cons]
    cases hq : q r with
    | false => rw [filter_cons_of_neg (by simp [hq]), Option.filter_some_neg hq]; rfl
    | true => rw [filter_cons_of_pos hq, Option.filter_some_pos hq]; rfl

def isRow (id : String) (value : Value) : Bool := objectRecordId value = some id

/-- Rows as a list of the store has them: read back, and one for each record. -/
structure Listing (schema : FrickSchema) (objectType : String) (rows : List Value) : Prop where
  distinct : (rows.map objectRecordId).Nodup
  readsBack : ∀ value ∈ rows, ∃ id, ReadsBack schema objectType id value

namespace Listing

variable {schema : FrickSchema} {objectType : String} {rows : List Value}

variable (h : Listing schema objectType rows)
include h

lemma sublist {rows' : List Value} (hsub : rows'.Sublist rows) : Listing schema objectType rows' :=
  ⟨h.distinct.sublist (hsub.map _), fun value hvalue => h.readsBack value (hsub.subset hvalue)⟩

lemma unique (id : String) : rows.Pairwise fun r s => ¬(isRow id r ∧ isRow id s) := by
  have hpairwise := pairwise_map.mp h.distinct
  refine hpairwise.imp fun hne hboth => hne ?_
  simp only [isRow, decide_eq_true_eq] at hboth
  rw [hboth.1, hboth.2]

lemma lastRecord_packObjectRows (id : String) :
    lastRecord id (packObjectRows schema objectType rows) =
      (rows.find? (isRow id)).bind fun value =>
        (packObjectRecord schema objectType id (withoutRecordId value)).toOption := by
  have hfilt : (packObjectRows schema objectType rows).filter
        (fun record => record.recordId = id) =
      packObjectRows schema objectType (rows.filter (isRow id)) := by
    have hreads := h.readsBack
    clear h
    induction rows with
    | nil => rfl
    | cons value _ ih =>
      obtain ⟨own, hown⟩ := hreads value (by simp)
      obtain ⟨record, hpack, _⟩ := hown.packs
      have hid := ObjectFeed.objectRecordId_of_readsBack hown
      have hpacked : ∀ tail, packObjectRows schema objectType (value :: tail) =
          record :: packObjectRows schema objectType tail := by
        intro tail
        rw [packObjectRows, filterMap_cons_some]
        · rfl
        · rw [hid, Option.getD_some, hpack]
          rfl
      have hrecord : record.recordId = own := packObjectRecord_recordId hpack
      have ih := ih fun other hother => hreads other (by simp [hother])
      rw [hpacked]
      by_cases heq : own = id
      · rw [filter_cons_of_pos (by simp [hrecord, heq]),
          filter_cons_of_pos (by simp [isRow, hid, heq]), ih, hpacked]
      · rw [filter_cons_of_neg (by simp [hrecord, heq]),
          filter_cons_of_neg (by simp [isRow, hid, heq]), ih]
  rw [lastRecord, hfilt, ← List.head?_filter]
  rcases filter_eq_nil_or_singleton (h.unique id) with hnil | ⟨value, hsing⟩
  · rw [hnil]
    rfl
  have hmem : value ∈ rows.filter (isRow id) := by simp [hsing]
  obtain ⟨hvalue, hrow⟩ := mem_filter.mp hmem
  obtain ⟨own, hown⟩ := h.readsBack value hvalue
  obtain ⟨record, hpack, _⟩ := hown.packs
  have hid := ObjectFeed.objectRecordId_of_readsBack hown
  obtain rfl : own = id := by
    simpa [isRow, hid] using hrow
  rw [hsing, List.head?_cons, Option.bind_some]
  simp [packObjectRows, hid]

end Listing

namespace SubscribeStage

/-- The rows of the Snapshot under way that are found visible. -/
def visible : SubscribeStage → List Value
  | .checking _ _ visible => visible
  | _ => []

/-- The rows of the Snapshot under way that are still to be checked. -/
def unchecked : SubscribeStage → List Value
  | .listed rows => rows
  | .checking _ rest _ => rest
  | _ => []

/-- The rows are read and the Snapshot is not enqueued. -/
def preparing : SubscribeStage → Bool
  | .listed _ | .checking _ _ _ => true
  | _ => false

def hasRead : SubscribeStage → Bool
  | .absent | .registered => false
  | _ => true

end SubscribeStage

namespace ObjectFeed

variable {β : Type} (feed : ObjectFeed β)

/-- The check of a row of the Snapshot under way; before the probe it is what the probe will find.
-/
def passes (w : FeedWorld β) (object : Value) : Bool :=
  match w.stage with
  | .checking perRecordActive _ _ => feed.canRead w.sharing object perRecordActive none
  | _ => feed.readable w.sharing object

/-- The rows of the Snapshot under way, if nothing changes any more. -/
def pendingRows (w : FeedWorld β) : List Value :=
  w.stage.visible ++ w.stage.unchecked.filter (feed.passes w)

def pending (w : FeedWorld β) (id : String) : Option PackedRecord :=
  ((w.stage.visible.find? (isRow id)).or ((w.stage.unchecked.find? (isRow id)).filter
    (feed.passes w))).bind (feed.record id)

variable {feed}
variable {w : FeedWorld β} {id : String} {object : Value} {sharing : SharingTables}

lemma lastRecord_pendingRows
    (h : Listing feed.config.schema feed.objectType (w.stage.visible ++ w.stage.unchecked))
    (id : String) :
    lastRecord id (packObjectRows feed.config.schema feed.objectType
      (feed.pendingRows w)) = feed.pending w id := by
  have hsub : (feed.pendingRows w).Sublist (w.stage.visible ++ w.stage.unchecked) :=
    (List.Sublist.refl _).append filter_sublist
  have hunique := (h.sublist (sublist_append_right _ _)).unique id
  rw [(h.sublist hsub).lastRecord_packObjectRows, pendingRows, List.find?_append,
    find?_filter_of_unique hunique]
  rfl

lemma recordEffect_snapshot {rows : List Value}
    (h : Listing feed.config.schema feed.objectType rows) (id : String) :
    recordEffect id (feed.snapshot rows) =
      some ((rows.find? (isRow id)).bind (feed.record id)) := by
  change some (lastRecord id (packObjectRows feed.config.schema feed.objectType rows)) = _
  rw [h.lastRecord_packObjectRows]
  rfl

/-! ## The read of the rows -/

lemma listRows_spec (hdb : feed.store.Written w.objects) :
    Listing feed.config.schema feed.objectType (feed.listRows w) ∧
      ∀ id, (feed.listRows w).find? (isRow id) = feed.row w id := by
  obtain ⟨values, hlist, hnodup, hmem⟩ := ObjectStore.exists_list hdb feed.principal.tenantId
    feed.objectType feed.appId
  have hrows : feed.listRows w = values := by
    rw [listRows, hlist]
    rfl
  have hreads : ∀ value ∈ values, ∃ id, ReadsBack feed.config.schema feed.objectType id value := by
    intro value hvalue
    obtain ⟨id, hrow⟩ := (hmem value).mp hvalue
    exact ⟨id, readsBack_of_row hdb hrow⟩
  have hdist : (values.map objectRecordId).Nodup := by
    have hids : values.map (fun value => value.field? "id") =
        (values.map objectRecordId).map (Option.map Value.string) := by
      rw [map_map]
      refine map_congr_left fun value hvalue => ?_
      obtain ⟨id, hid⟩ := hreads value hvalue
      rw [hid.id, Function.comp_apply, objectRecordId_of_readsBack hid]
      rfl
    rw [hids] at hnodup
    exact hnodup.of_map
  have hlisting : Listing feed.config.schema feed.objectType values := ⟨hdist, hreads⟩
  rw [hrows]
  refine ⟨hlisting, fun id => ?_⟩
  cases hrow : feed.row w id with
  | none =>
    refine List.find?_eq_none.mpr fun value hvalue hid => ?_
    obtain ⟨own, hown⟩ := (hmem value).mp hvalue
    have hnamed := recordId_of_row hdb hown
    obtain rfl : own = id := by simpa [isRow, hnamed] using hid
    rw [show feed.row w own = some value from hown] at hrow
    cases hrow
  | some value =>
    have hnamed := recordId_of_row hdb hrow
    have hvalue : value ∈ values := (hmem value).mpr ⟨id, hrow⟩
    have hfound := find?_of_nodup hdist hvalue
    rwa [hnamed] at hfound

lemma filter_readable_bind (w : FeedWorld β) (id : String) :
    ((feed.row w id).filter (feed.readable w.sharing)).bind (feed.record id) = feed.fresh w id := by
  rw [fresh]
  cases feed.row w id with
  | none => rfl
  | some object =>
    by_cases hreads : feed.readable w.sharing object
    · rw [Option.filter_some_pos hreads, Option.bind_some, Option.bind_some, if_pos hreads]
    · rw [Option.filter_some_neg (by simpa using hreads), Option.bind_some, if_neg hreads]
      rfl

lemma recordEffect_freshSnapshot (hdb : feed.store.Written w.objects) (id : String) :
    recordEffect id (feed.freshSnapshot w) = some (feed.fresh w id) := by
  obtain ⟨hlist, hfind⟩ := listRows_spec hdb
  have hread : (fun object => feed.canRead w.sharing object
      (perRecordReadAuthzActive w.sharing) none) = feed.readable w.sharing := rfl
  rw [freshSnapshot, hread, recordEffect_snapshot (hlist.sublist filter_sublist),
    find?_filter_of_unique (hlist.unique id), hfind, filter_readable_bind]

lemma pending_listed (hdb : feed.store.Written w.objects) (id : String) :
    feed.pending { w with stage := .listed (feed.listRows w) } id = feed.fresh w id := by
  obtain ⟨_, hfind⟩ := listRows_spec hdb
  change ((none : Option Value).or (((feed.listRows w).find? (isRow id)).filter
    (feed.readable w.sharing))).bind (feed.record id) = _
  rw [Option.none_or, hfind, filter_readable_bind]

lemma pending_checked {perRecord : Bool} {row : Value} {rest visible : List Value}
    (h : Listing feed.config.schema feed.objectType (w.stage.visible ++ w.stage.unchecked))
    (hstage : w.stage = .checking perRecord (row :: rest) visible) :
    let checked := SubscribeStage.checking perRecord rest
      (if feed.canRead w.sharing row perRecord none then visible ++ [row] else visible)
    Listing feed.config.schema feed.objectType (checked.visible ++ checked.unchecked) ∧
      ∀ id, feed.pending { w with stage := checked } id = feed.pending w id := by
  intro checked
  have hrows : feed.pendingRows { w with stage := checked } = feed.pendingRows w := by
    have hpass : feed.passes w = feed.passes { w with stage := checked } := by
      funext object
      rw [passes, hstage]
      rfl
    rw [pendingRows, pendingRows, hstage, hpass]
    change (if feed.passes { w with stage := checked } row then visible ++ [row] else visible) ++
      rest.filter _ = visible ++ (row :: rest).filter _
    split_ifs with hreads
    · rw [filter_cons_of_pos hreads, append_assoc, singleton_append]
    · rw [filter_cons_of_neg hreads]
  have hsub : (checked.visible ++ checked.unchecked).Sublist
      (w.stage.visible ++ w.stage.unchecked) := by
    rw [hstage]
    change ((if _ then visible ++ [row] else visible) ++ rest).Sublist (visible ++ row :: rest)
    split_ifs
    · rw [append_assoc]
      exact List.Sublist.refl _
    · exact (List.Sublist.refl _).append (sublist_cons_self row rest)
  refine ⟨h.sublist hsub, fun id => ?_⟩
  rw [← lastRecord_pendingRows h, ← lastRecord_pendingRows (h.sublist hsub), hrows]

/-! ## Changes of the grants -/

lemma passes_eq (hid : objectRecordId object = some id) :
    ∃ active : Bool, ∀ sharing, feed.passes { w with sharing } object =
        (feed.owns object none || (active && feed.granted sharing id)) := by
  cases w.stage with
  | checking perRecord =>
    exact ⟨perRecord, fun sharing => canRead_named hid perRecord none⟩
  | _ =>
    refine ⟨true, fun sharing => ?_⟩
    exact readable_eq hid

lemma pending_congr (h : ∀ object ∈ w.stage.unchecked, objectRecordId object = some id →
      feed.passes { w with sharing } object = feed.passes w object) :
    feed.pending { w with sharing } id = feed.pending w id := by
  have hfilt : (w.stage.unchecked.find? (isRow id)).filter
        (feed.passes { w with sharing }) =
      (w.stage.unchecked.find? (isRow id)).filter (feed.passes w) := by
    cases hfound : w.stage.unchecked.find? (isRow id) with
    | none => rfl
    | some object =>
      have hid : objectRecordId object = some id := by simpa [isRow] using List.find?_some hfound
      have hsame := h object (mem_of_find?_eq_some hfound) hid
      simp [Option.filter, hsame]
  rw [pending, pending]
  rw [hfilt]

lemma pending_congr_of_granted (hgrant : feed.granted sharing id = feed.granted w.sharing id) :
    feed.pending { w with sharing } id = feed.pending w id := by
  refine pending_congr fun object _ hid => ?_
  obtain ⟨active, hpass⟩ := passes_eq (w := w) hid
  have hnow := hpass w.sharing
  rw [hpass sharing, hgrant]
  exact hnow.symm

/-- When a grant is lost, the Snapshot will show the same row or none; it shows none only if it had
shown a row that the subscriber does not own. -/
lemma pending_of_lost (hgrant : feed.granted sharing id = false) :
    feed.pending { w with sharing } id = feed.pending w id ∨
      feed.pending { w with sharing } id = none ∧
        ∃ object ∈ w.stage.unchecked, objectRecordId object = some id ∧
          feed.pending w id = feed.record id object ∧ feed.owns object none = false := by
  cases hvis : w.stage.visible.find? (isRow id) with
  | some =>
    left
    simp [pending, hvis]
  | none =>
    cases hfound : w.stage.unchecked.find? (isRow id) with
    | none =>
      left
      simp [pending, hfound]
    | some object =>
      have hid : objectRecordId object = some id := by simpa [isRow] using List.find?_some hfound
      obtain ⟨active, hpass⟩ := passes_eq (w := w) hid
      have hpre := hpass w.sharing
      have hafter := hpass sharing
      rw [hgrant, Bool.and_false, Bool.or_false] at hafter
      by_cases hsame : feed.passes { w with sharing } object = feed.passes w object
      · left
        simp only [pending, hfound, Option.filter, hsame]
      right
      have howns : feed.owns object none = false := by
        rw [hafter, hpre] at hsame
        by_contra howns
        simp [howns] at hsame
      have hpassed : feed.passes w object := by
        rw [hafter, howns] at hsame
        exact Bool.of_not_eq_false fun hfail => hsame hfail.symm
      refine ⟨?_, object, mem_of_find?_eq_some hfound, hid, ?_, howns⟩
      · simp only [pending, hvis, hfound]
        rw [Option.filter_some_neg (by rw [hafter, howns])]
        rfl
      · rw [pending, hvis, hfound, Option.none_or, Option.filter_some_pos hpassed, Option.bind_some]

end ObjectFeed

end Frick.Sync
