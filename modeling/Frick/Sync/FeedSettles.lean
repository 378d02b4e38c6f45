import Frick.Sync.FeedSnapshot

/-!
# What is in flight settles

`Settles` says of one record that the tasks in flight about it, performed in the order of their
commits with nothing else happening, leave the subscriber with what a fresh Snapshot shows. The
lemmas say how each step of the server keeps it: a write, a change of the grants, a step of one of
the tasks.

Tasks carry data of the moment they were started. The last write in flight has the record's present
data and settles whatever is queued before it (`Recent`); a task of a deleted row may carry a value
under a foreign id, and the delete behind it settles that.
-/

namespace Frick.Sync

open Framework Protocol Store Recent List Option

namespace ObjectFeed

variable {β : Type} (feed : ObjectFeed β)

/-- The task's data is the record's data, or the subscriber may not read the stored row. -/
def Settled (w : FeedWorld β) (id : String) (point : FeedPoint) : Prop :=
  feed.Current w id point ∨ feed.fresh w id = none ∧ (feed.row w id).isSome = true

/-- Tasks at the given points, on top of a view that shows `x`, lead to a fresh view of the record.
-/
structure Settles (w : FeedWorld β) (id : String) (points : List FeedPoint)
    (x : Option PackedRecord) : Prop where
  outcome : overwrite (points.map (feed.effect w id)) x = feed.fresh w id
  recent : Recent (fun point => point.writes = true) (feed.Settled w id) points
  named : Recent (fun point => point.deletes = true) (feed.Named w id) points

variable {feed}
variable {w w' : FeedWorld β} {id : String} {object : Value} {sharing : SharingTables}
  {points before after : List FeedPoint} {point next : FeedPoint} {x x' : Option PackedRecord}

lemma settles_nil (hx : x = feed.fresh w id) : feed.Settles w id [] x :=
  ⟨hx, recent_nil, recent_nil⟩

lemma fresh_congr (hrow : feed.row w' id = feed.row w id) (hsharing : w'.sharing = w.sharing) :
    feed.fresh w' id = feed.fresh w id := by
  rw [fresh, fresh, hrow, hsharing]

lemma Settles.congr (h : feed.Settles w id points x) (hrow : feed.row w' id = feed.row w id)
    (hsharing : w'.sharing = w.sharing) : feed.Settles w' id points x := by
  have heff : feed.effect w' id = feed.effect w id := by
    funext point
    cases point <;> simp only [effect, hrow, hsharing]
  have hcur : feed.Current w' id = feed.Current w id := by
    funext point
    cases point <;> simp only [Current, hrow, hsharing]
  have hnamed : feed.Named w' id = feed.Named w id := by
    funext point
    cases point <;> simp only [Named, hrow]
  have hfresh := fresh_congr hrow hsharing
  refine ⟨by rw [heff, hfresh, h.outcome], h.recent.imp fun point _ hsett => ?_, ?_⟩
  · rwa [Settled, hcur, hfresh, hrow]
  · rw [hnamed]
    exact h.named

lemma current_of_settled_of_absent (hrow : feed.row w id = none)
    (h : feed.Settled w id point) : feed.Current w id point := by
  rcases h with hcur | ⟨_, hsome⟩
  · exact hcur
  · simp [hrow] at hsome

lemma revocation_of_absent (hrow : feed.row w id = none) (hwrite : point.writes = false)
    (hcur : feed.Current w id point) : point = .revoked ∨ ∃ frame, point = .removing frame := by
  cases point with
  | revoked => exact .inl rfl
  | removing frame => exact .inr ⟨frame, rfl⟩
  | revokedRead object frame | revokedProbed object frame perRecord
  | rechecking => simp [Current, hrow] at hcur
  | _ => cases hwrite

lemma deleted_of_absent (hrow : feed.row w id = none) (hwrite : point.writes)
    (hcur : feed.Current w id point) : point = .deleted := by
  cases point with
  | deleted => rfl
  | written value writer | stored object writer | deferred object writer frame
  | checking object writer frame perRecord | sending frame =>
    simp [Current, hrow] at hcur
  | _ => cases hwrite

/-- What is in flight about a record without a row leaves nothing of it, also if revocations in
flight come to say that it is gone. -/
lemma outcome_of_absent (h : feed.Settles w id points x) (hrow : feed.row w id = none)
    {effect' : FeedPoint → Option (Option PackedRecord)}
    (hdel : effect' .deleted = feed.removal id)
    (hrev : effect' .revoked = none ∨ effect' .revoked = some none)
    (hremoving : ∀ frame, effect' (.removing frame) = recordEffect id frame)
    (hx : x' = x ∨ x' = none) : overwrite (points.map effect') x' = none := by
  have hsame : ∀ point, point.writes = false → feed.Current w id point →
      effect' point = feed.effect w id point ∨ effect' point = some none := by
    intro point hwrite hcur
    rcases revocation_of_absent hrow hwrite hcur with rfl | ⟨frame, rfl⟩
    · refine hrev.imp_left fun hnone => ?_
      rw [hnone, effect, hrow, bind_none]
    · exact .inl (hremoving frame)
  rcases h.recent.split with hnone | ⟨before, point, after, rfl, hwrite, hsett, hafter⟩
  · have hout := h.outcome
    rw [fresh_of_row_none hrow] at hout
    refine overwrite_of_forall₂ ?_ hx hout
    rw [forall₂_map_left_iff, forall₂_map_right_iff]
    refine forall₂_same.mpr fun point hpoint => ?_
    obtain ⟨hwrite, hsett⟩ := hnone point hpoint
    exact hsame point (by simpa using hwrite) (current_of_settled_of_absent hrow hsett)
  · have hcur := current_of_settled_of_absent hrow hsett
    obtain rfl := deleted_of_absent hrow hwrite hcur
    rw [map_append, map_cons, hdel, hcur.2, overwrite_append_some]
    refine overwrite_eq_self fun effect heff => ?_
    obtain ⟨point, hpoint, rfl⟩ := mem_map.mp heff
    obtain ⟨hwrite, hsett⟩ := hafter point hpoint
    have hcur := current_of_settled_of_absent hrow hsett
    rcases hsame point (by simpa using hwrite) hcur with heq | hgone
    · rw [heq]
      rcases effect_of_absent hrow hcur with hgone | ⟨hquiet, _⟩
      · exact .inr hgone
      · exact .inl hquiet
    · exact .inr hgone

/-! ## Writes -/

section

variable (hdb : feed.store.Written w.objects) (hdb' : feed.store.Written w'.objects)
  (hsharing : w'.sharing = w.sharing)
include hdb hdb' hsharing

/-- What a task says is the same over two rows that the subscriber may not read. -/
lemma effect_of_unreadable (hrow : (feed.row w id).isSome)
    (hrow' : (feed.row w' id).isSome) (hfresh : feed.fresh w id = none)
    (hfresh' : feed.fresh w' id = none) (point : FeedPoint) :
    feed.effect w' id point = feed.effect w id point := by
  obtain ⟨object, hrow⟩ := isSome_iff_exists.mp hrow
  obtain ⟨object', hrow'⟩ := isSome_iff_exists.mp hrow'
  have hnamed := recordId_of_row hdb hrow
  have hnamed' := recordId_of_row hdb' hrow'
  have hread : feed.readable w.sharing object = false := by
    obtain ⟨howns, hgrant⟩ := (fresh_eq_none_iff hdb hrow).mp hfresh
    rw [readable_eq hnamed, howns, hgrant, Bool.or_false]
  have hreadable' : feed.readable w'.sharing object' = false := by
    obtain ⟨howns, hgrant⟩ := (fresh_eq_none_iff hdb' hrow').mp hfresh'
    rw [readable_eq hnamed', howns, hgrant, Bool.or_false]
  cases point with
  | written =>
    rw [effect, effect, hrow, hrow', getD_some, getD_some, announced, announced,
      announceable_of_named hnamed, announceable_of_named hnamed', hread, hreadable']
    rfl
  | revoked => rw [effect, effect, hrow, hrow', bind_some, bind_some, hread, hreadable']
  | _ => simp only [effect, hsharing]

lemma Settles.upsert (h : feed.Settles w id points x) (hrow' : feed.row w' id = some object)
    (hsight : feed.fresh w' id = none → points = [] ∧ x' = none ∨ feed.fresh w id = none ∧ x' = x)
    (value : Value) (writer : Option String) :
    feed.Settles w' id (points ++ [.written value writer]) x' := by
  have hnamed := recordId_of_row hdb' hrow'
  have hnew : feed.effect w' id (.written value writer) = feed.announced w'.sharing id object := by
    rw [effect, hrow', getD_some]
  refine ⟨?_, ?_, ?_⟩
  · rw [map_append, map_singleton, overwrite_concat, hnew]
    obtain ⟨record, hrecord⟩ := record_of_readsBack (readsBack_of_row hdb' hrow')
    by_cases hread : feed.readable w'.sharing object
    · rw [announced, announceable_of_named hnamed, if_pos hread, fresh, hrow', bind_some,
        if_pos hread, hrecord]
      rfl
    have hfresh' : feed.fresh w' id = none := by
      rw [fresh, hrow', bind_some, if_neg hread]
    rw [announced, announceable_of_named hnamed, if_neg hread, hfresh']
    change overwrite _ _ = _
    rcases hsight hfresh' with ⟨rfl, rfl⟩ | ⟨hfresh, rfl⟩
    · rfl
    have hout := h.outcome
    rw [hfresh] at hout
    cases hrow : feed.row w id with
    | some =>
      have heffects : points.map (feed.effect w' id) = points.map (feed.effect w id) :=
        map_congr_left fun point _ => effect_of_unreadable hdb hdb' hsharing
          (by rw [hrow]; rfl) (by rw [hrow']; rfl) hfresh hfresh' point
      rw [heffects, hout]
    | none =>
      refine outcome_of_absent h hrow rfl (.inr ?_) (fun _ => rfl) (.inl rfl)
      rw [effect, hrow', bind_some, if_neg hread, removal_of_row hdb' hrow']
  · exact concat (.inl (by rw [Current, hrow']; rfl)) (.inl rfl)
  · refine concat (.inl (by rw [hrow']; rfl)) (.inr (h.named.imp fun point _ hpoint => ?_))
    cases point with
    | written => exact .inl (by rw [hrow']; rfl)
    | _ => exact hpoint

end

lemma Settles.delete (hrow : feed.row w' id = none) (hremoval : feed.removal id = some none) :
    feed.Settles w' id (points ++ [.deleted]) x' := by
  refine ⟨?_, concat (.inl ⟨hrow, hremoval⟩) (.inl rfl), concat hremoval (.inl rfl)⟩
  rw [map_append, map_singleton, overwrite_concat, effect, hremoval, getD_some,
    fresh_of_row_none hrow]

/-! ## Grants -/

lemma fresh_of_sharing (hdb : feed.store.Written w.objects)
    (hrow : ∀ object, feed.row w id = some object →
      feed.granted sharing id = feed.granted w.sharing id ∨ feed.owns object none) :
    feed.fresh { w with sharing } id = feed.fresh w id := by
  cases hfound : feed.row w id with
  | none =>
    rw [fresh_of_row_none hfound]
    exact fresh_of_row_none hfound
  | some object =>
    have hafter : feed.fresh { w with sharing } id =
        if feed.owns object none || feed.granted sharing id then feed.record id object else none :=
      fresh_of_row hdb hfound
    rw [hafter, fresh_of_row hdb hfound]
    rcases hrow object hfound with hgrant | howns
    · rw [hgrant]
    · rw [howns, Bool.true_or, Bool.true_or]

lemma current_of_sharing
    (hrow : ∀ object, feed.row w id = some object → feed.granted sharing id →
      feed.granted w.sharing id ∨ feed.owns object none)
    (h : feed.Current w id point) : feed.Current { w with sharing } id point := by
  have hprobe : ∀ object perRecord, feed.row w id = some object →
      feed.Probed w.sharing id object perRecord →
      feed.Probed sharing id object perRecord := by
    intro object perRecord hfound hprobe hinactive hgrant
    rcases hrow object hfound hgrant with hgrant | howns
    · exact hprobe hinactive hgrant
    · exact howns
  cases point with
  | checking object _ _ perRecord =>
    exact ⟨h.1, h.2.1, h.2.2.1, hprobe object perRecord h.1 h.2.2.2⟩
  | revokedProbed object frame perRecord | rechecking object frame perRecord =>
    exact ⟨h.1, h.2.1, hprobe object perRecord h.1 h.2.2⟩
  | _ => exact h

/-- What is in flight about a row that the subscriber owns: a write tells it the row, the rest says
nothing. -/
lemma outcome_of_owned (hdb : feed.store.Written w.objects)
    (hrecent : Recent (fun point => point.writes) (feed.Current w id) points)
    (hrow : feed.row w id = some object) (howns : feed.owns object none)
    (x : Option PackedRecord) :
    overwrite (points.map (feed.effect w id)) x =
      if points.any FeedPoint.writes then feed.fresh w id else x := by
  have hquiet : ∀ points : List FeedPoint,
      (∀ point ∈ points, ¬point.writes ∧ feed.Current w id point) →
      ∀ x, overwrite (points.map (feed.effect w id)) x = x := by
    intro points hpts x
    refine overwrite_eq_self fun effect heff => .inl ?_
    obtain ⟨point, hpoint, rfl⟩ := mem_map.mp heff
    obtain ⟨hwrite, hcur⟩ := hpts point hpoint
    rw [effect_of_owned hdb hrow howns hcur, if_neg hwrite]
  rcases hrecent.split with hnone | ⟨before, point, after, rfl, hwrite, hcur, hafter⟩
  · have hany : points.any FeedPoint.writes = false :=
      any_eq_false.mpr fun point hpoint => (hnone point hpoint).1
    rw [hquiet points hnone, hany]
    rfl
  · have hany : (before ++ point :: after).any FeedPoint.writes :=
      any_eq_true.mpr ⟨point, by simp, hwrite⟩
    rw [map_append, map_cons, effect_of_owned hdb hrow howns hcur, if_pos hwrite,
      overwrite_append_some, hquiet after hafter, if_pos hany]

lemma outcome_of_granted (hdb : feed.store.Written w.objects)
    (hgrant : feed.granted sharing id = feed.granted w.sharing id)
    (hnamed : Recent (fun point => point.deletes) (feed.Named w id) points)
    (x : Option PackedRecord) :
    overwrite (points.map (feed.effect { w with sharing } id)) x =
      overwrite (points.map (feed.effect w id)) x := by
  have hsame : ∀ points : List FeedPoint,
      (∀ point ∈ points, ¬point.deletes ∧ feed.Named w id point) →
      points.map (feed.effect { w with sharing } id) = points.map (feed.effect w id) := by
    intro points hpts
    exact map_congr_left fun point hpoint =>
      effect_congr hdb hgrant (hpts point hpoint).2
  rcases hnamed.split with hnone | ⟨before, point, after, rfl, hdel, hpoint, hafter⟩
  · rw [hsame points hnone]
  obtain rfl : point = .deleted := by
    cases point with
    | deleted => rfl
    | _ => cases hdel
  have hgone : feed.removal id = some none := hpoint
  rw [map_append, map_append, map_cons, map_cons, effect, effect, hgone,
    overwrite_append_some, overwrite_append_some, hsame after hafter]

section

variable (h : feed.Settles w id points x) (hdb : feed.store.Written w.objects)
  (hsame : feed.granted sharing id = feed.granted w.sharing id → x' = x)
  (howned : ∀ object, feed.row w id = some object → feed.owns object none = true →
    x = feed.fresh w id → x' = x) (hx : x' = x ∨ x' = none)
include h hdb hsame howned hx

/-- **Step.** A change of the grants that leaves the stored row as readable as it was, and of which
the view takes no more notice than that. -/
lemma Settles.of_sharing (hrow : ∀ object, feed.row w id = some object →
      feed.granted sharing id = feed.granted w.sharing id ∨ feed.owns object none) :
    feed.Settles { w with sharing } id points x' := by
  have hfresh := fresh_of_sharing hdb hrow
  have hcur : ∀ point, feed.Current w id point → feed.Current { w with sharing } id point := by
    intro point
    refine current_of_sharing fun object hfound hgrant => ?_
    rcases hrow object hfound with heq | howns
    · exact .inl (by rw [← heq, hgrant])
    · exact .inr howns
  refine ⟨?_, h.recent.imp fun point _ hsett => ?_, h.named⟩
  · rw [hfresh]
    by_cases hgrant : feed.granted sharing id = feed.granted w.sharing id
    · rw [hsame hgrant, outcome_of_granted hdb hgrant h.named, h.outcome]
    cases hfound : feed.row w id with
    | none =>
      have hrev : feed.effect { w with sharing } id .revoked = none := by
        change (feed.row w id).bind _ = none
        rw [hfound, bind_none]
      rw [fresh_of_row_none hfound]
      exact outcome_of_absent h hfound rfl (.inl hrev) (fun _ => rfl) hx
    | some object =>
      have howns := (hrow object hfound).resolve_left hgrant
      have hreads : feed.fresh w id ≠ none := by
        rw [Ne, fresh_eq_none_iff hdb hfound, howns]
        simp
      have hrecent := h.recent.imp fun point _ hsett =>
        hsett.resolve_right fun hnone => hreads hnone.1
      have hpre := outcome_of_owned hdb hrecent hfound howns x
      have hafter := outcome_of_owned (w := { w with sharing }) hdb
        (hrecent.imp fun point _ => hcur point) hfound howns x'
      rw [hafter, hfresh]
      split_ifs with hany
      · rfl
      · rw [h.outcome, if_neg hany] at hpre
        rw [howned object hfound howns hpre.symm, hpre]
  · rcases hsett with hsett | ⟨hnone, hsome⟩
    · exact .inl (hcur point hsett)
    · exact .inr ⟨hfresh.trans hnone, hsome⟩

lemma Settles.revoke (hlost : feed.granted sharing id → feed.granted w.sharing id) :
    feed.Settles { w with sharing } id (points ++ [.revoked]) x' := by
  by_cases hrefused : ∃ object, feed.row w id = some object ∧ feed.owns object none = false ∧
      feed.granted sharing id = false
  · -- The subscriber has lost the row, and the fan-out will find that out.
    obtain ⟨object, hrow, howns, hgrant⟩ := hrefused
    have hfresh : feed.fresh { w with sharing } id = none :=
      (fresh_eq_none_iff (w := { w with sharing }) hdb hrow).mpr ⟨howns, hgrant⟩
    have heff : feed.effect { w with sharing } id .revoked = some none := by
      change (feed.row w id).bind _ = some none
      rw [hrow, bind_some, readable_eq (recordId_of_row hdb hrow), howns, hgrant]
      exact removal_of_row hdb hrow
    refine ⟨?_, concat (.inl trivial) (.inr (h.recent.imp fun point _ hsett => ?_)),
      concat trivial (.inr h.named)⟩
    · rw [map_append, map_singleton, overwrite_concat, heff, hfresh]
      rfl
    rcases hsett with hsett | ⟨_, hsome⟩
    · refine .inl (current_of_sharing (fun _ _ hwon => ?_) hsett)
      rw [hgrant] at hwon
      cases hwon
    · exact .inr ⟨hfresh, hsome⟩
  · have hrow : ∀ object, feed.row w id = some object →
        feed.granted sharing id = feed.granted w.sharing id ∨ feed.owns object none := by
      intro object hfound
      by_cases howns : feed.owns object none
      · exact .inr howns
      · have hgrant : feed.granted sharing id := by
          by_contra hgrant
          exact hrefused ⟨object, hfound, by simpa using howns, by simpa using hgrant⟩
        exact .inl (by rw [hgrant, hlost hgrant])
    have hrest := h.of_sharing hdb hsame howned hx hrow
    have heff : feed.effect { w with sharing } id .revoked = none := by
      change (feed.row w id).bind _ = none
      cases hfound : feed.row w id with
      | none => rfl
      | some object =>
        have hreads : (feed.owns object none || feed.granted sharing id) := by
          by_contra hreads
          rw [Bool.or_eq_true, not_or] at hreads
          exact hrefused ⟨object, hfound, by simpa using hreads.1, by simpa using hreads.2⟩
        rw [bind_some, readable_eq (recordId_of_row hdb hfound), hreads]
        rfl
    refine ⟨?_, concat (.inl trivial) (.inr hrest.recent), concat trivial (.inr hrest.named)⟩
    rw [map_append, map_singleton, overwrite_concat, heff, getD_none, hrest.outcome]

end

/-! ## One step of a task -/

section

variable (h : feed.Settles w id (before ++ point :: after) x) (hdb : feed.store.Written w.objects)
include h hdb

lemma Settles.follow (hresu : feed.Resumes w id point { next := some next })
    (heff : feed.effect w id point = feed.effect w id next) :
    feed.Settles w id (before ++ next :: after) x := by
  refine ⟨?_, h.recent.replace ?_ ?_, h.named.replace ?_ (hresu.named hdb)⟩
  · have hout := h.outcome
    rwa [map_append, map_cons, heff, ← map_cons, ← map_append] at hout
  · intro hwrite
    rw [hresu.writes_eq, hwrite]
  · intro hsett
    exact hsett.imp_left hresu.current
  · intro hdel
    rw [hresu.deletes_eq] at hdel
    cases hdel

lemma Settles.ended (hmeets : point.meets = false) {out : TaskOutcome}
    (hresu : feed.Resumes w id point out) (hended : out.next = none)
    (heff : feed.effect w id point = none) : feed.Settles w id (before ++ after) x := by
  refine ⟨?_, ?_, h.named.erase ?_⟩
  · have hout := h.outcome
    rwa [map_append, map_cons, heff, overwrite_append, overwrite_cons,
      getD_none, ← overwrite_append, ← map_append] at hout
  · by_cases hwrite : point.writes
    · -- What is left of a write is that the subscriber may not read the row.
      refine h.recent.erase_of_forall fun hsett _ => .inr ?_
      rcases hsett with hcur | hnone
      · exact hresu.fresh_none hdb hended hwrite hmeets hcur
      · exact hnone
    · exact h.recent.erase hwrite
  · cases point with
    | deleted => cases hmeets
    | _ => exact Bool.false_ne_true

end

/-- **Step.** The first task about the record meets the subscriber, and the view takes in what it
says. -/
lemma Settles.first (h : feed.Settles w id (point :: after) x)
    (hx : x' = (feed.effect w id point).getD x ∨ x = feed.fresh w id ∧ x' = x) :
    feed.Settles w id after x' := by
  refine ⟨?_, h.recent.tail, h.named.tail⟩
  have hout := h.outcome
  rcases hx with rfl | ⟨rfl, rfl⟩
  · exact hout
  · exact overwrite_tail hout

end ObjectFeed

end Frick.Sync
