import Mathlib.Data.Fintype.Option
import Frick.Server.Projections

/-!
# A projection over the wire

Any number of `notify` calls interleave at the lock sections of the registry, and a client
subscribes in between: it gets the rows as they are and from then on every change list that the
listener is called with. Once all calls have returned it should have the rows of the registry.

Two things are in the way. A call takes its changes into the rows in one section and hands them to
the listener in another, so of two calls that change one row the earlier may be handed over last.
And a row whose value is `nil` is a row of the registry, but means a deletion on the wire.
`subscriber_rows_eq` says that there is nothing else.
-/

namespace Frick.Properties

open Framework Framework.Program Framework.Workers Server Protocol ProjectionSection Option

variable {ι : Type}

/-- The calls of `notify`, and the client, which is nobody of them. -/
abbrev ProjectionWorld (ι : Type) :=
  Workers ProjectionFeed (Option ι) ProjectionSection (fun _ => Unit) Empty Unit

def ProjectionWorld.start (calls : ι → NotifyCall) : ProjectionWorld ι where
  store := ⟨fun _ _ => Table.empty _, none⟩
  programs
    | none => perform subscribe
    | some i => (calls i).notify

open ProjectionWorld (start)

section

variable (projection tenantId : String)

def touches (notice : ProjectionDeltaNotice) (key : String) : Bool :=
  decide (notice.projection = projection ∧ notice.tenantId = tenantId) &&
    decide (key ∈ notice.changes.map ProjectionChange.key)

/-- The next section takes a change of the row into the rows. -/
def changesRow (key : String) : Option ProjectionSection → Bool
  | some (.materialise notice) => touches projection tenantId notice key
  | _ => false

/-- The next section hands over a change of the row. -/
def handsOver (key : String) : Option ProjectionSection → Bool
  | some (.invokeDeltaListener notice) => touches projection tenantId notice key
  | _ => false

/-- A state of the calls, and for every row the call that changed it last. -/
structure FeedHistory (ι : Type) where
  world : ProjectionWorld ι
  latest : String → Option (Option ι) := fun _ => none

variable [DecidableEq ι]

/-- One section, with a note of who changed which row. -/
def FeedHistory.step (x : FeedHistory ι) (i : Option ι) : FeedHistory ι where
  world := Workers.step (handle projection tenantId) x.world i
  latest key := if changesRow projection tenantId key (x.world.pending i) then some i
    else x.latest key

/-- What the next section of task `i` may be: it sets no row to `nil`, and it hands over a row that
`i` has changed last only when nobody else has yet to hand over that row. -/
def RowsInTurn (x : FeedHistory ι) (i : Option ι) : Option ProjectionSection → Prop
  | some (.materialise notice) => ∀ change ∈ notice.changes, change.value ≠ some .nil
  | some (.invokeDeltaListener notice) =>
    ∀ key ∈ notice.changes.map ProjectionChange.key,
      touches projection tenantId notice key = true → x.latest key = some i →
        ∀ j, j ≠ i → handsOver projection tenantId key (x.world.pending j) = false
  | _ => True

/-- Nobody sets a row to `nil`, and who changed a row last hands it over last. -/
def HandsOverLast (x : FeedHistory ι) (i : Option ι) : Prop :=
  RowsInTurn projection tenantId x i (x.world.pending i)

instance [Fintype ι] (x : FeedHistory ι) (i : Option ι) :
    (o : Option ProjectionSection) → Decidable (RowsInTurn projection tenantId x i o)
  | some (.materialise _) => inferInstanceAs (Decidable (∀ _ ∈ _, _))
  | some (.invokeDeltaListener _) => inferInstanceAs (Decidable (∀ _ ∈ _, _ → _ → ∀ _, _ → _))
  | some .subscribe => isTrue trivial
  | none => isTrue trivial

instance [Fintype ι] (x : FeedHistory ι) (i : Option ι) :
    Decidable (HandsOverLast projection tenantId x i) :=
  inferInstanceAs (Decidable (RowsInTurn _ _ _ _ _))

end

/-! ## What a call does -/

/-- Where a call stands: it owes the listener a notice, or not. -/
def notifyDiscipline (owed : Option ProjectionDeltaNotice) :
    (o : ProjectionSection) → Unit → Option (Option ProjectionDeltaNotice)
  | .materialise notice, _ => if owed = none then some (some notice) else none
  | .invokeDeltaListener notice, _ => if owed = some notice then some none else none
  | .subscribe, _ => if owed = none then some none else none

lemma keeps_notifyLoop (tenantId appId : String)
    (results : List (String × Option (List ProjectionChange))) :
    Program.Keeps notifyDiscipline none (notifyLoop tenantId appId results)
      fun _ owed => owed = none := by
  induction results with
  | nil => rfl
  | cons result _ ih =>
    obtain ⟨name, _ | changes⟩ := result
    · exact ih
    · rw [notifyLoop]
      split_ifs
      · exact ih
      · exact fun _ => ⟨_, rfl, fun _ => ⟨none, if_pos rfl, ih⟩⟩

/-- Of one row: if it is still to be handed over, then the last change of it is, and that is what
the registry has; and the client has what the registry has, or the row is still to be handed
over. -/
structure RowFollows (projection tenantId : String) (x : FeedHistory ι) (key : String) : Prop where
  latest : ∀ j, handsOver projection tenantId key (x.world.pending j) = true →
    ∃ i notice, x.latest key = some i ∧ x.world.pending i = some (.invokeDeltaListener notice) ∧
      touches projection tenantId notice key = true ∧
      lastChange notice.changes key = some ((x.world.store.rows projection tenantId).get? key)
  row : ∀ rows, x.world.store.subscriber = some rows →
    rows.get? key = (x.world.store.rows projection tenantId).get? key ∨
      ∃ j, handsOver projection tenantId key (x.world.pending j) = true

/-- The client catches up with the registry, in which no row is `nil`. -/
structure CatchingUp (projection tenantId : String) (owed : Option ι → Option ProjectionDeltaNotice)
    (x : FeedHistory ι) : Prop where
  follows : Follows notifyDiscipline (fun _ owed => owed = none) owed x.world
  plain : ∀ key, (x.world.store.rows projection tenantId).get? key ≠ some .nil
  rows : ∀ key, RowFollows projection tenantId x key

namespace CatchingUp

variable {projection tenantId : String} {owed : Option ι → Option ProjectionDeltaNotice}
  {x : FeedHistory ι} {w : ProjectionWorld ι} {i : Option ι} {notice : ProjectionDeltaNotice}
  {key : String}

lemma pending_of_owed (h : Follows notifyDiscipline (fun _ owed => owed = none) owed w)
    (hi : owed i = some notice) : w.pending i = some (.invokeDeltaListener notice) := by
  obtain ⟨o, next, hpend, hnext⟩ := h.exists_pending (i := i) (by simp [hi]) fun _ => ()
  rw [hi] at hnext
  cases o with
  | materialise => cases hnext
  | invokeDeltaListener =>
    rw [notifyDiscipline] at hnext
    split_ifs at hnext with hsame
    rw [hpend, some.inj hsame]
  | subscribe => cases hnext

lemma handsOver_of_not_owed (h : Follows notifyDiscipline (fun _ owed => owed = none) owed w)
    (hi : owed i = none) (key : String) :
    handsOver projection tenantId key (w.pending i) = false := by
  have hkeeps := h i
  rw [hi] at hkeeps
  rw [pending]
  cases hprog : w.programs i with
  | done => rfl
  | fail e => exact e.elim
  | call o =>
    rw [hprog] at hkeeps
    obtain ⟨next, hnext, -⟩ := hkeeps ()
    cases o with
    | invokeDeltaListener => cases hnext
    | _ => rfl

lemma touches_iff : touches projection tenantId notice key ↔
    (notice.projection = projection ∧ notice.tenantId = tenantId) ∧
      key ∈ notice.changes.map ProjectionChange.key := by
  rw [touches, Bool.and_eq_true, decide_eq_true_iff, decide_eq_true_iff]

lemma lastChange_eq_none_iff {changes : List ProjectionChange} :
    lastChange changes key = none ↔ key ∉ changes.map ProjectionChange.key := by
  rw [lastChange, Dict.lastEdit_eq_none_iff, List.map_map]
  rfl

lemma get?_materialise (projection tenantId : String) (notice : ProjectionDeltaNotice)
    (feed : ProjectionFeed) (key : String) :
    ((handle projection tenantId feed (.materialise notice)).1.rows projection tenantId).get? key =
      if touches projection tenantId notice key then (lastChange notice.changes key).join
      else (feed.rows projection tenantId).get? key := by
  show (applyChangesToSnapshot _ _ _ _ projection tenantId).get? key = _
  by_cases hours : notice.projection = projection ∧ notice.tenantId = tenantId
  · rw [hours.1, hours.2, applyChangesToSnapshot, Function.update_self, Function.update_self,
      Dict.get?_edits]
    show (lastChange notice.changes key).getD _ = _
    cases hlast : lastChange notice.changes key with
    | none =>
      rw [if_neg fun htouch => lastChange_eq_none_iff.mp hlast (touches_iff.mp htouch).2]
      rfl
    | some value =>
      have hkey : key ∈ notice.changes.map ProjectionChange.key := by
        by_contra hkey
        cases hlast.symm.trans (lastChange_eq_none_iff.mpr hkey)
      rw [if_pos (touches_iff.mpr ⟨hours, hkey⟩)]
      rfl
  · rw [applyChangesToSnapshot_of_ne hours, if_neg fun htouch => hours (touches_iff.mp htouch).1]

lemma exists_of_lastChange {changes : List ProjectionChange} {value : Option Value}
    (h : lastChange changes key = some value) : ∃ change ∈ changes, change.value = value := by
  obtain ⟨edit, hfind, rfl⟩ := map_eq_some_iff.mp h
  obtain ⟨change, hmem, rfl⟩ := List.mem_map.mp
    (List.mem_reverse.mp (List.mem_of_find?_eq_some hfind))
  exact ⟨change, hmem, rfl⟩

lemma onWire_of_ne {row : Option Value} (h : row ≠ some .nil) : onWire row = row := by
  cases row with
  | none => rfl
  | some value => exact if_neg fun heq => h (congrArg some heq)

lemma start (calls : ι → NotifyCall) :
    CatchingUp projection tenantId (fun _ => none) { world := start calls } := by
  have hfollows : Follows notifyDiscipline (fun _ owed => owed = none) (fun _ => none)
      (ProjectionWorld.start calls)
    | none => fun _ => ⟨none, rfl, rfl⟩
    | some i => keeps_notifyLoop (calls i).tenantId (calls i).appId (calls i).results
  refine ⟨hfollows, nofun, fun key => ⟨fun j hj => ?_, nofun⟩⟩
  cases hj.symm.trans (handsOver_of_not_owed hfollows rfl key)

lemma plain_handle {feed : ProjectionFeed} {o : ProjectionSection}
    (h : (feed.rows projection tenantId).get? key ≠ some .nil)
    (hturn : RowsInTurn projection tenantId x i (some o)) :
    ((handle projection tenantId feed o).1.rows projection tenantId).get? key ≠ some .nil := by
  cases o with
  | materialise notice =>
    rw [get?_materialise]
    split_ifs
    · cases hlast : lastChange notice.changes key with
      | none => simp
      | some value =>
        obtain ⟨change, hmem, rfl⟩ := exists_of_lastChange hlast
        exact hturn change hmem
    · exact h
  | invokeDeltaListener =>
    rw [handle]
    split_ifs
    · exact h
    · exact h
  | subscribe => exact h

section Step

variable {x' : FeedHistory ι} (h : CatchingUp projection tenantId owed x)
  (hothers : ∀ j, j ≠ i → x'.world.pending j = x.world.pending j)

include h hothers

lemma latest_kept (hi : handsOver projection tenantId key (x.world.pending i) = false)
    (hi' : handsOver projection tenantId key (x'.world.pending i) = false)
    (hlatest : x'.latest key = x.latest key)
    (hrow : (x'.world.store.rows projection tenantId).get? key =
      (x.world.store.rows projection tenantId).get? key) (j : Option ι)
    (hj : handsOver projection tenantId key (x'.world.pending j)) :
    ∃ k notice, x'.latest key = some k ∧ x'.world.pending k = some (.invokeDeltaListener notice) ∧
      touches projection tenantId notice key = true ∧
      lastChange notice.changes key =
        some ((x'.world.store.rows projection tenantId).get? key) := by
  have hji : j ≠ i := by
    rintro rfl
    cases hj.symm.trans hi'
  rw [hothers j hji] at hj
  obtain ⟨k, notice, hk, hpend, htouch, hlast⟩ := (h.rows key).latest j hj
  have hki : k ≠ i := by
    rintro rfl
    rw [hpend] at hi
    cases htouch.symm.trans hi
  exact ⟨k, notice, hlatest.trans hk, (hothers k hki).trans hpend, htouch,
    hlast.trans (congrArg some hrow.symm)⟩

lemma kept (hi : handsOver projection tenantId key (x.world.pending i) = false)
    (hi' : handsOver projection tenantId key (x'.world.pending i) = false)
    (hlatest : x'.latest key = x.latest key)
    (hrow : (x'.world.store.rows projection tenantId).get? key =
      (x.world.store.rows projection tenantId).get? key)
    (hsub : ∀ rows', x'.world.store.subscriber = some rows' →
      ∃ rows, x.world.store.subscriber = some rows ∧ rows'.get? key = rows.get? key) :
    RowFollows projection tenantId x' key := by
  refine ⟨h.latest_kept hothers hi hi' hlatest hrow, fun rows' hrows' => ?_⟩
  obtain ⟨rows, hrows, hget⟩ := hsub rows' hrows'
  rw [hget, hrow]
  refine ((h.rows key).row rows hrows).imp_right fun ⟨j, hj⟩ => ⟨j, ?_⟩
  rwa [hothers j]
  rintro rfl
  cases hj.symm.trans hi

lemma materialise (hi : x.world.pending i = some (.materialise notice))
    (hi' : x'.world.pending i = some (.invokeDeltaListener notice))
    (hlatest : x'.latest key = if touches projection tenantId notice key then some i
      else x.latest key)
    (hstore : x'.world.store =
      (handle projection tenantId x.world.store (.materialise notice)).1) :
    RowFollows projection tenantId x' key := by
  have hrow := get?_materialise projection tenantId notice x.world.store key
  rw [← hstore] at hrow
  by_cases htouch : touches projection tenantId notice key
  · rw [if_pos htouch] at hlatest hrow
    refine ⟨fun _ _ => ⟨i, notice, hlatest, hi', htouch, ?_⟩, fun _ _ => .inr ⟨i, ?_⟩⟩
    · rw [hrow]
      cases hlast : lastChange notice.changes key with
      | none => exact absurd (touches_iff.mp htouch).2 (lastChange_eq_none_iff.mp hlast)
      | some => rfl
    · rwa [hi']
  · rw [if_neg htouch] at hlatest hrow
    refine h.kept hothers (by rw [hi]; rfl) ?_ hlatest hrow fun rows hrows => ⟨rows, ?_, rfl⟩
    · rw [hi']
      exact Bool.eq_false_iff.mpr htouch
    · rwa [hstore] at hrows

lemma invokeDeltaListener (hi : x.world.pending i = some (.invokeDeltaListener notice))
    (hi' : handsOver projection tenantId key (x'.world.pending i) = false)
    (hlatest : x'.latest key = x.latest key)
    (hstore : x'.world.store =
      (handle projection tenantId x.world.store (.invokeDeltaListener notice)).1)
    (hturn : RowsInTurn projection tenantId x i (some (.invokeDeltaListener notice))) :
    RowFollows projection tenantId x' key := by
  have hrow : (x'.world.store.rows projection tenantId).get? key =
      (x.world.store.rows projection tenantId).get? key := by
    rw [hstore, handle]
    split_ifs <;> rfl
  by_cases htouch : touches projection tenantId notice key
  · obtain ⟨hours, hkey⟩ := touches_iff.mp htouch
    obtain ⟨k, latest, hk, hpend, htouched, hlast⟩ := (h.rows key).latest i (by rwa [hi])
    rw [← hrow] at hlast
    by_cases hki : k = i
    · subst hki
      obtain rfl : notice = latest := by
        rw [hi] at hpend
        cases hpend
        rfl
      refine ⟨fun j hj => ?_, fun rows hrows => .inl ?_⟩
      · by_cases hj' : j = k
        · rw [hj'] at hj
          cases hj.symm.trans hi'
        · rw [hothers j hj'] at hj
          cases hj.symm.trans (hturn key hkey htouch hk j hj')
      · rw [hstore, handle, if_pos hours] at hrows
        obtain ⟨before, -, rfl⟩ := map_eq_some_iff.mp hrows
        rw [get?_applyDelta, hlast, map_some, getD_some, onWire_of_ne]
        rw [hrow]
        exact h.plain key
    · refine ⟨fun _ _ => ⟨k, latest, hlatest.trans hk, (hothers k hki).trans hpend, htouched,
        hlast⟩, fun _ _ => .inr ⟨k, ?_⟩⟩
      rwa [hothers k hki, hpend]
  · refine h.kept hothers ?_ hi' hlatest hrow fun rows' hrows' => ?_
    · rw [hi]
      exact Bool.eq_false_iff.mpr htouch
    rw [hstore, handle] at hrows'
    split_ifs at hrows' with hours
    · obtain ⟨before, hbefore, rfl⟩ := map_eq_some_iff.mp hrows'
      refine ⟨before, hbefore, ?_⟩
      rw [get?_applyDelta, lastChange_eq_none_iff.mpr fun hkey => htouch
        (touches_iff.mpr ⟨hours, hkey⟩)]
      rfl
    · exact ⟨rows', hrows', rfl⟩

lemma subscribe (hi : x.world.pending i = some .subscribe)
    (hi' : handsOver projection tenantId key (x'.world.pending i) = false)
    (hlatest : x'.latest key = x.latest key)
    (hstore : x'.world.store = (handle projection tenantId x.world.store .subscribe).1) :
    RowFollows projection tenantId x' key := by
  refine ⟨h.latest_kept hothers (by rw [hi]; rfl) hi' hlatest (by rw [hstore]; rfl),
    fun rows hrows => .inl ?_⟩
  rw [hstore] at hrows
  obtain rfl := some.inj hrows
  rw [hstore, get?_applyDelta, lastChange_snapshot]
  have hplain := h.plain key
  cases hrow : (x.world.store.rows projection tenantId).get? key with
  | none => exact hrow.symm
  | some value =>
    rw [hrow] at hplain
    exact (onWire_of_ne hplain).trans hrow.symm

end Step

/-- **Step.** A row that was changed is handed over next; where the last change of a row is handed
over, nobody else has yet to do so, and the client has the row of the registry. -/
lemma step [DecidableEq ι] (h : CatchingUp projection tenantId owed x)
    (hturn : HandsOverLast projection tenantId x i) :
    ∃ owed', CatchingUp projection tenantId owed' (x.step projection tenantId i) := by
  cases hi : x.world.pending i with
  | none =>
    have hsame : x.step projection tenantId i = x := by
      rw [FeedHistory.step, step_of_pending_none hi, hi]
      rfl
    rw [hsame]
    exact ⟨owed, h⟩
  | some o =>
    obtain ⟨next, hnext, hfollows⟩ := h.follows.step (handle projection tenantId) hi
    have hstore : (x.step projection tenantId i).world.store =
      (handle projection tenantId x.world.store o).1 := store_step_of_pending _ hi
    have hothers (j : Option ι) (hj : j ≠ i) :
        (x.step projection tenantId i).world.pending j = x.world.pending j := by
      show (Workers.step _ _ _).pending j = _
      rw [pending, programs_step_of_ne _ hj, pending]
    have hlatest (key : String) : (x.step projection tenantId i).latest key =
        if changesRow projection tenantId key (some o) then some i else x.latest key := by
      rw [FeedHistory.step, hi]
    have hquiet (hnone : some none = some next) (key : String) :
        handsOver projection tenantId key ((x.step projection tenantId i).world.pending i) =
          false :=
      handsOver_of_not_owed hfollows ((Function.update_self ..).trans (some.inj hnone).symm) key
    rw [HandsOverLast, hi] at hturn
    refine ⟨_, hfollows, fun key => ?_, fun key => ?_⟩
    · rw [hstore]
      exact plain_handle (h.plain key) hturn
    cases o with
    | materialise notice =>
      obtain ⟨-, hnotice⟩ := ite_none_right_eq_some.mp hnext
      have hi' := pending_of_owed hfollows ((Function.update_self ..).trans (some.inj hnotice).symm)
      exact h.materialise hothers hi hi' (hlatest key) hstore
    | invokeDeltaListener notice =>
      obtain ⟨-, hnone⟩ := ite_none_right_eq_some.mp hnext
      exact h.invokeDeltaListener hothers hi (hquiet hnone key) (hlatest key) hstore hturn
    | subscribe =>
      obtain ⟨-, hnone⟩ := ite_none_right_eq_some.mp hnext
      exact h.subscribe hothers hi (hquiet hnone key) (hlatest key) hstore

end CatchingUp

/-! ## Runs -/

variable [DecidableEq ι]

lemma world_run (projection tenantId : String) (x : FeedHistory ι) (schedule : List (Option ι)) :
    (run (FeedHistory.step projection tenantId) x schedule).world =
      run (step (handle projection tenantId)) x.world schedule := by
  induction schedule generalizing x with
  | nil => rfl
  | cons _ _ ih => exact ih _

/-- **The rows of the client.** For any calls of `notify` that set no row to `nil`, and any
interleaving of their sections and of the client's subscription in which a row is handed over last
by the call that has changed it last: once all calls have returned, the client has the rows of the
registry. -/
theorem subscriber_rows_eq (projection tenantId : String) (calls : ι → NotifyCall)
    (schedule : List (Option ι))
    (hguard : Guarded (FeedHistory.step projection tenantId) (HandsOverLast projection tenantId)
      { world := start calls } schedule)
    (hreturned : ∀ i, (run (step (handle projection tenantId)) (start calls) schedule).pending i =
      none)
    (rows : Dict String Value)
    (hrows : (run (step (handle projection tenantId)) (start calls) schedule).store.subscriber =
      some rows) (key : String) :
    rows.get? key = ((run (step (handle projection tenantId)) (start calls)
      schedule).store.rows projection tenantId).get? key := by
  obtain ⟨owed, h⟩ := run_invariant
    (I := fun x => ∃ owed, CatchingUp projection tenantId owed x)
    (fun _ _ ⟨_, h⟩ hturn => h.step hturn) ⟨_, CatchingUp.start calls⟩ hguard
  have hrow := (h.rows key).row rows
  rw [world_run] at hrow
  rcases hrow hrows with hequal | ⟨j, hj⟩
  · exact hequal
  · rw [hreturned j] at hj
    cases hj

/-! ## Two calls -/

def setsRow (value : Value) : NotifyCall :=
  ⟨"acme", "app", [("feed", some [⟨"row", some value⟩])]⟩

def twoWrites : Bool → NotifyCall
  | false => setsRow (.integer 1)
  | true => setsRow (.integer 2)

/-- The two calls overlap, and the client subscribes between the sections of the first. -/
theorem subscribes_in_between :
    let w := run (step (handle "feed" "acme")) (start twoWrites)
      [some false, none, some true, some false, some true]
    ∀ rows, w.store.subscriber = some rows →
      ∀ key, rows.get? key = (w.store.rows "feed" "acme").get? key :=
  subscriber_rows_eq "feed" "acme" twoWrites _ (by decide +kernel) (by decide +kernel)

/-- The second call is handed over first, and the client is left with the row of the first. -/
theorem earlier_change_handed_over_last :
    let w := run (step (handle "feed" "acme")) (start twoWrites)
      [none, some false, some true, some true, some false]
    (∀ i, w.pending i = none) ∧
      w.store.subscriber.bind (fun rows => rows.get? "row") = some (.integer 1) ∧
      (w.store.rows "feed" "acme").get? "row" = some (.integer 2) := by
  decide +kernel

/-- A row with the value `nil` stays in the registry, and the client does not have it. -/
example :
    let w := run (step (handle "feed" "acme"))
      (start fun _ : Unit => setsRow .nil) [none, some (), some ()]
    (∀ i, w.pending i = none) ∧ w.store.subscriber.bind (fun rows => rows.get? "row") = none ∧
      (w.store.rows "feed" "acme").get? "row" = some .nil := by
  decide +kernel

end Frick.Properties
