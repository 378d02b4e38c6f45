import Mathlib.Data.List.Dedup
import Mathlib.Data.List.Perm.Subperm
import Frick.Properties.CallLifecycle

/-!
# The capacity of a call

Any number of `join_call` commands interleave on a call that is there already, in any state: the
invites may have been written through the object routes, and the cap is read when a user joins.
`assert_participant_capacity` counts the joined users, and the participant is written later, so two
joins can pass the check on one count.
-/

namespace Frick.Properties

open Function Framework Framework.Program Framework.Workers Server CallStore List Server.Calls

variable {ι : Type}

def joinedUsers (callId : String) (rows : List CallParticipantRecord) : List String :=
  (((rows.filter fun p => p.callId = callId).filter fun p => p.state = .joined).map
    (·.userId)).dedup

structure JoinArgs where
  actor : CallActor
  joinedAt : String
  grant : Except CallError CallMediaGrant

def CallWorld.joining (max : Nat) (callId : String) (s : CallStore) (joins : ι → JoinArgs) :
    CallWorld ι :=
  ⟨s, fun i => joinCall (some max) (joins i).actor callId (joins i).joinedAt (joins i).grant⟩

open CallWorld (joining)

/-- The join counts the participants next. -/
def counts (w : CallWorld ι) (i : ι) : Bool :=
  match w.pending i with
  | some .listParticipants => true
  | _ => false

/-- The join writes its participant next. -/
def entersCall (w : CallWorld ι) (i : ι) : Bool :=
  match w.pending i with
  | some (.writeParticipant _) => true
  | _ => false

/-- A count is out of date once another join has written a participant. -/
def countWatch : Watch (CallWorld ι) ι := ⟨counts, fun w i _ => entersCall w i⟩

/-! ## One join -/

/-- There is room for the user, or the user is in the call already. -/
def HasSeat (max : Nat) (callId user : String) (rows : List CallParticipantRecord) : Prop :=
  user ∈ joinedUsers callId rows ∨ (joinedUsers callId rows).length + 1 ≤ max

instance (max : Nat) (callId user : String) (rows : List CallParticipantRecord) :
    Decidable (HasSeat max callId user rows) := inferInstanceAs (Decidable (_ ∨ _))

/-- Where a join stands. -/
inductive JoinStage where
  | waiting (user : String)
  /-- It has found a seat for the user. -/
  | admitted (user : String)
  /-- It has joined, or was turned away. -/
  | settled

/-- The participants are counted once, and one is written, for the user who was found a seat. -/
def joinDiscipline (max : Nat) (callId : String) :
    JoinStage → (access : CallAccess) → access.Reply → Option JoinStage
  | .waiting user, .listParticipants, rows =>
    if HasSeat max callId user rows then some (.admitted user) else some .settled
  | .admitted user, .writeParticipant p, _ => if p.userId = user then some .settled else none
  | .admitted _, .listParticipants, _ | _, .writeParticipant _, _ => none
  | stage, _, _ => some stage

section

variable {max : Nat} {callId : String} {actor : CallActor}

lemma keeps_assertParticipantCapacity :
    Keeps (joinDiscipline max callId) (.waiting actor.userId)
      (assertParticipantCapacity (some max) actor callId)
      fun _ p => p = .admitted actor.userId := by
  intro (rows : List CallParticipantRecord)
  have hle : (joinedUsers callId rows).length ≤
      (((rows.filter fun p => p.callId = callId).filter fun p => p.state = .joined).map
        (·.userId)).eraseDups.length := by
    refine (subperm_of_subset (nodup_dedup _) fun user huser => ?_).length_le
    rwa [mem_eraseDups, ← mem_dedup]
  by_cases hseat : HasSeat max callId actor.userId rows
  · refine ⟨.admitted actor.userId, if_pos hseat, ?_⟩
    show Keeps _ _ (if _ then _ else if _ then _ else _) _
    split_ifs
    · rfl
    · trivial
    · rfl
  · refine ⟨.settled, if_neg hseat, ?_⟩
    show Keeps _ _ (if _ then _ else if _ then _ else _) _
    rw [HasSeat, not_or, joinedUsers, mem_dedup, ← joinedUsers] at hseat
    rw [if_neg, if_pos (by omega)]
    · trivial
    · simp only [Bool.or_eq_true, any_eq_true, not_or, not_exists, contains_iff_mem,
        mem_eraseDups]
      refine ⟨fun p hp => hseat.1 (mem_map.mpr ⟨p, hp.1, ?_⟩), hseat.1⟩
      simpa using (Bool.and_eq_true_iff.mp hp.2).1

/-- **A join** writes its participant only after it has found a seat. -/
lemma keeps_joinCall (args : JoinArgs) :
    Keeps (joinDiscipline max callId) (.waiting args.actor.userId)
      (joinCall (some max) args.actor callId args.joinedAt args.grant) fun _ _ => True := by
  rintro (_ | room)
  · exact ⟨_, rfl, trivial⟩
  refine ⟨_, rfl, keeps_bind_stay ?_ fun room => keeps_bind_stay ?_ fun invite => ?_⟩
  · show Keeps _ _ (if _ then _ else _) _
    split_ifs
    · trivial
    · rfl
  · rw [requireInviteeOrCreator]
    split_ifs
    · rfl
    rintro (_ | invite)
    · exact ⟨_, rfl, trivial⟩
    · exact ⟨_, rfl, rfl⟩
  split_ifs
  · trivial
  apply keeps_bind
  refine keeps_assertParticipantCapacity.mono ?_
  rintro - _ rfl
  refine keeps_bind_stay ?_ fun _ _ => ⟨.settled, if_pos rfl, ?_⟩
  · cases invite with
    | none => rfl
    | some =>
      rw [acceptOnJoin]
      split_ifs
      · rfl
      · exact fun _ => ⟨_, rfl, fun _ => ⟨_, rfl, rfl⟩⟩
  show Keeps _ _ (activateRoom room args.joinedAt >>= _) _
  refine keeps_bind_stay ?_ fun _ _ => ⟨_, rfl, ?_⟩
  · rw [activateRoom]
    split_ifs
    · exact fun _ => ⟨_, rfl, rfl⟩
    · rfl
  · cases args.grant with
    | error | ok => trivial

end

/-! ## Any number of joins -/

/-- The call is within its cap, and a join whose count is up to date has a seat. -/
structure Seated (max : Nat) (callId : String) (place : ι → JoinStage)
    (x : Watched (CallWorld ι) ι) : Prop where
  inOrder : Follows (joinDiscipline max callId) (fun _ _ => True) place x.state
  inTime : ∀ i user, place i = .admitted user → x.outdated i = false →
    HasSeat max callId user x.state.store.participants.rows
  within : (joinedUsers callId x.state.store.participants.rows).length ≤ max

lemma joinedUsers_upsert_subset (callId : String) (t : Table CallParticipantRecord.id)
    (p : CallParticipantRecord) :
    joinedUsers callId (t.upsert p).rows ⊆ p.userId :: joinedUsers callId t.rows := by
  intro user huser
  simp only [joinedUsers, mem_dedup, mem_map, mem_filter, ← Table.mem_def,
    Table.mem_upsert] at huser
  obtain ⟨q, ⟨⟨rfl | ⟨hq, -⟩, hcall⟩, hstate⟩, rfl⟩ := huser
  · exact mem_cons_self
  · refine mem_cons_of_mem _ (mem_dedup.mpr (mem_map.mpr ⟨q, ?_, rfl⟩))
    exact mem_filter.mpr ⟨mem_filter.mpr ⟨hq, hcall⟩, hstate⟩

lemma HasSeat.upsert {max : Nat} {callId : String} {t : Table CallParticipantRecord.id}
    {p : CallParticipantRecord} (h : HasSeat max callId p.userId t.rows)
    (hwithin : (joinedUsers callId t.rows).length ≤ max) :
    (joinedUsers callId (t.upsert p).rows).length ≤ max := by
  have hsub := joinedUsers_upsert_subset callId t p
  rcases h with hin | hroom
  · have hsame : joinedUsers callId (t.upsert p).rows ⊆ joinedUsers callId t.rows := by
      exact Subset.trans hsub (cons_subset.mpr ⟨hin, Subset.refl _⟩)
    exact (subperm_of_subset (nodup_dedup _) hsame).length_le.trans hwithin
  · exact (subperm_of_subset (nodup_dedup _) hsub).length_le.trans hroom

namespace Seated

variable {max : Nat} {callId : String} {place : ι → JoinStage} {x : Watched (CallWorld ι) ι} {i : ι}

lemma start {s : CallStore} (h : (joinedUsers callId s.participants.rows).length ≤ max)
    (joins : ι → JoinArgs) :
    Seated max callId (fun i => .waiting (joins i).actor.userId)
      (.start (joining max callId s joins)) where
  inOrder i := keeps_joinCall (joins i)
  inTime _ _ hi := by cases hi
  within := h

variable [DecidableEq ι]

/-- **Step.** A join that writes its participant in time takes the seat that it found. -/
lemma step (h : Seated max callId place x) (hg : Watch.InTime entersCall x i) :
    ∃ place', Seated max callId place' (countWatch.step (step handle) x i) := by
  have hout (hcount : counts x.state i = false) (j : ι) :
      (countWatch.step (Workers.step handle) x i).outdated j = false → x.outdated j = false :=
    Watch.outdated_of_not_looks hcount
  cases hpend : x.state.pending i with
  | none =>
    have hstate : (countWatch.step (Workers.step handle) x i).state = x.state :=
      step_of_pending_none hpend
    refine ⟨place, hstate ▸ h.inOrder, fun j user hj hfresh => ?_, hstate ▸ h.within⟩
    rw [hstate]
    exact h.inTime j user hj (hout (by rw [counts, hpend]) j hfresh)
  | some access =>
    obtain ⟨p, hnext, hd⟩ := h.inOrder.step handle hpend
    have hstore : (countWatch.step (Workers.step handle) x i).state.store = _ :=
      store_step_of_pending handle hpend
    cases access with
    | listParticipants =>
      refine ⟨_, hd, fun j user hj hfresh => ?_, by rw [hstore]; exact h.within⟩
      rw [hstore]
      by_cases hji : j = i
      · rw [hji, update_self] at hj
        revert hnext
        rw [hj]
        cases place i with
        | waiting =>
          rw [joinDiscipline]
          split_ifs with hseat
          · rintro ⟨⟩
            exact hseat
          · rintro ⟨⟩
        | _ => rintro ⟨⟩
      · rw [update_of_ne hji] at hj
        exact h.inTime j user hj (Watch.outdated_of_ne hji hfresh).1
    | writeParticipant member =>
      have hi : place i = .admitted member.userId ∧ p = .settled := by
        revert hnext
        cases place i <;> simp [joinDiscipline, eq_comm]
      have hseat := h.inTime i _ hi.1 (hg (by rw [entersCall, hpend]))
      refine ⟨_, hd, fun j user hj hfresh => ?_, by rw [hstore]; exact hseat.upsert h.within⟩
      by_cases hji : j = i
      · rw [hji, update_self, hi.2] at hj
        cases hj
      · have hspoilt := (Watch.outdated_of_ne hji hfresh).2
        simp [countWatch, entersCall, hpend] at hspoilt
    | _ =>
      have hplace : place i = p := by
        revert hnext
        cases place i <;> simp [joinDiscipline]
      rw [← hplace, update_eq_self] at hd
      refine ⟨place, hd, fun j user hj hfresh => ?_, by rw [hstore]; exact h.within⟩
      rw [hstore]
      exact h.inTime j user hj (hout (by rw [counts, hpend]) j hfresh)

end Seated

/-! ## Runs -/

variable [DecidableEq ι]

/-- **Capacity.** From any objects of the call within the cap: in every run of joins, by any users
and devices, in which no other join writes a participant between a join's count and its own write,
the distinct users who have joined are never more than the cap. -/
theorem joined_users_within_capacity (max : Nat) (callId : String) (s : CallStore)
    (joins : ι → JoinArgs) (schedule : List ι)
    (hstart : (joinedUsers callId s.participants.rows).length ≤ max)
    (hguard : Guarded (countWatch.step (step handle)) (Watch.InTime entersCall)
      (.start (joining max callId s joins)) schedule) :
    (joinedUsers callId (run (step handle) (joining max callId s joins)
      schedule).store.participants.rows).length ≤ max := by
  obtain ⟨_, h⟩ := run_invariant (I := fun x => ∃ place, Seated max callId place x)
    (fun _ _ ⟨_, h⟩ hg => h.step hg) ⟨_, Seated.start hstart joins⟩ hguard
  have hwithin := h.within
  rwa [Watch.run_state] at hwithin

/-! ## Two seats -/

/-- Ada is in a call with two seats; Bob and Cleo have an invite. -/
def adasCall : CallStore where
  room := some ⟨"call", "conv", .active, "ada", .video, "t0", some "t0", none, none, none⟩
  invites := ((Table.empty _).upsert
    ⟨"call:bob", "call", "bob", .ringing, "ada", "t0", none⟩).upsert
    ⟨"call:cleo", "call", "cleo", .ringing, "ada", "t0", none⟩
  participants := (Table.empty _).upsert
    ⟨"call:ada:a", "call", "ada", "a", .joined, "t0", none, true, false, false, none, none⟩
  events := []

def bobAndCleoJoin : Bool → JoinArgs
  | false => ⟨⟨"bob", "b"⟩, "t1", .error (.media "no token")⟩
  | true => ⟨⟨"cleo", "c"⟩, "t1", .error (.media "no token")⟩

/-- One after the other: Cleo finds the call full. -/
theorem cleo_turned_away :
    let rows := (run (step handle) (joining 2 "call" adasCall bobAndCleoJoin)
      [false, false, false, false, false, false, false, true, true, true]).store.participants.rows
    (joinedUsers "call" rows).length ≤ 2 ∧ joinedUsers "call" rows = ["ada", "bob"] :=
  ⟨joined_users_within_capacity 2 "call" adasCall bobAndCleoJoin _ (by decide +kernel)
    (by decide +kernel), by decide +kernel⟩

/-- Both count before either is written: three users are in a call for two. -/
theorem both_joins_pass :
    joinedUsers "call" (run (step handle) (joining 2 "call" adasCall bobAndCleoJoin)
      [false, false, false, true, true, true, false, false, false, true, true,
        true]).store.participants.rows = ["ada", "bob", "cleo"] := by
  decide +kernel

end Frick.Properties
