import Frick.Framework.Watch
import Frick.Server.Calls

/-!
# An ended call stays ended

Any number of commands interleave their accesses to the objects of one call. Once the room is
`ended` it stays so, and the event stream has at most one `CallEnded`.

Commands decide on a room that they read earlier. `join_call` activates the room that it read before
it looked at invites and participants, and `finalize_end` ends the room that it just re-read;
neither write names the version that was read. If the room is ended in between, a join brings it
back to life, and a second end announces itself again.

The result is for schedules in which no other command ends the room between a command's last read of
it and its write.
-/

namespace Frick.Properties

open Function Framework Framework.Program Framework.Workers Server CallStore List
open Server.Calls

variable {ι : Type}

abbrev CallWorld (ι : Type) := Workers CallStore ι CallAccess CallAccess.Reply CallError CallAnswer

def CallWorld.start (maxParticipants : Option Nat) (callId : String) (commands : ι → CallCommand) :
    CallWorld ι :=
  ⟨empty, fun i => (commands i).program maxParticipants callId⟩

open CallWorld (start)

def roomEnded (s : CallStore) : Bool := s.room.any fun room => room.state = .ended

def readsRoom (w : CallWorld ι) (i : ι) : Bool :=
  match w.pending i with
  | some .readRoom => true
  | _ => false

def writesRoom (w : CallWorld ι) (i : ι) : Bool :=
  match w.pending i with
  | some (.writeRoom _) => true
  | _ => false

/-- The command writes an ended room next. -/
def endsRoom (w : CallWorld ι) (i : ι) : Bool :=
  match w.pending i with
  | some (.writeRoom room) => room.state = .ended
  | _ => false

/-- What a command has read of the room is out of date once another command has ended the call. -/
def roomWatch : Watch (CallWorld ι) ι := ⟨readsRoom, fun w i _ => endsRoom w i⟩

/-! ## What a command does to the room and the stream -/

/-- Where a command stands towards the end of the call. -/
inductive EndPhase where
  /-- It has not read the room, or the room had not ended when it did. -/
  | live
  /-- It has read an ended room. -/
  | barred
  /-- It has written the ended room and announces it next. -/
  | ending
  /-- It has announced the end. -/
  | ended
  deriving DecidableEq

def EndPhase.past : EndPhase → Bool
  | .ending | .ended => true
  | _ => false

def afterRead (reply : Option CallRoomRecord) : EndPhase :=
  if reply.any fun room => room.state = .ended then .barred else .live

def discipline : EndPhase → (access : CallAccess) → access.Reply → Option EndPhase
  | .live, .readRoom, reply | .barred, .readRoom, reply => some (afterRead reply)
  | .live, .writeRoom room, _ => if room.state = .ended then some .ending else some .live
  | .ending, .appendEvent event, _ => if event.isEnded then some .ended else none
  | .barred, .writeRoom _, _ | .ended, .writeRoom _, _ | .ending, _, _ => none
  | phase, .appendEvent event, _ => if event.isEnded then none else some phase
  | phase, _, _ => some phase

section Commands

variable {α β : Type}

/-- A program that starts in the phase `live`, and where it may end. -/
abbrev Orderly (prog : CallProgram α) (post : α → EndPhase → Prop) : Prop :=
  Keeps discipline .live prog post

/-- The program ends the call nowhere, and goes on only where the call may still be live. -/
abbrev Stays (prog : CallProgram α) : Prop := Orderly prog fun _ p => p = .live

lemma Stays.bind {prog : CallProgram α} {f : α → CallProgram β} {post : β → EndPhase → Prop}
    (h : Stays prog) (hf : ∀ a, Orderly (f a) post) : Orderly (prog >>= f) post :=
  keeps_bind_stay h hf

lemma stays_ofExcept (res : Except CallError α) : Stays (ofExcept res : CallProgram α) := by
  cases res with
  | error => trivial
  | ok => rfl

lemma stays_writeInvite (invite : CallInviteRecord) : Stays (writeInvite invite) :=
  fun _ => ⟨.live, rfl, rfl⟩

lemma stays_writeParticipant (member : CallParticipantRecord) : Stays (writeParticipant member) :=
  fun _ => ⟨.live, rfl, rfl⟩

lemma stays_listParticipants (callId : String) : Stays (listParticipants callId) :=
  fun _ => ⟨.live, rfl, rfl⟩

lemma stays_writeRoom {room : CallRoomRecord} (hlive : room.state ≠ .ended) :
    Stays (writeRoom room) :=
  fun _ => ⟨.live, if_neg hlive, rfl⟩

lemma stays_appendEvent {ev : CallEvent} (h : ev.isEnded = false) : Stays (appendEvent ev) :=
  fun _ => ⟨.live, if_neg (by rw [h]; decide), rfl⟩

/-- **A read of the room.** What follows an ended room may neither write the room nor announce the
end. -/
lemma orderly_readRoom {f : Option CallRoomRecord → CallProgram β} {post : β → EndPhase → Prop}
    (hnone : Orderly (f none) post)
    (hlive : ∀ room, room.state ≠ .ended → Orderly (f (some room)) post)
    (hended : ∀ room, room.state = .ended → Keeps discipline .barred (f (some room)) post) :
    Orderly (readRoom >>= f) post := by
  rintro (_ | room)
  · exact ⟨.live, rfl, hnone⟩
  · by_cases hroom : room.state = .ended
    · exact ⟨.barred, by simp [discipline, afterRead, hroom], hended room hroom⟩
    · exact ⟨.live, by simp [discipline, afterRead, hroom], hlive room hroom⟩

variable {maxParticipants : Option Nat} {actor : CallActor} {callId : String}

lemma stays_requireLiveRoom : Stays (requireLiveRoom callId) := by
  refine orderly_readRoom trivial (fun room hroom => ?_) fun room hroom => ?_
  · dsimp only
    rw [if_neg hroom]
    rfl
  · dsimp only
    rw [if_pos hroom]
    trivial

lemma stays_requireInviteeOrCreator (room : CallRoomRecord) :
    Stays (requireInviteeOrCreator room actor) := by
  rw [requireInviteeOrCreator]
  split_ifs
  · rfl
  rintro (_ | invite)
  · exact ⟨.live, rfl, trivial⟩
  · exact ⟨.live, rfl, rfl⟩

lemma stays_requireJoined : Stays (requireJoined actor callId) := by
  rintro (_ | member)
  · exact ⟨.live, rfl, trivial⟩
  · refine ⟨.live, rfl, ?_⟩
    show Stays (if member.state = .joined then _ else _)
    split_ifs
    · rfl
    · trivial

lemma stays_assertParticipantCapacity :
    Stays (assertParticipantCapacity maxParticipants actor callId) := by
  cases maxParticipants with
  | none => rfl
  | some =>
    refine (stays_listParticipants callId).bind fun participants => ?_
    dsimp only
    split_ifs
    · rfl
    · trivial
    · rfl

lemma stays_sendInvites (createdAt : String) (invitees : List String) :
    Stays (sendInvites actor callId createdAt invitees) := by
  induction invitees with
  | nil => rfl
  | cons _ _ ih =>
    refine (stays_writeInvite _).bind fun _ => ?_
    refine (stays_appendEvent rfl).bind fun _ => ?_
    exact ih.bind fun _ => rfl

lemma stays_acceptOnJoin (joinedAt : String) (reply : Option CallInviteRecord) :
    Stays (acceptOnJoin actor callId joinedAt reply) := by
  cases reply with
  | none => rfl
  | some =>
    rw [acceptOnJoin]
    split_ifs
    · rfl
    · exact (stays_writeInvite _).bind fun _ => stays_appendEvent rfl

lemma stays_activateRoom (room : CallRoomRecord) (joinedAt : String) :
    Stays (activateRoom room joinedAt) := by
  rw [activateRoom]
  split_ifs
  · exact (stays_writeRoom (by simp)).bind fun _ => rfl
  · rfl

lemma orderly_finalizeEnd (endedBy endedAt : String) (f : CallRoomRecord → CallAnswer) :
    Orderly (finalizeEnd callId endedBy endedAt >>= fun room => pure (f room))
      fun _ _ => True := by
  apply keeps_bind
  refine orderly_readRoom trivial (fun room hroom => ?_) fun room hroom => ?_
  · dsimp only
    rw [if_neg hroom]
    exact fun _ => ⟨.ending, rfl, fun _ => ⟨.ended, rfl, trivial⟩⟩
  · dsimp only
    rw [if_pos hroom]
    trivial

lemma orderly_joinCall (joinedAt : String) (grant : Except CallError CallMediaGrant) :
    Orderly (joinCall maxParticipants actor callId joinedAt grant) fun _ _ => True := by
  refine stays_requireLiveRoom.bind fun room => ?_
  refine (stays_requireInviteeOrCreator room).bind fun invite => ?_
  split_ifs
  · trivial
  refine stays_assertParticipantCapacity.bind fun _ => ?_
  refine (stays_acceptOnJoin _ invite).bind fun _ => ?_
  refine (stays_writeParticipant _).bind fun _ => ?_
  refine (stays_activateRoom room _).bind fun _ => ?_
  refine (stays_appendEvent rfl).bind fun _ => ?_
  exact (stays_ofExcept grant).bind fun _ => trivial

lemma orderly_leaveCall (leftAt endedAt : String) :
    Orderly (leaveCall actor callId leftAt endedAt) fun _ _ => True := by
  refine orderly_readRoom trivial (fun room hroom => ?_) fun room hroom => ?_
  · dsimp only
    rw [if_neg hroom]
    refine stays_requireJoined.bind fun _ => ?_
    refine (stays_writeParticipant _).bind fun _ => ?_
    refine (stays_appendEvent rfl).bind fun _ => ?_
    have hcount : Stays (activeParticipantCount callId) :=
      (stays_listParticipants callId).bind fun _ => rfl
    refine hcount.bind fun left => ?_
    split_ifs
    · exact orderly_finalizeEnd _ _ _
    · trivial
  · dsimp only
    rw [if_pos hroom]
    trivial

lemma orderly_program (command : CallCommand) :
    Orderly (command.program maxParticipants callId) fun _ _ => True := by
  cases command with
  | create actor input createdAt sess =>
    show Orderly (createCall maxParticipants actor input callId createdAt sess) _
    rw [createCall]
    split_ifs
    · trivial
    · trivial
    refine (stays_ofExcept sess).bind fun _ => ?_
    refine (stays_writeRoom (by simp)).bind fun _ => ?_
    refine (stays_appendEvent rfl).bind fun _ => ?_
    exact (stays_sendInvites _ _).bind fun _ => trivial
  | accept =>
    refine stays_requireLiveRoom.bind fun room => ?_
    refine (stays_requireInviteeOrCreator room).bind ?_
    rintro (_ | invite)
    · trivial
    dsimp only
    cases invite.status with
    | ringing =>
      refine (stays_writeInvite _).bind fun _ => ?_
      exact (stays_appendEvent rfl).bind fun _ => trivial
    | accepted | declined | cancelled => trivial
  | decline =>
    refine stays_requireLiveRoom.bind fun room => ?_
    refine (stays_requireInviteeOrCreator room).bind ?_
    rintro (_ | invite)
    · trivial
    · dsimp only
      split_ifs
      · trivial
      · exact (stays_writeInvite _).bind fun _ => trivial
  | join => exact orderly_joinCall _ _
  | setMedia =>
    refine stays_requireLiveRoom.bind fun _ => ?_
    refine stays_requireJoined.bind fun _ => ?_
    refine (stays_writeParticipant _).bind fun _ => ?_
    exact (stays_appendEvent rfl).bind fun _ => trivial
  | leave => exact orderly_leaveCall _ _
  | finish actor endedAt =>
    refine orderly_readRoom trivial (fun room hroom => ?_) fun room hroom => ?_
    · dsimp only
      rw [if_neg hroom]
      split_ifs
      · trivial
      · exact orderly_finalizeEnd _ _ _
    · dsimp only
      rw [if_pos hroom]
      split_ifs
      · trivial
      · trivial

end Commands

/-! ## The phases and the store -/

def endings (s : CallStore) : Nat := s.events.countP CallEvent.isEnded

/-- A command whose read is up to date finds the room live. At most one command has ended the call;
the room is ended from then on, and its announcement, if it has made it, is the only one. -/
structure EndedOnce (place : ι → EndPhase) (x : Watched (CallWorld ι) ι) : Prop where
  inOrder : Follows discipline (fun _ _ => True) place x.state
  inTime : ∀ i, place i = .live → x.outdated i = false → roomEnded x.state.store = false
  one : ∀ i j, (place i).past → (place j).past → i = j
  ended : ∀ i, (place i).past → roomEnded x.state.store = true
  unannounced : ∀ i, place i = .ending → endings x.state.store = 0
  none_yet : (∀ i, (place i).past = false) → endings x.state.store = 0
  at_most_one : endings x.state.store ≤ 1

lemma endedOnce_start (maxParticipants : Option Nat) (callId : String)
    (commands : ι → CallCommand) :
    EndedOnce (fun _ => .live) (.start (start maxParticipants callId commands)) where
  inOrder _ := orderly_program _
  inTime _ _ _ := rfl
  one _ _ h := by cases h
  ended _ h := by cases h
  unannounced _ h := by cases h
  none_yet _ := rfl
  at_most_one := Nat.zero_le 1

namespace EndedOnce

variable {place place' : ι → EndPhase} {x x' : Watched (CallWorld ι) ι} {i : ι}

variable (h : EndedOnce place x)
include h

lemma quiet (hd : Follows discipline (fun _ _ => True) place' x'.state)
    (hpast : ∀ j, (place' j).past = (place j).past) (hending : ∀ j, place' j = .ending →
      place j = .ending)
    (hended : (∃ j, (place j).past) → roomEnded x'.state.store = true)
    (htime : ∀ j, place' j = .live → x'.outdated j = false → roomEnded x'.state.store = false)
    (hends : endings x'.state.store = endings x.state.store) : EndedOnce place' x' where
  inOrder := hd
  inTime := htime
  one j k hj hk := h.one j k (hpast j ▸ hj) (hpast k ▸ hk)
  ended j hj := hended ⟨j, hpast j ▸ hj⟩
  unannounced j hj := hends.trans (h.unannounced j (hending j hj))
  none_yet hall := hends.trans (h.none_yet fun j => hpast j ▸ hall j)
  at_most_one := hends ▸ h.at_most_one

lemma not_past (hlive : roomEnded x.state.store = false) (j : ι) : (place j).past = false := by
  by_contra hj
  rw [h.ended j (by simpa using hj)] at hlive
  cases hlive

lemma same (hd : Follows discipline (fun _ _ => True) place x'.state)
    (hroom : x'.state.store.room = x.state.store.room)
    (hout : ∀ j, x'.outdated j = false → x.outdated j = false)
    (hends : endings x'.state.store = endings x.state.store) : EndedOnce place x' := by
  have hsame : roomEnded x'.state.store = roomEnded x.state.store := by
    rw [roomEnded, roomEnded, hroom]
  exact h.quiet hd (fun _ => rfl) (fun _ => id) (fun ⟨j, hj⟩ => hsame.trans (h.ended j hj))
    (fun j hj hfresh => hsame.trans (h.inTime j hj (hout j hfresh))) hends

/-- A command that writes the room in time has read a live room, and nobody has ended it since. -/
lemma live_of_writes {room : CallRoomRecord} {p : EndPhase} (hg : Watch.InTime writesRoom x i)
    (hpend : x.state.pending i = some (.writeRoom room))
    (hnext : discipline (place i) (.writeRoom room) () = some p) :
    place i = .live ∧ roomEnded x.state.store = false := by
  have hi : place i = .live := by
    revert hnext
    cases place i <;> simp [discipline]
  exact ⟨hi, h.inTime i hi (hg (by rw [writesRoom, hpend]))⟩

variable [DecidableEq ι]

lemma writeEnded (hlive : roomEnded x.state.store = false)
    (hd : Follows discipline (fun _ _ => True) (update place i .ending) x'.state)
    (hended : roomEnded x'.state.store = true)
    (hout : ∀ j ≠ i, x'.outdated j = true)
    (hends : endings x'.state.store = endings x.state.store) :
    EndedOnce (update place i .ending) x' := by
  have hall := h.not_past hlive
  have hzero : endings x'.state.store = 0 := hends.trans (h.none_yet hall)
  have hi : ∀ j, (update place i .ending j).past → j = i := by
    intro j hj
    by_contra hne
    rw [update_of_ne hne, hall j] at hj
    cases hj
  refine ⟨hd, fun j hj hfresh => ?_, fun j k hj hk => (hi j hj).trans (hi k hk).symm,
    fun _ _ => hended, fun _ _ => hzero, fun _ => hzero, by omega⟩
  by_cases hji : j = i
  · rw [hji, update_self] at hj
    cases hj
  · rw [hout j hji] at hfresh
    cases hfresh

lemma announce (hi : place i = .ending)
    (hd : Follows discipline (fun _ _ => True) (update place i .ended) x'.state)
    (hroom : x'.state.store.room = x.state.store.room)
    (hout : ∀ j, x'.outdated j = false → x.outdated j = false)
    (hends : endings x'.state.store = endings x.state.store + 1) :
    EndedOnce (update place i .ended) x' := by
  have hzero := h.unannounced i hi
  have hpast : (place i).past := by rw [hi]; rfl
  have hsame : roomEnded x'.state.store = roomEnded x.state.store := by
    rw [roomEnded, roomEnded, hroom]
  have hoth : ∀ j, (update place i .ended j).past → j = i := by
    intro j hj
    by_contra hne
    rw [update_of_ne hne] at hj
    exact hne (h.one j i hj hpast)
  refine ⟨hd, fun j hj hfresh => ?_, fun j k hj hk => (hoth j hj).trans (hoth k hk).symm,
    fun _ _ => hsame.trans (h.ended i hpast), fun j hj => ?_, fun hall => ?_, by omega⟩
  · by_cases hji : j = i
    · rw [hji, update_self] at hj
      cases hj
    · rw [update_of_ne hji] at hj
      exact hsame.trans (h.inTime j hj (hout j hfresh))
  · have hji := hoth j (by rw [hj]; rfl)
    rw [hji, update_self] at hj
    cases hj
  · have hself := hall i
    rw [update_self] at hself
    cases hself

lemma readRoom {p : EndPhase} (hnext : discipline (place i) .readRoom x.state.store.room = some p)
    (hd : Follows discipline (fun _ _ => True) (update place i p) x'.state)
    (hstore : x'.state.store = x.state.store)
    (hout : ∀ j ≠ i, x'.outdated j = false → x.outdated j = false) :
    EndedOnce (update place i p) x' := by
  have hplace : p.past = (place i).past ∧ p ≠ .ending ∧
      (p = .live → roomEnded x.state.store = false) := by
    revert hnext
    cases place i <;> simp only [discipline, afterRead, reduceCtorEq, false_implies]
    case ended => rintro ⟨⟩; simp [EndPhase.past]
    all_goals
      rintro ⟨⟩
      split_ifs with hended
      · simp [EndPhase.past]
      · simpa [EndPhase.past, roomEnded] using hended
  refine h.quiet hd (fun j => ?_) (fun j hj => ?_) (fun ⟨j, hj⟩ => hstore ▸ h.ended j hj)
    (fun j hj hfresh => ?_) (by rw [hstore])
  all_goals by_cases hji : j = i
  · rw [hji, update_self, hplace.1]
  · rw [update_of_ne hji]
  · rw [hji, update_self] at hj
    exact absurd hj hplace.2.1
  · rwa [update_of_ne hji] at hj
  · rw [hji, update_self] at hj
    exact hstore ▸ hplace.2.2 hj
  · rw [update_of_ne hji] at hj
    exact hstore ▸ h.inTime j hj (hout j hji hfresh)

/-- **Step.** Every access keeps the invariant, if a command writes the room only while its last
read of it is up to date. -/
lemma step (hg : Watch.InTime writesRoom x i) :
    ∃ place', EndedOnce place' (roomWatch.step (step handle) x i) := by
  have hout (hread : readsRoom x.state i = false) (j : ι) :
      (roomWatch.step (Workers.step handle) x i).outdated j = false → x.outdated j = false :=
    Watch.outdated_of_not_looks hread
  cases hpend : x.state.pending i with
  | none =>
    have hstate : (roomWatch.step (Workers.step handle) x i).state = x.state :=
      step_of_pending_none hpend
    refine ⟨place, h.same (hstate ▸ h.inOrder) (by rw [hstate]) (hout ?_) (by rw [hstate])⟩
    rw [readsRoom, hpend]
  | some access =>
    obtain ⟨p, hnext, hd⟩ := h.inOrder.step handle hpend
    have hstore : (roomWatch.step (Workers.step handle) x i).state.store = _ :=
      store_step_of_pending handle hpend
    cases access with
    | readRoom =>
      exact ⟨_, h.readRoom hnext hd hstore fun j hj hfresh => (Watch.outdated_of_ne hj hfresh).1⟩
    | writeRoom room =>
      obtain ⟨hi, hlive⟩ := h.live_of_writes hg hpend hnext
      have hends : endings (roomWatch.step (Workers.step handle) x i).state.store =
          endings x.state.store := by rw [hstore]; rfl
      rw [hi, discipline] at hnext
      by_cases hended : room.state = .ended
      · rw [if_pos hended] at hnext
        obtain rfl := Option.some.inj hnext
        refine ⟨_, h.writeEnded hlive hd (by rw [hstore]; exact decide_eq_true hended)
          (fun j hj => ?_) hends⟩
        simp [Watch.step, hj, roomWatch, endsRoom, hpend, hended]
      · rw [if_neg hended] at hnext
        obtain rfl := Option.some.inj hnext
        rw [← hi, update_eq_self] at hd
        have hroom : roomEnded (roomWatch.step (Workers.step handle) x i).state.store = false := by
          rw [hstore]
          exact decide_eq_false hended
        refine ⟨place, h.quiet hd (fun _ => rfl) (fun _ => id) ?_ (fun _ _ _ => hroom) hends⟩
        rintro ⟨j, hj⟩
        rw [h.not_past hlive j] at hj
        cases hj
    | appendEvent ev =>
      have hcount : endings (roomWatch.step (Workers.step handle) x i).state.store =
          endings x.state.store + if ev.isEnded then 1 else 0 := by
        rw [hstore]
        show List.countP _ (x.state.store.events ++ [ev]) = _
        rw [countP_append, countP_singleton]
        rfl
      have hroom : (roomWatch.step (Workers.step handle) x i).state.store.room =
          x.state.store.room := by rw [hstore]; rfl
      have hout := hout (by rw [readsRoom, hpend])
      by_cases hended : ev.isEnded
      · rw [if_pos hended] at hcount
        have hplace : place i = .ending ∧ p = .ended := by
          revert hnext
          cases place i <;> simp [discipline, hended, eq_comm]
        rw [hplace.2] at hd
        exact ⟨_, h.announce hplace.1 hd hroom hout hcount⟩
      · rw [if_neg hended] at hcount
        have hplace : place i = p := by
          revert hnext
          cases place i <;> simp [discipline, hended]
        rw [← hplace, update_eq_self] at hd
        exact ⟨place, h.same hd hroom hout hcount⟩
    | _ =>
      have hplace : place i = p := by
        revert hnext
        cases place i <;> simp [discipline]
      rw [← hplace, update_eq_self] at hd
      refine ⟨place, h.same hd (by rw [hstore]; rfl) (hout ?_) (by rw [hstore]; rfl)⟩
      rw [readsRoom, hpend]

lemma roomEnded_step (hg : Watch.InTime writesRoom x i) (hended : roomEnded x.state.store = true) :
    roomEnded (roomWatch.step (Workers.step handle) x i).state.store = true := by
  show roomEnded (Workers.step handle x.state i).store = true
  cases hpend : x.state.pending i with
  | none => rwa [step_of_pending_none hpend]
  | some access =>
    rw [store_step_of_pending handle hpend]
    cases access with
    | writeRoom =>
      obtain ⟨_, hnext, -⟩ := h.inOrder.step handle hpend
      rw [(h.live_of_writes hg hpend hnext).2] at hended
      cases hended
    | _ => exact hended

end EndedOnce

/-! ## Runs -/

variable [DecidableEq ι]

/-- **The end of a call.** In every run in which no other command ends the room between a command's
last read of it and its write, an ended room stays ended and the end is announced at most once. A
command that has not read the room, as `create_call`, counts as having read it at the start. -/
theorem ended_call_stays_ended (maxParticipants : Option Nat) (callId : String)
    (commands : ι → CallCommand) (before after : List ι)
    (hguard : Guarded (roomWatch.step (step handle)) (Watch.InTime writesRoom)
      (.start (start maxParticipants callId commands)) (before ++ after)) :
    (roomEnded (run (step handle) (start maxParticipants callId commands) before).store = true →
      roomEnded (run (step handle)
        (start maxParticipants callId commands) (before ++ after)).store = true) ∧
    endings (run (step handle)
      (start maxParticipants callId commands) (before ++ after)).store ≤ 1 := by
  have hstep : ∀ (x : Watched (CallWorld ι) ι) i, (∃ place, EndedOnce place x) →
      Watch.InTime writesRoom x i → ∃ place, EndedOnce place (roomWatch.step (step handle) x i) :=
    fun _ _ ⟨_, h⟩ hg => h.step hg
  have hstart : ∃ place, EndedOnce place (.start (start maxParticipants callId commands)) :=
    ⟨_, endedOnce_start maxParticipants callId commands⟩
  have hstate := roomWatch.run_state (step handle) (.start (start maxParticipants callId commands))
  constructor
  · intro hended
    rw [guarded_append] at hguard
    have hbefore := run_invariant hstep hstart hguard.1
    have hkept := run_relation (R := fun x y : Watched (CallWorld ι) ι =>
        roomEnded x.state.store = true → roomEnded y.state.store = true)
      hstep (fun _ => id) (fun _ _ _ h h' hended => h' (h hended))
      (fun _ _ ⟨_, h⟩ hg => h.roomEnded_step hg) hbefore hguard.2
    rw [← run_append, hstate, hstate] at hkept
    exact hkept hended
  · obtain ⟨_, honce⟩ := run_invariant hstep hstart hguard
    have hle := honce.at_most_one
    rwa [hstate] at hle

/-! ## A call between two users -/

/-- Ada calls Grace; Grace joins, and Ada hangs up, twice. -/
def adaCallsGrace : Nat → CallCommand
  | 0 => .create ⟨"ada", "a"⟩ ⟨"conv", ["grace"], none⟩ "t0" (.ok ⟨"session", "p2p"⟩)
  | 1 => .join ⟨"grace", "g"⟩ "t1" (.error (.media "no token"))
  | _ => .finish ⟨"ada", "a"⟩ "t2"

/-- Hanging up before Grace joins: she finds the call ended. -/
theorem grace_too_late :
    roomEnded (run (step handle) (start none "call" adaCallsGrace)
      [0, 0, 0, 0, 2, 2, 2, 2, 1, 3]).store = true ∧
    endings (run (step handle) (start none "call" adaCallsGrace)
      [0, 0, 0, 0, 2, 2, 2, 2, 1, 3]).store ≤ 1 := by
  have h := ended_call_stays_ended none "call" adaCallsGrace [0, 0, 0, 0, 2, 2, 2, 2] [1, 3]
    (by decide +kernel)
  exact ⟨h.1 (by decide +kernel), h.2⟩

/-- Grace's join reads the ringing room, Ada hangs up, and the join makes the room active again. Two
hang-ups that read the room before either ends it both announce the end. -/
theorem ended_call_revived_and_ended_twice :
    (roomEnded (run (step handle) (start none "call" adaCallsGrace)
        [0, 0, 0, 0, 1, 1, 2, 2, 2, 2]).store = true ∧
      roomEnded (run (step handle) (start none "call" adaCallsGrace)
        ([0, 0, 0, 0, 1, 1, 2, 2, 2, 2] ++ [1, 1, 1, 1])).store = false) ∧
    endings (run (step handle) (start none "call" adaCallsGrace)
      [0, 0, 0, 0, 2, 2, 3, 3, 2, 2, 3, 3]).store = 2 := by
  decide +kernel

end Frick.Properties
