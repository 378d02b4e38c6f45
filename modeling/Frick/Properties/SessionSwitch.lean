import Frick.Client.Session
import Frick.Framework.Run
import Frick.Properties.SnapshotReconcile

/-!
# Frames of the session before

`setSession` closes the socket, clears what belongs to the user and opens another socket. The old
socket may still deliver what had arrived when it was closed, and its listener for `message` does
not look whether the socket is the client's any more: such a frame is handled as if it were the new
user's, and what it stores goes into the cache under the new user's scope.
-/

namespace Frick.Properties

open Framework Client Protocol Client.ClientRuntime FrickClient

/-! ## What belongs to the user -/

/-- What a client has of the user it acts for. -/
structure UserState where
  objects : Dict String Value
  streams : Dict String (List StreamEventInput)
  cursors : Dict String Int
  presence : Dict String (Option Value)
  projections : Dict String (Dict String Value)
  pendingAppends : Dict String PendingAppend
  pendingUpserts : Dict String PendingUpsert
  cache : MemoryFrickCache
  cachedAppends : Dict String PendingAppend

def userState (client : ClientRuntime) : UserState where
  objects := client.stores.objects
  streams := client.stores.streams
  cursors := client.stores.cursors
  presence := client.presenceSignals
  projections := client.projectionRows
  pendingAppends := client.pendingAppends
  pendingUpserts := client.pendingUpserts
  cache := client.stores.cache
  cachedAppends := client.cachedAppends

/-- The session is that of another user, or of another tenant, than before. -/
def Switches (old next : Option FrickSession) : Prop :=
  next.isSome = true ∧
    (next.map fun s => (s.tenantId, s.userId)) ≠ old.map fun s => (s.tenantId, s.userId)

instance (old next : Option FrickSession) : Decidable (Switches old next) :=
  inferInstanceAs (Decidable (_ ∧ _))

/-- A client, how many sockets it had opened when it was last switched to another user, and the
sockets that have been closed. -/
structure SwitchedClient where
  client : ClientRuntime
  switchedAt : Nat := 0
  closed : Nat → Bool

/-- The event closes the socket: `disconnect` and `setSession` call `close` on the client's own, and
a socket may report that it is closed. -/
def closesSocket (client : ClientRuntime) (socket : Nat) : Event → Bool
  | .disconnect => client.socket = some socket
  | .setSession _ => client.socket = some socket
  | .closed other => other = socket
  | _ => false

namespace SwitchedClient

/-- No switch so far; of the sockets that were opened, all but the client's own are closed. -/
def start (client : ClientRuntime) : SwitchedClient where
  client
  closed socket := socket < client.opened ∧ client.socket ≠ some socket

/-- One event, with a note of the switch or of the socket it closes. -/
def step (w : SwitchedClient) (event : Event) : SwitchedClient where
  client := (w.client.handle event).1
  switchedAt :=
    match event with
    | .setSession session =>
      if Switches w.client.session session then w.client.opened else w.switchedAt
    | _ => w.switchedAt
  closed socket := w.closed socket || closesSocket w.client socket event

end SwitchedClient

open SwitchedClient (step start)

/-- Nothing that arrives on a socket from before the last switch changes what belongs to the
user. -/
def LateFramesChangeNothing (client : ClientRuntime) (events : List Event) : Prop :=
  ∀ before socket frame after, events = before ++ .message socket frame :: after →
    socket < (run step (start client) before).switchedAt →
      userState (run step (start client) (before ++ [.message socket frame])).client =
        userState (run step (start client) before).client

/-- No message arrives on a socket that is closed. -/
def OnOpenSocket (w : SwitchedClient) : Event → Prop
  | .message socket _ => w.closed socket = false
  | _ => True

/-! ## Sockets -/

/-- Every socket is the client's own or closed, and the client's own was opened after the last
switch. -/
structure OneSocket (w : SwitchedClient) : Prop where
  own : ∀ socket ∈ w.client.socket, socket < w.client.opened ∧ w.switchedAt ≤ socket
  others : ∀ socket < w.client.opened, w.client.socket = some socket ∨ w.closed socket = true
  switched : w.switchedAt ≤ w.client.opened

section

variable {client : ClientRuntime} {w : SwitchedClient}

/-- What an event does to the socket: it is kept, closed, or closed and replaced. -/
inductive SocketMove (client : ClientRuntime) (event : Event) (client' : ClientRuntime) : Prop
  | kept (hsocket : client'.socket = client.socket) (hopened : client'.opened = client.opened)
    (hstays : ∀ session, event = .setSession session → client.socket = none)
  | left (hsocket : client'.socket = none) (hopened : client'.opened = client.opened)
    (hcloses : ∀ socket ∈ client.socket, closesSocket client socket event = true)
  | taken (hsocket : client'.socket = some client.opened)
    (hopened : client'.opened = client.opened + 1)
    (hcloses : ∀ socket ∈ client.socket, closesSocket client socket event = true)

lemma socketMove_receive (client : ClientRuntime) (socket : Nat) (frame : FrickFrame) :
    SocketMove client (.message socket frame) (client.receive frame) := by
  cases frame with
  | ack | nack =>
    simp only [ClientRuntime.receive, onAck, onNack]
    split_ifs <;> exact .kept rfl rfl (by simp)
  | signalDeliver =>
    simp only [ClientRuntime.receive, signalDeliver]
    split <;> exact .kept rfl rfl (by simp)
  | _ => exact .kept rfl rfl (by simp)

lemma socketMove_setSession (client : ClientRuntime) (session : Option FrickSession) :
    SocketMove client (.setSession session) (client.setSession session) := by
  simp only [setSession]
  cases hsocket : client.socket with
  | none =>
    simp only [Option.isSome_none, Bool.false_eq_true, if_false]
    split_ifs <;> exact .kept rfl rfl fun _ _ => hsocket
  | some =>
    simp only [Option.isSome_some, if_true]
    split_ifs <;> exact .taken rfl rfl fun _ => decide_eq_true

lemma socketMove_handle (client : ClientRuntime) (event : Event) :
    SocketMove client event (client.handle event).1 := by
  cases event with
  | connect =>
    simp only [handle, connect]
    split
    · exact .kept rfl rfl (by simp)
    next hnone => exact .taken rfl rfl fun _ hsome => by cases hnone.symm.trans hsome
  | disconnect => exact .left rfl rfl fun _ => decide_eq_true
  | setSession session => exact socketMove_setSession client session
  | closed socket =>
    simp only [handle, onClose]
    split_ifs with hother
    · exact .kept rfl rfl (by simp)
    · refine .left rfl rfl fun own hown => decide_eq_true ?_
      exact Option.some.inj ((not_not.mp hother).symm.trans hown)
  | message socket frame => exact socketMove_receive client socket frame
  | stream | clearUserState | callCommand => exact .kept rfl rfl (by simp)
  | _ =>
    simp only [handle, append, upsertObject, ClientRuntime.objects, presence, signalChannel,
      projection, onOpen]
    split_ifs <;> exact .kept rfl rfl (by simp)

lemma OneSocket.start (hsocket : ∀ socket ∈ client.socket, socket < client.opened) :
    OneSocket (start client) where
  own socket hown := ⟨hsocket socket hown, Nat.zero_le _⟩
  others socket hopened := by
    by_cases hown : client.socket = some socket
    · exact .inl hown
    · exact .inr (decide_eq_true ⟨hopened, hown⟩)
  switched := Nat.zero_le _

/-- **Step.** A switch closes the client's socket, so that its next one is opened after it. -/
lemma OneSocket.step (h : OneSocket w) (event : Event) : OneSocket (step w event) := by
  have hle : (SwitchedClient.step w event).switchedAt ≤ w.client.opened := by
    cases event with
    | setSession =>
      simp only [SwitchedClient.step]
      split_ifs
      · exact le_rfl
      · exact h.switched
    | _ => exact h.switched
  have hclosed {socket : Nat} (hwas : w.closed socket ∨ closesSocket w.client socket event) :
      (SwitchedClient.step w event).closed socket := Bool.or_eq_true_iff.mpr hwas
  cases socketMove_handle w.client event with
  | kept hsocket hopened hstays =>
    refine ⟨fun socket hown => ?_, fun socket hlt => ?_, hle.trans hopened.ge⟩
    · have hwas : w.client.socket = some socket := hsocket.symm.trans hown
      obtain ⟨hlt, hsince⟩ := h.own socket hwas
      refine ⟨hlt.trans_eq hopened.symm, ?_⟩
      cases event with
      | setSession session => cases (hstays session rfl).symm.trans hwas
      | _ => exact hsince
    · rcases h.others socket (hlt.trans_eq hopened) with hown | hwas
      · exact .inl (hsocket.trans hown)
      · exact .inr (hclosed (.inl hwas))
  | left hsocket hopened hcloses =>
    refine ⟨fun socket hown => ?_, fun socket hlt => .inr ?_, hle.trans hopened.ge⟩
    · cases hsocket.symm.trans hown
    rcases h.others socket (hlt.trans_eq hopened) with hown | hwas
    · exact hclosed (.inr (hcloses socket hown))
    · exact hclosed (.inl hwas)
  | taken hsocket hopened hcloses =>
    have hmore : w.client.opened < (SwitchedClient.step w event).client.opened :=
      (Nat.lt_succ_self _).trans_eq hopened.symm
    refine ⟨fun socket hown => ?_, fun socket hlt => ?_, hle.trans hmore.le⟩
    · obtain rfl := Option.some.inj (hsocket.symm.trans hown)
      exact ⟨hmore, hle⟩
    · rcases Nat.lt_succ_iff_lt_or_eq.mp (hlt.trans_eq hopened) with hlt | rfl
      · rcases h.others socket hlt with hown | hwas
        · exact .inr (hclosed (.inr (hcloses socket hown)))
        · exact .inr (hclosed (.inl hwas))
      · exact .inl hsocket

end

/-- **No frame of the session before.** In a run in which no message arrives on a socket that is
closed, no frame that arrives on a socket from before the last switch changes what belongs to the
user: not its objects, streams, cursors, presence, projections, queues or cache. -/
theorem late_frames_change_nothing (client : ClientRuntime)
    (hsocket : ∀ socket ∈ client.socket, socket < client.opened) (events : List Event)
    (hguard : Guarded step OnOpenSocket (start client) events) :
    LateFramesChangeNothing client events := by
  intro before socket frame after hsplit hlate
  have hopen := guarded_iff_forall_split.mp hguard before (.message socket frame) after hsplit
  have h : OneSocket (run step (start client) before) :=
    run_of_forall_step (fun _ event h => h.step event) (.start hsocket) before
  rcases h.others socket (hlate.trans_le h.switched) with hown | hclosed
  · exact absurd (h.own socket hown).2 (not_le.mpr hlate)
  · cases hclosed.symm.trans hopen

/-! ## Ada leaves, Grace comes -/

def acmeSession (userId : String) : FrickSession :=
  ⟨"token-" ++ userId, some "acme", userId, "device-" ++ userId, "replica-" ++ userId⟩

def adaClient : ClientRuntime where
  stores := { schema := memoSchema, cacheScope := some memoScope }
  session := some (acmeSession "ada")
  sessionToken := some "token-ada"
  replicaId := "replica-ada"
  deviceId := "device-ada"

/-- Ada's append is answered, Grace takes over, and her snapshot comes on a socket of her own. -/
def switchAfterAnswer : List Event :=
  [.connect, .opened 0, .append ⟨"r1", "MessageStream", "conv-1", "MessageSent", .nil⟩,
    .message 0 (.ack "r1" none none), .setSession (some (acmeSession "grace")), .opened 1,
    .message 1 (.snapshot (memoSnapshot [memo "m2" "for grace"]))]

theorem answered_before_switch :
    LateFramesChangeNothing adaClient switchAfterAnswer ∧
      (run step (start adaClient) switchAfterAnswer).switchedAt = 1 := by
  refine ⟨late_frames_change_nothing _ (fun _ h => by cases h) _ ?_, by decide +kernel⟩
  refine ⟨trivial, trivial, trivial, ?_, trivial, trivial, ?_, trivial⟩ <;>
    show SwitchedClient.closed _ _ = false <;> decide +kernel

/-- Ada's snapshot comes after Grace has taken over. -/
def switchBeforeSnapshot : List Event :=
  [.connect, .opened 0, .setSession (some (acmeSession "grace")),
    .message 0 (.snapshot (memoSnapshot [memo "m1" "for ada"]))]

/-- Grace's client has Ada's memo, in memory and in the cache, and the cache says that it is
Grace's. -/
theorem ada_memo_stored_for_grace :
    ¬ LateFramesChangeNothing adaClient switchBeforeSnapshot ∧
      (run step (start adaClient) switchBeforeSnapshot).client.stores.object "Memo" "m1" =
        some (memo "m1" "for ada") ∧
      (run step (start adaClient) switchBeforeSnapshot).client.stores.cache.metadata.map
        (fun metadata => metadata.userId) = some (some "grace") := by
  refine ⟨fun h => ?_, by decide +kernel, by decide +kernel⟩
  have hsame := h (switchBeforeSnapshot.take 3) 0 _ [] rfl (by decide +kernel)
  have hobjects := congrArg (fun state => state.objects.get? "Memo:m1") hsame
  revert hobjects
  decide +kernel

end Frick.Properties
