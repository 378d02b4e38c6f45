import Frick.Properties.SessionSwitch

/-!
# Writes that are sent again

A client keeps its appends and upserts until they are answered, and sends them again on every new
connection.

An append that arrives twice is stored once if the server can tell, and the server goes by the
replica id of the session and the request id. The next session of a user may have another replica
id; an append that was stored under the old one is then stored again.

An upsert that arrives twice is taken twice. The second time its version is not the expected one any
more, and the client is told of a conflict with its own write.
-/

namespace Frick.Properties

open Framework Client Protocol Store Client.ClientRuntime ObjectStore List

/-- A client, a server, and what is on its way between them. -/
structure Wire (σ : Type) where
  client : ClientRuntime
  server : σ
  /-- Frames for the server, each with the session token of its connection. -/
  uplink : List (Option String × ClientFrame) := []
  /-- Answers for the client. -/
  downlink : List FrickFrame := []
  /-- How the promises of upserts were settled. -/
  settled : List (String × UpsertOutcome) := []

/-- Something happens at the client, the server takes a frame, a frame is lost, or an answer
arrives; an answer that is lost is one that never arrives. -/
inductive WireLabel (α : Type) where
  | event (event : Event)
  | serve (n : Nat) (choice : α)
  | lose (n : Nat)
  | deliver (n : Nat)

/-- An `Ack` or a `Nack` arrives. -/
def bringsAnswer : Event → Bool
  | .message _ (.ack _ _ _) | .message _ (.nack _) => true
  | _ => false

/-- How an answer settles the promise of an upsert. -/
def settledBy (client : ClientRuntime) : FrickFrame → Option (String × UpsertOutcome)
  | .ack requestId _ version => (client.onAck requestId version).2.map (requestId, ·)
  | .nack error => (client.onNack error).2.map (error.requestId, ·)
  | _ => none

namespace Wire

variable {σ α : Type} (serve : σ → α → Option String → ClientFrame → σ × List FrickFrame)

/-- Something happens at the client. A change of the session closes the socket, so that the token in
the `Hello` of a connection is the client's as long as the client sends on it. -/
def act (w : Wire σ) (event : Event) : Wire σ :=
  let (client, frames) := w.client.handle event
  { w with
    client
    uplink := w.uplink ++ frames.map fun frame => (client.sessionToken, frame) }

/-- The client acts, the server takes a frame, or a frame is lost or arrives. -/
def step (w : Wire σ) : WireLabel α → Wire σ
  -- Answers are only those of the server.
  | .event event => if bringsAnswer event then w else w.act event
  | .serve n choice =>
    match w.uplink[n]? with
    | none => w
    | some (token, frame) =>
      let (server, answers) := serve w.server choice token frame
      { w with server, uplink := w.uplink.eraseIdx n, downlink := w.downlink ++ answers }
  | .lose n => { w with uplink := w.uplink.eraseIdx n }
  | .deliver n =>
    match w.downlink[n]? with
    | none => w
    | some answer =>
      { w with
        client := w.client.receive answer
        downlink := w.downlink.eraseIdx n
        settled := w.settled ++ (settledBy w.client answer).toList }

end Wire

/-! ## What the client does -/

def Waits (client : ClientRuntime) (requestId : String) : Prop :=
  (client.pendingAppends.get? requestId).isSome = true

/-- What an event leaves of a client, and what it sends: of the appends, only such that wait. -/
structure Handled (client : ClientRuntime) (event : Event) (client' : ClientRuntime)
    (frames : List ClientFrame) : Prop where
  keyed : ∀ entry ∈ client'.pendingAppends, entry.2.requestId = entry.1
  sends : ∀ append, .append append ∈ frames → Waits client' append.requestId
  waits : ∀ requestId, Waits client' requestId →
    Waits client requestId ∨ ∃ append, event = .append append ∧ append.requestId = requestId
  token : (∀ session, event ≠ .setSession session) → client'.sessionToken = client.sessionToken

section Handle

variable {client client' : ClientRuntime} {event : Event} {frames : List ClientFrame}

lemma waits_iff {requestId : String} :
    Waits client requestId ↔ ∃ entry ∈ client.pendingAppends, entry.1 = requestId :=
  Dict.isSome_get?_iff.trans mem_map

lemma pendingAppends_setSession (client : ClientRuntime) (session : Option FrickSession) :
    (client.setSession session).pendingAppends =
      if sessionScope client.session ≠ sessionScope session then Table.empty _
      else client.pendingAppends := by
  simp only [setSession]
  split_ifs <;> rfl

lemma receive_spec (client : ClientRuntime) (frame : FrickFrame) :
    (∀ entry ∈ (client.receive frame).pendingAppends, entry ∈ client.pendingAppends) ∧
      (client.receive frame).sessionToken = client.sessionToken := by
  have hsett (requestId : String) : (∀ entry ∈ (client.settleAppend requestId).pendingAppends,
      entry ∈ client.pendingAppends) ∧ (client.settleAppend requestId).sessionToken = _ :=
    ⟨fun _ h => (Table.mem_deleteWhere.mp h).1, rfl⟩
  cases frame with
  | ack requestId =>
    simp only [receive, onAck]
    split_ifs
    · exact ⟨fun _ h => h, rfl⟩
    · exact hsett requestId
  | nack error =>
    simp only [receive, onNack]
    split_ifs
    iterate 3 exact ⟨fun _ h => h, rfl⟩
    exact hsett error.requestId
  | signalDeliver =>
    simp only [receive, signalDeliver]
    split <;> exact ⟨fun _ h => h, rfl⟩
  | _ => exact ⟨fun _ h => h, rfl⟩

variable (hkeyed : ∀ entry ∈ client.pendingAppends, entry.2.requestId = entry.1)

include hkeyed

lemma handled_of_subset (hsub : ∀ entry ∈ client'.pendingAppends, entry ∈ client.pendingAppends)
    (hframes : ∀ append, .append append ∉ frames)
    (htoken : (∀ session, event ≠ .setSession session) →
      client'.sessionToken = client.sessionToken) : Handled client event client' frames where
  keyed entry hentry := hkeyed entry (hsub entry hentry)
  sends append happ := absurd happ (hframes append)
  waits requestId hwaits := by
    obtain ⟨entry, hentry, hid⟩ := waits_iff.mp hwaits
    exact .inl (waits_iff.mpr ⟨entry, hsub entry hentry, hid⟩)
  token := htoken

lemma handled_append (append : PendingAppend) :
    Handled client (.append append) (client.append append).1 (client.append append).2 := by
  rw [ClientRuntime.append]
  split_ifs
  · exact handled_of_subset hkeyed (fun _ h => h) (fun _ => not_mem_nil) fun _ => rfl
  · refine ⟨fun entry hentry => ?_, fun sent hsent => ?_, fun requestId hwaits => ?_, fun _ => rfl⟩
    · rcases Table.mem_upsert.mp hentry with rfl | ⟨hpre, -⟩
      · rfl
      · exact hkeyed entry hpre
    · rw [send] at hsent
      split_ifs at hsent
      · obtain rfl : sent = append := by simpa using hsent
        exact Option.isSome_iff_exists.mpr ⟨_, Dict.get?_set_self _ _ _⟩
      · cases hsent
    · by_cases hid : append.requestId = requestId
      · exact .inr ⟨append, rfl, hid⟩
      · refine .inl ?_
        rwa [Waits, Dict.get?_set_of_ne (Ne.symm hid)] at hwaits

lemma handled_onOpen (socket : Nat) :
    Handled client (.opened socket) (client.onOpen socket).1 (client.onOpen socket).2 := by
  rw [onOpen]
  split_ifs
  · exact handled_of_subset hkeyed (fun _ h => h) (fun _ => not_mem_nil) fun _ => rfl
  · refine ⟨hkeyed, fun append happ => ?_, fun _ => .inl, fun _ => rfl⟩
    obtain ⟨entry, hentry, rfl⟩ : ∃ entry ∈ client.pendingAppends.rows, entry.2 = append := by
      simpa using happ
    exact waits_iff.mpr ⟨entry, hentry, (hkeyed entry hentry).symm⟩

lemma handled_handle (event : Event) :
    Handled client event (client.handle event).1 (client.handle event).2 := by
  cases event with
  | append append => exact handled_append hkeyed append
  | opened socket => exact handled_onOpen hkeyed socket
  | message _ frame =>
    obtain ⟨hsub, htoken⟩ := receive_spec client frame
    exact handled_of_subset hkeyed hsub (fun _ => not_mem_nil) fun _ => htoken
  | setSession session =>
    refine handled_of_subset hkeyed (fun entry hentry => ?_) (fun _ => not_mem_nil)
      fun hne => absurd rfl (hne session)
    rw [handle, pendingAppends_setSession] at hentry
    split_ifs at hentry
    · exact absurd hentry (Table.not_mem_empty entry)
    · exact hentry
  | clearUserState =>
    exact handled_of_subset hkeyed (fun entry hentry => absurd hentry (Table.not_mem_empty entry))
      (fun _ => not_mem_nil) fun _ => rfl
  | connect =>
    simp only [handle, connect]
    split <;>
      exact handled_of_subset hkeyed (fun _ h => h) (fun _ => not_mem_nil) fun _ => rfl
  | disconnect | callCommand =>
    exact handled_of_subset hkeyed (fun _ h => h) (fun _ => not_mem_nil) fun _ => rfl
  | stream => exact handled_of_subset hkeyed (fun _ h => h) (by simp [handle, stream]) fun _ => rfl
  | _ =>
    simp only [handle, upsertObject, objects, presence, signalChannel, projection, onClose, send]
    split_ifs <;> exact handled_of_subset hkeyed (fun _ h => h) (by simp) fun _ => rfl

end Handle

/-! ## Appends -/

/-- The stream log: every event with the replica id of the session that it came on. -/
abbrev AppendLog := List (String × PendingAppend)

section Appends

variable (replicaOf : Option String → String)

/-- The server takes a frame. An append is stored, unless there is one with its replica id and
request id, or refused; `choice` says whether it is refused, and what is sent back. -/
def serveAppend (log : AppendLog) (choice : Bool × List FrickFrame) (token : Option String) :
    ClientFrame → AppendLog × List FrickFrame
  | .append append =>
    (if choice.1 || log.any fun event =>
        (event.1, event.2.requestId) = (replicaOf token, append.requestId) then log
      else log ++ [(replicaOf token, append)], choice.2)
  | _ => (log, choice.2)

/-- The appends that are on their way or stored, by replica id and request id. -/
def traces (w : Wire AppendLog) : List (String × String) :=
  (w.uplink.filterMap fun
    | (token, .append append) => some (replicaOf token, append.requestId)
    | _ => none) ++ w.server.map fun event => (event.1, event.2.requestId)

/-- An append draws a request id that is not in use. -/
def DrawsFreshId (w : Wire AppendLog) : WireLabel (Bool × List FrickFrame) → Prop
  | .event (.append append) => ∀ trace ∈ traces replicaOf w, trace.2 ≠ append.requestId
  | _ => True

/-- A session for the same user has the replica id of the one before it, or no append that waits has
been sent. -/
def KeepsReplica (w : Wire AppendLog) : WireLabel (Bool × List FrickFrame) → Prop
  | .event (.setSession session) =>
    sessionScope w.client.session = sessionScope session →
      replicaOf (session.map FrickSession.sessionToken) = replicaOf w.client.sessionToken ∨
        ∀ trace ∈ traces replicaOf w, ¬ Waits w.client trace.2
  | _ => True

/-- An append that waits was sent under the present replica id only, and every other one under a
single one. -/
structure Consistent (w : Wire AppendLog) : Prop where
  keyed : ∀ entry ∈ w.client.pendingAppends, entry.2.requestId = entry.1
  waiting : ∀ trace ∈ traces replicaOf w, Waits w.client trace.2 →
    trace.1 = replicaOf w.client.sessionToken
  apart : ∀ trace ∈ traces replicaOf w, ∀ other ∈ traces replicaOf w, trace.2 = other.2 →
    trace = other
  stored : (w.server.map fun event => (event.1, event.2.requestId)).Nodup

variable {replicaOf} {w w' : Wire AppendLog} {trace : String × String}

lemma mem_traces : trace ∈ traces replicaOf w ↔
    (∃ token append, (token, .append append) ∈ w.uplink ∧
      trace = (replicaOf token, append.requestId)) ∨
      ∃ event ∈ w.server, trace = (event.1, event.2.requestId) := by
  rw [traces, mem_append, mem_filterMap, mem_map]
  refine or_congr ⟨?_, ?_⟩ (by simp only [eq_comm])
  · rintro ⟨⟨token, frame⟩, hmem, h⟩
    cases frame with
    | append append => exact ⟨token, append, hmem, (Option.some.inj h).symm⟩
    | _ => cases h
  · rintro ⟨token, append, hmem, rfl⟩
    exact ⟨_, hmem, rfl⟩

lemma Consistent.next (h : Consistent replicaOf w)
    (hkeyed : ∀ entry ∈ w'.client.pendingAppends, entry.2.requestId = entry.1)
    (hstored : (w'.server.map fun event => (event.1, event.2.requestId)).Nodup)
    (hnew : ∀ trace ∈ traces replicaOf w', trace ∈ traces replicaOf w ∨
      Waits w'.client trace.2 ∧ trace.1 = replicaOf w'.client.sessionToken)
    (hold : ∀ trace ∈ traces replicaOf w, Waits w'.client trace.2 →
      trace.1 = replicaOf w'.client.sessionToken) : Consistent replicaOf w' where
  keyed := hkeyed
  stored := hstored
  waiting trace htrace hwaits := by
    rcases hnew trace htrace with hpre | ⟨-, hrepl⟩
    · exact hold trace hpre hwaits
    · exact hrepl
  apart trace htrace other hother heq := by
    refine Prod.ext ?_ heq
    rcases hnew trace htrace with hpre | ⟨hwaits, hrepl⟩
    · rcases hnew other hother with hbefore' | ⟨hwaits, hrepl⟩
      · exact congrArg Prod.fst (h.apart trace hpre other hbefore' heq)
      · rw [hold trace hpre (heq ▸ hwaits), hrepl]
    · rcases hnew other hother with hbefore' | ⟨-, hreplica'⟩
      · rw [hold other hbefore' (heq ▸ hwaits), hrepl]
      · rw [hrepl, hreplica']

lemma Consistent.act (h : Consistent replicaOf w) (event : Event)
    (hfresh : DrawsFreshId replicaOf w (.event event))
    (hkeeps : KeepsReplica replicaOf w (.event event)) : Consistent replicaOf (w.act event) := by
  have hhandled := handled_handle h.keyed event
  refine h.next hhandled.keyed h.stored ?_ ?_
  · intro trace htrace
    rcases mem_traces.mp htrace with ⟨token, append, hmem, rfl⟩ | hserver
    · rcases mem_append.mp hmem with hpre | hsent
      · exact .inl (mem_traces.mpr (.inl ⟨token, append, hpre, rfl⟩))
      · obtain ⟨frame, hframe, heq⟩ := mem_map.mp hsent
        obtain ⟨rfl, rfl⟩ := Prod.mk.inj heq
        exact .inr ⟨hhandled.sends append hframe, rfl⟩
    · exact .inl (mem_traces.mpr (.inr hserver))
  · intro trace htrace hwaits
    rcases hhandled.waits trace.2 hwaits with hpre | ⟨append, rfl, hid⟩
    · have hrepl := h.waiting trace htrace hpre
      by_cases hevent : ∃ session, event = .setSession session
      · obtain ⟨session, rfl⟩ := hevent
        have htoken : (w.act (.setSession session)).client.sessionToken =
            session.map FrickSession.sessionToken := by
          show (w.client.setSession session).sessionToken = _
          simp only [setSession]
          split_ifs <;> rfl
        by_cases hscope : sessionScope w.client.session = sessionScope session
        · rw [htoken]
          rcases hkeeps hscope with hsame | hnone
          · rw [hsame, hrepl]
          · exact absurd hpre (hnone trace htrace)
        · have hempty : (w.client.setSession session).pendingAppends = Table.empty _ := by
            rw [pendingAppends_setSession, if_pos hscope]
          obtain ⟨entry, hentry, -⟩ := waits_iff.mp hwaits
          exact absurd (hempty ▸ hentry) (Table.not_mem_empty entry)
      · have htoken := hhandled.token fun session heq => hevent ⟨session, heq⟩
        exact hrepl.trans (congrArg replicaOf htoken.symm)
    · exact absurd hid.symm (hfresh trace htrace)

lemma mem_serveAppend {log : AppendLog} {choice : Bool × List FrickFrame} {token : Option String}
    {frame : ClientFrame} {event : String × PendingAppend}
    (h : event ∈ (serveAppend replicaOf log choice token frame).1) :
    event ∈ log ∨ ∃ append, frame = .append append ∧ event = (replicaOf token, append) := by
  cases frame with
  | append append =>
    simp only [serveAppend] at h
    split_ifs at h
    · exact .inl h
    · refine (mem_append.mp h).imp_right fun hnew => ⟨append, rfl, ?_⟩
      exact mem_singleton.mp hnew
  | _ => exact .inl h

lemma nodup_serveAppend {log : AppendLog}
    (h : (log.map fun event => (event.1, event.2.requestId)).Nodup)
    (choice : Bool × List FrickFrame) (token : Option String) (frame : ClientFrame) :
    ((serveAppend replicaOf log choice token frame).1.map
      fun event => (event.1, event.2.requestId)).Nodup := by
  cases frame with
  | append =>
    simp only [serveAppend]
    split_ifs with hkept
    · exact h
    · rw [map_append, map_singleton, ← concat_eq_append]
      refine Nodup.concat (fun hmem => hkept ?_) h
      obtain ⟨event, hevent, heq⟩ := mem_map.mp hmem
      rw [Bool.or_eq_true, any_eq_true]
      exact .inr ⟨event, hevent, decide_eq_true heq⟩
  | _ => exact h

/-- **Step.** Nothing makes a second event of an append. -/
lemma Consistent.step (h : Consistent replicaOf w) (label : WireLabel (Bool × List FrickFrame))
    (hfresh : DrawsFreshId replicaOf w label) (hkeeps : KeepsReplica replicaOf w label) :
    Consistent replicaOf (w.step (serveAppend replicaOf) label) := by
  have hlost (n : Nat) (trace : String × String)
      (htrace : trace ∈ traces replicaOf { w with uplink := w.uplink.eraseIdx n }) :
      trace ∈ traces replicaOf w := by
    refine mem_traces.mpr ((mem_traces.mp htrace).imp_left ?_)
    rintro ⟨token, append, hmem, heq⟩
    exact ⟨token, append, mem_of_mem_eraseIdx hmem, heq⟩
  cases label with
  | event event =>
    rw [Wire.step]
    split_ifs
    · exact h
    · exact h.act event hfresh hkeeps
  | lose n => exact h.next h.keyed h.stored (fun t ht => .inl (hlost n t ht)) h.waiting
  | serve n choice =>
    rw [Wire.step]
    cases hget : w.uplink[n]? with
    | none => exact h
    | some sent =>
      obtain ⟨token, frame⟩ := sent
      refine h.next h.keyed (nodup_serveAppend h.stored choice token frame)
        (fun trace htrace => .inl ?_) h.waiting
      rcases mem_traces.mp htrace with hsent | ⟨event, hevent, rfl⟩
      · exact hlost n trace (mem_traces.mpr (.inl hsent))
      · refine mem_traces.mpr ((mem_serveAppend hevent).symm.imp ?_ fun hold => ⟨event, hold, rfl⟩)
        rintro ⟨append, rfl, rfl⟩
        exact ⟨token, append, mem_of_getElem? hget, rfl⟩
  | deliver n =>
    rw [Wire.step]
    cases w.downlink[n]? with
    | none => exact h
    | some answer =>
      obtain ⟨hsub, htoken⟩ := receive_spec w.client answer
      refine h.next (fun entry hentry => h.keyed entry (hsub entry hentry)) h.stored (fun _ => .inl)
        fun trace htrace hwaits => ?_
      obtain ⟨entry, hentry, hid⟩ := waits_iff.mp hwaits
      exact (h.waiting trace htrace (waits_iff.mpr ⟨entry, hsub entry hentry, hid⟩)).trans
        (congrArg replicaOf htoken.symm)

end Appends

/-- No two events of the log have one request id, in any run in which append calls draw request ids
that are not in use and a session for the same user has the replica id of the one before it or finds
no append sent that still waits. -/
theorem append_at_most_once (replicaOf : Option String → String) (client : ClientRuntime)
    (hkeyed : ∀ entry ∈ client.pendingAppends, entry.2.requestId = entry.1)
    (labels : List (WireLabel (Bool × List FrickFrame)))
    (hguard : Guarded (Wire.step (serveAppend replicaOf))
      (fun w label => DrawsFreshId replicaOf w label ∧ KeepsReplica replicaOf w label)
      { client, server := [] } labels) :
    ((run (Wire.step (serveAppend replicaOf)) { client, server := [] } labels).server.map
      fun event => event.2.requestId).Nodup := by
  have hstart : Consistent replicaOf { client, server := [] } := by
    refine ⟨hkeyed, ?_, ?_, nodup_nil⟩ <;> exact nofun
  have hend := run_invariant (I := Consistent replicaOf)
    (fun w label h hlabel => h.step label hlabel.1 hlabel.2) hstart hguard
  refine (Nodup.of_map _ hend.stored).map_on fun event hevent other hother heq => ?_
  have htrace := hend.apart _ (mem_traces.mpr (.inr ⟨event, hevent, rfl⟩)) _
    (mem_traces.mpr (.inr ⟨other, hother, rfl⟩)) heq
  exact inj_on_of_nodup_map hend.stored hevent hother htrace

def adaAgain : FrickSession := ⟨"token-2", some "acme", "ada", "device-ada", "replica-2"⟩

def sampleReplica (token : Option String) : String :=
  if token = some "token-ada" then "replica-ada" else "replica-2"

/-- Ada appends an event; it is stored, but the connection is gone before the answer arrives. She
goes on under a session, and the event is sent again. -/
def appendThenReconnect (session : FrickSession) : List (WireLabel (Bool × List FrickFrame)) :=
  [.event .connect, .event (.opened 0),
    .event (.append ⟨"r1", "MessageStream", "conv-1", "MessageSent", .nil⟩),
    .serve 1 (false, [.ack "r1" none none]), .event (.closed 0),
    .event (.setSession (some session)), .event .connect, .event (.opened 1),
    .serve 2 (false, [.ack "r1" none none])]

/-- Under the session that she had, the server recognises it. -/
theorem append_recognised :
    ((run (Wire.step (serveAppend sampleReplica)) { client := adaClient, server := [] }
      (appendThenReconnect (acmeSession "ada"))).server.map
        fun event => event.2.requestId).Nodup := by
  refine append_at_most_once sampleReplica adaClient nofun _
    ⟨⟨trivial, trivial⟩, ⟨trivial, trivial⟩, ⟨?_, trivial⟩, ⟨trivial, trivial⟩, ⟨trivial, trivial⟩,
      ⟨trivial, fun _ => .inl rfl⟩, ⟨trivial, trivial⟩, ⟨trivial, trivial⟩, ⟨trivial, trivial⟩,
      trivial⟩
  show ∀ trace ∈ traces sampleReplica _, trace.2 ≠ "r1"
  decide +kernel

/-- Under her next session it does not. -/
theorem append_stored_twice :
    sessionScope adaClient.session = sessionScope (some adaAgain) ∧
      (run (Wire.step (serveAppend sampleReplica)) { client := adaClient, server := [] }
        (appendThenReconnect adaAgain)).server.map (fun event => event.2.requestId) =
          ["r1", "r1"] := by
  decide +kernel

/-! ## Upserts -/

/-- The objects of a server, and the request ids of the upserts that it has applied and of those
that it has answered with a conflict. -/
structure UpsertServer (β : Type) where
  db : ObjectTable β
  written : List String := []
  conflicted : List String := []

section Upserts

variable {β : Type} (store : ObjectStore β) (tenantId appId : String)

/-- A `Nack` of `handle_object_upsert`, without its details. -/
def upsertNack (code : FrickErrorCode) (message requestId : String) : FrickFrame :=
  .nack ⟨code, message, requestId, false, none, none, none⟩

/-- `handle_object_upsert` for a type with version preconditions; `choice` has the time, and what
others do to the objects before. -/
def serveUpsert (server : UpsertServer β) (choice : Int × (ObjectTable β → ObjectTable β))
    (_ : Option String) : ClientFrame → UpsertServer β × List FrickFrame
  | .objectUpsert upsert =>
    match store.upsertWithPolicy (choice.2 server.db) appId tenantId upsert.objectType
        upsert.objectId upsert.value upsert.expectedVersion .versionPrecondition choice.1 with
    | .ok (db, result) =>
      ({ server with db, written := server.written ++ [upsert.requestId] },
        [.ack upsert.requestId none (some result.nextVersion)])
    | .error (.objectVersionConflict _ _ _ _ _) =>
      ({ server with
          db := choice.2 server.db
          conflicted := server.conflicted ++ [upsert.requestId] },
        [upsertNack .storageConflict "Object version conflict" upsert.requestId])
    | .error _ =>
      ({ server with db := choice.2 server.db },
        [upsertNack .syncProtocolError "Object upsert failed" upsert.requestId])
  | _ => (server, [])

/-- No upsert is taken that has been applied, or answered with a conflict, before. -/
def TakenOnce (w : Wire (UpsertServer β)) :
    WireLabel (Int × (ObjectTable β → ObjectTable β)) → Prop
  | .serve n _ => ∀ token upsert, w.uplink[n]? = some (token, .objectUpsert upsert) →
      upsert.requestId ∉ w.server.written ∧ upsert.requestId ∉ w.server.conflicted
  | _ => True

/-- What the client is told of a conflict, or will be, was not written. -/
structure Truthful (w : Wire (UpsertServer β)) : Prop where
  answered : ∀ error, .nack error ∈ w.downlink → error.code = .storageConflict →
    error.requestId ∈ w.server.conflicted
  settled : ∀ requestId, (requestId, .conflict) ∈ w.settled → requestId ∈ w.server.conflicted
  apart : ∀ requestId ∈ w.server.conflicted, requestId ∉ w.server.written

variable {store tenantId appId} {w : Wire (UpsertServer β)}

lemma nack_of_settledBy {client : ClientRuntime} {answer : FrickFrame} {requestId : String}
    (h : settledBy client answer = some (requestId, .conflict)) :
    ∃ error, answer = .nack error ∧ error.code = .storageConflict ∧
      error.requestId = requestId := by
  cases answer with
  | nack error =>
    simp only [settledBy, onNack] at h
    split_ifs at h with hcall hpend hcode
    · cases h
    · exact ⟨error, rfl, hcode, congrArg Prod.fst (Option.some.inj h)⟩
    · cases h
    · cases h
  | ack =>
    simp only [settledBy, onAck] at h
    split_ifs at h <;> cases h
  | _ => cases h

lemma Truthful.serve (h : Truthful w) {server : UpsertServer β} {answers : List FrickFrame}
    (hgrows : ∀ requestId ∈ w.server.conflicted, requestId ∈ server.conflicted)
    (hanswers : ∀ error, .nack error ∈ answers → error.code = .storageConflict →
      error.requestId ∈ server.conflicted)
    (hapart : ∀ requestId ∈ server.conflicted, requestId ∉ server.written)
    (uplink : List (Option String × ClientFrame)) :
    Truthful { w with server, uplink, downlink := w.downlink ++ answers } where
  answered error hmem hcode := by
    rcases mem_append.mp hmem with hpre | hnew
    · exact hgrows _ (h.answered error hpre hcode)
    · exact hanswers error hnew hcode
  settled requestId hmem := hgrows _ (h.settled requestId hmem)
  apart := hapart

/-- **Step.** What was answered with a conflict stays unwritten. -/
lemma Truthful.step (h : Truthful w)
    (label : WireLabel (Int × (ObjectTable β → ObjectTable β))) (honce : TakenOnce w label) :
    Truthful (w.step (serveUpsert store tenantId appId) label) := by
  cases label with
  | event =>
    rw [Wire.step]
    split_ifs
    · exact h
    · exact ⟨h.answered, h.settled, h.apart⟩
  | lose => exact ⟨h.answered, h.settled, h.apart⟩
  | deliver n =>
    rw [Wire.step]
    cases hget : w.downlink[n]? with
    | none => exact h
    | some =>
      refine ⟨fun error hmem => h.answered error (mem_of_mem_eraseIdx hmem), ?_, h.apart⟩
      intro requestId hsett
      rcases mem_append.mp hsett with hpre | hnow
      · exact h.settled requestId hpre
      · obtain ⟨error, rfl, hcode, rfl⟩ := nack_of_settledBy (Option.mem_toList.mp hnow)
        exact h.answered error (mem_of_getElem? hget) hcode
  | serve n =>
    rw [Wire.step]
    cases hget : w.uplink[n]? with
    | none => exact h
    | some sent =>
      obtain ⟨token, _ | _ | _ | upsert⟩ := sent
      iterate 3 exact h.serve (fun _ => id) (fun _ hmem => absurd hmem not_mem_nil) h.apart _
      obtain ⟨hwritten, hconflicted⟩ := honce token upsert hget
      dsimp only [serveUpsert]
      split
      · apply h.serve
        · exact fun _ hmem => hmem
        · exact fun _ hmem => nomatch mem_singleton.mp hmem
        · intro requestId hmem
          rw [mem_append, mem_singleton, not_or]
          refine ⟨h.apart requestId hmem, ?_⟩
          rintro rfl
          exact hconflicted hmem
      · apply h.serve
        · exact fun _ => mem_append_left _
        · intro error hmem _
          obtain rfl := FrickFrame.nack.inj (mem_singleton.mp hmem)
          exact mem_append_right _ (mem_singleton.mpr rfl)
        · intro requestId hmem hpre
          rcases mem_append.mp hmem with hold | hnew
          · exact h.apart requestId hold hpre
          · obtain rfl := mem_singleton.mp hnew
            exact hwritten hpre
      · apply h.serve
        · exact fun _ hmem => hmem
        · intro error hmem hcode
          obtain rfl := FrickFrame.nack.inj (mem_singleton.mp hmem)
          cases hcode
        · exact h.apart

end Upserts

/-- An upsert whose promise is rejected with a conflict has written nothing, in any run in which no
upsert is taken a second time. -/
theorem conflict_not_written {β : Type} (store : ObjectStore β) (tenantId appId : String)
    (client : ClientRuntime) (db : ObjectTable β)
    (labels : List (WireLabel (Int × (ObjectTable β → ObjectTable β))))
    (hguard : Guarded (Wire.step (serveUpsert store tenantId appId)) TakenOnce
      { client, server := { db } } labels) (requestId : String)
    (hrejected : (requestId, .conflict) ∈ (run (Wire.step (serveUpsert store tenantId appId))
      { client, server := { db } } labels).settled) :
    requestId ∉ (run (Wire.step (serveUpsert store tenantId appId))
      { client, server := { db } } labels).server.written := by
  have hend := run_invariant (I := Truthful) (fun w label h honce => h.step label honce)
    ⟨fun _ h => absurd h not_mem_nil, fun _ h => absurd h not_mem_nil,
      fun _ h => absurd h not_mem_nil⟩ hguard
  exact hend.apart requestId (hend.settled requestId hrejected)

def memoStore : ObjectStore PackedRecord where
  codec := PackedCodec.plain _
  encryption := none
  schema := memoSchema
  schemaValid := validateSchema_distinctIds (by decide : validateSchema id memoSchema = .ok ())

def createMemo : List (WireLabel (Int × (ObjectTable PackedRecord → ObjectTable PackedRecord))) :=
  [.event .connect, .event (.opened 0),
    .event (.upsertObject ⟨"u1", "Memo", "m1", memo "m1" "for ada", none⟩)]

/-- The upsert is lost with its connection and sent again; somebody else was faster, and Ada is told
of a conflict. -/
theorem conflict_with_another :
    "u1" ∉ (run (Wire.step (serveUpsert memoStore "acme" "_default"))
      { client := adaClient, server := { db := Table.empty _ } } (createMemo ++
        [.lose 1, .event (.closed 0), .event .connect, .event (.opened 1),
          .serve 2 (0, (·.upsert ⟨"_default", "acme", "Memo", "m1", 1, ⟨1, "m1", []⟩, ""⟩)),
          .deliver 0])).server.written := by
  refine conflict_not_written memoStore "acme" "_default" adaClient _ _ ?_ "u1" (by decide +kernel)
  exact ⟨trivial, trivial, trivial, trivial, trivial, trivial, trivial,
    fun _ _ _ => ⟨nofun, nofun⟩, trivial, trivial⟩

/-- The memo is stored, but the connection is gone before the answer arrives; the upsert is sent
again, and Ada is told of a conflict with her own memo. -/
theorem conflict_with_own_write :
    let w := run (Wire.step (serveUpsert memoStore "acme" "_default"))
      { client := adaClient, server := { db := Table.empty _ } } (createMemo ++
        [.serve 1 (0, id), .event (.closed 0), .event .connect, .event (.opened 1),
          .serve 2 (0, id), .deliver 1])
    ("u1", .conflict) ∈ w.settled ∧ "u1" ∈ w.server.written := by
  decide +kernel

end Frick.Properties
