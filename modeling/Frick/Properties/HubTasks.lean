import Frick.Properties.ConnectionAccounting
import Frick.Server.HubSections

/-!
# What the task of a connection does

Any number of connections come, say `Hello` and go, and their tasks interleave at the lock sections
of the hub. `taskDiscipline` follows one task from section to section, with what it has found and
what it owes: the count of a tenant, or a push of the tenant set.
-/

namespace Frick.Properties

open Function Framework Server HubProgram Program Table Option

variable {ι : Type}

/-- One socket: who connects, and the `Hello`s it sends until it goes. -/
structure ConnectAttempt where
  principal : Option Principal
  bearer : Option String
  hellos : List (Protocol.HelloPayload × Except ServerError Principal)

abbrev HubWorld (ι : Type) := Workers SharedHub ι HubSection HubSection.Reply Empty Unit

def HubWorld.start (config : GatewayConfig) (clustered : Bool) (attempts : ι → ConnectAttempt) :
    HubWorld ι :=
  ⟨⟨.new, none⟩, fun i => runConnection config clustered (attempts i).principal
    (attempts i).bearer (attempts i).hellos⟩

/-- Where a task stands in the `Hello` that it handles. -/
inductive HelloStep where
  | idle
  /-- It has read the principal of its connection. -/
  | read (existing : Option Principal)
  /-- It has booked a slot, or had it already. -/
  | booked (principal : Principal)
  deriving DecidableEq

/-- What a task that has no connection yet has found room for. -/
inductive Admission where
  | unchecked
  /-- There was room for a connection. -/
  | counted
  /-- And for one of the principal with this key. -/
  | cleared (key : String)
  deriving DecidableEq

/-- The checks of `run_connection` have been passed. -/
def Admission.admits : Option Principal → Admission → Bool
  | none, .counted => true
  | some p, .cleared key => p.connectionKey = key
  | _, _ => false

/-- Where a task stands. -/
inductive TaskStage where
  | away (seen : Admission)
  | here (id : Nat) (step : HelloStep)
  /-- The principal is attached, its tenant not yet counted. -/
  | owing (id : Nat) (transitions : List (String × Int))
  /-- The tenant set is to be read, by a task that has its connection or has just left. -/
  | pushing (own : Option Nat)
  /-- The tenant set was read and is to be handed over. -/
  | handing (own : Option Nat) (tenants : String → Bool)

namespace TaskStage

/-- A task between two of its calls, with its connection or without. -/
def resting : Option Nat → TaskStage
  | none => .away .unchecked
  | some id => .here id .idle

/-- After a section that may have made a tenant come or go. -/
def after (own : Option Nat) (push : Bool) : TaskStage :=
  if push then .pushing own else resting own

lemma resting_cases (own : Option Nat) :
    resting own = .away .unchecked ∨ ∃ id, resting own = .here id .idle := by
  cases own with
  | none => exact .inl rfl
  | some id => exact .inr ⟨id, rfl⟩

/-- After the section that attaches, which hands out the tenant transitions. -/
def attached (id : Nat) (transitions : List (String × Int)) : TaskStage :=
  if transitions.isEmpty then .here id .idle else .owing id transitions

/-- The step of a task that has this connection and owes nothing. -/
def helloStep (id : Nat) : TaskStage → Option HelloStep
  | .here own step => if own = id then some step else none
  | _ => none

/-- The task has its connection and owes nothing. -/
def settled : TaskStage → Bool
  | .here _ _ => true
  | _ => false

end TaskStage

def HelloStep.admits (principal : Principal) : HelloStep → Bool
  | .read existing => existing.all fun e => samePrincipal e principal
  | _ => false

open TaskStage Classical in
/-- What each stage allows, on a node with a bus or without. -/
noncomputable def taskDiscipline (config : GatewayConfig) (clustered : Bool) (stage : TaskStage) :
    (o : HubSection) → o.Reply → Option TaskStage
  | .connectionCount, active =>
    if stage = .away .unchecked then
      some (.away (if config.maxWebSocketConnections ≤ active then .unchecked else .counted))
    else none
  | .principalCount key, current =>
    if stage = .away .counted then
      some (.away (if config.maxConnectionsPerPrincipal ≤ (current : Int) then .unchecked
        else .cleared key))
    else none
  | .register principal _, reply =>
    match stage with
    | .away seen =>
      if seen.admits principal then some (after (some reply.1) (clustered && reply.2)) else none
    | _ => none
  | .connectionPrincipal id, existing => (stage.helloStep id).map fun _ => .here id (.read existing)
  | .reserveHelloPrincipal id principal, booked =>
    (stage.helloStep id).bind fun step =>
      if step.admits principal then
        some (.here id (if booked then .booked principal else .idle))
      else none
  | .attach id authed _, transitions =>
    (stage.helloStep id).bind fun step =>
      if authed.all fun found => step = .booked found.1 then
        some (attached id transitions)
      else none
  | .applyTenantTransitions transitions, moved =>
    match stage with
    | .owing id owed =>
      if transitions = owed then some (after (some id) (clustered && moved)) else none
    | _ => none
  | .unregister id, moved => (stage.helloStep id).map fun _ => after none (clustered && moved)
  | .tenants, tenants =>
    match stage with
    | .pushing own => some (.handing own tenants)
    | _ => none
  | .setSubscribedTenants tenants, _ =>
    match stage with
    | .handing own seen => if tenants = seen then some (resting own) else none
    | _ => none
  | _, _ => if stage.settled then some stage else none

section Tasks

variable {α β : Type} {stage : TaskStage} {id : Nat} {step : HelloStep}

@[simp] lemma helloStep_here : (TaskStage.here id step).helloStep id = some step := if_pos rfl

lemma eq_here_of_helloStep (h : stage.helloStep id = some step) : stage = .here id step := by
  cases stage with
  | here =>
    rw [TaskStage.helloStep] at h
    split_ifs at h with hid
    rw [hid, some.inj h]
  | _ => cases h

/-- What the discipline allows, with the stage before and after each section. -/
def MovedBy (config : GatewayConfig) (clustered : Bool) (stage stage' : TaskStage) :
    (o : HubSection) → o.Reply → Prop
  | .connectionCount, active => stage = .away .unchecked ∧
    stage' = .away (if config.maxWebSocketConnections ≤ active then .unchecked else .counted)
  | .principalCount key, current => stage = .away .counted ∧
    stage' = .away (if config.maxConnectionsPerPrincipal ≤ (current : Int) then .unchecked
      else .cleared key)
  | .register principal _, reply => ∃ seen, stage = .away seen ∧ seen.admits principal = true ∧
    stage' = .after (some reply.1) (clustered && reply.2)
  | .connectionPrincipal id, existing =>
    ∃ step, stage = .here id step ∧ stage' = .here id (.read existing)
  | .reserveHelloPrincipal id p, booked =>
    ∃ existing, stage = .here id (.read existing) ∧ (∀ e ∈ existing, samePrincipal e p = true) ∧
      stage' = .here id (if booked then .booked p else .idle)
  | .attach id authed _, transitions =>
    ∃ step, stage = .here id step ∧ (∀ found ∈ authed, step = .booked found.1) ∧
      stage' = .attached id transitions
  | .applyTenantTransitions transitions, moved =>
    ∃ id, stage = .owing id transitions ∧ stage' = .after (some id) (clustered && moved)
  | .unregister id, moved =>
    ∃ step, stage = .here id step ∧ stage' = .after none (clustered && moved)
  | .tenants, tenants => ∃ own, stage = .pushing own ∧ stage' = .handing own tenants
  | .setSubscribedTenants tenants, _ =>
    ∃ own, stage = .handing own tenants ∧ stage' = .resting own
  | _, _ => stage.settled = true ∧ stage' = stage

lemma movedBy_of_taskDiscipline {config : GatewayConfig} {clustered : Bool} {stage' : TaskStage}
    {o : HubSection} {reply : o.Reply}
    (h : taskDiscipline config clustered stage o reply = some stage') :
    MovedBy config clustered stage stage' o reply := by
  cases o with
  | register =>
    cases stage with
    | away seen =>
      obtain ⟨hadm, hnext⟩ := ite_none_right_eq_some.mp h
      exact ⟨seen, rfl, hadm, (some.inj hnext).symm⟩
    | _ => cases h
  | connectionPrincipal id | unregister id =>
    obtain ⟨step, hstep, hnext⟩ := map_eq_some_iff.mp h
    exact ⟨step, eq_here_of_helloStep hstep, hnext.symm⟩
  | reserveHelloPrincipal =>
    obtain ⟨step, hstep, hif⟩ := bind_eq_some_iff.mp h
    obtain ⟨hadm, hnext⟩ := ite_none_right_eq_some.mp hif
    cases step with
    | read old =>
      exact ⟨old, eq_here_of_helloStep hstep, (all_eq_true _ _).mp hadm, (some.inj hnext).symm⟩
    | _ => cases hadm
  | attach =>
    obtain ⟨step, hstep, hif⟩ := bind_eq_some_iff.mp h
    obtain ⟨hbook, hnext⟩ := ite_none_right_eq_some.mp hif
    refine ⟨step, eq_here_of_helloStep hstep, fun found hfound => ?_, (some.inj hnext).symm⟩
    exact of_decide_eq_true ((all_eq_true _ _).mp hbook found hfound)
  | applyTenantTransitions =>
    cases stage with
    | owing id =>
      obtain ⟨rfl, hnext⟩ := ite_none_right_eq_some.mp h
      exact ⟨id, rfl, (some.inj hnext).symm⟩
    | _ => cases h
  | tenants =>
    cases stage with
    | pushing own => exact ⟨own, rfl, (some.inj h).symm⟩
    | _ => cases h
  | setSubscribedTenants =>
    cases stage with
    | handing own =>
      obtain ⟨rfl, hnext⟩ := ite_none_right_eq_some.mp h
      exact ⟨own, rfl, (some.inj hnext).symm⟩
    | _ => cases h
  | _ =>
    obtain ⟨hsett, hnext⟩ := ite_none_right_eq_some.mp h
    exact ⟨hsett, (some.inj hnext).symm⟩

variable (config : GatewayConfig) (clustered : Bool)

/-- The program neither comes, goes nor moves in a `Hello`. -/
def StaysPut (stage : TaskStage) (prog : HubProgram α) : Prop :=
  Program.Keeps (taskDiscipline config clustered) stage prog fun _ p => p = stage

/-- The task still has its connection, and owes nothing. -/
def StillHere (id : Nat) (stage : TaskStage) : Prop := ∃ step, stage = .here id step

variable {config clustered}

lemma StaysPut.bind {prog : HubProgram α} {f : α → HubProgram β}
    (h : StaysPut config clustered stage prog) (hf : ∀ a, StaysPut config clustered stage (f a)) :
    StaysPut config clustered stage (prog >>= f) :=
  keeps_bind_stay h hf

lemma StaysPut.stillHere {prog : HubProgram α}
    (h : StaysPut config clustered (.here id step) prog) :
    Program.Keeps (taskDiscipline config clustered) (.here id step) prog
      fun _ p => StillHere id p :=
  h.mono fun _ _ hp => ⟨step, hp⟩

variable (config clustered)

lemma keeps_pushIf (own : Option Nat) (transitioned : Bool) :
    Program.Keeps (taskDiscipline config clustered) (.after own (clustered && transitioned))
      (pushIf clustered transitioned) fun _ p => p = .resting own := by
  cases transitioned with
  | false =>
    rw [Bool.and_false]
    rfl
  | true =>
    cases clustered with
    | false => rfl
    | true =>
      intro tenants
      exact ⟨.handing own tenants, rfl, fun _ => ⟨.resting own, if_pos rfl, rfl⟩⟩

lemma staysPut_sendFrame (frame : Protocol.FrickFrame) :
    StaysPut config clustered (.here id step) (sendFrame id frame) := fun _ => ⟨_, rfl, rfl⟩

lemma staysPut_sendClose (code : Nat) (reason : String) :
    StaysPut config clustered (.here id step) (sendClose id code reason) :=
  fun _ => ⟨_, rfl, rfl⟩

lemma staysPut_moveTask (task : FrameTask) :
    StaysPut config clustered (.here id step) (moveTask id task) := fun _ => ⟨_, rfl, rfl⟩

lemma staysPut_sendHelloAuthNack (code : Protocol.FrickErrorCode) (msg reason : String) :
    StaysPut config clustered (.here id step) (sendHelloAuthNack id code msg reason) :=
  (staysPut_sendFrame _ _ _).bind fun _ => (staysPut_sendClose _ _ _ _).bind fun _ =>
    (staysPut_moveTask _ _ _).bind fun _ => rfl

lemma keeps_applyTenantTransitions (moves : List (String × Int)) :
    Program.Keeps (taskDiscipline config clustered) (.attached id moves)
      (applyTenantTransitions clustered moves) fun _ p => p = .here id .idle := by
  rw [applyTenantTransitions, TaskStage.attached]
  split_ifs with hempty
  · rfl
  · apply keeps_bind
    intro moved
    exact ⟨.after (some id) (clustered && moved), if_pos rfl,
      keeps_pushIf config clustered (some id) moved⟩

lemma keeps_connect (principal : Option Principal) (bearer : Option String) :
    Program.Keeps (taskDiscipline config clustered) (.away .unchecked)
      (connect config clustered principal bearer)
      fun reg p => p = .resting reg := by
  have hregister (seen : Admission) (hseen : seen.admits principal) :
      Program.Keeps (taskDiscipline config clustered) (.away seen)
        (register principal bearer >>= fun reg =>
          pushIf clustered reg.2 >>= fun _ => pure (some reg.1))
        fun reg p => p = .resting reg := by
    intro reg
    refine ⟨.after (some reg.1) (clustered && reg.2), if_pos hseen, ?_⟩
    show Program.Keeps _ _ (pushIf clustered reg.2 >>= _) _
    apply keeps_bind
    refine (keeps_pushIf config clustered (some reg.1) reg.2).mono ?_
    rintro - _ rfl
    rfl
  intro (active : Nat)
  refine ⟨_, by rw [taskDiscipline, if_pos rfl], ?_⟩
  show Program.Keeps _ _ (if _ then _ else _) _
  split_ifs with hfull
  · rfl
  cases principal with
  | none => exact hregister .counted rfl
  | some p =>
    intro (current : Nat)
    refine ⟨_, by rw [taskDiscipline, if_pos rfl], ?_⟩
    show Program.Keeps _ _ (if decide _ then _ else _) _
    simp only [decide_eq_true_eq]
    split_ifs with hcap
    · rfl
    · exact hregister (.cleared p.connectionKey) (decide_eq_true rfl)

lemma keeps_completeHello (pay : Protocol.HelloPayload) (authed : Option (Principal × String))
    (h : ∀ found ∈ authed, step = .booked found.1) :
    Program.Keeps (taskDiscipline config clustered) (.here id step)
      (completeHello config clustered id pay authed) fun _ p => StillHere id p := by
  unfold completeHello
  cases config.negotiate pay with
  | error =>
    apply keeps_bind_stay (staysPut_sendFrame config clustered _)
    intro _
    apply keeps_bind_stay (staysPut_moveTask config clustered _)
    intro _
    exact ⟨step, rfl⟩
  | ok =>
    have hall : (authed.all fun found => step = .booked found.1) := by
      cases authed with
      | none => rfl
      | some found => exact decide_eq_true (h found rfl)
    apply keeps_bind
    intro moves
    refine ⟨.attached id moves, ?_, ?_⟩
    · rw [taskDiscipline, helloStep_here, bind_some, if_pos hall]
    apply keeps_bind
    refine (keeps_applyTenantTransitions config clustered moves).mono ?_
    rintro - _ rfl
    apply keeps_bind_stay (staysPut_sendFrame config clustered _)
    intro _
    apply keeps_bind_stay (staysPut_sendFrame config clustered _)
    intro _
    exact ⟨.idle, rfl⟩

lemma admits_of_not_any {old : Option Principal} {p : Principal}
    (h : ¬(old.any fun e => !samePrincipal e p)) :
    (HelloStep.read old).admits p := by
  cases old with
  | none => rfl
  | some e =>
    show samePrincipal e p
    simpa using h

lemma keeps_resumeHello (pay : Protocol.HelloPayload) (tok : String) (principal : Principal) :
    Program.Keeps (taskDiscipline config clustered) (.here id step)
      (resumeHello config clustered id pay tok principal)
      fun _ p => StillHere id p := by
  apply keeps_bind
  intro old
  refine ⟨.here id (.read old), by rw [taskDiscipline, helloStep_here, map_some], ?_⟩
  by_cases hoth : (old.any fun e => !samePrincipal e principal)
  · show Program.Keeps _ _ (if (old.any fun e => !samePrincipal e principal) then _ else _) _
    rw [if_pos hoth]
    exact (staysPut_sendHelloAuthNack config clustered _ _ _).stillHere
  show Program.Keeps _ _ (if (old.any fun e => !samePrincipal e principal) then _ else _) _
  rw [if_neg hoth]
  apply keeps_bind
  intro booked
  refine ⟨.here id (if booked then .booked principal else .idle), ?_, ?_⟩
  · rw [taskDiscipline, helloStep_here, bind_some, if_pos (admits_of_not_any hoth)]
  cases booked with
  | true =>
    refine keeps_completeHello config clustered pay _ ?_
    rintro found ⟨⟩
    rfl
  | false =>
    apply keeps_bind_stay (staysPut_sendFrame config clustered _)
    intro _
    apply keeps_bind_stay (staysPut_sendClose config clustered _ _)
    intro _
    apply keeps_bind_stay (staysPut_moveTask config clustered _)
    intro _
    exact ⟨.idle, rfl⟩

lemma keeps_handleHello (pay : Protocol.HelloPayload) (sess : Except ServerError Principal) :
    Program.Keeps (taskDiscipline config clustered) (.here id step)
      (handleHello config clustered id pay sess) fun _ p => StillHere id p := by
  unfold handleHello
  cases pay.sessionToken with
  | none => exact keeps_completeHello config clustered pay none nofun
  | some tok =>
    cases sess with
    | error => exact (staysPut_sendHelloAuthNack config clustered _ _ _).stillHere
    | ok principal => exact keeps_resumeHello config clustered pay tok principal

lemma keeps_inboundLoop (hellos : List (Protocol.HelloPayload × Except ServerError Principal)) :
    Program.Keeps (taskDiscipline config clustered) (.here id step)
      (inboundLoop config clustered id hellos) fun _ p => StillHere id p := by
  induction hellos generalizing step with
  | nil => exact ⟨step, rfl⟩
  | cons hello _ ih =>
    apply keeps_bind
    refine (keeps_handleHello config clustered hello.1 hello.2).mono ?_
    rintro closing _ ⟨step', rfl⟩
    cases closing with
    | true => exact ⟨step', rfl⟩
    | false => exact ih

/-- **Every task keeps the discipline**, and ends without a connection and with nothing owed. -/
theorem keeps_runConnection (attempt : ConnectAttempt) :
    Program.Keeps (taskDiscipline config clustered) (.away .unchecked)
      (runConnection config clustered attempt.principal attempt.bearer attempt.hellos)
      fun _ p => p = .away .unchecked := by
  apply keeps_bind
  refine (keeps_connect config clustered attempt.principal attempt.bearer).mono ?_
  rintro (_ | id) _ rfl
  · rfl
  apply keeps_bind
  refine (keeps_inboundLoop config clustered attempt.hellos).mono ?_
  rintro _ _ ⟨step', rfl⟩
  apply keeps_bind
  intro moved
  refine ⟨.after none (clustered && moved), ?_, keeps_pushIf config clustered none moved⟩
  rw [taskDiscipline, helloStep_here, map_some]

/-- A task that is anywhere on its way has a section before it that the discipline allows. -/
lemma exists_pending_of_follows {config : GatewayConfig} {clustered : Bool} {w : HubWorld ι}
    {place : ι → TaskStage} {i : ι}
    (h : Workers.Follows (taskDiscipline config clustered) (fun _ p => p = .away .unchecked) place
      w)
    (hi : place i ≠ .away .unchecked) :
    ∃ o stage', w.pending i = some o ∧
      MovedBy config clustered (place i) stage' o (HubSection.handle config w.store o).2 := by
  obtain ⟨o, stage', hpend, hnext⟩ :=
    h.exists_pending (fun _ => hi) fun o => (HubSection.handle config w.store o).2
  exact ⟨o, stage', hpend, movedBy_of_taskDiscipline hnext⟩

end Tasks

/-! ## Finding a connection -/

section Find

open GatewayHub

variable {hub : GatewayHub} {id k : Nat}

variable {f : Connection → Connection} {c : Connection} {hf : ∀ c, (f c).id = c.id}

lemma find?_modify_of_ne (h : k ≠ id) :
    (hub.modify id f hf).connections.find? k = hub.connections.find? k := by
  show (hub.connections.updateWhere _ f hf).find? k = _
  rw [find?_updateWhere hf]
  cases hfind : hub.connections.find? k with
  | none => rfl
  | some c =>
    have hid : c.id ≠ id := by rwa [(find?_eq_some_iff.mp hfind).2]
    rw [map_some, if_neg (by simpa using hid)]

lemma find?_modify_self (h : hub.connections.find? id = some c) :
    (hub.modify id f hf).connections.find? id = some (f c) := by
  show (hub.connections.updateWhere _ f hf).find? id = _
  rw [find?_updateWhere hf, h, map_some, if_pos (decide_eq_true (find?_eq_some_iff.mp h).2)]

lemma find?_modify (hprin : ∀ c, (f c).principal = c.principal)
    (h : hub.connections.find? k = some c) :
    ∃ c', (hub.modify id f hf).connections.find? k = some c' ∧ c'.id = c.id ∧
      c'.principal = c.principal := by
  by_cases hk : k = id
  · subst hk
    exact ⟨f c, find?_modify_self h, hf c, hprin c⟩
  · exact ⟨c, (find?_modify_of_ne hk).trans h, rfl, rfl⟩

lemma find?_unregister_of_ne (h : k ≠ id) :
    (hub.unregister id).connections.find? k = hub.connections.find? k := by
  rw [connections_unregister]
  refine find?_congr fun c hc => ?_
  rw [mem_deleteWhere, hc]
  exact and_iff_left (decide_eq_false h)

end Find

/-! ## Tasks and their connections -/

namespace TaskStage

def own : TaskStage → Option Nat
  | .away _ => none
  | .here id _ => some id
  | .owing id _ => some id
  | .pushing own => own
  | .handing own _ => own

@[simp] lemma own_resting (id : Option Nat) : (resting id).own = id := by
  cases id with
  | none | some => rfl

@[simp] lemma own_after (id : Option Nat) (push : Bool) : (after id push).own = id := by
  cases push with
  | false => exact own_resting id
  | true => rfl

end TaskStage

/-- No two tasks have one connection, and what each takes to be so of its own is so. -/
structure Placed (Agrees : Connection → TaskStage → Prop) (place : ι → TaskStage)
    (hub : GatewayHub) : Prop where
  one : ∀ {i j id}, (place i).own = some id → (place j).own = some id → i = j
  live : ∀ {i id}, (place i).own = some id →
    ∃ c, hub.connections.find? id = some c ∧ Agrees c (place i)

namespace Placed

variable {Agrees Agrees' : Connection → TaskStage → Prop} {place : ι → TaskStage}
  {hub hub' : GatewayHub} {i : ι} {stage : TaskStage}

lemma start : Placed Agrees (fun _ : ι => .away .unchecked) hub := ⟨nofun, nofun⟩

variable (h : Placed Agrees place hub)
include h

lemma live_of_eq {pre : TaskStage} {id : Nat} (hi : place i = pre)
    (hown : pre.own = some id) :
    (place i).own = some id ∧ ∃ c, hub.connections.find? id = some c ∧ c.id = id ∧
      Agrees c pre := by
  subst hi
  obtain ⟨c, hc, hagr⟩ := h.live hown
  exact ⟨hown, c, hc, (find?_eq_some_iff.mp hc).2, hagr⟩

lemma own_ne_nextId (hids : IdsBelow hub) : (place i).own ≠ some hub.nextId := by
  intro hi
  obtain ⟨c, hc, -⟩ := h.live hi
  obtain ⟨hmem, hid⟩ := find?_eq_some_iff.mp hc
  exact (hids c hmem).ne hid

lemma mono
    (hfind : ∀ id c, hub.connections.find? id = some c →
      ∃ c', hub'.connections.find? id = some c' ∧ c'.id = c.id ∧ c'.principal = c.principal)
    (hagr : ∀ c c' stage, c'.id = c.id → c'.principal = c.principal → Agrees c stage →
      Agrees c' stage) : Placed Agrees place hub' where
  one := h.one
  live hj := by
    obtain ⟨c, hc, hagree⟩ := h.live hj
    obtain ⟨c', hc', hid, hprin⟩ := hfind _ c hc
    exact ⟨c', hc', hagr c c' _ hid hprin hagree⟩

variable [DecidableEq ι]

lemma update (id : Nat) (howner : ∀ {j}, (place j).own = some id → j = i)
    (hfind : ∀ k, k ≠ id → hub'.connections.find? k = hub.connections.find? k)
    (hagr : ∀ c stage, c.id ≠ id → Agrees c stage → Agrees' c stage)
    (hself : ∀ {k}, stage.own = some k →
      k = id ∧ ∃ c, hub'.connections.find? k = some c ∧ Agrees' c stage) :
    Placed Agrees' (Function.update place i stage) hub' := by
  constructor
  · intro j k own hj hk
    rw [update_apply] at hj hk
    split_ifs at hj hk with hji hki hki
    · rw [hji, hki]
    · exact hji.trans (howner ((hself hj).1 ▸ hk)).symm
    · exact (howner ((hself hk).1 ▸ hj)).trans hki.symm
    · exact h.one hj hk
  · intro j own hj
    by_cases hji : j = i
    · rw [hji, update_self] at hj ⊢
      exact (hself hj).2
    rw [update_of_ne hji] at hj ⊢
    have hne : own ≠ id := by
      rintro rfl
      exact hji (howner hj)
    obtain ⟨c, hc, hagree⟩ := h.live hj
    refine ⟨c, (hfind own hne).trans hc, hagr c _ ?_ hagree⟩
    rwa [(find?_eq_some_iff.mp hc).2]

lemma move {pre : TaskStage} (hi : place i = pre)
    (hagr : ∀ c, hub.connections.find? c.id = some c → pre.own = some c.id →
      Agrees c pre → Agrees c stage)
    (hown : ∀ k, stage.own = some k → pre.own = some k) :
    Placed Agrees (Function.update place i stage) hub := by
  subst hi
  have hkeep : ∀ {j id}, (Function.update place i stage j).own = some id →
      (place j).own = some id := by
    intro j id hj
    rw [update_apply] at hj
    split_ifs at hj with hji
    · rw [hji]
      exact hown id hj
    · exact hj
  refine ⟨fun hj hk => h.one (hkeep hj) (hkeep hk), ?_⟩
  intro j id hj
  obtain ⟨c, hc, hagree⟩ := h.live (hkeep hj)
  refine ⟨c, hc, ?_⟩
  obtain rfl : c.id = id := (find?_eq_some_iff.mp hc).2
  by_cases hji : j = i
  · rw [hji, update_self] at hj ⊢
    rw [hji] at hagree
    exact hagr c hc (hown c.id hj) hagree
  · rwa [update_of_ne hji]

end Placed

end Frick.Properties
