import Frick.Framework.Run
import Frick.Framework.Tally
import Frick.Server.Negotiation

/-!
# The hub's books on connections

The hub keeps two counts beside its connections: how many a principal has, which the cap is checked
against, and how many a tenant has. Connections come and go, and say `Hello`, in any order.

`reserve_hello_principal` books the slot of a principal that a `Hello` brings before the rest of the
`Hello` is looked at. If the negotiation then refuses it, the connection keeps living without a
principal, so no one ever gives the slot back.
-/

namespace Frick.Properties

open Framework Protocol Server Server.GatewayHub Table Option

inductive HubCall where
  | register (principal : Option Principal) (bearer : Option String)
  | hello (id : Nat) (payload : HelloPayload) (session : Except ServerError Principal)
  | unregister (id : Nat)

/-- The hub after a call. -/
def HubCall.step (config : GatewayConfig) (hub : GatewayHub) : HubCall → GatewayHub
  | .register principal bearer => hub.register principal bearer
  | .hello id payload session => hub.handleHello config id payload session
  | .unregister id => hub.unregister id

def countsFor (g : Principal → String) (connection : Connection) : Option String :=
  connection.principal.map g

/-- For every value of the attribute, the count is the number of connections whose principal has
it. -/
def Counted (g : Principal → String) (counts : String → Nat) (connections : ConnectionTable) :
    Prop :=
  ∀ a, counts a = connections.tally (countsFor g) a

/-- The books are right: for every connection key and for every tenant. -/
@[mk_iff]
structure Balanced (hub : GatewayHub) : Prop where
  perPrincipal : Counted Principal.connectionKey hub.perPrincipal hub.connections
  tenants : Counted Principal.tenantId hub.tenantSubscriberCounts hub.connections

/-- A `Hello` that books a slot: its token is good for a principal below its cap, and the connection
has no principal yet. -/
def BooksSlot (config : GatewayConfig) (hub : GatewayHub) (id : Nat) (payload : HelloPayload)
    (session : Except ServerError Principal) : Prop :=
  payload.sessionToken.isSome = true ∧
    (∃ connection ∈ hub.connections.find? id, connection.principal = none) ∧
    ∃ principal, session = .ok principal ∧
      (hub.perPrincipal principal.connectionKey : Int) < config.maxConnectionsPerPrincipal

/-- A `Hello` that books a slot comes from a client that fits a schema of the server. -/
def SlotIsUsed (config : GatewayConfig) (registry : FrickAppRegistry)
    (read : Value → Option FrickClientCapabilities) (hub : GatewayHub) : HubCall → Prop
  | .hello id payload session =>
    BooksSlot config hub id payload session → Negotiable registry config.schema read payload
  | _ => True

/-! ## One count -/

section Counted

variable {g : Principal → String} {counts : String → Nat} {connections : ConnectionTable} {id : Nat}
  {c : Connection} {p : Principal}

lemma takePrincipalSlot_apply (counts : String → Nat) (a b : String) :
    takePrincipalSlot counts a b = counts b + if a = b then 1 else 0 := by
  simp only [takePrincipalSlot, eq_comm]
  split_ifs <;> rfl

lemma releasePrincipalSlot_apply (counts : String → Nat) (a b : String) :
    releasePrincipalSlot counts a b = counts b - if a = b then 1 else 0 := by
  simp only [releasePrincipalSlot, eq_comm]
  split_ifs <;> rfl

lemma bumpTenantCount_one (counts : String → Nat) (a : String) :
    bumpTenantCount counts a 1 = takePrincipalSlot counts a := by
  funext b
  rw [bumpTenantCount, takePrincipalSlot]
  split_ifs
  · omega
  · rfl

lemma bumpTenantCount_neg_one (counts : String → Nat) (a : String) :
    bumpTenantCount counts a (-1) = releasePrincipalSlot counts a := by
  funext b
  rw [bumpTenantCount, releasePrincipalSlot]
  split_ifs
  · omega
  · rfl

lemma has_of_principal_none (h : c.principal = none) (a : String) :
    has (countsFor g) c a = 0 :=
  has_of_none (by rw [countsFor, h]; rfl)

lemma has_of_principal_some (h : c.principal = some p) (a : String) :
    has (countsFor g) c a = if g p = a then 1 else 0 :=
  has_of_some (by rw [countsFor, h]; rfl)

section

variable (h : Counted g counts connections)
include h

lemma Counted.register_none (hc : c.principal = none)
    (hnew : ∀ d ∈ connections, d.id ≠ c.id) : Counted g counts (connections.upsert c) := by
  intro a
  rw [tally_upsert_of_fresh hnew, has_of_principal_none hc, Nat.add_zero, h a]

lemma Counted.register_some (hc : c.principal = some p) (hnew : ∀ d ∈ connections, d.id ≠ c.id) :
    Counted g (takePrincipalSlot counts (g p)) (connections.upsert c) := by
  intro a
  rw [tally_upsert_of_fresh hnew, has_of_principal_some hc, takePrincipalSlot_apply, h a]

lemma Counted.unregister_none (hfind : connections.find? id = some c) (hc : c.principal = none) :
    Counted g counts (connections.deleteWhere fun d => d.id = id) := by
  intro a
  rw [h a, ← tally_deleteWhere hfind, has_of_principal_none hc, Nat.add_zero]

lemma Counted.unregister_some (hfind : connections.find? id = some c) (hc : c.principal = some p) :
    Counted g (releasePrincipalSlot counts (g p)) (connections.deleteWhere fun d => d.id = id) := by
  intro a
  rw [releasePrincipalSlot_apply, h a, ← tally_deleteWhere hfind, has_of_principal_some hc]
  omega

end

variable {f : Connection → Connection} (hf : ∀ d, (f d).id = d.id)

variable (h : Counted g counts connections)
include h

lemma Counted.attach_some (hfind : connections.find? id = some c) (hc : c.principal = none)
    (hp : (f c).principal = some p) :
    Counted g (takePrincipalSlot counts (g p))
      (connections.updateWhere (fun d => d.id = id) f hf) := by
  intro a
  have htally : tally _ (countsFor g) a + _ = _ := tally_updateWhere hf hfind
  rw [has_of_principal_none hc, has_of_principal_some hp] at htally
  rw [takePrincipalSlot_apply, h a]
  omega

lemma Counted.attach_same (hfind : connections.find? id = some c)
    (hp : (f c).principal.map g = c.principal.map g) :
    Counted g counts (connections.updateWhere (fun d => d.id = id) f hf) := by
  intro a
  have htally : tally _ (countsFor g) a + _ = _ := tally_updateWhere hf hfind
  have hhas : has (countsFor g) (f c) a = has (countsFor g) c a := by
    rw [has, has, countsFor, countsFor, hp]
  rw [h a]
  omega

omit h in
lemma counted_updateWhere_iff {q : Connection → Bool} (hp : ∀ d, (f d).principal = d.principal) :
    Counted g counts (connections.updateWhere q f hf) ↔ Counted g counts connections := by
  apply forall_congr'
  intro a
  rw [tally_updateWhere_of_attr hf fun d => by rw [countsFor, countsFor, hp]]

lemma Counted.not_take (a : String) : ¬Counted g (takePrincipalSlot counts a) connections := by
  intro hbook
  have hcount := (hbook a).trans (h a).symm
  rw [takePrincipalSlot_apply, if_pos rfl] at hcount
  omega

end Counted

/-! ## Registration -/

variable {hub : GatewayHub} {config : GatewayConfig} {id : Nat} {connection : Connection}

/-- Ids are handed out in order. -/
def IdsBelow (hub : GatewayHub) : Prop := ∀ c ∈ hub.connections, c.id < hub.nextId

lemma balanced_register (h : Balanced hub) (hids : IdsBelow hub) (principal : Option Principal)
    (bearer : Option String) : Balanced (hub.register principal bearer) := by
  have hnew : ∀ c ∈ hub.connections, c.id ≠ (freshConnection hub.nextId principal bearer).id :=
    fun c hc => (hids c hc).ne
  cases principal with
  | none => exact ⟨h.perPrincipal.register_none rfl hnew, h.tenants.register_none rfl hnew⟩
  | some p =>
    refine ⟨h.perPrincipal.register_some rfl hnew, ?_⟩
    have htens := h.tenants.register_some (p := p) rfl hnew
    exact htens

lemma balanced_unregister (h : Balanced hub) (id : Nat) : Balanced (hub.unregister id) := by
  rw [unregister]
  cases hfind : hub.connections.find? id with
  | none => exact h
  | some c =>
    dsimp only
    cases hprin : c.principal with
    | none =>
      exact ⟨h.perPrincipal.unregister_none hfind hprin, h.tenants.unregister_none hfind hprin⟩
    | some =>
      refine ⟨h.perPrincipal.unregister_some hfind hprin, ?_⟩
      have htens := h.tenants.unregister_some hfind hprin
      rwa [← bumpTenantCount_neg_one] at htens

/-! ## Hello -/

lemma balanced_modify_iff {f : Connection → Connection} {hf : ∀ c, (f c).id = c.id}
    (h : ∀ c, (f c).principal = c.principal) : Balanced (hub.modify id f hf) ↔ Balanced hub := by
  rw [balanced_iff, balanced_iff]
  exact and_congr (counted_updateWhere_iff hf h) (counted_updateWhere_iff hf h)

lemma balanced_sendFrame_iff {frame : FrickFrame} :
    Balanced (hub.sendFrame id frame) ↔ Balanced hub := balanced_modify_iff fun _ => rfl

variable {reason : String} {payload : HelloPayload} {p existing : Principal}

lemma balanced_sendClose_iff {code : Nat} :
    Balanced (hub.sendClose id code reason) ↔ Balanced hub := balanced_modify_iff fun _ => rfl

lemma balanced_setTask_iff {task : FrameTask} :
    Balanced (hub.setTask id task) ↔ Balanced hub := balanced_modify_iff fun _ => rfl

lemma balanced_sendHelloAuthNack_iff {code : FrickErrorCode} {msg : String} :
    Balanced (hub.sendHelloAuthNack id code msg reason) ↔ Balanced hub := by
  rw [sendHelloAuthNack, balanced_setTask_iff, balanced_sendClose_iff, balanced_sendFrame_iff]

lemma balanced_completeHello_none_iff :
    Balanced (hub.completeHello config connection payload none) ↔ Balanced hub := by
  unfold completeHello
  cases config.negotiate payload with
  | error => exact balanced_setTask_iff.trans balanced_sendFrame_iff
  | ok =>
    refine balanced_sendFrame_iff.trans (balanced_sendFrame_iff.trans ?_)
    exact balanced_modify_iff fun _ => rfl

lemma balanced_completeHello_error_iff {authed : Option (Principal × String)}
    {env : FrickErrorEnvelope} (h : config.negotiate payload = .error env) :
    Balanced (hub.completeHello config connection payload authed) ↔ Balanced hub := by
  unfold completeHello
  rw [h]
  exact balanced_setTask_iff.trans balanced_sendFrame_iff

lemma balanced_completeHello_ok_iff {tok : String} {target : HelloTarget}
    (h : config.negotiate payload = .ok target) :
    Balanced (hub.completeHello config connection payload (some (p, tok))) ↔
      Balanced (({ hub with
        tenantSubscriberCounts := hub.helloTenantCounts connection.principal p } :
          GatewayHub).attach connection.id (some (p, tok)) target.appId) := by
  unfold completeHello
  rw [h]
  exact balanced_sendFrame_iff.trans balanced_sendFrame_iff

lemma keys_eq_of_samePrincipal {left right : Principal} (h : samePrincipal left right) :
    right.connectionKey = left.connectionKey ∧ right.tenantId = left.tenantId := by
  obtain ⟨huser, -, -, hten⟩ := of_decide_eq_true h
  rw [Principal.connectionKey, Principal.connectionKey, huser, hten]
  exact ⟨rfl, rfl⟩

lemma helloTenantCounts_some (h : existing.tenantId = p.tenantId) :
    hub.helloTenantCounts (some existing) p = hub.tenantSubscriberCounts :=
  if_pos h

section

variable (h : Balanced hub) (hfind : hub.connections.find? connection.id = some connection)
include h hfind

lemma balanced_resumeHello_some (hsome : connection.principal = some existing)
    (payload : HelloPayload) (tok : String) (p : Principal) :
    Balanced (hub.resumeHello config connection payload tok (.ok p)) := by
  unfold resumeHello
  dsimp only
  by_cases hsame : samePrincipal existing p
  · have hmatch : (connection.principal.any fun e => !samePrincipal e p) = false := by
      rw [hsome, any_some, hsame, Bool.not_true]
    obtain ⟨hkey, hten⟩ := keys_eq_of_samePrincipal hsame
    have hresv : hub.reserveHelloPrincipal config connection p = some hub := by
      rw [reserveHelloPrincipal, hsome, map_some, if_pos (congrArg some hkey.symm)]
    rw [hmatch, if_neg Bool.false_ne_true, hresv]
    cases hneg : config.negotiate payload with
    | error => exact (balanced_completeHello_error_iff hneg).mpr h
    | ok target =>
      rw [balanced_completeHello_ok_iff hneg, hsome, helloTenantCounts_some hten.symm]
      constructor
      · refine h.perPrincipal.attach_same (by intro d; rfl) hfind ?_
        rw [hsome]
        exact congrArg some hkey
      · refine h.tenants.attach_same (by intro d; rfl) hfind ?_
        rw [hsome]
        exact congrArg some hten
  · have hmismatch : (connection.principal.any fun e => !samePrincipal e p) := by
      rw [hsome, any_some, Bool.eq_false_of_not_eq_true hsame, Bool.not_false]
    rw [if_pos hmismatch]
    exact balanced_sendHelloAuthNack_iff.mpr h

lemma balanced_resumeHello_none_iff (hnone : connection.principal = none) (payload : HelloPayload)
    (tok : String) (p : Principal) :
    Balanced (hub.resumeHello config connection payload tok (.ok p)) ↔
      ((hub.perPrincipal p.connectionKey : Int) < config.maxConnectionsPerPrincipal →
        ∃ target, config.negotiate payload = .ok target) := by
  unfold resumeHello
  rw [hnone]
  dsimp only [any_none]
  rw [if_neg Bool.false_ne_true, reserveHelloPrincipal, hnone]
  dsimp only [map_none]
  rw [if_neg (some_ne_none _).symm]
  by_cases hcap : config.maxConnectionsPerPrincipal ≤ (hub.perPrincipal p.connectionKey : Int)
  · rw [if_pos hcap]
    refine iff_of_true ?_ fun hlt => absurd hlt (not_lt.mpr hcap)
    exact balanced_setTask_iff.mpr (balanced_sendClose_iff.mpr (balanced_sendFrame_iff.mpr h))
  rw [if_neg hcap, imp_iff_right (not_le.mp hcap)]
  cases hneg : config.negotiate payload with
  | error =>
    rw [balanced_completeHello_error_iff hneg]
    refine iff_of_false (fun hbook => ?_) ?_
    · exact h.perPrincipal.not_take p.connectionKey hbook.perPrincipal
    · rintro ⟨target, htgt⟩
      cases htgt
  | ok target =>
    rw [balanced_completeHello_ok_iff hneg, hnone]
    exact iff_of_true ⟨h.perPrincipal.attach_some (by intro d; rfl) hfind hnone rfl,
      h.tenants.attach_some (by intro d; rfl) hfind hnone rfl⟩ ⟨target, rfl⟩

end

/-- **Hello.** The books stay right unless a slot is booked and the `Hello` is refused. -/
lemma balanced_handleHello_iff (h : Balanced hub) (id : Nat) (payload : HelloPayload)
    (sess : Except ServerError Principal) :
    Balanced (hub.handleHello config id payload sess) ↔
      (BooksSlot config hub id payload sess →
        ∃ target, config.negotiate payload = .ok target) := by
  unfold handleHello BooksSlot
  cases hfind : hub.connections.find? id with
  | none =>
    refine iff_of_true h ?_
    rintro ⟨-, ⟨c, hc, -⟩, -⟩
    cases hc
  | some c =>
    have hid : hub.connections.find? c.id = some c := by rw [(find?_eq_some_iff.mp hfind).2, hfind]
    cases htoken : payload.sessionToken with
    | none =>
      refine iff_of_true (balanced_completeHello_none_iff.mpr h) ?_
      rintro ⟨hsome, -⟩
      cases hsome
    | some tok =>
      cases sess with
      | error =>
        refine iff_of_true (balanced_sendHelloAuthNack_iff.mpr h) ?_
        rintro ⟨-, -, p, hp, -⟩
        cases hp
      | ok p =>
        cases hprin : c.principal with
        | none =>
          rw [balanced_resumeHello_none_iff h hid hprin]
          refine imp_congr_left ⟨fun hlt => ?_, ?_⟩
          · exact ⟨rfl, ⟨c, rfl, hprin⟩, p, rfl, hlt⟩
          · rintro ⟨-, -, p, hp, hlt⟩
            cases hp
            exact hlt
        | some =>
          refine iff_of_true (balanced_resumeHello_some h hid hprin payload tok p) ?_
          rintro ⟨-, ⟨d, hd, hnone⟩, -⟩
          cases hd
          rw [hprin] at hnone
          cases hnone

/-! ## Ids -/

section

variable (h : IdsBelow hub)
include h

lemma idsBelow_modify (id : Nat) (f : Connection → Connection)
    (hf : ∀ c, (f c).id = c.id) : IdsBelow (hub.modify id f hf) := by
  intro c hc
  obtain ⟨d, hd, rfl⟩ := (mem_updateWhere hf).mp hc
  split_ifs
  · rw [hf]
    exact h d hd
  · exact h d hd

lemma idsBelow_register (principal : Option Principal)
    (bearer : Option String) : IdsBelow (hub.register principal bearer) := by
  intro c hc
  rcases mem_upsert.mp hc with rfl | ⟨hc, -⟩
  · exact Nat.lt_succ_self _
  · exact (h c hc).trans (Nat.lt_succ_self _)

lemma idsBelow_unregister (id : Nat) : IdsBelow (hub.unregister id) := by
  intro c hc
  rw [connections_unregister] at hc
  have hnext : (hub.unregister id).nextId = hub.nextId := by
    unfold unregister
    split
    · rfl
    · split <;> rfl
  rw [hnext]
  exact h c (mem_deleteWhere.mp hc).1

lemma idsBelow_sendHelloAuthNack (id : Nat) (code : FrickErrorCode)
    (msg reason : String) : IdsBelow (hub.sendHelloAuthNack id code msg reason) :=
  idsBelow_modify (idsBelow_modify (idsBelow_modify h _ _ _) _ _ _) _ _ _

lemma idsBelow_completeHello (payload : HelloPayload) (authed : Option (Principal × String)) :
    IdsBelow (hub.completeHello config connection payload authed) := by
  unfold completeHello
  cases config.negotiate payload with
  | error => exact idsBelow_modify (idsBelow_modify h _ _ _) _ _ _
  | ok => exact idsBelow_modify (idsBelow_modify (idsBelow_modify h _ _ _) _ _ _) _ _ _

lemma idsBelow_reserveHelloPrincipal {resv : GatewayHub}
    (hresv : hub.reserveHelloPrincipal config connection p = some resv) :
    IdsBelow resv := by
  unfold reserveHelloPrincipal at hresv
  dsimp only at hresv
  split_ifs at hresv
  · exact some.inj hresv ▸ h
  · exact some.inj hresv ▸ h

lemma idsBelow_handleHello (id : Nat) (payload : HelloPayload)
    (sess : Except ServerError Principal) :
    IdsBelow (hub.handleHello config id payload sess) := by
  unfold handleHello resumeHello
  split
  · exact h
  split
  swap
  · exact idsBelow_completeHello h payload none
  split
  · exact idsBelow_sendHelloAuthNack h _ _ _ _
  split
  · exact idsBelow_sendHelloAuthNack h _ _ _ _
  split
  · exact idsBelow_modify (idsBelow_modify (idsBelow_modify h _ _ _) _ _ _) _ _ _
  · rename_i hresv
    exact idsBelow_completeHello (idsBelow_reserveHelloPrincipal h hresv) payload _

end

/-! ## Runs -/

lemma idsBelow_step (config : GatewayConfig) (hub : GatewayHub) (call : HubCall)
    (h : IdsBelow hub) : IdsBelow (call.step config hub) := by
  cases call with
  | register principal bearer => exact idsBelow_register h principal bearer
  | hello id payload sess => exact idsBelow_handleHello h id payload sess
  | unregister id => exact idsBelow_unregister h id

lemma balanced_step_iff (config : GatewayConfig) (registry : FrickAppRegistry)
    (read : Value → Option FrickClientCapabilities) (hub : GatewayHub) (call : HubCall)
    (hids : IdsBelow hub) (h : Balanced hub) :
    Balanced (call.step (config.serving registry read) hub) ↔
      SlotIsUsed config registry read hub call := by
  cases call with
  | register principal bearer =>
    exact iff_of_true (balanced_register h hids principal bearer) trivial
  | hello id payload sess =>
    rw [SlotIsUsed, ← negotiateHello_eq_ok_iff]
    exact balanced_handleHello_iff h id payload sess
  | unregister id => exact iff_of_true (balanced_unregister h id) trivial

lemma idsBelow_new : IdsBelow .new := fun c hc => absurd hc (List.not_mem_nil (a := c))

lemma balanced_new : Balanced .new :=
  ⟨fun _ => (tally_of_rows_eq_nil rfl).symm, fun _ => (tally_of_rows_eq_nil rfl).symm⟩

lemma Balanced.counts_eq_zero (h : Balanced hub) (hgone : hub.connections.rows = []) :
    (∀ key, hub.perPrincipal key = 0) ∧ ∀ tenant, hub.tenantSubscriberCounts tenant = 0 :=
  ⟨fun _ => (h.perPrincipal _).trans (tally_of_rows_eq_nil hgone),
    fun _ => (h.tenants _).trans (tally_of_rows_eq_nil hgone)⟩

/-- **The books.** In every run the counts are the numbers of live connections, for every key and
every tenant and after every call, exactly if each `Hello` that books a slot comes from a client
that fits a schema of the server. If so, then no count is left when every connection is gone, and
whoever connects finds a free slot. -/
theorem accounts_exact_iff (config : GatewayConfig) (registry : FrickAppRegistry)
    (read : Value → Option FrickClientCapabilities) (calls : List HubCall) :
    let step := fun hub (call : HubCall) => call.step (config.serving registry read) hub
    ((∀ before after, calls = before ++ after → Balanced (run step .new before)) ↔
      Guarded step (SlotIsUsed config registry read) .new calls) ∧
    (Guarded step (SlotIsUsed config registry read) .new calls →
      let hub := run step .new calls
      hub.connections.rows = [] →
        (∀ key, hub.perPrincipal key = 0) ∧ (∀ tenant, hub.tenantSubscriberCounts tenant = 0) ∧
        ∀ p, 0 < config.maxConnectionsPerPrincipal →
          (hub.perPrincipal p : Int) < config.maxConnectionsPerPrincipal) := by
  intro step
  have hids : ∀ hub call, IdsBelow hub → IdsBelow (step hub call) := idsBelow_step _
  have hexact := forall_run_iff_guarded hids (balanced_step_iff config registry read) idsBelow_new
    balanced_new calls
  refine ⟨hexact, ?_⟩
  intro hguard hub hgone
  have hbalanced : Balanced hub := hexact.mpr hguard calls [] (List.append_nil calls).symm
  obtain ⟨hkeys, htenants⟩ := hbalanced.counts_eq_zero hgone
  refine ⟨hkeys, htenants, fun p hcap => ?_⟩
  rw [hkeys p]
  exact hcap

/-! ## A refused Hello -/

def oneEach : GatewayConfig :=
  { GatewayConfig.ofSchema { hash := "current" } with maxConnectionsPerPrincipal := 1 }

def oneEachServing : GatewayConfig :=
  oneEach.serving ⟨[⟨defaultAppId, oneEach.schema⟩]⟩ fun _ => none

/-- A client with an old schema connects, presents a good token, is refused and goes. -/
def oldClientCalls : List HubCall :=
  [.register none none,
    .hello 1
      { replicaId := "replica", deviceId := "device", schemaHash := "old",
        sessionToken := some "token" } (.ok (member "ana")),
    .unregister 1]

/-- Its slot stays booked: nobody is connected, and the principal is turned away by the cap. -/
theorem refused_hello_locks_out :
    let hub := run (fun hub (call : HubCall) => call.step oneEachServing hub) .new oldClientCalls
    hub.connections.rows = [] ∧ hub.perPrincipal (member "ana").connectionKey = 1 ∧ ¬Balanced hub ∧
      (hub.runConnection oneEachServing (some (member "ana")) none).connections.rows = [] := by
  intro hub
  have hgone : hub.connections.rows = [] := by decide +kernel
  have hbooked : hub.perPrincipal (member "ana").connectionKey = 1 := by decide +kernel
  refine ⟨hgone, hbooked, fun h => ?_, by decide +kernel⟩
  exact absurd (hbooked.symm.trans ((h.counts_eq_zero hgone).1 _)) Nat.one_ne_zero

end Frick.Properties
