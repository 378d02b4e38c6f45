import Frick.Properties.HubTasks
import Mathlib.Data.Fintype.Basic

/-!
# The tenant filter of the bus

The hub tells the cluster bus which tenants have connections here, and the bus drops what comes for
any other. A section that makes a tenant come or go is followed by `push_subscribed_tenants`, which
reads the tenants in one lock section of its own and hands them over after it.

Two pushes may overlap: the one that read first may hand over last, and then the bus is left with an
old set. A `Hello` attaches its principal in one section and counts its tenant in the next, and in
between the tenant has a connection that no push has heard of. `filter_exact` says that these two
are all.
-/

namespace Frick.Properties

open Function Framework Framework.Workers Server HubSection Table TaskStage Option
open Principal (tenantId)

variable {ι : Type}

/-- `set_cluster_bus`, up to the subscription: the tenants of the hub are handed to the bus. -/
def setClusterBus (s : SharedHub) : SharedHub :=
  { s with subscribedTenants := some fun tenant => s.hub.tenantSubscriberCounts tenant ≠ 0 }

def HubWorld.clustered (config : GatewayConfig) (attempts : ι → ConnectAttempt) : HubWorld ι :=
  let start := HubWorld.start config true attempts
  { start with store := setClusterBus start.store }

def liveTenants (hub : GatewayHub) (tenant : String) : Bool :=
  hub.connections.tally (countsFor tenantId) tenant ≠ 0

/-- The next section is one of `push_subscribed_tenants`. -/
def inPush : Option HubSection → Bool
  | some .tenants => true
  | some (.setSubscribedTenants _) => true
  | _ => false

/-- Whenever no push is in progress, the bus has the tenants with a live connection. -/
def FilterExact (w : HubWorld ι) : Prop :=
  (∀ i, inPush (w.pending i) = false) → w.store.subscribedTenants = some (liveTenants w.store.hub)

/-- The task has read the tenants and not handed them over, or has attached a principal and not
counted its tenant. -/
def midway : Option HubSection → Bool
  | some (.setSubscribedTenants _) => true
  | some (.applyTenantTransitions _) => true
  | _ => false

/-- The section makes a tenant come or go. -/
def movesTenant (config : GatewayConfig) (s : SharedHub) : HubSection → Bool
  | .register principal bearer => (handle config s (.register principal bearer)).2.2
  | .applyTenantTransitions transitions => (handle config s (.applyTenantTransitions transitions)).2
  | .unregister id => (handle config s (.unregister id)).2
  | _ => false

/-- A `Hello` attaches a principal of a tenant with a live connection. -/
def attachesLive (hub : GatewayHub) : HubSection → Bool
  | .attach _ authed _ => authed.all fun found => liveTenants hub found.1.tenantId
  | _ => true

/-- No tenant comes or goes while another task is midway, and a `Hello` brings no new tenant. -/
def TenantsInOrder (config : GatewayConfig) (w : HubWorld ι) (i : ι) : Prop :=
  ∀ o ∈ w.pending i, attachesLive w.store.hub o = true ∧
    (movesTenant config w.store o = true → ∀ j, j ≠ i → midway (w.pending j) = false)

instance [Fintype ι] [DecidableEq ι] (config : GatewayConfig) (w : HubWorld ι) (i : ι) :
    Decidable (TenantsInOrder config w i) :=
  inferInstanceAs (Decidable (∀ o ∈ w.pending i, attachesLive w.store.hub o = true ∧
    (movesTenant config w.store o = true → ∀ j, j ≠ i → midway (w.pending j) = false)))

/-! ## Connections, tasks and counts -/

def HelloStep.Sees (c : Connection) : HelloStep → Prop
  | .idle => True
  | .read existing => c.principal = existing
  | .booked p => ∀ e ∈ c.principal, e.tenantId = p.tenantId

namespace TaskStage

/-- What holds of a task's connection; `slot` is the tenant that a connection is counted for. -/
def Agrees (slot : Nat → Option String) (c : Connection) : TaskStage → Prop
  | .owing _ transitions =>
    slot c.id = none ∧ ∃ p, c.principal = some p ∧ transitions = [(p.tenantId, 1)]
  | .here _ step => slot c.id = countsFor tenantId c ∧ step.Sees c
  | _ => slot c.id = countsFor tenantId c

variable {slot : Nat → Option String}

lemma agrees_after {c : Connection} {id : Option Nat}
    (h : slot c.id = countsFor tenantId c) (push : Bool) :
    (after id push).Agrees slot c := by
  cases push with
  | false =>
    cases id with
    | none => exact h
    | some => exact ⟨h, trivial⟩
  | true => exact h

lemma eq_or_owing_of_agrees {c : Connection} {stage : TaskStage} (h : stage.Agrees slot c)
    (hown : stage.own = some c.id) :
    slot c.id = countsFor tenantId c ∨ ∃ transitions, stage = .owing c.id transitions := by
  cases stage with
  | owing id transitions =>
    obtain rfl := some.inj hown
    exact .inr ⟨transitions, rfl⟩
  | here => exact .inl h.1
  | _ => exact .inl h

lemma agrees_congr {c c' : Connection} {stage : TaskStage} (hid : c'.id = c.id)
    (hp : c'.principal = c.principal) (h : stage.Agrees slot c) : stage.Agrees slot c' := by
  have hcount : countsFor tenantId c' = countsFor tenantId c := by
    rw [countsFor, countsFor, hp]
  cases stage with
  | here _ step =>
    refine ⟨by rw [hid, hcount]; exact h.1, ?_⟩
    cases step with
    | idle => trivial
    | _ => simpa only [HelloStep.Sees, hp] using h.2
  | _ => simpa only [Agrees, hid, hp, hcount] using h

end TaskStage

/-- The books on tenants: they count every connection for its slot, which is the tenant of the
connection, unless its task has yet to count it. -/
structure Booked (place : ι → TaskStage) (slot : Nat → Option String) (hub : GatewayHub) : Prop
    extends Placed (Agrees slot) place hub where
  ids : IdsBelow hub
  counts : ∀ t, hub.tenantSubscriberCounts t = hub.connections.tally (fun c => slot c.id) t
  settled : ∀ c ∈ hub.connections, slot c.id = countsFor tenantId c ∨
    ∃ j transitions, place j = .owing c.id transitions

namespace Booked

open GatewayHub

variable {place : ι → TaskStage} {slot slot' : Nat → Option String} {hub hub' : GatewayHub}
  {i : ι} {id : Nat} {stage : TaskStage}

lemma start : Booked (fun _ : ι => .away .unchecked) (fun _ => none) .new where
  toPlaced := Placed.start
  ids := idsBelow_new
  counts _ := (tally_of_rows_eq_nil rfl).symm
  settled c hc := absurd hc (not_mem_empty c)

variable (h : Booked place slot hub)
include h

lemma counts_le (t : String) :
    hub.tenantSubscriberCounts t ≤ hub.connections.tally (countsFor tenantId) t := by
  rw [h.counts t]
  refine tally_mono fun c hc ht => ?_
  rcases h.settled c hc with heq | ⟨j, _, hj⟩
  · rw [← heq, ht]
  · obtain ⟨-, d, hd, -, hnone, -⟩ := h.live_of_eq hj rfl
    obtain ⟨hmem, hid⟩ := find?_eq_some_iff.mp hd
    rw [eq_of_key_eq hmem hc hid, ht] at hnone
    cases hnone

lemma counts_eq (hnone : ∀ j id transitions, place j ≠ .owing id transitions) (t : String) :
    hub.tenantSubscriberCounts t = hub.connections.tally (countsFor tenantId) t := by
  rw [h.counts t]
  refine tally_congr fun c hc => ?_
  rcases h.settled c hc with heq | ⟨j, _, hj⟩
  · exact heq
  · exact absurd hj (hnone j _ _)

variable [DecidableEq ι]

lemma update (id : Nat) (howner : ∀ {j}, (place j).own = some id → j = i)
    (hbefore : ∀ {k}, (place i).own = some k → k = id)
    (hfind : ∀ k, k ≠ id → hub'.connections.find? k = hub.connections.find? k)
    (hslot : ∀ k, k ≠ id → slot' k = slot k)
    (hself : ∀ {k}, stage.own = some k →
      k = id ∧ ∃ c, hub'.connections.find? k = some c ∧ stage.Agrees slot' c) (hids : IdsBelow hub')
    (hcounts : ∀ t, hub'.tenantSubscriberCounts t = hub'.connections.tally (fun c => slot' c.id) t)
    (hhas : ∀ c, hub'.connections.find? id = some c → stage.own = some id) :
    Booked (Function.update place i stage) slot' hub' := by
  refine ⟨h.toPlaced.update id howner hfind ?_ hself, hids, hcounts, ?_⟩
  · intro c stage hne hagr
    cases stage with
    | _ => simpa only [Agrees, hslot c.id hne] using hagr
  intro c hc
  have hfound : hub'.connections.find? c.id = some c := find?_eq_some_iff.mpr ⟨hc, rfl⟩
  by_cases hid : c.id = id
  · have hown := hhas c (hid ▸ hfound)
    obtain ⟨-, d, hd, hagr⟩ := hself hown
    obtain rfl : c = d := some.inj (hfound.symm.trans (hid ▸ hd))
    rcases eq_or_owing_of_agrees hagr (hid ▸ hown) with heq | ⟨transitions, hstage⟩
    · exact .inl heq
    · exact .inr ⟨i, transitions, by rw [update_self, hstage]⟩
  · rw [hfind c.id hid] at hfound
    rw [hslot c.id hid]
    rcases h.settled c (find?_eq_some_iff.mp hfound).1 with heq | ⟨j, transitions, hj⟩
    · exact .inl heq
    · refine .inr ⟨j, transitions, ?_⟩
      rw [update_of_ne _, hj]
      rintro rfl
      exact hid (hbefore (by rw [hj]; rfl))

lemma move {before : TaskStage} (hi : place i = before)
    (hagr : ∀ c, hub.connections.find? c.id = some c → before.own = some c.id →
      before.Agrees slot c → stage.Agrees slot c)
    (hown : ∀ k, stage.own = some k → before.own = some k := by exact fun _ hk => hk)
    (hpaid : ∀ id transitions, before ≠ .owing id transitions := by exact nofun) :
    Booked (Function.update place i stage) slot hub := by
  refine ⟨h.toPlaced.move hi hagr hown, h.ids, h.counts, fun c hc => ?_⟩
  rcases h.settled c hc with heq | ⟨j, transitions, hj⟩
  · exact .inl heq
  · refine .inr ⟨j, transitions, ?_⟩
    rw [update_of_ne _, hj]
    rintro rfl
    exact hpaid _ _ (hi.symm.trans hj)

omit [DecidableEq ι] in
lemma withPrincipals (counts : String → Nat) :
    Booked place slot { hub with perPrincipal := counts } :=
  ⟨⟨h.one, h.live⟩, h.ids, h.counts, h.settled⟩

omit [DecidableEq ι] in
lemma modify {f : Connection → Connection} {hf : ∀ c, (f c).id = c.id}
    (hprin : ∀ c, (f c).principal = c.principal) : Booked place slot (hub.modify id f hf) where
  toPlaced := h.toPlaced.mono (fun _ _ => find?_modify hprin) fun _ _ _ => agrees_congr
  ids := idsBelow_modify h.ids id f hf
  counts t := by
    show _ = (hub.connections.updateWhere _ f hf).tally _ t
    rw [tally_updateWhere_of_attr hf fun c => by rw [hf c]]
    exact h.counts t
  settled c hc := by
    obtain ⟨d, hd, rfl⟩ := (mem_updateWhere hf).mp hc
    have hsame : countsFor tenantId (if (decide (d.id = id)) then f d else d) =
        countsFor tenantId d := by
      rw [countsFor, countsFor]
      split_ifs
      · rw [hprin]
      · rfl
    rw [key_updated (p := fun d => d.id = id) hf d, hsame]
    exact h.settled d hd

lemma register (hi : (place i).own = none) (p : Option Principal) (bearer : Option String)
    (push : Bool) :
    Booked (Function.update place i (.after (some hub.nextId) push))
      (Function.update slot hub.nextId (p.map tenantId))
      (hub.register p bearer) := by
  have hfresh : ∀ c ∈ hub.connections, c.id ≠ hub.nextId := fun c hc => (h.ids c hc).ne
  have hnew : (hub.register p bearer).connections.find? hub.nextId =
      some (freshConnection hub.nextId p bearer) := find?_upsert_self _ _
  refine h.update hub.nextId ?_ ?_ ?_ ?_ ?_ (idsBelow_register h.ids p bearer) ?_ ?_
  · exact fun hj => absurd hj (h.own_ne_nextId h.ids)
  · intro k hk
    cases hi.symm.trans hk
  · intro k hk
    exact find?_upsert_of_ne hk
  · intro k hk
    exact update_of_ne hk _ _
  · intro k hk
    rw [own_after] at hk
    obtain rfl := some.inj hk
    exact ⟨rfl, _, hnew, agrees_after (update_self ..) push⟩
  · intro t
    have hold : ∀ c ∈ hub.connections,
        Function.update slot hub.nextId (p.map tenantId) c.id = slot c.id :=
      fun c hc => update_of_ne (hfresh c hc) _ _
    show _ = (hub.connections.upsert _).tally _ t
    rw [tally_upsert_of_fresh hfresh, tally_congr hold, ← h.counts t]
    cases p with
    | none =>
      rw [has_of_none (by exact update_self ..)]
      rfl
    | some =>
      rw [has_of_some (by exact update_self ..)]
      show bumpTenantCount _ _ 1 t = _
      rw [bumpTenantCount_one, takePrincipalSlot_apply]
  · exact fun _ _ => own_after _ _

omit [DecidableEq ι] in
lemma attach_none (appId : String) : Booked place slot (hub.attach id none appId) := by
  apply h.modify
  intro c
  rfl

lemma attach_some (hi : (place i).own = some id) {p : Principal} (token appId : String)
    (hown : stage.own = some id)
    (hagr : ∀ d : Connection, d.id = id → d.principal = some p → stage.Agrees slot d) :
    Booked (Function.update place i stage) slot (hub.attach id (some (p, token)) appId) := by
  obtain ⟨c, hc, -⟩ := h.live hi
  refine h.update id (fun hj => h.one hj hi) (fun hk => some.inj (hk.symm.trans hi))
    (fun k hk => find?_modify_of_ne hk) (fun _ _ => rfl) ?_ (idsBelow_modify h.ids _ _ _) ?_
    fun _ _ => hown
  · intro k hk
    obtain rfl := some.inj (hown.symm.trans hk)
    refine ⟨rfl, _, find?_modify_self hc, hagr _ ?_ rfl⟩
    exact (find?_eq_some_iff.mp hc).2
  · intro t
    have htally : (hub.attach id (some (p, token)) appId).connections.tally (fun c => slot c.id) t =
        hub.connections.tally (fun c => slot c.id) t :=
      tally_updateWhere_of_attr (by intro c; rfl) fun c => rfl
    exact (h.counts t).trans htally.symm

lemma applyTransitions {transitions : List (String × Int)} (hi : place i = .owing id transitions)
    (push : Bool) :
    ∃ slot', Booked (Function.update place i (.after (some id) push)) slot'
      { hub with
        tenantSubscriberCounts := (bumpTenantCounts hub.tenantSubscriberCounts transitions).1 } :=
    by
  obtain ⟨hown, c, hc, rfl, hnone, p, hp, rfl⟩ := h.live_of_eq hi rfl
  have hten : countsFor tenantId c = some p.tenantId := by
    rw [countsFor, hp]
    rfl
  refine ⟨Function.update slot c.id (some p.tenantId), h.update c.id (fun hj => h.one hj hown)
    (fun hk => some.inj (hk.symm.trans hown)) (fun _ _ => rfl) (fun k hk => update_of_ne hk _ _) ?_
    h.ids ?_ fun _ _ => own_after _ _⟩
  · intro k hk
    rw [own_after] at hk
    obtain rfl := some.inj hk
    refine ⟨rfl, c, hc, agrees_after ?_ push⟩
    rw [update_self, hten]
  · intro t
    have htally : tally _ _ t + _ = _ + _ := tally_update slot (some p.tenantId) hc
    rw [hnone, if_neg (by simp), Nat.add_zero, ← h.counts t] at htally
    show bumpTenantCount _ _ 1 t = _
    rw [bumpTenantCount_one, takePrincipalSlot_apply, htally]
    simp

lemma unregister {step : HelloStep} (hi : place i = .here id step) (push : Bool) :
    Booked (Function.update place i (.after none push)) slot (hub.unregister id) := by
  obtain ⟨hown, c, hc, hid, hagr⟩ := h.live_of_eq hi rfl
  refine h.update id (fun hj => h.one hj hown) (fun hk => some.inj (hk.symm.trans hown))
    (fun k hk => find?_unregister_of_ne hk) (fun _ _ => rfl) ?_ (idsBelow_unregister h.ids id) ?_ ?_
  · intro k hk
    rw [own_after] at hk
    cases hk
  · intro t
    have htally : tally _ (fun d : Connection => slot d.id) t + _ = _ := tally_deleteWhere hc
    rw [← h.counts t] at htally
    rw [GatewayHub.unregister, hc]
    dsimp only
    cases hp : c.principal with
    | none =>
      rw [has_of_none (by rw [hagr.1, countsFor, hp]; rfl)] at htally
      exact htally.symm
    | some =>
      rw [has_of_some (by rw [hagr.1, countsFor, hp]; rfl)] at htally
      show bumpTenantCount _ _ (-1) t = _
      rw [bumpTenantCount_neg_one, releasePrincipalSlot_apply]
      exact Nat.sub_eq_of_eq_add htally.symm
  · intro d hd
    obtain ⟨hmem, hdid⟩ := find?_eq_some_iff.mp hd
    rw [connections_unregister] at hmem
    exact absurd hdid (of_decide_eq_false (mem_deleteWhere.mp hmem).2)

end Booked

/-! ## Tenants that come and go -/

/-- What `push_subscribed_tenants` reads. -/
def countedTenants (hub : GatewayHub) (tenant : String) : Bool :=
  hub.tenantSubscriberCounts tenant ≠ 0

/-- Every tenant with a live connection is counted. -/
def Counts (hub : GatewayHub) : Prop :=
  ∀ t, liveTenants hub t = true → countedTenants hub t = true

section Sections

open GatewayHub

variable {config : GatewayConfig} {s : SharedHub} {hub : GatewayHub} {o : HubSection}

lemma liveTenants_iff {t : String} :
    liveTenants hub t ↔ ∃ c ∈ hub.connections, countsFor tenantId c = some t := by
  rw [liveTenants, decide_eq_true_iff, ← Nat.pos_iff_ne_zero, tally, List.countP_pos_iff]
  simp only [decide_eq_true_eq]
  rfl

lemma countedTenants_bump {counts : String → Nat} {tenant : String} {delta : Int}
    (h : tenantTransitioned counts tenant delta = false) (t : String) :
    bumpTenantCount counts tenant delta t ≠ 0 ↔ counts t ≠ 0 := by
  rw [tenantTransitioned, bne_eq_false_iff_eq, decide_eq_decide] at h
  rw [bumpTenantCount]
  split_ifs with heq
  · rw [heq]
    omega
  · rfl

lemma countedTenants_bumps {transitions : List (String × Int)} {counts : String → Nat}
    (h : (bumpTenantCounts counts transitions).2 = false) (t : String) :
    (bumpTenantCounts counts transitions).1 t ≠ 0 ↔ counts t ≠ 0 := by
  induction transitions generalizing counts with
  | nil => rfl
  | cons move _ ih =>
    obtain ⟨hmove, hrest⟩ := Bool.or_eq_false_iff.mp h
    exact (ih hrest).trans (countedTenants_bump hmove t)

lemma exists_perPrincipal (config : GatewayConfig) (s : SharedHub) (id : Nat) (p : Principal) :
    ∃ counts, (handle config s (.reserveHelloPrincipal id p)).1 =
      ⟨{ s.hub with perPrincipal := counts }, s.subscribedTenants⟩ := by
  have hresv : ∀ c reserved, s.hub.reserveHelloPrincipal config c p = some reserved →
      ∃ counts, reserved = { s.hub with perPrincipal := counts } := by
    intro c reserved h
    unfold GatewayHub.reserveHelloPrincipal at h
    dsimp only at h
    split_ifs at h
    · exact ⟨_, (some.inj h).symm⟩
    · exact ⟨_, (some.inj h).symm⟩
  rw [handle]
  split
  · exact ⟨_, rfl⟩
  next reserved h =>
    obtain ⟨counts, rfl⟩ := hresv _ _ h
    exact ⟨counts, rfl⟩

lemma countedTenants_handle (h : movesTenant config s o = false) :
    countedTenants (handle config s o).1.hub = countedTenants s.hub := by
  funext t
  rw [countedTenants, countedTenants, decide_eq_decide]
  cases o with
  | register principal bearer =>
    cases principal with
    | none => rfl
    | some p => exact countedTenants_bump h t
  | reserveHelloPrincipal id p =>
    obtain ⟨counts, hstore⟩ := exists_perPrincipal config s id p
    rw [hstore]
  | applyTenantTransitions => exact countedTenants_bumps h t
  | unregister id =>
    show (s.hub.unregister id).tenantSubscriberCounts t ≠ 0 ↔ _
    have hmoved : ((s.hub.connections.find? id).bind Connection.principal).any (fun p =>
      tenantTransitioned s.hub.tenantSubscriberCounts p.tenantId (-1)) = false := h
    rw [GatewayHub.unregister]
    cases hc : s.hub.connections.find? id with
    | none => rfl
    | some c =>
      dsimp only
      rw [hc, bind_some] at hmoved
      cases hp : c.principal with
      | none => rfl
      | some p =>
        rw [hp] at hmoved
        exact countedTenants_bump hmoved t
  | _ => rfl

/-- A section that makes no tenant come or go, and attaches no new one, leaves every live tenant
counted. -/
lemma Counts.handle (h : Counts s.hub) (hmoves : movesTenant config s o = false)
    (hlive : attachesLive s.hub o) : Counts (handle config s o).1.hub := by
  intro t ht
  rw [countedTenants_handle hmoves]
  have hmodify {id : Nat} {f : Connection → Connection} {hf : ∀ c, (f c).id = c.id}
      (hprin : ∀ c, (f c).principal = c.principal)
      (ht : liveTenants (s.hub.modify id f hf) t) : countedTenants s.hub t := by
    obtain ⟨c, hc, hct⟩ := liveTenants_iff.mp ht
    obtain ⟨d, hd, rfl⟩ := (mem_updateWhere hf).mp hc
    refine h t (liveTenants_iff.mpr ⟨d, hd, ?_⟩)
    rw [← hct, countsFor, countsFor]
    split_ifs
    · rw [hprin]
    · rfl
  cases o with
  | register principal bearer =>
    obtain ⟨c, hc, hct⟩ := liveTenants_iff.mp ht
    rcases mem_upsert.mp hc with rfl | ⟨hc, -⟩
    · obtain ⟨p, rfl, rfl⟩ := map_eq_some_iff.mp hct
      have hsame : tenantTransitioned s.hub.tenantSubscriberCounts p.tenantId 1 = false := hmoves
      rw [tenantTransitioned, bne_eq_false_iff_eq, decide_eq_decide] at hsame
      refine decide_eq_true ?_
      omega
    · exact h t (liveTenants_iff.mpr ⟨c, hc, hct⟩)
  | reserveHelloPrincipal id p =>
    obtain ⟨counts, hstore⟩ := exists_perPrincipal config s id p
    rw [hstore] at ht
    exact h t ht
  | attach id authed appId =>
    cases authed with
    | none => exact hmodify (by intro c; rfl) ht
    | some found =>
      obtain ⟨c, hc, hct⟩ := liveTenants_iff.mp ht
      obtain ⟨d, hd, rfl⟩ := (mem_updateWhere (by intro c; rfl)).mp hc
      split_ifs at hct
      · obtain rfl := some.inj hct
        exact h _ hlive
      · exact h t (liveTenants_iff.mpr ⟨d, hd, hct⟩)
  | send | moveTask => exact hmodify (by intro c; rfl) ht
  | unregister id =>
    obtain ⟨c, hc, hct⟩ := liveTenants_iff.mp ht
    have hmem : c ∈ (s.hub.unregister id).connections := hc
    rw [connections_unregister] at hmem
    exact h t (liveTenants_iff.mpr ⟨c, (mem_deleteWhere.mp hmem).1, hct⟩)
  | _ => exact h t ht

/-! ## One section -/

variable {place : ι → TaskStage} {slot : Nat → Option String} {i : ι} {id : Nat}
  {stage' : TaskStage} [DecidableEq ι]

lemma Booked.attach (h : Booked place slot s.hub) {step : HelloStep} (hi : place i = .here id step)
    {authed : Option (Principal × String)} (appId : String)
    (hbook : ∀ found ∈ authed, step = .booked found.1) :
    let after := handle config s (.attach id authed appId)
    Booked (Function.update place i (.attached id after.2)) slot after.1.hub := by
  obtain ⟨hown, c, hc, rfl, hagr⟩ := h.live_of_eq hi rfl
  rw [handle_attach config s hc authed appId]
  cases authed with
  | none => exact (h.attach_none appId).move hi fun d _ _ hd => ⟨hd.1, trivial⟩
  | some found =>
    obtain ⟨p, token⟩ := found
    obtain rfl : step = .booked p := hbook (p, token) rfl
    dsimp only [elim_some]
    cases hp : c.principal with
    | none =>
      have hslot : slot c.id = none := by
        rw [hagr.1, countsFor, hp]
        rfl
      apply h.attach_some hown token appId
      · rfl
      · intro d hd hdp
        exact ⟨by rw [hd, hslot], p, hdp, rfl⟩
    | some e =>
      have hsame : e.tenantId = p.tenantId := hagr.2 e hp
      have hnothing : tenantTransitions (some e) p = [] := if_pos (congrArg some hsame)
      rw [hnothing]
      apply h.attach_some hown token appId
      · rfl
      · intro d hd hdp
        refine ⟨?_, trivial⟩
        rw [hd, hagr.1, countsFor, countsFor, hp, hdp, map_some, map_some, hsame]

lemma Booked.handle (h : Booked place slot s.hub)
    (hmoved : MovedBy config true (place i) stage' o (handle config s o).2) :
    ∃ slot', Booked (Function.update place i stage') slot' (handle config s o).1.hub := by
  cases o with
  | register principal bearer =>
    obtain ⟨_, hi, -, rfl⟩ := hmoved
    exact ⟨_, h.register (by rw [hi]; rfl) principal bearer _⟩
  | connectionPrincipal id =>
    obtain ⟨step, hi, rfl⟩ := hmoved
    refine ⟨slot, h.move hi ?_⟩
    intro c hc hown hagr
    obtain rfl := some.inj hown
    refine ⟨hagr.1, ?_⟩
    show c.principal = (s.hub.connections.find? c.id).bind Connection.principal
    rw [hc]
    rfl
  | reserveHelloPrincipal id p =>
    obtain ⟨old, hi, hadm, rfl⟩ := hmoved
    obtain ⟨counts, hstore⟩ := exists_perPrincipal config s id p
    rw [hstore]
    refine ⟨slot, (h.withPrincipals counts).move hi ?_⟩
    intro c _ _ hagr
    refine ⟨hagr.1, ?_⟩
    split_ifs
    · intro e he
      exact (keys_eq_of_samePrincipal (hadm e (hagr.2 ▸ he))).2.symm
    · trivial
  | attach _ _ appId =>
    obtain ⟨step, hi, hbook, rfl⟩ := hmoved
    exact ⟨slot, h.attach hi appId hbook⟩
  | applyTenantTransitions =>
    obtain ⟨id, hi, rfl⟩ := hmoved
    exact h.applyTransitions hi _
  | unregister =>
    obtain ⟨step, hi, rfl⟩ := hmoved
    exact ⟨slot, h.unregister hi _⟩
  | tenants =>
    obtain ⟨own, hi, rfl⟩ := hmoved
    exact ⟨slot, h.move hi fun c _ _ hagr => hagr⟩
  | setSubscribedTenants =>
    obtain ⟨own, hi, rfl⟩ := hmoved
    refine ⟨slot, h.move hi (fun c _ _ hagr => agrees_after hagr false) fun k hk => ?_⟩
    rwa [own_resting] at hk
  | connectionCount | principalCount =>
    obtain ⟨hi, rfl⟩ := hmoved
    exact ⟨slot, h.move hi fun c _ _ hagr => hagr⟩
  | send id msg | moveTask id task =>
    obtain ⟨-, rfl⟩ := hmoved
    rw [update_eq_self]
    exact ⟨slot, h.modify fun c => rfl⟩

end Sections

namespace TaskStage

def pushes : TaskStage → Bool
  | .pushing _ => true
  | .handing _ _ => true
  | _ => false

/-- The task has read the tenants, or owes a count. -/
def isMidway : TaskStage → Bool
  | .owing _ _ => true
  | .handing _ _ => true
  | _ => false

end TaskStage

section Moves

variable {config : GatewayConfig} {s : SharedHub} {stage stage' : TaskStage} {o : HubSection}

lemma inPush_of_movedBy {reply : o.Reply} (h : MovedBy config true stage stage' o reply) :
    inPush (some o) = stage.pushes ∧ midway (some o) = stage.isMidway := by
  cases o with
  | connectionCount | principalCount =>
    rw [h.1]
    exact ⟨rfl, rfl⟩
  | send | moveTask =>
    cases stage with
    | here => exact ⟨rfl, rfl⟩
    | _ => cases h.1
  | _ =>
    obtain ⟨_, rfl, -⟩ := h
    exact ⟨rfl, rfl⟩

lemma pushing_of_movesTenant (h : MovedBy config true stage stage' o (handle config s o).2)
    (hmoves : movesTenant config s o) : ∃ own, stage' = .pushing own := by
  cases o with
  | register =>
    obtain ⟨_, -, -, rfl⟩ := h
    exact ⟨_, if_pos hmoves⟩
  | applyTenantTransitions | unregister =>
    obtain ⟨_, -, rfl⟩ := h
    exact ⟨_, if_pos hmoves⟩
  | _ => cases hmoves

lemma eq_countedTenants_of_handing {own : Option Nat} {seen : String → Bool}
    (h : MovedBy config true stage (.handing own seen) o (handle config s o).2) :
    seen = countedTenants s.hub := by
  have hresting {k : Option Nat} (hstage : .handing own seen = resting k) : False := by
    rcases resting_cases k with haway | ⟨id, hhere⟩
    · cases hstage.trans haway
    · cases hstage.trans hhere
  have hafter {k : Option Nat} {push : Bool} (hstage : .handing own seen = after k push) :
      False := by
    cases push with
    | true => cases hstage
    | false => exact hresting hstage
  cases o with
  | tenants =>
    obtain ⟨_, -, ⟨⟩⟩ := h
    rfl
  | register =>
    obtain ⟨_, -, -, hstage⟩ := h
    exact (hafter hstage).elim
  | applyTenantTransitions | unregister =>
    obtain ⟨_, -, hstage⟩ := h
    exact (hafter hstage).elim
  | setSubscribedTenants =>
    obtain ⟨_, -, hstage⟩ := h
    exact (hresting hstage).elim
  | attach =>
    obtain ⟨_, -, -, hstage⟩ := h
    rw [attached] at hstage
    split_ifs at hstage
  | reserveHelloPrincipal => obtain ⟨_, -, -, ⟨⟩⟩ := h
  | connectionPrincipal => obtain ⟨_, -, ⟨⟩⟩ := h
  | connectionCount | principalCount => cases h.2
  | send | moveTask =>
    obtain ⟨hsettled, rfl⟩ := h
    cases hsettled

lemma subscribedTenants_handle (h : inPush (some o) = false) :
    (handle config s o).1.subscribedTenants = s.subscribedTenants := by
  cases o with
  | setSubscribedTenants => cases h
  | reserveHelloPrincipal id p =>
    obtain ⟨counts, hstore⟩ := exists_perPrincipal config s id p
    rw [hstore]
  | _ => rfl

end Moves

/-! ## Runs -/

/-- The invariant: every task is where the discipline has it, the books are kept, every live tenant
is counted, a task has read the tenants that are counted, and the bus has them unless a push is in
progress. -/
structure Tracked (config : GatewayConfig) (place : ι → TaskStage) (slot : Nat → Option String)
    (w : HubWorld ι) : Prop where
  follows : Follows (taskDiscipline config true) (fun _ p => p = .away .unchecked) place w
  booked : Booked place slot w.store.hub
  counts : Counts w.store.hub
  read : ∀ j own seen, place j = .handing own seen → seen = countedTenants w.store.hub
  told : (∃ j, (place j).pushes = true) ∨
    w.store.subscribedTenants = some (countedTenants w.store.hub)

namespace Tracked

variable {config : GatewayConfig} {place : ι → TaskStage} {slot : Nat → Option String}
  {w : HubWorld ι} {i : ι}

lemma start (config : GatewayConfig) (attempts : ι → ConnectAttempt) :
    Tracked config (fun _ => .away .unchecked) (fun _ => none)
      (HubWorld.clustered config attempts) where
  follows i := keeps_runConnection config true (attempts i)
  booked := Booked.start
  counts _ ht := by cases ht
  read := nofun
  told := .inr rfl

variable (h : Tracked config place slot w)
include h

lemma exists_pending (hi : place i ≠ .away .unchecked) :
    ∃ o, w.pending i = some o ∧ inPush (some o) = (place i).pushes ∧
      midway (some o) = (place i).isMidway := by
  obtain ⟨o, stage', hpend, hmoved⟩ := exists_pending_of_follows h.follows hi
  exact ⟨o, hpend, inPush_of_movedBy hmoved⟩

lemma inPush_of_pushes (hi : (place i).pushes) : inPush (w.pending i) := by
  obtain ⟨o, hpend, hpush, -⟩ := h.exists_pending (i := i) fun haway => by
    rw [haway] at hi
    cases hi
  rw [hpend, hpush, hi]

lemma midway_pending (hi : (place i).isMidway) : midway (w.pending i) := by
  obtain ⟨o, hpend, -, hmid⟩ := h.exists_pending (i := i) fun haway => by
    rw [haway] at hi
    cases hi
  rw [hpend, hmid, hi]

lemma filterExact : FilterExact w := by
  intro hquiet
  rcases h.told with ⟨j, hj⟩ | htold
  · cases (hquiet j).symm.trans (h.inPush_of_pushes hj)
  · rw [htold]
    congr 1
    funext t
    rw [Bool.eq_iff_iff]
    refine ⟨fun ht => ?_, h.counts t⟩
    have hle := h.booked.counts_le t
    have hne := of_decide_eq_true ht
    refine decide_eq_true ?_
    omega

variable [DecidableEq ι]

lemma of_moves {own : Option Nat} {slot' : Nat → Option String} {w' : HubWorld ι}
    (hfollows : Follows (taskDiscipline config true) (fun _ p => p = .away .unchecked)
      (Function.update place i (.pushing own)) w')
    (hbooked : Booked (Function.update place i (.pushing own)) slot' w'.store.hub)
    (halone : ∀ j, j ≠ i → midway (w.pending j) = false) :
    Tracked config (Function.update place i (.pushing own)) slot' w' := by
  have hnobody (j : ι) : (Function.update place i (.pushing own) j).isMidway = false := by
    by_cases hj : j = i
    · rw [hj, update_self]
      rfl
    · rw [update_of_ne hj, Bool.eq_false_iff]
      intro hmid
      cases (halone j hj).symm.trans (h.midway_pending hmid)
  refine ⟨hfollows, hbooked, fun t ht => ?_, fun j own' seen hj => ?_, .inl ⟨i, ?_⟩⟩
  · have hcounts := hbooked.counts_eq (fun j id transitions hj => by
      have hmid := hnobody j
      rw [hj] at hmid
      cases hmid) t
    rw [countedTenants, hcounts]
    exact ht
  · have hmid := hnobody j
    rw [hj] at hmid
    cases hmid
  · rw [update_self]
    rfl

lemma told_handle {o : HubSection} {stage' : TaskStage}
    (hmoved : MovedBy config true (place i) stage' o (handle config w.store o).2) :
    (∃ j, (Function.update place i stage' j).pushes) ∨
      (handle config w.store o).1.subscribedTenants = some (countedTenants w.store.hub) := by
  cases hpush : inPush (some o) with
  | true =>
    cases o with
    | tenants =>
      obtain ⟨_, -, rfl⟩ := hmoved
      refine .inl ⟨i, ?_⟩
      rw [update_self]
      rfl
    | setSubscribedTenants seen =>
      obtain ⟨own, hi, -⟩ := hmoved
      exact .inr (congrArg some (h.read i own seen hi))
    | _ => cases hpush
  | false =>
    rw [subscribedTenants_handle hpush]
    rcases h.told with ⟨j, hj⟩ | htold
    · refine .inl ⟨j, ?_⟩
      rwa [update_of_ne]
      rintro rfl
      rw [← (inPush_of_movedBy hmoved).1, hpush] at hj
      cases hj
    · exact .inr htold

/-- **Step.** A section that makes a tenant come or go is followed by a push; any other leaves the
tenants that are counted as they are, so what was read is still so when it is handed over. -/
lemma step (hg : TenantsInOrder config w i) :
    ∃ place' slot', Tracked config place' slot' (step (handle config) w i) := by
  cases ho : w.pending i with
  | none =>
    rw [step_of_pending_none ho]
    exact ⟨place, slot, h⟩
  | some o =>
    obtain ⟨hlive, halone⟩ := hg o ho
    obtain ⟨stage', hnext, hfollows⟩ := h.follows.step (handle config) ho
    have hmoved := movedBy_of_taskDiscipline hnext
    obtain ⟨slot', hbooked⟩ := h.booked.handle hmoved
    have hstore := store_step_of_pending (handle config) ho
    rw [← hstore] at hbooked
    cases hmoves : movesTenant config w.store o with
    | true =>
      obtain ⟨own, rfl⟩ := pushing_of_movesTenant hmoved hmoves
      exact ⟨_, slot', h.of_moves hfollows hbooked (halone hmoves)⟩
    | false =>
      refine ⟨_, slot', hfollows, hbooked, ?_, fun j own seen hj => ?_, ?_⟩
      · rw [hstore]
        exact h.counts.handle hmoves hlive
      · rw [hstore, countedTenants_handle hmoves]
        by_cases hji : j = i
        · rw [hji, update_self] at hj
          subst hj
          exact eq_countedTenants_of_handing hmoved
        · rw [update_of_ne hji] at hj
          exact h.read j own seen hj
      · rw [hstore, countedTenants_handle hmoves]
        exact h.told_handle hmoved

end Tracked

variable [DecidableEq ι]

/-- **The filter.** For any interleaving of the tasks of the connections, at the lock sections of
the hub, in which no tenant comes or goes while another task is between its snapshot and its
hand-over, or between its attach and its count, and a `Hello` attaches only principals of tenants
with a live connection: whenever no push is in progress, the bus has exactly the tenants with a live
connection. -/
theorem filter_exact (config : GatewayConfig) (attempts : ι → ConnectAttempt) (schedule : List ι)
    (hguard : Guarded (step (handle config)) (TenantsInOrder config)
      (HubWorld.clustered config attempts) schedule) :
    FilterExact (run (step (handle config)) (HubWorld.clustered config attempts) schedule) := by
  obtain ⟨_, _, h⟩ := run_invariant (I := fun w => ∃ place slot, Tracked config place slot w)
    (fun _ _ ⟨_, _, h⟩ hg => h.step hg) ⟨_, _, Tracked.start config attempts⟩ hguard
  exact h.filterExact

/-! ## Two sockets of two tenants -/

def tenantMember (tenant : String) : Principal := { member tenant with tenantId := tenant }

/-- Someone of `acme` connects, and someone of `beta`. -/
def acmeAndBeta : Bool → ConnectAttempt
  | false => ⟨some (tenantMember "acme"), none, []⟩
  | true => ⟨some (tenantMember "beta"), none, []⟩

/-- One after the other they are both known to the bus. -/
theorem both_tenants_told :
    FilterExact (run (step (handle oneEach)) (HubWorld.clustered oneEach acmeAndBeta)
      [false, false, false, false, false, true, true, true, true, true]) :=
  filter_exact oneEach acmeAndBeta
    [false, false, false, false, false, true, true, true, true, true] (by decide +kernel)

/-- `acme` registers and its push reads the tenants; `beta` comes and pushes; the push of `acme`
hands over what it read. Nobody is pushing any more, both tenants are live, and the bus drops what
comes for `beta`. -/
theorem old_set_handed_over_last :
    let w := run (step (handle oneEach)) (HubWorld.clustered oneEach acmeAndBeta)
      [false, false, false, false, true, true, true, true, true, false]
    (∀ i, inPush (w.pending i) = false) ∧ liveTenants w.store.hub "acme" = true ∧
      liveTenants w.store.hub "beta" = true ∧
      w.store.subscribedTenants.map (fun tenants => tenants "beta") = some false := by
  decide +kernel

end Frick.Properties
