import Frick.Framework.Run
import Frick.Server.MediaCluster

/-!
# Placement messages and the tenant filter

The claims and releases of `ClusterMediaPlacement` travel on the bus that the gateway of the node
uses too, under the tenant `_media_placement`. The gateway tells the bus the tenants that are
connected to its node, and the bus drops what is for any other tenant.
-/

namespace Frick.Properties

open Function Framework Server

variable {ι : Type}

/-- Nothing that a node's placement published was lost on the way to another's. -/
def AllHeard (w : MediaWorld ι) : Prop := ∀ j, w.missed j = []

/-- A message from another node arrives where the placement tenant is subscribed. -/
def ArrivesSubscribed (w : MediaWorld ι) : MediaEvent ι → Prop
  | .deliver j k _ =>
    ∀ message, (w.inFlight j)[k]? = some message → message.1 ≠ j →
      ∀ tenants, (w.nodes j).bus.subscribedTenants = some tenants →
        tenants mediaPlacementTenant = true
  | _ => True

/-! ## What is on the way -/

/-- The nodes are those of the cluster, and what is on the way was published by a placement. -/
structure OnTheWay (cluster : MediaCluster ι) (w : MediaWorld ι) : Prop where
  ids : ∀ i, (w.nodes i).bus.nodeId = cluster.busId i ∧
    (w.nodes i).placement.nodeId = cluster.mediaId i
  sent : ∀ j, ∀ message ∈ w.inFlight j, message.2.originNodeId = cluster.mediaId message.1 ∧
    message.2.tenantId = mediaPlacementTenant

namespace OnTheWay

variable {cluster : MediaCluster ι} {w : MediaWorld ι}

lemma start (tenants : ι → String → Bool) : OnTheWay cluster (cluster.start tenants) where
  ids _ := ⟨rfl, rfl⟩
  sent _ _ := nofun

variable [DecidableEq ι]

lemma setNode (h : OnTheWay cluster w) {i : ι} (node : MediaNode)
    (hids : node.bus.nodeId = (w.nodes i).bus.nodeId ∧
      node.placement.nodeId = (w.nodes i).placement.nodeId) :
    OnTheWay cluster (w.setNode i node) := by
  refine ⟨fun j => ?_, h.sent⟩
  show (update w.nodes i node j).bus.nodeId = _ ∧ (update w.nodes i node j).placement.nodeId = _
  by_cases hj : j = i
  · rw [hj, update_self, hids.1, hids.2]
    exact h.ids i
  · rw [update_of_ne hj]
    exact h.ids j

omit [DecidableEq ι] in
lemma publish (h : OnTheWay cluster w) {i : ι} {published : Option PlacementEnvelope}
    (hpublished : ∀ e, published = some e →
      e.originNodeId = cluster.mediaId i ∧ e.tenantId = mediaPlacementTenant) :
    OnTheWay cluster (w.publish i published) := by
  refine ⟨h.ids, fun j msg hmsg => ?_⟩
  rcases List.mem_append.mp hmsg with hold | hnew
  · exact h.sent j msg hold
  · obtain ⟨e, he, rfl⟩ := Option.map_eq_some_iff.mp (Option.mem_toList.mp hnew)
    exact hpublished e he

end OnTheWay

lemma receive_ids (node : MediaNode) (env : PlacementEnvelope) (nowMs : Int) :
    (node.receive env nowMs).bus.nodeId = node.bus.nodeId ∧
      (node.receive env nowMs).placement.nodeId = node.placement.nodeId := by
  rw [MediaNode.receive]
  split_ifs
  · exact ⟨rfl, (node.placement.sameNode_onEnvelope env nowMs).nodeId⟩
  · exact ⟨rfl, rfl⟩

variable [DecidableEq ι]

variable {w : MediaWorld ι} {cluster : MediaCluster ι}

lemma OnTheWay.step (h : OnTheWay cluster w) (event : MediaEvent ι) :
    OnTheWay cluster (w.step event) := by
  cases event with
  | setSubscribedTenants => exact h.setNode _ ⟨rfl, rfl⟩
  | placeFor i callId lookedMs claimedMs =>
    have hsame := (w.nodes i).placement.sameNode_placeFor callId lookedMs claimedMs
    refine (h.setNode _ ?_).publish fun e he => ?_
    · exact ⟨rfl, hsame.nodeId⟩
    rw [← (h.ids i).2]
    exact ClusterMediaPlacement.publishes_placeFor _ he
  | release i =>
    refine (h.setNode _ ?_).publish fun e he => ?_
    · exact ⟨rfl, rfl⟩
    rw [← (h.ids i).2]
    exact ClusterMediaPlacement.publishes_release _ he
  | deliver j k nowMs =>
    cases hmsg : (w.inFlight j)[k]? with
    | none =>
      rwa [MediaWorld.step, hmsg]
    | some msg =>
      obtain ⟨sender, env⟩ := msg
      rw [MediaWorld.step, hmsg]
      have hnode := h.setNode _ (receive_ids (w.nodes j) env nowMs)
      have hmem : ∀ l, ∀ m ∈ update w.inFlight j ((w.inFlight j).eraseIdx k) l,
          m ∈ w.inFlight l := by
        intro l m hm
        by_cases hl : l = j
        · rw [hl, update_self] at hm
          rw [hl]
          exact List.mem_of_mem_eraseIdx hm
        · rwa [update_of_ne hl] at hm
      exact ⟨hnode.ids, fun l m hm => h.sent l m (hmem l m hm)⟩

/-! ## Runs -/

omit [DecidableEq ι] in
lemma hears_iff (h : OnTheWay cluster w) {j : ι} {msg : ι × PlacementEnvelope}
    (hmsg : msg ∈ w.inFlight j) (hfrom : msg.1 ≠ j) :
    (w.nodes j).hears msg.2 ↔
      ∀ tenants, (w.nodes j).bus.subscribedTenants = some tenants →
        tenants mediaPlacementTenant := by
  obtain ⟨hbus, hmedia⟩ := cluster.distinct _ _ hfrom
  rw [MediaNode.hears, ClusterBus.dispatches, (h.ids j).1, (h.ids j).2,
    (h.sent j _ hmsg).1, (h.sent j _ hmsg).2, decide_eq_true hbus, decide_eq_true hmedia]
  cases (w.nodes j).bus.subscribedTenants with
  | none | some => simp

/-- **Step.** An event loses nothing exactly if what it delivers arrives where it is subscribed. -/
lemma allHeard_step_iff (h : OnTheWay cluster w) (event : MediaEvent ι) (hheard : AllHeard w) :
    AllHeard (w.step event) ↔ ArrivesSubscribed w event := by
  cases event with
  | deliver j k nowMs =>
    cases hmsg : (w.inFlight j)[k]? with
    | none =>
      rw [MediaWorld.step, hmsg]
      refine iff_of_true hheard fun msg hm => ?_
      rw [hmsg] at hm
      cases hm
    | some msg =>
      have hmem : msg ∈ w.inFlight j := List.mem_of_getElem? hmsg
      have harrives : ArrivesSubscribed w (.deliver j k nowMs) ↔
          (msg.1 ≠ j → (w.nodes j).hears msg.2) := by
        rw [ArrivesSubscribed, hmsg]
        constructor
        · intro hall hfrom
          exact (hears_iff h hmem hfrom).mpr (hall msg rfl hfrom)
        · rintro hall _ ⟨⟩ hfrom
          exact (hears_iff h hmem hfrom).mp (hall hfrom)
      rw [harrives, MediaWorld.step, hmsg]
      dsimp only [AllHeard]
      by_cases hlost : msg.1 ≠ j ∧ (w.nodes j).hears msg.2 = false
      · rw [if_pos hlost]
        refine iff_of_false (fun hnone => ?_) fun hall => ?_
        · have hj := hnone j
          rw [update_self] at hj
          exact List.append_ne_nil_of_right_ne_nil _ (List.cons_ne_nil _ _) hj
        · rw [hall hlost.1] at hlost
          cases hlost.2
      · rw [if_neg hlost]
        refine iff_of_true hheard fun hfrom => ?_
        rw [← Bool.not_eq_false]
        exact fun hnot => hlost ⟨hfrom, hnot⟩
  | _ => exact iff_of_true hheard trivial

/-- **Placement messages.** For any nodes, any tenants on each of them and any run of pushes of
tenant sets, claims, releases and deliveries: no placement message is lost on the way to another
node's placement, all along the run, exactly if each arrives where the tenant `_media_placement` is
subscribed. -/
theorem placements_heard_iff (cluster : MediaCluster ι) (tenants : ι → String → Bool)
    (events : List (MediaEvent ι)) :
    (∀ before after, events = before ++ after →
      AllHeard (run MediaWorld.step (cluster.start tenants) before)) ↔
      Guarded MediaWorld.step ArrivesSubscribed (cluster.start tenants) events :=
  forall_run_iff_guarded (J := OnTheWay cluster) (fun _ event h => h.step event)
    (fun _ event h hheard => allHeard_step_iff h event hheard) (OnTheWay.start tenants)
    (fun _ => rfl) events

/-! ## Two nodes -/

def twoNodes : MediaCluster Bool where
  busId i := if i then "node-b" else "node-a"
  mediaId i := if i then "node-b" else "node-a"
  region _ := "local"
  announcedIp i := if i then "10.0.0.2" else "10.0.0.1"
  ttlMs _ := 3600000
  distinct := by decide

/-- Tenant `acme` is connected to both nodes. The claim of `node-a` arrives at `node-b` and is
dropped, and `node-b` homes the call itself. -/
theorem claim_dropped :
    let w := run MediaWorld.step (twoNodes.start fun _ tenant => tenant == "acme")
      [.placeFor false "call" 0 0, .deliver true 0 1, .placeFor true "call" 2 2]
    w.missed true = [(false, (w.nodes false).placement.claim "call")] ∧
      ((w.nodes false).placement.registry "call").map (·.home.nodeId) = some "node-a" ∧
      ((w.nodes true).placement.registry "call").map (·.home.nodeId) = some "node-b" := by
  decide +kernel

end Frick.Properties
