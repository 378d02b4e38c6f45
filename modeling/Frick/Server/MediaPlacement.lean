import Mathlib.Data.String.Basic
import Frick.Server.Cluster

/-!
# Media placement

`calls/media_placement.rs`: which node homes the media of a call. The first node that is asked
records itself and publishes a claim; the others learn it from the bus. Of two claims the one with
the lower node id wins. `place_for` looks for a live entry in one lock section of the registry and
records its own claim in another, so both are kept as functions of their own.

An envelope comes in through the bus of the node, which does not hand on what the node published
itself, nor what is for a tenant that is not subscribed (`dispatches`, the same in
`cluster/memory.rs` and `cluster/redis.rs`).
-/

namespace Frick.Server

def mediaPlacementTenant : String := "_media_placement"

/-- The node that homes a call, and where clients reach it. -/
structure MediaHome where
  nodeId : NodeId
  region : String
  announcedIp : String

/-- A home, and when it was learned. -/
structure RegistryEntry where
  home : MediaHome
  atMs : Int

/-- The kinds of `ClusterEnvelope` that media placement publishes. -/
inductive PlacementEnvelope where
  | mediaPlacementClaim (originNodeId : NodeId) (tenantId callId : String) (homeNodeId : NodeId)
      (announcedIp : String)
  | mediaPlacementRelease (originNodeId : NodeId) (tenantId callId : String)
  deriving DecidableEq

namespace PlacementEnvelope

def originNodeId : PlacementEnvelope → NodeId
  | .mediaPlacementClaim origin _ _ _ _ => origin
  | .mediaPlacementRelease origin _ _ => origin

def tenantId : PlacementEnvelope → String
  | .mediaPlacementClaim _ tenant _ _ _ => tenant
  | .mediaPlacementRelease _ tenant _ => tenant

end PlacementEnvelope

/-! ## The bus -/

/-- The inbound side of a bus: its node, and the tenants that the gateway subscribed. -/
structure ClusterBus where
  nodeId : NodeId
  subscribedTenants : Option (String → Bool)

/-- The loop guard and the tenant filter; without a set everything passes. -/
def ClusterBus.dispatches (bus : ClusterBus) (envelope : PlacementEnvelope) : Bool :=
  decide (envelope.originNodeId ≠ bus.nodeId) &&
    bus.subscribedTenants.all fun tenants => tenants envelope.tenantId

/-! ## The registry -/

/-- `ClusterPlacementInner`. -/
structure ClusterMediaPlacement where
  nodeId : NodeId
  region : String
  announcedIp : String
  ttlMs : Int
  registry : String → Option RegistryEntry

namespace ClusterMediaPlacement

variable (placement : ClusterMediaPlacement)

section

variable (callId : String) (nowMs : Int)

/-- The registry with an entry for the call, or without. -/
def setEntry (entry : Option RegistryEntry) : ClusterMediaPlacement :=
  { placement with registry := Function.update placement.registry callId entry }

/-- `live_entry`: an expired entry is dropped. -/
def liveEntry : ClusterMediaPlacement × Option RegistryEntry :=
  match placement.registry callId with
  | none => (placement, none)
  | some entry =>
    if placement.ttlMs ≤ nowMs - entry.atMs then (placement.setEntry callId none, none)
    else (placement, some entry)

def home : MediaHome := ⟨placement.nodeId, placement.region, placement.announcedIp⟩

def claim : PlacementEnvelope :=
  .mediaPlacementClaim placement.nodeId mediaPlacementTenant callId placement.home.nodeId
    placement.home.announcedIp

/-- The second section of `place_for`: the node records itself. -/
def recordHome : ClusterMediaPlacement :=
  placement.setEntry callId (some ⟨placement.home, nowMs⟩)

/-- `place_for`, with the times of its two looks at the clock; the envelope is what it publishes. -/
def placeFor (lookedMs claimedMs : Int) :
    ClusterMediaPlacement × MediaHome × Option PlacementEnvelope :=
  match placement.liveEntry callId lookedMs with
  | (looked, some entry) => (looked, entry.home, none)
  | (looked, none) => (looked.recordHome callId claimedMs, looked.home, some (looked.claim callId))

/-- `release`: only the home node announces it. -/
def release : ClusterMediaPlacement × Option PlacementEnvelope :=
  let weOwn := (placement.registry callId).any fun entry => entry.home.nodeId = placement.nodeId
  (placement.setEntry callId none,
    if weOwn then some (.mediaPlacementRelease placement.nodeId mediaPlacementTenant callId)
    else none)

/-- `on_peer_claim`; the result says whether this node lost a call that it had claimed. -/
def onPeerClaim (peerHome : MediaHome) (nowMs : Int) : ClusterMediaPlacement × Bool :=
  let adopted := placement.setEntry callId (some ⟨peerHome, nowMs⟩)
  match placement.registry callId with
  | none => (adopted, false)
  | some current =>
    if current.home.nodeId = peerHome.nodeId then (adopted, false)
    else if peerHome.nodeId < current.home.nodeId then
      (adopted, decide (current.home.nodeId = placement.nodeId))
    else (placement, false)

/-- `on_envelope`. A claim carries no region. -/
def onEnvelope (envelope : PlacementEnvelope) (nowMs : Int) : ClusterMediaPlacement :=
  if envelope.originNodeId = placement.nodeId then placement
  else match envelope with
    | .mediaPlacementClaim _ _ callId homeNodeId announcedIp =>
      (placement.onPeerClaim callId ⟨homeNodeId, "", announcedIp⟩ nowMs).1
    | .mediaPlacementRelease _ _ callId => placement.setEntry callId none

/-! ## Who a node is does not change -/

/-- The same node, whatever it has recorded. -/
structure SameNode (before after : ClusterMediaPlacement) : Prop where
  nodeId : after.nodeId = before.nodeId
  announcedIp : after.announcedIp = before.announcedIp
  ttlMs : after.ttlMs = before.ttlMs

lemma sameNode_setEntry (entry : Option RegistryEntry) :
    SameNode placement (placement.setEntry callId entry) := ⟨rfl, rfl, rfl⟩

lemma sameNode_refl : SameNode placement placement := ⟨rfl, rfl, rfl⟩

lemma sameNode_liveEntry : SameNode placement (placement.liveEntry callId nowMs).1 := by
  rw [liveEntry]
  split
  · exact sameNode_refl _
  · split_ifs
    · exact sameNode_setEntry _ _ _
    · exact sameNode_refl _

lemma sameNode_onPeerClaim (peerHome : MediaHome) (nowMs : Int) :
    SameNode placement (placement.onPeerClaim callId peerHome nowMs).1 := by
  rw [onPeerClaim]
  split
  · exact sameNode_setEntry _ _ _
  · split_ifs
    · exact sameNode_setEntry _ _ _
    · exact sameNode_setEntry _ _ _
    · exact sameNode_refl _

lemma sameNode_onEnvelope (envelope : PlacementEnvelope) (nowMs : Int) :
    SameNode placement (placement.onEnvelope envelope nowMs) := by
  unfold onEnvelope
  split_ifs
  · exact sameNode_refl _
  · cases envelope with
    | mediaPlacementClaim => exact sameNode_onPeerClaim _ _ _ _
    | mediaPlacementRelease => exact sameNode_setEntry _ _ _

lemma sameNode_placeFor (lookedMs claimedMs : Int) :
    SameNode placement (placement.placeFor callId lookedMs claimedMs).1 := by
  have hlook := placement.sameNode_liveEntry callId lookedMs
  rw [placeFor]
  generalize placement.liveEntry callId lookedMs = looked at hlook
  obtain ⟨looked, _ | entry⟩ := looked
  · exact ⟨hlook.nodeId, hlook.announcedIp, hlook.ttlMs⟩
  · exact hlook

/-! ## The lowest id wins -/

@[simp] lemma registry_setEntry (entry : Option RegistryEntry) :
    (placement.setEntry callId entry).registry callId = entry := Function.update_self ..

lemma registry_onPeerClaim (peerHome : MediaHome) (nowMs : Int) :
    ∃ entry, (placement.onPeerClaim callId peerHome nowMs).1.registry callId = some entry ∧
      entry.home.nodeId ≤ peerHome.nodeId ∧
      (∀ old, placement.registry callId = some old → entry.home.nodeId ≤ old.home.nodeId) ∧
      (entry.home = peerHome ∨ placement.registry callId = some entry) := by
  rw [onPeerClaim]
  cases hold : placement.registry callId with
  | none => exact ⟨_, registry_setEntry _ _ _, le_refl _, nofun, .inl rfl⟩
  | some current =>
    dsimp only
    split_ifs with hsame hlower
    · refine ⟨_, registry_setEntry _ _ _, le_refl _, ?_, .inl rfl⟩
      rintro _ ⟨⟩
      exact hsame.ge
    · refine ⟨_, registry_setEntry _ _ _, le_refl _, ?_, .inl rfl⟩
      rintro _ ⟨⟩
      exact hlower.le
    · refine ⟨current, hold, not_lt.mp hlower, ?_, .inr rfl⟩
      rintro _ ⟨⟩
      exact le_refl _

/-- The entry of the call, if there is one, has not expired. -/
def Unexpired : Prop :=
  ∀ entry ∈ placement.registry callId, nowMs - entry.atMs < placement.ttlMs

end

instance (callId : String) (nowMs : Int) : Decidable (placement.Unexpired callId nowMs) :=
  inferInstanceAs (Decidable (∀ _ ∈ _, _))

variable {callId : String} {nowMs : Int} {envelope : PlacementEnvelope}

lemma liveEntry_of_unexpired (h : placement.Unexpired callId nowMs) :
    placement.liveEntry callId nowMs = (placement, placement.registry callId) := by
  rw [liveEntry]
  cases hentry : placement.registry callId with
  | none => rfl
  | some entry => exact if_neg (not_le.mpr (h entry hentry))

lemma registry_liveEntry_of_none (h : (placement.liveEntry callId nowMs).2 = none) :
    (placement.liveEntry callId nowMs).1.registry callId = none := by
  rw [liveEntry] at h ⊢
  cases hentry : placement.registry callId with
  | none => exact hentry
  | some =>
    rw [hentry] at h
    dsimp only at h ⊢
    split_ifs at h ⊢
    exact registry_setEntry _ _ _

/-! ## What a node publishes -/

/-- An envelope of this node's placement. -/
def Publishes (envelope : PlacementEnvelope) : Prop :=
  envelope.originNodeId = placement.nodeId ∧ envelope.tenantId = mediaPlacementTenant

lemma publishes_placeFor {lookedMs claimedMs : Int}
    (h : (placement.placeFor callId lookedMs claimedMs).2.2 = some envelope) :
    placement.Publishes envelope := by
  have hlook := placement.sameNode_liveEntry callId lookedMs
  rw [placeFor] at h
  generalize placement.liveEntry callId lookedMs = looked at hlook h
  obtain ⟨looked, _ | entry⟩ := looked
  · obtain rfl := Option.some.inj h
    exact ⟨hlook.nodeId, rfl⟩
  · cases h

lemma publishes_release (h : (placement.release callId).2 = some envelope) :
    placement.Publishes envelope := by
  rw [release] at h
  split_ifs at h
  obtain rfl := Option.some.inj h
  exact ⟨rfl, rfl⟩

end ClusterMediaPlacement

end Frick.Server
