import Frick.Server.MediaPlacement

/-!
# Media placement in a cluster

The nodes of a cluster with their buses and the broker between them. `MediaWorld` is the bus as it
is: the gateway of a node and its media placement share it, and whatever the tenant filter drops is
kept in `missed`. `PlacementWorld` is one call with every claim let through, with the two lock
sections of `place_for` as steps of their own.
-/

namespace Frick.Server

open Function

variable {ι : Type}

/-! ## Messages -/

/-- A node: its bus, with what the gateway has told it, and its media placement. -/
structure MediaNode where
  bus : ClusterBus
  placement : ClusterMediaPlacement

/-- Who the nodes of a cluster are. A node goes by one id on the bus, and for media by that or by
another; no other node has either. -/
structure MediaCluster (ι : Type) where
  busId : ι → NodeId
  mediaId : ι → NodeId
  region : ι → String
  announcedIp : ι → String
  ttlMs : ι → Int
  distinct : ∀ i j, i ≠ j → mediaId i ≠ busId j ∧ mediaId i ≠ mediaId j

/-- The nodes, what the broker still has for each of them, and what was for a node's placement and
did not get there. -/
structure MediaWorld (ι : Type) where
  nodes : ι → MediaNode
  inFlight : ι → List (ι × PlacementEnvelope)
  missed : ι → List (ι × PlacementEnvelope)

/-- What happens: a gateway pushes the tenants of its node, a placement is asked for a call or
releases one, or a message arrives, in any order. -/
inductive MediaEvent (ι : Type) where
  | setSubscribedTenants (node : ι) (tenants : String → Bool)
  | placeFor (node : ι) (callId : String) (lookedMs claimedMs : Int)
  | release (node : ι) (callId : String)
  | deliver (node : ι) (k : Nat) (nowMs : Int)

/-- The handler of the placement looks at the envelope: the bus hands it on, and it is not the
placement's own. -/
def MediaNode.hears (node : MediaNode) (envelope : PlacementEnvelope) : Bool :=
  node.bus.dispatches envelope && decide (envelope.originNodeId ≠ node.placement.nodeId)

/-- An envelope arrives at a node. -/
def MediaNode.receive (node : MediaNode) (envelope : PlacementEnvelope) (nowMs : Int) : MediaNode :=
  if node.bus.dispatches envelope then
    { node with placement := node.placement.onEnvelope envelope nowMs }
  else node

namespace MediaWorld

variable [DecidableEq ι] (w : MediaWorld ι)

/-- The broker passes an envelope to the bus of every node. -/
def publish (node : ι) (envelope : Option PlacementEnvelope) : MediaWorld ι :=
  { w with inFlight := fun j => w.inFlight j ++ (envelope.map fun e => (node, e)).toList }

def setNode (node : ι) (after : MediaNode) : MediaWorld ι :=
  { w with nodes := update w.nodes node after }

/-- One event. A message that arrives goes through the bus of the node. -/
def step : MediaEvent ι → MediaWorld ι
  | .setSubscribedTenants i tenants =>
    w.setNode i { w.nodes i with bus := { (w.nodes i).bus with subscribedTenants := some tenants } }
  | .placeFor i callId lookedMs claimedMs =>
    let (placement, _, published) := (w.nodes i).placement.placeFor callId lookedMs claimedMs
    (w.setNode i { w.nodes i with placement }).publish i published
  | .release i callId =>
    let (placement, published) := (w.nodes i).placement.release callId
    (w.setNode i { w.nodes i with placement }).publish i published
  | .deliver j k nowMs =>
    match (w.inFlight j)[k]? with
    | none => w
    | some (sender, envelope) =>
      { nodes := update w.nodes j ((w.nodes j).receive envelope nowMs)
        inFlight := update w.inFlight j ((w.inFlight j).eraseIdx k)
        missed :=
          if sender ≠ j ∧ (w.nodes j).hears envelope = false then
            update w.missed j (w.missed j ++ [(sender, envelope)])
          else w.missed }

end MediaWorld

def MediaCluster.start (cluster : MediaCluster ι) (tenants : ι → String → Bool) : MediaWorld ι where
  nodes i :=
    { bus := ⟨cluster.busId i, some (tenants i)⟩
      placement := ⟨cluster.mediaId i, cluster.region i, cluster.announcedIp i, cluster.ttlMs i,
        fun _ => none⟩ }
  inFlight _ := []
  missed _ := []

/-! ## One call -/

/-- The placements of the nodes, for one call. `looking` counts the calls of `place_for` that have
found no live entry and not yet claimed, and `claimants` are the nodes that have. -/
structure PlacementWorld (ι : Type) where
  placements : ι → ClusterMediaPlacement
  looking : ι → Nat
  inFlight : ι → List PlacementEnvelope
  claimants : List ι

/-- The first section of a `place_for`, its second one with what it publishes, or a claim that
arrives. -/
inductive PlacementEvent (ι : Type) where
  | look (node : ι) (nowMs : Int)
  | claim (node : ι) (nowMs : Int)
  | deliver (node : ι) (k : Nat) (nowMs : Int)

namespace PlacementWorld

variable [DecidableEq ι] (callId : String) (w : PlacementWorld ι)

/-- One event. A `place_for` that finds a live entry is over; another one has its claim to make. -/
def step : PlacementEvent ι → PlacementWorld ι
  | .look i nowMs =>
    let (looked, found) := (w.placements i).liveEntry callId nowMs
    { w with
      placements := update w.placements i looked
      looking := if found.isSome then w.looking else update w.looking i (w.looking i + 1) }
  | .claim i nowMs =>
    match w.looking i with
    | 0 => w
    | calls + 1 =>
      { placements :=
          update w.placements i ((w.placements i).recordHome callId nowMs)
        looking := update w.looking i calls
        inFlight := fun j =>
          if j = i then w.inFlight j else w.inFlight j ++ [(w.placements i).claim callId]
        claimants := i :: w.claimants }
  | .deliver j k nowMs =>
    match (w.inFlight j)[k]? with
    | none => w
    | some envelope =>
      { w with
        placements := update w.placements j ((w.placements j).onEnvelope envelope nowMs)
        inFlight := update w.inFlight j ((w.inFlight j).eraseIdx k) }

end PlacementWorld

def MediaCluster.unasked (cluster : MediaCluster ι) : PlacementWorld ι where
  placements i := ⟨cluster.mediaId i, cluster.region i, cluster.announcedIp i, cluster.ttlMs i,
    fun _ => none⟩
  looking _ := 0
  inFlight _ := []
  claimants := []

def MediaCluster.claim (cluster : MediaCluster ι) (callId : String) (i : ι) : PlacementEnvelope :=
  .mediaPlacementClaim (cluster.mediaId i) mediaPlacementTenant callId (cluster.mediaId i)
    (cluster.announcedIp i)

end Frick.Server
