import Frick.Properties.PlacementDelivery

/-!
# A release by a node that is not the home

`release` drops the entry of the call from the registry of the node whoever homes the call; only
what it publishes depends on who does. So a node that has learned the home of a call from a peer and
releases the call forgets the home, and when it is asked next it claims the call for itself.
-/

namespace Frick.Properties

open Function Framework Server MediaWorld

variable {ι : Type} [DecidableEq ι]

/-- What a node answers to a `place_for`. -/
def resolution (w : MediaWorld ι) (callId : String) (node : ι) (nowMs : Int) : MediaHome :=
  ((w.nodes node).placement.placeFor callId nowMs nowMs).2.1

/-- By its own registry, the node is not the home of the call. -/
def NotHome (w : MediaWorld ι) (callId : String) (node : ι) : Prop :=
  ∀ entry ∈ (w.nodes node).placement.registry callId,
    entry.home.nodeId ≠ (w.nodes node).placement.nodeId

/-- With the release and without it every node resolves the call alike, from `nowMs` on and whatever
happens later. -/
def HarmlessRelease (w : MediaWorld ι) (callId : String) (node : ι) (nowMs : Int) : Prop :=
  ∀ later j askedMs, nowMs ≤ askedMs →
    resolution (run step (w.step (.release node callId)) later) callId j askedMs =
      resolution (run step w later) callId j askedMs

instance (w : MediaWorld ι) (callId : String) (node : ι) : Decidable (NotHome w callId node) :=
  inferInstanceAs (Decidable (∀ ent ∈ (w.nodes node).placement.registry callId, _ ≠ _))

variable {w : MediaWorld ι} {callId : String} {node : ι} {nowMs : Int}

lemma step_release_of_none (h : (w.nodes node).placement.registry callId = none) :
    w.step (.release node callId) = w := by
  have hsame : (w.nodes node).placement.setEntry callId none = (w.nodes node).placement := by
    rw [ClusterMediaPlacement.setEntry, ← h, update_eq_self]
  simp [MediaWorld.step, ClusterMediaPlacement.release, hsame, h, setNode, publish]

lemma resolution_step_release :
    (resolution (w.step (.release node callId)) callId node nowMs).nodeId =
      (w.nodes node).placement.nodeId := by
  simp [resolution, MediaWorld.step, ClusterMediaPlacement.release, setNode, publish,
    ClusterMediaPlacement.placeFor, ClusterMediaPlacement.liveEntry, ClusterMediaPlacement.home,
    ClusterMediaPlacement.setEntry]

/-- **Whose release is harmless.** In any world, however it came about, a release on a node that is
not the home and whose entry has not expired leaves every later resolution as it was exactly if the
node has no entry of the call. -/
theorem foreign_release_harmless_iff (w : MediaWorld ι) (callId : String) (node : ι) (nowMs : Int)
    (hforeign : NotHome w callId node)
    (hlive : (w.nodes node).placement.Unexpired callId nowMs) :
    HarmlessRelease w callId node nowMs ↔ (w.nodes node).placement.registry callId = none := by
  constructor
  · intro h
    cases hentry : (w.nodes node).placement.registry callId with
    | none => rfl
    | some entry =>
      have hbefore : resolution w callId node nowMs = entry.home := by
        rw [resolution, ClusterMediaPlacement.placeFor,
          ClusterMediaPlacement.liveEntry_of_unexpired _ hlive, hentry]
      have hsame := congrArg MediaHome.nodeId (h [] node nowMs (le_refl _))
      rw [run_nil, run_nil, resolution_step_release, hbefore] at hsame
      exact absurd hsame.symm (hforeign entry hentry)
  · intro h later j askedMs _
    rw [step_release_of_none h]

/-! ## Two nodes -/

/-- The second node homes the call, and the first has learned so. -/
def learned : MediaWorld Bool :=
  run step (twoNodes.start fun _ _ => true) [.placeFor true "call-1" 0 0, .deliver false 0 1]

/-- A node may release a call that it has never heard of. -/
theorem release_of_unknown_call_harmless : HarmlessRelease learned "call-2" false 2 :=
  (foreign_release_harmless_iff learned "call-2" false 2 (by decide) (by decide)).mpr rfl

/-- **A release moves the home.** `node-a` is not the home and releases the call; asked again it
claims the call, its id is the lower one, and in the end `node-b` itself resolves the call to
`node-a`. -/
theorem release_takes_call_over :
    NotHome learned "call-1" false ∧ (∀ j, (resolution learned "call-1" j 2).nodeId = "node-b") ∧
      ∀ j, (resolution (run step learned
        [.release false "call-1", .placeFor false "call-1" 2 2, .deliver true 1 3]) "call-1" j
          4).nodeId = "node-a" := by
  decide

end Frick.Properties
