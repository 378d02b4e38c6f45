import Frick.Properties.PlacementDelivery

/-!
# One home for a call

Several nodes may be asked for the same call before they have heard of each other. Each of them
claims it, and of two claims the lower node id wins, so that with all claims delivered every node
should know the lowest claimant.

`place_for` does not look and claim in one lock section. A lower claim that arrives in between is
recorded, and then overwritten by the node's own, which nobody will ever correct.
-/

namespace Frick.Properties

open Function Framework Server ClusterMediaPlacement List

variable {ι : Type}

/-- Nothing expires, and a node that records itself has heard of no lower home. -/
def ClaimIsDue (callId : String) (w : PlacementWorld ι) : PlacementEvent ι → Prop
  | .look i nowMs => (w.placements i).Unexpired callId nowMs
  | .claim i _ =>
    w.looking i ≠ 0 →
      ∀ entry ∈ (w.placements i).registry callId, (w.placements i).nodeId ≤ entry.home.nodeId
  | .deliver _ _ _ => True

instance (callId : String) (w : PlacementWorld ι) (event : PlacementEvent ι) :
    Decidable (ClaimIsDue callId w event) :=
  match event with
  | .look i nowMs => inferInstanceAs (Decidable ((w.placements i).Unexpired callId nowMs))
  | .claim i _ => inferInstanceAs (Decidable (w.looking i ≠ 0 → ∀ entry ∈ _, _ ≤ _))
  | .deliver _ _ _ => isTrue trivial

/-- The lowest node id among the claimants. -/
def LowestClaimant (cluster : MediaCluster ι) (w : PlacementWorld ι) (i : ι) : Prop :=
  i ∈ w.claimants ∧ ∀ j ∈ w.claimants, cluster.mediaId i ≤ cluster.mediaId j

/-! ## The invariant -/

/-- Every claim is on its way to a node or has been taken into account there, and every home is that
of a claimant. -/
structure Converging (cluster : MediaCluster ι) (callId : String) (w : PlacementWorld ι) :
    Prop where
  node : ∀ i, (w.placements i).nodeId = cluster.mediaId i ∧
    (w.placements i).announcedIp = cluster.announcedIp i
  sent : ∀ j, ∀ envelope ∈ w.inFlight j,
    ∃ i ∈ w.claimants, i ≠ j ∧ envelope = cluster.claim callId i
  known : ∀ i ∈ w.claimants, ∀ j, cluster.claim callId i ∈ w.inFlight j ∨
    ∃ entry, (w.placements j).registry callId = some entry ∧ entry.home.nodeId ≤ cluster.mediaId i
  home : ∀ j entry, (w.placements j).registry callId = some entry →
    ∃ i ∈ w.claimants, entry.home.nodeId = cluster.mediaId i ∧
      entry.home.announcedIp = cluster.announcedIp i

namespace Converging

variable {cluster : MediaCluster ι} {callId : String} {w : PlacementWorld ι}

lemma start : Converging cluster callId cluster.unasked where
  node _ := ⟨rfl, rfl⟩
  sent _ _ := nofun
  known _ := nofun
  home _ _ := nofun

/-- With all claims delivered, the entry of every node is the lowest claimant's. -/
lemma entry_of_delivered (h : Converging cluster callId w) (hdlvd : ∀ j, w.inFlight j = [])
    {i : ι} (hlow : LowestClaimant cluster w i) (j : ι) :
    ∃ entry, (w.placements j).registry callId = some entry ∧
      entry.home.nodeId = cluster.mediaId i ∧ entry.home.announcedIp = cluster.announcedIp i := by
  rcases h.known i hlow.1 j with hflight | ⟨entry, hentry, hle⟩
  · rw [hdlvd j] at hflight
    cases hflight
  obtain ⟨k, hk, hid, hip⟩ := h.home j entry hentry
  have hsame : cluster.mediaId k = cluster.mediaId i := le_antisymm (hid ▸ hle) (hlow.2 k hk)
  obtain rfl : k = i := by
    by_contra hne
    exact (cluster.distinct k i hne).2 hsame
  exact ⟨entry, hentry, hid, hip⟩

variable [DecidableEq ι]

section

variable (h : Converging cluster callId w)
include h

lemma update (j : ι) {placement : ClusterMediaPlacement}
    {w' : PlacementWorld ι} (hsame : SameNode (w.placements j) placement)
    (hplacements : w'.placements = update w.placements j placement)
    (hsent : ∀ l, ∀ env ∈ w'.inFlight l, ∃ i ∈ w'.claimants, i ≠ l ∧ env = cluster.claim callId i)
    (hclaimants : ∀ i ∈ w.claimants, i ∈ w'.claimants)
    (hoth : ∀ i ∈ w'.claimants, ∀ l, l ≠ j → cluster.claim callId i ∈ w'.inFlight l ∨
      i ∈ w.claimants ∧
        (cluster.claim callId i ∈ w.inFlight l → cluster.claim callId i ∈ w'.inFlight l))
    (hself : ∀ i ∈ w'.claimants, cluster.claim callId i ∈ w'.inFlight j ∨
      ∃ entry, placement.registry callId = some entry ∧ entry.home.nodeId ≤ cluster.mediaId i)
    (hhome : ∀ entry, placement.registry callId = some entry →
      ∃ i ∈ w'.claimants, entry.home.nodeId = cluster.mediaId i ∧
        entry.home.announcedIp = cluster.announcedIp i) : Converging cluster callId w' := by
  refine ⟨fun l => ?_, hsent, fun i hi l => ?_, fun l entry hentry => ?_⟩
  · rw [hplacements]
    by_cases hl : l = j
    · rw [hl, update_self, hsame.nodeId, hsame.announcedIp]
      exact h.node j
    · rw [update_of_ne hl]
      exact h.node l
  · rw [hplacements]
    by_cases hl : l = j
    · rw [hl, update_self]
      exact hself i hi
    rw [update_of_ne hl]
    rcases hoth i hi l hl with hflight | ⟨hold, hstays⟩
    · exact .inl hflight
    · rcases h.known i hold l with hflight | hknown
      · exact .inl (hstays hflight)
      · exact .inr hknown
  · rw [hplacements] at hentry
    by_cases hl : l = j
    · rw [hl, update_self] at hentry
      exact hhome entry hentry
    · rw [update_of_ne hl] at hentry
      obtain ⟨i, hi, hid, hip⟩ := h.home l entry hentry
      exact ⟨i, hclaimants i hi, hid, hip⟩

lemma claim {i : ι} (nowMs : Int) (hdue : ClaimIsDue callId w (.claim i nowMs)) :
    Converging cluster callId (w.step callId (.claim i nowMs)) := by
  rw [PlacementWorld.step]
  cases hlooking : w.looking i with
  | zero => exact h
  | succ calls =>
    have hclaim : (w.placements i).claim callId = cluster.claim callId i := by
      rw [ClusterMediaPlacement.claim, ClusterMediaPlacement.home, (h.node i).1, (h.node i).2]
      rfl
    have hgrows {P : ι → Prop} : (∃ k ∈ w.claimants, P k) → ∃ k ∈ i :: w.claimants, P k :=
      fun ⟨k, hk, hP⟩ => ⟨k, mem_cons_of_mem i hk, hP⟩
    refine h.update i (sameNode_setEntry _ callId _) rfl ?_
      (fun l hl => mem_cons_of_mem i hl) ?_ ?_ ?_
    · intro l env henv
      dsimp only at henv
      by_cases hl : l = i
      · rw [if_pos hl] at henv
        exact hgrows (h.sent l env henv)
      rw [if_neg hl] at henv
      rcases mem_append.mp henv with hold | hnew
      · exact hgrows (h.sent l env hold)
      · refine ⟨i, mem_cons_self, Ne.symm hl, ?_⟩
        rw [mem_singleton.mp hnew, hclaim]
    · intro k hk l hl
      dsimp only
      rw [if_neg hl]
      rcases mem_cons.mp hk with rfl | hold
      · left
        rw [hclaim]
        exact mem_append_right _ mem_cons_self
      · exact .inr ⟨hold, fun hflight => mem_append_left _ hflight⟩
    · intro k hk
      dsimp only
      rw [if_pos rfl]
      have hown := (h.node i).1
      rcases mem_cons.mp hk with rfl | hold
      · exact .inr ⟨_, registry_setEntry _ _ _, hown.le⟩
      rcases h.known k hold i with hflight | ⟨entry, hentry, hle⟩
      · exact .inl hflight
      · right
        refine ⟨_, registry_setEntry _ _ _, le_trans ?_ hle⟩
        exact hdue (by rw [hlooking]; exact Nat.succ_ne_zero calls) entry hentry
    · intro entry hentry
      rw [registry_setEntry] at hentry
      obtain rfl := Option.some.inj hentry
      exact ⟨i, mem_cons_self, h.node i⟩

lemma deliver (j : ι) (k : Nat) (nowMs : Int) :
    Converging cluster callId (w.step callId (.deliver j k nowMs)) := by
  rw [PlacementWorld.step]
  cases henv : (w.inFlight j)[k]? with
  | none => exact h
  | some env =>
    obtain ⟨i, hi, hne, rfl⟩ := h.sent j env (mem_of_getElem? henv)
    have horigin : (cluster.claim callId i).originNodeId ≠ (w.placements j).nodeId := by
      rw [(h.node j).1]
      exact (cluster.distinct i j hne).2
    have hon : (w.placements j).onEnvelope (cluster.claim callId i) nowMs =
        ((w.placements j).onPeerClaim callId
          ⟨cluster.mediaId i, "", cluster.announcedIp i⟩ nowMs).1 := if_neg horigin
    obtain ⟨entry, hentry, hpeer, hold, hhome⟩ := (w.placements j).registry_onPeerClaim callId
      ⟨cluster.mediaId i, "", cluster.announcedIp i⟩ nowMs
    refine h.update j (sameNode_onEnvelope _ _ _) rfl ?_ (fun _ hl => hl)
      ?_ ?_ ?_
    · intro l env henv
      dsimp only at henv
      by_cases hl : l = j
      · rw [hl, update_self] at henv
        rw [hl]
        exact h.sent j env (mem_of_mem_eraseIdx henv)
      · rw [update_of_ne hl] at henv
        exact h.sent l env henv
    · intro i' hi' l hl
      dsimp only
      rw [update_of_ne hl]
      exact .inr ⟨hi', id⟩
    · intro i' hi'
      dsimp only
      rw [update_self, hon]
      by_cases hsame : i' = i
      · rw [hsame]
        exact .inr ⟨entry, hentry, hpeer⟩
      rcases h.known i' hi' j with hflight | ⟨current, hcur, hle⟩
      · left
        obtain ⟨n, hn⟩ := List.getElem?_of_mem hflight
        refine mem_eraseIdx_iff_getElem?.mpr ⟨n, ?_, hn⟩
        rintro rfl
        have hclaim := Option.some.inj (hn.symm.trans henv)
        exact (cluster.distinct i' i hsame).2 (congrArg PlacementEnvelope.originNodeId hclaim)
      · exact .inr ⟨entry, hentry, (hold current hcur).trans hle⟩
    · intro found hfound
      rw [hon, hentry] at hfound
      obtain rfl := Option.some.inj hfound
      rcases hhome with hnew | hkept
      · exact ⟨i, hi, by rw [hnew], by rw [hnew]⟩
      · exact h.home j entry hkept

/-- **Step.** A look in time, a due claim and any delivery keep every claim on its way or known. -/
lemma step (event : PlacementEvent ι)
    (hdue : ClaimIsDue callId w event) : Converging cluster callId (w.step callId event) := by
  cases event with
  | look i =>
    have hlive := (w.placements i).liveEntry_of_unexpired hdue
    rw [PlacementWorld.step, hlive]
    dsimp only
    rw [update_eq_self]
    exact ⟨h.node, h.sent, h.known, h.home⟩
  | claim _ nowMs => exact h.claim nowMs hdue
  | deliver j k nowMs => exact h.deliver j k nowMs

end

end Converging

/-! ## Runs -/

variable [DecidableEq ι]

/-- **Convergence.** For any nodes with distinct ids and any run of `place_for` sections and
deliveries in which nothing expires and every node that records itself has heard of no lower home:
once all claims are delivered, every node resolves the call to the lowest claimant. -/
theorem placement_converges (cluster : MediaCluster ι) (callId : String)
    (events : List (PlacementEvent ι))
    (hguard : Guarded (PlacementWorld.step callId) (ClaimIsDue callId) cluster.unasked events)
    (hdelivered : ∀ j, (run (PlacementWorld.step callId) cluster.unasked events).inFlight j = [])
    (lowest : ι)
    (hlowest : LowestClaimant cluster
      (run (PlacementWorld.step callId) cluster.unasked events) lowest)
    (j : ι) (lookedMs claimedMs : Int)
    (hunexpired : ((run (PlacementWorld.step callId) cluster.unasked events).placements j).Unexpired
      callId lookedMs) :
    let home := (((run (PlacementWorld.step callId) cluster.unasked events).placements j).placeFor
      callId lookedMs claimedMs).2.1
    home.nodeId = cluster.mediaId lowest ∧ home.announcedIp = cluster.announcedIp lowest := by
  have hconverging : Converging cluster callId
      (run (PlacementWorld.step callId) cluster.unasked events) :=
    run_invariant (fun _ event h hdue => h.step event hdue) Converging.start hguard
  obtain ⟨entry, hentry, hid, hip⟩ := hconverging.entry_of_delivered hdelivered hlowest j
  rw [placeFor, liveEntry_of_unexpired _ hunexpired, hentry]
  exact ⟨hid, hip⟩

/-- Both nodes claim before they hear of each other, and both come to know the lower one. -/
theorem both_claim_and_agree :
    let w := run (PlacementWorld.step "call") twoNodes.unasked
      [.look true 0, .look false 0, .claim true 1, .claim false 1, .deliver true 0 2,
        .deliver false 0 2]
    let home := ((w.placements true).placeFor "call" 3 3).2.1
    home.nodeId = "node-a" ∧ home.announcedIp = "10.0.0.1" :=
  placement_converges twoNodes "call" _ (by decide +kernel) (by decide +kernel) false
    (by unfold LowestClaimant; decide +kernel) true 3 3 (by decide +kernel)

/-- A `place_for` that is not interrupted claims only what nobody has claimed. -/
theorem claim_due_after_look {callId : String} {w : PlacementWorld ι} {i : ι} {lookedMs : Int}
    (claimedMs : Int) (hlook : ((w.placements i).liveEntry callId lookedMs).2 = none) :
    ClaimIsDue callId (w.step callId (.look i lookedMs)) (.claim i claimedMs) := by
  rintro - entry hentry
  have hself : (w.step callId (.look i lookedMs)).placements i =
      ((w.placements i).liveEntry callId lookedMs).1 := update_self ..
  rw [hself, registry_liveEntry_of_none _ hlook] at hentry
  cases hentry

/-- `node-b` finds no entry; the claim of `node-a` arrives and is recorded; `node-b` goes on and
records itself. All claims are delivered, and each node takes itself for the home. -/
theorem lower_claim_overwritten :
    let w := run (PlacementWorld.step "call") twoNodes.unasked
      [.look true 0, .look false 0, .claim false 1, .deliver true 0 2, .claim true 3,
        .deliver false 0 4]
    (∀ j, w.inFlight j = []) ∧ ((w.placements false).placeFor "call" 5 5).2.1.nodeId = "node-a" ∧
      ((w.placements true).placeFor "call" 5 5).2.1.nodeId = "node-b" := by
  decide +kernel

end Frick.Properties
