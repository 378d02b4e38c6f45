import Frick.Framework.Run
import Frick.Store.Presence

/-!
# Reading presence does not evict a live lease

The `DELETE` of a read is by key alone, so it takes whatever row stands there by then. While no
`set` comes between the `SELECT` that saw an expired row and that `DELETE`, the row is still the
expired one: only a `set` replaces it, and the clock does not go back.
-/

namespace Frick.Properties

open Framework Protocol Store PresenceStore

variable {β : Type}

/-- A read that starts now returns the lease of the last `set`, if it has not expired. -/
def ReturnsLease (store : PresenceStore β) (w : LeaseWorld β) : Prop :=
  ∀ lease ∈ w.lease, w.nowMs < lease.expiresAt →
    store.read w.row w.nowMs = some (store.leaseValue lease)

/-- The condition on the schedule: a `set` comes only while no read has yet to `DELETE` the expired
row that it saw. -/
def SetsApart (w : LeaseWorld β) : LeaseEvent → Prop
  | .set _ _ => w.clearing = 0
  | _ => True

/-- A lease that has not expired is the row, and a row about to be deleted has expired. -/
structure LeaseStands (w : LeaseWorld β) : Prop where
  live : ∀ lease ∈ w.lease, w.nowMs < lease.expiresAt → w.row = some lease
  expired : w.clearing ≠ 0 → ∀ lease ∈ w.row, lease.expiresAt ≤ w.nowMs

section Steps

variable {store : PresenceStore β} {presenceType presenceKey : String} {w : LeaseWorld β}

lemma LeaseStands.returnsLease (h : LeaseStands w) : ReturnsLease store w := by
  intro lease hlease hlive
  rw [h.live lease hlease hlive, PresenceStore.read]
  exact if_neg (not_le.mpr hlive)

lemma expiresAt_le_of_read (h : store.read w.row w.nowMs = none) :
    ∀ lease ∈ w.row, lease.expiresAt ≤ w.nowMs := by
  intro lease hlease
  rw [Option.mem_def.mp hlease, PresenceStore.read] at h
  by_contra hlive
  rw [if_neg hlive] at h
  cases h

/-- **Step.** One event keeps a live lease under its key, if no `set` comes between a read's
`SELECT` and its `DELETE`. -/
lemma LeaseStands.step (h : LeaseStands w) {event : LeaseEvent} (hapart : SetsApart w event) :
    LeaseStands (store.step presenceType presenceKey w event) := by
  cases event with
  | tick ms =>
    have hclock : w.nowMs ≤ w.nowMs + ms := by omega
    exact ⟨fun lease hlease hlive => h.live lease hlease (hclock.trans_lt hlive),
      fun hclearing lease hlease => (h.expired hclearing lease hlease).trans hclock⟩
  | set value ttlMs =>
    unfold PresenceStore.step
    dsimp only
    split
    · exact ⟨fun lease hlease _ => hlease, fun hclearing => absurd hapart hclearing⟩
    · exact h
  | read =>
    unfold PresenceStore.step
    dsimp only
    split_ifs with hread
    · exact ⟨h.live, fun _ => expiresAt_le_of_read hread⟩
    · exact h
  | clear =>
    unfold PresenceStore.step
    dsimp only
    split_ifs with hclearing
    · exact h
    · -- The row that goes has expired, so it is no live lease.
      refine ⟨fun lease hlease hlive => ?_, fun _ => nofun⟩
      have hexpired := h.expired hclearing lease (h.live lease hlease hlive)
      exact absurd hlive (not_lt.mpr hexpired)

end Steps

/-- **No live lease is evicted.** Over every interleaving of the statements of `set` and `read`
calls with a clock that does not go back: while no `set` comes between the `SELECT` of a read that
saw an expired row and its `DELETE`, every read that starts returns the lease of the last completed
`set` until it expires. -/
theorem live_lease_returned (store : PresenceStore β) (presenceType presenceKey : String)
    (nowMs : Int) (events : List LeaseEvent)
    (hguard : Guarded (store.step presenceType presenceKey) SetsApart { nowMs } events) :
    ReturnsLease store (run (store.step presenceType presenceKey) { nowMs } events) := by
  have hstart : LeaseStands ({ nowMs } : LeaseWorld β) := ⟨nofun, fun h => absurd rfl h⟩
  have hstands : LeaseStands (run (store.step presenceType presenceKey) { nowMs } events) :=
    run_invariant (fun _ _ h hapart => h.step hapart) hstart hguard
  exact hstands.returnsLease

def cursorStore : PresenceStore PackedKeyedRecord where
  schema := { presences := [⟨1, "Cursor", [], [], 1000⟩] }
  codec := .plain _

/-- A lease of ten milliseconds expires, a read deletes it, and it is taken again. -/
def renewedAfterRead : List LeaseEvent :=
  [.set (.map []) 10, .tick 10, .read, .clear, .set (.map []) 10, .tick 5]

theorem renewed_lease_returned :
    ReturnsLease cursorStore
      (run (cursorStore.step "Cursor" "r1") { nowMs := 0 } renewedAfterRead) :=
  live_lease_returned cursorStore "Cursor" "r1" 0 renewedAfterRead
    ⟨rfl, trivial, trivial, trivial, rfl, trivial, trivial⟩

/-- **A renewal is evicted.** It lands between the `SELECT` of a read and its `DELETE`. -/
theorem renewal_evicted :
    let w := run (cursorStore.step "Cursor" "r1") { nowMs := 0 }
      [.set (.map []) 10, .tick 10, .read, .set (.map []) 10, .clear]
    w.lease.map PresenceLease.expiresAt = some 20 ∧ w.nowMs = 10 ∧
      cursorStore.read w.row w.nowMs = some (.ok none) :=
  ⟨rfl, rfl, rfl⟩

end Frick.Properties
