import Mathlib.Data.Nat.Bitwise
import Frick.Framework.Run

/-!
# The replay window

`packages/core/src/e2ee.ts`, `ReplayWindow`: the guard of one sender's frames in one epoch. It keeps
the highest counter it has accepted and one bit for each of the `size` counters up to it.

A jump shifts the bits, and those that leave the window drop off.
-/

namespace Frick.Client

open Framework List

/-- `ReplayWindow`, of a size that its constructor has checked to be at least one. -/
structure ReplayWindow (size : Nat) where
  highest : Int := 0
  bitmap : Nat := 0

namespace ReplayWindow

variable {size : Nat} (w : ReplayWindow size) (counter : Int)

def seen : Bool :=
  if counter ≤ 0 then true
  else if counter > w.highest then false
  else
    let delta := w.highest - counter
    if delta ≥ size then true else w.bitmap &&& 1 <<< delta.toNat ≠ 0

/-- The bitmap of `check` after a move up, under `#mask`: bits shifted past `size` drop off. -/
def slide (shift : Int) : Nat :=
  if shift ≥ size then 0 else w.bitmap <<< shift.toNat &&& ((1 <<< size) - 1)

def check : ReplayWindow size × Bool :=
  if counter ≤ 0 then (w, false)
  else if counter > w.highest then (⟨counter, w.slide (counter - w.highest) ||| 1⟩, true)
  else
    let delta := w.highest - counter
    if delta ≥ size then (w, false)
    else
      let bit := 1 <<< delta.toNat
      if w.bitmap &&& bit ≠ 0 then (w, false) else (⟨w.highest, w.bitmap ||| bit⟩, true)

lemma testBit_slide (shift i : Nat) : (w.slide shift).testBit i ↔
    i < size ∧ shift ≤ i ∧ w.bitmap.testBit (i - shift) := by
  unfold slide
  split
  next hfar =>
    simp only [Nat.zero_testBit, Bool.false_eq_true, false_iff]
    omega
  next => simp [Nat.one_shiftLeft]

lemma seen_iff : w.seen counter ↔ (w.check counter).2 = false := by
  unfold seen check
  dsimp only
  split_ifs <;> simp_all

end ReplayWindow

/-- A window and the counters it has accepted, which no transition reads. -/
structure Checked (size : Nat) where
  window : ReplayWindow size := {}
  accepted : List Int := []

namespace Checked

variable {size : Nat} {s : Checked size} {counter : Int}

/-- One `check`; an accepted counter is recorded. -/
def step (s : Checked size) (counter : Int) : Checked size :=
  ⟨(s.window.check counter).1,
    if (s.window.check counter).2 then counter :: s.accepted else s.accepted⟩

def largest (counters : List Int) : Int := counters.foldr max 0

lemma le_largest {counters : List Int} (h : counter ∈ counters) : counter ≤ largest counters := by
  induction counters with
  | nil => cases h
  | cons c rest ih =>
    rw [largest, foldr_cons, ← largest]
    rcases mem_cons.mp h with rfl | hrest
    · omega
    · have hle := ih hrest
      omega

/-- The highest counter is the largest accepted one, and the bits are the accepted counters of the
window. -/
structure Records (s : Checked size) : Prop where
  highest : s.window.highest = largest s.accepted
  bits : ∀ i, s.window.bitmap.testBit i = true ↔ i < size ∧ s.window.highest - i ∈ s.accepted

namespace Records

variable (h : Records s)
include h

lemma bit_iff (hle : ¬counter > s.window.highest) (hin : ¬s.window.highest - counter ≥ size) :
    s.window.bitmap &&& 1 <<< (s.window.highest - counter).toNat ≠ 0 ↔ counter ∈ s.accepted := by
  have hbit : ∀ n i : Nat, n &&& 2 ^ i ≠ 0 ↔ n.testBit i := by
    intro n i
    rw [Nat.and_two_pow]
    cases n.testBit i <;> simp
  have hdelta : s.window.highest - ((s.window.highest - counter).toNat : Int) = counter := by omega
  rw [Nat.one_shiftLeft, hbit, h.bits, hdelta]
  exact and_iff_right (by omega)

lemma check_iff : (s.window.check counter).2 ↔
    0 < counter ∧ counter ∉ s.accepted ∧ largest s.accepted - size < counter := by
  have hbit := @bit_iff _ _ counter h
  have hbound (hmem : counter ∈ s.accepted) := le_largest hmem
  rw [← h.highest] at hbound ⊢
  unfold ReplayWindow.check
  dsimp only
  split_ifs with hpos hjump hold hset
  · simp only [false_iff]
    omega
  · have hnew : counter ∉ s.accepted := fun hmem => absurd (hbound hmem) (by omega)
    simp only [hnew, true_iff, not_false_eq_true, true_and]
    omega
  · simp only [false_iff]
    omega
  · simp [(hbit hjump hold).mp hset]
  · simp only [true_iff]
    exact ⟨by omega, fun hmem => hset ((hbit hjump hold).mpr hmem), by omega⟩

lemma jump (hsize : 1 ≤ size) (hjump : counter > s.window.highest) :
    Records (⟨⟨counter, s.window.slide (counter - s.window.highest) ||| 1⟩,
      counter :: s.accepted⟩ : Checked size) := by
  have hhighest := h.highest
  obtain ⟨shift, hshift⟩ : ∃ shift : Nat, counter - s.window.highest = shift :=
    ⟨_, (Int.toNat_of_nonneg (by omega)).symm⟩
  refine ⟨?_, fun i => ?_⟩
  · rw [largest, foldr_cons, ← largest]
    show counter = _
    omega
  rw [hshift, Nat.testBit_or, Bool.or_eq_true, ReplayWindow.testBit_slide, h.bits,
    Nat.testBit_one_eq_true_iff_self_eq_zero, mem_cons]
  show _ ↔ i < size ∧ (counter - i = counter ∨ counter - i ∈ s.accepted)
  constructor
  · rintro (⟨hi, hle, _, hmem⟩ | rfl)
    · have hsame : s.window.highest - ((i - shift : Nat) : Int) = counter - i := by omega
      rw [hsame] at hmem
      exact ⟨hi, .inr hmem⟩
    · exact ⟨hsize, .inl (by omega)⟩
  · rintro ⟨hi, heq | hmem⟩
    · exact .inr (by omega)
    · -- Nothing between the old and the new highest counter has been accepted.
      have hle := le_largest hmem
      have hsame : s.window.highest - ((i - shift : Nat) : Int) = counter - i := by omega
      rw [← hsame] at hmem
      exact .inl ⟨hi, by omega, by omega, hmem⟩

lemma fill (hle : ¬counter > s.window.highest) (hin : ¬s.window.highest - counter ≥ size) :
    Records (⟨⟨s.window.highest, s.window.bitmap ||| 1 <<< (s.window.highest - counter).toNat⟩,
      counter :: s.accepted⟩ : Checked size) := by
  have hhighest := h.highest
  refine ⟨?_, fun i => ?_⟩
  · rw [largest, foldr_cons, ← largest]
    show s.window.highest = _
    omega
  have hbit : (s.window.highest - counter).toNat = i ↔
      i < size ∧ s.window.highest - i = counter := by omega
  rw [Nat.testBit_or, Bool.or_eq_true, h.bits, Nat.one_shiftLeft, Nat.testBit_two_pow,
    decide_eq_true_eq, mem_cons, hbit, ← and_or_left, or_comm]

lemma step (hsize : 1 ≤ size) (counter : Int) : Records (s.step counter) := by
  unfold Checked.step ReplayWindow.check
  by_cases hpos : counter ≤ 0
  · simpa [hpos] using h
  by_cases hjump : counter > s.window.highest
  · simpa [hpos, hjump] using h.jump hsize hjump
  by_cases hold : s.window.highest - counter ≥ size
  · simpa [hjump, hold] using h
  by_cases hset : s.window.bitmap &&& 1 <<< (s.window.highest - counter).toNat ≠ 0
  · simpa [hjump, hset] using h
  · simpa [hpos, hjump, hold, hset] using h.fill hjump hold

end Records

/-- **Every sequence of checks.** A check accepts exactly the positive counters that have not been
accepted and are in the window below the largest one that has, and `seen` tells so beforehand. -/
theorem replay_window_exact (size : Nat) (hsize : 1 ≤ size) (counters : List Int) (counter : Int) :
    let s : Checked size := run step {} counters
    ((s.window.check counter).2 = true ↔
      0 < counter ∧ counter ∉ s.accepted ∧ largest s.accepted - size < counter) ∧
    (s.window.seen counter = true ↔ (s.window.check counter).2 = false) := by
  intro s
  have hstart : Records ({} : Checked size) := ⟨rfl, fun i => by simp⟩
  have h : Records s := run_of_forall_step (fun _ c hs => hs.step hsize c) hstart counters
  exact ⟨h.check_iff, s.window.seen_iff counter⟩

/-- In a window of four, counter 3 is accepted after 5. -/
theorem late_counter_accepted :
    ((run step ({} : Checked 4) [2, 5]).window.check 3).2 = true :=
  (replay_window_exact 4 (by decide) [2, 5] 3).1.mpr (by decide)

end Checked

end Frick.Client
