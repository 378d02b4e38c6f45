import Mathlib.Data.List.Nodup

/-!
# Items in hand

Several parties take items from a common stock, work through them, and let them go. `held i` is what
party `i` has in hand.  Exclusive custody survives the two things a party does: taking items that no
one holds, and letting go of some of its own.
-/

namespace Frick.Framework

open Function

variable {ι κ : Type} [DecidableEq ι]

/-- No item is in two hands, nor twice in one. -/
structure Exclusive (held : ι → List κ) : Prop where
  nodup : ∀ i, (held i).Nodup
  eq_of_mem : ∀ i j k, k ∈ held i → k ∈ held j → i = j

variable {held : ι → List κ}

omit [DecidableEq ι] in
lemma exclusive_nil : Exclusive fun _ : ι => ([] : List κ) :=
  ⟨fun _ => List.nodup_nil, nofun⟩

variable {items : List κ}

/-- A party's hand changes to items that no other party holds. -/
lemma Exclusive.update (h : Exclusive held) (i : ι) (hnd : items.Nodup)
    (hown : ∀ k ∈ items, ∀ j, k ∈ held j → j = i) : Exclusive (update held i items) where
  nodup j := by
    rw [update_apply]
    split_ifs
    · exact hnd
    · exact h.nodup j
  eq_of_mem a b k ha hb := by
    rw [update_apply] at ha hb
    split_ifs at ha hb with hai hbi hbi
    · rw [hai, hbi]
    · rw [hai, hown k ha b hb]
    · rw [hbi, hown k hb a ha]
    · exact h.eq_of_mem a b k ha hb

lemma Exclusive.take (h : Exclusive held) (i : ι) (hnd : items.Nodup)
    (hfree : ∀ k ∈ items, ∀ j, k ∉ held j) : Exclusive (Function.update held i items) :=
  h.update i hnd fun k hk j hj => absurd hj (hfree k hk j)

lemma Exclusive.keep (h : Exclusive held) (i : ι) (hsub : items.Sublist (held i)) :
    Exclusive (Function.update held i items) :=
  h.update i ((h.nodup i).sublist hsub) fun k hk j hj =>
    h.eq_of_mem j i k hj (hsub.subset hk)

lemma mem_update_held {i j : ι} {k : κ} (h : k ∈ update held i items j) :
    j = i ∧ k ∈ items ∨ j ≠ i ∧ k ∈ held j := by
  rw [update_apply] at h
  split_ifs at h with hj
  · exact .inl ⟨hj, h⟩
  · exact .inr ⟨hj, h⟩

end Frick.Framework
