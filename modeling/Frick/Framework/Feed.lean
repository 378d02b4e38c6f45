import Mathlib.Order.MinMax

/-!
# Feeds with a cursor

A sender numbers the entries of a log and hands them to a receiver in frames. Each frame carries
some entries and *reaches* a number: the receiver keeps what the frame carries and moves its cursor
up to that number. The receiver has no gap when every entry numbered between its first cursor and
its present one is kept.

`Sound` is the sender's half of the bargain.
-/

namespace Frick.Framework.Feed

variable {ε φ α : Type*} [LinearOrder α] (seq : ε → α)

/-- Every entry of the log numbered in `(a, b]` satisfies `P`. -/
def Covers (log : Set ε) (P : ε → Prop) (a b : α) : Prop :=
  ∀ e ∈ log, a < seq e → seq e ≤ b → P e

variable {seq} {log : Set ε} {P Q : ε → Prop} {a b c : α}

lemma Covers.imp (h : Covers seq log P a b) (hPQ : ∀ e ∈ log, a < seq e → P e → Q e) :
    Covers seq log Q a b :=
  fun e he ha hb => hPQ e he ha (h e he ha hb)

lemma Covers.max (hb : Covers seq log P a b) (hc : Covers seq log P a c) :
    Covers seq log P a (max b c) := by
  intro e he ha hle
  rcases le_max_iff.mp hle with hle | hle
  · exact hb e he ha hle
  · exact hc e he ha hle

lemma Covers.extend {log' : Set ε} (h : Covers seq log P a b)
    (hlog : ∀ e ∈ log', e ∈ log ∨ (a < seq e → b < seq e)) : Covers seq log' P a b := by
  intro e he ha hb
  rcases hlog e he with he | hpast
  · exact h e he ha hb
  · exact absurd hb (not_le.mpr (hpast ha))

section Sound

variable (seq) (carries : φ → ε → Prop) (reach : φ → α)

/-- What a frame reaches past `a` was known, or is carried by it or by a frame before it. -/
def Sound (log : Set ε) (known : ε → Prop) (a : α) (frames : List φ) : Prop :=
  ∀ before f after, frames = before ++ f :: after →
    Covers seq log (fun e => known e ∨ ∃ g ∈ before ++ [f], carries g e) a (reach f)

variable {seq carries reach} {known known' : ε → Prop} {frames : List φ} {f : φ}

lemma Sound.nil : Sound seq carries reach log known a [] := by
  intro pre f after hsplit
  simp at hsplit

section

variable (h : Sound seq carries reach log known a frames)
include h

lemma Sound.imp_known
    (hknown : ∀ e, known e → known' e) : Sound seq carries reach log known' a frames :=
  fun pre f after hsplit => (h pre f after hsplit).imp fun e _ _ he => he.imp_left (hknown e)

/-- **One more frame.** -/
lemma Sound.concat
    (hf : Covers seq log (fun e => known e ∨ ∃ g ∈ frames ++ [f], carries g e) a (reach f)) :
    Sound seq carries reach log known a (frames ++ [f]) := by
  intro pre g after hsplit
  rcases List.append_eq_append_iff.mp hsplit with ⟨mid, hpre, hlast⟩ | ⟨mid, hframes, hrest⟩
  · -- `g` is not among the old frames, so it is the new one.
    have hmid : mid = [] ∧ f = g := by
      cases mid with
      | nil => exact ⟨rfl, by simpa using congrArg List.head? hlast⟩
      | cons => simp at hlast
    rwa [hpre, hmid.1, List.append_nil, ← hmid.2]
  · cases mid with
    | nil =>
      have hg : g = f := by simpa using congrArg List.head? hrest
      rw [List.append_nil] at hframes
      rwa [hg, ← hframes]
    | cons head tail =>
      have hhead : g = head := by simpa using congrArg List.head? hrest
      exact h pre g tail (by rw [hframes, hhead])

/-- **More entries**, numbered past everything the frames reach. -/
lemma Sound.extend {log' : Set ε}
    (hlog : ∀ e ∈ log', e ∈ log ∨ (a < seq e → ∀ f ∈ frames, reach f < seq e)) :
    Sound seq carries reach log' known a frames := by
  intro pre f after hsplit
  have hf : f ∈ frames := by simp [hsplit]
  exact (h pre f after hsplit).extend fun e he =>
    (hlog e he).imp_right fun hpast ha => hpast ha f hf

end

/-- **The receiver.** It has kept what the frames before `f` carry and what was known; once it
keeps what `f` carries too, it may move its cursor up to what `f` reaches. -/
lemma Sound.receive {pre after : List φ} {holds holds' : ε → Prop} {cursor : α}
    (h : Sound seq carries reach log known a (pre ++ f :: after))
    (hcurs : Covers seq log holds a cursor) (hknown : ∀ e ∈ log, a < seq e → known e → holds e)
    (hpre : ∀ g ∈ pre, ∀ e ∈ log, carries g e → holds e)
    (hkeep : ∀ e ∈ log, holds e → holds' e) (hf : ∀ e ∈ log, carries f e → holds' e) :
    Covers seq log holds' a (max cursor (reach f)) := by
  refine Covers.max (hcurs.imp fun e he _ => hkeep e he) ?_
  refine (h pre f after rfl).imp fun e he ha hcov => ?_
  rcases hcov with hk | ⟨g, hg, hge⟩
  · exact hkeep e he (hknown e he ha hk)
  · rcases List.mem_append.mp hg with hg | hg
    · exact hkeep e he (hpre g hg e he hge)
    · rw [List.mem_singleton.mp hg] at hge
      exact hf e he hge

end Sound

end Frick.Framework.Feed
