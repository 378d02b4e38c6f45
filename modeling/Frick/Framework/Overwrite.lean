import Mathlib.Data.List.Basic

/-!
# Overwrites in order

A cell and a queue of effects on it: an effect leaves the cell as it is (`none`) or overwrites it
(`some x`). `overwrite` is the cell once all of them are performed, so the last overwrite wins and
everything before it is forgotten.

A queue is often trusted only at its end: an item carries outdated data as long as a later item
that settles the matter is queued behind it. `Recent p Q` says so: an item with no `p` behind it
satisfies `Q`.
-/

namespace Frick.Framework

variable {α : Type*}

/-! ## The last overwrite wins -/

/-- The cell after all effects, in order. -/
def overwrite (effects : List (Option α)) (x : α) : α :=
  effects.foldl (fun x effect => effect.getD x) x

@[simp] lemma overwrite_nil (x : α) : overwrite [] x = x := rfl

@[simp] lemma overwrite_cons (effect : Option α) (effects : List (Option α)) (x : α) :
    overwrite (effect :: effects) x = overwrite effects (effect.getD x) := rfl

lemma overwrite_append (before after : List (Option α)) (x : α) :
    overwrite (before ++ after) x = overwrite after (overwrite before x) :=
  List.foldl_append

lemma overwrite_concat (effects : List (Option α)) (effect : Option α) (x : α) :
    overwrite (effects ++ [effect]) x = effect.getD (overwrite effects x) := by
  rw [overwrite_append, overwrite_cons, overwrite_nil]

/-- Nothing before an overwrite matters. -/
lemma overwrite_append_some (before after : List (Option α)) (x y : α) :
    overwrite (before ++ some y :: after) x = overwrite after y := by
  rw [overwrite_append, overwrite_cons, Option.getD_some]

variable {effects : List (Option α)} {x : α}

lemma overwrite_eq_self (h : ∀ effect ∈ effects, effect = none ∨ effect = some x) :
    overwrite effects x = x := by
  induction effects with
  | nil => rfl
  | cons effect _ ih =>
    have hfirst : effect.getD x = x := by
      rcases h effect (by simp) with rfl | rfl
      · rfl
      · rfl
    rw [overwrite_cons, hfirst]
    exact ih fun other hoth => h other (by simp [hoth])

/-- Writing the outcome already at an earlier point does not change it. -/
lemma overwrite_of_forall₂ {effects' : List (Option α)} {x' y : α}
    (h : List.Forall₂ (fun effect effect' => effect' = effect ∨ effect' = some y) effects effects')
    (hx : x' = x ∨ x' = y) (hy : overwrite effects x = y) : overwrite effects' x' = y := by
  induction h generalizing x x' with
  | nil =>
    rcases hx with rfl | rfl
    · exact hy
    · rfl
  | @cons _ effect' _ _ heff _ ih =>
    refine ih ?_ hy
    rcases heff with rfl | rfl
    · cases effect' with
      | none => exact hx
      | some => exact .inl rfl
    · exact .inr rfl

/-- Either the effects keep every cell, or they do not look at it. -/
lemma overwrite_keeps_or_const (effects : List (Option α)) :
    (∀ x, overwrite effects x = x) ∨ ∃ y, ∀ x, overwrite effects x = y := by
  induction effects with
  | nil => exact .inl fun x => rfl
  | cons effect _ ih =>
    rcases ih with hkeeps | ⟨y, hconst⟩
    · cases effect with
      | none => exact .inl fun x => hkeeps x
      | some y => exact .inr ⟨y, fun x => hkeeps y⟩
    · exact .inr ⟨y, fun x => hconst _⟩

lemma overwrite_tail {effect : Option α} (h : overwrite (effect :: effects) x = x) :
    overwrite effects x = x := by
  rcases overwrite_keeps_or_const effects with hkeeps | ⟨y, hconst⟩
  · exact hkeeps x
  · rw [overwrite_cons, hconst] at h
    rw [hconst, h]

/-! ## Items that nothing behind them settles -/

section Recent

variable {p Q R : α → Prop} {before after items : List α} {a b : α}

/-- Every item without a `p` behind it satisfies `Q`. -/
def Recent (p Q : α → Prop) : List α → Prop
  | [] => True
  | a :: rest => ((∀ b ∈ rest, ¬p b) → Q a) ∧ Recent p Q rest

lemma recent_nil : Recent p Q [] := trivial

lemma Recent.tail (h : Recent p Q (a :: items)) : Recent p Q items := h.2

lemma Recent.suffix (h : Recent p Q (before ++ after)) : Recent p Q after := by
  induction before with
  | nil => exact h
  | cons _ _ ih => exact ih h.2

lemma Recent.imp (h : Recent p Q items) (himp : ∀ a ∈ items, Q a → R a) : Recent p R items := by
  induction items with
  | nil => exact trivial
  | cons a _ ih =>
    refine ⟨fun hrest => himp a (by simp) (h.1 hrest), ih h.2 fun b hb => himp b (by simp [hb])⟩

/-- A queue splits at its last `p`; everything from there on satisfies `Q`. -/
lemma Recent.split (h : Recent p Q items) :
    (∀ a ∈ items, ¬p a ∧ Q a) ∨
      ∃ before a after, items = before ++ a :: after ∧ p a ∧ Q a ∧ ∀ b ∈ after, ¬p b ∧ Q b := by
  induction items with
  | nil => exact .inl (by simp)
  | cons a rest ih =>
    rcases ih h.2 with hnone | ⟨before, b, after, rfl, hb⟩
    · have ha : Q a := h.1 fun b hb => (hnone b hb).1
      by_cases hp : p a
      · exact .inr ⟨[], a, rest, rfl, hp, ha, hnone⟩
      exact .inl (List.forall_mem_cons.mpr ⟨⟨hp, ha⟩, hnone⟩)
    · exact .inr ⟨a :: before, b, after, rfl, hb⟩

lemma Recent.concat (ha : Q a) (h : p a ∨ Recent p Q items) : Recent p Q (items ++ [a]) := by
  induction items with
  | nil => exact ⟨fun _ => ha, trivial⟩
  | cons _ _ ih =>
    refine ⟨fun hrest => ?_, ih (h.imp_right Recent.tail)⟩
    rcases h with hp | h
    · exact absurd hp (hrest a (by simp))
    · exact h.1 fun c hc => hrest c (by simp [hc])

variable (h : Recent p Q (before ++ a :: after))
include h

lemma Recent.replace (hp : p a → p b) (hQ : Q a → Q b) : Recent p Q (before ++ b :: after) := by
  induction before with
  | nil => exact ⟨fun hafter => hQ (h.1 hafter), h.2⟩
  | cons _ _ ih =>
    refine ⟨fun hrest => h.1 fun d hd => ?_, ih h.2⟩
    rcases List.mem_append.mp hd with hd | hd
    · exact hrest d (by simp [hd])
    · rcases List.mem_cons.mp hd with rfl | hd
      · exact fun hpd => hrest b (by simp) (hp hpd)
      · exact hrest d (by simp [hd])

lemma Recent.erase (hp : ¬p a) : Recent p Q (before ++ after) := by
  induction before with
  | nil => exact h.2
  | cons _ _ ih =>
    refine ⟨fun hrest => h.1 fun d hd => ?_, ih h.2⟩
    rcases List.mem_append.mp hd with hd | hd
    · exact hrest d (by simp [hd])
    · rcases List.mem_cons.mp hd with rfl | hd
      · exact hp
      · exact hrest d (by simp [hd])

/-- So may an item whose being unsettled settles the whole queue. -/
lemma Recent.erase_of_forall (hall : Q a → ∀ b, Q b) : Recent p Q (before ++ after) := by
  induction before with
  | nil => exact h.2
  | cons c _ ih =>
    refine ⟨fun hrest => ?_, ih h.2⟩
    have hafter : ∀ b ∈ after, ¬p b := fun b hb => hrest b (by simp [hb])
    exact hall (h.2.suffix.1 hafter) c

end Recent

end Frick.Framework
