import Mathlib.Data.List.Forall2

/-!
# Inverting fallible computations

Fallible code is modelled in `Except ε`. A successful computation is taken apart step by step, so
that proofs never unfold the monad.
-/

namespace Frick.Framework

variable {ε α β : Type}

variable {b : β} {f : α → Except ε β} {as : List α} {bs : List β} {R : α → β → Prop} {a : α}

lemma bind_eq_ok {x : Except ε α} : (x >>= f) = .ok b ↔ ∃ a, x = .ok a ∧ f a = .ok b := by
  cases x with
  | error | ok => simp [bind, Except.bind]

@[simp] lemma ok_bind (a : α) (f : α → Except ε β) : (Except.ok a >>= f) = f a := rfl

@[simp] lemma error_bind (e : ε) (f : α → Except ε β) :
    (Except.error e >>= f) = Except.error e := rfl

@[simp] lemma pure_eq_ok (a : α) : (pure a : Except ε α) = .ok a := rfl

/-- A mapped list succeeds exactly when every item does, in order. -/
lemma mapM_eq_ok_iff : as.mapM f = .ok bs ↔ List.Forall₂ (fun a b => f a = .ok b) as bs := by
  induction as generalizing bs with
  | nil => simp [eq_comm]
  | cons _ _ ih =>
    rw [List.mapM_cons, bind_eq_ok, List.forall₂_cons_left_iff]
    constructor
    · rintro ⟨b, hb, h⟩
      obtain ⟨rest, hrest, heq⟩ := bind_eq_ok.mp h
      exact ⟨b, rest, hb, ih.mp hrest, (Except.ok.inj heq).symm⟩
    · rintro ⟨b, rest, hb, hrest, rfl⟩
      exact ⟨b, hb, bind_eq_ok.mpr ⟨rest, ih.mpr hrest, rfl⟩⟩

lemma forall₂_imp_of_mem {S : α → β → Prop} (h : List.Forall₂ R as bs)
    (himp : ∀ a b, b ∈ bs → R a b → S a b) : List.Forall₂ S as bs := by
  induction h with
  | nil => exact List.Forall₂.nil
  | cons hab _ ih =>
    exact List.Forall₂.cons (himp _ _ (by simp) hab) (ih fun a b hb => himp a b (by simp [hb]))

/-- A loop over a list succeeds exactly when its body does on every item. -/
lemma forM_eq_ok_iff {f : α → Except ε Unit} : as.forM f = .ok () ↔ ∀ a ∈ as, f a = .ok () := by
  induction as with
  | nil => simp
  | cons a as ih =>
    change (f a >>= fun _ => as.forM f) = .ok () ↔ _
    rw [bind_eq_ok, List.forall_mem_cons]
    constructor
    · rintro ⟨_, ha, has⟩
      exact ⟨ha, ih.mp has⟩
    · rintro ⟨ha, has⟩
      exact ⟨(), ha, ih.mpr has⟩

lemma exists_mapM_forall₂ (h : ∀ a ∈ as, ∃ b, f a = .ok b ∧ R a b) :
    ∃ bs, as.mapM f = .ok bs ∧ List.Forall₂ R as bs := by
  induction as with
  | nil => exact ⟨[], rfl, .nil⟩
  | cons a _ ih =>
    obtain ⟨b, hb, hR⟩ := h a (by simp)
    obtain ⟨bs, hbs, hRs⟩ := ih fun x hx => h x (by simp [hx])
    exact ⟨b :: bs, mapM_eq_ok_iff.mpr (.cons hb (mapM_eq_ok_iff.mp hbs)), .cons hR hRs⟩

lemma exists_mapM_eq_ok (h : ∀ a ∈ as, ∃ b, f a = .ok b) : ∃ bs, as.mapM f = .ok bs := by
  obtain ⟨bs, hbs, _⟩ := exists_mapM_forall₂ (R := fun _ _ => True) fun a ha =>
    (h a ha).imp fun _ hb => ⟨hb, trivial⟩
  exact ⟨bs, hbs⟩

lemma exists_right_of_forall₂ (h : List.Forall₂ R as bs) (ha : a ∈ as) : ∃ b ∈ bs, R a b := by
  induction h with
  | nil => simp at ha
  | cons hab _ ih =>
    rcases List.mem_cons.mp ha with rfl | ha
    · exact ⟨_, by simp, hab⟩
    · obtain ⟨b, hb, hR⟩ := ih ha
      exact ⟨b, by simp [hb], hR⟩

lemma exists_left_of_forall₂ (h : List.Forall₂ R as bs) (hb : b ∈ bs) : ∃ a ∈ as, R a b :=
  exists_right_of_forall₂ h.flip hb

lemma map_eq_map_of_forall₂ {γ : Type} {f : α → γ} {g : β → γ} (h : List.Forall₂ R as bs)
    (hR : ∀ a b, R a b → f a = g b) : as.map f = bs.map g := by
  simpa [← List.forall₂_eq_eq_eq] using h.imp hR

lemma mem_of_mapM_eq_ok (h : as.mapM f = .ok bs) (ha : a ∈ as) : ∃ b ∈ bs, f a = .ok b :=
  exists_right_of_forall₂ (mapM_eq_ok_iff.mp h) ha

lemma exists_of_mem_mapM (h : as.mapM f = .ok bs) (hb : b ∈ bs) : ∃ a ∈ as, f a = .ok b :=
  exists_left_of_forall₂ (R := fun a b => f a = .ok b) (mapM_eq_ok_iff.mp h) hb

end Frick.Framework
