import Frick.Framework.Table

/-!
# Partitions of a keyed table

A table whose rows belong to partitions, where the partition is a column and not part of the key.
Every reader sees its own partition (`view`); a writer upserts by key. Two partitions that use one
key then share one row, and an upsert takes the row over. `view_upsert_unchanged_iff` says exactly
when it does not: when the row under the key, if there is one, is the writer's already.
-/

namespace Frick.Framework.Table

variable {ρ κ π : Type} [DecidableEq κ] [DecidableEq π] {key : ρ → κ}

/-- The row under `k`, for a reader of the partition `p`. -/
def view (t : Table key) (part : ρ → π) (p : π) (k : κ) : Option ρ :=
  (t.find? k).filter fun row => part row = p

variable {t : Table key} {part : ρ → π} {p q : π} {k : κ} {row : ρ}

lemma view_eq_some_iff : t.view part p k = some row ↔ row ∈ t ∧ key row = k ∧ part row = p := by
  rw [view, Option.filter_eq_some_iff, find?_eq_some_iff, decide_eq_true_eq, and_assoc]

lemma view_congr {u : Table key} (h : t.find? k = u.find? k) :
    t.view part p k = u.view part p k := by
  rw [view, view, h]

/-- The view of a partition is what a query for the partition and the key finds. -/
lemma find?_rows_eq_view {P : ρ → Bool} (hP : ∀ row, P row ↔ part row = p ∧ key row = k) :
    t.rows.find? P = t.view part p k := by
  apply Option.ext
  intro row
  rw [view_eq_some_iff]
  constructor
  · intro h
    obtain ⟨hpart, hkey⟩ := (hP row).mp (List.find?_some h)
    exact ⟨List.mem_of_find?_eq_some h, hkey, hpart⟩
  rintro ⟨hmem, hkey, hpart⟩
  cases hfind : t.rows.find? P with
  | none =>
    have hno := List.find?_eq_none.mp hfind row hmem
    exact absurd ((hP row).mpr ⟨hpart, hkey⟩) hno
  | some other =>
    obtain ⟨_, hoth⟩ := (hP other).mp (List.find?_some hfind)
    rw [eq_of_key_eq (List.mem_of_find?_eq_some hfind) hmem (hoth.trans hkey.symm)]

/-- **Upserts.** No other partition notices an upsert, exactly when the row it replaces is of the
same partition. What a reader is shown of a row is up to `f`. -/
theorem view_upsert_unchanged_iff {α : Type} (t : Table key) (part : ρ → π) (row : ρ) (f : ρ → α) :
    (∀ p, p ≠ part row → ∀ k, ((t.upsert row).view part p k).map f = (t.view part p k).map f) ↔
      ∀ old ∈ t.find? (key row), part old = part row := by
  have hgone : ∀ p, p ≠ part row → (t.upsert row).view part p (key row) = none := by
    intro p hp
    rw [view, find?_upsert_self, Option.filter_some_neg (by simpa using Ne.symm hp)]
  constructor
  · intro h old hold
    by_contra hpart
    have hview : t.view part (part old) (key row) = some old := by
      rw [view, Option.mem_def.mp hold]
      exact Option.filter_some_pos (decide_eq_true rfl)
    have hsame := h (part old) hpart (key row)
    rw [hgone (part old) hpart, hview] at hsame
    cases hsame
  · intro h p hp k
    by_cases hk : k = key row
    · subst hk
      have hnone : t.view part p (key row) = none := by
        refine Option.filter_eq_none_iff.mpr fun old hold => ?_
        rw [h old hold]
        simpa using Ne.symm hp
      rw [hgone p hp, hnone]
    · rw [view_congr (find?_upsert_of_ne hk)]

/-- **Deletes.** No other partition notices a delete, exactly when every row it meets is of the same
partition. -/
theorem view_deleteWhere_unchanged_iff {α : Type} (t : Table key) (part : ρ → π) (q : π)
    (P : ρ → Bool) (f : ρ → α) :
    (∀ p, p ≠ q → ∀ k, ((t.deleteWhere P).view part p k).map f = (t.view part p k).map f) ↔
      ∀ row ∈ t, P row → part row = q := by
  constructor
  · intro h row hrow hdoomed
    by_contra hpart
    have hview : t.view part (part row) (key row) = some row :=
      view_eq_some_iff.mpr ⟨hrow, rfl, rfl⟩
    have hgone : (t.deleteWhere P).view part (part row) (key row) = none := by
      refine Option.eq_none_iff_forall_ne_some.mpr fun other hother => ?_
      obtain ⟨hkept, hkey, _⟩ := view_eq_some_iff.mp hother
      obtain ⟨hold, hspared⟩ := mem_deleteWhere.mp hkept
      rw [eq_of_key_eq hold hrow hkey, hdoomed] at hspared
      cases hspared
    have hsame := h (part row) hpart (key row)
    rw [hgone, hview] at hsame
    cases hsame
  · intro h p hp k
    congr 1
    apply Option.ext
    intro row
    rw [view_eq_some_iff, view_eq_some_iff, mem_deleteWhere]
    constructor
    · rintro ⟨⟨hmem, _⟩, hrest⟩
      exact ⟨hmem, hrest⟩
    rintro ⟨hmem, hkey, hpart⟩
    refine ⟨⟨hmem, Bool.eq_false_iff.mpr fun hdoomed => hp ?_⟩, hkey, hpart⟩
    rw [← hpart, h row hmem hdoomed]

end Frick.Framework.Table
