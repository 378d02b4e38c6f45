import Frick.Framework.Table

/-!
# Statements that change a table

`INSERT`, `UPDATE` and `DELETE` on a keyed table, with the rows each one affects: the rows it
inserted, the rows it updated in their new form, or the rows it deleted. A statement that breaks the
key is refused as a whole. An `UPDATE` is judged by the table it leaves; an engine checks the key
row by row and may also refuse one that only shifts keys among its rows. Updates that leave the keys
alone (`apply_update`) are accepted either way.
-/

namespace Frick.Framework

open Option

variable {ρ κ : Type} [DecidableEq κ] {key : ρ → κ}

/-- What an `INSERT` does with a row whose key is taken. -/
inductive OnConflict (key : ρ → κ) where
  | fail
  | doNothing
  /-- `DO UPDATE SET`, from the stored row and the excluded one. -/
  | doUpdate (set : ρ → ρ → ρ) (hset : ∀ old new, key (set old new) = key old)

inductive Dml (key : ρ → κ) where
  | insert (rows : List ρ) (onConflict : OnConflict key)
  | update (p : ρ → Bool) (f : ρ → ρ)
  | delete (p : ρ → Bool)

namespace Dml

def insertOne (onConflict : OnConflict key) (t : Table key) (row : ρ) :
    Option (Table key × List ρ) :=
  match t.find? (key row) with
  | none => some (t.upsert row, [row])
  | some old =>
    match onConflict with
    | .fail => none
    | .doNothing => some (t, [])
    | .doUpdate set _ => some (t.upsert (set old row), [set old row])

/-- The rows of an `INSERT`, one after the other. -/
def insertAll (onConflict : OnConflict key) (t : Table key) : List ρ → Option (Table key × List ρ)
  | [] => some (t, [])
  | row :: rest =>
    match insertOne onConflict t row with
    | none => none
    | some (t, first) =>
      match insertAll onConflict t rest with
      | none => none
      | some (t, others) => some (t, first ++ others)

/-- The table after the statement, and the rows it affects. -/
def apply (t : Table key) : Dml key → Option (Table key × List ρ)
  | .insert rows onConflict => insertAll onConflict t rows
  | .update p f =>
    let rows := t.rows.map fun row => if p row then f row else row
    if h : (rows.map key).Nodup then some (⟨rows, h⟩, (t.rows.filter p).map f) else none
  | .delete p => some (t.deleteWhere p, t.rows.filter p)

/-- The statement meets no row it could affect. -/
def Idle (t : Table key) : Dml key → Prop
  | .insert rows onConflict =>
    ∀ row ∈ rows, onConflict = .doNothing ∧ (t.find? (key row)).isSome = true
  | .update p _ => ∀ row ∈ t, p row = false
  | .delete p => ∀ row ∈ t, p row = false

variable {t t' : Table key} {affected : List ρ} {onConflict : OnConflict key}

lemma insertOne_cases {row : ρ} (h : insertOne onConflict t row = some (t', affected)) :
    (affected = [] ∧ t' = t ∧ onConflict = .doNothing ∧ (t.find? (key row)).isSome) ∨
      affected ≠ [] ∧ ¬(onConflict = .doNothing ∧ (t.find? (key row)).isSome) := by
  unfold insertOne at h
  cases hfind : t.find? (key row) with
  | none =>
    rw [hfind] at h
    obtain ⟨rfl, rfl⟩ := Prod.mk.inj (some.inj h)
    exact .inr ⟨List.cons_ne_nil _ _, by simp⟩
  | some =>
    rw [hfind] at h
    cases onConflict with
    | fail => cases h
    | doNothing =>
      obtain ⟨rfl, rfl⟩ := Prod.mk.inj (some.inj h)
      exact .inl ⟨rfl, rfl, rfl, rfl⟩
    | doUpdate =>
      obtain ⟨rfl, rfl⟩ := Prod.mk.inj (some.inj h)
      exact .inr ⟨List.cons_ne_nil _ _, by simp⟩

lemma insertAll_eq_nil_iff {rows : List ρ} (h : insertAll onConflict t rows = some (t', affected)) :
    affected = [] ↔ ∀ row ∈ rows, onConflict = .doNothing ∧ (t.find? (key row)).isSome := by
  induction rows generalizing t affected with
  | nil =>
    obtain ⟨rfl, rfl⟩ := Prod.mk.inj (some.inj h)
    simp
  | cons row rest ih =>
    unfold insertAll at h
    cases hfirst : insertOne onConflict t row with
    | none =>
      rw [hfirst] at h
      cases h
    | some out =>
      obtain ⟨middle, first⟩ := out
      rw [hfirst] at h
      dsimp only at h
      cases hrest : insertAll onConflict middle rest with
      | none =>
        rw [hrest] at h
        cases h
      | some out =>
        rw [hrest] at h
        obtain ⟨rfl, rfl⟩ := Prod.mk.inj (some.inj h)
        rw [List.append_eq_nil_iff, List.forall_mem_cons]
        rcases insertOne_cases hfirst with ⟨rfl, rfl, htaken⟩ | ⟨hne, hfree⟩
        · rw [ih hrest]
          exact and_congr_left' (iff_of_true rfl htaken)
        · exact iff_of_false (fun hnil => hne hnil.1) fun hidle => hfree hidle.1

lemma apply_delete (t : Table key) (p : ρ → Bool) :
    (Dml.delete p).apply t = some (t.deleteWhere p, t.rows.filter p) := rfl

lemma apply_update (t : Table key) (p : ρ → Bool) {f : ρ → ρ} (hf : ∀ row, key (f row) = key row) :
    (Dml.update p f).apply t = some (t.updateWhere p f hf, (t.rows.filter p).map f) := by
  exact dif_pos (t.updateWhere p f hf).nodup

/-- **No row is affected** exactly when the statement meets none. -/
theorem affected_eq_nil_iff {dml : Dml key} (h : dml.apply t = some (t', affected)) :
    affected = [] ↔ dml.Idle t := by
  cases dml with
  | insert => exact insertAll_eq_nil_iff h
  | update =>
    unfold apply at h
    dsimp only at h
    split_ifs at h
    obtain ⟨_, rfl⟩ := Prod.mk.inj (some.inj h)
    rw [List.map_eq_nil_iff, List.filter_eq_nil_iff]
    exact forall₂_congr fun row _ => by rw [Bool.not_eq_true]
  | delete =>
    obtain ⟨_, rfl⟩ := Prod.mk.inj (some.inj h)
    rw [List.filter_eq_nil_iff]
    exact forall₂_congr fun row _ => by rw [Bool.not_eq_true]

end Dml

end Frick.Framework
