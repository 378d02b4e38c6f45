import Mathlib.Algebra.Order.Ring.Int
import Mathlib.Data.List.Nodup

/-!
# Keyed tables

A table is a list of rows in insertion order together with the proof that no two rows share a
key: a `PRIMARY KEY` constraint cannot be violated because a violating table cannot be built.
The operations are SQL statements.
-/

namespace Frick.Framework

open List

/-! ## Lists with distinct keys -/

lemma find?_of_nodup {ρ κ : Type} [DecidableEq κ] {key : ρ → κ} {rows : List ρ} {r : ρ}
    (hnd : (rows.map key).Nodup) (hmem : r ∈ rows) :
    rows.find? (fun s => key s = key r) = some r := by
  have hsome : (rows.find? fun s => decide (key s = key r)).isSome := by
    rw [List.find?_isSome]
    exact ⟨r, hmem, by simp⟩
  obtain ⟨found, hfound⟩ := Option.isSome_iff_exists.mp hsome
  have hkey : key found = key r := by simpa using List.find?_some hfound
  rw [hfound, inj_on_of_nodup_map hnd (mem_of_find?_eq_some hfound) hmem hkey]

lemma filter_eq_nil_or_singleton {ρ : Type} {rows : List ρ} {p : ρ → Bool}
    (h : rows.Pairwise fun r s => ¬(p r ∧ p s)) :
    rows.filter p = [] ∨ ∃ r, rows.filter p = [r] := by
  induction rows with
  | nil => exact .inl rfl
  | cons r _ ih =>
    obtain ⟨hfirst, hrest⟩ := pairwise_cons.mp h
    by_cases hr : p r
    · right
      refine ⟨r, ?_⟩
      rw [filter_cons_of_pos hr, filter_eq_nil_iff.mpr]
      exact fun s hs hps => hfirst s hs ⟨hr, hps⟩
    · rw [filter_cons_of_neg hr]
      exact ih hrest

/-- Rows with pairwise distinct keys. -/
structure Table {ρ κ : Type} (key : ρ → κ) where
  rows : List ρ
  nodup : (rows.map key).Nodup

namespace Table

variable {ρ κ : Type} [DecidableEq κ] {key : ρ → κ}

instance : Membership ρ (Table key) := ⟨fun t r => r ∈ t.rows⟩

variable {r row : ρ} {t u : Table key} {k : κ} {rows : List ρ} {p : ρ → Bool} {f : ρ → ρ}

omit [DecidableEq κ] in
lemma mem_def : r ∈ t ↔ r ∈ t.rows := Iff.rfl

omit [DecidableEq κ] in
lemma ext_rows (h : t.rows = u.rows) : t = u := by
  obtain ⟨rows, nodup⟩ := t
  cases h
  rfl

def empty (key : ρ → κ) : Table key := ⟨[], by simp⟩

omit [DecidableEq κ] in
@[simp] lemma not_mem_empty (r : ρ) : r ∉ empty key := by
  simp [mem_def, empty]

omit [DecidableEq κ] in
lemma eq_of_key_eq {s : ρ} (hr : r ∈ t) (hs : s ∈ t) (hkey : key r = key s) : r = s :=
  inj_on_of_nodup_map t.nodup hr hs hkey

/-! ## Lookup -/

/-- The row stored under `k`. -/
def find? (t : Table key) (k : κ) : Option ρ :=
  t.rows.find? fun r => key r = k

lemma find?_eq_some_iff : t.find? k = some r ↔ r ∈ t ∧ key r = k := by
  constructor
  · intro h
    exact ⟨mem_of_find?_eq_some h, by simpa using List.find?_some h⟩
  · rintro ⟨hmem, rfl⟩
    exact find?_of_nodup t.nodup hmem

lemma find?_eq_none_iff : t.find? k = none ↔ ∀ r ∈ t, key r ≠ k := by
  simp [find?, mem_def, List.find?_eq_none]

lemma find?_congr (h : ∀ r, key r = k → (r ∈ t ↔ r ∈ u)) : t.find? k = u.find? k := by
  cases hu : u.find? k with
  | none =>
    rw [find?_eq_none_iff] at hu ⊢
    intro r hr hk
    exact hu r ((h r hk).mp hr) hk
  | some r =>
    obtain ⟨hr, hk⟩ := find?_eq_some_iff.mp hu
    exact find?_eq_some_iff.mpr ⟨(h r hk).mpr hr, hk⟩

/-! ## Insert -/

/-- A plain `INSERT`: `none` when a row with this key exists. -/
def insert (t : Table key) (row : ρ) : Option (Table key) :=
  if h : key row ∈ t.rows.map key then none
  else some
    { rows := t.rows ++ [row]
      nodup := by
        rw [map_append, nodup_append]
        refine ⟨t.nodup, by simp, ?_⟩
        intro a ha b hb
        rw [map_singleton, mem_singleton] at hb
        rintro rfl
        exact h (hb ▸ ha) }

lemma insert_eq_some (h : t.insert row = some u) :
    u.rows = t.rows ++ [row] ∧ ∀ r ∈ t, key r ≠ key row := by
  unfold insert at h
  split at h
  · cases h
  · rename_i hnew
    obtain rfl := Option.some.inj h
    refine ⟨rfl, fun r hr hkey => hnew ?_⟩
    exact mem_map.mpr ⟨r, hr, hkey⟩

lemma insert_eq_none_iff : t.insert row = none ↔ t.find? (key row) ≠ none := by
  rw [ne_eq, find?_eq_none_iff, insert]
  split_ifs with h <;> simpa [mem_def] using h

lemma mem_of_insert (h : t.insert row = some u) : r ∈ u ↔ r ∈ t ∨ r = row := by
  rw [mem_def, (insert_eq_some h).1, mem_append, mem_singleton]
  exact Iff.rfl

/-- An `INSERT` under a key that is known to be free. -/
def insertFresh (t : Table key) (row : ρ) (hfresh : ∀ r ∈ t, key r ≠ key row) : Table key where
  rows := t.rows ++ [row]
  nodup := by
    rw [map_append, nodup_append]
    refine ⟨t.nodup, by simp, ?_⟩
    intro a ha b hb
    obtain ⟨r, hr, rfl⟩ := mem_map.mp ha
    rw [map_singleton, mem_singleton] at hb
    rw [hb]
    exact hfresh r hr

omit [DecidableEq κ] in
lemma mem_insertFresh (hnew : ∀ r ∈ t, key r ≠ key row) :
    r ∈ t.insertFresh row hnew ↔ r ∈ t ∨ r = row := by
  simp [mem_def, insertFresh]

/-! ## Upsert -/

/-- Overwrite the row with `row`'s key, or insert `row` when there is none. -/
def upsertRows (key : ρ → κ) (row : ρ) (rows : List ρ) : List ρ :=
  if rows.any fun r => key r = key row then
    rows.map fun r => if key r = key row then row else r
  else rows ++ [row]

lemma mem_upsertRows : r ∈ upsertRows key row rows ↔ r = row ∨ r ∈ rows ∧ key r ≠ key row := by
  unfold upsertRows
  split_ifs with hany
  · rw [any_eq_true] at hany
    obtain ⟨old, hold, hkey⟩ := hany
    rw [mem_map]
    constructor
    · rintro ⟨s, hs, rfl⟩
      by_cases hsk : key s = key row
      · exact .inl (if_pos hsk)
      · rw [if_neg hsk]
        exact .inr ⟨hs, hsk⟩
    · rintro (rfl | ⟨hr, hrk⟩)
      · exact ⟨old, hold, if_pos (by simpa using hkey)⟩
      · exact ⟨r, hr, if_neg hrk⟩
  · rw [Bool.not_eq_true, any_eq_false] at hany
    rw [mem_append, mem_singleton]
    constructor
    · rintro (hr | rfl)
      · exact .inr ⟨hr, by simpa using hany r hr⟩
      · exact .inl rfl
    · rintro (rfl | ⟨hr, _⟩)
      · exact .inr rfl
      · exact .inl hr

lemma map_key_upsertRows (hany : rows.any fun r => key r = key row) :
    (upsertRows key row rows).map key = rows.map key := by
  rw [upsertRows, if_pos hany, map_map]
  refine map_congr_left fun r _ => ?_
  by_cases hr : key r = key row
  · simp [hr]
  · simp [hr]

lemma nodup_upsertRows (hnd : (rows.map key).Nodup) :
    ((upsertRows key row rows).map key).Nodup := by
  by_cases hany : rows.any fun r => key r = key row
  · rwa [map_key_upsertRows hany]
  rw [upsertRows, if_neg hany]
  rw [Bool.not_eq_true, any_eq_false] at hany
  rw [map_append, nodup_append]
  refine ⟨hnd, by simp, ?_⟩
  intro a ha b hb
  obtain ⟨r, hr, rfl⟩ := mem_map.mp ha
  rw [map_singleton, mem_singleton] at hb
  rw [hb]
  simpa using hany r hr

/-- `INSERT … ON CONFLICT(key) DO UPDATE`, every column overwritten. -/
def upsert (t : Table key) (row : ρ) : Table key :=
  ⟨upsertRows key row t.rows, nodup_upsertRows t.nodup⟩

lemma mem_upsert : r ∈ t.upsert row ↔ r = row ∨ r ∈ t ∧ key r ≠ key row :=
  mem_upsertRows

lemma rows_upsert_of_fresh {row : ρ} (h : ∀ r ∈ t, key r ≠ key row) :
    (t.upsert row).rows = t.rows ++ [row] := by
  show upsertRows key row t.rows = _
  rw [upsertRows, if_neg]
  rw [any_eq_true]
  rintro ⟨r, hr, hkey⟩
  exact h r hr (of_decide_eq_true hkey)

/-- A sum over keys is changed only by a new key, and by what that key adds. -/
lemma sum_upsert (f : κ → Int) (h : t.find? (key row) = none → f (key row) = 0) :
    ((t.upsert row).rows.map fun r => f (key r)).sum = (t.rows.map fun r => f (key r)).sum := by
  by_cases hnew : t.find? (key row) = none
  · simp [rows_upsert_of_fresh (find?_eq_none_iff.mp hnew), h hnew]
  have hany : t.rows.any fun r => key r = key row := by
    by_contra hno
    exact hnew (find?_eq_none_iff.mpr fun r hr hkey =>
      hno (any_eq_true.mpr ⟨r, hr, by simpa using hkey⟩))
  have hkeys := congrArg (fun keys => (keys.map f).sum) (map_key_upsertRows hany)
  simpa [upsert, Function.comp_def] using hkeys

@[simp] lemma find?_upsert_self (t : Table key) (row : ρ) :
    (t.upsert row).find? (key row) = some row :=
  find?_eq_some_iff.mpr ⟨mem_upsert.mpr (.inl rfl), rfl⟩

lemma find?_upsert_of_ne (hne : k ≠ key row) : (t.upsert row).find? k = t.find? k := by
  refine find?_congr fun r hr => ?_
  have hrow : r ≠ row := fun h => hne (by rw [← hr, h])
  rw [mem_upsert]
  simp [hrow, hr, hne]

/-! ## Delete and update -/

def deleteWhere (t : Table key) (p : ρ → Bool) : Table key where
  rows := t.rows.filter fun r => !p r
  nodup := t.nodup.sublist (filter_sublist.map key)

omit [DecidableEq κ] in
lemma mem_deleteWhere : r ∈ t.deleteWhere p ↔ r ∈ t ∧ p r = false := by
  simp [mem_def, deleteWhere]

omit [DecidableEq κ] in
lemma deleteWhere_of_forall (h : ∀ r ∈ t, p r = false) : t.deleteWhere p = t :=
  ext_rows (filter_eq_self.mpr fun r hr => by rw [h r hr]; rfl)

/-- `UPDATE … WHERE p`, for an update `f` that keeps the key. -/
def updateWhere (t : Table key) (p : ρ → Bool) (f : ρ → ρ) (hf : ∀ r, key (f r) = key r) :
    Table key where
  rows := t.rows.map fun r => if p r then f r else r
  nodup := by
    have hkeys : (t.rows.map fun r => if p r then f r else r).map key = t.rows.map key := by
      rw [map_map]
      refine map_congr_left fun r _ => ?_
      by_cases hr : p r = true
      · simp [hr, hf]
      · simp [hr]
    rw [hkeys]
    exact t.nodup

variable (hf : ∀ r, key (f r) = key r)
include hf

omit [DecidableEq κ] in
lemma mem_updateWhere : r ∈ t.updateWhere p f hf ↔ ∃ s ∈ t, r = if p s then f s else s := by
  simp only [mem_def, updateWhere, mem_map]
  exact ⟨fun ⟨s, hs, h⟩ => ⟨s, hs, h.symm⟩, fun ⟨s, hs, h⟩ => ⟨s, hs, h.symm⟩⟩

omit [DecidableEq κ] in
lemma key_updated (r : ρ) : key (if p r then f r else r) = key r := by
  split
  · exact hf r
  · rfl

lemma find?_updateWhere (k : κ) :
    (t.updateWhere p f hf).find? k = (t.find? k).map fun r => if p r then f r else r := by
  cases hfind : t.find? k with
  | none =>
    rw [find?_eq_none_iff] at hfind
    rw [Option.map_none, find?_eq_none_iff]
    intro r hr
    obtain ⟨s, hs, rfl⟩ := (mem_updateWhere hf).mp hr
    rw [key_updated hf]
    exact hfind s hs
  | some r =>
    obtain ⟨hr, hk⟩ := find?_eq_some_iff.mp hfind
    rw [Option.map_some, find?_eq_some_iff]
    exact ⟨(mem_updateWhere hf).mpr ⟨r, hr, rfl⟩, by rw [key_updated hf, hk]⟩

end Table

end Frick.Framework
