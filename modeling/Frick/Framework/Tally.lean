import Frick.Framework.Table

/-!
# Tallies over a keyed table

Some rows of a table carry an attribute, such as the owner of a session or the tenant of a
connection. `tally` is the number of rows with a given attribute. A program that keeps such numbers
beside the table has to change them with every statement; the lemmas say by how much.
-/

namespace Frick.Framework.Table

open List

variable {ρ κ α : Type} [DecidableEq κ] [DecidableEq α] {key : ρ → κ}

/-- The number of rows with the attribute `a`. -/
def tally (t : Table key) (attr : ρ → Option α) (a : α) : Nat :=
  t.rows.countP fun row => attr row = some a

def has (attr : ρ → Option α) (row : ρ) (a : α) : Nat := if attr row = some a then 1 else 0

variable {t : Table key} {attr : ρ → Option α} {a : α} {k : κ} {old : ρ}

lemma has_of_some {row : ρ} {b : α} (h : attr row = some b) :
    has attr row a = if b = a then 1 else 0 := by
  simp [has, h]

lemma has_of_none {row : ρ} (h : attr row = none) : has attr row a = 0 := by
  simp [has, h]

omit [DecidableEq κ] in
lemma tally_of_rows_eq_nil (h : t.rows = []) : t.tally attr a = 0 := by
  rw [tally, h, countP_nil]

lemma countP_cons_has (row : ρ) (rows : List ρ) :
    (row :: rows).countP (fun row => attr row = some a) =
      rows.countP (fun row => attr row = some a) + has attr row a := by
  rw [countP_cons, has]
  simp

omit [DecidableEq κ] in
lemma tally_congr {attr' : ρ → Option α} (h : ∀ row ∈ t, attr' row = attr row) :
    t.tally attr' a = t.tally attr a := by
  apply countP_congr
  intro row hrow
  rw [h row hrow]

omit [DecidableEq κ] in
lemma tally_mono {β : Type} [DecidableEq β] {attr' : ρ → Option β} {b : β}
    (h : ∀ row ∈ t, attr row = some a → attr' row = some b) : t.tally attr a ≤ t.tally attr' b := by
  apply countP_mono_left
  intro row hrow hattr
  exact decide_eq_true (h row hrow (of_decide_eq_true hattr))

lemma exists_rows_eq (h : t.find? k = some old) :
    ∃ front rest, t.rows = front ++ old :: rest ∧ key old = k ∧
      (∀ row ∈ front, key row ≠ k) ∧ ∀ row ∈ rest, key row ≠ k := by
  obtain ⟨hmem, hkey⟩ := find?_eq_some_iff.mp h
  obtain ⟨front, rest, hrows⟩ := append_of_mem hmem
  have hnodup := t.nodup
  rw [hrows, map_append] at hnodup
  obtain ⟨-, hrest, hfront⟩ := nodup_append.mp hnodup
  refine ⟨front, rest, hrows, hkey, fun row hrow hk => ?_, fun row hrow hk => ?_⟩
  · refine hfront (key row) (mem_map_of_mem hrow) (key old) mem_cons_self ?_
    rw [hk, hkey]
  · refine (nodup_cons.mp hrest).1 ?_
    rw [hkey, ← hk]
    exact mem_map_of_mem hrow

/-- The attribute goes by the key, and changes at one key. -/
lemma tally_update (slot : κ → Option α) (v : Option α) (h : t.find? k = some old) :
    t.tally (fun row => Function.update slot k v (key row)) a + (if slot k = some a then 1 else 0) =
      t.tally (fun row => slot (key row)) a + if v = some a then 1 else 0 := by
  obtain ⟨front, rest, hrows, hkey, hfront, hrest⟩ := exists_rows_eq h
  have hkeep : ∀ rows : List ρ, (∀ row ∈ rows, key row ≠ k) →
      rows.countP (fun row => Function.update slot k v (key row) = some a) =
        rows.countP fun row => slot (key row) = some a := by
    intro rows hrows
    apply countP_congr
    intro row hrow
    rw [Function.update_of_ne (hrows row hrow)]
  rw [tally, tally, hrows, countP_append, countP_append, countP_cons_has, countP_cons_has,
    hkeep front hfront, hkeep rest hrest, has, has, hkey, Function.update_self]
  omega

/-! ## A new row -/

lemma tally_upsert_of_fresh {row : ρ} (h : ∀ r ∈ t, key r ≠ key row) :
    (t.upsert row).tally attr a = t.tally attr a + has attr row a := by
  rw [tally, rows_upsert_of_fresh h, countP_append, countP_cons_has, countP_nil, Nat.zero_add]
  rfl

/-! ## One row changes -/

section Update

variable {f : ρ → ρ} (hf : ∀ r, key (f r) = key r)

lemma rows_updateWhere_of_split {front rest : List ρ} (hrows : t.rows = front ++ old :: rest)
    (hkey : key old = k) (hfront : ∀ row ∈ front, key row ≠ k) (hrest : ∀ row ∈ rest, key row ≠ k) :
    (t.updateWhere (fun row => key row = k) f hf).rows = front ++ f old :: rest := by
  have hkeep : ∀ rows : List ρ, (∀ row ∈ rows, key row ≠ k) →
      rows.map (fun row => if decide (key row = k) then f row else row) = rows := by
    intro rows hrows
    refine (map_congr_left fun row hrow => ?_).trans (map_id rows)
    exact if_neg (by simpa using hrows row hrow)
  show t.rows.map _ = _
  rw [hrows, map_append, map_cons, hkeep front hfront, hkeep rest hrest,
    if_pos (decide_eq_true hkey)]

/-- The row under `k` loses the attribute it had and gets the one it has now. -/
lemma tally_updateWhere (h : t.find? k = some old) :
    (t.updateWhere (fun row => key row = k) f hf).tally attr a + has attr old a =
      t.tally attr a + has attr (f old) a := by
  obtain ⟨front, rest, hrows, hkey, hfront, hrest⟩ := exists_rows_eq h
  rw [tally, tally, rows_updateWhere_of_split hf hrows hkey hfront hrest, hrows, countP_append,
    countP_append, countP_cons_has, countP_cons_has]
  omega

omit [DecidableEq κ] in
lemma tally_updateWhere_of_attr {p : ρ → Bool} (h : ∀ row, attr (f row) = attr row) :
    (t.updateWhere p f hf).tally attr a = t.tally attr a := by
  show (t.rows.map _).countP _ = _
  rw [countP_map]
  congr 1
  funext row
  dsimp only [Function.comp]
  split_ifs
  · rw [h]
  · rfl

end Update

/-! ## A row goes -/

lemma rows_deleteWhere_of_split {front rest : List ρ} (hrows : t.rows = front ++ old :: rest)
    (hkey : key old = k) (hfront : ∀ row ∈ front, key row ≠ k) (hrest : ∀ row ∈ rest, key row ≠ k) :
    (t.deleteWhere fun row => key row = k).rows = front ++ rest := by
  have hkeep : ∀ rows : List ρ, (∀ row ∈ rows, key row ≠ k) →
      rows.filter (fun row => !decide (key row = k)) = rows := by
    intro rows hrows
    apply filter_eq_self.mpr
    intro row hrow
    simpa using hrows row hrow
  show t.rows.filter _ = _
  rw [hrows, filter_append, hkeep front hfront, filter_cons_of_neg (by simp [hkey]),
    hkeep rest hrest]

lemma tally_deleteWhere (h : t.find? k = some old) :
    (t.deleteWhere fun row => key row = k).tally attr a + has attr old a = t.tally attr a := by
  obtain ⟨front, rest, hrows, hkey, hfront, hrest⟩ := exists_rows_eq h
  rw [tally, tally, rows_deleteWhere_of_split hrows hkey hfront hrest, hrows, countP_append,
    countP_append, countP_cons_has]
  omega

end Frick.Framework.Table
