import Mathlib.Data.List.Induction
import Frick.Framework.Table

/-!
# Insertion-ordered maps

A map from keys to values that remembers the order in which its keys were first set, as the
maps of JavaScript do: a `Table` of pairs keyed by the first component.
-/

namespace Frick.Framework

open Table List

/-- A map whose keys are listed in the order they were first set. -/
abbrev Dict (κ ν : Type) := Table (Prod.fst : κ × ν → κ)

namespace Dict

variable {κ ν : Type} [DecidableEq κ] {d : Dict κ ν} {k k' : κ} {v : ν}

/-- The value stored under a key. -/
def get? (d : Dict κ ν) (k : κ) : Option ν := (d.find? k).map Prod.snd

/-- Store a value; a key that is there keeps its place. -/
def set (d : Dict κ ν) (k : κ) (v : ν) : Dict κ ν := d.upsert (k, v)

def erase (d : Dict κ ν) (k : κ) : Dict κ ν := d.deleteWhere fun entry => entry.1 = k

@[simp] lemma get?_set_self (d : Dict κ ν) (k : κ) (v : ν) : (d.set k v).get? k = some v := by
  have hfind : (d.set k v).find? k = some (k, v) := find?_upsert_self d (k, v)
  rw [get?, hfind]
  rfl

lemma get?_set_of_ne (h : k' ≠ k) : (d.set k v).get? k' = d.get? k' := by
  rw [get?, set, find?_upsert_of_ne h, get?]

@[simp] lemma get?_erase_self (d : Dict κ ν) (k : κ) : (d.erase k).get? k = none := by
  have hfind : (d.erase k).find? k = none := by
    refine find?_eq_none_iff.mpr fun ent hent hk => ?_
    have hkept := (mem_deleteWhere.mp hent).2
    exact of_decide_eq_false hkept hk
  rw [get?, hfind]
  rfl

lemma get?_erase_of_ne (h : k' ≠ k) : (d.erase k).get? k' = d.get? k' := by
  have hfind : (d.erase k).find? k' = d.find? k' := by
    refine find?_congr fun ent hent => ?_
    rw [erase, mem_deleteWhere]
    exact and_iff_left (decide_eq_false fun hk => h (hent.symm.trans hk))
  rw [get?, get?, hfind]

lemma get?_of_mem {ent : κ × ν} (h : ent ∈ d) : d.get? ent.1 = some ent.2 := by
  have hfind : d.find? ent.1 = some ent := find?_eq_some_iff.mpr ⟨h, rfl⟩
  rw [get?, hfind]
  rfl

lemma mem_of_get? (h : d.get? k = some v) : (k, v) ∈ d := by
  obtain ⟨ent, hent, rfl⟩ := Option.map_eq_some_iff.mp h
  obtain ⟨hmem, rfl⟩ := find?_eq_some_iff.mp hent
  exact hmem

lemma isSome_get?_iff : (d.get? k).isSome ↔ k ∈ d.rows.map Prod.fst := by
  constructor
  · intro h
    obtain ⟨v, hv⟩ := Option.isSome_iff_exists.mp h
    exact mem_map.mpr ⟨(k, v), mem_of_get? hv, rfl⟩
  · intro h
    obtain ⟨ent, hent, rfl⟩ := mem_map.mp h
    rw [get?_of_mem hent]
    rfl

lemma keys_set_of_notMem (h : k ∉ d.rows.map Prod.fst) :
    (d.set k v).rows.map Prod.fst = d.rows.map Prod.fst ++ [k] := by
  have hany : ¬ (d.rows.any fun ent => ent.1 = k) := by
    rw [any_eq_true]
    rintro ⟨ent, hent, hk⟩
    exact h (mem_map.mpr ⟨ent, hent, of_decide_eq_true hk⟩)
  have hrows : (d.set k v).rows = d.rows ++ [(k, v)] := if_neg hany
  rw [hrows, map_append]
  rfl

/-! ## Edits

An edit sets the value of a key or, without a value, drops the key. Of several edits of a key the
last one counts. -/

def edit (d : Dict κ ν) (e : κ × Option ν) : Dict κ ν :=
  match e.2 with
  | some v => d.set e.1 v
  | none => d.erase e.1

def edits (d : Dict κ ν) (es : List (κ × Option ν)) : Dict κ ν := es.foldl edit d

/-- What the last edit of a key leaves there. -/
def lastEdit (es : List (κ × Option ν)) (k : κ) : Option (Option ν) :=
  (es.reverse.find? fun e => e.1 = k).map Prod.snd

lemma get?_edit (d : Dict κ ν) (e : κ × Option ν) (k : κ) :
    (d.edit e).get? k = if e.1 = k then e.2 else d.get? k := by
  obtain ⟨key, val⟩ := e
  by_cases h : key = k
  · subst h
    rw [if_pos rfl]
    cases val with
    | none => exact get?_erase_self d key
    | some v => exact get?_set_self d key v
  · rw [if_neg h]
    cases val with
    | none => exact get?_erase_of_ne (Ne.symm h)
    | some => exact get?_set_of_ne (Ne.symm h)

lemma lastEdit_concat (es : List (κ × Option ν)) (e : κ × Option ν) (k : κ) :
    lastEdit (es ++ [e]) k = if e.1 = k then some e.2 else lastEdit es k := by
  rw [lastEdit, reverse_append, reverse_singleton, singleton_append, List.find?_cons]
  by_cases h : e.1 = k
  · rw [if_pos h, decide_eq_true h]
    rfl
  · rw [if_neg h, decide_eq_false h]
    rfl

/-- The last edit of a key decides. -/
lemma get?_edits (d : Dict κ ν) (es : List (κ × Option ν)) (k : κ) :
    (d.edits es).get? k = (lastEdit es k).getD (d.get? k) := by
  induction es using List.reverseRecOn with
  | nil => rfl
  | append_singleton _ _ ih =>
    rw [edits, foldl_append, foldl_cons, foldl_nil, get?_edit, lastEdit_concat]
    split_ifs
    · rfl
    · exact ih

lemma lastEdit_eq_none_iff {es : List (κ × Option ν)} :
    lastEdit es k = none ↔ k ∉ es.map Prod.fst := by
  rw [lastEdit, Option.map_eq_none_iff, List.find?_eq_none, mem_map]
  simp only [mem_reverse, decide_eq_true_eq, not_exists, not_and]

lemma lastEdit_map {μ : Type} (f : Option ν → Option μ) (es : List (κ × Option ν)) (k : κ) :
    lastEdit (es.map fun e => (e.1, f e.2)) k = (lastEdit es k).map f := by
  rw [lastEdit, lastEdit, ← map_reverse, List.find?_map, Option.map_map, Option.map_map]
  rfl

lemma lastEdit_entries (d : Dict κ ν) (k : κ) :
    lastEdit (d.rows.map fun ent => (ent.1, some ent.2)) k = (d.get? k).map some := by
  cases hget : d.get? k with
  | none =>
    rw [Option.map_none, lastEdit_eq_none_iff, map_map]
    intro hmem
    obtain ⟨ent, hent, rfl⟩ := mem_map.mp hmem
    rw [Function.comp, get?_of_mem hent] at hget
    cases hget
  | some v =>
    have hmem : (k, some v) ∈ (d.rows.map fun ent => (ent.1, some ent.2)).reverse :=
      mem_reverse.mpr (mem_map.mpr ⟨(k, v), mem_of_get? hget, rfl⟩)
    have hnodup : ((d.rows.map fun ent => (ent.1, some ent.2)).reverse.map
        (Prod.fst : κ × Option ν → κ)).Nodup := by
      rw [map_reverse, nodup_reverse, map_map]
      exact d.nodup
    rw [lastEdit, find?_of_nodup hnodup hmem]
    rfl

end Dict

end Frick.Framework
