import Mathlib.Data.List.Nodup

/-!
# The bounded idempotency front-cache

`stores/idempotency.rs`. The source keeps a hash map from key to `(stamp, value)` and a `BTreeMap`
from stamp to key; the stamps are handed out in increasing order, so the pair is a list of entries
from least to most recently used, which is the form used here.
-/

namespace Frick.Store

open List

/-- `BoundedIdempotencyCache<V>`, entries from least to most recently used. -/
structure BoundedIdempotencyCache (V : Type) where
  capacity : Nat
  entries : List (String × V)
  evictions : Nat
  nodup : (entries.map Prod.fst).Nodup
  length_le : entries.length ≤ capacity

namespace BoundedIdempotencyCache

variable {V : Type}

/-- `BoundedIdempotencyCache::new`, for a capacity already floored. -/
def new (V : Type) (capacity : Nat) : BoundedIdempotencyCache V where
  capacity := capacity
  entries := []
  evictions := 0
  nodup := by simp
  length_le := by simp

/-- The value under `key`, leaving recency alone. -/
def peek (cache : BoundedIdempotencyCache V) (key : String) : Option V :=
  (cache.entries.find? fun entry => entry.1 = key).map Prod.snd

/-- The entries with `key` moved to the most recent position and bound to `value`. -/
def refreshed (entries : List (String × V)) (key : String) (value : V) : List (String × V) :=
  entries.filter (fun entry => entry.1 ≠ key) ++ [(key, value)]

variable {entries : List (String × V)} {k key : String} {v value : V}
  {cache : BoundedIdempotencyCache V}

lemma nodup_refreshed (h : (entries.map Prod.fst).Nodup) (key : String) (value : V) :
    ((refreshed entries key value).map Prod.fst).Nodup := by
  rw [refreshed, map_append, nodup_append]
  refine ⟨h.sublist (filter_sublist.map _), by simp, ?_⟩
  intro a ha b hb
  obtain ⟨entry, hentry, rfl⟩ := mem_map.mp ha
  rw [map_singleton, mem_singleton] at hb
  rw [hb]
  simpa using (mem_filter.mp hentry).2

lemma mem_refreshed :
    (k, v) ∈ refreshed entries key value ↔ k = key ∧ v = value ∨ (k, v) ∈ entries ∧ k ≠ key := by
  rw [refreshed, mem_append, mem_singleton, or_comm]
  simp

lemma length_refreshed_le (hmem : key ∈ entries.map Prod.fst) (value : V) :
    (refreshed entries key value).length ≤ entries.length := by
  obtain ⟨entry, hentry, rfl⟩ := mem_map.mp hmem
  have hlt : (entries.filter fun e => e.1 ≠ entry.1).length < entries.length :=
    length_filter_lt_length_iff_exists.mpr ⟨entry, hentry, by simp⟩
  rw [refreshed, length_append, length_singleton]
  omega

lemma peek_eq_some_iff : cache.peek key = some value ↔ (key, value) ∈ cache.entries := by
  rw [peek, Option.map_eq_some_iff]
  constructor
  · rintro ⟨entry, hfind, rfl⟩
    have hkey : entry.1 = key := by simpa using List.find?_some hfind
    rw [← hkey]
    exact mem_of_find?_eq_some hfind
  · intro hmem
    cases hfind : cache.entries.find? fun entry => entry.1 = key with
    | none =>
      have := List.find?_eq_none.mp hfind (key, value) hmem
      simp at this
    | some entry =>
      have hkey : entry.1 = key := by simpa using List.find?_some hfind
      have hin := mem_of_find?_eq_some hfind
      rw [inj_on_of_nodup_map cache.nodup hin hmem hkey]
      exact ⟨(key, value), rfl, rfl⟩

/-- `BoundedIdempotencyCache::get`: a hit becomes the most recently used entry. -/
def get (cache : BoundedIdempotencyCache V) (key : String) : Option V × BoundedIdempotencyCache V :=
  match h : cache.peek key with
  | none => (none, cache)
  | some value =>
    (some value,
      { cache with
        entries := refreshed cache.entries key value
        nodup := nodup_refreshed cache.nodup key value
        length_le := by
          have hmem : key ∈ cache.entries.map Prod.fst :=
            mem_map.mpr ⟨(key, value), peek_eq_some_iff.mp h, rfl⟩
          exact Nat.le_trans (length_refreshed_le hmem value) cache.length_le })

/-- `BoundedIdempotencyCache::set`: write at the most recent position, then drop the least
recently used entries while over capacity. -/
def set (cache : BoundedIdempotencyCache V) (key : String) (value : V) :
    BoundedIdempotencyCache V :=
  let fresh := refreshed cache.entries key value
  { capacity := cache.capacity
    entries := fresh.drop (fresh.length - cache.capacity)
    evictions := cache.evictions + (fresh.length - cache.capacity)
    nodup := (nodup_refreshed cache.nodup key value).sublist ((drop_sublist _ _).map _)
    length_le := by rw [length_drop]; omega }

@[simp] lemma get_fst (cache : BoundedIdempotencyCache V) (key : String) :
    (cache.get key).1 = cache.peek key := by
  unfold get
  split <;> simp_all

@[simp] lemma peek_get (cache : BoundedIdempotencyCache V) (key k : String) :
    (cache.get key).2.peek k = cache.peek k := by
  unfold get
  split
  · rfl
  rename_i value hpeek
  refine Option.ext fun v => ?_
  rw [peek_eq_some_iff, peek_eq_some_iff]
  rw [mem_refreshed]
  constructor
  · rintro (⟨rfl, rfl⟩ | ⟨hmem, _⟩)
    · exact peek_eq_some_iff.mp hpeek
    · exact hmem
  intro hmem
  by_cases hk : k = key
  · subst hk
    rw [← peek_eq_some_iff, hpeek, Option.some.injEq] at hmem
    exact .inl ⟨rfl, hmem.symm⟩
  · exact .inr ⟨hmem, hk⟩

lemma mem_of_mem_set (h : (cache.set key value).peek k = some v) :
    (k, v) ∈ refreshed cache.entries key value :=
  mem_of_mem_drop (peek_eq_some_iff.mp h)

lemma peek_set_self (h : (cache.set key value).peek key = some v) : v = value := by
  rcases mem_refreshed.mp (mem_of_mem_set h) with ⟨_, hv⟩ | ⟨_, hne⟩
  · exact hv
  · exact absurd rfl hne

lemma peek_set_of_ne (hne : k ≠ key) (h : (cache.set key value).peek k = some v) :
    cache.peek k = some v := by
  rcases mem_refreshed.mp (mem_of_mem_set h) with ⟨hk, _⟩ | ⟨hmem, _⟩
  · exact absurd hk hne
  · exact peek_eq_some_iff.mpr hmem

end BoundedIdempotencyCache

end Frick.Store
