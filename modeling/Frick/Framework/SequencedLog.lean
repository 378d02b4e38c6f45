import Mathlib.Data.Set.Finite.Lemmas

/-!
# Logs with per-key sequence numbers

A log is a list of entries; each entry belongs to a key and carries a sequence number from a linear
order. `Extends log log'` says what it means for `log'` to come after `log` without a sequence
number ever being handed out twice: every key's newest number is still reached, and whatever is in
`log'` was either in `log` or lies strictly above everything `log` had under its key.
-/

namespace Frick.Framework.SequencedLog

variable {ε : Type*} [LinearOrder α] (key : ε → κ) (seq : ε → α)

/-- No entry of its key has a larger sequence number. -/
def Newest (log : List ε) (e : ε) : Prop :=
  e ∈ log ∧ ∀ e' ∈ log, key e' = key e → seq e' ≤ seq e

/-- `log'` continues `log`, and no number `log` knew is used again in it. -/
structure Extends (log log' : List ε) : Prop where
  covers : ∀ e ∈ log, ∃ e' ∈ log', key e' = key e ∧ seq e ≤ seq e'
  fresh : ∀ e' ∈ log', e' ∈ log ∨ ∀ e ∈ log, key e = key e' → seq e < seq e'

variable {key seq} {log log' log'' : List ε}

lemma Extends.refl (log : List ε) : Extends key seq log log :=
  ⟨fun e he => ⟨e, he, rfl, le_rfl⟩, fun _ he => .inl he⟩

lemma Extends.trans (h : Extends key seq log log') (h' : Extends key seq log' log'') :
    Extends key seq log log'' := by
  refine ⟨?_, ?_⟩
  · intro e he
    obtain ⟨e', he', hkey', hle'⟩ := h.covers e he
    obtain ⟨e'', he'', hkey'', hle''⟩ := h'.covers e' he'
    exact ⟨e'', he'', hkey''.trans hkey', hle'.trans hle''⟩
  · intro e'' he''
    rcases h'.fresh e'' he'' with he' | hnew
    · exact h.fresh e'' he'
    · refine .inr fun e he hkey => ?_
      obtain ⟨e', he', hkey', hle'⟩ := h.covers e he
      exact lt_of_le_of_lt hle' (hnew e' he' (hkey'.trans hkey))

lemma Extends.concat {x : ε} (h : ∀ e ∈ log, key e = key x → seq e < seq x) :
    Extends key seq log (log ++ [x]) := by
  refine ⟨fun e he => ⟨e, List.mem_append_left _ he, rfl, le_rfl⟩, ?_⟩
  intro e' he'
  rcases List.mem_append.mp he' with he' | he'
  · exact .inl he'
  · rw [List.mem_singleton] at he'
    exact .inr fun e he hkey => he' ▸ h e he (he' ▸ hkey)

variable (key seq) in
lemma exists_newest {e : ε} (he : e ∈ log) :
    ∃ n, Newest key seq log n ∧ key n = key e ∧ seq e ≤ seq n := by
  have hfin : {e' | e' ∈ log ∧ key e' = key e}.Finite :=
    log.finite_toSet.subset fun e' he' => he'.1
  obtain ⟨n, ⟨hn, hkey⟩, hmax⟩ := Set.exists_max_image _ seq hfin ⟨e, he, rfl⟩
  exact ⟨n, ⟨hn, fun e' he' hk => hmax e' ⟨he', hk.trans hkey⟩⟩, hkey, hmax e ⟨he, rfl⟩⟩

variable (hsub : ∀ e ∈ log', e ∈ log) (hspare : ∀ e, Newest key seq log e → e ∈ log')
include hsub hspare

/-- Deleting entries, but no newest one, is an extension. -/
lemma Extends.of_subset : Extends key seq log log' := by
  refine ⟨?_, fun e' he' => .inl (hsub e' he')⟩
  intro e he
  obtain ⟨n, hn, hkey, hle⟩ := exists_newest key seq he
  exact ⟨n, hspare n hn, hkey, hle⟩

lemma newest_iff_of_subset {e : ε} : Newest key seq log' e ↔ Newest key seq log e := by
  constructor
  · intro hnew
    refine ⟨hsub e hnew.1, fun e' he' hkey => ?_⟩
    obtain ⟨n, hn, hkeyn, hle⟩ := exists_newest key seq he'
    exact hle.trans (hnew.2 n (hspare n hn) (hkeyn.trans hkey))
  · intro hnew
    exact ⟨hspare e hnew, fun e' he' => hnew.2 e' (hsub e' he')⟩

end Frick.Framework.SequencedLog
