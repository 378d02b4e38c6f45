import Mathlib.Data.List.Induction

/-!
# Hash chains

A log of links, each of which carries a body, the hash of the link before it and a hash over both. A
checker walks the log from its start. It skips a link without a hash, takes the first link it checks
as given, and holds every later one against the hash it saw last.

A link that is removed, or that loses its hash, is missed only at the end of the log or its start. A
link that keeps a hash is missed only if it is what it was.
-/

namespace Frick.Framework

/-- A link of the log; a link that was written without a hash is not checked. -/
structure Link (ι β η : Type) where
  label : ι
  prev : η
  body : β
  hash : Option η

namespace Link

variable {ι β η : Type}

/-! ## Writing a chain -/

section Chain

/-- The links that a writer appends for labelled bodies, starting behind the hash `prev`. -/
def chain (commit : η → β → η) : η → List (ι × β) → List (Link ι β η)
  | _, [] => []
  | prev, entry :: entries =>
    ⟨entry.1, prev, entry.2, some (commit prev entry.2)⟩ ::
      chain commit (commit prev entry.2) entries

/-- The hash that the next link is written behind. -/
def tip (commit : η → β → η) (prev : η) (entries : List (ι × β)) : η :=
  entries.foldl (fun hash entry => commit hash entry.2) prev

variable {commit : η → β → η} {prev : η} {entries front rest : List (ι × β)} {entry : ι × β}

lemma tip_concat :
    tip commit prev (entries ++ [entry]) = commit (tip commit prev entries) entry.2 :=
  List.foldl_append

lemma length_chain : (chain commit prev entries).length = entries.length := by
  induction entries generalizing prev with
  | nil => rfl
  | cons _ _ ih => rw [chain, List.length_cons, ih, List.length_cons]

lemma chain_eq_nil_iff : chain commit prev entries = [] ↔ entries = [] := by
  rw [← List.length_eq_zero_iff, length_chain, List.length_eq_zero_iff]

end Chain

/-! ## Checking a log -/

section Check

variable [DecidableEq η]

/-- The label of the first link that does not fit, if there is one; `last` is the hash of the last
link that was checked. -/
def firstBreak (commit : η → β → η) : Option η → List (Link ι β η) → Option ι
  | _, [] => none
  | last, link :: links =>
    match link.hash with
    | none => firstBreak commit last links
    | some hash =>
      if link.prev = last.getD link.prev ∧ commit link.prev link.body = hash then
        firstBreak commit (some hash) links
      else some link.label

variable {commit : η → β → η} {links : List (Link ι β η)} {link : Link ι β η} {last : Option η}
  {prev : η} {entries front rest : List (ι × β)}

lemma firstBreak_cons_none (h : link.hash = none) :
    firstBreak commit last (link :: links) = firstBreak commit last links := by
  rw [firstBreak, h]

lemma firstBreak_cons_some {hash : η} (h : link.hash = some hash) :
    firstBreak commit last (link :: links) =
      if link.prev = last.getD link.prev ∧ commit link.prev link.body = hash then
        firstBreak commit (some hash) links else some link.label := by
  rw [firstBreak, h]

lemma firstBreak_cons_some_eq_none_iff {hash : η} (h : link.hash = some hash) :
    firstBreak commit last (link :: links) = none ↔
      (link.prev = last.getD link.prev ∧ commit link.prev link.body = hash) ∧
        firstBreak commit (some hash) links = none := by
  rw [firstBreak_cons_some h]
  by_cases hfits : link.prev = last.getD link.prev ∧ commit link.prev link.body = hash
  · rw [if_pos hfits]
    exact (and_iff_right hfits).symm
  · rw [if_neg hfits]
    exact iff_of_false (nofun) fun h => hfits h.1

lemma firstBreak_chain_append (links : List (Link ι β η)) (hlast : prev = last.getD prev) :
    firstBreak commit last (chain commit prev front ++ links) =
      firstBreak commit (if front = [] then last else some (tip commit prev front)) links := by
  induction front generalizing prev last with
  | nil => rw [if_pos rfl]; rfl
  | cons _ front ih =>
    show firstBreak commit last (_ :: (chain commit _ front ++ links)) = _
    rw [firstBreak_cons_some rfl, if_pos ⟨hlast, rfl⟩, ih rfl]
    by_cases hfront : front = []
    · rw [hfront]
      rfl
    · rw [if_neg hfront]
      rfl

/-- **The untouched log.** -/
lemma firstBreak_chain (hlast : prev = last.getD prev) :
    firstBreak commit last (chain commit prev entries) = none := by
  rw [← List.append_nil (chain commit prev entries), firstBreak_chain_append [] hlast, firstBreak]

lemma firstBreak_chain_eq_none_iff :
    firstBreak commit last (chain commit prev rest) = none ↔ rest = [] ∨ prev = last.getD prev := by
  cases rest with
  | nil => exact iff_of_true rfl (.inl rfl)
  | cons =>
    constructor
    · intro h
      exact .inr ((firstBreak_cons_some_eq_none_iff rfl).mp h).1.1
    · rintro (h | h)
      · cases h
      · exact firstBreak_chain h

end Check

/-! ## One altered link -/

/-- A hash that the writer can hold: the one it starts from, or one it computed. -/
def Issued (commit : η → β → η) (genesis p : η) : Prop := p = genesis ∨ ∃ q b, p = commit q b

/-- What makes a chain tamper-evident: a hash commits to the hash before it and to the body, and the
start of the chain is not a hash. -/
structure Commits (commit : η → β → η) (genesis : η) : Prop where
  genesis_ne : ∀ p b, commit p b ≠ genesis
  prev_inj : ∀ p q b, commit p b = commit q b → p = q
  inj : ∀ p q a b, Issued commit genesis p → Issued commit genesis q → commit p a = commit q b →
    p = q ∧ a = b

section Altered

variable [DecidableEq η] {commit : η → β → η} {genesis : η} {front rest : List (ι × β)}

omit [DecidableEq η] in
lemma issued_tip : Issued commit genesis (tip commit genesis front) := by
  induction front using List.reverseRecOn with
  | nil => exact .inl rfl
  | append_singleton =>
    rw [tip_concat]
    exact .inr ⟨_, _, rfl⟩

variable (h : Commits commit genesis)
include h

omit [DecidableEq η] in
lemma Commits.commit_tip_ne (b : β) :
    commit (tip commit genesis front) b ≠ tip commit genesis front := by
  induction front using List.reverseRecOn generalizing b with
  | nil => exact h.genesis_ne genesis b
  | append_singleton _ entry ih =>
    intro heq
    nth_rewrite 2 [tip_concat] at heq
    have hprev := (h.inj _ _ _ _ issued_tip issued_tip heq).1
    rw [tip_concat] at hprev
    exact ih entry.2 hprev

lemma firstBreak_removed_iff (b : β) :
    firstBreak commit none (chain commit genesis front ++
      chain commit (commit (tip commit genesis front) b) rest) = none ↔ front = [] ∨ rest = [] := by
  rw [firstBreak_chain_append _ rfl, firstBreak_chain_eq_none_iff]
  by_cases hfront : front = []
  · rw [if_pos hfront]
    exact iff_of_true (.inr rfl) (.inl hfront)
  · rw [if_neg hfront, or_iff_right hfront]
    exact or_iff_left (h.commit_tip_ne b)

/-- A link that carries no hash is as good as none. -/
lemma firstBreak_unhashed_iff (b : β) {link : Link ι β η} (hhash : link.hash = none) :
    firstBreak commit none (chain commit genesis front ++
      link :: chain commit (commit (tip commit genesis front) b) rest) = none ↔
      front = [] ∨ rest = [] := by
  rw [firstBreak_chain_append _ rfl, firstBreak_cons_none hhash, ← firstBreak_chain_append _ rfl]
  exact firstBreak_removed_iff h b

omit h in
lemma firstBreak_replaced_iff (b : β) {link : Link ι β η} {k : η} (hk : link.hash = some k) :
    firstBreak commit none (chain commit genesis front ++
      link :: chain commit (commit (tip commit genesis front) b) rest) = none ↔
      ((front = [] ∨ link.prev = tip commit genesis front) ∧ commit link.prev link.body = k) ∧
        (rest = [] ∨ commit (tip commit genesis front) b = k) := by
  rw [firstBreak_chain_append _ rfl, firstBreak_cons_some_eq_none_iff hk,
    firstBreak_chain_eq_none_iff]
  by_cases hfront : front = []
  · simp [hfront]
  · simp [hfront]

omit h in
lemma firstBreak_altered_hash_iff {b : β} (i : ι) (k : η) :
    firstBreak commit none (chain commit genesis front ++
      ⟨i, tip commit genesis front, b, some k⟩ ::
        chain commit (commit (tip commit genesis front) b) rest) = none ↔
      k = commit (tip commit genesis front) b := by
  rw [firstBreak_replaced_iff b rfl]
  constructor
  · exact fun h => h.1.2.symm
  · rintro rfl
    exact ⟨⟨.inr rfl, rfl⟩, .inr rfl⟩

lemma firstBreak_altered_prev_iff {b : β} (i : ι) (p : η) :
    firstBreak commit none (chain commit genesis front ++
      ⟨i, p, b, some (commit (tip commit genesis front) b)⟩ ::
        chain commit (commit (tip commit genesis front) b) rest) = none ↔
      p = tip commit genesis front := by
  rw [firstBreak_replaced_iff b rfl]
  constructor
  · exact fun hpass => h.prev_inj _ _ _ hpass.1.2
  · rintro rfl
    exact ⟨⟨.inr rfl, rfl⟩, .inr rfl⟩

lemma firstBreak_altered_body_iff {b : β} (i : ι) (b' : β) :
    firstBreak commit none (chain commit genesis front ++
      ⟨i, tip commit genesis front, b', some (commit (tip commit genesis front) b)⟩ ::
        chain commit (commit (tip commit genesis front) b) rest) = none ↔ b' = b := by
  rw [firstBreak_replaced_iff b rfl]
  constructor
  · exact fun hpass => (h.inj _ _ _ _ issued_tip issued_tip hpass.1.2).2
  · rintro rfl
    exact ⟨⟨.inr rfl, rfl⟩, .inr rfl⟩

end Altered

end Link
end Frick.Framework
