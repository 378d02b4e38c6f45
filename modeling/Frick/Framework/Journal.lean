import Mathlib.Data.List.Basic

/-!
# The journal of a connection that writers share

One connection, many writers, at most one transaction open at a time. The journal records the writes
in the order in which they took effect, whoever made them, and the boundaries of the transactions.
`survivors` says which writes the journal leaves in force: a write is dropped exactly when it was
made while a transaction was open that a rollback then closed.

A closed part of the journal is final, and an open transaction contributes all of its writes or
none.
-/

namespace Frick.Framework

open List

inductive Entry (α : Type*) where
  | write (a : α)
  | begin
  | commit
  | rollback

namespace Entry

variable {α : Type*}

/-- Whether a transaction is open after the journal, given whether one was open before it. -/
def isOpen : Bool → List (Entry α) → Bool
  | b, [] => b
  | b, .write _ :: rest => isOpen b rest
  | _, .begin :: rest => isOpen true rest
  | _, .commit :: rest => isOpen false rest
  | _, .rollback :: rest => isOpen false rest

/-- The transaction open before these entries is closed by a rollback. -/
def undoes : List (Entry α) → Bool
  | [] => false
  | .write _ :: rest => undoes rest
  | .begin :: rest => undoes rest
  | .commit :: _ => false
  | .rollback :: _ => true

/-- The writes a journal leaves in force, in order. -/
def survivors : Bool → List (Entry α) → List α
  | _, [] => []
  | b, .write a :: rest => if b && undoes rest then survivors b rest else a :: survivors b rest
  | _, .begin :: rest => survivors true rest
  | _, .commit :: rest => survivors false rest
  | _, .rollback :: rest => survivors false rest

variable {b : Bool} {journal later : List (Entry α)}

lemma isOpen_append (b : Bool) (journal later : List (Entry α)) :
    isOpen b (journal ++ later) = isOpen (isOpen b journal) later := by
  induction journal generalizing b with
  | nil => rfl
  | cons ent _ ih => cases ent <;> exact ih _

/-- A closed journal has settled its transaction, whatever is written later. -/
lemma undoes_append_of_closed (h : isOpen true journal = false) :
    undoes (journal ++ later) = undoes journal := by
  induction journal with
  | nil => cases h
  | cons ent _ ih =>
    cases ent with
    | write _ | begin => exact ih h
    | commit | rollback => rfl

/-- What a closed part of the journal leaves in force is final. -/
lemma survivors_append_of_closed (h : isOpen b journal = false) :
    survivors b (journal ++ later) = survivors b journal ++ survivors false later := by
  induction journal generalizing b with
  | nil =>
    obtain rfl : b = false := h
    rfl
  | cons ent rest ih =>
    cases ent with
    | write =>
      have hshut : isOpen b rest = false := h
      have hsett : (b && undoes (rest ++ later)) = (b && undoes rest) := by
        cases b with
        | false => rfl
        | true => rw [undoes_append_of_closed hshut]
      rw [cons_append, survivors, survivors, hsett, ih h]
      split_ifs <;> rfl
    | begin | commit | rollback => exact ih h

lemma undoes_writes (as : List α) (tail : List (Entry α)) :
    undoes (as.map .write ++ tail) = undoes tail := by
  induction as with
  | nil => rfl
  | cons _ _ ih => exact ih

lemma survivors_committed (b : Bool) (as : List α) (tail : List (Entry α))
    (htail : undoes tail = false) (hnone : ∀ b, survivors b tail = []) :
    survivors b (as.map .write ++ tail) = as := by
  induction as with
  | nil => exact hnone b
  | cons _ _ ih =>
    rw [map_cons, cons_append, survivors, undoes_writes, htail, Bool.and_false, ih]
    rfl

lemma survivors_rolledBack (as : List α) : survivors true (as.map .write ++ [.rollback]) = [] := by
  induction as with
  | nil => rfl
  | cons _ _ ih =>
    rw [map_cons, cons_append, survivors, undoes_writes, ih]
    rfl

lemma write_mem_of_survivor {a : α} (h : a ∈ survivors b journal) : .write a ∈ journal := by
  induction journal generalizing b with
  | nil => cases h
  | cons ent _ ih =>
    cases ent with
    | write _ =>
      rw [survivors] at h
      split_ifs at h
      · exact mem_cons_of_mem _ (ih h)
      · rcases mem_cons.mp h with rfl | hrest
        · exact mem_cons_self
        · exact mem_cons_of_mem _ (ih hrest)
    | begin | commit | rollback => exact mem_cons_of_mem _ (ih h)

lemma survivors_append (b : Bool) (journal later : List (Entry α)) :
    ∃ kept, (∀ a ∈ kept, .write a ∈ journal) ∧
      survivors b (journal ++ later) = kept ++ survivors (isOpen b journal) later := by
  induction journal generalizing b with
  | nil => exact ⟨[], by simp, rfl⟩
  | cons ent rest ih =>
    have hweaken : ∀ {kept : List α}, (∀ a ∈ kept, Entry.write a ∈ rest) →
        ∀ a ∈ kept, Entry.write a ∈ ent :: rest :=
      fun h a ha => mem_cons_of_mem _ (h a ha)
    cases ent with
    | write a =>
      obtain ⟨kept, hkept, heq⟩ := ih b
      rw [cons_append, survivors]
      split_ifs
      · exact ⟨kept, hweaken hkept, heq⟩
      exact ⟨a :: kept, forall_mem_cons.mpr ⟨mem_cons_self, hweaken hkept⟩, by rw [heq]; rfl⟩
    | begin | commit | rollback => exact (ih _).imp fun _ h => ⟨hweaken h.1, h.2⟩

/-- A write that stands once in the journal is in force exactly when it was not made in an open
transaction that a rollback closed. -/
theorem mem_survivors_iff {a : α} (hjour : .write a ∉ journal) (hlater : .write a ∉ later) :
    a ∈ survivors b (journal ++ .write a :: later) ↔ ¬(isOpen b journal ∧ undoes later) := by
  obtain ⟨kept, hkept, heq⟩ := survivors_append b journal (.write a :: later)
  have hpre : a ∉ kept := fun h => hjour (hkept a h)
  have hafter : a ∉ survivors (isOpen b journal) later := fun h => hlater (write_mem_of_survivor h)
  rw [heq, mem_append, survivors]
  split_ifs with hundo
  · rw [Bool.and_eq_true] at hundo
    exact iff_of_false (fun h => h.elim hpre hafter) (not_not.mpr hundo)
  · rw [Bool.and_eq_true] at hundo
    simp [hundo]

end Entry

end Frick.Framework
