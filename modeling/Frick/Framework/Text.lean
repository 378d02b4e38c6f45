import Mathlib.Algebra.Order.Ring.Int
import Mathlib.Data.List.TakeWhile

/-!
# Splitting text and reading decimal numbers

Texts are lists of characters, so that every function here is by structural recursion and runs in
the kernel.
-/

namespace Frick.Framework

/-- Everything before and everything after the first `separator`. -/
def splitOnce (separator : Char) (text : List Char) : Option (List Char × List Char) :=
  match text.dropWhile (· ≠ separator) with
  | [] => none
  | _ :: rest => some (text.takeWhile (· ≠ separator), rest)

variable {separator : Char} {text before rest : List Char}

lemma splitOnce_append (h : separator ∉ text) (rest : List Char) :
    splitOnce separator (text ++ separator :: rest) = some (text, rest) := by
  have hall : ∀ c ∈ text, decide (c ≠ separator) := by
    intro c hc
    exact decide_eq_true fun heq => h (heq ▸ hc)
  rw [splitOnce, List.dropWhile_append_of_pos hall, List.takeWhile_append_of_pos hall]
  simp

lemma append_of_splitOnce (h : splitOnce separator text = some (before, rest)) :
    before ++ separator :: rest = text := by
  rw [splitOnce] at h
  cases hdrop : text.dropWhile (· ≠ separator) with
  | nil =>
    rw [hdrop] at h
    cases h
  | cons c =>
    rw [hdrop] at h
    cases h
    have hc : c = separator := by
      have hhead := List.head?_dropWhile_not (· ≠ separator) text
      rw [hdrop] at hhead
      simpa using hhead
    have hwhole := List.takeWhile_append_dropWhile (p := (· ≠ separator)) (l := text)
    rwa [hdrop, hc] at hwhole

lemma notMem_of_splitOnce (h : splitOnce separator text = some (before, rest)) :
    separator ∉ before := by
  rw [splitOnce] at h
  split at h
  · cases h
  · cases h
    intro hmem
    have hne := List.mem_takeWhile_imp hmem
    simp at hne

lemma exists_splitOnce (h : separator ∈ text) : ∃ parts, splitOnce separator text = some parts := by
  rw [splitOnce]
  cases hdrop : text.dropWhile (· ≠ separator) with
  | nil =>
    have hall := List.dropWhile_eq_nil_iff.mp hdrop separator h
    simp at hall
  | cons => exact ⟨_, rfl⟩

/-- The pieces of a text between its separators; at least one. -/
def splitAll (separator : Char) : List Char → List (List Char)
  | [] => [[]]
  | c :: text =>
    match splitAll separator text with
    | [] => [[c]]
    | piece :: pieces => if c = separator then [] :: piece :: pieces else (c :: piece) :: pieces

/-- An unsigned decimal number of the given width, with an optional leading `+`. -/
def parseUnsigned (width : Nat) (text : List Char) : Option Nat :=
  let digits := match text with
    | '+' :: rest => rest
    | text => text
  if digits.isEmpty || !digits.all Char.isDigit then none
  else
    let n := digits.foldl (fun n c => 10 * n + (c.toNat - '0'.toNat)) 0
    if n < 2 ^ width then some n else none

example : splitAll '$' "a$b$".toList = ["a".toList, "b".toList, []] := by decide

end Frick.Framework
