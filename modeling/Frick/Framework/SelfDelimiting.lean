import Mathlib.Data.String.Basic

/-!
# Self-delimiting encodings

An encoding into lists is self-delimiting if a reader who is given an encoded value followed by
anything can tell where the value ends. Such encodings compose: fields one after the other, fixed
text in between, an alternative for a missing value, a list of symbols up to a terminator.
-/

namespace Frick.Framework

open List

variable {α β σ : Type}

/-- An encoded value with anything behind it determines the value and what is behind it. -/
def SelfDelimiting (encode : α → List σ) : Prop :=
  ∀ a b u v, encode a ++ u = encode b ++ v → a = b ∧ u = v

namespace SelfDelimiting

variable {encode : α → List σ} {other : β → List σ}

/-- What a reader gets back from the front of every input is self-delimiting. -/
lemma of_read (read : List σ → Option (α × List σ))
    (h : ∀ a u, read (encode a ++ u) = some (a, u)) : SelfDelimiting encode := by
  intro a b u v heq
  have hread := h a u
  rw [heq, h b v] at hread
  obtain ⟨hb, hv⟩ := Prod.mk.inj (Option.some.inj hread)
  exact ⟨hb.symm, hv.symm⟩

section

variable (h : SelfDelimiting encode)
include h

lemma injective : Function.Injective encode := by
  intro a b hab
  exact (h a b [] [] (by rw [hab])).1

lemma append (h' : SelfDelimiting other) :
    SelfDelimiting fun p : α × β => encode p.1 ++ other p.2 := by
  rintro ⟨a, b⟩ ⟨a', b'⟩ u v heq
  simp only [append_assoc] at heq
  obtain ⟨rfl, hrest⟩ := h _ _ _ _ heq
  obtain ⟨rfl, rfl⟩ := h' _ _ _ _ hrest
  exact ⟨rfl, rfl⟩

lemma after (text : List σ) : SelfDelimiting fun a => text ++ encode a := by
  intro a b u v heq
  simp only [append_assoc] at heq
  exact h _ _ _ _ (append_cancel_left heq)

lemma comp {f : β → α} (hf : Function.Injective f) : SelfDelimiting fun b => encode (f b) := by
  intro a b u v heq
  obtain ⟨hab, huv⟩ := h _ _ _ _ heq
  exact ⟨hf hab, huv⟩

lemma before (text : List σ) : SelfDelimiting fun a => encode a ++ text := by
  intro a b u v heq
  simp only [append_assoc] at heq
  obtain ⟨hab, hrest⟩ := h _ _ _ _ heq
  exact ⟨hab, append_cancel_left hrest⟩

end

variable (h : SelfDelimiting encode)
include h

/-- A field that may be missing, with a word for that which no value starts with. -/
lemma option {null : List σ} (hnull : ∀ a u v, encode a ++ u ≠ null ++ v) :
    SelfDelimiting fun o : Option α => o.elim null encode := by
  rintro (_ | a) (_ | b) u v heq
  · exact ⟨rfl, append_cancel_left heq⟩
  · exact absurd heq.symm (hnull b v u)
  · exact absurd heq (hnull a u v)
  · obtain ⟨rfl, rfl⟩ := h _ _ _ _ heq
    exact ⟨rfl, rfl⟩

lemma terminated {stop : List σ} (hstop : ∀ a u v, encode a ++ u ≠ stop ++ v) :
    SelfDelimiting fun l : List α => l.flatMap encode ++ stop := by
  intro l
  induction l with
  | nil =>
    rintro (_ | ⟨b, m⟩) u v heq
    · exact ⟨rfl, append_cancel_left heq⟩
    · simp only [flatMap_cons, append_assoc] at heq
      exact absurd heq.symm (hstop b _ _)
  | cons a _ ih =>
    rintro (_ | ⟨b, m⟩) u v heq
    · simp only [flatMap_cons, append_assoc] at heq
      exact absurd heq (hstop a _ _)
    simp only [flatMap_cons, append_assoc] at heq
    obtain ⟨rfl, hrest⟩ := h _ _ _ _ heq
    simp only [← append_assoc] at hrest
    obtain ⟨rfl, rfl⟩ := ih m u v hrest
    exact ⟨rfl, rfl⟩

lemma flatMap_injective (hne : ∀ a, encode a ≠ []) :
    Function.Injective fun l : List α => l.flatMap encode := by
  intro l
  induction l with
  | nil =>
    rintro (_ | ⟨b, m⟩) heq
    · rfl
    · have hnil := (append_eq_nil_iff.mp heq.symm).1
      exact absurd hnil (hne b)
  | cons a _ ih =>
    rintro (_ | ⟨b, m⟩) heq
    · exact absurd (append_eq_nil_iff.mp heq).1 (hne a)
    · obtain ⟨rfl, hrest⟩ := h a b _ _ heq
      rw [ih hrest]

end SelfDelimiting

lemma append_cons_inj_of_notMem {c : σ} {l m u v : List σ} (hl : c ∉ l) (hm : c ∉ m)
    (h : l ++ c :: u = m ++ c :: v) : l = m ∧ u = v := by
  rcases append_eq_append_iff.mp h with ⟨_ | ⟨d, rest⟩, rfl, heq⟩ | ⟨_ | ⟨d, rest⟩, rfl, heq⟩
  all_goals simp_all

/-! ## Hexadecimal digits -/

/-- A digit below 16, in lower case. -/
def hexDigit : Nat → Char
  | 10 => 'a' | 11 => 'b' | 12 => 'c' | 13 => 'd' | 14 => 'e' | 15 => 'f'
  | n => Char.ofNat (48 + n)

def hexValue (c : Char) : Nat := if c.toNat < 58 then c.toNat - 48 else c.toNat - 87

lemma hexValue_hexDigit {n : Nat} (h : n < 16) : hexValue (hexDigit n) = n := by
  have hall : ∀ n < 16, hexValue (hexDigit n) = n := by decide
  exact hall n h

def hexByte (b : UInt8) : List Char := [hexDigit (b.toNat / 16), hexDigit (b.toNat % 16)]

def hexEncode (bytes : List UInt8) : List Char := bytes.flatMap hexByte

lemma hexByte_selfDelimiting : SelfDelimiting hexByte := by
  intro a b u v heq
  obtain ⟨hhigh, hrest⟩ := List.cons.inj heq
  obtain ⟨hlow, hrest⟩ := List.cons.inj hrest
  have ha := a.toNat_lt
  have hb := b.toNat_lt
  have hhigh := congrArg hexValue hhigh
  have hlow := congrArg hexValue hlow
  rw [hexValue_hexDigit (by omega), hexValue_hexDigit (by omega)] at hhigh hlow
  refine ⟨UInt8.toNat_inj.mp ?_, hrest⟩
  omega

lemma hexEncode_injective : Function.Injective hexEncode :=
  hexByte_selfDelimiting.flatMap_injective nofun

lemma toNat_hexDigit_lt {n : Nat} (h : n < 16) : (hexDigit n).toNat < 103 := by
  have hall : ∀ n < 16, (hexDigit n).toNat < 103 := by decide
  exact hall n h

lemma notMem_hexEncode {c : Char} (hc : 103 ≤ c.toNat) (bytes : List UInt8) :
    c ∉ hexEncode bytes := by
  intro hmem
  obtain ⟨b, -, hb⟩ := mem_flatMap.mp hmem
  have hlt := b.toNat_lt
  have hsmall : c.toNat < 103 := by
    rcases mem_cons.mp hb with rfl | hb
    · exact toNat_hexDigit_lt (by omega)
    · rw [mem_singleton.mp hb]
      exact toNat_hexDigit_lt (by omega)
  omega

/-! ## Numbers and byte strings -/

/-- The lowest `k` bytes of a number, the highest of them first. -/
def beBytes : Nat → Nat → List UInt8
  | 0, _ => []
  | k + 1, n => beBytes k (n / 256) ++ [UInt8.ofNat n]

lemma length_beBytes (k n : Nat) : (beBytes k n).length = k := by
  induction k generalizing n with
  | zero => rfl
  | succ _ ih => rw [beBytes, length_append, ih, length_singleton]

lemma beBytes_inj {k a b : Nat} (ha : a < 256 ^ k) (hb : b < 256 ^ k)
    (h : beBytes k a = beBytes k b) : a = b := by
  induction k generalizing a b with
  | zero => omega
  | succ k ih =>
    obtain ⟨hhigh, hlow⟩ := append_inj' h rfl
    have hdiv := ih (by omega) (by omega) hhigh
    have hmod := congrArg UInt8.toNat (singleton_inj.mp hlow)
    rw [UInt8.toNat_ofNat', UInt8.toNat_ofNat'] at hmod
    omega

lemma beBytes_selfDelimiting (k : Nat) : SelfDelimiting fun n : Fin (256 ^ k) => beBytes k n := by
  intro a b u v heq
  obtain ⟨hbytes, huv⟩ := append_inj heq (by rw [length_beBytes, length_beBytes])
  exact ⟨Fin.ext (beBytes_inj a.2 b.2 hbytes), huv⟩

lemma prefixed_selfDelimiting (k : Nat) : SelfDelimiting
    fun l : { l : List UInt8 // l.length < 256 ^ k } => beBytes k l.1.length ++ l.1 := by
  intro a b u v heq
  simp only [append_assoc] at heq
  obtain ⟨hlength, hrest⟩ := beBytes_selfDelimiting k ⟨_, a.2⟩ ⟨_, b.2⟩ _ _ heq
  obtain ⟨hab, huv⟩ := append_inj hrest (Fin.mk.inj hlength)
  exact ⟨Subtype.ext hab, huv⟩

/-! ## JSON string literals -/

/-- A character inside a JSON string literal. -/
def escapeChar (c : Char) : List Char :=
  if c = '"' then ['\\', '"']
  else if c = '\\' then ['\\', '\\']
  else if c = '\x08' then ['\\', 'b']
  else if c = '\x0c' then ['\\', 'f']
  else if c = '\n' then ['\\', 'n']
  else if c = '\r' then ['\\', 'r']
  else if c = '\t' then ['\\', 't']
  else if c.toNat < 32 then
    ['\\', 'u', '0', '0', hexDigit (c.toNat / 16), hexDigit (c.toNat % 16)]
  else [c]

def jsonString (s : List Char) : List Char := '"' :: (s.flatMap escapeChar ++ ['"'])

/-- What stands behind a backslash. -/
def readEscape : List Char → Option (Char × List Char)
  | 'u' :: _ :: _ :: a :: b :: rest => some (Char.ofNat (16 * hexValue a + hexValue b), rest)
  | 'b' :: rest => some ('\x08', rest)
  | 'f' :: rest => some ('\x0c', rest)
  | 'n' :: rest => some ('\n', rest)
  | 'r' :: rest => some ('\r', rest)
  | 't' :: rest => some ('\t', rest)
  | c :: rest => some (c, rest)
  | [] => none

/-- The first character of the inside of a literal. -/
def readChar : List Char → Option (Char × List Char)
  | [] => none
  | c :: rest => if c = '\\' then readEscape rest else some (c, rest)

lemma escapeChar_cases (c : Char) :
    (∃ x rest, escapeChar c = '\\' :: x :: rest ∧ ∀ u, readEscape (x :: rest ++ u) = some (c, u)) ∨
    (escapeChar c = [c] ∧ c ≠ '\\' ∧ c ≠ '"') := by
  unfold escapeChar
  by_cases hq : c = '"'
  · rw [if_pos hq]
    exact .inl ⟨_, _, rfl, fun u => by rw [hq]; rfl⟩
  rw [if_neg hq]
  by_cases hb : c = '\\'
  · rw [if_pos hb]
    exact .inl ⟨_, _, rfl, fun u => by rw [hb]; rfl⟩
  split_ifs with h1 h2 h3 h4 h5 h6
  · exact .inl ⟨_, _, rfl, fun u => by rw [h1]; rfl⟩
  · exact .inl ⟨_, _, rfl, fun u => by rw [h2]; rfl⟩
  · exact .inl ⟨_, _, rfl, fun u => by rw [h3]; rfl⟩
  · exact .inl ⟨_, _, rfl, fun u => by rw [h4]; rfl⟩
  · exact .inl ⟨_, _, rfl, fun u => by rw [h5]; rfl⟩
  · refine .inl ⟨_, _, rfl, fun u => ?_⟩
    show some (Char.ofNat _, u) = some (c, u)
    rw [hexValue_hexDigit (by omega), hexValue_hexDigit (by omega), Nat.div_add_mod,
      Char.ofNat_toNat]
  · exact .inr ⟨rfl, hb, hq⟩

lemma escapeChar_selfDelimiting : SelfDelimiting escapeChar := by
  apply SelfDelimiting.of_read readChar
  intro c u
  rcases escapeChar_cases c with ⟨x, rest, h, hread⟩ | ⟨h, hb, -⟩
  · rw [h]
    exact hread u
  · rw [h]
    exact if_neg hb

lemma escapeChar_append_ne_quote (c : Char) (u v : List Char) : escapeChar c ++ u ≠ ['"'] ++ v := by
  intro heq
  rcases escapeChar_cases c with ⟨x, rest, h, -⟩ | ⟨h, -, hq⟩
  · rw [h] at heq
    exact absurd (List.cons.inj heq).1 (by decide)
  · rw [h] at heq
    exact hq (List.cons.inj heq).1

lemma jsonString_selfDelimiting : SelfDelimiting jsonString :=
  (escapeChar_selfDelimiting.terminated escapeChar_append_ne_quote).after ['"']

/-- A literal or the word `null`. -/
def jsonOption (o : Option (List Char)) : List Char := o.elim ['n', 'u', 'l', 'l'] jsonString

lemma jsonOption_selfDelimiting : SelfDelimiting jsonOption := by
  apply jsonString_selfDelimiting.option
  intro s u v heq
  exact absurd (List.cons.inj heq).1 (by decide)

example : jsonString ['a', '"', '\n', '\x1f'] =
    ['"', 'a', '\\', '"', '\\', 'n', '\\', 'u', '0', '0', '1', 'f', '"'] := by decide

end Frick.Framework
