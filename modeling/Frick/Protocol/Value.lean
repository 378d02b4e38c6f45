import Mathlib.Data.List.Basic

/-!
# Dynamic msgpack values

`frick-protocol/src/value.rs` re-exports `rmpv::Value`; every payload, object body and frame crosses
the model as a `Value`. Maps are association lists because msgpack maps keep their insertion order
and may repeat a key, and both facts are visible to the packed-record codec. Floats are carried as
their bit patterns: nothing modelled here computes with them.
-/

namespace Frick.Protocol

inductive Value where
  | nil
  | boolean (b : Bool)
  | integer (n : Int)
  | f32 (bits : UInt32)
  | f64 (bits : UInt64)
  | string (s : String)
  | binary (bytes : List UInt8)
  | array (items : List Value)
  | map (entries : List (Value × Value))
  | ext (kind : Int) (bytes : List UInt8)
  deriving Repr, Inhabited

namespace Value

/-! ## Decidable equality -/

mutual

/-- Structural equality of two values. -/
def same : Value → Value → Bool
  | nil, nil => true
  | boolean a, boolean b => a == b
  | integer a, integer b => a == b
  | f32 a, f32 b => a == b
  | f64 a, f64 b => a == b
  | string a, string b => a == b
  | binary a, binary b => a == b
  | array a, array b => sameItems a b
  | map a, map b => sameEntries a b
  | ext j a, ext k b => j == k && a == b
  | _, _ => false

/-- Structural equality of array items. -/
def sameItems : List Value → List Value → Bool
  | [], [] => true
  | a :: as, b :: bs => same a b && sameItems as bs
  | _, _ => false

/-- Structural equality of map entries, in order. -/
def sameEntries : List (Value × Value) → List (Value × Value) → Bool
  | [], [] => true
  | (j, a) :: as, (k, b) :: bs => same j k && same a b && sameEntries as bs
  | _, _ => false

end

mutual

lemma same_iff : ∀ a b : Value, same a b ↔ a = b
  | array xs, b => by cases b <;> simp [same, sameItems_iff xs]
  | map xs, b => by cases b <;> simp [same, sameEntries_iff xs]
  | nil, b | boolean _, b | integer _, b | f32 _, b | f64 _, b | string _, b | binary _, b
  | ext _ _, b => by cases b <;> simp [same]

lemma sameItems_iff : ∀ as bs : List Value, sameItems as bs ↔ as = bs
  | [], bs => by cases bs <;> simp [sameItems]
  | a :: as, bs => by cases bs <;> simp [sameItems, same_iff a, sameItems_iff as]

lemma sameEntries_iff : ∀ as bs : List (Value × Value), sameEntries as bs ↔ as = bs
  | [], bs => by cases bs <;> simp [sameEntries]
  | (j, a) :: as, bs => by
    cases bs <;> simp [sameEntries, same_iff j, same_iff a, sameEntries_iff as, Prod.ext_iff]

end

instance : DecidableEq Value := fun a b => decidable_of_iff _ (same_iff a b)

/-! ## Accessors -/

def asStr : Value → Option String
  | string s => some s
  | _ => none

@[simp] lemma asStr_string (s : String) : asStr (string s) = some s := rfl

def asMap : Value → Option (List (Value × Value))
  | map entries => some entries
  | _ => none

/-- The value of the first entry whose key is the string `name`, as every
`entries.iter().find(|(key, _)| key.as_str() == Some(name))` of the source reads it. -/
def field? (value : Value) (name : String) : Option Value :=
  match value with
  | map entries => (entries.find? fun entry => entry.1.asStr == some name).map Prod.snd
  | _ => none

end Value

end Frick.Protocol
