import Frick.Framework.Text
import Frick.Store.Basic

/-!
# Password hashing

`stores/password_hasher.rs`. A stored credential is one self-describing text whose tag, up to the
first `$`, selects the algorithm that verifies it; each of the two hashers verifies every format,
so that old credentials keep working, and says which of them it would rather rewrite.

**Third-party code.** The digests themselves (`argon2`, `scrypt`) are `PasswordPrimitives`. The
salt a hasher draws is an argument of `hash`. `VerifiesExactly` is the one property of the
cryptography that later results assume.
-/

namespace Frick.Store

open Framework List

/-- The digests of the `argon2` and `scrypt` crates. Salts and digests are already in their text
encoding; a parameter or encoding failure is an error text. -/
structure PasswordPrimitives where
  /-- `<salt>$<hash>` of a PHC string, for memory, time and parallelism cost. -/
  argon2 : Nat → Nat → Nat → String → Bytes → Except String String
  /-- Check a password against a PHC string. -/
  verifyArgon2 : String → String → Bool
  /-- `<salt>$<digest>`, for `N`, `r`, `p` and the key length. -/
  scrypt : Nat → Nat → Nat → Nat → String → Bytes → Except String String
  /-- Check a password against `<N>$<r>$<p>$<keylen>$<salt>$<digest>`. -/
  verifyScrypt : String → String → Bool
  /-- Check a password against `<salt>$<digest>` with the salt as text. -/
  verifyLegacyScrypt : String → String → Bool

/-- `Argon2PasswordHasher` and `ScryptPasswordHasher`, with their parameters. -/
inductive PasswordHasher where
  | argon2 (memoryCost timeCost parallelism : Nat)
  | scrypt (n r p keylen : Nat)
  deriving Repr

def defaultPasswordHasher : PasswordHasher := .argon2 19456 2 1

def splitTag (stored : String) : String × String :=
  match splitOnce '$' stored.toList with
  | some (tag, rest) => (String.ofList tag, String.ofList rest)
  | none => (stored, "")

def toStoredHash (passwordHash passwordSalt : String) : String :=
  if passwordHash.toList.contains '$' then passwordHash
  else s!"legacy-scrypt${passwordSalt}${passwordHash}"

/-- `verify_dispatch`. -/
def PasswordPrimitives.verify (crypto : PasswordPrimitives) (password stored : String) : Bool :=
  match splitTag stored with
  | ("legacy-scrypt", rest) => crypto.verifyLegacyScrypt password rest
  | ("scrypt", rest) => crypto.verifyScrypt password rest
  | ("argon2", rest) => crypto.verifyArgon2 password rest
  | _ => false

/-- One cost parameter of `parse_argon2_params`: the last `key=` entry, every entry well formed. -/
def argon2Param (key : List Char) : List (List Char) → Option (Option Nat)
  | [] => some none
  | entry :: entries => do
    let (name, value) ← splitOnce '=' entry
    let parsed ← parseUnsigned 32 value
    let later ← argon2Param key entries
    pure (later.or (if name = key then some parsed else none))

/-- `parse_argon2_params`: variant, memory, time and parallelism cost. -/
def parseArgon2Params (encoded : String) : Option (String × Nat × Nat × Nat) :=
  match splitAll '$' encoded.toList with
  | _ :: variant :: _ :: params :: _ =>
    if "argon2".toList.isPrefixOf variant then do
      let entries := splitAll ',' params
      let memoryCost ← (← argon2Param ['m'] entries)
      let timeCost ← (← argon2Param ['t'] entries)
      let parallelism ← (← argon2Param ['p'] entries)
      pure (String.ofList variant, memoryCost, timeCost, parallelism)
    else none
  | _ => none

/-- The head of a PHC string, up to its salt. -/
def argon2Header (memoryCost timeCost parallelism : Nat) : String :=
  s!"$argon2id$v=19$m={memoryCost},t={timeCost},p={parallelism}$"

namespace PasswordHasher

def hash (crypto : PasswordPrimitives) (hasher : PasswordHasher) (password : String)
    (salt : Bytes) : Except String String :=
  match hasher with
  | .argon2 memoryCost timeCost parallelism => do
    let tail ← crypto.argon2 memoryCost timeCost parallelism password salt
    pure ("argon2$" ++ (argon2Header memoryCost timeCost parallelism ++ tail))
  | .scrypt n r p keylen => do
    let tail ← crypto.scrypt n r p keylen password salt
    pure s!"scrypt${n}${r}${p}${keylen}${tail}"

def needsRehash (hasher : PasswordHasher) (stored : String) : Bool :=
  let (tag, rest) := splitTag stored
  match hasher with
  | .argon2 memoryCost timeCost parallelism =>
    if tag ≠ "argon2" then true
    else parseArgon2Params rest ≠ some ("argon2id", memoryCost, timeCost, parallelism)
  | .scrypt n r p keylen =>
    if tag = "legacy-scrypt" then true
    -- A stronger hash is not downgraded.
    else if tag = "argon2" then false
    else if tag ≠ "scrypt" then true
    else match splitAll '$' rest.toList with
      | [n', r', p', keylen', _, _] =>
        parseUnsigned 32 n' ≠ some n ∨ parseUnsigned 32 r' ≠ some r ∨
          parseUnsigned 32 p' ≠ some p ∨ parseUnsigned 64 keylen' ≠ some keylen
      | _ => true

/-- A hash verifies exactly the password it was made from. -/
def VerifiesExactly (crypto : PasswordPrimitives) (hasher : PasswordHasher) : Prop :=
  ∀ password salt stored, hasher.hash crypto password salt = .ok stored →
    ∀ candidate, crypto.verify candidate stored = true ↔ candidate = password

lemma toStoredHash_of_hash {crypto : PasswordPrimitives} {hasher : PasswordHasher}
    {pw stored : String} {salt : Bytes} (h : hasher.hash crypto pw salt = .ok stored)
    (passwordSalt : String) : toStoredHash stored passwordSalt = stored := by
  have htagged : stored.toList.contains '$' := by
    cases hasher with
    | argon2 =>
      obtain ⟨tail, _, htail⟩ := bind_eq_ok.mp h
      obtain rfl := Except.ok.inj htail
      simp only [contains_iff_mem, String.toList_append, mem_append]
      exact .inl (by decide)
    | scrypt =>
      obtain ⟨tail, _, htail⟩ := bind_eq_ok.mp h
      obtain rfl := Except.ok.inj htail
      simp only [contains_iff_mem, String.toList_append, mem_append, or_assoc]
      exact .inl (by decide)
  simp only [toStoredHash, htagged, if_true]

end PasswordHasher

/-! ## Evaluating the model -/

/-- Digests that show the password, for evaluating the model. -/
def PasswordPrimitives.plain : PasswordPrimitives where
  argon2 := fun _ _ _ password _ => .ok ("salt$" ++ password)
  verifyArgon2 := fun password encoded => encoded = argon2Header 19456 2 1 ++ ("salt$" ++ password)
  scrypt := fun _ _ _ _ password _ => .ok ("salt$" ++ password)
  verifyScrypt := fun password encoded => encoded = "16384$8$1$32$salt$" ++ password
  verifyLegacyScrypt := fun password encoded => encoded = "salt$" ++ password

lemma plain_verifiesExactly : defaultPasswordHasher.VerifiesExactly .plain := by
  intro pw salt stored hhash candidate
  obtain ⟨tail, htail, hstored⟩ := bind_eq_ok.mp hhash
  obtain rfl := Except.ok.inj htail
  obtain rfl := Except.ok.inj hstored
  have hsplit : ∀ rest : String, splitTag ("argon2$" ++ rest) = ("argon2", rest) := by
    intro rest
    simp [splitTag, splitOnce]
  have hver : PasswordPrimitives.plain.verify candidate
      ("argon2$" ++ (argon2Header 19456 2 1 ++ ("salt$" ++ pw))) =
        decide (argon2Header 19456 2 1 ++ ("salt$" ++ pw) =
          argon2Header 19456 2 1 ++ ("salt$" ++ candidate)) := by
    rw [PasswordPrimitives.verify, hsplit]
    rfl
  rw [hver, decide_eq_true_iff]
  constructor
  · intro heq
    have hlist := congrArg String.toList heq
    simp only [String.toList_append] at hlist
    exact (String.toList_inj.mp (append_cancel_left (append_cancel_left hlist))).symm
  · rintro rfl
    rfl

example : defaultPasswordHasher.needsRehash (toStoredHash "digest" "salt") = true := by
  decide +kernel

example : defaultPasswordHasher.needsRehash
    "argon2$$argon2id$v=19$m=19456,t=2,p=1$salt$digest" = false := by decide +kernel

end Frick.Store
