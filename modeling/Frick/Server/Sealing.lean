import Mathlib.Algebra.Order.Ring.Int
import Frick.Framework.Except
import Frick.Framework.SelfDelimiting

/-!
# What is sealed to a recipient

`recipient_aad_bytes` of `calls/e2ee.rs`, the associated data that a wrapped call key is sealed
with, and the certificates of `sealed_sender.rs` that tell a recipient who sent.
-/

namespace Frick.Server

open Framework

def asBytes (text : String) : List UInt8 := text.toByteArray.data.toList

/-- `push_len_prefixed`: a length that does not fit is clamped. -/
def pushLenPrefixed (field : List UInt8) : List UInt8 :=
  beBytes 4 (min field.length (2 ^ 32 - 1)) ++ field

def recipientAadBytes (callId : String) (epochId : UInt64) (senderId recipientId : String) :
    List UInt8 :=
  asBytes "keyEpoch:ecdh:" ++ (pushLenPrefixed (asBytes callId) ++ (beBytes 8 epochId.toNat ++
    (pushLenPrefixed (asBytes senderId) ++ pushLenPrefixed (asBytes recipientId))))

/-- Bytes whose length fits its prefix. -/
abbrev ShortBytes := { field : List UInt8 // field.length < 2 ^ 32 }

/-- Texts whose length in bytes fits its prefix. -/
abbrev ShortText := { text : String // (asBytes text).length < 2 ^ 32 }

lemma pushLenPrefixed_selfDelimiting :
    SelfDelimiting fun field : ShortBytes => pushLenPrefixed field := by
  have heq : (fun field : ShortBytes => pushLenPrefixed field) =
      fun field : ShortBytes => beBytes 4 field.1.length ++ field.1 := by
    funext field
    have hshort := field.2
    rw [pushLenPrefixed, min_eq_left (by omega)]
  rw [heq]
  exact prefixed_selfDelimiting 4

lemma asBytes_injective : Function.Injective asBytes := fun _ _ h =>
  String.toByteArray_inj.mp (ByteArray.ext (Array.toList_inj.mp h))

lemma shortText_selfDelimiting :
    SelfDelimiting fun text : ShortText => pushLenPrefixed (asBytes text) :=
  pushLenPrefixed_selfDelimiting.comp (f := fun text : ShortText => ⟨asBytes text, text.2⟩)
    fun _ _ h => Subtype.ext (asBytes_injective (Subtype.mk.inj h))

lemma uint64_selfDelimiting : SelfDelimiting fun n : UInt64 => beBytes 8 n.toNat :=
  (beBytes_selfDelimiting 8).comp (f := fun n : UInt64 => ⟨n.toNat, n.toNat_lt⟩)
    fun _ _ h => UInt64.toNat_inj.mp (Fin.mk.inj h)

/-- **One text for one recipient.** The associated data names the call, the epoch, the sender and
the recipient. -/
theorem recipientAadBytes_injective :
    Function.Injective fun p : ShortText × UInt64 × ShortText × ShortText =>
      recipientAadBytes p.1 p.2.1 p.2.2.1 p.2.2.2 :=
  ((shortText_selfDelimiting.append (uint64_selfDelimiting.append
    (shortText_selfDelimiting.append shortText_selfDelimiting))).after _).injective

/-! ## Sender certificates -/

def sealedSenderCertVersion : UInt8 := 1

def certificatePayload (version : UInt8) (userId deviceId : String) (identityKey : List UInt8)
    (expiresAtMs : Int64) : List UInt8 :=
  [version] ++ (pushLenPrefixed (asBytes userId) ++ (pushLenPrefixed (asBytes deviceId) ++
    (pushLenPrefixed identityKey ++ beBytes 8 expiresAtMs.toUInt64.toNat)))

structure SenderCertificate where
  version : UInt8
  userId : String
  deviceId : String
  identityKey : String
  expiresAt : Int64
  signature : String

inductive CertificateError where
  | expired
  | version
  | malformed (reason : String)
  | badSignature

/-- Base64 and ECDSA. -/
structure CertificateCrypto where
  encode : List UInt8 → String
  decode : String → Option (List UInt8)
  decode_encode : ∀ bytes, decode (encode bytes) = some bytes
  Signature : Type
  toBytes : Signature → List UInt8
  fromSlice : List UInt8 → Option Signature
  fromSlice_toBytes : ∀ signature, fromSlice (toBytes signature) = some signature
  VerifyingKey : Type
  fromSec1Bytes : List UInt8 → Option VerifyingKey
  verify : VerifyingKey → List UInt8 → Signature → Bool

/-- `SealedSenderState`; the TTL of a configuration is positive. -/
structure SealedSenderState (crypto : CertificateCrypto) where
  sign : List UInt8 → crypto.Signature
  verifyingKey : crypto.VerifyingKey
  publicKeyBytes : List UInt8
  fromSec1_publicKeyBytes : crypto.fromSec1Bytes publicKeyBytes = some verifyingKey
  certTtlMs : Int64
  ttl_nonneg : 0 ≤ certTtlMs.toInt

namespace CertificateCrypto

variable (crypto : CertificateCrypto)

/-- `map_err(|_| Malformed(reason))`. -/
def orMalformed {α : Type} (reason : String) : Option α → Except CertificateError α
  | some value => .ok value
  | none => .error (.malformed reason)

def verifyCertificateWithKey (cert : SenderCertificate) (serverPublicKey : List UInt8)
    (nowMs : Int64) : Except CertificateError Unit :=
  if cert.version ≠ sealedSenderCertVersion then .error .version
  else if cert.expiresAt < nowMs then .error .expired
  else do
    let identityKey ← orMalformed "identityKey is not base64" (crypto.decode cert.identityKey)
    let bytes ← orMalformed "signature is not base64" (crypto.decode cert.signature)
    let signature ← orMalformed "signature is not r||s ECDSA" (crypto.fromSlice bytes)
    let key ← orMalformed "server public key is not a P-256 point"
      (crypto.fromSec1Bytes serverPublicKey)
    let payload := certificatePayload cert.version cert.userId cert.deviceId identityKey
      cert.expiresAt
    if crypto.verify key payload signature then .ok () else .error .badSignature

end CertificateCrypto

def saturatingAdd (a b : Int64) : Int64 :=
  .ofInt (max (-2 ^ 63) (min (2 ^ 63 - 1) (a.toInt + b.toInt)))

/-- What `issue_certificate` is asked for. -/
structure CertificateRequest where
  userId : ShortText
  deviceId : ShortText
  identityKey : ShortBytes
  nowMs : Int64

namespace SealedSenderState

variable {crypto : CertificateCrypto} (state : SealedSenderState crypto)

def issuedPayload (r : CertificateRequest) : List UInt8 :=
  certificatePayload sealedSenderCertVersion r.userId r.deviceId r.identityKey
    (saturatingAdd r.nowMs state.certTtlMs)

def issueCertificate (r : CertificateRequest) : SenderCertificate where
  version := sealedSenderCertVersion
  userId := r.userId
  deviceId := r.deviceId
  identityKey := crypto.encode r.identityKey
  expiresAt := saturatingAdd r.nowMs state.certTtlMs
  signature := crypto.encode (crypto.toBytes (state.sign (state.issuedPayload r)))

def verifyCertificate (cert : SenderCertificate) (nowMs : Int64) : Except CertificateError Unit :=
  crypto.verifyCertificateWithKey cert state.publicKeyBytes nowMs

end SealedSenderState

lemma certificatePayload_injective :
    Function.Injective fun p : UInt8 × ShortText × ShortText × ShortBytes × Int64 =>
      certificatePayload p.1 p.2.1 p.2.2.1 p.2.2.2.1 p.2.2.2.2 := by
  have hbyte : SelfDelimiting fun b : UInt8 => [b] := fun _ _ _ _ => List.cons.inj
  have hint : SelfDelimiting fun n : Int64 => beBytes 8 n.toUInt64.toNat :=
    uint64_selfDelimiting.comp (f := Int64.toUInt64) fun _ _ h => congrArg Int64.ofUInt64 h
  exact (hbyte.append (shortText_selfDelimiting.append (shortText_selfDelimiting.append
    (pushLenPrefixed_selfDelimiting.append hint)))).injective

lemma le_saturatingAdd_iff {a b t : Int64} (hb : 0 ≤ b.toInt) :
    t ≤ saturatingAdd a b ↔ t.toInt ≤ a.toInt + b.toInt := by
  have ha := a.le_toInt
  have ht := t.toInt_lt
  rw [Int64.le_iff_toInt_le, saturatingAdd, Int64.toInt_ofInt_of_le (by omega) (by omega)]
  omega

namespace SealedSenderState

variable {crypto : CertificateCrypto} {state : SealedSenderState crypto}

lemma verifyCertificate_eq_ok_iff {cert : SenderCertificate} {t : Int64} :
    state.verifyCertificate cert t = .ok () ↔
      cert.version = sealedSenderCertVersion ∧ t ≤ cert.expiresAt ∧
      ∃ key, crypto.decode cert.identityKey = some key ∧
      ∃ bytes, crypto.decode cert.signature = some bytes ∧
      ∃ signature, crypto.fromSlice bytes = some signature ∧
        crypto.verify state.verifyingKey (certificatePayload cert.version cert.userId cert.deviceId
          key cert.expiresAt) signature := by
  have hread {α : Type} {reason : String} {value : Option α} {a : α} :
      CertificateCrypto.orMalformed reason value = .ok a ↔ value = some a := by
    cases value <;> simp [CertificateCrypto.orMalformed]
  rw [verifyCertificate, CertificateCrypto.verifyCertificateWithKey, state.fromSec1_publicKeyBytes]
  split_ifs with hversion hexpired
  · simp [hversion]
  · simp [Int64.not_le.mpr hexpired]
  · simp only [bind_eq_ok, hread, not_not.mp hversion, Int64.not_lt.mp hexpired, true_and]
    simp

/-- **A certificate binds what was issued.** If the signatures of issued certificates verify, and
nothing verifies for another payload, then the payload names its fields, an issued certificate
verifies up to its TTL, and whatever verifies agrees with an issued certificate. -/
theorem certificates_bind (issued : List CertificateRequest)
    (hsigned : ∀ r ∈ issued, crypto.verify state.verifyingKey (state.issuedPayload r)
      (state.sign (state.issuedPayload r)))
    (hunforged : ∀ payload signature, crypto.verify state.verifyingKey payload signature →
      ∃ r ∈ issued, payload = state.issuedPayload r) :
    (Function.Injective fun p : UInt8 × ShortText × ShortText × ShortBytes × Int64 =>
      certificatePayload p.1 p.2.1 p.2.2.1 p.2.2.2.1 p.2.2.2.2) ∧
    (∀ r ∈ issued, ∀ t : Int64, state.verifyCertificate (state.issueCertificate r) t = .ok () ↔
      t.toInt ≤ r.nowMs.toInt + state.certTtlMs.toInt) ∧
    ∀ cert t, (asBytes cert.userId).length < 2 ^ 32 → (asBytes cert.deviceId).length < 2 ^ 32 →
      (∀ key ∈ crypto.decode cert.identityKey, key.length < 2 ^ 32) →
      state.verifyCertificate cert t = .ok () →
      ∃ r ∈ issued, cert.userId = r.userId ∧ cert.deviceId = r.deviceId ∧
        crypto.decode cert.identityKey = some r.identityKey.1 ∧
        cert.expiresAt = (state.issueCertificate r).expiresAt := by
  refine ⟨certificatePayload_injective, fun r hr t => ?_, fun cert t huser hdevice hkeys h => ?_⟩
  · rw [← le_saturatingAdd_iff state.ttl_nonneg, verifyCertificate_eq_ok_iff]
    exact ⟨fun h => h.2.1, fun h => ⟨rfl, h, _, crypto.decode_encode _, _, crypto.decode_encode _,
      _, crypto.fromSlice_toBytes _, hsigned r hr⟩⟩
  · obtain ⟨_, _, key, hkey, _, _, _, _, hverify⟩ := verifyCertificate_eq_ok_iff.mp h
    obtain ⟨r, hr, hpayload⟩ := hunforged _ _ hverify
    have hfields := @certificatePayload_injective
      (_, ⟨_, huser⟩, ⟨_, hdevice⟩, ⟨key, hkeys key hkey⟩, _)
      (_, r.userId, r.deviceId, r.identityKey, _) hpayload
    simp only [Prod.mk.injEq] at hfields
    obtain ⟨-, huser, hdevice, hkeyEq, hexpires⟩ := hfields
    exact ⟨r, hr, congrArg Subtype.val huser, congrArg Subtype.val hdevice,
      hkey.trans (congrArg some (congrArg Subtype.val hkeyEq)), hexpires⟩

def adasRequest : CertificateRequest := ⟨⟨"ada", by decide⟩, ⟨"d1", by decide⟩, ⟨[4], by decide⟩, 0⟩

/-- The certificate of `ada` is good for its second. -/
theorem ada_certificate_verifies :
    ∃ (crypto : CertificateCrypto) (state : SealedSenderState crypto),
    ∀ t : Int64, state.verifyCertificate (state.issueCertificate adasRequest) t = .ok () ↔
      t.toInt ≤ 1000 := by
  let encode (bytes : List UInt8) := String.ofList (hexEncode bytes)
  have hinj : Function.Injective encode := fun _ _ h =>
    hexEncode_injective (String.ofList_injective h)
  let crypto : CertificateCrypto := ⟨encode, Function.partialInv encode,
    Function.partialInv_left hinj, List UInt8, id, some, fun _ => rfl, Unit, fun _ => some (),
    fun _ p _ => p = certificatePayload 1 "ada" "d1" [4] (saturatingAdd 0 1000)⟩
  let state : SealedSenderState crypto := ⟨id, (), [], rfl, 1000, by decide⟩
  exact ⟨crypto, state, (state.certificates_bind [adasRequest] (by simp [crypto]; rfl)
    fun _ _ h => ⟨adasRequest, by simp, of_decide_eq_true h⟩).2.1 adasRequest (by simp)⟩

end SealedSenderState

end Frick.Server
