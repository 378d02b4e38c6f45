import Frick.Protocol.Codec

/-!
# What every store shares: errors, packed columns and timestamps

`error.rs`, `packed.rs`, the seam of `encryption.rs` and the ISO-8601 helpers of `blob_bytes.rs` and
`stream.rs`.

**Third-party code.** Msgpack (`rmp_serde`) and the at-rest cipher enter as `PackedCodec` and
`AtRestEncryption`: an encoder and a decoder over an arbitrary column type `β`, each carrying the
one law the stores rely on, that decoding undoes a successful encoding.

**Clocks.** Stores never read a clock; `nowMs` arrives as an argument. `created_at` columns hold the
ISO text and SQLite compares them byte by byte, which is `String` order here.
-/

namespace Frick.Store

open Framework Protocol

/-- `StoreError`, with the variants the modelled stores raise. -/
inductive StoreError where
  | driver (message : String)
  | store (message : String)
  | blobStorage (message : String)
  | objectVersionConflict (tenantId objectType objectId : String)
      (expectedVersion : Option Int) (actualVersion : Int)
  | crossAppAccess (requestedAppId ownerAppId tenantId objectType objectId : String)
  deriving Repr, DecidableEq

/-- Byte strings: blob content, salts. -/
abbrev Bytes := List UInt8

def i64Max : Int := 9223372036854775807

/-- `i64` arithmetic: in a release build a result out of range wraps around. -/
def wrapI64 (n : Int) : Int :=
  (n + 9223372036854775808) % 18446744073709551616 - 9223372036854775808

lemma wrapI64_eq {n : Int} (hlo : -9223372036854775808 ≤ n) (hhi : n ≤ i64Max) : wrapI64 n = n := by
  unfold i64Max at hhi
  unfold wrapI64
  omega

/-- One step of SQLite's `SUM` over integers, which fails when a partial sum leaves `i64`. -/
def sumStep (total n : Int) : Except StoreError Int :=
  if -i64Max - 1 ≤ total + n ∧ total + n ≤ i64Max then .ok (total + n)
  else .error (.driver "integer overflow")

/-- `SUM`. -/
def sumI64 (values : List Int) : Except StoreError Int := values.foldlM sumStep 0

/-- The `Display` text of a `StoreError`. -/
def StoreError.message : StoreError → String
  | .driver message => message
  | .store message => message
  | .blobStorage message => message
  | .objectVersionConflict _ objectType objectId expectedVersion actualVersion =>
    let expected := match expectedVersion with
      | none => "create"
      | some version => toString version
    s!"Version conflict on {objectType}/{objectId}: expected {expected}, actual {actualVersion}"
  | .crossAppAccess requestedAppId ownerAppId _ objectType objectId =>
    s!"Cross-app access denied on {objectType}/{objectId}: app '{requestedAppId}' may not " ++
      s!"write a row owned by app '{ownerAppId}'"

/-- `protocol_error`: a codec failure keeps its message. -/
def protocolError (err : ProtocolError) : StoreError := .store err.message

/-- Run a codec function inside a store. -/
def liftProtocol {α : Type} (x : Except ProtocolError α) : Except StoreError α :=
  x.mapError protocolError

lemma liftProtocol_eq_ok {α : Type} {x : Except ProtocolError α} {a : α} :
    liftProtocol x = .ok a ↔ x = .ok a := by
  cases x <;> constructor <;> rintro ⟨⟩ <;> rfl

/-! ## Packed columns -/

/-- `encode_packed` / `decode_packed` for one tuple type `α`, over the column type `β`. -/
structure PackedCodec (α β : Type) where
  encode : α → Except StoreError β
  decode : β → Except StoreError α
  decode_encode : ∀ a b, encode a = .ok b → decode b = .ok a

/-- `AtRestEncryption`: seals a column under a key derived from the tenant. -/
structure AtRestEncryption (β : Type) where
  encrypt : String → β → Except StoreError β
  decrypt : String → β → Except StoreError β
  decrypt_encrypt : ∀ tenantId b sealed, encrypt tenantId b = .ok sealed →
    decrypt tenantId sealed = .ok b

/-- The codec that stores a tuple as it is, for evaluating the model on concrete inputs. -/
def PackedCodec.plain (α : Type) : PackedCodec α α where
  encode := .ok
  decode := .ok
  decode_encode a b h := by rw [Except.ok.inj h]

/-- How a store keeps the tuples of one `packed` column: encoded, and sealed when the store has
an encryption engine. -/
structure PackedColumn (α β : Type) where
  codec : PackedCodec α β
  encryption : Option (AtRestEncryption β)

namespace PackedColumn

variable {α β : Type} (column : PackedColumn α β)

def sealPacked (tenantId : String) (encoded : β) : Except StoreError β :=
  match column.encryption with
  | some encryption => encryption.encrypt tenantId encoded
  | none => .ok encoded

def openPacked (tenantId : String) (stored : β) : Except StoreError β :=
  match column.encryption with
  | some encryption => encryption.decrypt tenantId stored
  | none => .ok stored

/-- The packed tuple of a stored column. -/
def decodeColumn (tenantId : String) (stored : β) : Except StoreError α := do
  let opened ← column.openPacked tenantId stored
  column.codec.decode opened

def encodeColumn (tenantId : String) (packed : α) : Except StoreError β := do
  let encoded ← column.codec.encode packed
  column.sealPacked tenantId encoded

variable {column}

lemma decodeColumn_of_encodeColumn {tenantId : String} {packed : α} {stored : β}
    (h : column.encodeColumn tenantId packed = .ok stored) :
    column.decodeColumn tenantId stored = .ok packed := by
  obtain ⟨encoded, henc, hseal⟩ := bind_eq_ok.mp h
  have hopen : column.openPacked tenantId stored = .ok encoded := by
    unfold sealPacked at hseal
    unfold openPacked
    cases hciph : column.encryption with
    | none =>
      rw [hciph] at hseal
      rw [Except.ok.inj hseal]
    | some encryption =>
      rw [hciph] at hseal
      exact encryption.decrypt_encrypt tenantId encoded stored hseal
  exact bind_eq_ok.mpr ⟨encoded, hopen, column.codec.decode_encode _ _ henc⟩

end PackedColumn

/-! ## Timestamps -/

/-- `{n:0width}`. -/
def zeroPadded (width : Nat) (n : Int) : String :=
  let sign := if n < 0 then "-" else ""
  let digits := toString n.natAbs
  sign ++ String.ofList (List.replicate (width - sign.length - digits.length) '0') ++ digits

def civilFromDays (days : Int) : Int × Int × Int :=
  let z := days + 719468
  let era := z / 146097
  let doe := z % 146097
  let yoe := (doe - doe / 1460 + doe / 36524 - doe / 146096) / 365
  let doy := doe - (365 * yoe + yoe / 4 - yoe / 100)
  let mp := (5 * doy + 2) / 153
  let day := doy - (153 * mp + 2) / 5 + 1
  let month := if mp < 10 then mp + 3 else mp - 9
  let year := yoe + era * 400 + if month ≤ 2 then 1 else 0
  (year, month, day)

/-- `iso_from_epoch_ms`: `YYYY-MM-DDTHH:mm:ss.sssZ`. -/
def isoFromEpochMs (epochMs : Int) : String :=
  let days := epochMs / 86400000
  let msOfDay := epochMs % 86400000
  let (year, month, day) := civilFromDays days
  let hour := msOfDay / 3600000
  let minute := msOfDay % 3600000 / 60000
  let second := msOfDay % 60000 / 1000
  let millis := msOfDay % 1000
  zeroPadded 4 year ++ "-" ++ zeroPadded 2 month ++ "-" ++ zeroPadded 2 day ++ "T" ++
    zeroPadded 2 hour ++ ":" ++ zeroPadded 2 minute ++ ":" ++ zeroPadded 2 second ++ "." ++
    zeroPadded 3 millis ++ "Z"

def parseDigits (digits : List Char) : Option Int :=
  if digits.all Char.isDigit then
    some (digits.foldl (fun value c => value * 10 + (c.toNat - '0'.toNat : Nat)) 0)
  else none

def daysFromCivil (year month day : Int) : Int :=
  let y := if month ≤ 2 then year - 1 else year
  let era := y / 400
  let yoe := y - era * 400
  let doy := (153 * (if month > 2 then month - 3 else month + 9) + 2) / 5 + day - 1
  let doe := yoe * 365 + yoe / 4 - yoe / 100 + doy
  era * 146097 + doe - 719468

/-- `parse_iso_ms`, with `none` for the `NaN` of an unparseable text. The source indexes
bytes; on a text it accepts, all 24 of them are ASCII, so characters serve as well. -/
def parseIsoMs (text : String) : Option Int :=
  let cs := text.toList
  if cs.length ≠ 24 then none
  else if cs[4]? ≠ some '-' ∨ cs[7]? ≠ some '-' ∨ cs[10]? ≠ some 'T' ∨ cs[13]? ≠ some ':' ∨
      cs[16]? ≠ some ':' ∨ cs[19]? ≠ some '.' ∨ cs[23]? ≠ some 'Z' then none
  else do
    let year ← parseDigits (cs.take 4)
    let month ← parseDigits ((cs.drop 5).take 2)
    let day ← parseDigits ((cs.drop 8).take 2)
    let hour ← parseDigits ((cs.drop 11).take 2)
    let minute ← parseDigits ((cs.drop 14).take 2)
    let second ← parseDigits ((cs.drop 17).take 2)
    let millis ← parseDigits ((cs.drop 20).take 3)
    if 1 ≤ month ∧ month ≤ 12 ∧ 1 ≤ day ∧ day ≤ 31 then
      some (daysFromCivil year month day * 86400000 + hour * 3600000 + minute * 60000 +
        second * 1000 + millis)
    else none

example : isoFromEpochMs 1700000000000 = "2023-11-14T22:13:20.000Z" := by decide +kernel

example : parseIsoMs "2023-11-14T22:13:20.000Z" = some 1700000000000 := by decide +kernel

end Frick.Store
