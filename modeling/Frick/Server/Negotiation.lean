import Frick.Protocol.Compatibility
import Frick.Server.Gateway

/-!
# What a Hello is negotiated to

Steps 2 to 4 of `handle_hello`. The schema id that a client advertises selects the app whose schema
it is held against; a client without capabilities is held against the store schema and has to have
its hash.
-/

namespace Frick.Server

open Framework Protocol

/-- `AppEntry`, with what a `Hello` looks at. -/
structure AppEntry where
  id : String
  schema : FrickSchema

structure FrickAppRegistry where
  apps : List AppEntry

namespace FrickAppRegistry

variable (registry : FrickAppRegistry)

def isMultiApp : Bool := 1 < registry.apps.length

def findBySchemaId (schemaId : String) : Option AppEntry :=
  registry.apps.find? fun app => app.schema.schemaId = schemaId

def storageAppId (resolved : String) : String :=
  if registry.isMultiApp then resolved else defaultAppId

end FrickAppRegistry

def schemaFromClientCaps (caps : FrickClientCapabilities) (target : FrickSchema) : FrickSchema :=
  { target with
    schemaId := caps.schema.schemaId
    schemaRevision := caps.schema.schemaRevision
    hash := caps.schema.schemaHash }

/-- The envelope of a `Nack` to a `Hello`, which names the schema it was held against. -/
def helloRefusal (code : FrickErrorCode) (message : String) (details : Option Value)
    (target : FrickSchema) : FrickErrorEnvelope :=
  ⟨code, message, "hello", false, details, some target.hash, some target.schemaRevision⟩

/-- The client against the schema it is held against. -/
def checkHello (payload : HelloPayload) (caps : Option FrickClientCapabilities)
    (target : FrickSchema) : Except FrickErrorEnvelope Unit :=
  match caps with
  | none =>
    if payload.schemaHash ≠ target.hash then
      .error (helloRefusal .schemaIncompatible
        s!"Schema mismatch: client={payload.schemaHash} server={target.hash}" none target)
    else .ok ()
  | some caps =>
    let compatibility := compareSchemaCompatibility (schemaFromClientCaps caps target) target
    let unsupported := unsupportedRequiredCapabilities caps (defaultServerCapabilities target)
    if !compatibility.compatible then
      .error (helloRefusal .schemaIncompatible
        (compatibility.message.getD "Schema incompatible") none target)
    else if unsupported ≠ [] then
      .error (helloRefusal .syncProtocolError "Client requires unsupported capabilities"
        (some (.map [(.string "unsupportedCapabilities", .array (unsupported.map .string))]))
        target)
    else .ok ()

/-- The hash of the schema, or a compatible revision of it with no demand the server does not
meet. -/
def Acceptable (payload : HelloPayload) (caps : Option FrickClientCapabilities)
    (target : FrickSchema) : Prop :=
  match caps with
  | none => payload.schemaHash = target.hash
  | some caps =>
    (compareSchemaCompatibility (schemaFromClientCaps caps target) target).compatible = true ∧
      caps.required ⊆ serverCapabilityNames (defaultServerCapabilities target)

lemma checkHello_eq_ok_iff {payload : HelloPayload} {caps : Option FrickClientCapabilities}
    {target : FrickSchema} :
    checkHello payload caps target = .ok () ↔ Acceptable payload caps target := by
  cases caps with
  | none =>
    simp only [checkHello]
    split_ifs with hhash
    · exact iff_of_false nofun hhash
    · exact iff_of_true rfl (not_not.mp hhash)
  | some =>
    simp only [checkHello, Acceptable, ← unsupportedRequiredCapabilities_eq_nil_iff]
    split_ifs with hcomp hsupported
    · refine iff_of_false nofun fun h => ?_
      rw [h.1] at hcomp
      exact absurd hcomp (by decide)
    · exact iff_of_false nofun fun h => hsupported h.2
    · refine iff_of_true rfl ⟨?_, not_not.mp hsupported⟩
      rwa [Bool.not_eq_true', Bool.not_eq_false] at hcomp

section Negotiation

variable (registry : FrickAppRegistry) (schema : FrickSchema)

/-- The app that the advertised schema id belongs to. -/
def matchedApp (caps : Option FrickClientCapabilities) : Option AppEntry :=
  caps.bind fun caps => registry.findBySchemaId caps.schema.schemaId

/-- A multi-app server does not know the advertised schema. -/
def appNotAuthorized (caps : Option FrickClientCapabilities) : Bool :=
  registry.isMultiApp && (matchedApp registry caps).isNone &&
    caps.any fun caps => caps.schema.schemaId ≠ schema.schemaId

def helloTarget (caps : Option FrickClientCapabilities) : HelloTarget :=
  let app := matchedApp registry caps
  ⟨registry.storageAppId (app.elim defaultAppId AppEntry.id), app.elim schema AppEntry.schema⟩

/-- `handle_hello` between its authentication and its effects. -/
def negotiateHello (read : Value → Option FrickClientCapabilities) (payload : HelloPayload) :
    Except FrickErrorEnvelope HelloTarget :=
  let caps := payload.clientCapabilities.bind read
  if appNotAuthorized registry schema caps then
    .error (helloRefusal .authForbidden "Application not authorized for this connection"
      (some (.map [(.string "reason", .string "appNotAuthorized"),
        (.string "knownAppIds", .array (registry.apps.map fun app => .string app.id))])) schema)
  else do
    let target := helloTarget registry schema caps
    checkHello payload caps target.schema
    return target

/-- The client is one of a known app and fits its schema. -/
def Negotiable (read : Value → Option FrickClientCapabilities) (payload : HelloPayload) : Prop :=
  let caps := payload.clientCapabilities.bind read
  appNotAuthorized registry schema caps = false ∧
    Acceptable payload caps (helloTarget registry schema caps).schema

theorem negotiateHello_eq_ok_iff {read : Value → Option FrickClientCapabilities}
    {payload : HelloPayload} :
    (∃ target, negotiateHello registry schema read payload = .ok target) ↔
      Negotiable registry schema read payload := by
  unfold negotiateHello Negotiable
  generalize payload.clientCapabilities.bind read = caps
  dsimp only
  by_cases hroute : appNotAuthorized registry schema caps
  · rw [if_pos hroute]
    refine iff_of_false nofun fun h => ?_
    rw [h.1] at hroute
    cases hroute
  · rw [if_neg hroute, ← checkHello_eq_ok_iff]
    constructor
    · rintro ⟨target, h⟩
      obtain ⟨⟨⟩, hcheck, -⟩ := bind_eq_ok.mp h
      exact ⟨Bool.eq_false_of_not_eq_true hroute, hcheck⟩
    · rintro ⟨-, hcheck⟩
      exact ⟨_, bind_eq_ok.mpr ⟨(), hcheck, rfl⟩⟩

def GatewayConfig.serving (config : GatewayConfig) (registry : FrickAppRegistry)
    (read : Value → Option FrickClientCapabilities) : GatewayConfig :=
  { config with negotiate := negotiateHello registry config.schema read }

end Negotiation

end Frick.Server
