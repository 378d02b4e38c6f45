import Mathlib.Data.List.Nodup
import Frick.Framework.Except
import Frick.Protocol.Value

/-!
# The schema AST, its validation and its lookups

`frick-protocol/src/schema.rs`: the definitions a schema declares, the checks
`validate_schema` makes, and the linear lookups by name and by id. Errors carry the exact
text the source formats.

`validate_schema` compares names after `str::to_lowercase`. Unicode case mapping belongs to
the Rust standard library, so it is a parameter here (`toLowercase`); what the codec needs
from a valid schema, that ids and names are pairwise distinct, holds for every choice of it.
-/

namespace Frick.Protocol

open Framework List

/-- `ProtocolError`: its message is the contract. -/
structure ProtocolError where
  message : String
  deriving Repr, DecidableEq

inductive FieldKind where
  | id | ref | string | bool | timestamp | int | bytes | enum | json
  deriving Repr, DecidableEq

def FieldKind.asStr : FieldKind → String
  | .id => "id"
  | .ref => "ref"
  | .string => "string"
  | .bool => "bool"
  | .timestamp => "timestamp"
  | .int => "int"
  | .bytes => "bytes"
  | .enum => "enum"
  | .json => "json"

/-- `FieldDef`. The sensitivity stays a raw string, as in the source, so that an unknown
one reaches validation. -/
structure FieldDef where
  id : Int
  name : String
  kind : FieldKind
  required : Bool := false
  ref : Option String := none
  enumValues : Option (List String) := none
  sensitivity : Option String := none
  deriving Repr, DecidableEq

structure IndexDef where
  id : Int
  name : String
  fields : List String
  deriving Repr, DecidableEq

inductive FrickObjectMergePolicy where
  | lastWriteWins | versionPrecondition
  deriving Repr, DecidableEq

structure ObjectDef where
  id : Int
  name : String
  fields : List FieldDef
  indexes : List IndexDef := []
  mergePolicy : Option FrickObjectMergePolicy := none
  deriving Repr, DecidableEq

structure StreamDef where
  id : Int
  name : String
  keyFields : List FieldDef := []
  events : List String
  deriving Repr, DecidableEq

structure EventDef where
  id : Int
  name : String
  fields : List FieldDef
  deriving Repr, DecidableEq

/-- `PresenceDef` and `SignalDef`, which have the same shape. -/
structure KeyedDef where
  id : Int
  name : String
  keyFields : List FieldDef
  fields : List FieldDef
  ttlMs : Int
  deriving Repr, DecidableEq

/-- `BlobDef` and `JobDef`: an id, a name and one list of fields. -/
structure PlainDef where
  id : Int
  name : String
  fields : List FieldDef
  deriving Repr, DecidableEq

structure ProjectionDef where
  id : Int
  name : String
  source : String
  fields : List FieldDef
  indexes : List IndexDef
  deriving Repr, DecidableEq

structure FrickSchema where
  name : String := ""
  schemaId : String := "schema"
  schemaVersion : String := "1"
  schemaRevision : Int := 1
  minimumClientRevision : Int := 1
  minimumServerRevision : Int := 1
  protocol : String := "frick.realtime"
  protocolVersion : Int := 1
  compatibility : String := "greenfield-cutover"
  hash : String := ""
  objects : List ObjectDef := []
  streams : List StreamDef := []
  events : List EventDef := []
  presences : List KeyedDef := []
  signals : List KeyedDef := []
  blobs : List PlainDef := []
  jobs : List PlainDef := []
  projections : List ProjectionDef := []
  deriving Repr, DecidableEq

/-! ## Lookups -/

def findByName {τ : Type} (types : List τ) (label name : String) (getName : τ → String) :
    Except ProtocolError τ :=
  match types.find? fun candidate => getName candidate == name with
  | some found => .ok found
  | none => .error ⟨s!"Unknown {label}: {name}"⟩

def findById {τ : Type} (types : List τ) (label : String) (id : Int) (getId : τ → Int) :
    Except ProtocolError τ :=
  match types.find? fun candidate => getId candidate == id with
  | some found => .ok found
  | none => .error ⟨s!"Unknown {label} id: {id}"⟩

section

variable (schema : FrickSchema) (id : Int) (name : String)

def objectByName : Except ProtocolError ObjectDef :=
  findByName schema.objects "object" name ObjectDef.name

def objectById : Except ProtocolError ObjectDef :=
  findById schema.objects "object" id ObjectDef.id

def streamByName : Except ProtocolError StreamDef :=
  findByName schema.streams "stream" name StreamDef.name

def streamById : Except ProtocolError StreamDef :=
  findById schema.streams "stream" id StreamDef.id

def eventByName : Except ProtocolError EventDef :=
  findByName schema.events "event" name EventDef.name

def eventById : Except ProtocolError EventDef :=
  findById schema.events "event" id EventDef.id

def presenceByName : Except ProtocolError KeyedDef :=
  findByName schema.presences "presence" name KeyedDef.name

def presenceById : Except ProtocolError KeyedDef :=
  findById schema.presences "presence" id KeyedDef.id

def signalByName : Except ProtocolError KeyedDef :=
  findByName schema.signals "signal" name KeyedDef.name

def signalById : Except ProtocolError KeyedDef :=
  findById schema.signals "signal" id KeyedDef.id

end

def fieldByName (fields : List FieldDef) (name : String) : Except ProtocolError FieldDef :=
  match fields.find? fun candidate => candidate.name == name with
  | some found => .ok found
  | none => .error ⟨s!"Unknown field {name}"⟩

def fieldById (fields : List FieldDef) (id : Int) : Except ProtocolError FieldDef :=
  match fields.find? fun candidate => candidate.id == id with
  | some found => .ok found
  | none => .error ⟨s!"Unknown field id {id}"⟩

section Lookups

variable {τ : Type} {types : List τ} {label : String} {getName : τ → String} {getId : τ → Int}
  {fields : List FieldDef}

lemma findByName_eq_ok {name : String} {found : τ}
    (h : findByName types label name getName = .ok found) :
    found ∈ types ∧ getName found = name := by
  unfold findByName at h
  split at h
  · rename_i hfind
    obtain rfl := Except.ok.inj h
    exact ⟨mem_of_find?_eq_some hfind, by simpa using List.find?_some hfind⟩
  · cases h

lemma findById_eq_ok {id : Int} {found : τ} (h : findById types label id getId = .ok found) :
    found ∈ types ∧ getId found = id := by
  unfold findById at h
  split at h
  · rename_i hfind
    obtain rfl := Except.ok.inj h
    exact ⟨mem_of_find?_eq_some hfind, by simpa using List.find?_some hfind⟩
  · cases h

lemma exists_findById (label : String) (getId : τ → Int) {def₀ : τ} (hmem : def₀ ∈ types) :
    ∃ found, findById types label (getId def₀) getId = .ok found := by
  unfold findById
  split
  · exact ⟨_, rfl⟩
  · rename_i hnone
    have := List.find?_eq_none.mp hnone def₀ hmem
    simp at this

lemma findById_of_mem {def₀ : τ} (hmem : def₀ ∈ types) (hnodup : (types.map getId).Nodup) :
    findById types label (getId def₀) getId = .ok def₀ := by
  obtain ⟨found, hfound⟩ := exists_findById label getId hmem
  obtain ⟨hmem', hid⟩ := findById_eq_ok hfound
  rw [hfound, inj_on_of_nodup_map hnodup hmem' hmem hid]

lemma fieldByName_eq_ok {name : String} {found : FieldDef}
    (h : fieldByName fields name = .ok found) : found ∈ fields ∧ found.name = name := by
  unfold fieldByName at h
  split at h
  · rename_i hfind
    obtain rfl := Except.ok.inj h
    exact ⟨mem_of_find?_eq_some hfind, by simpa using List.find?_some hfind⟩
  · cases h

lemma exists_fieldByName {field : FieldDef} (hmem : field ∈ fields) :
    ∃ found, fieldByName fields field.name = .ok found := by
  unfold fieldByName
  split
  · exact ⟨_, rfl⟩
  · rename_i hnone
    have := List.find?_eq_none.mp hnone field hmem
    simp at this

lemma fieldById_eq_ok_iff {id : Int} {found : FieldDef} :
    fieldById fields id = .ok found ↔ findById fields "field" id FieldDef.id = .ok found := by
  unfold fieldById findById
  cases fields.find? fun candidate => candidate.id == id <;> simp

end Lookups

/-! ## Validation -/

/-- The loop of `validate_type_set`, with the ids and lowercased names met so far. -/
def validateTypeSetLoop (toLowercase : String → String) (label : String) :
    List Int → List String → List (Int × String) → Except ProtocolError Unit
  | _, _, [] => .ok ()
  | ids, names, (id, name) :: rest =>
    if id ∈ ids then .error ⟨s!"Duplicate {label} id {id}"⟩
    else if toLowercase name ∈ names then .error ⟨s!"Duplicate {label} name {name}"⟩
    else validateTypeSetLoop toLowercase label (id :: ids) (toLowercase name :: names) rest

section

variable (toLowercase : String → String) (owner : String) (schema : FrickSchema)

def validateTypeSet (types : List (Int × String)) (label : String) : Except ProtocolError Unit :=
  validateTypeSetLoop toLowercase label [] [] types

def fieldSensitivities : List String := ["public", "private", "pii", "secret", "content"]

/-- The checks `validate_fields` makes on one field after the two uniqueness checks. -/
def validateField (refTargets : List String) (field : FieldDef) : Except ProtocolError Unit := do
  match field.kind, field.ref with
  | .ref, some target =>
    -- An empty `ref` skips the unknown-target check, as TypeScript truthiness did.
    if target ≠ "" ∧ target ∉ refTargets then
      throw ⟨s!"Unknown ref target {target} in {owner}.{field.name}"⟩
  | _, _ => pure ()
  if field.kind = .enum ∧ field.enumValues.getD [] = [] then
    throw ⟨s!"Enum field {owner}.{field.name} must declare enumValues"⟩
  match field.sensitivity with
  | some sensitivity =>
    if sensitivity ∉ fieldSensitivities then
      throw ⟨s!"Unknown sensitivity \"{sensitivity}\" for field {owner}.{field.name}"⟩
  | none => pure ()

def validateFieldsLoop (toLowercase : String → String) (owner : String) (refTargets : List String) :
    List Int → List String → List FieldDef → Except ProtocolError Unit
  | _, _, [] => .ok ()
  | ids, names, field :: rest =>
    if field.id ∈ ids then .error ⟨s!"Duplicate field id {field.id} in {owner}"⟩
    else if toLowercase field.name ∈ names then
      .error ⟨s!"Duplicate field name {owner}.{field.name}"⟩
    else do
      validateField owner refTargets field
      validateFieldsLoop toLowercase owner refTargets (field.id :: ids)
        (toLowercase field.name :: names) rest

def validateFields (fields : List FieldDef)
    (refTargets : List String) : Except ProtocolError Unit :=
  validateFieldsLoop toLowercase owner refTargets [] [] fields

def validateIndexes (fields : List FieldDef)
    (indexes : List IndexDef) : Except ProtocolError Unit := do
  validateTypeSet toLowercase (indexes.map fun index => (index.id, index.name))
    s!"{owner} index"
  indexes.forM fun index => index.fields.forM fun fieldName =>
    if fieldName ∈ fields.map FieldDef.name then pure ()
    else throw ⟨s!"Unknown index field {owner}.{index.name}.{fieldName}"⟩

/-- The characters `str::trim` removes: the Unicode `White_Space` property. -/
def isWhiteSpace (c : Char) : Bool :=
  let n := c.toNat
  (0x9 ≤ n && n ≤ 0xd) || n == 0x20 || n == 0x85 || n == 0xa0 || n == 0x1680 ||
    (0x2000 ≤ n && n ≤ 0x200a) || n == 0x2028 || n == 0x2029 || n == 0x202f || n == 0x205f ||
    n == 0x3000

def isBlank (text : String) : Bool := text.toList.all isWhiteSpace

def validateSchemaIdentity : Except ProtocolError Unit := do
  if isBlank schema.schemaId then throw ⟨"schemaId must be a non-empty string"⟩
  if isBlank schema.schemaVersion then throw ⟨"schemaVersion must be a non-empty string"⟩
  if schema.schemaRevision ≤ 0 then throw ⟨"schemaRevision must be a positive integer"⟩
  if schema.minimumClientRevision ≤ 0 then
    throw ⟨"minimumClientRevision must be a positive integer"⟩
  if schema.minimumServerRevision ≤ 0 then
    throw ⟨"minimumServerRevision must be a positive integer"⟩

/-- The eight `validate_type_set` calls of `validate_schema`, in order. -/
def validateTypeSets : Except ProtocolError Unit := do
  validateTypeSet toLowercase (schema.objects.map fun t => (t.id, t.name)) "object"
  validateTypeSet toLowercase (schema.streams.map fun t => (t.id, t.name)) "stream"
  validateTypeSet toLowercase (schema.events.map fun t => (t.id, t.name)) "event"
  validateTypeSet toLowercase (schema.presences.map fun t => (t.id, t.name)) "presence"
  validateTypeSet toLowercase (schema.signals.map fun t => (t.id, t.name)) "signal"
  validateTypeSet toLowercase (schema.blobs.map fun t => (t.id, t.name)) "blob"
  validateTypeSet toLowercase (schema.jobs.map fun t => (t.id, t.name)) "job"
  validateTypeSet toLowercase (schema.projections.map fun t => (t.id, t.name)) "projection"

/-- The two checks that open `validate_schema`. -/
def validateProtocol : Except ProtocolError Unit := do
  if schema.protocol ≠ "frick.realtime" then
    throw ⟨s!"Unsupported protocol: {schema.protocol}"⟩
  if schema.compatibility ≠ "greenfield-cutover" then
    throw ⟨s!"Unsupported compatibility mode: {schema.compatibility}"⟩

def validateSchema : Except ProtocolError Unit := do
  validateProtocol schema
  validateSchemaIdentity schema
  validateTypeSets toLowercase schema
  let objectNames := schema.objects.map ObjectDef.name
  let streamNames := schema.streams.map StreamDef.name
  let refs := objectNames ++ schema.blobs.map PlainDef.name
  schema.objects.forM fun object => do
    validateFields toLowercase object.name object.fields refs
    validateIndexes toLowercase object.name object.fields object.indexes
  schema.streams.forM fun stream => do
    validateFields toLowercase s!"{stream.name}.key" stream.keyFields refs
    stream.events.forM fun event =>
      if event ∈ schema.events.map EventDef.name then pure ()
      else throw ⟨s!"Unknown stream event {event} in {stream.name}"⟩
  schema.events.forM fun event => validateFields toLowercase event.name event.fields refs
  schema.presences.forM fun presence => do
    validateFields toLowercase s!"{presence.name}.key" presence.keyFields refs
    validateFields toLowercase presence.name presence.fields refs
  schema.signals.forM fun signal => do
    validateFields toLowercase s!"{signal.name}.key" signal.keyFields refs
    validateFields toLowercase signal.name signal.fields refs
  schema.blobs.forM fun blob => validateFields toLowercase blob.name blob.fields refs
  schema.jobs.forM fun job => validateFields toLowercase job.name job.fields refs
  schema.projections.forM fun projection => do
    if projection.source ∉ streamNames ∧ projection.source ∉ objectNames then
      throw ⟨s!"Unknown projection source {projection.source} in {projection.name}"⟩
    validateFields toLowercase projection.name projection.fields refs
    validateIndexes toLowercase projection.name projection.fields projection.indexes

end

section Validated

variable {toLowercase : String → String}

/-- Pairwise distinct ids and pairwise distinct names. -/
structure Distinguished {τ : Type} (getId : τ → Int) (getName : τ → String) (types : List τ) :
    Prop where
  ids : (types.map getId).Nodup
  names : (types.map getName).Nodup

variable {ids : List Int} {label owner : String} {names refTargets : List String}
  {fields : List FieldDef} {τ : Type} {getId : τ → Int} {getName : τ → String} {types : List τ}

/-- The types are met for the first time, one after the other, where these ids and lowercased names
were met before. -/
structure MetAfter (toLowercase : String → String) (seenIds : List Int) (seenNames : List String)
    (getId : τ → Int) (getName : τ → String) (types : List τ) : Prop
    extends Distinguished getId getName types where
  fresh : ∀ t ∈ types, getId t ∉ seenIds ∧ toLowercase (getName t) ∉ seenNames

lemma metAfter_nil : MetAfter toLowercase ids names getId getName [] := by
  refine ⟨⟨?_, ?_⟩, ?_⟩ <;> simp

lemma MetAfter.cons {t : τ} (hid : getId t ∉ ids) (hname : toLowercase (getName t) ∉ names)
    (h : MetAfter toLowercase (getId t :: ids) (toLowercase (getName t) :: names) getId getName
      types) : MetAfter toLowercase ids names getId getName (t :: types) := by
  refine ⟨⟨nodup_cons.mpr ⟨fun hmem => ?_, h.ids⟩, nodup_cons.mpr ⟨fun hmem => ?_, h.names⟩⟩,
    forall_mem_cons.mpr ⟨⟨hid, hname⟩, fun u hu => ?_⟩⟩
  · obtain ⟨u, hu, hsame⟩ := mem_map.mp hmem
    exact (h.fresh u hu).1 (hsame ▸ mem_cons_self)
  · obtain ⟨u, hu, hsame⟩ := mem_map.mp hmem
    exact (h.fresh u hu).2 (hsame ▸ mem_cons_self)
  · exact (h.fresh u hu).imp (mt (mem_cons_of_mem _)) (mt (mem_cons_of_mem _))

lemma metAfter_of_validateTypeSetLoop (h : validateTypeSetLoop toLowercase label ids names
      (types.map fun t => (getId t, getName t)) = .ok ()) :
    MetAfter toLowercase ids names getId getName types := by
  induction types generalizing ids names with
  | nil => exact metAfter_nil
  | cons _ _ ih =>
    rw [map_cons, validateTypeSetLoop] at h
    split_ifs at h with hid hname
    exact (ih h).cons hid hname

lemma metAfter_of_validateFieldsLoop
    (h : validateFieldsLoop toLowercase owner refTargets ids names fields = .ok ()) :
    MetAfter toLowercase ids names FieldDef.id FieldDef.name fields := by
  induction fields generalizing ids names with
  | nil => exact metAfter_nil
  | cons _ _ ih =>
    rw [validateFieldsLoop] at h
    split_ifs at h with hid hname
    obtain ⟨_, _, hrest⟩ := bind_eq_ok.mp h
    exact (ih hrest).cons hid hname

lemma distinguished_of_validateTypeSet
    (h : validateTypeSet toLowercase (types.map fun t => (getId t, getName t)) label = .ok ()) :
    Distinguished getId getName types :=
  (metAfter_of_validateTypeSetLoop h).toDistinguished

lemma distinguished_of_validateFields
    (h : validateFields toLowercase owner fields refTargets = .ok ()) :
    Distinguished FieldDef.id FieldDef.name fields :=
  (metAfter_of_validateFieldsLoop h).toDistinguished

/-- What every lookup relies on in a valid schema: within each kind of definition that records are
packed by, and within each one's fields, ids and names are pairwise distinct. -/
structure FrickSchema.Distinct (schema : FrickSchema) : Prop where
  objects : Distinguished ObjectDef.id ObjectDef.name schema.objects
  streams : Distinguished StreamDef.id StreamDef.name schema.streams
  events : Distinguished EventDef.id EventDef.name schema.events
  presences : Distinguished KeyedDef.id KeyedDef.name schema.presences
  signals : Distinguished KeyedDef.id KeyedDef.name schema.signals
  objectFields : ∀ object ∈ schema.objects, Distinguished FieldDef.id FieldDef.name object.fields
  eventFields : ∀ event ∈ schema.events, Distinguished FieldDef.id FieldDef.name event.fields
  presenceFields : ∀ presence ∈ schema.presences,
    Distinguished FieldDef.id FieldDef.name presence.fields
  signalFields : ∀ signal ∈ schema.signals, Distinguished FieldDef.id FieldDef.name signal.fields

variable {schema : FrickSchema}

theorem validateSchema_distinct (h : validateSchema toLowercase schema = .ok ()) :
    schema.Distinct := by
  obtain ⟨_, _, h⟩ := bind_eq_ok.mp h
  obtain ⟨_, _, h⟩ := bind_eq_ok.mp h
  obtain ⟨_, hsets, h⟩ := bind_eq_ok.mp h
  obtain ⟨_, hobjs, h⟩ := bind_eq_ok.mp h
  obtain ⟨_, _, h⟩ := bind_eq_ok.mp h
  obtain ⟨_, hevs, h⟩ := bind_eq_ok.mp h
  obtain ⟨_, hpres, h⟩ := bind_eq_ok.mp h
  obtain ⟨_, hsigs, _⟩ := bind_eq_ok.mp h
  obtain ⟨_, hobjectSet, hsets⟩ := bind_eq_ok.mp hsets
  obtain ⟨_, hstreamSet, hsets⟩ := bind_eq_ok.mp hsets
  obtain ⟨_, heventSet, hsets⟩ := bind_eq_ok.mp hsets
  obtain ⟨_, hpresenceSet, hsets⟩ := bind_eq_ok.mp hsets
  obtain ⟨_, hsignalSet, _⟩ := bind_eq_ok.mp hsets
  refine ⟨distinguished_of_validateTypeSet hobjectSet, distinguished_of_validateTypeSet hstreamSet,
    distinguished_of_validateTypeSet heventSet, distinguished_of_validateTypeSet hpresenceSet,
    distinguished_of_validateTypeSet hsignalSet, ?_, ?_, ?_, ?_⟩
  · intro object hmem
    obtain ⟨_, hflds, _⟩ := bind_eq_ok.mp (forM_eq_ok_iff.mp hobjs object hmem)
    exact distinguished_of_validateFields hflds
  · intro event hmem
    exact distinguished_of_validateFields (forM_eq_ok_iff.mp hevs event hmem)
  · intro presence hmem
    obtain ⟨_, _, hflds⟩ := bind_eq_ok.mp (forM_eq_ok_iff.mp hpres presence hmem)
    exact distinguished_of_validateFields hflds
  · intro signal hmem
    obtain ⟨_, _, hflds⟩ := bind_eq_ok.mp (forM_eq_ok_iff.mp hsigs signal hmem)
    exact distinguished_of_validateFields hflds

/-- What the packed-record codec relies on in a valid schema: within each of the three kinds
of definition it looks up by id, and within each one's fields, ids are pairwise distinct. -/
structure FrickSchema.DistinctIds (schema : FrickSchema) : Prop where
  objects : (schema.objects.map ObjectDef.id).Nodup
  streams : (schema.streams.map StreamDef.id).Nodup
  events : (schema.events.map EventDef.id).Nodup
  objectFields : ∀ object ∈ schema.objects, (object.fields.map FieldDef.id).Nodup
  eventFields : ∀ event ∈ schema.events, (event.fields.map FieldDef.id).Nodup

lemma FrickSchema.Distinct.distinctIds (h : schema.Distinct) : schema.DistinctIds :=
  ⟨h.objects.ids, h.streams.ids, h.events.ids, fun object hmem => (h.objectFields object hmem).ids,
    fun event hmem => (h.eventFields event hmem).ids⟩

theorem validateSchema_distinctIds (h : validateSchema toLowercase schema = .ok ()) :
    schema.DistinctIds :=
  (validateSchema_distinct h).distinctIds

end Validated

end Frick.Protocol
