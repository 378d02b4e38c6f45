import Mathlib.Data.List.Perm.Subperm
import Frick.Protocol.Codec
import Frick.Protocol.Compatibility
import Frick.Schema.Lint

/-!
# Reading records across a schema change

Two snapshots of a schema, the previous one `P` and the current one `C`, between which the linter
reports nothing breaking. What that buys the codec is one relation, `RecordsKept`: every
definition of `P` has a successor in `C` with its id, its name and all of its fields. Old data is
read by new code, and new data by old code.
-/

namespace Frick.Properties

open Framework Protocol Schema List

/-! ## Fields that were kept -/

/-- Every field of `prev` is still in `curr`, under its id and its name. -/
structure FieldsKept (prev curr : List FieldDef) : Prop where
  prevDistinct : Distinguished FieldDef.id FieldDef.name prev
  currDistinct : Distinguished FieldDef.id FieldDef.name curr
  kept : ∀ p ∈ prev, ∃ c ∈ curr, c.id = p.id ∧ c.name = p.name

/-- The field names a value packs under. -/
def fieldNames : Value → List String
  | .map entries => entries.filterMap fun entry => (fieldNameOfKey entry.1).toOption
  | _ => []

def KnownIds (fields : List FieldDef) (packed : List PackedField) : Prop :=
  ∀ p ∈ packed, ∃ field ∈ fields, field.id = p.1

variable {entries out : List (Value × Value)} {fields : List FieldDef} {packed : List PackedField}

lemma knownIds_of_unpackFieldsInto (h : unpackFieldsInto fields packed entries = .ok out) :
    KnownIds fields packed := by
  induction packed generalizing entries with
  | nil => simp [KnownIds]
  | cons _ _ ih =>
    obtain ⟨field, hfield, h⟩ := bind_eq_ok.mp h
    have hfirst := findById_eq_ok (fieldById_eq_ok_iff.mp hfield)
    exact forall_mem_cons.mpr ⟨⟨field, hfirst⟩, ih h⟩

namespace FieldsKept

variable {prev curr : List FieldDef}

variable (h : FieldsKept prev curr)
include h

variable {packed : List PackedField}

lemma unpackFieldsInto_eq (hids : KnownIds prev packed) (entries : List (Value × Value)) :
    unpackFieldsInto curr packed entries = unpackFieldsInto prev packed entries := by
  induction packed generalizing entries with
  | nil => rfl
  | cons p _ ih =>
    obtain ⟨field, hfield, hid⟩ := hids p (by simp)
    obtain ⟨successor, hmem, hsame, hname⟩ := h.kept field hfield
    have hold : fieldById prev p.1 = .ok field := by
      rw [← hid]
      exact fieldById_eq_ok_iff.mpr (findById_of_mem hfield h.prevDistinct.ids)
    have hnew : fieldById curr p.1 = .ok successor := by
      rw [← hid, ← hsame]
      exact fieldById_eq_ok_iff.mpr (findById_of_mem hmem h.currDistinct.ids)
    simp only [unpackFieldsInto, hold, hnew, ok_bind, hname]
    exact ih (fun q hq => hids q (by simp [hq])) _

lemma known_iff {c : FieldDef} (hc : c ∈ curr) :
    (∃ field ∈ prev, field.id = c.id) ↔ ∃ field ∈ prev, field.name = c.name := by
  constructor
  · rintro ⟨field, hfield, hid⟩
    obtain ⟨successor, hmem, hsame, hname⟩ := h.kept field hfield
    have hc' : successor = c := inj_on_of_nodup_map h.currDistinct.ids hmem hc (hsame.trans hid)
    exact ⟨field, hfield, by rw [← hname, hc']⟩
  · rintro ⟨field, hfield, hnamed⟩
    obtain ⟨successor, hmem, hsame, hname⟩ := h.kept field hfield
    have hc' : successor = c :=
      inj_on_of_nodup_map h.currDistinct.names hmem hc (hname.trans hnamed)
    exact ⟨field, hfield, by rw [← hsame, hc']⟩

/-- What was packed under `curr` has only ids of `prev` exactly when the value has only names of
`prev`. -/
lemma knownIds_iff {value : Value} (hpack : packFields curr value = .ok packed) :
    KnownIds prev packed ↔ ∀ name ∈ fieldNames value, ∃ field ∈ prev, field.name = name := by
  cases value with
  | map entries =>
    have hforall := mapM_eq_ok_iff.mp hpack
    clear hpack
    induction hforall with
    | nil => simp [KnownIds, fieldNames]
    | @cons entry _ entries _ hentry _ ih =>
      obtain ⟨name, hname, field, hmem, hnamed, rfl⟩ := packField_eq_ok hentry
      have hnames : fieldNames (.map (entry :: entries)) =
          field.name :: fieldNames (.map entries) := by
        simp [fieldNames, hname, hnamed, Except.toOption]
      rw [hnames, forall_mem_cons, KnownIds, forall_mem_cons, h.known_iff hmem]
      exact and_congr_right fun _ => ih
  | boolean | integer | f32 | f64 =>
    obtain rfl := Except.ok.inj hpack
    simp [KnownIds, fieldNames]
  | _ => cases hpack

end FieldsKept

/-! ## Definitions that were kept -/

/-- Every definition of `previous` that records are packed by has a successor in `current`. -/
structure RecordsKept (previous current : FrickSchema) : Prop where
  objects : ∀ p ∈ previous.objects, ∃ c ∈ current.objects, c.id = p.id ∧ c.name = p.name ∧
    FieldsKept p.fields c.fields
  streams : ∀ p ∈ previous.streams, ∃ c ∈ current.streams, c.id = p.id ∧ c.name = p.name
  events : ∀ p ∈ previous.events, ∃ c ∈ current.events, c.id = p.id ∧ c.name = p.name ∧
    FieldsKept p.fields c.fields
  presences : ∀ p ∈ previous.presences, ∃ c ∈ current.presences, c.id = p.id ∧ c.name = p.name ∧
    FieldsKept p.fields c.fields
  signals : ∀ p ∈ previous.signals, ∃ c ∈ current.signals, c.id = p.id ∧ c.name = p.name ∧
    FieldsKept p.fields c.fields

/-- The successor of a definition, from the two passes of the linter over its collection. -/
lemma exists_successor {τ : Type} [TypeCarrier τ] {prev curr : List τ}
    {getFields : τ → List FieldDef} {diff : τ → τ → List FrickLintFinding}
    {collection label : String} (htypes : NonBreaking (diffTypeSet prev curr collection label))
    (hpairs : NonBreaking (diffPairs prev curr diff))
    (hdiff : ∀ p c, NonBreaking (diff p c) →
      ∃ path, NonBreaking (diffFields path (getFields p) (getFields c)))
    (hids : (prev.map TypeCarrier.id).Nodup)
    (hprev : ∀ p ∈ prev, Distinguished FieldDef.id FieldDef.name (getFields p))
    (hcurr : ∀ c ∈ curr, Distinguished FieldDef.id FieldDef.name (getFields c))
    {p : τ} (hp : p ∈ prev) :
    ∃ c ∈ curr, TypeCarrier.id c = TypeCarrier.id p ∧ TypeCarrier.name c = TypeCarrier.name p ∧
      FieldsKept (getFields p) (getFields c) := by
  obtain ⟨c, hc, hid, hname⟩ := exists_of_diffTypeSet htypes hids hp
  obtain ⟨path, hflds⟩ := hdiff p c (nonBreaking_of_diffPairs hpairs hids hp hc hid)
  exact ⟨c, hc, hid, hname, hprev p hp, hcurr c hc,
    fun field hfield => exists_of_diffFields hflds (hprev p hp).ids hfield⟩

/-- **What the linter's silence means.** -/
theorem kept_of_lintSchemaChange {previous current : FrickSchema} (hprevious : previous.Distinct)
    (hcurrent : current.Distinct) (hlint : (lintSchemaChange current previous).breakingCount = 0) :
    RecordsKept previous current := by
  have h := nonBreaking_of_breakingCount hlint
  simp only [nonBreaking_append, and_assoc] at h
  obtain ⟨_, hobjs, hstreams, hevs, hpres, hsigs, _, _, _, hobjectPairs,
    heventPairs, _, hpresencePairs, hsignalPairs, _⟩ := h
  refine ⟨fun p hp => ?_, fun p hp => ?_, fun p hp => ?_, fun p hp => ?_, fun p hp => ?_⟩
  · exact exists_successor hobjs hobjectPairs
      (fun _ _ hpair => ⟨_, (nonBreaking_append.mp hpair).1⟩)
      hprevious.objects.ids hprevious.objectFields hcurrent.objectFields hp
  · exact exists_of_diffTypeSet hstreams hprevious.streams.ids hp
  · exact exists_successor hevs heventPairs (fun _ _ hpair => ⟨_, hpair⟩)
      hprevious.events.ids hprevious.eventFields hcurrent.eventFields hp
  · exact exists_successor hpres hpresencePairs
      (fun _ _ hpair => ⟨_, (nonBreaking_append.mp hpair).2⟩)
      hprevious.presences.ids hprevious.presenceFields hcurrent.presenceFields hp
  · exact exists_successor hsigs hsignalPairs
      (fun _ _ hpair => ⟨_, (nonBreaking_append.mp hpair).2⟩)
      hprevious.signals.ids hprevious.signalFields hcurrent.signalFields hp

/-! ## Old data under the new schema -/

section OldData

variable {previous current : FrickSchema}

lemma unpackObjectRecord_of_mem {schema : FrickSchema} (hdist : schema.Distinct)
    {object : ObjectDef} (hobj : object ∈ schema.objects) (recordId : String)
    (packed : List PackedField) :
    unpackObjectRecord schema ⟨object.id, recordId, packed⟩ =
      (do
        let entries ← unpackFieldsInto object.fields packed [(.string "id", .string recordId)]
        pure ⟨object.name, recordId, .map entries⟩) := by
  have hlook : objectById schema object.id = .ok object :=
    findById_of_mem hobj hdist.objects.ids
  simp [unpackObjectRecord, hlook]

variable {packed : List PackedField} {value : Value} {key : String}

lemma unpackObjectRecord_eq (hprevious : previous.Distinct) (hcurrent : current.Distinct)
    {p c : ObjectDef} (hp : p ∈ previous.objects) (hc : c ∈ current.objects) (hid : c.id = p.id)
    (hname : c.name = p.name) (hflds : FieldsKept p.fields c.fields) {recordId : String}
    (hknown : KnownIds p.fields packed) :
    unpackObjectRecord current ⟨p.id, recordId, packed⟩ =
      unpackObjectRecord previous ⟨p.id, recordId, packed⟩ := by
  rw [unpackObjectRecord_of_mem hprevious hp, ← hid, unpackObjectRecord_of_mem hcurrent hc, hname,
    hflds.unpackFieldsInto_eq hknown]

lemma exists_unpackFields_both {prev curr : List FieldDef} (h : FieldsKept prev curr)
    (hpack : packFields prev value = .ok packed) :
    ∃ out, unpackFields prev packed = .ok out ∧ unpackFields curr packed = .ok out := by
  have hknown : KnownIds prev packed := packFields_ids hpack
  obtain ⟨entries, hents⟩ := exists_unpackFieldsInto hknown []
  refine ⟨.map entries, bind_eq_ok.mpr ⟨entries, hents, rfl⟩, bind_eq_ok.mpr ⟨entries, ?_, rfl⟩⟩
  rw [h.unpackFieldsInto_eq hknown, hents]

section

variable (hprevious : previous.Distinct) (hcurrent : current.Distinct)
  (hkept : RecordsKept previous current)
include hprevious hcurrent hkept

lemma object_readable {objectName objectId : String} {packed : PackedRecord}
    (hpack : packObjectRecord previous objectName objectId value = .ok packed) :
    ∃ out, unpackObjectRecord previous packed = .ok out ∧
      unpackObjectRecord current packed = .ok out := by
  obtain ⟨p, hlook, hpack⟩ := bind_eq_ok.mp hpack
  obtain ⟨flds, hflds, hpack⟩ := bind_eq_ok.mp hpack
  obtain rfl := Except.ok.inj hpack
  have hp : p ∈ previous.objects := (findByName_eq_ok hlook).1
  obtain ⟨c, hc, hid, hname, hkeptF⟩ := hkept.objects p hp
  have hknown : KnownIds p.fields flds := packFields_ids hflds
  obtain ⟨entries, hents⟩ := exists_unpackFieldsInto hknown [(.string "id", .string objectId)]
  have hold : unpackObjectRecord previous ⟨p.id, objectId, flds⟩ =
      .ok ⟨p.name, objectId, .map entries⟩ := by
    rw [unpackObjectRecord_of_mem hprevious hp, hents]
    rfl
  refine ⟨_, hold, ?_⟩
  rw [unpackObjectRecord_eq hprevious hcurrent hp hc hid hname hkeptF hknown, hold]

lemma stream_event_readable {input : StreamEventInput} {packed : PackedStreamEvent}
    (hpack : packStreamEvent previous input = .ok packed) :
    ∃ out, unpackStreamEvent previous packed = .ok out ∧
      unpackStreamEvent current packed = .ok out := by
  obtain ⟨stream, hstream, _, event, hevent, _, flds, hflds, rfl⟩ :=
    packStreamEvent_eq_ok hpack
  obtain ⟨stream', hstream', hsid, hsname⟩ := hkept.streams stream hstream
  obtain ⟨event', hevent', heid, hename, hkeptF⟩ := hkept.events event hevent
  obtain ⟨payload, hold, hnew⟩ := exists_unpackFields_both hkeptF hflds
  refine ⟨⟨stream.name, input.streamId, input.sequence, input.eventId, event.name, payload⟩, ?_, ?_⟩
  · rw [unpackStreamEvent_of_mem hprevious.distinctIds hstream hevent, hold]
    rfl
  · rw [← hsid, ← heid, unpackStreamEvent_of_mem hcurrent.distinctIds hstream' hevent', hnew,
      hsname, hename]
    rfl

end

variable {packed : PackedKeyedRecord}

lemma packKeyed_eq_ok {found : Except ProtocolError KeyedDef}
    (hpack : packKeyed found key value = .ok packed) :
    ∃ keyed, found = .ok keyed ∧ ∃ flds,
      packFields keyed.fields value = .ok flds ∧ packed = ⟨keyed.id, key, flds⟩ := by
  obtain ⟨keyed, hfound, hpack⟩ := bind_eq_ok.mp hpack
  obtain ⟨flds, hflds, hpack⟩ := bind_eq_ok.mp hpack
  exact ⟨keyed, hfound, flds, hflds, (Except.ok.inj hpack).symm⟩

lemma keyed_readable_of_kept {prev curr : List KeyedDef} {label : String}
    (hprev : (prev.map KeyedDef.id).Nodup) (hcurr : (curr.map KeyedDef.id).Nodup)
    (hkept : ∀ p ∈ prev, ∃ c ∈ curr, c.id = p.id ∧ c.name = p.name ∧ FieldsKept p.fields c.fields)
    {name : String}
    (hpack : packKeyed (findByName prev label name KeyedDef.name) key value = .ok packed) :
    ∃ out, unpackKeyed (findById prev label packed.typeId KeyedDef.id) packed = .ok out ∧
      unpackKeyed (findById curr label packed.typeId KeyedDef.id) packed = .ok out := by
  obtain ⟨p, hlook, flds, hflds, rfl⟩ := packKeyed_eq_ok hpack
  have hp : p ∈ prev := (findByName_eq_ok hlook).1
  obtain ⟨c, hc, hid, hname, hkeptF⟩ := hkept p hp
  obtain ⟨out, hold, hnew⟩ := exists_unpackFields_both hkeptF hflds
  have hlookupOld : findById prev label p.id KeyedDef.id = .ok p := findById_of_mem hp hprev
  have hlookupNew : findById curr label p.id KeyedDef.id = .ok c := by
    rw [← hid]
    exact findById_of_mem hc hcurr
  refine ⟨⟨p.name, key, out⟩, ?_, ?_⟩
  · simp only [unpackKeyed, hlookupOld, hold, ok_bind]
    rfl
  · simp only [unpackKeyed, hlookupNew, hnew, hname, ok_bind]
    rfl

end OldData

/-- **Old data stays readable.** For valid schemas between which the linter reports no breaking
finding, every object, stream event, presence and signal that packs under the previous schema
unpacks under the current one, to the same type name, key and fields as under the previous one. -/
theorem nonbreaking_change_keeps_data_readable (toLowercase : String → String)
    (previous current : FrickSchema) (hprevious : validateSchema toLowercase previous = .ok ())
    (hcurrent : validateSchema toLowercase current = .ok ())
    (hlint : (lintSchemaChange current previous).breakingCount = 0) :
    (∀ objectName objectId value packed,
      packObjectRecord previous objectName objectId value = .ok packed →
        ∃ out, unpackObjectRecord previous packed = .ok out ∧
          unpackObjectRecord current packed = .ok out) ∧
    (∀ input packed, packStreamEvent previous input = .ok packed →
      ∃ out, unpackStreamEvent previous packed = .ok out ∧
        unpackStreamEvent current packed = .ok out) ∧
    (∀ presenceName presenceKey value packed,
      packPresenceRecord previous presenceName presenceKey value = .ok packed →
        ∃ out, unpackPresenceRecord previous packed = .ok out ∧
          unpackPresenceRecord current packed = .ok out) ∧
    (∀ signalName signalKey value packed,
      packSignalEnvelope previous signalName signalKey value = .ok packed →
        ∃ out, unpackSignalEnvelope previous packed = .ok out ∧
          unpackSignalEnvelope current packed = .ok out) := by
  have hprev := validateSchema_distinct hprevious
  have hcurr := validateSchema_distinct hcurrent
  have hkept := kept_of_lintSchemaChange hprev hcurr hlint
  refine ⟨?_, ?_, ?_, ?_⟩
  · intro objectName objectId value packed hpack
    exact object_readable hprev hcurr hkept hpack
  · intro input packed hpack
    exact stream_event_readable hprev hcurr hkept hpack
  · intro presenceName presenceKey value packed hpack
    exact keyed_readable_of_kept hprev.presences.ids hcurr.presences.ids hkept.presences hpack
  · intro signalName signalKey value packed hpack
    exact keyed_readable_of_kept hprev.signals.ids hcurr.signals.ids hkept.signals hpack

/-! ### On one added field -/

/-- A schema with one definition of every kind that records are packed by. -/
def notebookSchema : FrickSchema where
  hash := "v1"
  objects := [{ id := 1, name := "Note", fields := [⟨1, "body", .string, true, none, none, none⟩] }]
  streams := [{ id := 1, name := "NoteLog", events := ["NoteSaved"] }]
  events := [⟨1, "NoteSaved", [⟨1, "at", .timestamp, true, none, none, none⟩]⟩]
  presences := [⟨1, "Editing", [], [⟨1, "user", .string, true, none, none, none⟩], 5000⟩]
  signals := [⟨1, "Typing", [], [⟨1, "user", .string, true, none, none, none⟩], 5000⟩]

def notebookSchemaNext : FrickSchema :=
  { notebookSchema with
    hash := "v2"
    objects := [{ id := 1, name := "Note", fields :=
      [⟨1, "body", .string, true, none, none, none⟩,
        ⟨2, "colour", .string, false, none, none, none⟩] }] }

def plainNote : Value := .map [(.string "body", .string "milk")]

def colouredNote : Value :=
  .map [(.string "body", .string "milk"), (.string "colour", .string "red")]

/-- A note, an event, a presence and a signal packed under the first version are read the same
under the next one. -/
theorem notebook_data_stays_readable :
    (∃ out, unpackObjectRecord notebookSchema ⟨1, "n1", [(1, .string "milk")]⟩ = .ok out ∧
      unpackObjectRecord notebookSchemaNext ⟨1, "n1", [(1, .string "milk")]⟩ = .ok out) ∧
    (∃ out, unpackStreamEvent notebookSchema ⟨1, "n1", 1, "e1", 1, [(1, .integer 7)]⟩ = .ok out ∧
      unpackStreamEvent notebookSchemaNext ⟨1, "n1", 1, "e1", 1, [(1, .integer 7)]⟩ = .ok out) ∧
    (∃ out, unpackPresenceRecord notebookSchema ⟨1, "n1", [(1, .string "ada")]⟩ = .ok out ∧
      unpackPresenceRecord notebookSchemaNext ⟨1, "n1", [(1, .string "ada")]⟩ = .ok out) ∧
    (∃ out, unpackSignalEnvelope notebookSchema ⟨1, "n1", [(1, .string "ada")]⟩ = .ok out ∧
      unpackSignalEnvelope notebookSchemaNext ⟨1, "n1", [(1, .string "ada")]⟩ = .ok out) := by
  obtain ⟨hobject, hevent, hpresence, hsignal⟩ := nonbreaking_change_keeps_data_readable
    String.toLower notebookSchema notebookSchemaNext (by decide +kernel) (by decide +kernel)
    (by decide +kernel)
  refine ⟨?_, ?_, ?_, ?_⟩
  · exact hobject "Note" "n1" plainNote _ (by decide +kernel)
  · exact hevent ⟨"NoteLog", "n1", 1, "e1", "NoteSaved", .map [(.string "at", .integer 7)]⟩ _
      (by decide +kernel)
  · exact hpresence "Editing" "n1" (.map [(.string "user", .string "ada")]) _ (by decide +kernel)
  · exact hsignal "Typing" "n1" (.map [(.string "user", .string "ada")]) _ (by decide +kernel)

/-! ## New data under the old schema -/

/-- The restriction of an unpacked record to some fields; the record's id, which unpacking puts
first, stays. -/
def restrictTo (fields : List FieldDef) (record : UnpackedRecord) : UnpackedRecord :=
  match record.value with
  | .map entries =>
    { record with
      value := .map (entries.filter fun entry =>
        entry.1.asStr ∈ some "id" :: fields.map fun field => some field.name) }
  | _ => record

lemma restrictTo_unpacked {recordType recordId : String}
    (h : unpackFieldsInto fields packed [(.string "id", .string recordId)] = .ok out) :
    restrictTo fields ⟨recordType, recordId, .map out⟩ = ⟨recordType, recordId, .map out⟩ := by
  have hkeys : ∀ entry ∈ out,
      entry.1.asStr ∈ some "id" :: fields.map fun field => some field.name := by
    intro entry hentry
    rcases key_of_mem_unpackFieldsInto h hentry with ⟨old, hold, hkey⟩ | ⟨field, hfield, hkey⟩
    · rw [hkey, mem_singleton.mp hold]
      exact mem_cons_self
    · rw [hkey]
      exact mem_cons_of_mem _ (mem_map_of_mem hfield)
  have hall := filter_eq_self.mpr fun entry hentry => decide_eq_true (hkeys entry hentry)
  simp only [restrictTo, hall]

/-- **What a compatible client can read.** For valid schemas between which the linter reports no
breaking finding and which the compatibility check accepts, a record of a type the client knows,
packed by the server, unpacks at the client to its restriction to the client's fields if and only
if it names no field that the client does not have. -/
theorem compatible_client_reads_iff (toLowercase : String → String) (client server : FrickSchema)
    (hclient : validateSchema toLowercase client = .ok ())
    (hserver : validateSchema toLowercase server = .ok ())
    (hlint : (lintSchemaChange server client).breakingCount = 0)
    (_hcompatible : (compareSchemaCompatibility client server).compatible = true)
    (objectName objectId : String) (object : ObjectDef) (value : Value) (packed : PackedRecord)
    (hknown : objectByName client objectName = .ok object)
    (hpack : packObjectRecord server objectName objectId value = .ok packed) :
    (∃ record, unpackObjectRecord server packed = .ok record ∧
        unpackObjectRecord client packed = .ok (restrictTo object.fields record)) ↔
      ∀ name ∈ fieldNames value, ∃ field ∈ object.fields, field.name = name := by
  have hold := validateSchema_distinct hclient
  have hnew := validateSchema_distinct hserver
  have hkept := kept_of_lintSchemaChange hold hnew hlint
  obtain ⟨c, hlookup, hpack⟩ := bind_eq_ok.mp hpack
  obtain ⟨packedFields, hfields, hpack⟩ := bind_eq_ok.mp hpack
  obtain rfl := Except.ok.inj hpack
  obtain ⟨hp, hpname⟩ := findByName_eq_ok hknown
  obtain ⟨hc, hcname⟩ := findByName_eq_ok hlookup
  -- The server packs by the successor of the client's definition.
  obtain ⟨successor, hsuccessor, hid, hname, hkeptFields⟩ := hkept.objects object hp
  obtain rfl : successor = c :=
    inj_on_of_nodup_map hnew.objects.names hsuccessor hc
      (hname.trans (hpname.trans hcname.symm))
  rw [← hkeptFields.knownIds_iff hfields, hid]
  constructor
  · rintro ⟨record, _, hread⟩
    rw [unpackObjectRecord_of_mem hold hp] at hread
    obtain ⟨entries, hentries, _⟩ := bind_eq_ok.mp hread
    exact knownIds_of_unpackFieldsInto hentries
  · intro hids
    obtain ⟨entries, hentries⟩ := exists_unpackFieldsInto hids
      [(.string "id", .string objectId)]
    have hread : unpackObjectRecord client ⟨object.id, objectId, packedFields⟩ =
        .ok ⟨object.name, objectId, .map entries⟩ := by
      rw [unpackObjectRecord_of_mem hold hp, hentries]
      rfl
    refine ⟨⟨object.name, objectId, .map entries⟩, ?_, ?_⟩
    · rw [unpackObjectRecord_eq hold hnew hp hsuccessor hid hname hkeptFields hids, hread]
    · rw [hread, restrictTo_unpacked hentries]

/-- A note without a colour reaches the client of the first version. -/
theorem plain_note_read_by_compatible_client :
    ∃ record, unpackObjectRecord notebookSchemaNext ⟨1, "n1", [(1, .string "milk")]⟩ = .ok record ∧
      unpackObjectRecord notebookSchema ⟨1, "n1", [(1, .string "milk")]⟩ =
        .ok (restrictTo [⟨1, "body", .string, true, none, none, none⟩] record) :=
  (compatible_client_reads_iff String.toLower notebookSchema notebookSchemaNext
    (by decide +kernel) (by decide +kernel) (by decide +kernel) (by decide +kernel)
    "Note" "n1" _ plainNote _ rfl (by decide +kernel)).mpr (by decide +kernel)

/-- A note with a colour does not, although the linter calls the added field compatible and the
two schemas are declared compatible: the client refuses the whole record. -/
theorem added_field_unreadable_for_compatible_client :
    validateSchema String.toLower notebookSchema = .ok () ∧
      validateSchema String.toLower notebookSchemaNext = .ok () ∧
      (lintSchemaChange notebookSchemaNext notebookSchema).findings =
        [⟨.info, "objects[Note].fields[colour]", "optional field colour was added",
          "field.optional.added"⟩] ∧
      (lintSchemaChange notebookSchemaNext notebookSchema).breakingCount = 0 ∧
      (compareSchemaCompatibility notebookSchema notebookSchemaNext).compatible = true ∧
      ∃ packed, packObjectRecord notebookSchemaNext "Note" "n1" colouredNote = .ok packed ∧
        unpackObjectRecord notebookSchema packed = .error ⟨"Unknown field id 2"⟩ := by
  refine ⟨by decide +kernel, by decide +kernel, by decide +kernel, by decide +kernel,
    by decide +kernel, ⟨1, "n1", [(1, .string "milk"), (2, .string "red")]⟩, ?_, ?_⟩
  · decide +kernel
  · decide +kernel

/-! ## Enum values

An ordinal stands for the value at its place. The diff compares the two lists as sets, and looks at
places only for values that are new. -/

section EnumValues

variable {path : String} {prev curr : FieldDef}

def enumNames (f : FieldDef) : List String := f.enumValues.getD []

/-- An enum field without repeated values. -/
structure IsEnum (f : FieldDef) : Prop where
  kind : f.kind = .enum
  nodup : (enumNames f).Nodup

lemma nonBreaking_diffAddedValues (before values : List String) (i prevTail : Nat) :
    NonBreaking (diffAddedValues path before i prevTail values) ↔
      values.take (prevTail - i) ⊆ before := by
  induction values generalizing i prevTail with
  | nil => simp [diffAddedValues, NonBreaking]
  | cons v rest ih =>
    rw [diffAddedValues]
    rcases Nat.lt_or_ge i prevTail with hi | hi
    · have hleft : prevTail - i = prevTail - (i + 1) + 1 := by omega
      rw [hleft, take_succ_cons]
      split
      next hv => simp [ih, hv]
      next hv => simp [NonBreaking, hv, Nat.not_le.mpr hi]
    · -- The cursor is behind, and stays behind.
      have hleft : prevTail - i = 0 := by omega
      have hnext : max prevTail (i + 1) - (i + 1) = 0 := by omega
      have hrest := ih (i + 1) (max prevTail (i + 1))
      rw [hnext] at hrest
      split
      · simp [ih, hleft, Nat.sub_eq_zero_of_le (Nat.le_succ_of_le hi)]
      · simpa [NonBreaking, hleft] using hrest

/-- Nothing breaking is reported exactly if the first values are the previous ones in any order. -/
lemma nonBreaking_diffEnumValues (hprev : IsEnum prev) (hcurr : IsEnum curr) :
    NonBreaking (diffEnumValues path prev curr) ↔
      ((enumNames curr).take (enumNames prev).length).Perm (enumNames prev) := by
  rw [diffEnumValues, if_neg (by simp [hprev.kind, hcurr.kind])]
  change NonBreaking (_ ++ diffAddedValues path (enumNames prev) 0 (enumNames prev).length
    (enumNames curr)) ↔ _
  rw [nonBreaking_append, nonBreaking_diffAddedValues]
  constructor
  · rintro ⟨hrem, hadded⟩
    have hkept : enumNames prev ⊆ enumNames curr := fun v hv => by
      simpa [enumNames] using not_reported hrem (fun _ => rfl) hv
    have hlen := (hprev.nodup.subperm hkept).length_le
    refine ((hcurr.nodup.sublist (take_sublist ..)).subperm hadded).perm_of_length_le ?_
    rw [length_take]
    omega
  · intro hperm
    refine ⟨fun f hf => ?_, hperm.subset⟩
    obtain ⟨v, hv, rfl⟩ := mem_map.mp hf
    obtain ⟨hmem, hgone⟩ := mem_filter.mp hv
    exact absurd (mem_of_mem_take (hperm.symm.subset hmem)) (of_decide_eq_true hgone)

/-- **Exactness.** That nothing breaking is reported exactly if the previous values are a prefix of
the current ones holds if and only if the first current values are not the previous ones in another
order. -/
theorem enum_diff_exact_iff (path : String) (prev curr : FieldDef) (hprev : IsEnum prev)
    (hcurr : IsEnum curr) :
    (NonBreaking (diffEnumValues path prev curr) ↔ enumNames prev <+: enumNames curr) ↔
      ¬(((enumNames curr).take (enumNames prev).length).Perm (enumNames prev) ∧
        (enumNames curr).take (enumNames prev).length ≠ enumNames prev) := by
  rw [nonBreaking_diffEnumValues hprev hcurr, prefix_iff_eq_take]
  constructor
  · rintro h ⟨hperm, hne⟩
    exact hne (h.mp hperm).symm
  · intro h
    refine ⟨fun hperm => ?_, fun heq => Perm.of_eq heq.symm⟩
    by_contra hne
    exact h ⟨hperm, Ne.symm hne⟩

def ticketState (values : List String) : FieldDef where
  id := 1
  name := "state"
  kind := .enum
  enumValues := some values

theorem appended_ticket_state_exact :
    NonBreaking (diffEnumValues "state" (ticketState ["open", "closed"])
        (ticketState ["open", "closed", "archived"])) ↔
      ["open", "closed"] <+: ["open", "closed", "archived"] :=
  (enum_diff_exact_iff "state" (ticketState ["open", "closed"])
    (ticketState ["open", "closed", "archived"]) ⟨rfl, by decide⟩ ⟨rfl, by decide⟩).mpr (by decide)

/-- **Reordered.** The two states change places, and nothing at all is reported. -/
theorem swapped_ticket_states_unreported :
    diffEnumValues "state" (ticketState ["open", "closed"]) (ticketState ["closed", "open"]) = [] ∧
      ¬["open", "closed"] <+: ["closed", "open"] := by
  decide

end EnumValues

end Frick.Properties
