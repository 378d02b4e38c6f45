import Frick.Protocol.Schema

/-!
# The packed-record codec

`frick-protocol/src/codec.rs`. Records are stored and sent as positional tuples with numeric
field ids. Packing follows the value map's insertion order and, like its TypeScript ancestor,
stringifies integer keys and packs a scalar as no fields at all; unpacking assigns by name, so
a repeated field keeps its first position and its last value.
-/

namespace Frick.Protocol

open Framework List

/-- `[fieldId, value]`. -/
abbrev PackedField := Int × Value

/-- `[typeId, recordId, fields]`. -/
structure PackedRecord where
  typeId : Int
  recordId : String
  fields : List PackedField
  deriving DecidableEq

/-- `[streamTypeId, streamKey, sequence, eventId, eventTypeId, fields]`. -/
structure PackedStreamEvent where
  streamTypeId : Int
  streamKey : String
  sequence : Int
  eventId : String
  eventTypeId : Int
  fields : List PackedField
  deriving DecidableEq

/-- `PackedPresenceRecord` and `PackedSignalEnvelope`: `[typeId, key, fields]`. -/
structure PackedKeyedRecord where
  typeId : Int
  key : String
  fields : List PackedField
  deriving DecidableEq

/-- `StreamEventInput`, the unpacked form of a stream event. -/
structure StreamEventInput where
  stream : String
  streamId : String
  sequence : Int
  eventId : String
  event : String
  payload : Value
  deriving DecidableEq

structure UnpackedRecord where
  recordType : String
  id : String
  value : Value
  deriving DecidableEq

structure UnpackedKeyedRecord where
  recordType : String
  key : String
  value : Value

/-! ## Packing and unpacking fields -/

/-- The field name a map key stands for in `pack_fields`. -/
def fieldNameOfKey : Value → Except ProtocolError String
  | .string text => .ok text
  | .integer n => .ok (toString n)
  | _ => .error ⟨"expected string field names"⟩

section

variable (fields : List FieldDef) (schema : FrickSchema)

def packField (entry : Value × Value) : Except ProtocolError PackedField := do
  let name ← fieldNameOfKey entry.1
  let field ← fieldByName fields name
  pure (field.id, entry.2)

def packFields : Value → Except ProtocolError (List PackedField)
  | .map entries => entries.mapM (packField fields)
  | .boolean _ | .integer _ | .f32 _ | .f64 _ => .ok []
  | _ => .error ⟨"expected an object value"⟩

/-- JavaScript property assignment on an insertion-ordered map. -/
def assign (name : String) (value : Value) : List (Value × Value) → List (Value × Value)
  | [] => [(.string name, value)]
  | (key, slot) :: rest =>
    if key.asStr = some name then (key, value) :: rest
    else (key, slot) :: assign name value rest

def unpackFieldsInto (fields : List FieldDef) :
    List PackedField → List (Value × Value) → Except ProtocolError (List (Value × Value))
  | [], entries => .ok entries
  | (fieldId, value) :: rest, entries => do
    let field ← fieldById fields fieldId
    unpackFieldsInto fields rest (assign field.name value entries)

def unpackFields (packed : List PackedField) : Except ProtocolError Value := do
  let entries ← unpackFieldsInto fields packed []
  pure (.map entries)

/-! ## Object records and stream events -/

def packObjectRecord (objectName objectId : String) (value : Value) :
    Except ProtocolError PackedRecord := do
  let object ← objectByName schema objectName
  let fields ← packFields object.fields value
  pure ⟨object.id, objectId, fields⟩

/-- `unpack_object_record`: the value carries `id` first, then the packed fields. -/
def unpackObjectRecord (packed : PackedRecord) : Except ProtocolError UnpackedRecord := do
  let object ← objectById schema packed.typeId
  let entries ← unpackFieldsInto object.fields packed.fields
    [(.string "id", .string packed.recordId)]
  pure ⟨object.name, packed.recordId, .map entries⟩

def packStreamEvent (input : StreamEventInput) : Except ProtocolError PackedStreamEvent := do
  let stream ← streamByName schema input.stream
  let event ← eventByName schema input.event
  let fields ← packFields event.fields input.payload
  pure ⟨stream.id, input.streamId, input.sequence, input.eventId, event.id, fields⟩

def unpackStreamEvent (packed : PackedStreamEvent) : Except ProtocolError StreamEventInput := do
  let stream ← streamById schema packed.streamTypeId
  let event ← eventById schema packed.eventTypeId
  let payload ← unpackFields event.fields packed.fields
  pure ⟨stream.name, packed.streamKey, packed.sequence, packed.eventId, event.name, payload⟩

/-- The common body of `pack_presence_record` and `pack_signal_envelope`. -/
def packKeyed (found : Except ProtocolError KeyedDef) (key : String) (value : Value) :
    Except ProtocolError PackedKeyedRecord := do
  let keyed ← found
  let fields ← packFields keyed.fields value
  pure ⟨keyed.id, key, fields⟩

def packPresenceRecord (presenceName presenceKey : String) (value : Value) :
    Except ProtocolError PackedKeyedRecord :=
  packKeyed (presenceByName schema presenceName) presenceKey value

def packSignalEnvelope (signalName signalKey : String) (value : Value) :
    Except ProtocolError PackedKeyedRecord :=
  packKeyed (signalByName schema signalName) signalKey value

/-- The common body of `unpack_presence_record` and `unpack_signal_envelope`. -/
def unpackKeyed (found : Except ProtocolError KeyedDef) (packed : PackedKeyedRecord) :
    Except ProtocolError UnpackedKeyedRecord := do
  let keyed ← found
  let value ← unpackFields keyed.fields packed.fields
  pure ⟨keyed.name, packed.key, value⟩

def unpackPresenceRecord (packed : PackedKeyedRecord) : Except ProtocolError UnpackedKeyedRecord :=
  unpackKeyed (presenceById schema packed.typeId) packed

def unpackSignalEnvelope (packed : PackedKeyedRecord) : Except ProtocolError UnpackedKeyedRecord :=
  unpackKeyed (signalById schema packed.typeId) packed

end

/-! ## What was packed can be unpacked -/

section RoundTrip

variable {schema : FrickSchema} {fields : List FieldDef}

variable {entry : Value × Value} {packed : List PackedField} {input : StreamEventInput}
  {name : String}

lemma packField_eq_ok {packed : PackedField} (h : packField fields entry = .ok packed) :
    ∃ name, fieldNameOfKey entry.1 = .ok name ∧
      ∃ field ∈ fields, field.name = name ∧ packed = (field.id, entry.2) := by
  obtain ⟨name, hname, h⟩ := bind_eq_ok.mp h
  obtain ⟨field, hfield, h⟩ := bind_eq_ok.mp h
  obtain ⟨hmem, hnamed⟩ := fieldByName_eq_ok hfield
  exact ⟨name, hname, field, hmem, hnamed, (Except.ok.inj h).symm⟩

variable {value : Value}

lemma packFields_ids (h : packFields fields value = .ok packed) :
    ∀ p ∈ packed, ∃ field ∈ fields, field.id = p.1 := by
  intro p hp
  cases value with
  | map =>
    obtain ⟨entry, _, hentry⟩ := exists_of_mem_mapM h hp
    obtain ⟨_, _, field, hmem, _, rfl⟩ := packField_eq_ok hentry
    exact ⟨field, hmem, rfl⟩
  | boolean | integer | f32 | f64 =>
    obtain rfl := Except.ok.inj h
    simp at hp
  | _ => cases h

lemma exists_unpackFieldsInto (h : ∀ p ∈ packed, ∃ field ∈ fields, field.id = p.1)
    (entries : List (Value × Value)) : ∃ out, unpackFieldsInto fields packed entries = .ok out := by
  induction packed generalizing entries with
  | nil => exact ⟨entries, rfl⟩
  | cons p _ ih =>
    obtain ⟨field, hmem, hid⟩ := h p (by simp)
    obtain ⟨found, hfound⟩ := exists_findById "field" FieldDef.id hmem
    rw [hid] at hfound
    obtain ⟨out, hout⟩ := ih (fun q hq => h q (by simp [hq])) (assign found.name p.2 entries)
    refine ⟨out, bind_eq_ok.mpr ⟨found, fieldById_eq_ok_iff.mpr hfound, hout⟩⟩

lemma packStreamEvent_eq_ok {packed : PackedStreamEvent}
    (h : packStreamEvent schema input = .ok packed) :
    ∃ stream ∈ schema.streams, stream.name = input.stream ∧
      ∃ event ∈ schema.events, event.name = input.event ∧
        ∃ flds, packFields event.fields input.payload = .ok flds ∧
          packed = ⟨stream.id, input.streamId, input.sequence, input.eventId, event.id, flds⟩ := by
  obtain ⟨stream, hstream, h⟩ := bind_eq_ok.mp h
  obtain ⟨event, hevent, h⟩ := bind_eq_ok.mp h
  obtain ⟨flds, hflds, h⟩ := bind_eq_ok.mp h
  obtain ⟨hsmem, hsname⟩ := findByName_eq_ok hstream
  obtain ⟨hemem, hename⟩ := findByName_eq_ok hevent
  exact ⟨stream, hsmem, hsname, event, hemem, hename, flds, hflds, (Except.ok.inj h).symm⟩

lemma unpackStreamEvent_address {packed : PackedStreamEvent} {out : StreamEventInput}
    (h : unpackStreamEvent schema packed = .ok out) :
    out.streamId = packed.streamKey ∧ out.sequence = packed.sequence ∧
      out.eventId = packed.eventId := by
  obtain ⟨stream, _, h⟩ := bind_eq_ok.mp h
  obtain ⟨event, _, h⟩ := bind_eq_ok.mp h
  obtain ⟨payload, _, h⟩ := bind_eq_ok.mp h
  obtain rfl := Except.ok.inj h
  exact ⟨rfl, rfl, rfl⟩

variable {entries : List (Value × Value)}

lemma key_of_mem_assign (h : entry ∈ assign name value entries) :
    entry.1 = .string name ∨ ∃ old ∈ entries, entry.1 = old.1 := by
  induction entries with
  | nil =>
    rw [assign, mem_singleton] at h
    exact .inl (by rw [h])
  | cons head _ ih =>
    rw [assign] at h
    split_ifs at h with hhead
    · rcases mem_cons.mp h with rfl | h
      · exact .inr ⟨head, by simp, rfl⟩
      · exact .inr ⟨entry, by simp [h], rfl⟩
    · rcases mem_cons.mp h with rfl | h
      · exact .inr ⟨_, by simp, rfl⟩
      · exact (ih h).imp_right fun ⟨old, hold, hkey⟩ => ⟨old, by simp [hold], hkey⟩

lemma exists_unpackStreamEvent_erased {packed : PackedStreamEvent} {out : StreamEventInput}
    (h : unpackStreamEvent schema packed = .ok out) :
    ∃ erased, unpackStreamEvent schema { packed with fields := [] } = .ok erased := by
  obtain ⟨stream, hstream, h⟩ := bind_eq_ok.mp h
  obtain ⟨event, hevent, _⟩ := bind_eq_ok.mp h
  refine ⟨⟨stream.name, packed.streamKey, packed.sequence, packed.eventId, event.name, .map []⟩, ?_⟩
  simp only [unpackStreamEvent, hstream, hevent]
  rfl

lemma unpackStreamEvent_of_mem (hdist : schema.DistinctIds) {stream : StreamDef}
    {event : EventDef} (hstream : stream ∈ schema.streams) (hevent : event ∈ schema.events)
    (streamKey : String) (seq : Int) (eventId : String) (flds : List PackedField) :
    unpackStreamEvent schema ⟨stream.id, streamKey, seq, eventId, event.id, flds⟩ =
      (do
        let payload ← unpackFields event.fields flds
        pure ⟨stream.name, streamKey, seq, eventId, event.name, payload⟩) := by
  have hs : streamById schema stream.id = .ok stream := findById_of_mem hstream hdist.streams
  have he : eventById schema event.id = .ok event := findById_of_mem hevent hdist.events
  simp only [unpackStreamEvent, hs, he, ok_bind]

variable {out : List (Value × Value)}

lemma key_of_mem_unpackFieldsInto (h : unpackFieldsInto fields packed entries = .ok out)
    (hentry : entry ∈ out) :
    (∃ old ∈ entries, entry.1 = old.1) ∨ ∃ field ∈ fields, entry.1 = .string field.name := by
  induction packed generalizing entries with
  | nil =>
    obtain rfl := Except.ok.inj h
    exact .inl ⟨entry, hentry, rfl⟩
  | cons _ _ ih =>
    obtain ⟨field, hfield, h⟩ := bind_eq_ok.mp h
    rcases ih h with ⟨old, hold, hkey⟩ | hnamed
    · rcases key_of_mem_assign hold with hassigned | ⟨older, holder, hkept⟩
      · right
        exact ⟨field, (findById_eq_ok (fieldById_eq_ok_iff.mp hfield)).1, hkey.trans hassigned⟩
      · exact .inl ⟨older, holder, hkey.trans hkept⟩
    · exact .inr hnamed

lemma unpackFieldsInto_keys (h : unpackFieldsInto fields packed [] = .ok out) :
    ∀ entry ∈ out, ∃ field ∈ fields, entry.1 = .string field.name := by
  intro entry hentry
  rcases key_of_mem_unpackFieldsInto h hentry with ⟨old, hold, _⟩ | hnamed
  · simp at hold
  · exact hnamed

lemma nodup_assign (h : (entries.map Prod.fst).Nodup) :
    ((assign name value entries).map Prod.fst).Nodup := by
  induction entries with
  | nil => simp [assign]
  | cons _ _ ih =>
    obtain ⟨hfirst, hrest⟩ := nodup_cons.mp h
    rw [assign]
    split_ifs with hkey
    · exact h
    refine nodup_cons.mpr ⟨fun hmem => ?_, ih hrest⟩
    obtain ⟨other, hother, heq⟩ := mem_map.mp hmem
    rcases key_of_mem_assign hother with hname | ⟨old, hold, hname⟩
    · rw [← heq, hname] at hkey
      exact hkey rfl
    · exact hfirst (mem_map.mpr ⟨old, hold, hname ▸ heq⟩)

lemma unpackFieldsInto_nodup (hents : (entries.map Prod.fst).Nodup)
    (h : unpackFieldsInto fields packed entries = .ok out) : (out.map Prod.fst).Nodup := by
  induction packed generalizing entries with
  | nil =>
    obtain rfl := Except.ok.inj h
    exact hents
  | cons _ _ ih =>
    obtain ⟨field, _, h⟩ := bind_eq_ok.mp h
    exact ih (nodup_assign hents) h

lemma exists_packFields (h : ∀ entry ∈ entries, ∃ field ∈ fields, entry.1 = .string field.name) :
    ∃ packed, packFields fields (.map entries) = .ok packed := by
  refine exists_mapM_eq_ok fun entry hentry => ?_
  obtain ⟨field, hmem, hkey⟩ := h entry hentry
  obtain ⟨found, hfound⟩ := exists_fieldByName hmem
  refine ⟨(found.id, entry.2), ?_⟩
  rw [packField, hkey, fieldNameOfKey, ok_bind, hfound]
  rfl

/-- **Readable.** What was packed under a schema can be unpacked under it, to an event at the same
address that can be packed again. -/
theorem exists_unpackStreamEvent (hdist : schema.DistinctIds) {packed : PackedStreamEvent}
    (h : packStreamEvent schema input = .ok packed) :
    ∃ out, unpackStreamEvent schema packed = .ok out ∧ out.stream = input.stream ∧
      out.streamId = input.streamId ∧ out.sequence = input.sequence ∧
      out.eventId = input.eventId ∧ ∃ again, packStreamEvent schema out = .ok again := by
  obtain ⟨stream, hs, h⟩ := bind_eq_ok.mp h
  obtain ⟨event, he, h⟩ := bind_eq_ok.mp h
  obtain ⟨flds, hflds, h⟩ := bind_eq_ok.mp h
  obtain rfl := Except.ok.inj h
  obtain ⟨hstream, hsname⟩ := findByName_eq_ok hs
  obtain ⟨hevent, hename⟩ := findByName_eq_ok he
  obtain ⟨entries, hents⟩ := exists_unpackFieldsInto (packFields_ids hflds) []
  have hpay : unpackFields event.fields flds = .ok (.map entries) :=
    bind_eq_ok.mpr ⟨entries, hents, rfl⟩
  refine ⟨⟨stream.name, input.streamId, input.sequence, input.eventId, event.name, .map entries⟩,
    ?_, hsname, rfl, rfl, rfl, ?_⟩
  · rw [unpackStreamEvent_of_mem hdist hstream hevent, hpay]
    rfl
  -- The names it carries are the ones the first packing looked up.
  have hkeys := unpackFieldsInto_keys hents
  obtain ⟨again, hagain⟩ := exists_packFields hkeys
  refine ⟨⟨stream.id, input.streamId, input.sequence, input.eventId, event.id, again⟩, ?_⟩
  rw [packStreamEvent, hsname, hs, ok_bind, hename, he, ok_bind, hagain]
  rfl

/-! ## Records come back unchanged -/

/-- A record: a map whose keys are pairwise distinct strings. -/
def Value.isRecord : Value → Bool
  | .map entries =>
    entries.all (fun entry => entry.1.asStr.isSome) && decide (entries.map Prod.fst).Nodup
  | _ => false

lemma Value.isRecord_iff :
    value.isRecord ↔ ∃ entries, value = .map entries ∧
      (∀ entry ∈ entries, ∃ name, entry.1 = .string name) ∧ (entries.map Prod.fst).Nodup := by
  have hstr : ∀ v : Value, v.asStr.isSome ↔ ∃ name, v = .string name := by
    intro v
    cases v <;> simp [Value.asStr]
  cases value <;> simp [Value.isRecord, hstr]

lemma assign_of_not_mem (h : .string name ∉ entries.map Prod.fst) :
    assign name value entries = entries ++ [(.string name, value)] := by
  induction entries with
  | nil => rfl
  | cons entry _ ih =>
    rw [map_cons, mem_cons, not_or] at h
    have hkey : entry.1.asStr ≠ some name := by
      intro hsome
      apply h.1
      cases hentry : entry.1 <;> simp_all [Value.asStr]
    rw [assign, if_neg hkey, ih h.2, cons_append]

lemma unpackFieldsInto_cons {p : PackedField} (hids : (fields.map FieldDef.id).Nodup)
    (hentry : packField fields entry = .ok p) (hkey : ∃ name, entry.1 = .string name) :
    ∃ name, entry = (.string name, entry.2) ∧ ∀ rest acc,
      unpackFieldsInto fields (p :: rest) acc =
        unpackFieldsInto fields rest (assign name entry.2 acc) := by
  obtain ⟨key, hkey⟩ := hkey
  obtain ⟨name, hname, field, hmem, hfield, rfl⟩ := packField_eq_ok hentry
  rw [hkey, fieldNameOfKey, Except.ok.injEq] at hname
  have hlook : fieldById fields field.id = .ok field :=
    fieldById_eq_ok_iff.mpr (findById_of_mem hmem hids)
  refine ⟨field.name, by rw [hfield, ← hname, ← hkey], fun rest acc => ?_⟩
  rw [unpackFieldsInto, hlook, ok_bind]

/-- Unpacking what `pack_fields` made of string-keyed entries appends those entries, as long
as no name occurs twice. -/
lemma unpackFieldsInto_packed (hids : (fields.map FieldDef.id).Nodup)
    (hpacked : List.Forall₂ (fun entry p => packField fields entry = .ok p) entries packed)
    (hkeys : ∀ entry ∈ entries, ∃ name, entry.1 = .string name) (acc : List (Value × Value))
    (hnodup : ((acc ++ entries).map Prod.fst).Nodup) :
    unpackFieldsInto fields packed acc = .ok (acc ++ entries) := by
  induction hpacked generalizing acc with
  | nil => simp [unpackFieldsInto]
  | @cons entry _ entries _ hentry _ ih =>
    obtain ⟨name, hshape, hstep⟩ := unpackFieldsInto_cons hids hentry (hkeys entry (by simp))
    have hfresh : .string name ∉ acc.map Prod.fst := by
      rw [map_append, nodup_append] at hnodup
      intro hacc
      exact hnodup.2.2 _ hacc _ (by rw [hshape]; simp) rfl
    rw [hstep, assign_of_not_mem hfresh, ← hshape]
    have hmove : acc ++ [entry] ++ entries = acc ++ entry :: entries := by simp
    rw [ih (fun e he => hkeys e (by simp [he])) (acc ++ [entry]) (by rw [hmove]; exact hnodup),
      hmove]

/-- **Round trip.** Under distinct ids, an event whose payload is a record unpacks to itself. -/
theorem unpackStreamEvent_packStreamEvent (hdist : schema.DistinctIds)
    {packed : PackedStreamEvent} (hrecord : input.payload.isRecord)
    (h : packStreamEvent schema input = .ok packed) :
    unpackStreamEvent schema packed = .ok input := by
  obtain ⟨stream, hstream, hsname, event, hevent, hename, flds, hflds, rfl⟩ :=
    packStreamEvent_eq_ok h
  obtain ⟨entries, hpay, hkeys, hnodup⟩ := Value.isRecord_iff.mp hrecord
  rw [hpay] at hflds
  have hents := unpackFieldsInto_packed (hdist.eventFields event hevent) (mapM_eq_ok_iff.mp hflds)
      hkeys [] hnodup
  have hunp : unpackFields event.fields flds = .ok input.payload :=
    bind_eq_ok.mpr ⟨entries, hents, by rw [hpay]; rfl⟩
  rw [unpackStreamEvent_of_mem hdist hstream hevent, hunp, hsname, hename]
  rfl

end RoundTrip

end Frick.Protocol
