import Frick.Framework.Table
import Frick.Protocol.Codec

/-!
# Records come back from the codec

Packing looks names up and unpacking looks ids up. In a valid schema both find the same definition,
so a record with fields of its type comes back as it was; an object gets its `id` in front.
-/

namespace Frick.Properties

open Framework Protocol List

variable {fields : List FieldDef} {entries acc : List (Value × Value)} {packed : List PackedField}

/-- The entries name fields of the type, no field twice. -/
structure NamesFields (fields : List FieldDef) (entries : List (Value × Value)) : Prop where
  keys : ∀ entry ∈ entries, ∃ field ∈ fields, entry.1 = .string field.name
  nodup : (entries.map Prod.fst).Nodup

/-- The key under which an object carries its id. -/
def idKey : Value := .string "id"

/-- The entries behind an `id`, whose value is theirs if they have one. -/
def withId (id : Value) (entries : List (Value × Value)) : List (Value × Value) :=
  (idKey, ((entries.find? (·.1 = idKey)).map Prod.snd).getD id) :: entries.filter (·.1 ≠ idKey)

lemma find?_idKey (h : idKey ∉ entries.map Prod.fst) : entries.find? (·.1 = idKey) = none := by
  rw [find?_eq_none]
  intro entry hmem hkey
  exact h (of_decide_eq_true hkey ▸ mem_map_of_mem hmem)

lemma withId_of_not_mem {id : Value} (h : idKey ∉ entries.map Prod.fst) :
    withId id entries = (idKey, id) :: entries := by
  have hkept : entries.filter (·.1 ≠ idKey) = entries := by
    rw [filter_eq_self]
    intro entry hmem
    exact decide_eq_true fun hkey => h (hkey ▸ mem_map_of_mem hmem)
  rw [withId, find?_idKey h, hkept]
  rfl

lemma withId_middle {id value : Value} (h : idKey ∉ (acc ++ entries).map Prod.fst) :
    withId id (acc ++ (idKey, value) :: entries) = withId value (acc ++ entries) := by
  have hacc : idKey ∉ acc.map Prod.fst := fun hmem => h (by simp [mem_map.mp hmem])
  rw [withId, withId, find?_idKey h, find?_append, find?_idKey hacc, filter_append, filter_append]
  simp

lemma findByName_of_mem {τ : Type} {types : List τ} {label : String} {getName : τ → String} {t : τ}
    (hmem : t ∈ types) (hnodup : (types.map getName).Nodup) :
    findByName types label (getName t) getName = .ok t := by
  have hfind : types.find? (getName · == getName t) = some t := find?_of_nodup hnodup hmem
  rw [findByName, hfind]

lemma NamesFields.packs (h : NamesFields fields entries) :
    ∃ packed, packFields fields (.map entries) = .ok packed ∧
      Forall₂ (fun entry p => packField fields entry = .ok p) entries packed ∧
      ∀ entry ∈ entries, ∃ name, entry.1 = .string name := by
  obtain ⟨packed, hpack⟩ := exists_packFields h.keys
  exact ⟨packed, hpack, mapM_eq_ok_iff.mp hpack, fun entry hentry =>
    (h.keys entry hentry).imp' _ fun _ => And.right⟩

lemma NamesFields.comesBack (h : NamesFields fields entries)
    (hids : (fields.map FieldDef.id).Nodup) : ∃ packed,
      packFields fields (.map entries) = .ok packed ∧
        unpackFields fields packed = .ok (.map entries) := by
  obtain ⟨packed, hpack, hpacked, hkeys⟩ := h.packs
  have hunpack := unpackFieldsInto_packed hids hpacked hkeys [] h.nodup
  exact ⟨packed, hpack, bind_eq_ok.mpr ⟨entries, hunpack, rfl⟩⟩

lemma unpackFieldsInto_id (hids : (fields.map FieldDef.id).Nodup)
    (hpacked : Forall₂ (fun entry p => packField fields entry = .ok p) entries packed)
    (hkeys : ∀ entry ∈ entries, ∃ name, entry.1 = .string name) (id : Value)
    (hnodup : ((acc ++ entries).map Prod.fst).Nodup) (hacc : idKey ∉ acc.map Prod.fst) :
    unpackFieldsInto fields packed ((idKey, id) :: acc) = .ok (withId id (acc ++ entries)) := by
  induction hpacked generalizing acc id with
  | nil => rw [append_nil, withId_of_not_mem hacc, unpackFieldsInto]
  | @cons entry _ entries _ hentry _ ih =>
    obtain ⟨name, hshape, hstep⟩ := unpackFieldsInto_cons hids hentry (hkeys entry (by simp))
    have hothers : ∀ e ∈ entries, ∃ name, e.1 = .string name := fun e he => hkeys e (by simp [he])
    have hmoved := (perm_middle.map Prod.fst).nodup_iff.mp hnodup
    obtain ⟨hfresh, hrest⟩ := nodup_cons.mp hmoved
    rw [hstep, assign]
    split_ifs with hid
    · -- The entry is the `id`, and no other is.
      have hkey : Value.string name = idKey := congrArg Value.string (Option.some.inj hid).symm
      rw [hshape, hkey] at hfresh
      rw [ih hothers entry.2 hrest hacc, hshape, hkey, withId_middle hfresh]
    · have hne : idKey ≠ .string name := fun hkey => hid (by rw [hkey]; rfl)
      have hfront : .string name ∉ acc.map Prod.fst := fun hmem =>
        hfresh (by rw [hshape]; simp [mem_map.mp hmem])
      have hmove : acc ++ [entry] ++ entries = acc ++ entry :: entries := by simp
      have hacc' : idKey ∉ (acc ++ [entry]).map Prod.fst := by
        rw [map_append, mem_append, hshape]
        simp [hne, hacc]
      rw [assign_of_not_mem hfront, ← hshape, ih hothers id (by rw [hmove]; exact hnodup) hacc',
        hmove]

lemma NamesFields.keyed {types : List KeyedDef} {keyed : KeyedDef} {label key : String}
    (h : NamesFields keyed.fields entries) (hmem : keyed ∈ types)
    (htypes : Distinguished KeyedDef.id KeyedDef.name types)
    (hfields : Distinguished FieldDef.id FieldDef.name keyed.fields) :
    (packKeyed (findByName types label keyed.name KeyedDef.name) key (.map entries) >>= fun p =>
      unpackKeyed (findById types label p.typeId KeyedDef.id) p) =
        .ok ⟨keyed.name, key, .map entries⟩ := by
  obtain ⟨packed, hpack, hunp⟩ := h.comesBack hfields.ids
  simp only [packKeyed, findByName_of_mem hmem htypes.names, hpack, ok_bind, pure_bind,
    unpackKeyed, findById_of_mem hmem htypes.ids, hunp]
  rfl

variable {schema : FrickSchema} {toLowercase : String → String}

/-- **Round trip.** Under a valid schema a record of any kind comes back from its packed form. -/
theorem validSchema_roundTrip (hvalid : validateSchema toLowercase schema = .ok ()) :
    (∀ object ∈ schema.objects, ∀ id entries, NamesFields object.fields entries →
      (packObjectRecord schema object.name id (.map entries) >>= unpackObjectRecord schema) =
        .ok ⟨object.name, id, .map (withId (.string id) entries)⟩) ∧
    (∀ stream ∈ schema.streams, ∀ event ∈ schema.events, ∀ streamId seq eventId entries,
      NamesFields event.fields entries →
        (packStreamEvent schema ⟨stream.name, streamId, seq, eventId, event.name, .map entries⟩
          >>= unpackStreamEvent schema) =
            .ok ⟨stream.name, streamId, seq, eventId, event.name, .map entries⟩) ∧
    (∀ presence ∈ schema.presences, ∀ key entries, NamesFields presence.fields entries →
      (packPresenceRecord schema presence.name key (.map entries) >>= unpackPresenceRecord schema) =
        .ok ⟨presence.name, key, .map entries⟩) ∧
    (∀ signal ∈ schema.signals, ∀ key entries, NamesFields signal.fields entries →
      (packSignalEnvelope schema signal.name key (.map entries) >>= unpackSignalEnvelope schema) =
        .ok ⟨signal.name, key, .map entries⟩) := by
  have hdist := validateSchema_distinct hvalid
  refine ⟨?_, ?_, ?_, ?_⟩
  · intro object hmem id entries h
    obtain ⟨packed, hpack, hpacked, hkeys⟩ := h.packs
    have hunp : unpackFieldsInto object.fields packed [(idKey, .string id)] =
        .ok (withId (.string id) entries) :=
      unpackFieldsInto_id (hdist.objectFields object hmem).ids hpacked hkeys _ h.nodup (by simp)
    simp only [packObjectRecord, objectByName, findByName_of_mem hmem hdist.objects.names, hpack,
      ok_bind, pure_bind, unpackObjectRecord, objectById, findById_of_mem hmem hdist.objects.ids]
    exact bind_eq_ok.mpr ⟨_, hunp, rfl⟩
  · intro stream hstream event hevent streamId seq eventId entries h
    obtain ⟨packed, hpack, hunp⟩ := h.comesBack (hdist.eventFields event hevent).ids
    simp only [packStreamEvent, streamByName, findByName_of_mem hstream hdist.streams.names,
      eventByName, findByName_of_mem hevent hdist.events.names, hpack, ok_bind, pure_bind,
      unpackStreamEvent_of_mem hdist.distinctIds hstream hevent, hunp]
    rfl
  · intro presence hmem key entries h
    exact h.keyed hmem hdist.presences (hdist.presenceFields presence hmem)
  · intro signal hmem key entries h
    exact h.keyed hmem hdist.signals (hdist.signalFields signal hmem)

/-- Cards that declare a field `id` of their own. -/
def cardSchema : FrickSchema where
  objects := [{ id := 1, name := "Card", fields := [⟨1, "title", .string, true, none, none, none⟩,
    ⟨2, "id", .string, false, none, none, none⟩] }]

theorem card_roundTrip :
    (packObjectRecord cardSchema "Card" "c1"
        (.map [(.string "title", .string "Ace"), (idKey, .string "own")]) >>=
      unpackObjectRecord cardSchema) =
        .ok ⟨"Card", "c1", .map [(idKey, .string "own"), (.string "title", .string "Ace")]⟩ :=
  (validSchema_roundTrip (by decide : validateSchema id cardSchema = .ok ())).1 _
    (mem_singleton.mpr rfl) "c1" [(.string "title", .string "Ace"), (idKey, .string "own")]
    ⟨by simp [idKey], by decide⟩

end Frick.Properties
