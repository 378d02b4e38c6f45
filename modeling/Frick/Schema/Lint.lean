import Frick.Protocol.Schema

/-!
# The breaking-change linter

`frick-schema/src/lint.rs`: `lint_schema_change` compares two snapshots of a schema and reports
what changed, each finding with a severity, a path, a message and a rule id. Definitions and
fields are matched by their numeric ids.

A pushing function of the source is the list it pushes here, so a diff is the concatenation of its
parts, in the source's order.
-/

namespace Frick.Schema

open Protocol List Option

inductive FrickLintSeverity where
  | info
  | warn
  | breaking
  deriving Repr, DecidableEq

structure FrickLintFinding where
  severity : FrickLintSeverity
  path : String
  message : String
  ruleId : String
  deriving Repr, DecidableEq

structure FrickLintResult where
  findings : List FrickLintFinding
  breakingCount : Nat
  deriving Repr

def makeResult (findings : List FrickLintFinding) : FrickLintResult :=
  ⟨findings, (findings.filter fun f => f.severity = .breaking).length⟩

/-- `TypeCarrier`: anything with a numeric id and a name. -/
class TypeCarrier (τ : Type) where
  id : τ → Int
  name : τ → String

instance : TypeCarrier ObjectDef := ⟨ObjectDef.id, ObjectDef.name⟩
instance : TypeCarrier StreamDef := ⟨StreamDef.id, StreamDef.name⟩
instance : TypeCarrier EventDef := ⟨EventDef.id, EventDef.name⟩
instance : TypeCarrier KeyedDef := ⟨KeyedDef.id, KeyedDef.name⟩
instance : TypeCarrier PlainDef := ⟨PlainDef.id, PlainDef.name⟩
instance : TypeCarrier ProjectionDef := ⟨ProjectionDef.id, ProjectionDef.name⟩

/-- A map from ids, in which a later entry overwrites an earlier one. -/
def lastById {τ : Type} (getId : τ → Int) (types : List τ) (id : Int) : Option τ :=
  types.reverse.find? fun t => getId t = id

/-! ## Type sets -/

section TypeSet

variable {τ : Type} [TypeCarrier τ]

def diffTypeSet (prev curr : List τ) (collection label : String) : List FrickLintFinding :=
  let path := fun (t : τ) => collection ++ "[" ++ TypeCarrier.name t ++ "]"
  let removed := (prev.filter fun p => (lastById TypeCarrier.id curr (TypeCarrier.id p)).isNone).map
    fun p => ⟨.breaking, path p,
      s!"{label} {TypeCarrier.name p} (id={TypeCarrier.id p}) was removed", s!"{label}.removed"⟩
  let added := (curr.filter fun c => (lastById TypeCarrier.id prev (TypeCarrier.id c)).isNone).map
    fun c => ⟨.info, path c,
      s!"{label} {TypeCarrier.name c} (id={TypeCarrier.id c}) was added", s!"{label}.added"⟩
  let renamed := curr.flatMap fun c =>
    match lastById TypeCarrier.id prev (TypeCarrier.id c) with
    | none => []
    | some p =>
      if TypeCarrier.name p ≠ TypeCarrier.name c then
        [⟨.breaking, path c, s!"{label} id {TypeCarrier.id c} renamed from " ++
          s!"{TypeCarrier.name p} to {TypeCarrier.name c}", s!"{label}.renamed"⟩]
      else []
  removed ++ added ++ renamed

/-- `pair_by_id`: the first previous entry with the same id. -/
def pairById (prev : List τ) (c : τ) : Option τ :=
  prev.find? fun x => TypeCarrier.id x = TypeCarrier.id c

/-- The loop that the `diff_*` functions share: compare every definition that was there before. -/
def diffPairs (prev curr : List τ) (diff : τ → τ → List FrickLintFinding) : List FrickLintFinding :=
  curr.flatMap fun c =>
    match pairById prev c with
    | none => []
    | some p => diff p c

end TypeSet

/-! ## Fields -/

/-- The loop over the current values in `diff_enum_values`, at index `i` and with the cursor
`prevTail` from which on additions are trailing. -/
def diffAddedValues (path : String) (prevValues : List String) :
    Nat → Nat → List String → List FrickLintFinding
  | _, _, [] => []
  | i, prevTail, v :: rest =>
    if v ∈ prevValues then diffAddedValues path prevValues (i + 1) prevTail rest
    else
      let finding : FrickLintFinding :=
        if prevTail ≤ i then
          ⟨.warn, path, s!"enum value {v} added at the end", "enum.value.added.trailing"⟩
        else
          ⟨.breaking, path, s!"enum value {v} inserted before existing values",
            "enum.value.inserted"⟩
      finding :: diffAddedValues path prevValues (i + 1) (max prevTail (i + 1)) rest

def diffEnumValues (path : String) (prev curr : FieldDef) : List FrickLintFinding :=
  if prev.kind ≠ .enum ∨ curr.kind ≠ .enum then []
  else
    let prevValues := prev.enumValues.getD []
    let currValues := curr.enumValues.getD []
    (prevValues.filter fun v => v ∉ currValues).map
        (fun v => ⟨.breaking, path, s!"enum value {v} removed", "enum.value.removed"⟩) ++
      diffAddedValues path prevValues 0 prevValues.length currValues

/-- The changes of one field, in the loop at the end of `diff_fields`. -/
def diffField (path : String) (p c : FieldDef) : List FrickLintFinding :=
  let renamed : List FrickLintFinding :=
    if p.name ≠ c.name then
      [⟨.breaking, path, s!"field id {c.id} renamed from {p.name} to {c.name}", "field.renamed"⟩]
    else []
  let kind : List FrickLintFinding :=
    if p.kind ≠ c.kind then
      [⟨.breaking, path, s!"field {c.name} kind changed from " ++ p.kind.asStr ++ " to " ++
        c.kind.asStr, "field.kind.changed"⟩]
    else []
  let required : List FrickLintFinding :=
    if p.required ≠ c.required then
      [⟨.breaking, path, s!"field {c.name} required flag changed from {p.required} to {c.required}",
        if c.required then "field.required.toggled" else "field.optional.toggled"⟩]
    else []
  let ref : List FrickLintFinding :=
    if p.ref.getD "" ≠ c.ref.getD "" then
      [⟨.breaking, path, s!"field {c.name} ref target changed from " ++ p.ref.getD "<none>" ++
        " to " ++ c.ref.getD "<none>", "field.ref.changed"⟩]
    else []
  renamed ++ kind ++ required ++ ref ++ diffEnumValues path p c

def diffFields (ownerPath : String) (prev curr : List FieldDef) : List FrickLintFinding :=
  let path := fun (f : FieldDef) => ownerPath ++ ".fields[" ++ f.name ++ "]"
  let removed := (prev.filter fun p => (lastById FieldDef.id curr p.id).isNone).map fun p =>
    ⟨.breaking, path p, s!"field {p.name} (id={p.id}) was removed", "field.removed"⟩
  let added := (curr.filter fun c => (lastById FieldDef.id prev c.id).isNone).map fun c =>
    if c.required then
      ⟨.breaking, path c, s!"required field {c.name} was added", "field.required.added"⟩
    else ⟨.info, path c, s!"optional field {c.name} was added", "field.optional.added"⟩
  let changed := curr.flatMap fun c =>
    match lastById FieldDef.id prev c.id with
    | none => []
    | some p => diffField (path c) p c
  removed ++ added ++ changed

def diffIndexes (ownerPath : String) (prev curr : List IndexDef) : List FrickLintFinding :=
  (prev.filter fun p => p.id ∉ curr.map IndexDef.id).map fun p =>
    ⟨.breaking, ownerPath ++ ".indexes[" ++ p.name ++ "]",
      s!"index {p.name} (id={p.id}) was removed", "index.removed"⟩

/-! ## The collections -/

def diffObjects (prev curr : List ObjectDef) : List FrickLintFinding :=
  diffPairs prev curr fun p c =>
    diffFields s!"objects[{c.name}]" p.fields c.fields ++
      diffIndexes s!"objects[{c.name}]" p.indexes c.indexes

def diffEvents (prev curr : List EventDef) : List FrickLintFinding :=
  diffPairs prev curr fun p c => diffFields s!"events[{c.name}]" p.fields c.fields

def diffStreams (prev curr : List StreamDef) : List FrickLintFinding :=
  diffPairs prev curr fun p c =>
    let prevEvents := p.events.eraseDups
    let currEvents := c.events.eraseDups
    diffFields s!"streams[{c.name}].key" p.keyFields c.keyFields ++
      (prevEvents.filter fun e => e ∉ currEvents).map (fun e =>
        ⟨.breaking, s!"streams[{c.name}].events[{e}]",
          s!"stream {c.name} no longer emits event {e}", "stream.event.removed"⟩) ++
      (currEvents.filter fun e => e ∉ prevEvents).map (fun e =>
        ⟨.info, s!"streams[{c.name}].events[{e}]", s!"stream {c.name} added event {e}",
          "stream.event.added"⟩)

/-- The common body of `diff_presences` and `diff_signals`. -/
def diffKeyed (collection : String) (prev curr : List KeyedDef) : List FrickLintFinding :=
  diffPairs prev curr fun p c =>
    diffFields s!"{collection}[{c.name}].key" p.keyFields c.keyFields ++
      diffFields s!"{collection}[{c.name}]" p.fields c.fields

def diffPresences (prev curr : List KeyedDef) : List FrickLintFinding :=
  diffKeyed "presences" prev curr

def diffSignals (prev curr : List KeyedDef) : List FrickLintFinding :=
  diffKeyed "signals" prev curr

def diffBlobs (prev curr : List PlainDef) : List FrickLintFinding :=
  diffPairs prev curr fun p c => diffFields s!"blobs[{c.name}].metadata" p.fields c.fields

def diffJobs (prev curr : List PlainDef) : List FrickLintFinding :=
  diffPairs prev curr fun p c => diffFields s!"jobs[{c.name}]" p.fields c.fields

def diffProjections (prev curr : List ProjectionDef) : List FrickLintFinding :=
  diffPairs prev curr fun p c =>
    (if p.source ≠ c.source then
      [⟨.breaking, s!"projections[{c.name}].source",
        s!"projection source changed from {p.source} to {c.source}",
        "projection.source.changed"⟩]
    else []) ++ diffFields s!"projections[{c.name}]" p.fields c.fields ++
      diffIndexes s!"projections[{c.name}]" p.indexes c.indexes

/-- The schema identity and revision rules that open `lint_schema_change`. -/
def diffIdentity (current previous : FrickSchema) : List FrickLintFinding :=
  (if previous.schemaId ≠ current.schemaId then
    [⟨.breaking, "schemaId",
      s!"schemaId changed from {previous.schemaId} to {current.schemaId}", "schema.id.changed"⟩]
  else []) ++
  (if current.schemaRevision < previous.schemaRevision then
    [⟨.breaking, "schemaRevision",
      s!"schemaRevision decreased from {previous.schemaRevision} to " ++
      s!"{current.schemaRevision}", "schema.revision.decreased"⟩]
  else []) ++
  (if previous.minimumClientRevision < current.minimumClientRevision then
    [⟨.warn, "minimumClientRevision", s!"minimumClientRevision raised from " ++
      s!"{previous.minimumClientRevision} to {current.minimumClientRevision}",
      "schema.minimumClientRevision.raised"⟩]
  else [])

def lintSchemaChange (current previous : FrickSchema) : FrickLintResult :=
  makeResult
    (diffIdentity current previous ++
      diffTypeSet previous.objects current.objects "objects" "object" ++
      diffTypeSet previous.streams current.streams "streams" "stream" ++
      diffTypeSet previous.events current.events "events" "event" ++
      diffTypeSet previous.presences current.presences "presences" "presence" ++
      diffTypeSet previous.signals current.signals "signals" "signal" ++
      diffTypeSet previous.blobs current.blobs "blobs" "blob" ++
      diffTypeSet previous.jobs current.jobs "jobs" "job" ++
      diffTypeSet previous.projections current.projections "projections" "projection" ++
      diffObjects previous.objects current.objects ++
      diffEvents previous.events current.events ++
      diffStreams previous.streams current.streams ++
      diffPresences previous.presences current.presences ++
      diffSignals previous.signals current.signals ++
      diffBlobs previous.blobs current.blobs ++
      diffJobs previous.jobs current.jobs ++
      diffProjections previous.projections current.projections)

/-! ## Changes without breaking findings -/

def NonBreaking (findings : List FrickLintFinding) : Prop :=
  ∀ f ∈ findings, f.severity ≠ .breaking

lemma nonBreaking_of_breakingCount {findings : List FrickLintFinding}
    (h : (makeResult findings).breakingCount = 0) : NonBreaking findings := by
  intro f hf hbreaking
  exact filter_eq_nil_iff.mp (eq_nil_of_length_eq_zero h) f hf (decide_eq_true hbreaking)

lemma nonBreaking_append {a b : List FrickLintFinding} :
    NonBreaking (a ++ b) ↔ NonBreaking a ∧ NonBreaking b := forall_mem_append

lemma nonBreaking_flatMap {τ : Type} {types : List τ} {diff : τ → List FrickLintFinding}
    (h : NonBreaking (types.flatMap diff)) {t : τ} (ht : t ∈ types) : NonBreaking (diff t) :=
  fun f hf => h f (mem_flatMap.mpr ⟨t, ht, hf⟩)

lemma not_reported {τ : Type} {types : List τ} {gone : τ → Bool} {report : τ → FrickLintFinding}
    (h : NonBreaking ((types.filter gone).map report))
    (hreport : ∀ t, (report t).severity = .breaking) {t : τ} (ht : t ∈ types) : gone t = false := by
  by_contra hgone
  have hmem : t ∈ types.filter gone := mem_filter.mpr ⟨ht, by simpa using hgone⟩
  exact h _ (mem_map_of_mem hmem) (hreport t)

section LastById

variable {τ : Type} {getId : τ → Int} {types : List τ}

lemma mem_of_lastById {id : Int} {t : τ} (h : lastById getId types id = some t) :
    t ∈ types ∧ getId t = id :=
  ⟨mem_reverse.mp (mem_of_find?_eq_some h), by simpa using List.find?_some h⟩

lemma exists_lastById {t : τ} (ht : t ∈ types) :
    ∃ found, lastById getId types (getId t) = some found := by
  refine isSome_iff_exists.mp ?_
  rw [lastById, List.find?_isSome]
  exact ⟨t, mem_reverse.mpr ht, by simp⟩

lemma lastById_of_mem (hnodup : (types.map getId).Nodup) {t : τ} (ht : t ∈ types) :
    lastById getId types (getId t) = some t := by
  obtain ⟨found, hfound⟩ := exists_lastById ht
  obtain ⟨hmem, hid⟩ := mem_of_lastById hfound
  rw [hfound, inj_on_of_nodup_map hnodup hmem ht hid]

end LastById

section Types

variable {τ : Type} [TypeCarrier τ] {prev curr : List τ}

lemma exists_of_diffTypeSet {collection label : String}
    (h : NonBreaking (diffTypeSet prev curr collection label))
    (hnodup : (prev.map TypeCarrier.id).Nodup) {p : τ} (hp : p ∈ prev) :
    ∃ c ∈ curr, TypeCarrier.id c = TypeCarrier.id p ∧ TypeCarrier.name c = TypeCarrier.name p := by
  obtain ⟨h, hrenam⟩ := nonBreaking_append.mp h
  obtain ⟨hrem, _⟩ := nonBreaking_append.mp h
  have hstays := not_reported hrem (fun _ => rfl) hp
  obtain ⟨c, hlast⟩ := isSome_iff_exists.mp (isNone_eq_false_iff.mp hstays)
  obtain ⟨hc, hid⟩ := mem_of_lastById hlast
  refine ⟨c, hc, hid, ?_⟩
  have hpair := nonBreaking_flatMap hrenam hc
  rw [hid, lastById_of_mem hnodup hp] at hpair
  by_contra hname
  simp only [if_pos (Ne.symm hname)] at hpair
  exact absurd rfl (hpair _ mem_cons_self)

/-- Every definition that was there has been compared with its successor. -/
lemma nonBreaking_of_diffPairs {diff : τ → τ → List FrickLintFinding}
    (h : NonBreaking (diffPairs prev curr diff)) (hnodup : (prev.map TypeCarrier.id).Nodup)
    {p c : τ} (hp : p ∈ prev) (hc : c ∈ curr) (hid : TypeCarrier.id c = TypeCarrier.id p) :
    NonBreaking (diff p c) := by
  have hpair := nonBreaking_flatMap h hc
  have hfound : pairById prev c = some p := by
    have hexi : (pairById prev c).isSome := by
      rw [pairById, List.find?_isSome]
      exact ⟨p, hp, by simp [hid]⟩
    obtain ⟨found, hfound⟩ := isSome_iff_exists.mp hexi
    have hmem : found ∈ prev := mem_of_find?_eq_some hfound
    have hsame : TypeCarrier.id found = TypeCarrier.id c := by simpa using List.find?_some hfound
    rw [hfound, inj_on_of_nodup_map hnodup hmem hp (hsame.trans hid)]
  rwa [hfound] at hpair

end Types

lemma exists_of_diffFields {ownerPath : String} {prev curr : List FieldDef}
    (h : NonBreaking (diffFields ownerPath prev curr)) (hnodup : (prev.map FieldDef.id).Nodup)
    {p : FieldDef} (hp : p ∈ prev) : ∃ c ∈ curr, c.id = p.id ∧ c.name = p.name := by
  obtain ⟨h, hchg⟩ := nonBreaking_append.mp h
  obtain ⟨hrem, _⟩ := nonBreaking_append.mp h
  have hstays := not_reported hrem (fun _ => rfl) hp
  obtain ⟨c, hlast⟩ := isSome_iff_exists.mp (isNone_eq_false_iff.mp hstays)
  obtain ⟨hc, hid⟩ := mem_of_lastById hlast
  refine ⟨c, hc, hid, ?_⟩
  have hpair := nonBreaking_flatMap hchg hc
  rw [hid, lastById_of_mem hnodup hp] at hpair
  obtain ⟨hrenam, _⟩ := nonBreaking_append.mp hpair
  by_contra hname
  rw [if_pos (Ne.symm hname)] at hrenam
  exact absurd rfl (hrenam _ mem_cons_self)

end Frick.Schema
