import Frick.Server.Basic
import Frick.Store.Object
import Frick.Store.Sharing

/-!
# Objects: who may write and who may read

`object_visibility.rs` decides which rows of an object type a reader sees. The ownership
baseline lets a reader see their own rows, rows of types without an owner field and rows without
an owner value; an active sharing grant on the exact record turns a baseline deny into an allow.

`routes/objects.rs` decides writes. No owner is recorded for the baseline to compare with, so
every principal of the tenant may write every object unless an app's policy hook says otherwise.
-/

namespace Frick.Server

open Protocol Store

def conventionalOwnerField : String := "ownerUserId"

inductive ObjectVisibilityMode where
  | ownerScoped
  | tenantWide
  deriving Repr

def ownerFieldForType (schema : FrickSchema) (objectType : String) : Option String :=
  match objectByName schema objectType with
  | .error _ => none
  | .ok object =>
    (object.fields.find? fun field =>
      field.name = conventionalOwnerField ∧ field.kind = .string).map FieldDef.name

def objectFieldStr (object : Value) (field : String) : Option String :=
  (object.field? field).bind Value.asStr

def objectRecordId (object : Value) : Option String := objectFieldStr object "id"

def isObjectVisibleToUser (mode : ObjectVisibilityMode) (ownerField : Option String)
    (object : Value) (userId : String) : Bool :=
  match mode, ownerField with
  | .tenantWide, _ => true
  | .ownerScoped, none => true
  | .ownerScoped, some field =>
    match objectFieldStr object field with
    | some owner => if owner = "" then true else owner = userId
    | none => true

def perRecordReadAuthzActive (db : SharingTables) : Bool := !db.grantsEmpty

def subscriberCanReadObject (db : SharingTables) (mode : ObjectVisibilityMode)
    (ownerField : Option String) (principal : Principal) (objectType : String) (object : Value)
    (perRecordActive : Bool) (writerUserId : Option String) : Bool :=
  let baseline := writerUserId = some principal.userId ||
    isObjectVisibleToUser mode ownerField object principal.userId
  if principal.isAdmin || baseline then true
  else if !perRecordActive then false
  else match objectRecordId object with
    | none => false
    | some id => db.hasActiveGrantFor principal.tenantId principal.userId objectType id "read"

variable {principal : Principal} {objectType : String} {object : Value}

/-- A reader who is neither admin nor the recorded owner, and did not write the row, sees it only
through an active grant on the record. -/
lemma hasActiveGrantFor_of_canRead {db : SharingTables} {field owner id : String}
    {perRecord : Bool} (hscope : principal.scope ≠ .admin)
    (hid : objectRecordId object = some id) (howner : objectFieldStr object field = some owner)
    (hne : owner ≠ "") (hother : owner ≠ principal.userId)
    (h : subscriberCanReadObject db .ownerScoped (some field) principal objectType object
      perRecord none) :
    db.hasActiveGrantFor principal.tenantId principal.userId objectType id "read" := by
  have hbaseline : isObjectVisibleToUser .ownerScoped (some field) object principal.userId =
      false := by
    simp [isObjectVisibleToUser, howner, hne, hother]
  have hadmin : principal.isAdmin = false := by simpa [Principal.isAdmin] using hscope
  unfold subscriberCanReadObject at h
  simp only [hbaseline, hadmin, hid, reduceCtorEq, decide_false, Bool.or_self, if_false] at h
  split_ifs at h
  exact h

/-- The ownership and hook stages of `subscriber_can_read_object_with_hooks`. -/
def objectReadDecision (hooks : List PolicyHook) (mode : ObjectVisibilityMode)
    (ownerField : Option String) (principal : Principal) (objectType : String) (object : Value)
    (writerUserId : Option String) : Decision :=
  let ownerBaseline := writerUserId = some principal.userId ||
    isObjectVisibleToUser mode ownerField object principal.userId
  let baseline : Decision :=
    if principal.isAdmin || ownerBaseline then .allow
    else .deny .ownerMismatch "Not the resource owner"
  applyPolicyHooks baseline
    { principal := principal
      action := .objectRead
      resource := ⟨"object", some objectType, objectRecordId object, none,
        objectFieldStr object (ownerField.getD conventionalOwnerField), principal.tenantId⟩
      context := some object } hooks

/-- `subscriber_can_read_object_with_hooks`: hooks only tighten, and a grant on the record opens it
again after any deny. -/
def subscriberCanReadObjectWithHooks (db : SharingTables) (hooks : List PolicyHook)
    (mode : ObjectVisibilityMode) (ownerField : Option String) (principal : Principal)
    (objectType : String) (object : Value) (perRecordActive : Bool)
    (writerUserId : Option String) : Bool :=
  if objectReadDecision hooks mode ownerField principal objectType object writerUserId = .allow then
    true
  else if !perRecordActive then false
  else match objectRecordId object with
    | none => false
    | some id => db.hasActiveGrantFor principal.tenantId principal.userId objectType id "read"

variable {writerUserId : Option String} {mode : ObjectVisibilityMode} {ownerField : Option String}

lemma subscriberCanReadObjectWithHooks_iff {db : SharingTables} {hooks : List PolicyHook}
    {perRecord : Bool} :
    subscriberCanReadObjectWithHooks db hooks mode ownerField principal objectType object
        perRecord writerUserId ↔
      objectReadDecision hooks mode ownerField principal objectType object writerUserId = .allow ∨
        perRecord ∧ ∃ id ∈ objectRecordId object,
          db.hasActiveGrantFor principal.tenantId principal.userId objectType id "read" := by
  unfold subscriberCanReadObjectWithHooks
  split_ifs with hallow hact
  · simp [hallow]
  · simp_all
  · cases hid : objectRecordId object <;> simp_all

lemma objectReadDecision_nil :
    objectReadDecision [] mode ownerField principal objectType object writerUserId = .allow ↔
      (principal.isAdmin || (writerUserId = some principal.userId ||
        isObjectVisibleToUser mode ownerField object principal.userId)) := by
  unfold objectReadDecision
  dsimp only
  split_ifs with hbaseline
  · exact iff_of_true rfl hbaseline
  · exact iff_of_false Decision.noConfusion hbaseline

section Echo

variable {hooks : List PolicyHook} {mode : ObjectVisibilityMode} {ownerField : Option String}
  {principal : Principal} {objectType : String} {object : Value} {writerUserId : Option String}

lemma objectReadDecision_of_none
    (h : objectReadDecision hooks mode ownerField principal objectType object none = .allow)
    (writerUserId : Option String) :
    objectReadDecision hooks mode ownerField principal objectType object writerUserId = .allow := by
  unfold objectReadDecision at h ⊢
  by_cases hbaseline : (principal.isAdmin ||
      isObjectVisibleToUser mode ownerField object principal.userId)
  · have hboth : ∀ writer : Option String, (principal.isAdmin ||
        (decide (writer = some principal.userId) ||
          isObjectVisibleToUser mode ownerField object principal.userId)) := by
      intro writer
      rcases Bool.or_eq_true _ _ ▸ hbaseline with h | h
      · simp [h]
      · simp [h]
    simpa only [hboth] using h
  · simp only [reduceCtorEq, decide_false, Bool.false_or, hbaseline] at h
    simp [applyPolicyHooks] at h

lemma objectReadDecision_of_ne (h : writerUserId ≠ some principal.userId) :
    objectReadDecision hooks mode ownerField principal objectType object writerUserId =
      objectReadDecision hooks mode ownerField principal objectType object none := by
  simp [objectReadDecision, h]

end Echo

/-! ## Writes -/

def relaxObjectWriteWithGrants (db : SharingTables) (principal : Principal)
    (objectType objectId : String) (decision : Decision) : Decision :=
  match decision with
  | .deny .notAuthorizedForResource _ | .deny .ownerMismatch _ =>
    if db.hasActiveGrantFor principal.tenantId principal.userId objectType objectId "write" then
      .allow
    else decision
  | decision => decision

def writeDecision (hooks : List PolicyHook) (db : SharingTables) (principal : Principal)
    (objectType objectId : String) (value : Option Value) : Except ServerError Unit :=
  let baseline := decideBaseline principal .objectWrite ⟨principal.tenantId, none⟩
  let decision := applyPolicyHooks baseline
    { principal := principal
      action := .objectWrite
      resource := ⟨"object", some objectType, some objectId, none, none, principal.tenantId⟩
      context := value } hooks
  decisionToResult (relaxObjectWriteWithGrants db principal objectType objectId decision)

def withRecordId (objectId : String) (value : Value) : Value :=
  match withoutRecordId value with
  | .map rest => .map ((.string "id", .string objectId) :: rest)
  | _ => .map [(.string "id", .string objectId)]

inductive WriteObjectResponse where
  | written (object : Value) (result : ObjectUpsertResult) (mergePolicy : FrickObjectMergePolicy)
  | conflict (tenantId objectType objectId : String) (expectedVersion : Option Int)
      (actualVersion : Int) (mergePolicy : FrickObjectMergePolicy)
  | error (err : ServerError)

/-- `write_object`, with the `If-Match` version already parsed. -/
def writeObject {β : Type} (store : ObjectStore β) (hooks : List PolicyHook) (db : SharingTables)
    (objects : ObjectTable β) (principal : Principal) (appId objectType objectId : String)
    (value : Value) (expectedVersion : Option Int) (nowMs : Int) :
    ObjectTable β × WriteObjectResponse :=
  match writeDecision hooks db principal objectType objectId (some value) with
  | .error err => (objects, .error err)
  | .ok () =>
    let mergePolicy := resolveObjectMergePolicy store.schema objectType
    match store.upsertWithPolicy objects appId principal.tenantId objectType objectId value
        expectedVersion mergePolicy nowMs with
    | .ok (objects, result) => (objects, .written (withRecordId objectId value) result mergePolicy)
    | .error (.objectVersionConflict tenantId objectType objectId expected actual) =>
      (objects, .conflict tenantId objectType objectId expected actual mergePolicy)
    | .error err => (objects, .error (.badRequest err.message))

lemma written_writeObject {β : Type} {store : ObjectStore β} {objects : ObjectTable β}
    (h : store.Written objects) (hooks : List PolicyHook) (db : SharingTables)
    (principal : Principal) (appId objectType objectId : String) (value : Value)
    (expected : Option Int) (nowMs : Int) :
    store.Written (writeObject store hooks db objects principal appId objectType objectId value
      expected nowMs).1 := by
  unfold writeObject
  split
  · exact h
  dsimp only
  split
  next hups =>
    obtain ⟨_, _, hpack, hwrite⟩ := ObjectStore.upsertWithPolicy_eq_ok hups
    exact ObjectStore.written_writeRowPacked h hpack hwrite
  next => exact h
  next => exact h

end Frick.Server
