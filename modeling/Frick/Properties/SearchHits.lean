import Frick.Sync.LiveView
import Frick.Server.Search

/-!
# What a search reveals

`GET /objects` decides by the owner field that the schema declares, the visibility mode, the policy
hooks and the grants. A search decides by the first owner it finds in the row, under one of two
names, and asks no hook.
-/

namespace Frick.Properties

open Framework Protocol Store Server Option

/-- A search over the records of a type, and all that decides who may read them. -/
structure ObjectSearch (β : Type) where
  store : ObjectStore β
  objects : ObjectTable β
  sharing : SharingTables
  hooks : List PolicyHook
  mode : ObjectVisibilityMode
  principal : Principal
  appId : String
  typeName : String

namespace ObjectSearch

variable {β : Type} (q : ObjectSearch β)

/-- The stored record that a hit stands for. -/
def record (hit : SearchHit) : Option Value :=
  q.store.current q.objects q.principal.tenantId q.typeName (hit.sourceId.getD hit.docId) q.appId

def search (result : SearchQueryResult) (limit : Nat) : Except ServerError SearchQueryResult :=
  Server.search q.store q.objects q.principal q.appId (.object q.typeName) result limit

/-- `hit_is_visible`, for this type. -/
def shows : SearchHit → Bool :=
  hitIsVisible q.store q.objects q.principal q.appId (.object q.typeName)

def ownerField : Option String := ownerFieldForType q.store.schema q.typeName

/-- `GET /objects` shows the principal the record. -/
def canRead (object : Value) : Bool :=
  subscriberCanReadObjectWithHooks q.sharing q.hooks q.mode q.ownerField q.principal q.typeName
    object (perRecordReadAuthzActive q.sharing) none

/-- The ownership baseline of `GET /objects`. -/
def owns (object : Value) : Bool :=
  isObjectVisibleToUser q.mode q.ownerField object q.principal.userId

/-- The record names the principal in `ownerId` and another user in the owner field of its type. -/
def DoublyOwned (object : Value) : Prop :=
  q.mode = .ownerScoped ∧ objectFieldStr object "ownerId" = some q.principal.userId ∧
    ∃ field ∈ q.ownerField, ∃ owner ∈ objectFieldStr object field,
      owner ≠ "" ∧ owner ≠ q.principal.userId

/-- No hook withholds the record; in tenant-wide mode nothing else could. -/
def HooksAllow (object : Value) : Prop :=
  objectReadDecision q.hooks .tenantWide q.ownerField q.principal q.typeName object none = .allow

/-- A grant opens the record to the principal. -/
def Granted (object : Value) : Prop :=
  perRecordReadAuthzActive q.sharing = true ∧ ∃ id ∈ objectRecordId object,
    q.sharing.hasActiveGrantFor q.principal.tenantId q.principal.userId q.typeName id "read" = true

/-- A record whose first owner is not foreign is granted, or no hook withholds it and it has not two
owners. -/
def RulesAgree (object : Value) : Prop :=
  q.principal.userId ≠ "" → (∀ owner ∈ objectOwner object, owner = q.principal.userId) →
    q.Granted object ∨ q.HooksAllow object ∧ ¬q.DoublyOwned object

variable {q} {object : Value}

lemma ownerField_eq_some {field : String} (h : q.ownerField = some field) :
    field = "ownerUserId" := by
  unfold ownerField ownerFieldForType at h
  split at h
  · cases h
  · obtain ⟨found, hfound, rfl⟩ := map_eq_some_iff.mp h
    have hname := List.find?_some hfound
    simp only [decide_eq_true_eq] at hname
    exact hname.1

/-- A principal whom the first owner does not rule out is ruled out by the declared one only if the
record has two. -/
lemma owns_iff (hown : ∀ owner ∈ objectOwner object, owner = q.principal.userId) :
    q.owns object ↔ ¬q.DoublyOwned object := by
  unfold owns DoublyOwned isObjectVisibleToUser
  cases q.mode with
  | tenantWide => simp
  | ownerScoped =>
    cases hfield : q.ownerField with
    | none => simp
    | some =>
      obtain rfl := ownerField_eq_some hfield
      cases howner : objectFieldStr object "ownerUserId" with
      | none => simp [howner]
      | some owner =>
        by_cases hfor : owner ≠ "" ∧ owner ≠ q.principal.userId
        · have hfirst : objectFieldStr object "ownerId" = some q.principal.userId := by
            by_cases hid : ∃ first ∈ objectFieldStr object "ownerId", first ≠ ""
            · obtain ⟨first, hfirst, hne⟩ := hid
              rw [← hown first (by simp [objectOwner, mem_def.mp hfirst, hne])]
              exact hfirst
            refine absurd (hown owner ?_) hfor.2
            have hnone : (objectFieldStr object "ownerId").filter (· ≠ "") = none := by
              simpa using hid
            rw [objectOwner, hnone, howner]
            simp [hfor]
          simp [howner, hfor, hfirst]
        · grind

lemma canRead_iff (hadmin : q.principal.isAdmin = false) :
    q.canRead object ↔ q.Granted object ∨ q.HooksAllow object ∧ q.owns object := by
  have hdecision : objectReadDecision q.hooks q.mode q.ownerField q.principal q.typeName object
      none = .allow ↔ q.HooksAllow object ∧ q.owns object := by
    unfold HooksAllow owns objectReadDecision
    cases hvis : isObjectVisibleToUser q.mode q.ownerField object q.principal.userId with
    | true => simp [isObjectVisibleToUser.eq_1]
    | false => simp [hadmin, applyPolicyHooks]
  rw [canRead, subscriberCanReadObjectWithHooks_iff, hdecision, or_comm]
  rfl

/-- A search shows the hits whose record has no foreign owner. -/
lemma shows_iff (hname : q.principal.userId ≠ "") (hit : SearchHit) :
    q.shows hit ↔
      ∃ object ∈ q.record hit, ∀ owner ∈ objectOwner object, owner = q.principal.userId := by
  unfold shows hitIsVisible record ObjectStore.current
  dsimp only
  cases q.store.read q.objects q.principal.tenantId q.typeName (hit.sourceId.getD hit.docId)
    q.appId with
  | error => simp [Except.toOption]
  | ok found =>
    cases found with
    | none => simp [Except.toOption]
    | some object =>
      cases howner : objectOwner object <;>
        simp [decideBaseline, hname, howner, Except.toOption]

/-- **What a search reveals.** Whatever page size is asked for, every hit stands for a record that
the principal may read, exactly if the two rules agree on the records behind the index's hits. -/
theorem search_reveals_iff (q : ObjectSearch β) (result : SearchQueryResult)
    (hscope : q.principal.scope ≠ .admin) :
    (∀ limit page, q.search result limit = .ok page →
      ∀ hit ∈ page.hits, ∃ object ∈ q.record hit, q.canRead object = true) ↔
      ∀ hit ∈ result.hits, ∀ object ∈ q.record hit, q.RulesAgree object := by
  have hadmin : q.principal.isAdmin = false := by simpa [Principal.isAdmin] using hscope
  by_cases hname : q.principal.userId = ""
  · simp [search, Server.search, decideBaseline, hname, decisionToResult, RulesAgree]
  have hsearch : ∀ limit, q.search result limit =
      .ok ⟨(result.hits.filter q.shows).take limit, (result.hits.filter q.shows).length⟩ := by
    intro limit
    simp [search, Server.search, decideBaseline, hname, decisionToResult, filterResultForPrincipal,
      hadmin, shows]
  constructor
  · intro h hit hhit object hobject _ hown
    have hvisible := (shows_iff hname hit).mpr ⟨object, hobject, hown⟩
    obtain ⟨found, hfound, hread⟩ := h result.hits.length _ (hsearch _) hit (by
      rw [List.take_of_length_le (List.length_filter_le _ _)]
      exact List.mem_filter.mpr ⟨hhit, hvisible⟩)
    obtain rfl := some.inj (hobject.symm.trans hfound)
    rwa [canRead_iff hadmin, owns_iff hown] at hread
  · intro h limit page hpage hit hhit
    obtain rfl := Except.ok.inj ((hsearch limit).symm.trans hpage)
    obtain ⟨hmem, hvisible⟩ := List.mem_filter.mp (List.mem_of_mem_take hhit)
    obtain ⟨object, hobject, hown⟩ := (shows_iff hname hit).mp hvisible
    refine ⟨object, hobject, ?_⟩
    rw [canRead_iff hadmin, owns_iff hown]
    exact h hit hmem object hobject hname hown

end ObjectSearch

def adasSearch (hooks : List PolicyHook) : ObjectSearch PackedRecord where
  store := Sync.adasFeed.store
  objects := (run Sync.adasFeed.step .empty (Sync.writeNote "note-1" "ada")).objects
  sharing := .empty
  hooks := hooks
  mode := .ownerScoped
  principal := Sync.adasFeed.principal
  appId := defaultAppId
  typeName := "Note"

/-- Without hooks what they find is theirs to read. -/
theorem search_reveals_own_note :
    let q := adasSearch []
    ∀ limit page, q.search ⟨[⟨"note-1", none⟩], 1⟩ limit = .ok page →
      ∀ hit ∈ page.hits, ∃ object ∈ q.record hit, q.canRead object = true := by
  refine ((adasSearch []).search_reveals_iff ⟨[⟨"note-1", none⟩], 1⟩ (by decide)).mpr ?_
  have hid : ∀ hit ∈ [SearchHit.mk "note-1" none], ∀ object ∈ (adasSearch []).record hit,
      objectFieldStr object "ownerId" = none := by decide +kernel
  exact fun hit hhit object hobject _ _ =>
    .inr ⟨rfl, fun hdouble => nomatch (hid hit hhit object hobject).symm.trans hdouble.2.1⟩

/-- A hook withholds every note from everybody, and a search finds one all the same. -/
theorem search_reveals_withheld_note :
    let q := adasSearch [fun _ => some (.deny .notMember "Not a member")]
    q.search ⟨[⟨"note-1", none⟩], 1⟩ 10 = .ok ⟨[⟨"note-1", none⟩], 1⟩ ∧
      ∀ object ∈ q.record ⟨"note-1", none⟩, q.canRead object = false := by
  decide +kernel

end Frick.Properties
