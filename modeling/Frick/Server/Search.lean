import Frick.Server.Objects

/-!
# Search

`routes/search.rs` re-reads the record behind each hit of an index, keeps the hits whose record it
finds visible and cuts the page from what is left. What the full-text adapter has found is a
parameter.
-/

namespace Frick.Server

open Protocol Store

/-- `SearchHit`; of its fields only the reserved `__frickSourceId` is read. -/
structure SearchHit where
  docId : String
  sourceId : Option String
  deriving Repr, DecidableEq

structure SearchQueryResult where
  hits : List SearchHit
  total : Nat
  deriving Repr, DecidableEq

inductive SearchSource where
  | object (typeName : String)
  | stream (typeName : String)
  | projection (name : String)
  deriving Repr

/-- `object_owner`: the first of the two fields that is a non-empty text. -/
def objectOwner (object : Value) : Option String :=
  ((objectFieldStr object "ownerId").filter (· ≠ "")).or
    ((objectFieldStr object "ownerUserId").filter (· ≠ ""))

section

variable (store : ObjectStore β) (db : ObjectTable β) (principal : Principal)
  (appId : String) (source : SearchSource)

/-- `hit_is_visible`; a read that fails hides the hit. -/
def hitIsVisible (hit : SearchHit) : Bool :=
  match source with
  | .object typeName =>
    match store.read db principal.tenantId typeName (hit.sourceId.getD hit.docId) appId with
    | .ok (some object) =>
      decideBaseline principal .objectRead ⟨principal.tenantId, objectOwner object⟩ = .allow
    | _ => false
  | .stream _ => decideBaseline principal .streamRead ⟨principal.tenantId, none⟩ = .allow
  | .projection _ => false

def filterResultForPrincipal (result : SearchQueryResult) : SearchQueryResult :=
  if principal.isAdmin then result
  else
    let visible := result.hits.filter (hitIsVisible store db principal appId source)
    ⟨visible, visible.length⟩

/-- `search`, from the query-level check on. -/
def search (result : SearchQueryResult) (limit : Nat) : Except ServerError SearchQueryResult := do
  decisionToResult (decideBaseline principal .searchQuery ⟨principal.tenantId, none⟩)
  let visible := filterResultForPrincipal store db principal appId source result
  return ⟨visible.hits.take limit, visible.total⟩

end

end Frick.Server
