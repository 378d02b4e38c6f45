import Frick.Framework.Dict
import Frick.Framework.Program
import Frick.Protocol.Frame

/-!
# Projections

`projections.rs`: the registry keeps, for every projection and tenant, the rows that the handlers of
the app have produced, and tells a listener about every change. `notify` runs the handler, takes the
changes into the rows and calls the listener, each in a lock section of its own.

A row change without a value deletes the row. On the wire a change always has a value, and `nil`
stands for the deletion (`changesToFrame`); a client reads it that way (`applyDelta`).
-/

namespace Frick.Server

open Framework Framework.Program Protocol Function

structure ProjectionChange where
  key : String
  value : Option Value
  deriving DecidableEq

structure ProjectionDeltaNotice where
  projection : String
  tenantId : String
  appId : String
  changes : List ProjectionChange
  deriving DecidableEq

abbrev ProjectionRows := String → String → Dict String Value

def ProjectionChange.asEdit (change : ProjectionChange) : String × Option Value :=
  (change.key, change.value)

/-- `apply_changes_to_snapshot`. A tenant without rows is the same as no tenant. -/
def applyChangesToSnapshot (rows : ProjectionRows) (projection tenantId : String)
    (changes : List ProjectionChange) : ProjectionRows :=
  update rows projection (update (rows projection) tenantId
    ((rows projection tenantId).edits (changes.map ProjectionChange.asEdit)))

/-- `snapshot`: the rows as the changes that reproduce them. -/
def snapshot (rows : ProjectionRows) (name tenantId : String) : List ProjectionChange :=
  (rows name tenantId).rows.map fun row => ⟨row.1, some row.2⟩

def changesToFrame (changes : List ProjectionChange) : List (String × Value) :=
  changes.map fun change => (change.key, change.value.getD .nil)

/-- What a change on the wire means to a client. -/
def wireEdit (change : String × Value) : String × Option Value :=
  (change.1, if change.2 = .nil then none else some change.2)

def applyDelta (rows : Dict String Value) (changes : List (String × Value)) : Dict String Value :=
  rows.edits (changes.map wireEdit)

/-! ## Notify -/

/-- The registry, and one client that subscribes to a projection. -/
structure ProjectionFeed where
  rows : ProjectionRows
  subscriber : Option (Dict String Value)

/-- A lock section of the registry. The section that runs a handler changes nothing here. -/
inductive ProjectionSection where
  | materialise (notice : ProjectionDeltaNotice)
  | invokeDeltaListener (notice : ProjectionDeltaNotice)
  | subscribe

/-- What a section does, for a client that subscribes to `projection` as a user of the tenant. -/
def ProjectionSection.handle (projection tenantId : String) (feed : ProjectionFeed) :
    ProjectionSection → ProjectionFeed × Unit
  | .materialise notice =>
    ({ feed with
      rows := applyChangesToSnapshot feed.rows notice.projection notice.tenantId
        notice.changes }, ())
  | .invokeDeltaListener notice =>
    (if notice.projection = projection ∧ notice.tenantId = tenantId then
      { feed with
        subscriber :=
          feed.subscriber.map fun rows => applyDelta rows (changesToFrame notice.changes) }
    else feed, ())
  | .subscribe =>
    ({ feed with
      subscriber :=
        some
          (applyDelta (Table.empty _) (changesToFrame (snapshot feed.rows projection tenantId))) },
      ())

/-- A task that takes the lock of the registry now and then. -/
abbrev ProjectionProgram :=
  Program ProjectionSection (fun _ => Unit) Empty

/-- A call of `notify`: the matching projections in their order, with what each handler returned, or
nothing if it panicked. -/
structure NotifyCall where
  tenantId : String
  appId : String
  results : List (String × Option (List ProjectionChange))

def notifyLoop (tenantId appId : String) :
    List (String × Option (List ProjectionChange)) → ProjectionProgram Unit
  | [] => pure ()
  | (_, none) :: rest => notifyLoop tenantId appId rest
  | (name, some changes) :: rest =>
    if changes.isEmpty then notifyLoop tenantId appId rest
    else do
      perform (ProjectionSection.materialise ⟨name, tenantId, appId, changes⟩)
      perform (ProjectionSection.invokeDeltaListener ⟨name, tenantId, appId, changes⟩)
      notifyLoop tenantId appId rest

def NotifyCall.notify (call : NotifyCall) : ProjectionProgram Unit :=
  notifyLoop call.tenantId call.appId call.results

/-! ## One key at a time -/

/-- What a row is to a client: a row with the value `nil` is none. -/
def onWire (row : Option Value) : Option Value :=
  row.bind fun value => if value = .nil then none else some value

/-- What the changes leave at a key, or nothing if they do not touch it. -/
def lastChange (changes : List ProjectionChange) (key : String) : Option (Option Value) :=
  Dict.lastEdit (changes.map ProjectionChange.asEdit) key

lemma applyChangesToSnapshot_of_ne {rows : ProjectionRows} {proj tenantId name tenant : String}
    {changes : List ProjectionChange} (h : ¬(name = proj ∧ tenant = tenantId)) :
    applyChangesToSnapshot rows name tenant changes proj tenantId = rows proj tenantId := by
  rw [applyChangesToSnapshot]
  by_cases hname : proj = name
  · subst hname
    have hten : tenantId ≠ tenant := fun heq => h ⟨rfl, heq.symm⟩
    rw [update_self, update_of_ne hten]
  · rw [update_of_ne hname]

lemma map_wireEdit_changesToFrame (changes : List ProjectionChange) :
    (changesToFrame changes).map wireEdit =
      (changes.map ProjectionChange.asEdit).map fun e => (e.1, onWire e.2) := by
  rw [changesToFrame, List.map_map, List.map_map]
  apply List.map_congr_left
  rintro ⟨key, value⟩ -
  cases value with
  | none | some => rfl

lemma get?_applyDelta (rows : Dict String Value) (changes : List ProjectionChange) (key : String) :
    (applyDelta rows (changesToFrame changes)).get? key =
      ((lastChange changes key).map onWire).getD (rows.get? key) := by
  rw [applyDelta, Dict.get?_edits, map_wireEdit_changesToFrame, Dict.lastEdit_map]
  rfl

lemma lastChange_snapshot (rows : ProjectionRows) (name tenantId key : String) :
    lastChange (snapshot rows name tenantId) key = ((rows name tenantId).get? key).map some := by
  rw [lastChange, snapshot, List.map_map]
  exact Dict.lastEdit_entries (rows name tenantId) key

end Frick.Server
