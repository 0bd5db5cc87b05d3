import PullSecrets.Instant
import PullSecrets.Json.Decode

/-!
# Object metadata

The part that all objects of a cluster have in common. Each entry may be unset; an empty list or
map that is set is not the same as an unset one.
-/

namespace PullSecrets

/-- Who last wrote which fields of an object. -/
structure ManagedFields where
  apiVersion : Option String := none
  fieldsType : Option String := none
  fields : Option Json := none
  manager : Option String := none
  operation : Option String := none
  subresource : Option String := none
  time : Option Instant := none
  deriving DecidableEq, Inhabited

/-- An object that another one belongs to. -/
structure OwnerReference where
  apiVersion : String := ""
  blockOwnerDeletion : Option Bool := none
  controller : Option Bool := none
  kind : String := ""
  name : String := ""
  uid : String := ""
  deriving DecidableEq, Inhabited

structure ObjectMeta where
  annotations : Option (SortedMap String String) := none
  creationTimestamp : Option Instant := none
  deletionGracePeriodSeconds : Option Int := none
  deletionTimestamp : Option Instant := none
  finalizers : Option (List String) := none
  generateName : Option String := none
  generation : Option Int := none
  labels : Option (SortedMap String String) := none
  managedFields : Option (List ManagedFields) := none
  name : Option String := none
  ns : Option String := none
  ownerReferences : Option (List OwnerReference) := none
  resourceVersion : Option String := none
  selfLink : Option String := none
  uid : Option String := none
  deriving DecidableEq, Inhabited

def SortedMap.toJson (m : SortedMap String String) : Json :=
  .object (m.entries.map fun (k, v) => (k, .string v))

def Instant.toJson (t : Instant) : Json := .string t.text

def Instant.ofSource? (s : Source) : Option Instant := s.text?.bind read?

namespace ManagedFields

def toJson (f : ManagedFields) : Json :=
  .object <| Json.present [("apiVersion", Json.ofText? f.apiVersion),
    ("fieldsType", Json.ofText? f.fieldsType), ("fieldsV1", f.fields),
    ("manager", Json.ofText? f.manager), ("operation", Json.ofText? f.operation),
    ("subresource", Json.ofText? f.subresource), ("time", f.time.map Instant.toJson)]

/-- The entry that a JSON tree describes, with room for so many containers in its fields. -/
def ofSource? (room : Nat) (s : Source) : Option ManagedFields := do
  let ms ← s.loose?
  some {
    apiVersion := ← Source.last? Source.text? ms "apiVersion"
    fieldsType := ← Source.last? Source.text? ms "fieldsType"
    fields := ← Source.last? (Json.ofSource? room) ms "fieldsV1"
    manager := ← Source.last? Source.text? ms "manager"
    operation := ← Source.last? Source.text? ms "operation"
    subresource := ← Source.last? Source.text? ms "subresource"
    time := ← Source.last? Instant.ofSource? ms "time" }

end ManagedFields

namespace OwnerReference

def toJson (r : OwnerReference) : Json :=
  .object <| Json.present [("apiVersion", some (.string r.apiVersion)),
    ("blockOwnerDeletion", r.blockOwnerDeletion.map .bool),
    ("controller", r.controller.map .bool), ("kind", some (.string r.kind)),
    ("name", some (.string r.name)), ("uid", some (.string r.uid))]

/-- The reference that a JSON tree describes; a missing text is empty. -/
def ofSource? (s : Source) : Option OwnerReference := do
  let ms ← s.loose?
  some {
    apiVersion := (← Source.last? Source.text? ms "apiVersion").getD ""
    blockOwnerDeletion := ← Source.last? Source.bool? ms "blockOwnerDeletion"
    controller := ← Source.last? Source.bool? ms "controller"
    kind := (← Source.last? Source.text? ms "kind").getD ""
    name := (← Source.last? Source.text? ms "name").getD ""
    uid := (← Source.last? Source.text? ms "uid").getD "" }

end OwnerReference

namespace ObjectMeta

def toJson (m : ObjectMeta) : Json :=
  .object <| Json.present [("annotations", m.annotations.map SortedMap.toJson),
    ("creationTimestamp", m.creationTimestamp.map Instant.toJson),
    ("deletionGracePeriodSeconds", m.deletionGracePeriodSeconds.map fun n => .number (.int n)),
    ("deletionTimestamp", m.deletionTimestamp.map Instant.toJson),
    ("finalizers", m.finalizers.map Json.ofTexts), ("generateName", Json.ofText? m.generateName),
    ("generation", m.generation.map fun n => .number (.int n)),
    ("labels", m.labels.map SortedMap.toJson),
    ("managedFields", m.managedFields.map fun fs => .array (fs.map ManagedFields.toJson)),
    ("name", Json.ofText? m.name), ("namespace", Json.ofText? m.ns),
    ("ownerReferences", m.ownerReferences.map fun rs => .array (rs.map OwnerReference.toJson)),
    ("resourceVersion", Json.ofText? m.resourceVersion), ("selfLink", Json.ofText? m.selfLink),
    ("uid", Json.ofText? m.uid)]

/-- The metadata that a JSON tree describes, with room for so many containers, its own included.
Three containers lead to the fields of a manager. -/
def ofSource? (room : Nat) (s : Source) : Option ObjectMeta := do
  let ms ← s.loose?
  some {
    annotations := ← Source.last? (Source.map? Source.text?) ms "annotations"
    creationTimestamp := ← Source.last? Instant.ofSource? ms "creationTimestamp"
    deletionGracePeriodSeconds := ← Source.last? Source.int64? ms "deletionGracePeriodSeconds"
    deletionTimestamp := ← Source.last? Instant.ofSource? ms "deletionTimestamp"
    finalizers := ← Source.last? (Source.list? Source.text?) ms "finalizers"
    generateName := ← Source.last? Source.text? ms "generateName"
    generation := ← Source.last? Source.int64? ms "generation"
    labels := ← Source.last? (Source.map? Source.text?) ms "labels"
    managedFields :=
      ← Source.last? (Source.list? (ManagedFields.ofSource? (room - 3))) ms "managedFields"
    name := ← Source.last? Source.text? ms "name"
    ns := ← Source.last? Source.text? ms "namespace"
    ownerReferences := ← Source.last? (Source.list? OwnerReference.ofSource?) ms "ownerReferences"
    resourceVersion := ← Source.last? Source.text? ms "resourceVersion"
    selfLink := ← Source.last? Source.text? ms "selfLink"
    uid := ← Source.last? Source.text? ms "uid" }

end ObjectMeta

/-- Whether every version and kind that an object states is the expected one. -/
def Source.isKind (apiVersion kind : String) (ms : List (String × Source)) : Bool :=
  ms.all fun (name, s) =>
    if name = "apiVersion" then s.text? == some apiVersion
    else if name = "kind" then s.text? == some kind
    else true

/-- The label that marks the objects written here. -/
def ObjectMeta.ownLabels : SortedMap String String :=
  SortedMap.empty.insert "app.kubernetes.io/managed-by" "kubedash"

end PullSecrets
