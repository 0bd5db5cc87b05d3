import PullSecrets.Json.Reader
import PullSecrets.Json.Printer
import PullSecrets.Object.LabelSelector

/-!
# PodDefaults

A PodDefault adds settings to the pods that its selector matches. Of its `spec` only the selector,
the description and the pull secrets are looked at; all other entries are carried along as they
are. `ofSecretNames` builds the one PodDefault per namespace that names every registry secret.
-/

namespace PullSecrets

/-- What a PodDefault adds to which pods. -/
structure PodDefaultSpec where
  selector : LabelSelector := {}
  desc : Option String := none
  imagePullSecrets : Option (List String) := none
  extra : SortedMap String Json := ∅
  deriving DecidableEq, Inhabited

structure PodDefault where
  metadata : ObjectMeta := {}
  spec : PodDefaultSpec := {}
  deriving DecidableEq, Inhabited

namespace PodDefaultSpec

def referenceJson (name : String) : Json := .object [("name", .string name)]

/-- The JSON form. An empty list of pull secrets is written, since it clears a stored one. -/
def toJson (s : PodDefaultSpec) : Json :=
  .object <| ("selector", s.selector.toJson) ::
    Json.present [("desc", Json.ofText? s.desc),
      ("imagePullSecrets", s.imagePullSecrets.map fun names => .array (names.map referenceJson))] ++
    s.extra.entries

def referenceOfSource? (s : Source) : Option String := do
  let fields ← s.record? ["name"]
  Source.required? Source.text? fields "name"

def ownNames : List String := ["selector", "desc", "imagePullSecrets"]

/-- The spec that a JSON tree describes, with room for so many containers, its own included. -/
def ofSource? (room : Nat) (s : Source) : Option PodDefaultSpec := do
  let ms ← s.loose?
  guard (ownNames.all fun name => Source.occurrences name ms ≤ 1)
  let fields := Source.firstNamed? ms
  let extra ← Source.valuesWith? (Json.ofSource? (room - 1)) (ms.filter fun m => m.1 ∉ ownNames)
  some {
    selector := ← match fields "selector" with
      | some s => LabelSelector.ofSource? s
      | none => some {}
    desc := ← Source.optional? Source.text? fields "desc"
    imagePullSecrets := ← Source.optional? (Source.list? referenceOfSource?) fields "imagePullSecrets"
    extra := SortedMap.ofList extra }

end PodDefaultSpec

namespace PodDefault

/-- The name of the PodDefault that is kept for each namespace. -/
def registryName : String := "registry-credentials"

def registryLabel : String := "registry-credentials"

def registryDesc : String := "Mount registry credentials"

/-- Names in rising order, each once. -/
def distinctNames (names : List String) : List String :=
  (SortedMap.ofList (names.map fun n => (n, ()))).keys

/-- The PodDefault that names the given registry secrets of a namespace. It depends on the set of
names alone. -/
def ofSecretNames (ns : String) (names : List String) : PodDefault where
  metadata := { name := some registryName, ns := some ns, labels := some ObjectMeta.ownLabels }
  spec := {
    selector := { matchLabels := some (SortedMap.empty.insert registryLabel "true") }
    desc := some registryDesc
    imagePullSecrets := some (distinctNames names) }

def pullSecretNames (p : PodDefault) : List String := p.spec.imagePullSecrets.getD []

def formLabel (p : PodDefault) : String := p.spec.selector.label

/-- The description that a form shows: its own, else the name of the object. -/
def formDesc (p : PodDefault) : String := (p.spec.desc.or p.metadata.name).getD ""

def members (p : PodDefault) : List (String × Json) :=
  [("apiVersion", .string "kubeflow.org/v1alpha1"), ("kind", .string "PodDefault"),
    ("metadata", p.metadata.toJson), ("spec", p.spec.toJson)]

def toJson (p : PodDefault) : Json := .object p.members

/-- The JSON form for listings: with the label and the description that a form shows. -/
def entryJson (p : PodDefault) : Json :=
  .object (p.members ++ [("label", .string p.formLabel), ("desc", .string p.formDesc)])

/-- The PodDefault that a JSON tree describes, with room for so many containers. -/
def ofSource? (room : Nat) (s : Source) : Option PodDefault := do
  let fields ← s.record? ["metadata", "spec"]
  some {
    metadata := ← Source.required? (ObjectMeta.ofSource? (room - 1)) fields "metadata"
    spec := ← Source.required? (PodDefaultSpec.ofSource? (room - 1)) fields "spec" }

def read? (text : String) : Option PodDefault :=
  (Source.read? text).bind (ofSource? Source.nestingLimit)

end PodDefault

end PullSecrets
