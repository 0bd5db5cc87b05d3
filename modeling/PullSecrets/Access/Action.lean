import PullSecrets.Json.Decode
import PullSecrets.Json.Printer
import PullSecrets.Json.Reader

/-!
# Actions on cluster resources

An `Action` is what a caller wants to do: a verb on a resource, in a namespace or in the whole
cluster. It has a one-line form for messages and a JSON form.
-/

namespace PullSecrets

/-- A verb on a resource of an API group and version, within a namespace if there is one. -/
structure Action where
  verb : String
  group : String
  version : String
  resource : String
  ns : Option String := none
  subresource : Option String := none
  deriving DecidableEq, Repr, Inhabited

namespace Action

/-- A verb on the secrets of a namespace. Secrets belong to the core group, which has no name. -/
def secrets (verb ns : String) : Action := ⟨verb, "", "v1", "secrets", some ns, none⟩

def podDefaults (verb ns : String) : Action :=
  ⟨verb, "kubeflow.org", "v1alpha1", "poddefaults", some ns, none⟩

def text (a : Action) : String :=
  a.verb ++ " " ++ a.group ++ "/" ++ a.version ++ "/" ++ a.resource ++
    (match a.subresource with
      | some sub => "/" ++ sub
      | none => "") ++
    (match a.ns with
      | some ns => " in namespace '" ++ ns ++ "'"
      | none => "")

/-- The JSON form; what is not set is left out. -/
def toJson (a : Action) : Json :=
  .object <|
    [("verb", .string a.verb), ("group", .string a.group), ("version", .string a.version),
      ("resource", .string a.resource)] ++
    Json.present [("namespace", Json.ofText? a.ns), ("subresource", Json.ofText? a.subresource)]

def fieldNames : List String :=
  ["verb", "group", "version", "resource", "namespace", "subresource"]

def ofSource? (s : Source) : Option Action := do
  let fields ← s.record? fieldNames
  some {
    verb := ← Source.required? Source.text? fields "verb"
    group := ← Source.required? Source.text? fields "group"
    version := ← Source.required? Source.text? fields "version"
    resource := ← Source.required? Source.text? fields "resource"
    ns := ← Source.optional? Source.text? fields "namespace"
    subresource := ← Source.optional? Source.text? fields "subresource" }

def read? (text : String) : Option Action := (Source.read? text).bind ofSource?

end Action

end PullSecrets
