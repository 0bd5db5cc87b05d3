import PullSecrets.Access.Action
import PullSecrets.Object.Meta

/-!
# Access reviews

The document by which the authorization engine is asked whether a user may do something. Every
part of the action has a place of its own, and a part that is not set is left out, so that the
document determines user and action.
-/

namespace PullSecrets

/-- The question whether a user may do something. -/
structure AccessReview where
  user : String
  action : Action
  deriving DecidableEq, Repr, Inhabited

namespace AccessReview

def attributesJson (a : Action) : Json :=
  .object <| Json.present [("group", some (.string a.group)), ("namespace", Json.ofText? a.ns),
    ("resource", some (.string a.resource)), ("subresource", Json.ofText? a.subresource),
    ("verb", some (.string a.verb)), ("version", some (.string a.version))]

def toJson (r : AccessReview) : Json :=
  .object [("apiVersion", .string "authorization.k8s.io/v1"),
    ("kind", .string "SubjectAccessReview"), ("metadata", .object []),
    ("spec", .object [("resourceAttributes", attributesJson r.action), ("user", .string r.user)])]

def text (r : AccessReview) : String := r.toJson.text

def actionOfSource? (s : Source) : Option Action := do
  let ms ← s.loose?
  some {
    verb := ← (← Source.last? Source.text? ms "verb")
    group := ← (← Source.last? Source.text? ms "group")
    version := ← (← Source.last? Source.text? ms "version")
    resource := ← (← Source.last? Source.text? ms "resource")
    ns := ← Source.last? Source.text? ms "namespace"
    subresource := ← Source.last? Source.text? ms "subresource" }

def ofSpec? (s : Source) : Option AccessReview := do
  let ms ← s.loose?
  some {
    user := ← (← Source.last? Source.text? ms "user")
    action := ← (← Source.last? actionOfSource? ms "resourceAttributes") }

def ofSource? (s : Source) : Option AccessReview := do
  let ms ← s.loose?
  guard (Source.isKind "authorization.k8s.io/v1" "SubjectAccessReview" ms)
  (← Source.last? ofSpec? ms "spec")

def read? (text : String) : Option AccessReview := (Source.read? text).bind ofSource?

end AccessReview

end PullSecrets
