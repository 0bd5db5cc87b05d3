import PullSecrets.Text.Percent

/-!
# Routes

The paths that are served. A path is cut at its slashes and matched as it stands; parameters are
unescaped only afterwards. A parameter in last place is not empty.
-/

namespace PullSecrets

/-- What a path asks for, its parameters still escaped. -/
inductive Route where
  /-- `/api/secrets/create` -/
  | createSecret
  /-- `/api/secrets/list/:namespace` -/
  | listSecrets (ns : String)
  /-- `/api/secrets/delete/:namespace/:name` -/
  | deleteSecret (ns name : String)
  /-- `/api/namespaces/:namespace/poddefaults` -/
  | listPodDefaults (ns : String)
  /-- `/healthz` -/
  | liveness
  /-- `/readyz` -/
  | readiness
  deriving DecidableEq, Repr, Inhabited

namespace Route

/-- The segments of a path after some in reverse, the last of which is still growing. -/
def segmentsOnto (before : List String) (current : List Char) : List Char → List String
  | [] => (String.ofList current.reverse :: before).reverse
  | '/' :: rest => segmentsOnto (String.ofList current.reverse :: before) [] rest
  | c :: rest => segmentsOnto before (c :: current) rest

def segments (path : String) : List String := segmentsOnto [] [] path.toList

def ofSegments? : List String → Option Route
  | ["", "api", "secrets", "create"] => some .createSecret
  | ["", "api", "secrets", "list", ns] => if ns = "" then none else some (.listSecrets ns)
  | ["", "api", "secrets", "delete", ns, name] =>
    if name = "" then none else some (.deleteSecret ns name)
  | ["", "api", "namespaces", ns, "poddefaults"] => some (.listPodDefaults ns)
  | ["", "healthz"] => some .liveness
  | ["", "readyz"] => some .readiness
  | _ => none

def ofPath? (path : String) : Option Route := ofSegments? (segments path)

def method : Route → String
  | .createSecret => "POST"
  | .deleteSecret .. => "DELETE"
  | _ => "GET"

def allow : Route → String
  | .createSecret => "POST"
  | .deleteSecret .. => "DELETE"
  | _ => "GET,HEAD"

/-- The route with its parameters unescaped, or the name of the first that is not UTF-8. -/
def unescape : Route → Except String Route
  | .listSecrets ns => named "namespace" ns fun ns => .ok (.listSecrets ns)
  | .deleteSecret ns name =>
    named "namespace" ns fun ns => named "name" name fun name => .ok (.deleteSecret ns name)
  | .listPodDefaults ns => named "namespace" ns fun ns => .ok (.listPodDefaults ns)
  | r => .ok r
where
  /-- Unescapes a parameter and goes on with it. -/
  named (param value : String) (next : String → Except String Route) : Except String Route :=
    match Text.unescapeText? value with
    | some s => next s
    | none => .error param

end Route

end PullSecrets
