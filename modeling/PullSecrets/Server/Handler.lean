import PullSecrets.Server.Failure
import PullSecrets.Server.Route
import PullSecrets.Server.Submission

/-!
# Answering requests

`Server.answer` is what the service does with a request: it finds the route, checks the method,
reads the parameters and runs the operation behind it.
-/

namespace PullSecrets

/-- The time at which a request is answered. -/
structure Clock where
  now : Instant
  /-- Whole seconds since the service started. -/
  uptime : Nat
  deriving DecidableEq, Repr, Inhabited

namespace Server

/-- Tells the outcome of an operation on secrets. -/
def conclude {α : Type} (clock : Clock) (attempt : String) (success : α → Json) :
    Except ServiceError α → Program Response
  | .ok a => .done (.json 200 (success a))
  | .error e => (Failure.ofService attempt e).answer clock.now

/-- The credential that a request submits; a body that cannot be read is logged. -/
def submitted (r : Request) : Program CredentialRequest :=
  match r.json? with
  | some body => .done (.ofJson body)
  | none => .log .bodyRejected (.done {})

def createSecret (settings : AccessSettings) (clock : Clock) (r : Request) : Program Response := do
  let request ← submitted r
  let outcome ← Registry.create settings r.headers request
  conclude clock "Failed to create secret or update PodDefault"
    (fun m => MessageResponse.toJson ⟨m⟩) outcome

def listSecrets (settings : AccessSettings) (clock : Clock) (r : Request) (ns : String) :
    Program Response := do
  let outcome ← Registry.list settings r.headers ns
  conclude clock "Failed to list secrets" Json.ofTexts outcome

def deleteSecret (settings : AccessSettings) (clock : Clock) (r : Request) (ns name : String) :
    Program Response := do
  let outcome ← Registry.delete settings r.headers ns name
  conclude clock "Failed to delete secret or update PodDefault"
    (fun m => MessageResponse.toJson ⟨m⟩) outcome

def podDefaultsJson (ps : List PodDefault) : Json :=
  .object [("success", .bool true), ("status", Json.ofNat 200),
    ("poddefaults", .array (ps.map PodDefault.entryJson))]

def listPodDefaults (settings : AccessSettings) (clock : Clock) (r : Request) (ns : String) :
    Program Response := do
  match ← ensureAllowed settings r.headers (.podDefaults "list" ns) with
  | .error e => (Failure.ofRefusal e).answer clock.now
  | .ok () =>
    .ask (.listPodDefaults ns) fun
      | .error e => (Failure.internal e.apiMessage).answer clock.now
      | .ok ps => .log (.podDefaultsListed ns ps.length) (.done (.json 200 (podDefaultsJson ps)))

def liveness (clock : Clock) : Response :=
  .json 200 (.object [("alive", .bool true), ("uptime_seconds", Json.ofNat clock.uptime),
    ("timestamp", .number (.int clock.now.seconds))])

/-- Says that the API server answers, with its version. -/
def ready (clock : Clock) (version : String) : Response :=
  .json 200 (.object [("ready", .bool true), ("api_server_version", .string version),
    ("timestamp", .number (.int clock.now.seconds))])

/-- Says that the API server does not answer. -/
def unready (clock : Clock) : Response :=
  .json 503 (.object [("ready", .bool false),
    ("reason", .string "Kubernetes API server unreachable"),
    ("timestamp", .number (.int clock.now.seconds))])

/-- Asks the API server for a sign of life. -/
def readiness (clock : Clock) : Program Response :=
  .ask .serverVersion fun
    | .ok version => .done (ready clock version)
    | .error e => .log (.readinessFailed e) (.done (unready clock))

def serve (settings : AccessSettings) (clock : Clock) (r : Request) : Route → Program Response
  | .createSecret => createSecret settings clock r
  | .listSecrets ns => listSecrets settings clock r ns
  | .deleteSecret ns name => deleteSecret settings clock r ns name
  | .listPodDefaults ns => listPodDefaults settings clock r ns
  | .liveness => .done (liveness clock)
  | .readiness => readiness clock

def notText (param : String) : Response :=
  .plain 400 ("Invalid URL: Invalid UTF-8 in `" ++ param ++ "`")

/-- Reads the parameters of a route and serves it. -/
def dispatch (settings : AccessSettings) (clock : Clock) (r : Request) (route : Route) :
    Program Response :=
  match route.unescape with
  | .ok route => serve settings clock r route
  | .error param => .done (notText param)

/-- The answer to a request. `HEAD` is answered like `GET`, without a body. -/
def answer (settings : AccessSettings) (clock : Clock) (r : Request) : Program Response :=
  match Route.ofPath? r.path with
  | none => .done { status := 404 }
  | some route =>
    if r.method = route.method then dispatch settings clock r route
    else if r.method = "HEAD" ∧ route.method = "GET" then
      Response.withoutBody <$> dispatch settings clock r route
    else .done { status := 405, allow := some route.allow }

end Server

end PullSecrets
