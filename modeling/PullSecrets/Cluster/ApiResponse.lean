import PullSecrets.Cluster.Call
import PullSecrets.Http.Status
import PullSecrets.Json.Shape
import PullSecrets.Text.Utf8

/-!
# Responses of the API server

What a response means for the call that it answers. An error status is a refusal, whether the body
says why or not; any other body has to be the object that the call expects.
-/

namespace PullSecrets

structure ApiResponse where
  status : UInt16
  body : Bytes
  deriving DecidableEq, Inhabited

namespace ApiStatus

/-- A text that may be missing, but not `null`. -/
def textOrEmpty? (fields : Source.Fields) (name : String) : Option String :=
  match fields name with
  | none => some ""
  | some s => s.text?

def ofSource? (s : Source) : Option ApiStatus := do
  let fields ← s.record? ["status", "message", "reason", "code"]
  some {
    status := ← Source.required? Source.text? fields "status"
    message := ← textOrEmpty? fields "message"
    reason := ← textOrEmpty? fields "reason"
    code := ← Source.required? Source.uint16? fields "code" }

/-- The refusal of an error status with a body that does not describe one. -/
def ofUnreadable (status : UInt16) (body : String) : ApiStatus :=
  ⟨Http.statusLine status, Text.quoted body, "Failed to parse error data", status⟩

/-- The refusal of an error status with some body. -/
def ofBody (status : UInt16) (body : String) : ApiStatus :=
  ((Source.read? body).bind ofSource?).getD (ofUnreadable status body)

end ApiStatus

namespace ApiResponse

/-- The body of a response that is not a refusal. -/
def text (r : ApiResponse) : Except ClusterError String :=
  match Text.decode? r.body with
  | none => .error (.api .notUtf8)
  | some body =>
    if Http.isErrorStatus r.status then .error (.api (.status (.ofBody r.status body)))
    else .ok body

def expecting {α : Type} (decode : Source → Option α) (r : ApiResponse) : Except ClusterError α :=
  match r.text with
  | .error e => .error e
  | .ok body =>
    match (Source.read? body).bind decode with
    | some a => .ok a
    | none => .error (.api .undecodable)

def requirementShape : Source.Shape :=
  [("key", Source.isText), ("operator", Source.isText), ("values", Source.isTexts)]

def selectorShape : Source.Shape :=
  [("rawSelector", Source.isText), ("requirements", Source.isListOf requirementShape)]

def attributesShape : Source.Shape :=
  [("fieldSelector", Source.hasShape selectorShape), ("group", Source.isText),
    ("labelSelector", Source.hasShape selectorShape), ("name", Source.isText),
    ("namespace", Source.isText), ("resource", Source.isText), ("subresource", Source.isText),
    ("verb", Source.isText), ("version", Source.isText)]

def specShape : Source.Shape :=
  [("extra", fun s => (s.map? (Source.list? Source.text?)).isSome), ("groups", Source.isTexts),
    ("nonResourceAttributes", Source.hasShape [("path", Source.isText), ("verb", Source.isText)]),
    ("resourceAttributes", Source.hasShape attributesShape), ("uid", Source.isText),
    ("user", Source.isText)]

def statusShape : Source.Shape :=
  [("allowed", Source.isBool), ("denied", Source.isBool), ("evaluationError", Source.isText),
    ("reason", Source.isText)]

/-- The answer in a status; what is not said to be allowed is not. -/
def allowedOf? (s : Source) : Option Bool := do
  guard (s.hasShape statusShape)
  some ((← Source.last? Source.bool? (← s.loose?) "allowed").getD false)

def verdictOf? (s : Source) : Option (Option Bool) := do
  let ms ← s.loose?
  guard (Source.isKind "authorization.k8s.io/v1" "SubjectAccessReview" ms)
  guard (s.hasShape [("metadata", fun m => (ObjectMeta.ofSource? (Source.nestingLimit - 1) m).isSome),
    ("spec", Source.hasShape specShape)])
  Source.last? allowedOf? ms "status"

def verdict (r : ApiResponse) : Except ClusterError Bool :=
  match r.expecting verdictOf? with
  | .ok (some allowed) => .ok allowed
  | .ok none => .error (.malformed "SubjectAccessReview has no status")
  | .error e => .error e

def listNames : List String := ["items", "metadata"]

def listMetaShape : Source.Shape :=
  [("continue", Source.isText), ("remainingItemCount", Source.isInt64),
    ("resourceVersion", Source.isText), ("selfLink", Source.isText)]

/-- The items of a list, each decoded with room for so many containers. What else a list holds is
read as a free form. -/
def itemsOf? {α : Type} (decode : Nat → Source → Option α) (s : Source) : Option (List α) := do
  let ms ← s.loose?
  guard (listNames.all fun name => Source.occurrences name ms ≤ 1)
  let _ ← Source.valuesWith? (Json.ofSource? (Source.nestingLimit - 1))
    (ms.filter fun m => m.1 ∉ listNames)
  guard ((Source.firstNamed? ms "metadata").all (Source.hasShape listMetaShape))
  match Source.firstNamed? ms "items" with
  | none => none
  | some .null => some []
  | some items => items.list? (decode (Source.nestingLimit - 2))

/-- The names of the registry secrets in a list; those without a name are passed over. -/
def registrySecretNames (secrets : List Secret) : List String :=
  (secrets.filter Secret.isRegistry).filterMap (·.metadata.name)

def isCause (s : Source) : Bool :=
  match s.record? ["reason", "message", "field"] with
  | none => false
  | some fields =>
    ["reason", "message", "field"].all fun name => (ApiStatus.textOrEmpty? fields name).isSome

def detailNames : List String := ["name", "group", "kind", "uid", "causes", "retryAfterSeconds"]

def isDetails (s : Source) : Bool :=
  match s.record? detailNames with
  | none => false
  | some fields =>
    (["name", "group", "kind", "uid"].all fun name =>
        (ApiStatus.textOrEmpty? fields name).isSome) &&
      (match fields "causes" with
        | none => true
        | some (.array causes) => causes.all isCause
        | some _ => false) &&
      (match fields "retryAfterSeconds" with
        | none => true
        | some n => (n.int? 0 4294967295).isSome)

def statusNames : List String := ["status", "code", "message", "reason", "details"]

def isStatus (s : Source) : Bool :=
  match s.record? statusNames with
  | none => false
  | some fields =>
    (match fields "status" with
      | none | some .null => true
      | some s => s.text? == some "Success" || s.text? == some "Failure") &&
      (match fields "code" with
        | none => true
        | some n => n.uint16?.isSome) &&
      (["message", "reason"].all fun name => (ApiStatus.textOrEmpty? fields name).isSome) &&
      (match fields "details" with
        | none | some .null => true
        | some d => isDetails d)

/-- Whether a tree reports a removal: with a status, or with the secret itself. -/
def removalOf? (s : Source) : Option Unit := do
  let j ← Json.ofSource? Source.nestingLimit s
  if j.member? "kind" = some (.string "Status") then guard (isStatus s)
  else (Secret.ofSource? Source.nestingLimit s).map fun _ => ()

def versionShape : Source.Shape :=
  ["buildDate", "compiler", "gitCommit", "gitTreeState", "gitVersion", "goVersion", "major",
    "minor", "platform"].map fun name => (name, Source.isText)

/-- The version of the server; a missing one is empty. -/
def versionOf? (s : Source) : Option String := do
  guard (s.hasShape versionShape)
  some ((← Source.last? Source.text? (← s.loose?) "gitVersion").getD "")

/-- What a response brings for the call that it answers. -/
def result (r : ApiResponse) : (c : Call) → c.Answer
  | .review .. => r.verdict
  | .createSecret _ => r.expecting fun s => (Secret.ofSource? Source.nestingLimit s).map fun _ => ()
  | .listSecrets _ =>
    match r.expecting (itemsOf? Secret.ofSource?) with
    | .ok secrets => .ok (registrySecretNames secrets)
    | .error e => .error e
  | .deleteSecret .. => r.expecting removalOf?
  | .applyPodDefault _ =>
    r.expecting fun s => (PodDefault.ofSource? Source.nestingLimit s).map fun _ => ()
  | .listPodDefaults _ => r.expecting (itemsOf? PodDefault.ofSource?)
  | .serverVersion => r.expecting versionOf?

end ApiResponse

end PullSecrets
