import PullSecrets.Json.Decode
import PullSecrets.Json.Reader
import PullSecrets.Kubeconfig.Basic
import PullSecrets.Text.Utf8

/-!
# Reading kubeconfigs

A kubeconfig is a JSON document. Its parts are strict records; nothing in it may be named twice,
and what is not used still has to be of the right kind. A document without content is an empty
kubeconfig.
-/

namespace PullSecrets

namespace Source

mutual

/-- Whether no object in a tree gives a name twice. -/
def isUnambiguous : Source → Bool
  | .array items => areUnambiguous items
  | .object members => areUnambiguousMembers [] members
  | _ => true

def areUnambiguous : List Source → Bool
  | [] => true
  | s :: rest => isUnambiguous s && areUnambiguous rest

/-- Whether some members bring new names, and give no name twice. -/
def areUnambiguousMembers (seen : List (Option String)) : List (Option String × Source) → Bool
  | [] => true
  | (key, s) :: rest =>
    !seen.contains key && isUnambiguous s && areUnambiguousMembers (key :: seen) rest

end

/-- The fields of a record that, as an array, has all of its fields. -/
def wholeRecord? (names : List String) : Source → Option Fields
  | .array items => if items.length = names.length then record? names (.array items) else none
  | s => record? names s

def any? (s : Source) : Option Json := Json.ofSource? nestingLimit s

def listOrEmpty? {α : Type} (decode : Source → Option α) (fields : Fields) (name : String) :
    Option (List α) :=
  (optional? (list? decode) fields name).map fun l => l.getD []

end Source

namespace Kubeconfig

open Source

def extension? (s : Source) : Option (String × Json) := do
  let fields ← s.wholeRecord? ["name", "extension"]
  let name ← required? text? fields "name"
  some (name, ← required? any? fields "extension")

def named? {α : Type} (decode : Source → Option α) (name : String) (s : Source) :
    Option (Named α) := do
  let fields ← s.wholeRecord? ["name", name]
  some {
    name := ← required? text? fields "name"
    value := ← optional? decode fields name }

def cluster? (s : Source) : Option ClusterEntry := do
  let fields ← s.wholeRecord? ["server", "insecure-skip-tls-verify", "certificate-authority",
    "certificate-authority-data", "proxy-url", "disable-compression", "tls-server-name",
    "extensions"]
  some {
    server := ← optional? text? fields "server"
    insecure := ← optional? bool? fields "insecure-skip-tls-verify"
    authorityFile := ← optional? text? fields "certificate-authority"
    authorityData := ← optional? text? fields "certificate-authority-data"
    proxy := ← optional? text? fields "proxy-url"
    uncompressed := ← optional? bool? fields "disable-compression"
    serverName := ← optional? text? fields "tls-server-name"
    extensions := ← listOrEmpty? extension? fields "extensions" }

def texts? (s : Source) : Option (List (String × String)) :=
  (map? text? s).map (·.entries)

def provider? (s : Source) : Option TokenProvider := do
  let fields ← s.record? ["name", "config"]
  some {
    name := ← required? text? fields "name"
    settings := ← match fields "config" with
      | some s => texts? s
      | none => some [] }

def mode? (s : Source) : Option ProgramMode :=
  match s.text? with
  | some "Never" => some .never
  | some "IfAvailable" => some .ifAvailable
  | some "Always" => some .always
  | _ => none

def program? (s : Source) : Option CredentialProgram := do
  let fields ← s.record?
    ["apiVersion", "command", "args", "env", "interactiveMode", "provideClusterInfo"]
  some {
    apiVersion := ← optional? text? fields "apiVersion"
    command := ← optional? text? fields "command"
    arguments := ← listOrEmpty? text? fields "args"
    vars := ← listOrEmpty? texts? fields "env"
    mode := ← optional? mode? fields "interactiveMode"
    informed := ← match fields "provideClusterInfo" with
      | some s => s.bool?
      | none => some false }

def user? (s : Source) : Option UserEntry := do
  let fields ← s.wholeRecord? ["username", "password", "token", "tokenFile", "client-certificate",
    "client-certificate-data", "client-key", "client-key-data", "as", "as-groups",
    "auth-provider", "exec"]
  some {
    username := ← optional? text? fields "username"
    password := ← optional? text? fields "password"
    token := ← optional? text? fields "token"
    tokenFile := ← optional? text? fields "tokenFile"
    certificateFile := ← optional? text? fields "client-certificate"
    certificateData := ← optional? text? fields "client-certificate-data"
    keyFile := ← optional? text? fields "client-key"
    keyData := ← optional? text? fields "client-key-data"
    actsFor := ← optional? text? fields "as"
    groups := ← listOrEmpty? text? fields "as-groups"
    provider := ← optional? provider? fields "auth-provider"
    program := ← optional? program? fields "exec" }

def context? (s : Source) : Option ContextEntry := do
  let fields ← s.wholeRecord? ["cluster", "user", "namespace", "extensions"]
  let _ ← optional? text? fields "namespace"
  let _ ← optional? (list? extension?) fields "extensions"
  some {
    cluster := ← required? text? fields "cluster"
    user := ← optional? text? fields "user" }

def preferences? (s : Source) : Option Unit := do
  let fields ← s.wholeRecord? ["colors", "extensions"]
  let _ ← optional? bool? fields "colors"
  let _ ← optional? (list? extension?) fields "extensions"
  some ()

def ofSource? (s : Source) : Option Kubeconfig := do
  guard s.isUnambiguous
  let _ ← any? s
  let fields ← s.wholeRecord? ["preferences", "clusters", "users", "contexts", "current-context",
    "extensions", "kind", "apiVersion"]
  let _ ← optional? preferences? fields "preferences"
  let _ ← optional? (list? extension?) fields "extensions"
  some {
    clusters := ← listOrEmpty? (named? cluster? "cluster") fields "clusters"
    users := ← listOrEmpty? (named? user? "user") fields "users"
    contexts := ← listOrEmpty? (named? context? "context") fields "contexts"
    currentContext := ← optional? text? fields "current-context"
    kind := ← optional? text? fields "kind"
    apiVersion := ← optional? text? fields "apiVersion" }

/-- Whether a document has no content: blanks, line ends and comments alone. -/
def isVoid (inComment : Bool) : List Char → Bool
  | [] => true
  | c :: rest =>
    if c = '\n' ∨ c = '\r' then isVoid false rest
    else if inComment then isVoid true rest
    else if c = ' ' then isVoid false rest
    else c == '#' && isVoid true rest

def read? (document : String) : Option Kubeconfig :=
  let cs := Text.withoutMark document.toList
  if isVoid false cs then some {} else (Source.read? (String.ofList cs)).bind ofSource?

end Kubeconfig

end PullSecrets
