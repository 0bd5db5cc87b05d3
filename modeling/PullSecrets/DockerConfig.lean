import PullSecrets.Credential
import PullSecrets.Text.Base64

/-!
# Docker configurations

The document that a kubelet reads from a pull secret: for each registry a user, a password, an
address, and user and password once more, joined by a colon and written in base 64.
-/

namespace PullSecrets

structure DockerAuth where
  username : String
  password : String
  email : String
  auth : String
  deriving DecidableEq, Inhabited

structure DockerConfig where
  auths : SortedMap String DockerAuth
  deriving DecidableEq, Inhabited

namespace DockerAuth

/-- User and password joined by a colon, in base 64. -/
def joined (username password : String) : String :=
  String.ofList (Text.Base64.encode (Text.encode (username ++ ":" ++ password)))

def toJson (a : DockerAuth) : Json :=
  .object [("username", .string a.username), ("password", .string a.password),
    ("email", .string a.email), ("auth", .string a.auth)]

def ofSource? (s : Source) : Option DockerAuth := do
  let fields ← s.record? ["username", "password", "email", "auth"]
  some {
    username := ← Source.required? Source.text? fields "username"
    password := ← Source.required? Source.text? fields "password"
    email := ← Source.required? Source.text? fields "email"
    auth := ← Source.required? Source.text? fields "auth" }

end DockerAuth

namespace DockerConfig

def ofCredential (c : Credential) : DockerConfig :=
  ⟨SortedMap.empty.insert c.registry
    ⟨c.username, c.password, c.email, DockerAuth.joined c.username c.password⟩⟩

def toJson (d : DockerConfig) : Json :=
  .object [("auths", .object (d.auths.entries.map fun (k, a) => (k, a.toJson)))]

def text (d : DockerConfig) : String := d.toJson.text

def ofSource? (s : Source) : Option DockerConfig := do
  let fields ← s.record? ["auths"]
  some ⟨← Source.required? (Source.map? DockerAuth.ofSource?) fields "auths"⟩

def read? (text : String) : Option DockerConfig := (Source.read? text).bind ofSource?

end DockerConfig

end PullSecrets
