import PullSecrets.Json.Decode
import PullSecrets.Json.Printer
import PullSecrets.Json.Reader
import PullSecrets.Text.Quoted

/-!
# Registry credentials

A `CredentialRequest` is what a caller asks to store, any part of which may be missing; a
`Credential` is a complete one. The forms made for diagnosis never show a password.
-/

namespace PullSecrets

/-- A credential as submitted: each field may be unset. -/
structure CredentialRequest where
  ns : Option String := none
  name : Option String := none
  registry : Option String := none
  username : Option String := none
  password : Option String := none
  email : Option String := none
  deriving DecidableEq, Inhabited

/-- A complete credential for a registry, to be stored as a secret of a namespace. -/
structure Credential where
  ns : String
  name : String
  registry : String
  username : String
  password : String
  email : String
  deriving DecidableEq, Inhabited

namespace CredentialRequest

/-- A field that is set and not empty. -/
def given? (field : Option String) : Option String := field.filter (· ≠ "")

def complete? (r : CredentialRequest) : Option Credential := do
  some {
    ns := ← given? r.ns
    name := ← given? r.name
    registry := ← given? r.registry
    username := ← given? r.username
    password := ← given? r.password
    email := ← given? r.email }

def fieldNames : List String := ["namespace", "name", "registry", "username", "password", "email"]

/-- A field of the JSON form: the text, or `null` when unset. -/
def fieldJson : Option String → Json
  | some s => .string s
  | none => .null

/-- The JSON form; it always has all fields. -/
def toJson (r : CredentialRequest) : Json :=
  .object [("namespace", fieldJson r.ns), ("name", fieldJson r.name),
    ("registry", fieldJson r.registry), ("username", fieldJson r.username),
    ("password", fieldJson r.password), ("email", fieldJson r.email)]

def ofSource? (s : Source) : Option CredentialRequest := do
  let fields ← s.record? fieldNames
  some {
    ns := ← Source.optional? Source.text? fields "namespace"
    name := ← Source.optional? Source.text? fields "name"
    registry := ← Source.optional? Source.text? fields "registry"
    username := ← Source.optional? Source.text? fields "username"
    password := ← Source.optional? Source.text? fields "password"
    email := ← Source.optional? Source.text? fields "email" }

def read? (text : String) : Option CredentialRequest := (Source.read? text).bind ofSource?

/-- The form for diagnosis: whether there is a password, but not which. -/
def diagnosis (r : CredentialRequest) : String :=
  "RegistryCredentialRequest \x7b namespace: " ++ Text.quoted? r.ns ++
    ", name: " ++ Text.quoted? r.name ++ ", registry: " ++ Text.quoted? r.registry ++
    ", username: " ++ Text.quoted? r.username ++
    ", password: " ++ Text.quoted? (r.password.map fun _ => "<redacted>") ++
    ", email: " ++ Text.quoted? r.email ++ " \x7d"

end CredentialRequest

/-- The form for diagnosis: without the password. -/
def Credential.diagnosis (c : Credential) : String :=
  "RegistryCredential \x7b namespace: " ++ Text.quoted c.ns ++ ", name: " ++ Text.quoted c.name ++
    ", registry: " ++ Text.quoted c.registry ++ ", username: " ++ Text.quoted c.username ++
    ", password: " ++ Text.quoted "<redacted>" ++ ", email: " ++ Text.quoted c.email ++ " \x7d"

end PullSecrets
