import PullSecrets.Credential
import PullSecrets.Http.Message
import PullSecrets.Json.Reader

/-!
# Submitted credentials

The body of a request to create a secret is read leniently: a member of the object counts unless it
is `null`, `false`, zero or an empty string; a string stands for itself and anything else for its
JSON text. A body that is no JSON at all stands for an empty request.
-/

namespace PullSecrets

def Request.bodyLimit : Nat := 2097152

/-- The JSON value that the body starts with, if the headers announce one. -/
def Request.json? (r : Request) : Option Json :=
  if r.headers.announceJson && r.body.length ≤ Request.bodyLimit then
    match Source.readFirst? (Text.readable r.body) with
    | some (s, _) => Json.ofSource? Source.nestingLimit s
    | none => none
  else none

/-- The text of a field, if its value counts. -/
def Json.fieldText? : Json → Option String
  | .null => none
  | .bool false => none
  | .string s => some s
  | .number n => if n.isZero then none else some (Json.number n).text
  | j => some j.text

def CredentialRequest.ofJson (body : Json) : CredentialRequest where
  ns := (body.member? "namespace").bind Json.fieldText?
  name := (body.member? "name").bind Json.fieldText?
  registry := (body.member? "registry").bind Json.fieldText?
  username := (body.member? "username").bind Json.fieldText?
  password := (body.member? "password").bind Json.fieldText?
  email := (body.member? "email").bind Json.fieldText?

end PullSecrets
