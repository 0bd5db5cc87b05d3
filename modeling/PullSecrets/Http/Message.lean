import PullSecrets.Http.MediaType
import PullSecrets.Http.Target
import PullSecrets.Json.Printer

/-!
# Requests and responses
-/

namespace PullSecrets

/-- A request, of which the target is reduced to its path. -/
structure Request where
  method : String
  path : String
  headers : Headers
  body : Bytes
  deriving DecidableEq

/-- The request of some parts, if the method is a token and the target well formed. -/
def Request.ofParts? (method target : String) (headers : Headers) (body : Bytes) : Option Request :=
  match isToken method, Target.read target with
  | true, .ok target => some ⟨method, target.path, headers, body⟩
  | _, _ => none

inductive Body where
  | empty
  | text (s : String)
  | json (value : Json)
  deriving DecidableEq, Inhabited

structure Response where
  status : UInt16
  contentType : Option String := none
  allow : Option String := none
  body : Body := .empty
  deriving DecidableEq, Inhabited

namespace Response

def json (status : UInt16) (value : Json) : Response :=
  { status, contentType := some "application/json", body := .json value }

def plain (status : UInt16) (text : String) : Response :=
  { status, contentType := some "text/plain; charset=utf-8", body := .text text }

/-- The response without its body, as a `HEAD` request gets it. -/
def withoutBody (r : Response) : Response := { r with body := .empty }

end Response

def Body.content : Body → String
  | .empty => ""
  | .text s => s
  | .json value => value.text

end PullSecrets
