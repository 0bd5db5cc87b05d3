import PullSecrets.Http.Message
import PullSecrets.Instant
import PullSecrets.Json.Decode
import PullSecrets.Json.Reader
import PullSecrets.Program
import PullSecrets.Registry

/-!
# Bodies of responses

A success that brings nothing else carries a message; every failure is told in one form, with its
status, a code, the message and the time.
-/

namespace PullSecrets

structure MessageResponse where
  message : String
  deriving DecidableEq, Repr, Inhabited

namespace MessageResponse

def toJson (m : MessageResponse) : Json := .object [("message", .string m.message)]

def ofSource? (s : Source) : Option MessageResponse := do
  let fields ← s.record? ["message"]
  some ⟨← Source.required? Source.text? fields "message"⟩

def read? (text : String) : Option MessageResponse := (Source.read? text).bind ofSource?

end MessageResponse

structure ErrorResponse where
  status : UInt16
  code : String
  error : String
  timestamp : String
  deriving DecidableEq, Repr, Inhabited

namespace ErrorResponse

def toJson (e : ErrorResponse) : Json :=
  .object [("status", Json.ofNat e.status.toNat), ("code", .string e.code),
    ("error", .string e.error), ("timestamp", .string e.timestamp)]

def ofSource? (s : Source) : Option ErrorResponse := do
  let fields ← s.record? ["status", "code", "error", "timestamp"]
  some {
    status := ← Source.required? Source.uint16? fields "status"
    code := ← Source.required? Source.text? fields "code"
    error := ← Source.required? Source.text? fields "error"
    timestamp := ← Source.required? Source.text? fields "timestamp" }

def read? (text : String) : Option ErrorResponse := (Source.read? text).bind ofSource?

end ErrorResponse

/-- How a request failed, as told to the client. -/
inductive Failure where
  /-- The fault is not the client's. -/
  | internal (message : String)
  | forbidden (message : String)
  | badRequest (message : String)
  deriving DecidableEq, Repr, Inhabited

namespace Failure

def status : Failure → UInt16
  | .internal _ => 500
  | .forbidden _ => 403
  | .badRequest _ => 400

def code : Failure → String
  | .internal _ => "INTERNAL_ERROR"
  | .forbidden _ => "FORBIDDEN"
  | .badRequest _ => "BAD_REQUEST"

def message : Failure → String
  | .internal m | .forbidden m | .badRequest m => m

def body (f : Failure) (now : Instant) : ErrorResponse :=
  ⟨f.status, f.code, f.message, now.fullText⟩

/-- The response that tells of the failure. -/
def response (f : Failure) (now : Instant) : Response := .json f.status (f.body now).toJson

/-- Answers with the failure; a fault on this side is logged. -/
def answer (f : Failure) (now : Instant) : Program Response :=
  match f with
  | .internal m => .log (.internalFailure m) (.done (f.response now))
  | _ => .done (f.response now)

def ofRefusal (e : AccessError) : Failure := .forbidden e.message

/-- What the failure of an operation on secrets amounts to; all but missing fields are reported
as faults on this side, with a word on what was tried. -/
def ofService (attempt : String) : ServiceError → Failure
  | .incomplete => .badRequest ServiceError.incomplete.message
  | e => .internal (attempt ++ ": " ++ e.message)

end Failure

end PullSecrets
