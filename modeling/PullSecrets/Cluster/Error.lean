import PullSecrets.Text.Quoted

/-!
# Failures of the cluster

Why a call to the cluster failed, as the API server reported it or as it came about on this side,
and the text of each cause.
-/

namespace PullSecrets

/-- A failure as the API server reports it. -/
structure ApiStatus where
  status : String
  message : String
  reason : String
  code : UInt16
  deriving DecidableEq, Repr, Inhabited

def ApiStatus.diagnosis (s : ApiStatus) : String :=
  "ErrorResponse \x7b status: " ++ Text.quoted s.status ++ ", message: " ++ Text.quoted s.message ++
    ", reason: " ++ Text.quoted s.reason ++ ", code: " ++ toString s.code.toNat ++ " \x7d"

/-- Why a request could not be built. -/
inductive RequestFault where
  | targetCharacter
  | targetLength
  | emptyName
  deriving DecidableEq, Repr, Inhabited

def RequestFault.message : RequestFault → String
  | .targetCharacter => "failed to build request: invalid uri character"
  | .targetLength => "failed to build request: uri too long"
  | .emptyName => "failed to validate request: A non-empty name is required"

/-- Why a request to the API server brought no answer. -/
inductive ApiError where
  /-- The server refused. -/
  | status (s : ApiStatus)
  | unbuildable (fault : RequestFault)
  /-- No connection could be had, or it broke off. -/
  | transport (detail : String)
  | undecodable
  | notUtf8
  /-- A line of the answer has no end. -/
  | unendedLine
  deriving DecidableEq, Repr, Inhabited

def ApiError.message : ApiError → String
  | .status s => "ApiError: " ++ s.message ++ ": " ++ s.reason ++ " (" ++ s.diagnosis ++ ")"
  | .unbuildable fault => "Failed to build request: " ++ fault.message
  | .transport detail => "ServiceError: " ++ detail
  | .undecodable => "Error deserializing response"
  | .notUtf8 => "UTF-8 Error: invalid utf-8 sequence of 1 bytes from index 0"
  | .unendedLine => "Error finding newline character"

/-- Why a call to the cluster failed. -/
inductive ClusterError where
  | api (e : ApiError)
  /-- The settings name no usable cluster. -/
  | kubeconfig (text : String)
  /-- An answer lacks a field that it must have. -/
  | malformed (text : String)
  | encoding (text : String)
  /-- A fault on this side. -/
  | internal (text : String)
  deriving DecidableEq, Repr, Inhabited

namespace ClusterError

def message : ClusterError → String
  | .api e => "Kubernetes API error: " ++ e.message
  | .kubeconfig text => "Invalid kubeconfig: " ++ text
  | .malformed text => "Malformed response: " ++ text
  | .encoding text => "Encoding error: " ++ text
  | .internal text => "Internal error: " ++ text

/-- The text shown to callers: the API server's own message if it gave one. -/
def apiMessage : ClusterError → String
  | .api (.status s) => if s.message = "" then message (.api (.status s)) else s.message
  | e => e.message

/-- The failure of a status that says why in one word. -/
def refused (code : UInt16) (reason message : String) : ClusterError :=
  .api (.status ⟨"Failure", message, reason, code⟩)

end ClusterError

end PullSecrets
