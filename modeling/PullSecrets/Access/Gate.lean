import PullSecrets.Access.Identity

/-!
# The gate

Every operation on behalf of a caller passes the gate first: the authorization engine of the
cluster is asked whether the caller may do it. Decisions are not remembered.
-/

namespace PullSecrets

/-- Why an action is not allowed. The failure of the engine is logged but not told. -/
inductive AccessError where
  | unauthenticated
  | denied (user : String) (action : Action)
  | engineUnavailable
  deriving DecidableEq, Repr, Inhabited

def AccessError.message : AccessError → String
  | .unauthenticated => "No user identity found in request"
  | .denied user action => "User '" ++ user ++ "' is not authorized to " ++ action.text
  | .engineUnavailable => "Authorization failed"

/-- What follows from the answer of the engine. -/
def reviewed (user : String) (action : Action) :
    Except ClusterError Bool → Program (Except AccessError Unit)
  | .ok true => .log (.accessAllowed user action) (.done (.ok ()))
  | .ok false => .log (.accessDenied user action) (.done (.error (.denied user action)))
  | .error e => .log (.reviewFailed user action e) (.done (.error .engineUnavailable))

/-- Asks whether the caller may do something, unless the gate stands open. -/
def ensureAllowed (settings : AccessSettings) (headers : Headers) (action : Action) :
    Program (Except AccessError Unit) :=
  if settings.disabled then .done (.ok ())
  else do
    match ← identify settings headers with
    | none => pure (.error .unauthenticated)
    | some user => .ask (.review user action) (reviewed user action)

end PullSecrets
