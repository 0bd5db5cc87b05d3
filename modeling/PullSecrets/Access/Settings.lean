import PullSecrets.Text.Quoted

/-!
# Settings for access control
-/

namespace PullSecrets

/-- How callers are identified, and whether they are checked at all. -/
structure AccessSettings where
  /-- Every request is allowed, and nobody is asked. -/
  disabled : Bool := false
  /-- The header that names the user of a request. -/
  userHeader : String := "kubeflow-userid"
  /-- What is taken off the start of the header's value. -/
  userPrefix : String := ":"
  deriving DecidableEq, Repr, Inhabited

def AccessSettings.diagnosis (s : AccessSettings) : String :=
  "AuthConfig \x7b disable_auth: " ++ (if s.disabled then "true" else "false") ++
    ", userid_header: " ++ Text.quoted s.userHeader ++
    ", userid_prefix: " ++ Text.quoted s.userPrefix ++ " \x7d"

end PullSecrets
