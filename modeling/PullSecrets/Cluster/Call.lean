import PullSecrets.Access.Action
import PullSecrets.Cluster.Error
import PullSecrets.Object.PodDefault
import PullSecrets.Object.Secret

/-!
# Calls to the cluster

All that is ever asked of a cluster: whether a user may do something, and the few operations on
secrets and PodDefaults. The type of the answer depends on the call.
-/

namespace PullSecrets

/-- A question to the cluster or an operation on it. -/
inductive Call where
  /-- May the user do this? -/
  | review (user : String) (action : Action)
  | createSecret (credential : Credential)
  /-- The names of the registry secrets of a namespace. -/
  | listSecrets (ns : String)
  | deleteSecret (ns name : String)
  /-- Create or replace a PodDefault. -/
  | applyPodDefault (podDefault : PodDefault)
  | listPodDefaults (ns : String)
  | serverVersion
  deriving DecidableEq, Inhabited

abbrev Call.Result : Call → Type
  | .review .. => Bool
  | .createSecret .. => Unit
  | .listSecrets .. => List String
  | .deleteSecret .. => Unit
  | .applyPodDefault .. => Unit
  | .listPodDefaults .. => List PodDefault
  | .serverVersion => String

/-- What a call brings: a result or a failure. -/
abbrev Call.Answer (c : Call) : Type := Except ClusterError c.Result

end PullSecrets
