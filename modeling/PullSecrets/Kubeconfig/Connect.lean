import PullSecrets.Cluster.Error
import PullSecrets.Kubeconfig.Config
import PullSecrets.Settings.Basic

/-!
# Choosing a cluster

The settings choose the cluster that calls go to: they may name a kubeconfig, and a context in it.
Without a name the kubeconfig is looked for where clients usually keep it; without either name the
choice is left to the library that clients are made with. A kubeconfig that is named is never
replaced by another.
-/

namespace PullSecrets

/-- The stage at which no cluster could be chosen. -/
inductive ConnectError where
  /-- The kubeconfig that the settings name cannot be read. -/
  | unreadable
  /-- The context does not lead to a usable cluster. -/
  | unusable
  /-- The settings name nothing, and nothing usable was found. -/
  | undetermined
  /-- No client can be made for the cluster and the user. -/
  | unsupported
  deriving DecidableEq, Repr, Inhabited

def ConnectError.message : ConnectError → String
  | .unreadable => "Failed to read kubeconfig"
  | .unusable => "Failed to create config"
  | .undetermined => "Failed to infer config"
  | .unsupported => "Failed to create client"

def ConnectError.toClusterError (e : ConnectError) : ClusterError := .kubeconfig e.message

/-- The cluster that calls go to. -/
structure Connection where
  server : Target
  deriving DecidableEq, Repr, Inhabited

namespace Connection

def apiServer (c : Connection) : String := c.server.text

def diagnosis (c : Connection) : String :=
  "K8sClient \x7b api_server: " ++ Text.quoted c.apiServer ++ " \x7d"

end Connection

/-- The library that clients are made with, on a machine: what it does beyond reading kubeconfigs,
and what it finds beyond the variables and files of an environment. -/
structure ClientLibrary where
  /-- The certificates in a text, if it is well formed. -/
  certificates? : Bytes → Option (List Bytes)
  /-- The home directory of the account. -/
  home? : Option Bytes
  /-- What is found where nothing is named. -/
  inferred? : Environment → Option ClusterConfig
  /-- The certificates that the machine trusts. -/
  trusted : Environment → List Bytes
  /-- What the programs print that a user names for credentials, if they end well. -/
  printed? : Environment → ClusterConfig → Option Bytes
  /-- Whether a client can be made. -/
  makes : Environment → ClusterConfig → Bool

namespace ClientLibrary

open Kubeconfig

variable (lib : ClientLibrary)

def config (env : Environment) (s : ClusterSettings) : Except ConnectError ClusterConfig :=
  match s.kubeconfig, s.context with
  | some path, context =>
    match ofFile? env.files (Text.encode path) with
    | none => .error .unreadable
    | some k =>
      match k.config? lib.certificates? env context with
      | some c => .ok c
      | none => .error .unusable
  | none, some context =>
    match (usual? lib.home? env).bind fun k => k.config? lib.certificates? env (some context) with
    | some c => .ok c
    | none => .error .unusable
  | none, none =>
    match lib.inferred? env with
    | some c => .ok c
    | none => .error .undetermined

def connect (env : Environment) (c : ClusterConfig) : Except ConnectError Connection :=
  if lib.makes env c then .ok ⟨c.server⟩ else .error .unsupported

def ofSettings (env : Environment) (s : ClusterSettings) : Except ConnectError Connection :=
  match lib.config env s with
  | .ok c => lib.connect env c
  | .error e => .error e

end ClientLibrary

end PullSecrets
