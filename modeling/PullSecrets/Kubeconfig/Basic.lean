import PullSecrets.Json.Basic

/-!
# Kubeconfigs

The file by which clients of a cluster are set up: named clusters, users and contexts, and the
context in use. A context joins a cluster and a user. Of entries with one name the first counts.
-/

namespace PullSecrets

/-- An entry with a name; it may lack what it names. -/
structure Named (α : Type) where
  name : String
  value : Option α
  deriving DecidableEq, Repr, Inhabited

def Named.first? {α : Type} (name : String) (entries : List (Named α)) : Option α :=
  (entries.find? fun e => e.name == name).bind (·.value)

/-- Some entries, and those of others that bring a new name. -/
def Named.merge {α : Type} (entries others : List (Named α)) : List (Named α) :=
  entries ++ others.filter fun e => !entries.any fun f => f.name == e.name

/-- How a cluster is reached. -/
structure ClusterEntry where
  server : Option String := none
  /-- Its certificates are not checked. -/
  insecure : Option Bool := none
  /-- The file that holds the authorities for its certificates. -/
  authorityFile : Option String := none
  /-- The authorities themselves, in base 64. -/
  authorityData : Option String := none
  proxy : Option String := none
  /-- Answers are not to be compressed. -/
  uncompressed : Option Bool := none
  /-- The name that its certificates are checked for. -/
  serverName : Option String := none
  /-- What programs may be told beside, by name. -/
  extensions : List (String × Json) := []
  deriving DecidableEq, Repr, Inhabited

/-- A service that hands out tokens, with its settings. -/
structure TokenProvider where
  name : String
  settings : List (String × String)
  deriving DecidableEq, Repr, Inhabited

/-- Whether a program may ask the user. -/
inductive ProgramMode where
  | never
  | ifAvailable
  | always
  deriving DecidableEq, Repr, Inhabited

/-- A program that is run for credentials. -/
structure CredentialProgram where
  apiVersion : Option String := none
  command : Option String := none
  arguments : List String := []
  /-- Variables that are set for it, each as a record of its name and its value. -/
  vars : List (List (String × String)) := []
  mode : Option ProgramMode := none
  /-- It is told of the cluster. -/
  informed : Bool := false
  deriving DecidableEq, Repr, Inhabited

/-- How a user is recognised by a cluster. -/
structure UserEntry where
  username : Option String := none
  password : Option String := none
  token : Option String := none
  tokenFile : Option String := none
  /-- The file that holds the certificate of the user. -/
  certificateFile : Option String := none
  /-- The certificate itself, in base 64. -/
  certificateData : Option String := none
  keyFile : Option String := none
  keyData : Option String := none
  /-- The user for whom this one acts. -/
  actsFor : Option String := none
  /-- The groups for which this user acts. -/
  groups : List String := []
  provider : Option TokenProvider := none
  program : Option CredentialProgram := none
  deriving DecidableEq, Repr, Inhabited

/-- The files that a user is recognised by. -/
def UserEntry.files (u : UserEntry) : List String :=
  u.tokenFile.toList ++ u.certificateFile.toList ++ u.keyFile.toList

structure ContextEntry where
  cluster : String
  user : Option String := none
  deriving DecidableEq, Repr, Inhabited

structure Kubeconfig where
  clusters : List (Named ClusterEntry) := []
  users : List (Named UserEntry) := []
  contexts : List (Named ContextEntry) := []
  currentContext : Option String := none
  kind : Option String := none
  apiVersion : Option String := none
  deriving DecidableEq, Repr, Inhabited

namespace Kubeconfig

/-- Whether two texts that may be missing contradict each other. -/
def differ (s t : Option String) : Bool := s.isSome && t.isSome && s != t

/-- One kubeconfig extended by another; both must be of one kind and version. -/
def merge? (k other : Kubeconfig) : Option Kubeconfig :=
  if differ k.kind other.kind || differ k.apiVersion other.apiVersion then none
  else
    some {
      clusters := Named.merge k.clusters other.clusters
      users := Named.merge k.users other.users
      contexts := Named.merge k.contexts other.contexts
      currentContext := k.currentContext.or other.currentContext
      kind := k.kind.or other.kind
      apiVersion := k.apiVersion.or other.apiVersion }

end Kubeconfig

end PullSecrets
