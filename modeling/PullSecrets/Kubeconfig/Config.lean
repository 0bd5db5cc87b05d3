import PullSecrets.Http.Target
import PullSecrets.Kubeconfig.Location
import PullSecrets.Text.Base64

/-!
# Configurations

What a client has to know of a cluster and a user, gathered from a kubeconfig for one context. How
certificates are read from a text is left to the library that clients are made with.
-/

namespace PullSecrets

/-- What a client is set up with. -/
structure ClusterConfig where
  server : Target
  /-- The authorities for the certificates of the cluster, if they are not those that the machine
  trusts. -/
  authorities : Option (List Bytes) := none
  insecure : Bool := false
  proxy : Option Target := none
  uncompressed : Bool := false
  serverName : Option String := none
  user : UserEntry := {}
  /-- The cluster of which the program of the user is to be told. -/
  told : Option ClusterEntry := none
  deriving DecidableEq, Repr, Inhabited

namespace Kubeconfig

/-- The cluster and the user of a context, or of the context in use. A user without an entry has
no credentials. -/
def choice? (k : Kubeconfig) (context : Option String) : Option (ClusterEntry × UserEntry) := do
  let name ← context.or k.currentContext
  let context ← Named.first? name k.contexts
  let cluster ← Named.first? context.cluster k.clusters
  let user := (context.user.bind fun name => Named.first? name k.users).getD {}
  some (cluster, user)

/-- A text whose last line is ended. -/
def lineEnded (bytes : Bytes) : Bytes :=
  if bytes.getLast?.all (· == 10) then bytes else bytes ++ [10]

/-- What is given in base 64 or else stands in a file. -/
def material? (files : Files) (data file : Option String) : Option Bytes :=
  match data, file with
  | some data, _ => (Text.Base64.decode? data.toList).map lineEnded
  | none, some file => (files.read (Text.encode file)).toOption.map lineEnded
  | none, none => none

/-- The authorities of a cluster, if it has some of its own. -/
def authorities? (certificates? : Bytes → Option (List Bytes)) (files : Files) (c : ClusterEntry) :
    Option (Option (List Bytes)) :=
  if c.authorityData = none ∧ c.authorityFile = none then some none
  else ((material? files c.authorityData c.authorityFile).bind certificates?).map some

/-- The address of a server, if it is well formed. -/
def target? (address : String) : Option Target := (Target.read address).toOption

/-- The proxy that a cluster or a variable asks for; an empty one is none. -/
def proxyText? (env : Environment) (c : ClusterEntry) : Option String :=
  ((c.proxy.filter (· ≠ "")).or ((env.text? "HTTP_PROXY").filter (· ≠ ""))).or
    ((env.text? "HTTPS_PROXY").filter (· ≠ ""))

def proxy? (env : Environment) (c : ClusterEntry) : Option (Option Target) :=
  match proxyText? env c with
  | some address => (target? address).map some
  | none => some none

def config? (certificates? : Bytes → Option (List Bytes)) (env : Environment) (k : Kubeconfig)
    (context : Option String) : Option ClusterConfig := do
  let (cluster, user) ← k.choice? context
  let server ← target? (← cluster.server)
  let authorities ← authorities? certificates? env.files cluster
  let proxy ← proxy? env cluster
  some {
    server
    authorities
    insecure := cluster.insecure.getD false
    proxy
    uncompressed := cluster.uncompressed.getD false
    serverName := cluster.serverName
    user
    told := user.program.bind fun p => if p.informed then some cluster else none }

end Kubeconfig

end PullSecrets
