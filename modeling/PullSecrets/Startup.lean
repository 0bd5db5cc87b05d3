import PullSecrets.Kubeconfig.Workstation
import PullSecrets.LogFilter
import PullSecrets.Settings.Load

/-!
# Starting and stopping

Before any request is accepted the settings are loaded and checked, the log is set up, and the
cluster is chosen; the first of these that fails ends the start. Nothing is logged before the
settings are known to be usable.
-/

namespace PullSecrets

inductive StartError where
  | settings (e : SettingsError)
  | cluster (e : ConnectError)
  deriving DecidableEq, Repr, Inhabited

def StartError.message : StartError → String
  | .settings e => e.message
  | .cluster e => e.toClusterError.message

/-- A service that is ready to accept requests. -/
structure Service where
  settings : Settings
  connection : Connection
  deriving DecidableEq, Repr, Inhabited

inductive StopSignal where
  | terminate
  | interrupt
  deriving DecidableEq, Repr, Inhabited

def StopSignal.name : StopSignal → String
  | .terminate => "SIGTERM"
  | .interrupt => "SIGINT"

namespace Service

/-- The filter of the log: a variable wins over the settings if it makes a filter. -/
def logFilter (env : Environment) (s : LogSettings) : LogFilter :=
  ((env.text? "RUST_LOG").bind LogFilter.read?).getD (LogFilter.readLoosely s.level)

/-- What is logged as soon as the settings are known. -/
def announcements (s : Settings) : List LogEvent :=
  [.loggingReady s.log.level s.log.json] ++
    (if s.access.disabled then [.authorizationDisabled] else []) ++
    [.userHeaderChosen s.access.userHeader s.access.userPrefix]

/-- The settings that the service starts with. -/
def settings? (env : Environment) : Except SettingsError Settings :=
  match Settings.load env with
  | .ok s => s.usable
  | .error e => .error e

def variableNames : List String :=
  ["KUBEDASH_CONFIG", "KUBEDASH_HOST", "KUBEDASH_PORT", "APP_DISABLE_AUTH", "USERID_HEADER",
    "USERID_PREFIX", "KUBECONFIG_PATH", "KUBE_CONTEXT", "KUBEDASH_LOG_LEVEL", "KUBEDASH_LOG_JSON",
    "KUBEDASH_LOG_DIR", "RUST_LOG", "KUBECONFIG", "HOME", "HTTP_PROXY", "HTTPS_PROXY"]

/-- The files that a start looks at, as far as the files known so far tell. -/
def paths (env : Environment) : List Bytes :=
  let candidates := (Settings.candidates env).map Text.encode
  match Settings.load env with
  | .error _ => candidates
  | .ok s =>
    let kubeconfigs := match s.cluster.kubeconfig with
      | some path => [Text.encode path]
      | none => Kubeconfig.usualPaths none env
    let files := (kubeconfigs.filterMap (Kubeconfig.ofFile? env.files)).flatMap Kubeconfig.files
    candidates ++ kubeconfigs ++ files.map Text.encode

/-- Starts the service: what is logged on the way, and the outcome. -/
def start (env : Environment) : List LogEvent × Except StartError Service :=
  match settings? env with
  | .error e => ([], .error (.settings e))
  | .ok s =>
    match Connection.ofSettings env s.cluster with
    | .error e => (announcements s, .error (.cluster e))
    | .ok c => (announcements s ++ [.clusterChosen c.apiServer], .ok ⟨s, c⟩)

def stopping (signal : StopSignal) : List LogEvent :=
  [.signalReceived signal.name, .shutdownStarted]

end Service

end PullSecrets
