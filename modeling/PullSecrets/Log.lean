import PullSecrets.Access.Action
import PullSecrets.Cluster.Error

/-!
# The log

What is logged, as events of the domain. Each has a level, a message and fields.
-/

namespace PullSecrets

/-- How much an event matters. -/
inductive LogLevel where
  | trace
  | debug
  | info
  | warn
  | error
  deriving DecidableEq, Repr, Inhabited

namespace LogLevel

def name : LogLevel → String
  | .trace => "TRACE"
  | .debug => "DEBUG"
  | .info => "INFO"
  | .warn => "WARN"
  | .error => "ERROR"

def rank : LogLevel → Nat
  | .trace => 0
  | .debug => 1
  | .info => 2
  | .warn => 3
  | .error => 4

end LogLevel

inductive LogValue where
  | text (s : String)
  | flag (b : Bool)
  | count (n : Nat)
  deriving DecidableEq, Repr, Inhabited

/-- Something worth a line in the log. -/
inductive LogEvent where
  | userHeaderMissing (header : String)
  | userResolved (user header : String)
  | accessAllowed (user : String) (action : Action)
  | accessDenied (user : String) (action : Action)
  /-- The authorization engine gave no answer. -/
  | reviewFailed (user : String) (action : Action) (error : ClusterError)
  | secretCreated (ns secret : String)
  | secretDeleted (ns secret : String)
  /-- The registry PodDefault of a namespace was written, naming so many secrets. -/
  | podDefaultWritten (ns : String) (secrets : Nat)
  /-- A secret changed, but the registry PodDefault does not show it. -/
  | podDefaultStale (ns secret : String) (error : ClusterError)
  | podDefaultsListed (ns : String) (count : Nat)
  | bodyRejected
  /-- A request failed on this side. -/
  | internalFailure (message : String)
  /-- The API server is out of reach. -/
  | readinessFailed (error : ClusterError)
  /-- The log itself is set up. -/
  | loggingReady (level : String) (json : Bool)
  /-- Nobody will be asked whether a request is allowed. -/
  | authorizationDisabled
  /-- Where the user of a request is read from. -/
  | userHeaderChosen (header lead : String)
  /-- The cluster that calls will go to. -/
  | clusterChosen (apiServer : String)
  | listening (address : String)
  | signalReceived (signal : String)
  /-- No further requests are accepted. -/
  | shutdownStarted
  /-- All requests are answered. -/
  | serverStopped
  deriving DecidableEq, Repr, Inhabited

namespace LogEvent

def level : LogEvent → LogLevel
  | .userHeaderMissing _ | .userResolved .. | .accessAllowed .. | .podDefaultWritten ..
  | .bodyRejected => .debug
  | .accessDenied .. | .secretCreated .. | .secretDeleted .. | .podDefaultsListed ..
  | .loggingReady .. | .userHeaderChosen .. | .clusterChosen _ | .listening _
  | .signalReceived _ | .shutdownStarted | .serverStopped => .info
  | .podDefaultStale .. | .readinessFailed _ | .authorizationDisabled => .warn
  | .reviewFailed .. | .internalFailure _ => .error

def message : LogEvent → String
  | .userHeaderMissing _ => "User header not present"
  | .userResolved .. => "Resolved caller identity"
  | .accessAllowed .. => "Access allowed"
  | .accessDenied .. => "Access denied"
  | .reviewFailed .. => "Error during SubjectAccessReview"
  | .secretCreated .. => "Created registry secret"
  | .secretDeleted .. => "Deleted registry secret"
  | .podDefaultWritten .. => "Upserted registry PodDefault"
  | .podDefaultStale .. => "Secret change committed but PodDefault is stale"
  | .podDefaultsListed .. => "Found poddefaults"
  | .bodyRejected => "Rejected secret create body"
  | .internalFailure message => "Internal API error: " ++ message
  | .readinessFailed _ => "Readiness check failed"
  | .loggingReady .. => "Logging initialized"
  | .authorizationDisabled =>
    "Authorization is DISABLED: every request is allowed (APP_DISABLE_AUTH=true)"
  | .userHeaderChosen .. => "Reading caller identity from header"
  | .clusterChosen _ => "Connected Kubernetes client"
  | .listening address => "kubedash API listening on " ++ address
  | .signalReceived signal => "Received " ++ signal
  | .shutdownStarted => "Initiating graceful shutdown..."
  | .serverStopped => "Server stopped"

def fields : LogEvent → List (String × LogValue)
  | .userHeaderMissing header => [("header", .text header)]
  | .userResolved user header => [("user", .text user), ("header", .text header)]
  | .accessAllowed user action => [("user", .text user), ("action", .text action.text)]
  | .accessDenied user action => [("user", .text user), ("action", .text action.text)]
  | .reviewFailed user action error =>
    [("user", .text user), ("action", .text action.text), ("error", .text error.message)]
  | .secretCreated ns secret => [("namespace", .text ns), ("secret", .text secret)]
  | .secretDeleted ns secret => [("namespace", .text ns), ("secret", .text secret)]
  | .podDefaultWritten ns secrets => [("namespace", .text ns), ("secrets", .count secrets)]
  | .podDefaultStale ns secret error =>
    [("namespace", .text ns), ("secret", .text secret), ("error", .text error.message)]
  | .podDefaultsListed ns count => [("namespace", .text ns), ("count", .count count)]
  | .readinessFailed error => [("error", .text error.message)]
  | .loggingReady level json => [("level", .text level), ("json", .flag json)]
  | .userHeaderChosen header lead => [("header", .text header), ("prefix", .text lead)]
  | .clusterChosen apiServer => [("api_server", .text apiServer)]
  | _ => []

def fieldText : String × LogValue → String
  | (name, .text s) => " " ++ name ++ "=" ++ s
  | (name, .flag b) => " " ++ name ++ "=" ++ (if b then "true" else "false")
  | (name, .count n) => " " ++ name ++ "=" ++ toString n

def line (e : LogEvent) : String :=
  e.level.name ++ " " ++ e.message ++ String.join (e.fields.map fieldText)

end LogEvent

end PullSecrets
