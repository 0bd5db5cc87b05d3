import PullSecrets.Access.Settings
import PullSecrets.Json.Basic
import PullSecrets.Text.Blank
import PullSecrets.Text.Utf8

/-!
# Settings

All that can be set, with its defaults, its JSON form, and the variables that override it. Every
setting has one variable and is overridden by that variable alone.
-/

namespace PullSecrets

/-- Where requests are accepted. -/
structure ServerSettings where
  host : String := "0.0.0.0"
  port : UInt16 := 8082
  deriving DecidableEq, Repr, Inhabited

/-- Which cluster is used: a file with cluster settings, and a context in it. -/
structure ClusterSettings where
  kubeconfig : Option String := none
  context : Option String := none
  deriving DecidableEq, Repr, Inhabited

/-- What is logged, and where to. -/
structure LogSettings where
  level : String := "info"
  /-- The log on the console is JSON. -/
  json : Bool := false
  /-- The directory of log files; without one there are none. -/
  directory : Option String := none
  deriving DecidableEq, Repr, Inhabited

structure Settings where
  server : ServerSettings := {}
  access : AccessSettings := {}
  cluster : ClusterSettings := {}
  log : LogSettings := {}
  deriving DecidableEq, Repr, Inhabited

/-- Why settings are not usable. -/
inductive SettingsFault where
  | noPort
  | noUserHeader
  deriving DecidableEq, Repr, Inhabited

def SettingsFault.message : SettingsFault → String
  | .noPort => "Port cannot be 0"
  | .noUserHeader => "User id header name cannot be empty"

namespace Settings

def textJson : Option String → Json
  | some s => .string s
  | none => .null

def toJson (s : Settings) : Json :=
  .object [
    ("server", .object [("host", .string s.server.host),
      ("port", Json.ofNat s.server.port.toNat)]),
    ("auth", .object [("disable_auth", .bool s.access.disabled),
      ("userid_header", .string s.access.userHeader),
      ("userid_prefix", .string s.access.userPrefix)]),
    ("kubernetes", .object [("kubeconfig", textJson s.cluster.kubeconfig),
      ("context", textJson s.cluster.context)]),
    ("logging", .object [("level", .string s.log.level), ("json", .bool s.log.json),
      ("log_dir", textJson s.log.directory)])]

/-- The number of a port: decimal digits, perhaps after a plus sign. -/
def port? (s : String) : Option UInt16 :=
  let digits := match s.toList with
    | '+' :: rest => rest
    | cs => cs
  if digits.isEmpty || !digits.all Char.isDigit then none
  else
    let n := digits.foldl (fun n c => min (n * 10 + (c.toNat - 48)) 65536) 0
    if n < 65536 then some (UInt16.ofNat n) else none

/-- What a variable says that is either true or not: only the word `true` is. -/
def truth (s : String) : Bool := Text.eqIgnoringCase s "true"

/-- The settings with those replaced that a variable is set for. A port that is no number is passed
over; any other value counts as it is. -/
def overridden (s : Settings) (value? : String → Option String) : Settings where
  server := {
    host := (value? "KUBEDASH_HOST").getD s.server.host
    port := ((value? "KUBEDASH_PORT").bind port?).getD s.server.port }
  access := {
    disabled := ((value? "APP_DISABLE_AUTH").map truth).getD s.access.disabled
    userHeader := (value? "USERID_HEADER").getD s.access.userHeader
    userPrefix := (value? "USERID_PREFIX").getD s.access.userPrefix }
  cluster := {
    kubeconfig := (value? "KUBECONFIG_PATH").or s.cluster.kubeconfig
    context := (value? "KUBE_CONTEXT").or s.cluster.context }
  log := {
    level := (value? "KUBEDASH_LOG_LEVEL").getD s.log.level
    json := ((value? "KUBEDASH_LOG_JSON").map truth).getD s.log.json
    directory := (value? "KUBEDASH_LOG_DIR").or s.log.directory }

def fault? (s : Settings) : Option SettingsFault :=
  if s.server.port = 0 then some .noPort
  else if Text.allBlank s.access.userHeader then some .noUserHeader
  else none

def address (s : Settings) : String := s.server.host ++ ":" ++ toString s.server.port.toNat

end Settings

end PullSecrets
