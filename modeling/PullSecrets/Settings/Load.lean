import PullSecrets.Files
import PullSecrets.Settings.Basic
import PullSecrets.Text.Quoted
import PullSecrets.Toml.Document

/-!
# Loading settings

Settings come from one file, the first that exists of a few, and from variables, which win. What
neither sets has its default.
-/

namespace PullSecrets

/-- Why there are no settings. -/
inductive SettingsError where
  /-- A file that is there cannot be read. -/
  | unreadable (path : String) (fault : FileFault)
  /-- A file is no TOML document, or a setting in it has a value of the wrong kind. -/
  | malformed
  | unusable (fault : SettingsFault)
  deriving DecidableEq, Repr, Inhabited

def SettingsError.message : SettingsError → String
  | .unreadable path fault =>
    "Failed to read config file " ++ Text.quoted path ++ ": " ++ fault.message
  | .malformed => "Failed to parse config"
  | .unusable fault => "Config validation failed: " ++ fault.message

namespace Settings

def serverOf? (v : Toml) : Option ServerSettings := do
  let fields ← v.record? ["host", "port"]
  let base : ServerSettings := {}
  some {
    host := ← Toml.fieldOr Toml.text? fields "host" base.host
    port := ← Toml.fieldOr Toml.uint16? fields "port" base.port }

def accessOf? (v : Toml) : Option AccessSettings := do
  let fields ← v.record? ["disable_auth", "userid_header", "userid_prefix"]
  let base : AccessSettings := {}
  some {
    disabled := ← Toml.fieldOr Toml.bool? fields "disable_auth" base.disabled
    userHeader := ← Toml.fieldOr Toml.text? fields "userid_header" base.userHeader
    userPrefix := ← Toml.fieldOr Toml.text? fields "userid_prefix" base.userPrefix }

def clusterOf? (v : Toml) : Option ClusterSettings := do
  let fields ← v.record? ["kubeconfig", "context"]
  some {
    kubeconfig := ← Toml.field? Toml.text? fields "kubeconfig"
    context := ← Toml.field? Toml.text? fields "context" }

def logOf? (v : Toml) : Option LogSettings := do
  let fields ← v.record? ["level", "json", "log_dir"]
  let base : LogSettings := {}
  some {
    level := ← Toml.fieldOr Toml.text? fields "level" base.level
    json := ← Toml.fieldOr Toml.bool? fields "json" base.json
    directory := ← Toml.field? Toml.text? fields "log_dir" }

/-- The settings in the root table of a document; other keys are passed over. -/
def ofEntries? (es : Toml.Entries) : Option Settings := do
  let fields : Toml.Fields := fun name => Toml.entry? name es
  some {
    server := ← Toml.fieldOr serverOf? fields "server" {}
    access := ← Toml.fieldOr accessOf? fields "auth" {}
    cluster := ← Toml.fieldOr clusterOf? fields "kubernetes" {}
    log := ← Toml.fieldOr logOf? fields "logging" {} }

def ofToml (document : String) : Except SettingsError Settings :=
  match (Toml.read? document).bind ofEntries? with
  | some s => .ok s
  | none => .error .malformed

/-- The settings in a file; no variable overrides them. -/
def ofFile (files : Files) (path : String) : Except SettingsError Settings :=
  match files.readText (Text.encode path) with
  | .ok document => ofToml document
  | .error fault => .error (.unreadable path fault)

/-- The files in which settings are looked for, in order. -/
def candidates (env : Environment) : List String :=
  (env.text? "KUBEDASH_CONFIG").toList ++ ["/etc/kubedash/config.toml", "./kubedash.toml"]

/-- The file that settings are read from: the first that exists. -/
def file? (env : Environment) : Option String :=
  (candidates env).find? fun path => env.files.contains (Text.encode path)

/-- The settings from the file and the variables of an environment. -/
def load (env : Environment) : Except SettingsError Settings :=
  match file? env with
  | some path => (ofFile env.files path).map fun s => s.overridden env.text?
  | none => .ok (({} : Settings).overridden env.text?)

def usable (s : Settings) : Except SettingsError Settings :=
  match s.fault? with
  | some fault => .error (.unusable fault)
  | none => .ok s

end Settings

end PullSecrets
