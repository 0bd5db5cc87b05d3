import PullSecrets.Log
import PullSecrets.Text.Utf8

/-!
# Log filters

A filter is a list of directives, separated by commas. A directive is a level, a level for events
whose source starts in some way, or such a start alone, which lets everything through. Of the
directives that apply to an event, the one with the longest start decides.
-/

namespace PullSecrets

/-- The least level that a directive lets through, and the events that it is about. -/
structure LogDirective where
  source : String := ""
  /-- Nothing is let through if there is no level. -/
  level : Option LogLevel
  deriving DecidableEq, Repr, Inhabited

structure LogFilter where
  directives : List LogDirective
  deriving DecidableEq, Repr, Inhabited

namespace LogDirective

/-- The names of levels, and the numbers that stand for them. -/
def levelNames : List (String × Option LogLevel) :=
  [("off", none), ("error", some .error), ("warn", some .warn), ("info", some .info),
    ("debug", some .debug), ("trace", some .trace), ("0", none), ("1", some .error),
    ("2", some .warn), ("3", some .info), ("4", some .debug), ("5", some .trace)]

/-- The level of a name, in capitals or small letters. -/
def level? (s : String) : Option (Option LogLevel) := levelNames.lookup (Text.lowerAscii s)

/-- Whether a text may be the start of a source. -/
def isSource (s : String) : Bool :=
  !s.toList.isEmpty && s.toList.all fun c => c.isAlphanum || c == '_' || c == ':' || c == '-'

def read? (s : String) : Option LogDirective :=
  match s.splitOn "=" with
  | [word] =>
    match level? word with
    | some level => some { level }
    | none => if isSource word then some { source := word, level := some .trace } else none
  | [source, word] =>
    if !isSource source then none
    else if word = "" then some { source, level := some .trace }
    else (level? word).map fun level => { source, level }
  | _ => none

def isAbout (d : LogDirective) (source : String) : Bool := source.startsWith d.source

def passes (d : LogDirective) (level : LogLevel) : Bool :=
  match d.level with
  | some least => least.rank ≤ level.rank
  | none => false

end LogDirective

namespace LogFilter

/-- The source of the events of the service. -/
def source : String := "kubedash_api"

def parts (s : String) : List String := (s.splitOn ",").filter (· ≠ "")

/-- The filter of some directives; without any, only errors are let through. -/
def ofDirectives (ds : List LogDirective) : LogFilter :=
  ⟨if ds.isEmpty then [{ level := some .error }] else ds⟩

/-- The filter that a text makes, if every part of it is a directive. -/
def read? (s : String) : Option LogFilter := ((parts s).mapM LogDirective.read?).map ofDirectives

/-- The filter that a text makes when parts that are no directives are passed over. -/
def readLoosely (s : String) : LogFilter := ofDirectives ((parts s).filterMap LogDirective.read?)

/-- The more telling of two directives; of two alike the later. -/
def stronger (best : Option LogDirective) (d : LogDirective) : Option LogDirective :=
  match best with
  | some b => if d.source.length < b.source.length then best else some d
  | none => some d

/-- The directive that decides about the events of the service. -/
def decisive? (f : LogFilter) : Option LogDirective :=
  (f.directives.filter fun d => d.isAbout source).foldl stronger none

def allows (f : LogFilter) (e : LogEvent) : Bool :=
  match f.decisive? with
  | some d => d.passes e.level
  | none => false

end LogFilter

end PullSecrets
