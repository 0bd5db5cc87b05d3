import PullSecrets.Object.Meta

/-!
# Label selectors
-/

namespace PullSecrets

/-- A condition on one label. -/
structure LabelRequirement where
  key : String := ""
  operator : String := ""
  values : Option (List String) := none
  deriving DecidableEq, Inhabited

/-- Conditions on labels: exact values, and others in a list. -/
structure LabelSelector where
  matchExpressions : Option (List LabelRequirement) := none
  matchLabels : Option (SortedMap String String) := none
  deriving DecidableEq, Inhabited

namespace LabelRequirement

/-- The JSON form; key and operator are always written. -/
def toJson (r : LabelRequirement) : Json :=
  .object <| Json.present [("key", some (.string r.key)), ("operator", some (.string r.operator)),
    ("values", r.values.map Json.ofTexts)]

/-- The condition that a JSON tree describes; a missing text is empty. -/
def ofSource? (s : Source) : Option LabelRequirement := do
  let ms ← s.loose?
  some {
    key := (← Source.last? Source.text? ms "key").getD ""
    operator := (← Source.last? Source.text? ms "operator").getD ""
    values := ← Source.last? (Source.list? Source.text?) ms "values" }

end LabelRequirement

namespace LabelSelector

def toJson (s : LabelSelector) : Json :=
  .object <| Json.present [
    ("matchExpressions", s.matchExpressions.map fun rs => .array (rs.map LabelRequirement.toJson)),
    ("matchLabels", s.matchLabels.map SortedMap.toJson)]

def ofSource? (s : Source) : Option LabelSelector := do
  let ms ← s.loose?
  some {
    matchExpressions := ← Source.last? (Source.list? LabelRequirement.ofSource?) ms "matchExpressions"
    matchLabels := ← Source.last? (Source.map? Source.text?) ms "matchLabels" }

/-- The label that a form shows for the selector: the first exact one, else the first condition. -/
def label (s : LabelSelector) : String :=
  match s.matchLabels.bind fun m => m.keys.head? with
  | some key => key
  | none =>
    match s.matchExpressions.bind List.head? with
    | some r => r.key
    | none => "unknown"

end LabelSelector

end PullSecrets
