import PullSecrets.Json.Decode

/-!
# Shapes of records

Members of a loose record that are not used are still checked: a *shape* says for some names what
their values have to look like.
-/

namespace PullSecrets.Source

/-- What the values of some members have to look like. -/
abbrev Shape := List (String × (Source → Bool))

/-- Whether a tree is a loose record whose members have a shape; `null` stands for a missing
member. -/
def hasShape (shape : Shape) (s : Source) : Bool :=
  match s.loose? with
  | none => false
  | some ms => ms.all fun (key, v) =>
    match shape.lookup key, v with
    | none, _ => true
    | some _, .null => true
    | some isFit, v => isFit v

def isText (s : Source) : Bool := s.text?.isSome

def isBool (s : Source) : Bool := s.bool?.isSome

def isInt64 (s : Source) : Bool := s.int64?.isSome

def isTexts (s : Source) : Bool := (s.list? text?).isSome

def isListOf (shape : Shape) : Source → Bool
  | .array items => items.all (hasShape shape)
  | _ => false

end PullSecrets.Source
