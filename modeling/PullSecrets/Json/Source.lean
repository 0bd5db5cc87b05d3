import PullSecrets.Json.Literal

/-!
# JSON texts as read

A `Source` is the tree of a JSON text before its parts are given values: number literals are still
digits, objects keep repeated members, and a string that names half of a surrogate pair has no
content. What is skipped is checked only this far; what is used becomes a `Json` value by
`Json.ofSource?`, which also bounds the nesting.
-/

namespace PullSecrets

/-- The tree of a JSON text. -/
inductive Source where
  | null
  | bool (b : Bool)
  | number (l : Literal)
  | string (content : Option String)
  | array (items : List Source)
  | object (members : List (Option String × Source))
  deriving Repr, Inhabited

/-- The number of containers that may be open at once in a value that is used. -/
def Source.nestingLimit : Nat := 127

namespace Json

/-- Members with a name put in its place by code point; a member already there stays. -/
def placeMember (key : String) (value : Json) : List (String × Json) → List (String × Json)
  | [] => [(key, value)]
  | (k, v) :: rest =>
    match compare key k with
    | .lt => (key, value) :: (k, v) :: rest
    | .eq => (k, v) :: rest
    | .gt => (k, v) :: placeMember key value rest

/-- Members sorted by name; of several with one name, the last. -/
def sortMembers (ms : List (String × Json)) : List (String × Json) :=
  ms.foldr (fun (k, v) sorted => placeMember k v sorted) []

mutual

/-- The value of a tree when `room` more containers may be opened. -/
def ofSource? (room : Nat) : Source → Option Json
  | .null => some .null
  | .bool b => some (.bool b)
  | .number l => l.value?.map .number
  | .string content => content.map .string
  | .array items => if room = 0 then none else (itemsOfSource? (room - 1) items).map .array
  | .object members =>
    if room = 0 then none
    else (membersOfSource? (room - 1) members).map fun ms => .object (sortMembers ms)

def itemsOfSource? (room : Nat) : List Source → Option (List Json)
  | [] => some []
  | s :: rest =>
    match ofSource? room s with
    | some j => (itemsOfSource? room rest).map (j :: ·)
    | none => none

def membersOfSource? (room : Nat) : List (Option String × Source) → Option (List (String × Json))
  | [] => some []
  | (none, _) :: _ => none
  | (some key, s) :: rest =>
    match ofSource? room s with
    | some j => (membersOfSource? room rest).map ((key, j) :: ·)
    | none => none

end

end Json

end PullSecrets
