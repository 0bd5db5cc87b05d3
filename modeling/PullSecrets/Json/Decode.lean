import PullSecrets.Json.Source
import PullSecrets.SortedMap

/-!
# Decoding records

Two kinds of record are read from JSON texts. A *strict* record names each of its fields at most
once and may also be given as an array of its fields in order. A *loose* record, the kind that the
cluster's own objects are, is always an object, takes `null` for a missing field, and lets the last
of several members with one name count. Both ignore members with other names.
-/

namespace PullSecrets.Source

/-- The members of an object, if every name is a text. -/
def named? : List (Option String × Source) → Option (List (String × Source))
  | [] => some []
  | (none, _) :: _ => none
  | (some key, s) :: rest => (named? rest).map ((key, s) :: ·)

abbrev Fields := String → Option Source

def occurrences (name : String) (ms : List (String × Source)) : Nat :=
  ms.countP fun m => m.1 == name

def firstNamed? (ms : List (String × Source)) : Fields := fun name =>
  (ms.find? fun m => m.1 == name).map (·.2)

def itemNamed? (names : List String) (items : List Source) : Fields := fun name =>
  if name ∈ names then items[names.idxOf name]? else none

def record? (names : List String) : Source → Option Fields
  | .object members =>
    match named? members with
    | some ms => if names.all fun name => occurrences name ms ≤ 1 then some (firstNamed? ms) else none
    | none => none
  | .array items => if items.length ≤ names.length then some (itemNamed? names items) else none
  | _ => none

def loose? : Source → Option (List (String × Source))
  | .object members => named? members
  | _ => none

def text? : Source → Option String
  | .string content => content
  | _ => none

def bool? : Source → Option Bool
  | .bool b => some b
  | _ => none

def int? (least greatest : Int) : Source → Option Int
  | .number l =>
    match l.int? with
    | some n => if least ≤ n ∧ n ≤ greatest then some n else none
    | none => none
  | _ => none

def uint16? (s : Source) : Option UInt16 := (s.int? 0 65535).map fun n => UInt16.ofNat n.toNat

def int64? : Source → Option Int := int? Int64.minValue.toInt Int64.maxValue.toInt

def nullable? {α : Type} (decode : Source → Option α) : Source → Option (Option α)
  | .null => some none
  | s => (decode s).map some

def itemsWith? {α : Type} (decode : Source → Option α) : List Source → Option (List α)
  | [] => some []
  | s :: rest =>
    match decode s with
    | some a => (itemsWith? decode rest).map (a :: ·)
    | none => none

def list? {α : Type} (decode : Source → Option α) : Source → Option (List α)
  | .array items => itemsWith? decode items
  | _ => none

def valuesWith? {α : Type} (decode : Source → Option α) :
    List (String × Source) → Option (List (String × α))
  | [] => some []
  | (key, s) :: rest =>
    match decode s with
    | some a => (valuesWith? decode rest).map ((key, a) :: ·)
    | none => none

/-- A map from texts; of two members with one name the later counts. -/
def map? {α : Type} (decode : Source → Option α) (s : Source) : Option (SortedMap String α) :=
  match s.loose? with
  | some ms => (valuesWith? decode ms).map SortedMap.ofList
  | none => none

/-- A field that a strict record must have. -/
def required? {α : Type} (decode : Source → Option α) (fields : Fields) (name : String) : Option α :=
  (fields name).bind decode

/-- A field that a strict record may leave out or set to `null`. -/
def optional? {α : Type} (decode : Source → Option α) (fields : Fields) (name : String) :
    Option (Option α) :=
  match fields name with
  | none => some none
  | some s => nullable? decode s

/-- The last value of a name in a loose record; every value given to the name must decode. -/
def last? {α : Type} (decode : Source → Option α) (ms : List (String × Source)) (name : String) :
    Option (Option α) :=
  match itemsWith? (nullable? decode) ((ms.filter fun m => m.1 == name).map (·.2)) with
  | some values => some (values.getLast?.join)
  | none => none

end PullSecrets.Source
