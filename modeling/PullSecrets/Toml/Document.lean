import PullSecrets.Text.Utf8
import PullSecrets.Toml.Basic
import PullSecrets.Toml.Lexical
import PullSecrets.Toml.Scalar

/-!
# TOML documents

A document is read line by line: headers say which table the following keys belong to. Values are
read with a bound on the number of steps that the length of the text always meets.
-/

namespace PullSecrets.Toml

/-- A value for a dotted key: the path to a table, the last part of the key, and the value. -/
structure Assignment where
  path : List String
  key : String
  value : Toml
  deriving Repr, Inhabited

def Assignment.change (a : Assignment) : Change := assign a.path a.key a.value

/-- The table of some assignments between braces. -/
def inlineTable? (assignments : List Assignment) : Option Toml :=
  (assignments.foldlM (fun es (a : Assignment) => (a.change .inline es).map (·.2)) []).map (.table .inline)

mutual

/-- A value, in at most so many steps, when `room` more containers may be opened. -/
def readValue : Nat → Nat → List Char → Option (Toml × List Char)
  | 0, _, _ => none
  | n + 1, room, cs =>
    match cs with
    | '"' :: _ | '\'' :: _ => (readString cs).map fun (s, rest) => (.string s, rest)
    | '[' :: rest => if room = 0 then none else readItems n (room - 1) [] rest
    | '\x7b' :: rest =>
      if room = 0 then none
      else
        match skipBlanks rest with
        | '\x7d' :: rest => some (.table .inline [], rest)
        | rest => readAssignments n (room - 1) [] rest
    | 't' :: 'r' :: 'u' :: 'e' :: rest => some (.boolean true, rest)
    | 'f' :: 'a' :: 'l' :: 's' :: 'e' :: rest => some (.boolean false, rest)
    | cs => readNumeric? cs

/-- The items of an array after some in reverse, up to the closing bracket. -/
def readItems : Nat → Nat → List Toml → List Char → Option (Toml × List Char)
  | 0, _, _, _ => none
  | n + 1, room, before, cs =>
    match skipLines false cs with
    | ']' :: rest => some (.array before.reverse, rest)
    | cs =>
      match readValue n room cs with
      | none => none
      | some (v, rest) =>
        match skipLines false rest with
        | ',' :: rest => readItems n room (v :: before) rest
        | ']' :: rest => some (.array (v :: before).reverse, rest)
        | _ => none

/-- The assignments of a table between braces after some in reverse, up to the closing brace. -/
def readAssignments : Nat → Nat → List Assignment → List Char → Option (Toml × List Char)
  | 0, _, _, _ => none
  | n + 1, room, before, cs =>
    match readKeyPath cs with
    | some (path, key, '=' :: rest) =>
      match readValue n room (skipBlanks rest) with
      | none => none
      | some (v, rest) =>
        let assignments := ⟨path, key, v⟩ :: before
        match skipBlanks rest with
        | ',' :: rest => readAssignments n room assignments rest
        | '\x7d' :: rest => (inlineTable? assignments.reverse).map fun t => (t, rest)
        | _ => none
    | _ => none

end

/-- A line that gives a key its value, in at most so many steps, and the text after the line. -/
def readAssignment? (n : Nat) (cs : List Char) : Option (Assignment × List Char) :=
  match readKeyPath cs with
  | some (path, key, '=' :: rest) =>
    match readValue n depthLimit (skipBlanks rest) with
    | some (v, rest) => (finishLine? rest).map fun rest => (⟨path, key, v⟩, rest)
    | none => none
  | _ => none

/-- The entries of the root table of a document, in at most so many steps, given the entries so
far and the path of the table that keys belong to. -/
def readLines : Nat → Entries → List String → List Char → Option Entries
  | 0, _, _, _ => none
  | n + 1, root, current, cs =>
    match skipBlanks cs with
    | [] => some root
    | '#' :: rest =>
      match lineEnd? (rest.dropWhile isPlain) with
      | some rest => readLines n root current rest
      | none => none
    | '\n' :: rest => readLines n root current rest
    | '\r' :: '\n' :: rest => readLines n root current rest
    | '[' :: '[' :: rest =>
      match readKeyPath rest with
      | some (path, key, ']' :: ']' :: rest) =>
        match finishLine? rest, changeAt false (openElement key) path .header root with
        | some rest, some (_, root) => readLines n root (path ++ [key]) rest
        | _, _ => none
      | _ => none
    | '[' :: rest =>
      match readKeyPath rest with
      | some (path, key, ']' :: rest) =>
        match finishLine? rest, changeAt false (openTable key) path .header root with
        | some rest, some (_, root) => readLines n root (path ++ [key]) rest
        | _, _ => none
      | _ => none
    | cs =>
      match readAssignment? n cs with
      | some (a, rest) =>
        match changeAt false a.change current .header root with
        | some (_, root) => readLines n root current rest
        | none => none
      | none => none

def read? (text : String) : Option Entries :=
  let cs := Text.withoutMark text.toList
  readLines (2 * cs.length + 2) [] [] cs

abbrev Fields := String → Option Toml

/-- The fields of a record: a table, or an array of its fields in order, of which those beyond the
last are passed over. A point in time has no fields. -/
def record? (names : List String) : Toml → Option Fields
  | .table _ es => some fun name => entry? name es
  | .array items => some fun name => if name ∈ names then items[names.idxOf name]? else none
  | .time => some fun _ => none
  | _ => none

def text? : Toml → Option String
  | .string s => some s
  | _ => none

def bool? : Toml → Option Bool
  | .boolean b => some b
  | _ => none

def uint16? : Toml → Option UInt16
  | .integer n => if 0 ≤ n ∧ n < UInt16.size then some (UInt16.ofNat n.toNat) else none
  | _ => none

/-- The value of a field, or another one if the field is missing. -/
def fieldOr {α : Type} (decode : Toml → Option α) (fields : Fields) (name : String) (other : α) :
    Option α :=
  match fields name with
  | some v => decode v
  | none => some other

def field? {α : Type} (decode : Toml → Option α) (fields : Fields) (name : String) :
    Option (Option α) :=
  match fields name with
  | some v => (decode v).map some
  | none => some none

end PullSecrets.Toml
