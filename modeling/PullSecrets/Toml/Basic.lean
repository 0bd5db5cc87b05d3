/-!
# TOML values

A table remembers how it came about, because that decides what may still be added to it. Numbers
with a fraction and points in time are told apart from other values, but their value is not kept:
no setting has such a value.
-/

namespace PullSecrets

/-- How a table came about. -/
inductive TableKind where
  /-- By a header of its own; the root counts as such. -/
  | header
  /-- Only because a header names a table below it. -/
  | passed
  /-- By a dotted key. -/
  | dotted
  /-- As a value between braces. -/
  | inline
  deriving DecidableEq, Repr, Inhabited

inductive Toml where
  | string (s : String)
  | integer (n : Int)
  | float
  | boolean (b : Bool)
  | time
  | array (items : List Toml)
  | table (kind : TableKind) (entries : List (String × Toml))
  /-- Tables under one header, each with entries of its own. -/
  | tables (elements : List (List (String × Toml)))
  deriving Repr, Inhabited

namespace Toml

abbrev Entries := List (String × Toml)

def entry? (key : String) : Entries → Option Toml
  | [] => none
  | (k, v) :: rest => if k = key then some v else entry? key rest

def setEntry (key : String) (value : Toml) : Entries → Entries
  | [] => [(key, value)]
  | (k, v) :: rest => if k = key then (k, value) :: rest else (k, v) :: setEntry key value rest

/-- A change to a table: its kind and its entries. -/
abbrev Change := TableKind → Entries → Option (TableKind × Entries)

def changeLast (change : Entries → Option (TableKind × Entries)) :
    List Entries → Option (List Entries)
  | [] => none
  | [es] => (change es).map fun (_, es) => [es]
  | es :: rest => (changeLast change rest).map (es :: ·)

/-- Changes the table at the end of a path; tables on the way that are missing are created. Of
tables under one header the path leads into the last. A dotted path never enters a table that has
a header of its own or stands between braces, and no path leads into another value. -/
def changeAt (isDotted : Bool) (change : Change) : List String → Change
  | [], kind, es => change kind es
  | key :: path, kind, es =>
    let fresh : TableKind := if isDotted then .dotted else .passed
    match entry? key es with
    | none =>
      (changeAt isDotted change path fresh []).map fun (k, sub) =>
        (kind, setEntry key (.table k sub) es)
    | some (.table .inline _) => none
    | some (.table k sub) =>
      if isDotted && k == .header then none
      else
        (changeAt isDotted change path k sub).map fun (k, sub) =>
          (kind, setEntry key (.table k sub) es)
    | some (.tables elements) =>
      (changeLast (changeAt isDotted change path .header) elements).map fun elements =>
        (kind, setEntry key (.tables elements) es)
    | some _ => none

/-- Gives a new key its value. A key without dots goes into a table that no dotted key created, and
one with dots into a table that dotted keys created. -/
def addEntry (isDotted : Bool) (key : String) (value : Toml) : Change := fun kind es =>
  if (kind == .dotted) != isDotted then none
  else
    match entry? key es with
    | some _ => none
    | none => some (kind, setEntry key value es)

/-- Gives a dotted key its value, below a table. -/
def assign (path : List String) (key : String) (value : Toml) : Change :=
  changeAt true (addEntry (!path.isEmpty) key value) path

/-- Gives a table a header: a new one, or one that was only passed so far. -/
def openTable (key : String) : Change := fun kind es =>
  match entry? key es with
  | none => some (kind, setEntry key (.table .header []) es)
  | some (.table .passed sub) => some (kind, setEntry key (.table .header sub) es)
  | some _ => none

/-- Adds one more table under a header that is there for several. -/
def openElement (key : String) : Change := fun kind es =>
  match entry? key es with
  | none => some (kind, setEntry key (.tables [[]]) es)
  | some (.tables elements) => some (kind, setEntry key (.tables (elements ++ [[]])) es)
  | some _ => none

end Toml

end PullSecrets
