import PullSecrets.Text.Utf8

/-!
# Files

A tree of files and directories, and how paths lead through it. Paths and names are bytes; a path
that does not start with a slash starts in the working directory.
-/

namespace PullSecrets

/-- What stands at a place in a tree. -/
inductive FileEntry where
  | file (content : Bytes)
  | directory (entries : List (Bytes × FileEntry))
  deriving Repr, Inhabited

inductive FileFault where
  | notFound
  | notDirectory
  | isDirectory
  | nameTooLong
  | nullByte
  | notText
  deriving DecidableEq, Repr, Inhabited

def FileFault.message : FileFault → String
  | .notFound => "No such file or directory (os error 2)"
  | .notDirectory => "Not a directory (os error 20)"
  | .isDirectory => "Is a directory (os error 21)"
  | .nameTooLong => "File name too long (os error 36)"
  | .nullByte => "file name contained an unexpected NUL byte"
  | .notText => "stream did not contain valid UTF-8"

namespace FileEntry

def nameLimit : Nat := 255

def lookup? (name : Bytes) : List (Bytes × FileEntry) → Option FileEntry
  | [] => none
  | (n, e) :: rest => if n = name then some e else lookup? name rest

def setEntry (name : Bytes) (entry : FileEntry) :
    List (Bytes × FileEntry) → List (Bytes × FileEntry)
  | [] => [(name, entry)]
  | (n, e) :: rest => if n = name then (n, entry) :: rest else (n, e) :: setEntry name entry rest

/-- The tree with an entry at the end of a path, and directories on the way. -/
def put (entry : FileEntry) : List Bytes → FileEntry → FileEntry
  | [], _ => entry
  | name :: path, .directory es =>
    .directory (setEntry name (put entry path ((lookup? name es).getD (.directory []))) es)
  | name :: path, .file _ => .directory [(name, put entry path (.directory []))]

/-- The entry at the end of a path from an entry with some directories above it, the nearest
first. One dot stays where it is, and two dots lead up. -/
def walk (above : List FileEntry) (here : FileEntry) : List Bytes → Except FileFault FileEntry
  | [] => .ok here
  | name :: path =>
    match here with
    | .file _ => .error .notDirectory
    | .directory es =>
      if name = [] ∨ name = [46] then walk above here path
      else if name = [46, 46] then
        match above with
        | [] => walk [] here path
        | parent :: above => walk above parent path
      else if nameLimit < name.length then .error .nameTooLong
      else
        match lookup? name es with
        | some entry => walk (here :: above) entry path
        | none => .error .notFound

end FileEntry

/-- A tree, and the working directory in it. -/
structure Files where
  root : FileEntry := .directory []
  workingDirectory : List Bytes := []
  deriving Inhabited

namespace Files

def pathLimit : Nat := 4095

/-- The names in a path after some in reverse, the last of which is still growing. -/
def namesOnto (before : List Bytes) (current : Bytes) : Bytes → List Bytes
  | [] => (current.reverse :: before).reverse
  | 47 :: rest => namesOnto (current.reverse :: before) [] rest
  | b :: rest => namesOnto before (b :: current) rest

def names (path : Bytes) : List Bytes := namesOnto [] [] path

/-- The names from the root to where a path starts. -/
def start (files : Files) (path : Bytes) : List Bytes :=
  if path.head? = some 47 then [] else files.workingDirectory

/-- The tree with an entry at the end of a path that does not lead up. -/
def add (files : Files) (path : Bytes) (entry : FileEntry) : Files :=
  let steps := (names path).filter fun name => name ≠ [] ∧ name ≠ [46]
  { files with root := FileEntry.put entry (files.start path ++ steps) files.root }

def entry (files : Files) (path : Bytes) : Except FileFault FileEntry :=
  if path = [] then .error .notFound
  else if path.contains 0 then .error .nullByte
  else if pathLimit < path.length then .error .nameTooLong
  else FileEntry.walk [] files.root (files.start path ++ names path)

def contains (files : Files) (path : Bytes) : Bool := (files.entry path).toBool

def read (files : Files) (path : Bytes) : Except FileFault Bytes :=
  match files.entry path with
  | .ok (.file content) => .ok content
  | .ok (.directory _) => .error .isDirectory
  | .error fault => .error fault

def readText (files : Files) (path : Bytes) : Except FileFault String :=
  match files.read path with
  | .ok content =>
    match Text.decode? content with
    | some s => .ok s
    | none => .error .notText
  | .error fault => .error fault

end Files

/-- What a process finds around it: variables and files. -/
structure Environment where
  vars : List (String × Bytes) := []
  files : Files := {}
  deriving Inhabited

namespace Environment

def bytes? (env : Environment) (name : String) : Option Bytes := env.vars.lookup name

/-- The value of a variable, if it is text. -/
def text? (env : Environment) (name : String) : Option String :=
  (env.bytes? name).bind Text.decode?

end Environment

end PullSecrets
