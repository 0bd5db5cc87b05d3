import PullSecrets.Text.Hex

/-!
# Words of TOML

Blanks, comments, strings and keys. A reader gives back what it read and the characters after it.
-/

namespace PullSecrets.Toml

def isBlank (c : Char) : Bool := c == ' ' || c == '\t'

def skipBlanks (cs : List Char) : List Char := cs.dropWhile isBlank

/-- Whether a character may stand in a comment; quotes aside, the same may stand in strings. -/
def isPlain (c : Char) : Bool := c == '\t' || (0x20 ≤ c.toNat && c.toNat ≠ 0x7f)

def newline? : List Char → Option (List Char)
  | '\n' :: rest => some rest
  | '\r' :: '\n' :: rest => some rest
  | _ => none

/-- The text after the end of a line or at the end of the document. -/
def lineEnd? : List Char → Option (List Char)
  | [] => some []
  | cs => newline? cs

/-- The text after the rest of a line on which nothing but a comment follows. -/
def finishLine? (cs : List Char) : Option (List Char) :=
  match skipBlanks cs with
  | '#' :: rest => lineEnd? (rest.dropWhile isPlain)
  | rest => lineEnd? rest

/-- The text after blanks, line ends and comments; given whether a comment is open. -/
def skipLines (inComment : Bool) : List Char → List Char
  | [] => []
  | '\n' :: rest => skipLines false rest
  | '\r' :: '\n' :: rest => skipLines false rest
  | c :: rest =>
    if inComment then if isPlain c then skipLines true rest else c :: rest
    else if isBlank c then skipLines false rest
    else if c = '#' then skipLines true rest
    else c :: rest

def shortEscape? : Char → Option Char
  | '"' => some '"'
  | '\\' => some '\\'
  | 'b' => some '\x08'
  | 'f' => some '\x0c'
  | 'n' => some '\n'
  | 'r' => some '\r'
  | 't' => some '\t'
  | _ => none

def hexNumber? (cs : List Char) : Option Nat :=
  cs.foldlM (fun n c => (Text.hexValue? c.toNat).map (n * 16 + ·)) 0

def scalar? (cs : List Char) : Option Char :=
  match hexNumber? cs with
  | some n => if n.isValidChar then some (Char.ofNat n) else none
  | none => none

/-- The rest of a string after its opening quote, after characters gathered in reverse. -/
def readBasic (before : List Char) : List Char → Option (String × List Char)
  | '"' :: rest => some (String.ofList before.reverse, rest)
  | '\\' :: 'u' :: a :: b :: c :: d :: rest =>
    match scalar? [a, b, c, d] with
    | some x => readBasic (x :: before) rest
    | none => none
  | '\\' :: 'U' :: a :: b :: c :: d :: e :: f :: g :: h :: rest =>
    match scalar? [a, b, c, d, e, f, g, h] with
    | some x => readBasic (x :: before) rest
    | none => none
  | '\\' :: e :: rest =>
    match shortEscape? e with
    | some x => readBasic (x :: before) rest
    | none => none
  | c :: rest => if isPlain c && c != '\\' then readBasic (c :: before) rest else none
  | [] => none

/-- The rest of a string without escapes after its opening quote. -/
def readRaw (before : List Char) : List Char → Option (String × List Char)
  | '\'' :: rest => some (String.ofList before.reverse, rest)
  | c :: rest => if isPlain c then readRaw (c :: before) rest else none
  | [] => none

/-- The end of a string of several lines: up to two quotes may precede the three that close it. -/
def closeBlock (quote : Char) (before : List Char) (rest : List Char) : String × List Char :=
  match rest with
  | a :: b :: rest' =>
    if a = quote ∧ b = quote then (String.ofList (quote :: quote :: before).reverse, rest')
    else if a = quote then (String.ofList (quote :: before).reverse, b :: rest')
    else (String.ofList before.reverse, rest)
  | [a] =>
    if a = quote then (String.ofList (quote :: before).reverse, [])
    else (String.ofList before.reverse, rest)
  | [] => (String.ofList before.reverse, [])

/-- The rest of a string of several lines. A backslash at the end of a line takes away the blanks
and line ends up to the next character; `trimming` says that this is going on. -/
def readBlock (trimming : Bool) (before : List Char) : List Char → Option (String × List Char)
  | '"' :: '"' :: '"' :: rest => some (closeBlock '"' before rest)
  | '\\' :: 'u' :: a :: b :: c :: d :: rest =>
    match scalar? [a, b, c, d] with
    | some x => readBlock false (x :: before) rest
    | none => none
  | '\\' :: 'U' :: a :: b :: c :: d :: e :: f :: g :: h :: rest =>
    match scalar? [a, b, c, d, e, f, g, h] with
    | some x => readBlock false (x :: before) rest
    | none => none
  | '\\' :: e :: rest =>
    match newline? (skipBlanks (e :: rest)) with
    | some _ => readBlock true before (e :: rest)
    | none =>
      match shortEscape? e with
      | some x => readBlock false (x :: before) rest
      | none => none
  | '\r' :: '\n' :: rest => readBlock trimming (if trimming then before else '\n' :: before) rest
  | '\n' :: rest => readBlock trimming (if trimming then before else '\n' :: before) rest
  | c :: rest =>
    if trimming && isBlank c then readBlock true before rest
    else if isPlain c && c != '\\' then readBlock false (c :: before) rest
    else none
  | [] => none

/-- The rest of a string of several lines without escapes. -/
def readRawBlock (before : List Char) : List Char → Option (String × List Char)
  | '\'' :: '\'' :: '\'' :: rest => some (closeBlock '\'' before rest)
  | '\r' :: '\n' :: rest => readRawBlock ('\n' :: before) rest
  | '\n' :: rest => readRawBlock ('\n' :: before) rest
  | c :: rest => if isPlain c then readRawBlock (c :: before) rest else none
  | [] => none

/-- The text after a line end that a string of several lines may start with. -/
def skipFirstNewline (cs : List Char) : List Char := (newline? cs).getD cs

def readString : List Char → Option (String × List Char)
  | '"' :: '"' :: '"' :: rest => readBlock false [] (skipFirstNewline rest)
  | '"' :: rest => readBasic [] rest
  | '\'' :: '\'' :: '\'' :: rest => readRawBlock [] (skipFirstNewline rest)
  | '\'' :: rest => readRaw [] rest
  | _ => none

def isBareChar (c : Char) : Bool := c.isAlphanum || c == '-' || c == '_'

def readKey : List Char → Option (String × List Char)
  | '"' :: rest => readBasic [] rest
  | '\'' :: rest => readRaw [] rest
  | cs =>
    match cs.span isBareChar with
    | ([], _) => none
    | (name, rest) => some (String.ofList name, rest)

/-- The greatest number of parts in a key, and of containers within one another. -/
def depthLimit : Nat := 79

/-- The parts of a dotted key, in at most so many steps. -/
def readKeyParts : Nat → List Char → Option (List String × List Char)
  | 0, _ => none
  | n + 1, cs =>
    match readKey (skipBlanks cs) with
    | none => none
    | some (key, rest) =>
      match skipBlanks rest with
      | '.' :: rest => (readKeyParts n rest).map fun (keys, rest) => (key :: keys, rest)
      | rest => some ([key], rest)

/-- A dotted key: the path to a table, and the last part. -/
def readKeyPath (cs : List Char) : Option (List String × String × List Char) :=
  match readKeyParts depthLimit cs with
  | some (keys, rest) => keys.getLast?.map fun key => (keys.dropLast, key, rest)
  | none => none

end PullSecrets.Toml
