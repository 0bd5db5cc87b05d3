import PullSecrets.Json.Source
import PullSecrets.Text.Hex

/-!
# Reading JSON

The grammar of JSON over characters. A reader gives back the tree and the characters after it.
Containers are read with a bound on the number of steps that the length of the text always meets.
-/

namespace PullSecrets

namespace Source

def isBlank (c : Char) : Bool := c == ' ' || c == '\n' || c == '\t' || c == '\r'

def skipBlanks (cs : List Char) : List Char := cs.dropWhile isBlank

/-- A part of a string: a character, or sixteen bits named by an escape. -/
inductive Piece where
  | char (c : Char)
  | unit (n : Nat)
  deriving DecidableEq, Repr

/-- Whether sixteen bits are the first half of a surrogate pair. -/
def isHighHalf (n : Nat) : Bool := 0xd800 ≤ n && n < 0xdc00

/-- Whether sixteen bits are the second half of a surrogate pair. -/
def isLowHalf (n : Nat) : Bool := 0xdc00 ≤ n && n < 0xe000

def pairChar (high low : Nat) : Char :=
  Char.ofNat (0x10000 + (high - 0xd800) * 0x400 + (low - 0xdc00))

/-- The characters of some pieces after others in reverse, unless a half stands alone. -/
def contentOnto (before : List Char) : List Piece → Option (List Char)
  | [] => some before.reverse
  | .char c :: rest => contentOnto (c :: before) rest
  | .unit n :: rest =>
    if isHighHalf n then
      match rest with
      | .unit m :: rest => if isLowHalf m then contentOnto (pairChar n m :: before) rest else none
      | _ => none
    else if isLowHalf n then none
    else contentOnto (Char.ofNat n :: before) rest

def content? (ps : List Piece) : Option String := (contentOnto [] ps).map String.ofList

def unit? (a b c d : Char) : Option Nat := do
  let w ← Text.hexValue? a.toNat
  let x ← Text.hexValue? b.toNat
  let y ← Text.hexValue? c.toNat
  let z ← Text.hexValue? d.toNat
  some (w * 0x1000 + x * 0x100 + y * 0x10 + z)

def shortEscape? : Char → Option Char
  | '"' => some '"'
  | '\\' => some '\\'
  | '/' => some '/'
  | 'b' => some '\x08'
  | 'f' => some '\x0c'
  | 'n' => some '\n'
  | 'r' => some '\r'
  | 't' => some '\t'
  | _ => none

/-- The rest of a string after its opening quote, after pieces gathered in reverse. -/
def readString (before : List Piece) : List Char → Option (List Piece × List Char)
  | '"' :: rest => some (before.reverse, rest)
  | '\\' :: 'u' :: a :: b :: c :: d :: rest =>
    match unit? a b c d with
    | some n => readString (.unit n :: before) rest
    | none => none
  | '\\' :: e :: rest =>
    match shortEscape? e with
    | some c => readString (.char c :: before) rest
    | none => none
  | c :: rest => if c.toNat < 0x20 || c == '\\' then none else readString (.char c :: before) rest
  | [] => none

/-- The whole part of a literal: a zero alone, or digits that do not start with one. -/
def readWhole (cs : List Char) : Option (List Char × List Char) :=
  match cs.span Char.isDigit with
  | ([], _) => none
  | ('0' :: _ :: _, _) => none
  | (digits, rest) => some (digits, rest)

/-- The fraction of a literal, if a point follows. -/
def readFraction : List Char → Option (Option (List Char) × List Char)
  | '.' :: rest =>
    match rest.span Char.isDigit with
    | ([], _) => none
    | (digits, rest) => some (some digits, rest)
  | cs => some (none, cs)

def readPower (cs : List Char) : Option (Option (Bool × List Char) × List Char) :=
  let (negative, rest) := match cs with
    | '-' :: rest => (true, rest)
    | '+' :: rest => (false, rest)
    | _ => (false, cs)
  match rest.span Char.isDigit with
  | ([], _) => none
  | (digits, rest) => some (some (negative, digits), rest)

/-- The exponent of a literal, if its mark follows. -/
def readExponent : List Char → Option (Option (Bool × List Char) × List Char)
  | 'e' :: rest => readPower rest
  | 'E' :: rest => readPower rest
  | cs => some (none, cs)

def readUnsigned (negative : Bool) (cs : List Char) : Option (Literal × List Char) := do
  let (whole, cs) ← readWhole cs
  let (fraction, cs) ← readFraction cs
  let (exponent, cs) ← readExponent cs
  some (⟨negative, whole, fraction, exponent⟩, cs)

def readLiteral : List Char → Option (Literal × List Char)
  | '-' :: rest => readUnsigned true rest
  | cs => readUnsigned false cs

/-- The name of a member and the colon after it. -/
def readName (cs : List Char) : Option (Option String × List Char) :=
  match skipBlanks cs with
  | '"' :: rest =>
    match readString [] rest with
    | some (ps, rest) =>
      match skipBlanks rest with
      | ':' :: rest => some (content? ps, rest)
      | _ => none
    | none => none
  | _ => none

mutual

def readValue : Nat → List Char → Option (Source × List Char)
  | 0, _ => none
  | n + 1, cs =>
    match skipBlanks cs with
    | '"' :: rest => (readString [] rest).map fun (ps, rest) => (.string (content? ps), rest)
    | '[' :: rest =>
      match skipBlanks rest with
      | ']' :: rest => some (.array [], rest)
      | rest => readItems n [] rest
    | '\x7b' :: rest =>
      match skipBlanks rest with
      | '\x7d' :: rest => some (.object [], rest)
      | rest => readMembers n [] rest
    | 'n' :: 'u' :: 'l' :: 'l' :: rest => some (.null, rest)
    | 't' :: 'r' :: 'u' :: 'e' :: rest => some (.bool true, rest)
    | 'f' :: 'a' :: 'l' :: 's' :: 'e' :: rest => some (.bool false, rest)
    | rest => (readLiteral rest).map fun (l, rest) => (.number l, rest)

/-- The items of an array after some in reverse, up to the closing bracket. -/
def readItems : Nat → List Source → List Char → Option (Source × List Char)
  | 0, _, _ => none
  | n + 1, before, cs =>
    match readValue n cs with
    | none => none
    | some (s, rest) =>
      match skipBlanks rest with
      | ',' :: rest => readItems n (s :: before) rest
      | ']' :: rest => some (.array (s :: before).reverse, rest)
      | _ => none

/-- The members of an object after some in reverse, up to the closing brace. -/
def readMembers : Nat → List (Option String × Source) → List Char → Option (Source × List Char)
  | 0, _, _ => none
  | n + 1, before, cs =>
    match readName cs with
    | none => none
    | some (key, rest) =>
      match readValue n rest with
      | none => none
      | some (s, rest) =>
        match skipBlanks rest with
        | ',' :: rest => readMembers n ((key, s) :: before) rest
        | '\x7d' :: rest => some (.object ((key, s) :: before).reverse, rest)
        | _ => none

end

/-- The first value of a text and what follows it. -/
def readFirst? (cs : List Char) : Option (Source × List Char) := readValue (2 * cs.length + 2) cs

def read? (text : String) : Option Source :=
  match readFirst? text.toList with
  | some (s, rest) => if (skipBlanks rest).isEmpty then some s else none
  | none => none

end Source

/-- The value of a whole text, read as a free form. -/
def Json.read? (text : String) : Option Json :=
  (Source.read? text).bind (Json.ofSource? Source.nestingLimit)

end PullSecrets
