import PullSecrets.Json.Basic
import PullSecrets.Number.Shortest

/-!
# Writing JSON

The compact form: no blanks, members in the order of the value. A floating-point number has the
fewest digits that read back; it is written positionally, always with a fraction, when the power
of ten of its first digit is from -5 to 15, and otherwise with a signed exponent.
-/

namespace PullSecrets

/-- The range of leading powers of ten that are written positionally. -/
def Decimal.isPositional (power : Int) : Bool := -5 ≤ power && power ≤ 15

/-- A decimal in positional notation, given its digits and the power of ten of the first. -/
def Decimal.positional (digits : List Char) (power : Int) : List Char :=
  if power < 0 then '0' :: '.' :: List.replicate (-power - 1).toNat '0' ++ digits
  else
    let places := power.toNat + 1
    let whole := digits.take places ++ List.replicate (places - digits.length) '0'
    let fraction := digits.drop places
    whole ++ '.' :: (if fraction.isEmpty then ['0'] else fraction)

/-- A decimal with an exponent, given its digits and the power of ten of the first. -/
def Decimal.scientific (digits : List Char) (power : Int) : List Char :=
  let mantissa := match digits with
    | d :: e :: rest => d :: '.' :: e :: rest
    | ds => ds
  mantissa ++ 'e' :: (if power < 0 then '-' else '+') :: Nat.toDigits 10 power.natAbs

def Magnitude.render (x : Magnitude) : List Char :=
  if x.isZero then ['0', '.', '0']
  else
    let (digits, power) := x.shortest.leading
    if Decimal.isPositional power then Decimal.positional digits power
    else Decimal.scientific digits power

def Number.render : Number → List Char
  | .int n => if n < 0 then '-' :: Nat.toDigits 10 n.natAbs else Nat.toDigits 10 n.natAbs
  | .float x => if x.negative then '-' :: x.magnitude.render else x.magnitude.render

namespace Json

def hexDigit (n : Nat) : Char := Nat.digitChar (n % 16)

def escapeChar (c : Char) : List Char :=
  if c = '"' then ['\\', '"']
  else if c = '\\' then ['\\', '\\']
  else if c = '\n' then ['\\', 'n']
  else if c = '\r' then ['\\', 'r']
  else if c = '\t' then ['\\', 't']
  else if c = '\x08' then ['\\', 'b']
  else if c = '\x0c' then ['\\', 'f']
  else if c.toNat < 0x20 then ['\\', 'u', '0', '0', hexDigit (c.toNat / 16), hexDigit c.toNat]
  else [c]

def renderString (s : String) : List Char := '"' :: (s.toList.flatMap escapeChar ++ ['"'])

mutual

def render : Json → List Char
  | .null => ['n', 'u', 'l', 'l']
  | .bool true => ['t', 'r', 'u', 'e']
  | .bool false => ['f', 'a', 'l', 's', 'e']
  | .number n => n.render
  | .string s => renderString s
  | .array [] => ['[', ']']
  | .array (j :: rest) => '[' :: (j.render ++ renderItems rest)
  | .object [] => ['\x7b', '\x7d']
  | .object ((k, j) :: rest) =>
    '\x7b' :: (renderString k ++ ':' :: (j.render ++ renderMembers rest))

/-- The text of further items, up to the closing bracket. -/
def renderItems : List Json → List Char
  | [] => [']']
  | j :: rest => ',' :: (j.render ++ renderItems rest)

/-- The text of further members, up to the closing brace. -/
def renderMembers : List (String × Json) → List Char
  | [] => ['\x7d']
  | (k, j) :: rest => ',' :: (renderString k ++ ':' :: (j.render ++ renderMembers rest))

end

def text (j : Json) : String := String.ofList j.render

end Json

end PullSecrets
