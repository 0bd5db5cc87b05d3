import PullSecrets.Instant
import PullSecrets.Number.Binary64
import PullSecrets.Toml.Basic
import PullSecrets.Text.Hex

/-!
# Numbers and times of TOML

Integers have 64 bits. Of other numbers and of times only the form is read, and whether a number
is in range.
-/

namespace PullSecrets.Toml

/-- The digits from the start of a text; an underscore may stand between two of them. -/
def readDigits (isDigit : Char → Bool) : List Char → List Char × List Char
  | [] => ([], [])
  | c :: rest => if isDigit c then more [c] rest else ([], c :: rest)
where
  /-- Further digits after others in reverse. -/
  more (before : List Char) : List Char → List Char × List Char
    | '_' :: d :: rest =>
      if isDigit d then more (d :: before) rest else (before.reverse, '_' :: d :: rest)
    | d :: rest => if isDigit d then more (d :: before) rest else (before.reverse, d :: rest)
    | [] => (before.reverse, [])

/-- Digits, at least one. -/
def readDigits? (isDigit : Char → Bool) (cs : List Char) : Option (List Char × List Char) :=
  match readDigits isDigit cs with
  | ([], _) => none
  | read => some read

/-- A whole number: zero, or digits that do not start with zero. -/
def readWhole? : List Char → Option (List Char × List Char)
  | '0' :: rest => some (['0'], rest)
  | cs => readDigits? Char.isDigit cs

/-- Whether there is a minus sign, and the text after a sign. -/
def readSign : List Char → Bool × List Char
  | '-' :: rest => (true, rest)
  | '+' :: rest => (false, rest)
  | cs => (false, cs)

def ofDigits (base : Nat) (cs : List Char) : Nat :=
  cs.foldl (fun n c => n * base + (Text.hexValue? c.toNat).getD 0) 0

/-- An integer, if it has 64 bits. -/
def integer? (n : Int) (rest : List Char) : Option (Toml × List Char) :=
  if Int64.minValue.toInt ≤ n ∧ n ≤ Int64.maxValue.toInt then some (.integer n, rest) else none

/-- An integer of a base other than ten, after its mark. -/
def readBased? (base : Nat) (isDigit : Char → Bool) (cs : List Char) : Option (Toml × List Char) :=
  match readDigits? isDigit cs with
  | some (ds, rest) => integer? (ofDigits base ds) rest
  | none => none

def readInteger? : List Char → Option (Toml × List Char)
  | '0' :: 'x' :: rest => readBased? 16 (fun c => (Text.hexValue? c.toNat).isSome) rest
  | '0' :: 'o' :: rest => readBased? 8 (fun c => '0' ≤ c && c ≤ '7') rest
  | '0' :: 'b' :: rest => readBased? 2 (fun c => c == '0' || c == '1') rest
  | cs =>
    let (negative, cs) := readSign cs
    match readWhole? cs with
    | some (ds, rest) =>
      let n : Int := ofDigits 10 ds
      integer? (if negative then -n else n) rest
    | none => none

def readFraction? : List Char → Option (List Char × List Char)
  | '.' :: rest => readDigits? Char.isDigit rest
  | _ => none

def readExponent? : List Char → Option (Int × List Char)
  | mark :: rest =>
    if mark = 'e' ∨ mark = 'E' then
      let (negative, rest) := readSign rest
      (readDigits? Char.isDigit rest).map fun (ds, rest) =>
        let n : Int := ofDigits 10 ds
        (if negative then -n else n, rest)
    else none
  | [] => none

/-- The number of digits by which a number is far from both ends of the range. -/
def rangeMargin : Int := 400

/-- Whether the number with some digits, times a power of ten, rounds to a magnitude. -/
def isInRange (digits : List Char) (power : Int) : Bool :=
  let digits := digits.dropWhile (· == '0')
  let order := digits.length + power
  if digits.isEmpty || order < -rangeMargin then true
  else if rangeMargin < order then false
  else
    let n := ofDigits 10 digits
    let (u, v) := powerRatio 10 power
    (Magnitude.ofRatio? (n * u) v).isSome

/-- A number with a fraction, an exponent or both. Above the range only negative numbers are
allowed. -/
def readDecimal? (cs : List Char) : Option (Toml × List Char) :=
  let (negative, cs) := readSign cs
  match readWhole? cs with
  | none => none
  | some (whole, rest) =>
    let result := fun (fraction : List Char) (power : Int) (rest : List Char) =>
      if negative || isInRange (whole ++ fraction) (power - fraction.length) then
        some (Toml.float, rest)
      else none
    match readExponent? rest with
    | some (power, rest) => result [] power rest
    | none =>
      match readFraction? rest with
      | none => none
      | some (fraction, rest) =>
        match readExponent? rest with
        | some (power, rest) => result fraction power rest
        | none => result fraction 0 rest

def readSpecial? (cs : List Char) : Option (Toml × List Char) :=
  match (readSign cs).2 with
  | 'i' :: 'n' :: 'f' :: rest => some (.float, rest)
  | 'n' :: 'a' :: 'n' :: rest => some (.float, rest)
  | _ => none

/-- A number of two digits, up to a greatest one. -/
def readTwoDigits? (greatest : Nat) : List Char → Option (Nat × List Char)
  | a :: b :: rest =>
    let n := ofDigits 10 [a, b]
    if a.isDigit && b.isDigit && n ≤ greatest then some (n, rest) else none
  | _ => none

def afterDay? : List Char → Option (List Char)
  | a :: b :: c :: d :: '-' :: rest =>
    if [a, b, c, d].all Char.isDigit then
      match readTwoDigits? 12 rest with
      | some (month, '-' :: rest) =>
        match readTwoDigits? 31 rest with
        | some (day, rest) => (Date.ofParts? (ofDigits 10 [a, b, c, d]) month day).map fun _ => rest
        | none => none
      | _ => none
    else none
  | _ => none

def afterMinutes? (cs : List Char) : Option (List Char) :=
  match readTwoDigits? 23 cs with
  | some (_, ':' :: rest) => (readTwoDigits? 59 rest).map (·.2)
  | _ => none

def afterClock? (cs : List Char) : Option (List Char) :=
  match afterMinutes? cs with
  | some (':' :: rest) =>
    match readTwoDigits? 60 rest with
    | some (_, '.' :: d :: rest) => if d.isDigit then some (rest.dropWhile Char.isDigit) else none
    | some (_, rest) => some rest
    | none => none
  | _ => none

/-- The text after a distance from universal time. -/
def afterOffset? : List Char → Option (List Char)
  | 'Z' :: rest => some rest
  | 'z' :: rest => some rest
  | '+' :: rest => afterMinutes? rest
  | '-' :: rest => afterMinutes? rest
  | _ => none

/-- The text after a time of day that may follow a day. -/
def afterDayClock (cs : List Char) : List Char :=
  match cs with
  | c :: rest =>
    if c = 'T' ∨ c = 't' ∨ c = ' ' then
      match afterClock? rest with
      | some rest => (afterOffset? rest).getD rest
      | none => cs
    else cs
  | [] => cs

def readTime? (cs : List Char) : Option (Toml × List Char) :=
  match afterDay? cs with
  | some rest => some (.time, afterDayClock rest)
  | none => (afterClock? cs).map fun rest => (.time, rest)

def readNumeric? (cs : List Char) : Option (Toml × List Char) :=
  ((readTime? cs).or ((readDecimal? cs).or (readSpecial? cs))).or (readInteger? cs)

end PullSecrets.Toml
