import PullSecrets.Text.Blank

/-!
# Points in time

An `Instant` counts seconds from the start of 1970 in UTC. Times are read in a relaxed form of
RFC 3339 (blanks between parts, one-digit fields, a space for the `T`) and written with whole
seconds and `Z`. A leap second is kept as a part of the second before it. Only the years from
`Date.firstYear` to `Date.lastYear` have dates.
-/

namespace PullSecrets

/-- Seconds from the start of 1970, with nanoseconds; a leap second runs on to two thousand
million of them. -/
structure Instant where
  seconds : Int
  nanos : Nat
  deriving DecidableEq, Repr, Inhabited

structure Date where
  year : Int
  month : Nat
  day : Nat
  deriving DecidableEq, Repr

namespace Date

def isLeapYear (y : Int) : Bool := (y % 4 == 0 && y % 100 != 0) || y % 400 == 0

def monthLength (y : Int) (m : Nat) : Nat :=
  if m = 2 then (if isLeapYear y then 29 else 28)
  else if m = 4 ∨ m = 6 ∨ m = 9 ∨ m = 11 then 30
  else 31

/-- The first year that has dates. -/
def firstYear : Int := -262143

/-- The last year that has dates. -/
def lastYear : Int := 262142

def ofParts? (year : Int) (month day : Nat) : Option Date :=
  if firstYear ≤ year ∧ year ≤ lastYear ∧ 1 ≤ month ∧ month ≤ 12 ∧ 1 ≤ day ∧
      day ≤ monthLength year month then
    some ⟨year, month, day⟩
  else none

/-- Days from the start of 1970. Years are counted from March, so that a leap day ends one. -/
def dayNumber (d : Date) : Int :=
  let y := if d.month ≤ 2 then d.year - 1 else d.year
  let era := Int.fdiv y 400
  let yearOfEra := y - era * 400
  let month : Int := (d.month + 9) % 12
  let dayOfYear := (153 * month + 2) / 5 + d.day - 1
  era * 146097 + (yearOfEra * 365 + yearOfEra / 4 - yearOfEra / 100 + dayOfYear) - 719468

def ofDayNumber (n : Int) : Date :=
  let z := n + 719468
  let era := Int.fdiv z 146097
  let dayOfEra := z - era * 146097
  let yearOfEra := (dayOfEra - dayOfEra / 1460 + dayOfEra / 36524 - dayOfEra / 146096) / 365
  let dayOfYear := dayOfEra - (365 * yearOfEra + yearOfEra / 4 - yearOfEra / 100)
  let month := (5 * dayOfYear + 2) / 153
  let day := dayOfYear - (153 * month + 2) / 5 + 1
  let m := if month < 10 then month + 3 else month - 9
  let y := yearOfEra + era * 400
  ⟨if m ≤ 2 then y + 1 else y, m.toNat, day.toNat⟩

/-- Whether the day with a number has a date. -/
def isDay (n : Int) : Bool :=
  (mk firstYear 1 1).dayNumber ≤ n && n ≤ (mk lastYear 12 31).dayNumber

end Date

namespace Instant

/-- A number with at least so many digits. -/
def padded (width n : Nat) : List Char :=
  let digits := Nat.toDigits 10 n
  List.replicate (width - digits.length) '0' ++ digits

/-- A year: four digits, and a sign when they do not suffice. -/
def yearText (y : Int) : List Char :=
  if 0 ≤ y ∧ y ≤ 9999 then padded 4 y.toNat
  else (if y < 0 then '-' else '+') :: padded 4 y.natAbs

/-- Date and time of day in UTC, to the second. -/
def clockText (t : Instant) : List Char :=
  let days := Int.fdiv t.seconds 86400
  let s := (t.seconds - days * 86400).toNat
  let d := Date.ofDayNumber days
  let second := s % 60 + (if 1000000000 ≤ t.nanos then 1 else 0)
  yearText d.year ++ '-' :: padded 2 d.month ++ '-' :: padded 2 d.day ++ 'T' ::
    padded 2 (s / 3600) ++ ':' :: padded 2 (s / 60 % 60) ++ ':' :: padded 2 second

def text (t : Instant) : String := String.ofList (t.clockText ++ ['Z'])

/-- The fraction of a second in three, six or nine digits, as many as it needs. -/
def fractionText (nanos : Nat) : List Char :=
  let n := nanos % 1000000000
  if n = 0 then []
  else if n % 1000000 = 0 then '.' :: padded 3 (n / 1000000)
  else if n % 1000 = 0 then '.' :: padded 6 (n / 1000)
  else '.' :: padded 9 n

/-- The time in UTC with the fraction of the second and a numeric offset. -/
def fullText (t : Instant) : String :=
  String.ofList (t.clockText ++ fractionText t.nanos ++ ['+', '0', '0', ':', '0', '0'])

def skipBlanks (cs : List Char) : List Char := cs.dropWhile Text.isBlank

def ofDigits (cs : List Char) : Nat := cs.foldl (fun n c => n * 10 + (c.toNat - 48)) 0

/-- A number of one to so many digits. -/
def readDigits (width : Nat) (cs : List Char) : Option (Nat × List Char) :=
  let digits := (cs.take width).takeWhile Char.isDigit
  if digits.isEmpty then none else some (ofDigits digits, cs.drop digits.length)

/-- A number of one to so many digits, after blanks. -/
def readNumber (width : Nat) (cs : List Char) : Option (Nat × List Char) :=
  readDigits width (skipBlanks cs)

/-- A year after blanks: up to four digits, or any number of them right after a sign. -/
def readYear (cs : List Char) : Option (Int × List Char) :=
  match skipBlanks cs with
  | '-' :: rest => (readDigits rest.length rest).map fun (n, rest) => (-(n : Int), rest)
  | '+' :: rest => (readDigits rest.length rest).map fun (n, rest) => ((n : Int), rest)
  | rest => (readDigits 4 rest).map fun (n, rest) => ((n : Int), rest)

def readMark (mark : Char) (cs : List Char) : Option (List Char) :=
  match skipBlanks cs with
  | c :: rest => if c = mark then some rest else none
  | [] => none

/-- The fraction of a second in nanoseconds; digits after the ninth are left out. -/
def readFraction : List Char → Option (Nat × List Char)
  | '.' :: rest =>
    let (digits, rest) := rest.span Char.isDigit
    let kept := digits.take 9
    if kept.isEmpty then none else some (ofDigits kept * Nat.pow 10 (9 - kept.length), rest)
  | cs => some (0, cs)

/-- Seconds east of UTC for some hours and minutes. -/
def offsetSeconds? (sign : Int) (h g m n : Char) : Option Int :=
  if [h, g, m, n].all Char.isDigit ∧ m.toNat < 54 ∧ ofDigits [h, g] < 24 then
    some (sign * (ofDigits [h, g] * 3600 + ofDigits [m, n] * 60))
  else none

/-- The offset from UTC in seconds: `Z`, `UTC`, or a sign, two digits of hours and two of minutes
with or without a colon between. -/
def readOffset (cs : List Char) : Option (Int × List Char) :=
  match cs with
  | 'Z' :: rest | 'z' :: rest => some (0, rest)
  | u :: t :: c :: rest =>
    if u.toLower = 'u' ∧ t.toLower = 't' ∧ c.toLower = 'c' then some (0, rest)
    else
      let sign := if u = '+' then some 1 else if u = '-' ∨ u = '\u2212' then some (-1) else none
      match sign, rest.dropWhile fun x => x == ':' || Text.isBlank x with
      | some sign, m :: n :: rest => (offsetSeconds? sign t c m n).map fun o => (o, rest)
      | _, _ => none
  | _ => none

/-- Whether the instant has a date in UTC. -/
def isDated (t : Instant) : Bool := Date.isDay (Int.fdiv t.seconds 86400)

/-- The instant of a date, a time of day and an offset. A sixtieth second is a leap second. -/
def ofParts? (date : Date) (hour minute second nanos : Nat) (offset : Int) : Option Instant :=
  if hour < 24 ∧ minute < 60 ∧ second ≤ 60 then
    let s := if second = 60 then 59 else second
    let n := if second = 60 then nanos + 1000000000 else nanos
    let t : Instant := ⟨date.dayNumber * 86400 + (hour * 3600 + minute * 60 + s : Nat) - offset, n⟩
    if t.isDated then some t else none
  else none

def readDate (cs : List Char) : Option (Date × List Char) := do
  let (year, cs) ← readYear cs
  let cs ← readMark '-' cs
  let (month, cs) ← readNumber 2 cs
  let cs ← readMark '-' cs
  let (day, cs) ← readNumber 2 cs
  let date ← Date.ofParts? year month day
  some (date, cs)

def read? (s : String) : Option Instant := do
  let (date, cs) ← readDate s.toList
  let cs ← match cs with
    | 'T' :: rest | 't' :: rest | ' ' :: rest => some rest
    | _ => none
  let (hour, cs) ← readNumber 2 cs
  let cs ← readMark ':' cs
  let (minute, cs) ← readNumber 2 cs
  let cs ← readMark ':' cs
  let (second, cs) ← readNumber 2 cs
  let (nanos, cs) ← readFraction cs
  let (offset, cs) ← readOffset (skipBlanks cs)
  if (skipBlanks cs).isEmpty then ofParts? date hour minute second nanos offset else none

end Instant

end PullSecrets
