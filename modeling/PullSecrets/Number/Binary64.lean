/-!
# Binary floating point

A `Magnitude` is a non-negative number `significand · 2 ^ exponent` with at most 53 significant
bits, and a `Binary64` is one with a sign. All operations are exact arithmetic on natural numbers
followed by one rounding to the nearest magnitude, a tie going to the even significand; a result
above the largest magnitude is `none`.
-/

namespace PullSecrets

/-- A finite non-negative number of 53 significant bits. -/
structure Magnitude where
  significand : Nat
  exponent : Int
  deriving DecidableEq, Repr, Inhabited

/-- A magnitude with a sign; zero has both. -/
structure Binary64 where
  negative : Bool
  magnitude : Magnitude
  deriving DecidableEq, Repr, Inhabited

/-- Numerator and denominator of `base ^ e`. -/
def powerRatio (base : Nat) (e : Int) : Nat × Nat :=
  if 0 ≤ e then (Nat.pow base e.toNat, 1) else (1, Nat.pow base (-e).toNat)

namespace Magnitude

/-- The significand of a power of two, unless it is one of the smallest: `2 ^ 52`. -/
def leadingBit : Nat := 4503599627370496

/-- What all significands are below: `2 ^ 53`. -/
def significandLimit : Nat := 9007199254740992

/-- The exponent of the last place of the smallest magnitudes. -/
def leastExponent : Int := -1074

/-- The exponent of the last place of the largest magnitudes. -/
def greatestExponent : Int := 971

def zero : Magnitude := ⟨0, leastExponent⟩

def isZero (x : Magnitude) : Bool := x.significand == 0

/-- Numerator and denominator of `num / den / 2 ^ e`. -/
def shifted (num den : Nat) (e : Int) : Nat × Nat :=
  let (u, v) := powerRatio 2 e
  (num * v, den * u)

/-- The quotient rounded to the nearest natural number, a tie to the even one. -/
def roundedDiv (num den : Nat) : Nat :=
  let q := num / den
  let twice := 2 * (num % den)
  if den < twice || (twice == den && q % 2 == 1) then q + 1 else q

/-- The exponent of the last place of the magnitudes around `num / den`. -/
def placeOf (num den : Nat) : Int :=
  let guess := max ((num.log2 : Int) - den.log2 - 53) leastExponent
  let (n, d) := shifted num den guess
  if n / d < significandLimit then guess else guess + 1

/-- The nearest magnitude to `num / den`, unless it is above the largest one. -/
def ofRatio? (num den : Nat) : Option Magnitude :=
  if num = 0 then some zero
  else
    let place := placeOf num den
    let (n, d) := shifted num den place
    let m := roundedDiv n d
    let x : Magnitude := if m = significandLimit then ⟨leadingBit, place + 1⟩ else ⟨m, place⟩
    if x.exponent ≤ greatestExponent then some x else none

def ratio (x : Magnitude) : Nat × Nat :=
  let (u, v) := powerRatio 2 x.exponent
  (x.significand * u, v)

def mul? (x y : Magnitude) : Option Magnitude :=
  ofRatio? (x.ratio.1 * y.ratio.1) (x.ratio.2 * y.ratio.2)

/-- The rounded quotient by a number that is not zero. -/
def div? (x y : Magnitude) : Option Magnitude :=
  ofRatio? (x.ratio.1 * y.ratio.2) (x.ratio.2 * y.ratio.1)

def powerOfTen? (k : Nat) : Option Magnitude := ofRatio? (Nat.pow 10 k) 1

/-- The exponent of the largest power of ten that is a magnitude. -/
def greatestPower : Nat := 308

/-- The number divided by the largest power of ten, `k` times over; zero stays as it is. -/
def scaledDown? : Nat → Magnitude → Option Magnitude
  | 0, x => some x
  | k + 1, x =>
    if x.isZero then some x
    else ((powerOfTen? greatestPower).bind x.div?).bind (scaledDown? k)

/-- The number times a power of ten. One step multiplies or divides by a power that is itself a
rounded magnitude; below the range of such powers the division is made in several steps. -/
def scaled? (x : Magnitude) (e : Int) : Option Magnitude :=
  if x.isZero then some x
  else if 0 ≤ e then
    if e ≤ greatestPower then (powerOfTen? e.toNat).bind x.mul? else none
  else
    let n := (-e).toNat
    let steps := (n - 1) / greatestPower
    (scaledDown? steps x).bind fun y =>
      if y.isZero then some y else (powerOfTen? (n - greatestPower * steps)).bind y.div?

end Magnitude

/-- Whether the number is zero, of either sign. -/
def Binary64.isZero (x : Binary64) : Bool := x.magnitude.isZero

end PullSecrets
