import PullSecrets.Number.Binary64

/-!
# The fewest digits that read back

Between a magnitude and each neighbour lies a half-way point; every number between these two
points rounds to the magnitude, the points themselves included exactly when its significand is
even. `shortest` searches decimal grids from coarse to fine, and on each grid looks at the two
points next to the magnitude: the first grid with a point that rounds back wins, and of two such
points the nearer one.
-/

namespace PullSecrets

/-- A number `digits · 10 ^ exponent`. -/
structure Decimal where
  digits : Nat
  exponent : Int
  deriving DecidableEq, Repr

namespace Magnitude

/-- A quarter of a unit of the last place: numerator and denominator of `2 ^ (exponent - 2)`. -/
def quarterPlace (x : Magnitude) : Nat × Nat := powerRatio 2 (x.exponent - 2)

/-- The half-way points below and above, in quarters of the last place. Below a power of two the
neighbour is only half as far away. -/
def halfway (x : Magnitude) : Nat × Nat :=
  let gap := if x.significand = leadingBit ∧ leastExponent < x.exponent then 1 else 2
  (4 * x.significand - gap, 4 * x.significand + 2)

/-- Whether `num / den` rounds to the magnitude. -/
def isReadFrom (x : Magnitude) (num den : Nat) : Bool :=
  let (u, v) := x.quarterPlace
  let (low, high) := x.halfway
  if x.significand % 2 = 0 then low * u * den ≤ num * v && num * v ≤ high * u * den
  else low * u * den < num * v && num * v < high * u * den

def digitCount (n : Nat) : Nat := (Nat.toDigits 10 n).length

/-- The power of ten of the leading digit of `num / den`. -/
def leadingPower (num den : Nat) : Int :=
  if den ≤ num then digitCount (num / den) - 1
  else
    match (List.range 400).find? fun j => den ≤ num * Nat.pow 10 j with
    | some j => -(j : Int)
    | none => -400

/-- Numerator and denominator of `c · 10 ^ e`. -/
def decimalRatio (c : Nat) (e : Int) : Nat × Nat :=
  let (u, v) := powerRatio 10 e
  (c * u, v)

/-- The point of the grid of step `10 ^ e` that rounds to the magnitude and is nearest to it. -/
def onGrid? (x : Magnitude) (e : Int) : Option Decimal :=
  let (num, den) := x.ratio
  let (u, v) := decimalRatio 1 e
  let c := num * v / (den * u)
  let reads := fun k => let (n, d) := decimalRatio k e; x.isReadFrom n d
  let twice := 2 * (num * v - c * (den * u))
  let lowerNearer := twice < den * u || (twice == den * u && c % 2 == 0)
  match reads c, reads (c + 1) with
  | true, true => some ⟨if lowerNearer then c else c + 1, e⟩
  | true, false => some ⟨c, e⟩
  | false, true => some ⟨c + 1, e⟩
  | false, false => none

/-- The decimal of fewest digits that rounds to the magnitude. Seventeen digits always do. -/
def shortest (x : Magnitude) : Decimal :=
  let lead := leadingPower x.ratio.1 x.ratio.2
  match (List.range 17).findSome? fun (n : Nat) => x.onGrid? (lead - n) with
  | some d => d
  | none => ⟨0, 0⟩

end Magnitude

/-- The digits of a decimal without trailing zeros, and the power of ten of the first one. -/
def Decimal.leading (d : Decimal) : List Char × Int :=
  let digits := Nat.toDigits 10 d.digits
  let kept := (digits.reverse.dropWhile (· == '0')).reverse
  (kept, d.exponent + (digits.length : Int) - 1)

end PullSecrets
