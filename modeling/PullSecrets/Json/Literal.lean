import PullSecrets.Json.Basic

/-!
# Number literals

A literal is kept as its digits. An integer that fits 64 bits, signed or unsigned, is read exactly.
Every other literal is read as binary floating point: the significand takes whole digits until
one does not fit 64 bits, then digits of the fraction until one does not fit; digits left out of
the whole part only raise the exponent; the significand is rounded and then scaled by a power of
ten. A negative zero is floating point, and a literal beyond the largest magnitude has no value.
-/

namespace PullSecrets

/-- A number literal: sign, digits before and after the point, and exponent with its sign. -/
structure Literal where
  negative : Bool
  whole : List Char
  fraction : Option (List Char)
  exponent : Option (Bool × List Char)
  deriving DecidableEq, Repr, Inhabited

namespace Literal

def digitValue (c : Char) : Nat := c.toNat - 48

def significandBound : Nat := UInt64.size

/-- Takes whole digits into the significand while it fits; counts those left out. -/
def takeWhole (significand : Nat) : List Char → Nat × Nat
  | [] => (significand, 0)
  | c :: cs =>
    let next := significand * 10 + digitValue c
    if next < significandBound then takeWhole next cs else (significand, cs.length + 1)

/-- Takes digits of the fraction into the significand while it fits; counts those taken. -/
def takeFraction (significand taken : Nat) : List Char → Nat × Nat
  | [] => (significand, taken)
  | c :: cs =>
    let next := significand * 10 + digitValue c
    if next < significandBound then takeFraction next (taken + 1) cs else (significand, taken)

def ofDigits (cs : List Char) : Nat := cs.foldl (fun n c => n * 10 + digitValue c) 0

/-- The power of ten that the exponent names. -/
def power (l : Literal) : Int :=
  match l.exponent with
  | none => 0
  | some (true, ds) => -(ofDigits ds : Int)
  | some (false, ds) => ofDigits ds

def float? (l : Literal) : Option Binary64 :=
  let (whole, left) := takeWhole 0 l.whole
  let (significand, taken) := takeFraction whole 0 (l.fraction.getD [])
  ((Magnitude.ofRatio? significand 1).bind fun m => m.scaled? (left - taken + l.power)).map
    fun m => ⟨l.negative, m⟩

def isInteger (l : Literal) : Bool := l.fraction.isNone && l.exponent.isNone

def int? (l : Literal) : Option Int :=
  let (n, left) := takeWhole 0 l.whole
  if l.isInteger && left == 0 then
    if !l.negative then some n
    else if n ≠ 0 ∧ Int64.minValue.toInt ≤ -n then some (-n)
    else none
  else none

def value? (l : Literal) : Option Number :=
  match l.int? with
  | some n => some (.int n)
  | none => l.float?.map .float

def ofInt (n : Int) : Literal := ⟨n < 0, Nat.toDigits 10 n.natAbs, none, none⟩

/-- The text of a literal without fraction and exponent. -/
def integerText (l : Literal) : List Char := if l.negative then '-' :: l.whole else l.whole

end Literal

end PullSecrets
