/-!
# Hexadecimal digits
-/

namespace PullSecrets.Text

def hexValue? (n : Nat) : Option Nat :=
  if 48 ≤ n ∧ n ≤ 57 then some (n - 48)
  else if 97 ≤ n ∧ n ≤ 102 then some (n - 97 + 10)
  else if 65 ≤ n ∧ n ≤ 70 then some (n - 65 + 10)
  else none

def hexDigits (n : Nat) : List Char := Nat.toDigits 16 n

end PullSecrets.Text
