import PullSecrets.Text.Hex
import PullSecrets.Text.Utf8

/-!
# Percent escapes

In a path segment, `%` and two hexadecimal digits stand for a byte. A `%` that two digits do not
follow stands for itself, and so does every other byte.
-/

namespace PullSecrets.Text

/-- The byte that two digits after a `%` stand for. -/
def escaped? (p q : UInt8) : Option UInt8 := do
  let x ← hexValue? p.toNat
  let y ← hexValue? q.toNat
  some (UInt8.ofNat (x * 16 + y))

/-- The bytes of a text after its percent escapes are resolved, after others in reverse. -/
def unescapeOnto (before : Bytes) : Bytes → Bytes
  | [] => before.reverse
  | 37 :: p :: q :: rest =>
    match escaped? p q with
    | some b => unescapeOnto (b :: before) rest
    | none => unescapeOnto (37 :: before) (p :: q :: rest)
  | b :: rest => unescapeOnto (b :: before) rest
termination_by bytes => bytes.length

def unescape (bytes : Bytes) : Bytes := unescapeOnto [] bytes

/-- The text that a path segment stands for, unless its bytes are not UTF-8. -/
def unescapeText? (s : String) : Option String := decode? (unescape (encode s))

end PullSecrets.Text
