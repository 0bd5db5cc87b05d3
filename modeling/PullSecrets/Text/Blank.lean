/-!
# Blank text

`isBlank` is the Unicode property White_Space. A name made of such characters alone counts as
empty.
-/

namespace PullSecrets.Text

def isBlank (c : Char) : Bool :=
  let n := c.toNat
  (0x09 ≤ n && n ≤ 0x0d) || n == 0x20 || n == 0x85 || n == 0xa0 || n == 0x1680 ||
    (0x2000 ≤ n && n ≤ 0x200a) || n == 0x2028 || n == 0x2029 || n == 0x202f || n == 0x205f ||
    n == 0x3000

def allBlank (s : String) : Bool := s.toList.all isBlank

end PullSecrets.Text
