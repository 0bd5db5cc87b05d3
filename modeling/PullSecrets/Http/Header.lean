import PullSecrets.Text.Utf8

/-!
# Headers

A header has a name, which is a token, and a value, which is a run of bytes without control
characters. Names are compared without regard to ASCII case, and of several headers with one name
the first counts.
-/

namespace PullSecrets

def isTokenChar (c : Char) : Bool :=
  ('a' ≤ c && c ≤ 'z') || ('A' ≤ c && c ≤ 'Z') || ('0' ≤ c && c ≤ '9') ||
    "!#$%&'*+-.^_\x60|~".toList.contains c

def isToken (s : String) : Bool := !s.toList.isEmpty && s.toList.all isTokenChar

namespace Header

def nameLimit : Nat := 65535

def isName (s : String) : Bool := isToken s && s.length ≤ nameLimit

def isValueByte (b : UInt8) : Bool := b == 9 || (32 ≤ b && b != 127)

/-- Whether a byte of a value is text. -/
def isTextByte (b : UInt8) : Bool := b == 9 || (32 ≤ b && b < 127)

end Header

structure Header where
  name : String
  value : Bytes
  name_isName : Header.isName name = true
  value_legal : value.all Header.isValueByte = true
  deriving DecidableEq

inductive HeaderFault where
  | name
  | value
  deriving DecidableEq, Repr

def Header.ofPair (name : String) (value : Bytes) : Except HeaderFault Header :=
  if hn : Header.isName name = true then
    if hv : value.all Header.isValueByte = true then .ok ⟨name, value, hn, hv⟩
    else .error .value
  else .error .name

def Header.text? (h : Header) : Option String :=
  if h.value.all Header.isTextByte then
    some (String.ofList (h.value.map fun b => Char.ofNat b.toNat))
  else none

abbrev Headers := List Header

def Headers.first? (headers : Headers) (name : String) : Option Header :=
  headers.find? fun h => Text.eqIgnoringCase h.name name

end PullSecrets
