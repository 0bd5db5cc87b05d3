import PullSecrets.Text.Hex
import PullSecrets.Text.Shown

/-!
# Quoted text

The quoted form of a text stands between double quotes. A quote and a backslash are preceded by a
backslash; tab, line feed, carriage return and the null character have short forms; any other
character that is not shown is written by its code point in hexadecimal.
-/

namespace PullSecrets.Text

def quotedChar (c : Char) : List Char :=
  if c = '"' then ['\\', '"']
  else if c = '\\' then ['\\', '\\']
  else if c = '\n' then ['\\', 'n']
  else if c = '\t' then ['\\', 't']
  else if c = '\r' then ['\\', 'r']
  else if c = '\x00' then ['\\', '0']
  else if isShown c then [c]
  else ['\\', 'u', '\x7b'] ++ hexDigits c.toNat ++ ['\x7d']

def quoted (s : String) : String :=
  String.ofList ('"' :: s.toList.flatMap quotedChar ++ ['"'])

def quoted? : Option String → String
  | none => "None"
  | some s => "Some(" ++ quoted s ++ ")"

end PullSecrets.Text
