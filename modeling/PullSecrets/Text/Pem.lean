import PullSecrets.Text.Base64
import PullSecrets.Text.Blank

/-!
# PEM

Bytes in base 64 between two lines that bear the same label. Text outside of such sections does not
matter, nor does a section that is not finished.
-/

namespace PullSecrets.Text.Pem

/-- A text before and after the first place where a mark stands. -/
def cut? (mark : List Char) : List Char → Option (List Char × List Char)
  | [] => none
  | c :: rest =>
    if mark.isPrefixOf (c :: rest) then some ([], (c :: rest).drop mark.length)
    else (cut? mark rest).map fun (before, after) => (c :: before, after)

structure Section where
  label : String
  content : Bytes
  deriving DecidableEq, Repr, Inhabited

/-- A section with the labels of its first and its last line. -/
def section? (first body last : List Char) : Option Section :=
  if first = last ∧ first ≠ [] then
    (Base64.decode? (body.filter fun c => !isBlank c)).map (⟨String.ofList first, ·⟩)
  else none

def sectionsWithin? : Nat → List Char → Option (List Section)
  | 0, _ => some []
  | room + 1, cs =>
    let parts := do
      let (_, cs) ← cut? "-----BEGIN ".toList cs
      let (first, cs) ← cut? "-----".toList cs
      let (body, cs) ← cut? "-----END ".toList cs
      let (last, cs) ← cut? "-----".toList cs
      some (first, body, last, cs)
    match parts with
    | none => some []
    | some (first, body, last, cs) =>
      match section? first body last with
      | some s => (sectionsWithin? room cs).map (s :: ·)
      | none => none

/-- The sections of a text, if all that are finished are well formed. -/
def sections? (bytes : Bytes) : Option (List Section) :=
  (decode? bytes).bind fun text => sectionsWithin? text.length text.toList

/-- The certificates in a text. -/
def certificates? (bytes : Bytes) : Option (List Bytes) :=
  (sections? bytes).map fun sections =>
    sections.filterMap fun s => if s.label = "CERTIFICATE" then some s.content else none

/-- Whether a text has a section with one of some labels. -/
def contains (labels : List String) (bytes : Bytes) : Bool :=
  match sections? bytes with
  | some sections => sections.any fun s => labels.contains s.label
  | none => false

end PullSecrets.Text.Pem
