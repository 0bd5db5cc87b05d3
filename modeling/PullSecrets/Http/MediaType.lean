import PullSecrets.Http.Header

/-!
# Media types

The value of a content-type header: a type, a subtype with an optional suffix after its last `+`,
and parameters. Only what decides whether a body is JSON is kept.
-/

namespace PullSecrets

/-- A media type in small letters, without its parameters. -/
structure MediaType where
  type : List Char
  subtype : List Char
  suffix : Option (List Char)
  deriving DecidableEq, Repr

namespace MediaType

def isQuotedChar (c : Char) : Bool := 31 < c.toNat && c.toNat != 127

/-- The text after a quoted value, given whether any of it was read and whether the character
before was a backslash. The first character of the value is never its closing quote. -/
def skipQuoted (started escaped : Bool) : List Char → Option (List Char)
  | [] => none
  | c :: rest =>
    if escaped then if isQuotedChar c then skipQuoted true false rest else none
    else if c == '"' && started then some rest
    else if c == '\\' then skipQuoted true true rest
    else if isQuotedChar c then skipQuoted true false rest
    else none

/-- Whether the text is a list of parameters. Each is a token, `=`, and a token or a quoted text;
blanks may stand before a name and after a quoted text. A last value may be empty, and nothing need
follow the last semicolon. -/
def areParameters : Nat → List Char → Bool
  | 0, _ => false
  | n + 1, cs =>
    match cs.dropWhile (· == ' ') with
    | [] => true
    | cs =>
      match cs.span isTokenChar with
      | (_ :: _, '=' :: '"' :: rest) =>
        match skipQuoted false false rest with
        | none => false
        | some rest =>
          match rest.dropWhile (· == ' ') with
          | [] => true
          | ';' :: rest => areParameters n rest
          | _ => false
      | (_ :: _, '=' :: rest) =>
        match rest.span isTokenChar with
        | (_, []) => true
        | (_ :: _, ';' :: rest) => areParameters n rest
        | _ => false
      | _ => false

/-- The parts of a subtype around its last `+`, unless nothing stands before it. -/
def splitSuffix (subtype : List Char) : List Char × Option (List Char) :=
  let (suffix, rest) := subtype.reverse.span (· != '+')
  match rest with
  | '+' :: c :: stem => ((c :: stem).reverse, some suffix.reverse)
  | _ => (subtype, none)

def read? (s : String) : Option MediaType :=
  match s.toList.span isTokenChar with
  | (t :: type, '/' :: rest) =>
    let (subtype, rest) := rest.span isTokenChar
    let (stem, suffix) := splitSuffix subtype
    let small := List.map Char.toLower
    let result : MediaType := ⟨small (t :: type), small stem, suffix.map small⟩
    match subtype, rest with
    | _, [] => some result
    | _ :: _, ';' :: rest => if areParameters (rest.length + 1) rest then some result else none
    | _, _ => none
  | _ => none

/-- Whether the type is JSON, or an application's format built on it. -/
def isJson (m : MediaType) : Bool :=
  m.type == "application".toList && (m.subtype == "json".toList || m.suffix == some "json".toList)

end MediaType

/-- Whether the headers say that the body is JSON. -/
def Headers.announceJson (headers : Headers) : Bool :=
  match (headers.first? "content-type").bind Header.text? with
  | some s =>
    match MediaType.read? s with
    | some m => m.isJson
    | none => false
  | none => false

end PullSecrets
