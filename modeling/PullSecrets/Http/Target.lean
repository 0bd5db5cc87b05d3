import PullSecrets.Http.Header

/-!
# Targets

A target names what a request is for: a path with an optional query, the same after a scheme and
an authority, an authority alone, or `*`. The address of a server has the same forms. A fragment
is dropped.
-/

namespace PullSecrets

/-- A target. Without a scheme there is a path or an authority, but not both; with a scheme the
path is never empty. -/
structure Target where
  scheme : Option String := none
  authority : String := ""
  path : String := ""
  query : Option String := none
  deriving DecidableEq, Repr, Inhabited

inductive TargetFault where
  /-- It is longer than any target may be. -/
  | length
  | form
  deriving DecidableEq, Repr, Inhabited

namespace Target

def lengthLimit : Nat := 65534

def isPathChar (c : Char) : Bool :=
  let n := c.toNat
  n == 0x21 || n == 0x22 || (0x24 ≤ n && n ≤ 0x3b) || n == 0x3d || (0x40 ≤ n && n ≤ 0x5f) ||
    (0x61 ≤ n && n ≤ 0x7e) || 0x80 ≤ n

def isQueryChar (c : Char) : Bool :=
  let n := c.toNat
  n == 0x21 || (0x24 ≤ n && n ≤ 0x3b) || n == 0x3d || (0x3f ≤ n && n ≤ 0x7e) || 0x80 ≤ n

/-- Whether a character may stand in an authority, apart from percent escapes. -/
def isAuthorityChar (c : Char) : Bool :=
  c.isAlphanum || "!$&'()*+,-.:;=@[]_~".toList.contains c

def isSchemeChar (c : Char) : Bool := c.isAlphanum || c == '+' || c == '-' || c == '.' || c == '~'

def schemeLimit : Nat := 64

def readPath (cs : List Char) : Option (String × Option String) :=
  let (path, rest) := cs.span fun c => c != '?' && c != '#'
  if path.all isPathChar then
    match rest with
    | '?' :: rest =>
      let query := rest.takeWhile (· != '#')
      if query.all isQueryChar then some (String.ofList path, some (String.ofList query)) else none
    | _ => some (String.ofList path, none)
  else none

/-- What is known of an authority while it is read. -/
structure AuthorityState where
  colons : Nat := 0
  opened : Bool := false
  closed : Bool := false
  escapes : Bool := false
  lastIsAt : Bool := false

/-- One more character of an authority. Colons and escapes before an `@` belong to the user, and
those within brackets to an address. -/
def AuthorityState.step (s : AuthorityState) (c : Char) : Option AuthorityState :=
  let s := { s with lastIsAt := false }
  if c = ':' then if 8 ≤ s.colons then none else some { s with colons := s.colons + 1 }
  else if c = '[' then if s.escapes || s.opened then none else some { s with opened := true }
  else if c = ']' then
    if !s.opened || s.closed then none
    else some { s with closed := true, colons := 0, escapes := false }
  else if c = '@' then some { s with colons := 0, escapes := false, lastIsAt := true }
  else if c = '%' then some { s with escapes := true }
  else if isAuthorityChar c then some s
  else none

/-- Whether the text is an authority: brackets in pairs, at most one colon outside them, and
something after an `@`. -/
def isAuthority (cs : List Char) : Bool :=
  match cs.foldlM AuthorityState.step {} with
  | some s => s.opened == s.closed && s.colons ≤ 1 && !s.lastIsAt && !s.escapes
  | none => false

/-- An authority and the rest of the target. -/
def splitAuthority (cs : List Char) : List Char × List Char :=
  cs.span fun c => c != '/' && c != '?' && c != '#'

/-- The scheme, if there is one, and the text after it; `none` if the scheme is too long. -/
def splitScheme (cs : List Char) : Option (Option (List Char) × List Char) :=
  match cs.span isSchemeChar with
  | (scheme, ':' :: '/' :: '/' :: rest) =>
    if scheme.length ≤ schemeLimit then some (some scheme, rest) else none
  | _ => some (none, cs)

/-- The usual form of a scheme: the two for the web are written in small letters. -/
def usualScheme (scheme : String) : String :=
  let small := Text.lowerAscii scheme
  if small = "http" ∨ small = "https" then small else scheme

/-- A target that does not start with a slash. -/
def readFull (cs : List Char) : Option Target :=
  match splitScheme cs with
  | none => none
  | some (scheme, cs) =>
    let (authority, rest) := splitAuthority cs
    if !isAuthority authority then none
    else
      match scheme with
      | none => if rest.isEmpty then some { authority := String.ofList authority } else none
      | some scheme =>
        if authority.isEmpty then none
        else
          (readPath rest).map fun (path, query) =>
            { scheme := some (usualScheme (String.ofList scheme))
              authority := String.ofList authority
              path := if path = "" then "/" else path
              query }

def read (text : String) : Except TargetFault Target :=
  if lengthLimit < text.utf8ByteSize then .error .length
  else
    let target := match text.toList with
      | [] => none
      | ['*'] => some { path := "*" }
      | '/' :: rest => (readPath ('/' :: rest)).map fun (path, query) => { path, query }
      | cs => readFull cs
    match target with
    | some t => .ok t
    | none => .error .form

def text (t : Target) : String :=
  (match t.scheme with
    | some scheme => scheme ++ "://"
    | none => "") ++
  t.authority ++ t.path ++
  (match t.query with
    | some query => "?" ++ query
    | none => "")

end Target

end PullSecrets
