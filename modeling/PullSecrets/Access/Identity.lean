import PullSecrets.Access.Settings
import PullSecrets.Http.Header
import PullSecrets.Program

/-!
# Identity

A proxy in front of the service names the user of a request in a header. The first header with the
configured name counts, whatever it holds; the configured prefix is taken off its value once.
-/

namespace PullSecrets

/-- What the headers of a request say about its user. -/
inductive Identity where
  | absent
  /-- The header is there but names nobody. -/
  | unusable
  | user (name : String)
  deriving DecidableEq, Repr, Inhabited

namespace Identity

/-- The characters after a prefix, if the text starts with it. -/
def afterPrefix? : List Char → List Char → Option (List Char)
  | [], cs => some cs
  | p :: ps, c :: cs => if p = c then afterPrefix? ps cs else none
  | _ :: _, [] => none

/-- The text without a prefix that it may start with. -/
def withoutPrefix (lead s : String) : String :=
  match afterPrefix? lead.toList s.toList with
  | some rest => String.ofList rest
  | none => s

/-- The user named by the value of a header. -/
def ofHeader (lead : String) (h : Header) : Identity :=
  match h.text? with
  | none => .unusable
  | some value =>
    let name := withoutPrefix lead value
    if name = "" then .unusable else .user name

def ofHeaders (settings : AccessSettings) (headers : Headers) : Identity :=
  match headers.first? settings.userHeader with
  | none => .absent
  | some h => ofHeader settings.userPrefix h

def user? : Identity → Option String
  | .user name => some name
  | _ => none

def event? (settings : AccessSettings) : Identity → Option LogEvent
  | .absent => some (.userHeaderMissing settings.userHeader)
  | .unusable => none
  | .user name => some (.userResolved name settings.userHeader)

end Identity

/-- The user of a request, with a line in the log. -/
def identify (settings : AccessSettings) (headers : Headers) : Program (Option String) :=
  let identity := Identity.ofHeaders settings headers
  match identity.event? settings with
  | some event => .log event (.done identity.user?)
  | none => .done identity.user?

def userOf? (settings : AccessSettings) (headers : Headers) : Option String :=
  (Identity.ofHeaders settings headers).user?

end PullSecrets
