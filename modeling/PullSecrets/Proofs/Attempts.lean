import PullSecrets.Proofs.Changes
import PullSecrets.Proofs.Served

/-! # Attempts at a change

To create and to delete a secret is the same program, run for different values: two questions at
the gate, one call, and the registry PodDefault computed anew. What is proved about
`Attempt.program` holds of both.
-/

namespace PullSecrets

/-- A change to a secret that somebody asks for. -/
inductive Attempt where
  | creation (c : Credential)
  | removal (ns name : String)

namespace Attempt

def ns : Attempt → String
  | .creation c => c.ns
  | .removal ns _ => ns

def name : Attempt → String
  | .creation c => c.name
  | .removal _ name => name

def verb : Attempt → String
  | .creation _ => "create"
  | .removal .. => "delete"

def call : Attempt → Call
  | .creation c => .createSecret c
  | .removal ns name => .deleteSecret ns name

/-- What becomes of the secrets when the call succeeds. -/
def change : Attempt → Change
  | .creation c => .add c.key
  | .removal ns name => .remove ⟨ns, name⟩

def event : Attempt → LogEvent
  | .creation c => .secretCreated c.ns c.name
  | .removal ns name => .secretDeleted ns name

/-- The word for what was done. -/
def done : Attempt → String
  | .creation _ => "created"
  | .removal .. => "deleted"

/-- What the caller is told when all went well. -/
def report (a : Attempt) : String :=
  "Secret " ++ a.name ++ " " ++ a.done ++ " and PodDefault updated in namespace " ++ a.ns

/-- What was tried, when the caller is told that it failed. -/
def trial : Attempt → String
  | .creation _ => "Failed to create secret or update PodDefault"
  | .removal .. => "Failed to delete secret or update PodDefault"

/-- What the gate is asked. -/
def actions (a : Attempt) : List Action := [.secrets a.verb a.ns, .podDefaults "create" a.ns]

/-- The call, and the log line and the PodDefault that follow it. -/
def work (a : Attempt) : Program (Except ServiceError String) :=
  Registry.calling a.call fun _ => Registry.finished a.event a.ns a.name a.done

def program (settings : AccessSettings) (headers : Headers) (a : Attempt) :
    Program (Except ServiceError String) :=
  Registry.gated settings headers (.secrets a.verb a.ns) <|
    Registry.gated settings headers (.podDefaults "create" a.ns) a.work

@[simp] theorem change_key (a : Attempt) : a.change.key = ⟨a.ns, a.name⟩ := by
  cases a <;> rfl

end Attempt

variable {settings : AccessSettings} {headers : Headers}

theorem Registry.create_eq (submission : CredentialRequest) :
    Registry.create settings headers submission =
      match submission.complete? with
      | some c => (Attempt.creation c).program settings headers
      | none => .done (.error .incomplete) := rfl

theorem Registry.delete_eq (ns name : String) :
    Registry.delete settings headers ns name =
      (Attempt.removal ns name).program settings headers := rfl

end PullSecrets
