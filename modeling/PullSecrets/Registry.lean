import PullSecrets.Access.Gate

/-!
# Registry secrets

Creating, listing and removing the registry secrets of a namespace on behalf of a caller. Each
operation runs its stages in order and stops at the first that fails: the gate, the change, and
then the registry PodDefault, which is always computed afresh from all secrets there are. A change
is not undone when the PodDefault cannot follow; the next successful change repairs it.
-/

namespace PullSecrets

/-- Why an operation failed. -/
inductive ServiceError where
  | incomplete
  | unauthorized (e : AccessError)
  | cluster (e : ClusterError)
  deriving DecidableEq, Repr, Inhabited

def ServiceError.message : ServiceError → String
  | .incomplete => "Missing required fields"
  | .unauthorized e => e.message
  | .cluster e => e.apiMessage

namespace Registry

def gated {α : Type} (settings : AccessSettings) (headers : Headers) (action : Action)
    (next : Program (Except ServiceError α)) : Program (Except ServiceError α) := do
  match ← ensureAllowed settings headers action with
  | .ok () => next
  | .error e => pure (.error (.unauthorized e))

/-- Makes a call and continues with its result. -/
def calling {α : Type} (call : Call) (next : call.Result → Program (Except ServiceError α)) :
    Program (Except ServiceError α) :=
  .ask call fun
    | .ok result => next result
    | .error e => .done (.error (.cluster e))

/-- Computes the registry PodDefault of a namespace from its secrets, and stores it. -/
def reconcile (ns : String) : Program (Except ClusterError PodDefault) :=
  .ask (.listSecrets ns) fun
    | .error e => .done (.error e)
    | .ok names =>
      let podDefault := PodDefault.ofSecretNames ns names
      .ask (.applyPodDefault podDefault) fun
        | .error e => .done (.error e)
        | .ok () => .log (.podDefaultWritten ns names.length) (.done (.ok podDefault))

/-- Brings the PodDefault up to date after a secret changed. -/
def reconcileAfter (ns secret : String) : Program (Except ServiceError Unit) := do
  match ← reconcile ns with
  | .ok _ => pure (.ok ())
  | .error e => .log (.podDefaultStale ns secret e) (.done (.error (.cluster e)))

/-- A change that is done, followed by the PodDefault. -/
def finished (event : LogEvent) (ns secret done : String) : Program (Except ServiceError String) :=
  .log event do
    match ← reconcileAfter ns secret with
    | .ok () => pure (.ok ("Secret " ++ secret ++ " " ++ done ++
        " and PodDefault updated in namespace " ++ ns))
    | .error e => pure (.error e)

def createComplete (settings : AccessSettings) (headers : Headers) (c : Credential) :
    Program (Except ServiceError String) :=
  gated settings headers (.secrets "create" c.ns) <|
    gated settings headers (.podDefaults "create" c.ns) <|
      calling (.createSecret c) fun () =>
        finished (.secretCreated c.ns c.name) c.ns c.name "created"

/-- Stores a credential. It has to be complete before anybody is asked. -/
def create (settings : AccessSettings) (headers : Headers) (r : CredentialRequest) :
    Program (Except ServiceError String) :=
  match r.complete? with
  | some c => createComplete settings headers c
  | none => .done (.error .incomplete)

def list (settings : AccessSettings) (headers : Headers) (ns : String) :
    Program (Except ServiceError (List String)) :=
  gated settings headers (.secrets "list" ns) <|
    calling (.listSecrets ns) fun names => .done (.ok names)

/-- Removes a secret. The PodDefault is written anew, so the caller must be allowed to create it. -/
def delete (settings : AccessSettings) (headers : Headers) (ns name : String) :
    Program (Except ServiceError String) :=
  gated settings headers (.secrets "delete" ns) <|
    gated settings headers (.podDefaults "create" ns) <|
      calling (.deleteSecret ns name) fun () =>
        finished (.secretDeleted ns name) ns name "deleted"

/-- The form of the service for diagnosis; the cluster behind it is not shown. -/
def diagnosis (settings : AccessSettings) : String :=
  "RegistrySecretService \x7b authorizer: Authorizer \x7b config: " ++ settings.diagnosis ++
    " \x7d \x7d"

end Registry

end PullSecrets
