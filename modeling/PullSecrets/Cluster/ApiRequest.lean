import PullSecrets.Access.Review
import PullSecrets.Cluster.Call
import PullSecrets.Http.Target

/-!
# Requests to the API server

Every call to the cluster is one request. Namespaces and names are put into the target as they
are; what makes the target ill-formed is found before anything is sent.
-/

namespace PullSecrets

structure ApiRequest where
  method : String
  target : String
  contentType : Option String := none
  /-- The body, which is empty if there is none. -/
  body : Option Json := none
  deriving DecidableEq, Inhabited

namespace ApiRequest

/-- The request of some parts, if its target may be sent. -/
def ofParts (method target : String) (contentType : Option String) (body : Option Json) :
    Except ClusterError ApiRequest :=
  match Target.read target with
  | .ok target => .ok { method, target := target.text, contentType, body }
  | .error .length => .error (.api (.unbuildable .targetLength))
  | .error .form => .error (.api (.unbuildable .targetCharacter))

def objectType : String := "application/json"

/-- The content type of objects to be merged into those that are stored. -/
def applyType : String := "application/apply-patch+yaml"

def secretsPath (ns : String) : String := "/api/v1/namespaces/" ++ ns ++ "/secrets"

def podDefaultsPath (ns : String) : String :=
  "/apis/kubeflow.org/v1alpha1/namespaces/" ++ ns ++ "/poddefaults"

/-- The path of an object below that of its kind; the name is not empty. -/
def objectPath (kindPath name : String) : Except ClusterError String :=
  if name = "" then .error (.api (.unbuildable .emptyName)) else .ok (kindPath ++ "/" ++ name)

def review (r : AccessReview) : Except ClusterError ApiRequest :=
  ofParts "POST" "/apis/authorization.k8s.io/v1/subjectaccessreviews?" (some objectType)
    (some r.toJson)

def createSecret (c : Credential) : Except ClusterError ApiRequest :=
  ofParts "POST" (secretsPath c.ns ++ "?") (some objectType) (some (Secret.ofCredential c).toJson)

def listSecrets (ns : String) : Except ClusterError ApiRequest :=
  ofParts "GET" (secretsPath ns ++ "?&fieldSelector=type%3Dkubernetes.io%2Fdockerconfigjson")
    none none

def deleteSecret (ns name : String) : Except ClusterError ApiRequest := do
  let path ← objectPath (secretsPath ns) name
  ofParts "DELETE" (path ++ "?") (some objectType) (some (.object []))

/-- Creates a PodDefault or takes it over, whoever wrote it before. -/
def applyPodDefault (p : PodDefault) : Except ClusterError ApiRequest :=
  match p.metadata.ns, p.metadata.name with
  | none, _ => .error (.internal "PodDefault has no namespace")
  | _, none => .error (.internal "PodDefault has no name")
  | some ns, some name => do
    let path ← objectPath (podDefaultsPath ns) name
    ofParts "PATCH" (path ++ "?&force=true&fieldManager=kubedash") (some applyType) (some p.toJson)

def listPodDefaults (ns : String) : Except ClusterError ApiRequest :=
  ofParts "GET" (podDefaultsPath ns ++ "?") none none

def serverVersion : Except ClusterError ApiRequest := ofParts "GET" "/version" none none

def ofCall : Call → Except ClusterError ApiRequest
  | .review user action => review ⟨user, action⟩
  | .createSecret c => createSecret c
  | .listSecrets ns => listSecrets ns
  | .deleteSecret ns name => deleteSecret ns name
  | .applyPodDefault p => applyPodDefault p
  | .listPodDefaults ns => listPodDefaults ns
  | .serverVersion => serverVersion

end ApiRequest

end PullSecrets
