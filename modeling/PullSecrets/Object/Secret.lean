import PullSecrets.DockerConfig
import PullSecrets.Object.Meta

/-!
# Secrets

A registry secret is a secret of the type that kubelets use for image pulls; it holds one Docker
configuration.
-/

namespace PullSecrets

structure Secret where
  metadata : ObjectMeta := {}
  data : Option (SortedMap String Bytes) := none
  immutable : Option Bool := none
  stringData : Option (SortedMap String String) := none
  type : Option String := none
  deriving DecidableEq, Inhabited

namespace Secret

def registryType : String := "kubernetes.io/dockerconfigjson"

def registryKey : String := ".dockerconfigjson"

def ofCredential (c : Credential) : Secret where
  metadata := { name := some c.name, ns := some c.ns, labels := some ObjectMeta.ownLabels }
  data := some (SortedMap.empty.insert registryKey (Text.encode (DockerConfig.ofCredential c).text))
  type := some registryType

def isRegistry (s : Secret) : Bool := s.type == some registryType

/-- Bytes in a JSON tree, in base 64; `null` stands for none. -/
def bytesOfSource? : Source → Option Bytes
  | .null => some []
  | s => s.text?.bind fun t => Text.Base64.decode? t.toList

def toJson (s : Secret) : Json :=
  .object <| Json.present [("apiVersion", some (.string "v1")), ("kind", some (.string "Secret")),
    ("data", s.data.map fun m =>
      .object (m.entries.map fun (k, v) => (k, .string (String.ofList (Text.Base64.encode v))))),
    ("immutable", s.immutable.map .bool), ("metadata", some s.metadata.toJson),
    ("stringData", s.stringData.map SortedMap.toJson), ("type", Json.ofText? s.type)]

/-- The secret that a JSON tree describes, with room for so many containers. -/
def ofSource? (room : Nat) (s : Source) : Option Secret := do
  let ms ← s.loose?
  guard (Source.isKind "v1" "Secret" ms)
  some {
    metadata := (← Source.last? (ObjectMeta.ofSource? (room - 1)) ms "metadata").getD {}
    data := ← Source.last? (Source.map? bytesOfSource?) ms "data"
    immutable := ← Source.last? Source.bool? ms "immutable"
    stringData := ← Source.last? (Source.map? Source.text?) ms "stringData"
    type := ← Source.last? Source.text? ms "type" }

def read? (text : String) : Option Secret :=
  (Source.read? text).bind (ofSource? Source.nestingLimit)

end Secret

end PullSecrets
