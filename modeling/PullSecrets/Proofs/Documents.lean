import PullSecrets.Object.Secret
import PullSecrets.Proofs.ReadValues

/-! # Documents read back

A Docker configuration is read back from its text (`DockerConfig.read?_text`). The secret of a
credential carries the text through two more encodings, base 64 and the JSON of the secret, and
what a kubelet takes out of it is the configuration again (`Credential.kept`).
-/

namespace PullSecrets

namespace Source

theorem named?_ofMembers (members : List (String × Json)) :
    named? (ofMembers members) = some (members.map fun m => (m.1, ofJson m.2)) := by
  induction members with
  | nil => rfl
  | cons m members ih =>
      rw [ofMembers, named?, ih]
      rfl

section Maps

variable {α : Type} {encode : α → Json} {decode : Source → Option α}

theorem valuesWith?_ofJson (back : ∀ a, decode (ofJson (encode a)) = some a)
    (entries : List (String × α)) :
    valuesWith? decode (entries.map fun e => (e.1, ofJson (encode e.2))) = some entries := by
  induction entries with
  | nil => rfl
  | cons e entries ih => simp only [List.map_cons, valuesWith?, back, ih, Option.map_some]

/-- A map is read from entries that are read back; of two with one name the later counts. -/
theorem map?_ofJson (back : ∀ a, decode (ofJson (encode a)) = some a)
    (entries : List (String × α)) :
    map? decode (ofJson (.object (entries.map fun (k, a) => (k, encode a)))) =
      some (SortedMap.ofList entries) := by
  have values := valuesWith?_ofJson back entries
  simp only [map?, ofJson, loose?, named?_ofMembers, List.map_map, Function.comp_def, values,
    Option.map_some]

end Maps

end Source

theorem DockerAuth.ofSource?_ofJson (a : DockerAuth) :
    ofSource? (Source.ofJson a.toJson) = some a := by
  simp [ofSource?, toJson, Source.ofJson, Source.ofMembers, Source.record?, Source.named?,
    Source.occurrences, Source.firstNamed?, Source.required?, Source.text?]

namespace DockerConfig

/-- The text of entries in some order, in which registries may be repeated. -/
def textOf (entries : List (String × DockerAuth)) : String :=
  (Json.object [("auths", .object (entries.map fun (k, a) => (k, a.toJson)))]).text

theorem integral (entries : List (String × DockerAuth)) :
    (Json.object [("auths", .object (entries.map fun (k, a) => (k, a.toJson)))]).Integral := by
  refine ⟨?_, trivial⟩
  induction entries with
  | nil => trivial
  | cons e entries ih => exact ⟨⟨trivial, trivial, trivial, trivial, trivial⟩, ih⟩

/-- Of several entries for one registry the last is read. -/
theorem read?_textOf (entries : List (String × DockerAuth)) :
    read? (textOf entries) = some ⟨SortedMap.ofList entries⟩ := by
  have auths := Source.map?_ofJson DockerAuth.ofSource?_ofJson entries
  have fields : Source.record? ["auths"] (Source.ofJson
      (.object [("auths", .object (entries.map fun (k, a) => (k, a.toJson)))])) =
      some (Source.firstNamed? [("auths", Source.ofJson (.object (entries.map
        fun (k, a) => (k, a.toJson))))]) := rfl
  rw [read?, textOf, Source.read?_text (integral entries), Option.bind_some, ofSource?, fields]
  simp [Source.required?, Source.firstNamed?, auths]

/-- Whatever the texts in it are, a configuration is read back from its text. -/
theorem read?_text (d : DockerConfig) : read? d.text = some d := by
  have read := read?_textOf d.auths.entries
  rwa [SortedMap.ofList_entries] at read

end DockerConfig

/-- What a kubelet takes out of a secret on the wire. -/
def Json.dockerConfig? (wire : Json) : Option DockerConfig :=
  match (wire.member? "data").bind fun data => data.member? ".dockerconfigjson" with
  | some (.string encoded) =>
      (Text.Base64.decode? encoded.toList).bind fun content =>
        (Text.decode? content).bind DockerConfig.read?
  | _ => none

namespace Secret

variable (c : Credential)

/-- The data of the secret of a credential on the wire. -/
def wireDataOf : Json :=
  .object [(".dockerconfigjson", .string (String.ofList (Text.Base64.encode
    (Text.encode (DockerConfig.ofCredential c).text))))]

def wireMetadataOf : Json :=
  .object [("labels", ObjectMeta.ownLabels.toJson), ("name", .string c.name),
    ("namespace", .string c.ns)]

/-- The members of the secret of a credential on the wire, in the order they are written. -/
def wireMembersOf : List (String × Json) :=
  [("apiVersion", .string "v1"), ("kind", .string "Secret"), ("data", wireDataOf c),
    ("metadata", wireMetadataOf c), ("type", .string "kubernetes.io/dockerconfigjson")]

theorem toJson_ofCredential : (ofCredential c).toJson = .object (wireMembersOf c) := rfl

theorem wire_integral : Json.MembersIntegral (wireMembersOf c) :=
  ⟨trivial, trivial, ⟨trivial, trivial⟩, ⟨⟨trivial, trivial⟩, trivial, trivial, trivial⟩, trivial,
    trivial⟩

theorem read?_wire :
    Json.read? (ofCredential c).toJson.text =
      some (.object (Json.sortMembers (wireMembersOf c))) := by
  have metadata : Json.Rising [("labels", ObjectMeta.ownLabels.toJson), ("name", .string c.name),
      ("namespace", .string c.ns)] := by
    simp only [List.pairwise_cons, List.mem_cons, forall_eq_or_imp]
    decide
  rw [toJson_ofCredential]
  refine Json.read?_text_object ⟨trivial, trivial, ?_, ?_, trivial, trivial⟩ (wire_integral c)
  · exact ⟨by decide, List.pairwise_singleton _ _, trivial, trivial⟩
  · refine ⟨by decide, metadata, ?_, trivial, trivial, trivial⟩
    exact ⟨by decide, List.pairwise_singleton _ _, trivial, trivial⟩

theorem dockerConfig?_wire :
    (Json.object (Json.sortMembers (wireMembersOf c))).dockerConfig? =
      some (DockerConfig.ofCredential c) := by
  have data : (Json.object (wireMembersOf c)).member? "data" = some (wireDataOf c) := rfl
  have entry : (wireDataOf c).member? ".dockerconfigjson" = some (.string (String.ofList
      (Text.Base64.encode (Text.encode (DockerConfig.ofCredential c).text)))) := rfl
  simp only [Json.dockerConfig?, Json.member?_sortMembers, data, Option.bind_some, entry,
    String.toList_ofList, Text.Base64.decode?_encode, Text.decode?_encode, DockerConfig.read?_text]

/-- A secret keeps a credential: it is of the kind that kubelets use, under the name of the
credential, and what a kubelet takes out of it is the credential and nothing else. -/
structure Keeps (secret : Secret) : Prop where
  name : secret.metadata.name = some c.name
  ns : secret.metadata.ns = some c.ns
  type : secret.type = some "kubernetes.io/dockerconfigjson"
  key : secret.data.map SortedMap.keys = some [".dockerconfigjson"]
  wire : ∃ wire, Json.read? secret.toJson.text = some wire ∧
    (∃ encoded, wire.member? "data" = some (.object [(".dockerconfigjson", .string encoded)])) ∧
    wire.dockerConfig?.map (·.auths.entries) = some [(c.registry,
      { username := c.username, password := c.password, email := c.email
        auth := String.ofList
          (Text.Base64.encode (Text.encode (c.username ++ ":" ++ c.password))) })]

theorem keeps_ofCredential : Keeps c (ofCredential c) where
  name := rfl
  ns := rfl
  type := rfl
  key := rfl
  wire := by
    refine ⟨_, read?_wire c, ⟨_, Json.member?_sortMembers (wireMembersOf c) "data"⟩, ?_⟩
    rw [dockerConfig?_wire]
    rfl

end Secret

end PullSecrets
