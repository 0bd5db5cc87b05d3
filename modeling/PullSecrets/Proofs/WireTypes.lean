import PullSecrets.Proofs.Encodings
import PullSecrets.Proofs.Layouts
import PullSecrets.Server.Failure

/-! # Types on the wire

Every type that is exchanged as text is read back from its text, and what is read does not depend
on how the text is worded within the layout of the type (`wire_types_faithful`). Of several values
that are given to one name the order does count: a Docker configuration may name a registry twice,
and then the last entry is the one that is read (`repeated_registry_order_counts`).
-/

namespace PullSecrets

open Source

/-- A member that may be left out, and what a value is without it. -/
structure Omissible (α : Type) where
  name : String
  unset : α → α

/-- A type is faithfully written as text: a value is read back from its text, edits within the
layout do not change what is read, a member that is left out or `null` is read as unset, and nothing
is read where something is missing. -/
structure FaithfulText {α : Type} (layout : Layout) (omissible : List (Omissible α))
    (encode : α → Json) (read? : String → Option α) : Prop where
  back : ∀ a, read? (encode a).text = some a
  injective : ∀ a b, (encode a).text = (encode b).text → a = b
  reworded : ∀ text text' s s', Source.read? text = some s → Source.read? text' = some s' →
    Reworded layout s s' → read? text = read? text'
  unset : ∀ o ∈ omissible, ∀ text text' members a,
    Source.read? text = some (withMembers members) → read? text = some a →
    (Source.read? text' = some (withMembers (without o.name members)) ∨
      Source.read? text' = some (withMembers ((o.name, .null) :: without o.name members))) →
    read? text' = some (o.unset a)
  incomplete : ∀ text s, Source.read? text = some s → Lacks layout s → read? text = none

/-- A type is faithfully written when its values are read back and the decoder of trees keeps to the
layout. -/
theorem faithfulText_of_record {α : Type} {mandatory optional : List String}
    {inside : String → Layout} {omissible : List (Omissible α)} {encode : α → Json}
    {decode : Source → Option α} (back : ∀ a, (Source.read? (encode a).text).bind decode = some a)
    (follows : Follows (.record mandatory optional inside) decode)
    (rejects : Rejects (.record mandatory optional inside) decode)
    (free : ∀ o ∈ omissible, o.name ∈ optional)
    (unset : ∀ o ∈ omissible, ∀ members a, decode (withMembers members) = some a →
      decode (withMembers (without o.name members)) = some (o.unset a)) :
    FaithfulText (.record mandatory optional inside) omissible encode
      fun text => (Source.read? text).bind decode := by
  refine ⟨back, fun a b same => ?_, fun text text' s s' first second same => ?_,
    fun o may text text' members a tree read left_out => ?_, fun text s tree lacks => ?_⟩
  · have read := back a
    rw [same, back b] at read
    exact (Option.some.inj read).symm
  · simp only [first, second, Option.bind_some, follows.reworded same]
  · simp only [tree, Option.bind_some] at read
    have cleared := unset o may members a read
    rcases left_out with absent | null
    · simp only [absent, Option.bind_some, cleared]
    · simp only [null, Option.bind_some, ← follows (without_null (free o may)), cleared]
  · simp only [tree, Option.bind_some, rejects lacks]

namespace Action

def layout : Layout :=
  .record ["verb", "group", "version", "resource"] ["namespace", "subresource"] fun _ => .value

def omissible : List (Omissible Action) :=
  [⟨"namespace", fun a => { a with ns := none }⟩,
    ⟨"subresource", fun a => { a with subresource := none }⟩]

theorem follows : Follows layout ofSource? := by
  refine follows_record fun f g fields => ?_
  have text (name : String) (known : name ∈ fieldNames)
      (fixed : name ∉ ["namespace", "subresource"]) :
      required? text? f name = required? text? g name :=
    fields.required? known fixed follows_text?
  have free (name : String) (known : name ∈ fieldNames) :
      optional? text? f name = optional? text? g name := fields.optional? known follows_text?
  rw [text "verb" (by decide) (by decide), text "group" (by decide) (by decide),
    text "version" (by decide) (by decide), text "resource" (by decide) (by decide),
    free "namespace" (by decide), free "subresource" (by decide)]

theorem rejects : Rejects layout ofSource? := by
  refine rejects_record fun f name must lacking => ?_
  have missing : required? text? f name = none := required?_eq_none (rejects_value _) lacking
  simp only [List.mem_cons, List.not_mem_nil, or_false] at must
  rcases must with rfl | rfl | rfl | rfl <;> simp [missing]

theorem unset : ∀ o ∈ omissible, ∀ members a, ofSource? (withMembers members) = some a →
    ofSource? (withMembers (without o.name members)) = some (o.unset a) := by
  intro o may members a read
  refine unset_record fieldNames (fun f read => ?_) read
  simp only [Option.bind_eq_bind, Option.bind_eq_some_iff, Option.some.injEq] at read
  obtain ⟨verb, first, group, second, version, third, resource, fourth, ns, fifth, sub, sixth,
    rfl⟩ := read
  simp only [omissible, List.mem_cons, List.not_mem_nil, or_false] at may
  rcases may with rfl | rfl <;>
    simp [required?_clear, optional?_clear, optional?_clear_self, *]

/-- The members, with those that may be left out. -/
def written (a : Action) : List (String × Option Json) :=
  [("verb", some (.string a.verb)), ("group", some (.string a.group)),
    ("version", some (.string a.version)), ("resource", some (.string a.resource)),
    ("namespace", Json.ofText? a.ns), ("subresource", Json.ofText? a.subresource)]

theorem toJson_eq (a : Action) : a.toJson = .object (Json.present a.written) := rfl

theorem reads (a : Action) : Reads ofSource? a.toJson a := by
  intro t means
  have distinct : (a.written.map (·.1)).Nodup := (by decide : fieldNames.Nodup)
  obtain ⟨xs, record, members⟩ := record?_of_present fieldNames distinct means
  have text (name s : String) (member : (name, some (.string s)) ∈ a.written) :
      required? text? (firstNamed? xs) name = some s :=
    required?_of_present members distinct member (reads_text s)
  have free (name : String) (value : Option String)
      (member : (name, Json.ofText? value) ∈ a.written) :
      optional? text? (firstNamed? xs) name = some value :=
    optional?_of_present members distinct member (readsField_text value)
  simp only [ofSource?, record, Option.bind_eq_bind, Option.bind_some,
    text "verb" a.verb (by simp [written]), text "group" a.group (by simp [written]),
    text "version" a.version (by simp [written]), text "resource" a.resource (by simp [written]),
    free "namespace" a.ns (by simp [written]), free "subresource" a.subresource (by simp [written])]

theorem integral (a : Action) : a.toJson.Integral := by
  rw [toJson_eq]
  apply Json.integral_present
  simp only [written, List.forall_mem_cons]
  exact ⟨Json.integral_text (some _), Json.integral_text (some _), Json.integral_text (some _),
    Json.integral_text (some _), Json.integral_text _, Json.integral_text _, List.forall_mem_nil _⟩

theorem writable (a : Action) : a.toJson.Writable := by
  rw [toJson_eq]
  apply Json.writable_present
  simp only [written, List.forall_mem_cons]
  exact ⟨Json.writable_text (some _), Json.writable_text (some _), Json.writable_text (some _),
    Json.writable_text (some _), Json.writable_text _, Json.writable_text _, List.forall_mem_nil _⟩

theorem read?_text (a : Action) : read? a.toJson.text = some a :=
  a.reads.text a.integral a.writable

theorem faithfulText : FaithfulText layout omissible toJson read? :=
  faithfulText_of_record read?_text follows rejects (by decide) unset

end Action

namespace CredentialRequest

def layout : Layout := .record [] fieldNames fun _ => .value

def omissible : List (Omissible CredentialRequest) :=
  [⟨"namespace", fun r => { r with ns := none }⟩, ⟨"name", fun r => { r with name := none }⟩,
    ⟨"registry", fun r => { r with registry := none }⟩,
    ⟨"username", fun r => { r with username := none }⟩,
    ⟨"password", fun r => { r with password := none }⟩,
    ⟨"email", fun r => { r with email := none }⟩]

theorem follows : Follows layout ofSource? := by
  refine follows_record fun f g fields => ?_
  have free (name : String) (known : name ∈ fieldNames) :
      optional? text? f name = optional? text? g name := fields.optional? known follows_text?
  rw [free "namespace" (by decide), free "name" (by decide), free "registry" (by decide),
    free "username" (by decide), free "password" (by decide), free "email" (by decide)]

theorem rejects : Rejects layout ofSource? :=
  rejects_record fun _ _ must => absurd must List.not_mem_nil

theorem unset : ∀ o ∈ omissible, ∀ members r, ofSource? (withMembers members) = some r →
    ofSource? (withMembers (without o.name members)) = some (o.unset r) := by
  intro o may members r read
  refine unset_record fieldNames (fun f read => ?_) read
  simp only [Option.bind_eq_bind, Option.bind_eq_some_iff, Option.some.injEq] at read
  obtain ⟨ns, first, name, second, registry, third, username, fourth, password, fifth, email, sixth,
    rfl⟩ := read
  simp only [omissible, List.mem_cons, List.not_mem_nil, or_false] at may
  rcases may with rfl | rfl | rfl | rfl | rfl | rfl <;>
    simp [optional?_clear, optional?_clear_self, *]

/-- The members, all of which are always there. -/
def written (r : CredentialRequest) : List (String × Option Json) :=
  [("namespace", some (fieldJson r.ns)), ("name", some (fieldJson r.name)),
    ("registry", some (fieldJson r.registry)), ("username", some (fieldJson r.username)),
    ("password", some (fieldJson r.password)), ("email", some (fieldJson r.email))]

theorem toJson_eq (r : CredentialRequest) : r.toJson = .object (Json.present r.written) := rfl

theorem reads_field (value : Option String) : Reads (nullable? text?) (fieldJson value) value := by
  cases value with
  | none =>
      intro t means
      cases means
      rfl
  | some s => exact reads_nullable (by simp [fieldJson]) (reads_text s)

theorem reads (r : CredentialRequest) : Reads ofSource? r.toJson r := by
  intro t means
  have distinct : (r.written.map (·.1)).Nodup := (by decide : fieldNames.Nodup)
  obtain ⟨xs, record, members⟩ := record?_of_present fieldNames distinct means
  have free (name : String) (value : Option String)
      (member : (name, some (fieldJson value)) ∈ r.written) :
      optional? text? (firstNamed? xs) name = some value :=
    optional?_of_written members distinct member (reads_field value)
  simp only [ofSource?, record, Option.bind_eq_bind, Option.bind_some,
    free "namespace" r.ns (by simp [written]), free "name" r.name (by simp [written]),
    free "registry" r.registry (by simp [written]), free "username" r.username (by simp [written]),
    free "password" r.password (by simp [written]), free "email" r.email (by simp [written])]

theorem integral_field (value : Option String) : (fieldJson value).Integral := by
  cases value <;> trivial

theorem writable_field (value : Option String) : (fieldJson value).Writable := by
  cases value with
  | none => exact ⟨_, .null⟩
  | some s => exact ⟨_, .string s⟩

theorem integral (r : CredentialRequest) : r.toJson.Integral :=
  ⟨integral_field _, integral_field _, integral_field _, integral_field _, integral_field _,
    integral_field _, trivial⟩

theorem writable (r : CredentialRequest) : r.toJson.Writable := by
  apply Json.writable_object
  simp only [List.forall_mem_cons]
  exact ⟨writable_field _, writable_field _, writable_field _, writable_field _, writable_field _,
    writable_field _, List.forall_mem_nil _⟩

theorem read?_text (r : CredentialRequest) : read? r.toJson.text = some r :=
  r.reads.text r.integral r.writable

theorem faithfulText : FaithfulText layout omissible toJson read? :=
  faithfulText_of_record read?_text follows rejects (by decide) unset

end CredentialRequest

namespace MessageResponse

def layout : Layout := .record ["message"] [] fun _ => .value

theorem follows : Follows layout ofSource? := by
  refine follows_record fun f g fields => ?_
  rw [fields.required? (by decide) (by decide) follows_text?]

theorem rejects : Rejects layout ofSource? := by
  refine rejects_record fun f name must lacking => ?_
  have missing : required? text? f name = none := required?_eq_none (rejects_value _) lacking
  rw [List.mem_singleton.1 must] at missing
  simp [missing]

theorem reads (m : MessageResponse) : Reads ofSource? m.toJson m := by
  intro t means
  have distinct : ([("message", some (Json.string m.message))].map (·.1)).Nodup :=
    List.nodup_singleton _
  obtain ⟨xs, record, members⟩ := record?_of_present ["message"] distinct means
  have text := required?_of_present members distinct (.head _) (reads_text m.message)
  simp only [ofSource?, record, Option.bind_eq_bind, Option.bind_some, text]

theorem writable (m : MessageResponse) : m.toJson.Writable :=
  Json.writable_object (List.forall_mem_singleton.2 ⟨_, .string m.message⟩)

theorem read?_text (m : MessageResponse) : read? m.toJson.text = some m :=
  m.reads.text ⟨trivial, trivial⟩ m.writable

theorem faithfulText : FaithfulText layout [] toJson read? :=
  faithfulText_of_record read?_text follows rejects (List.forall_mem_nil _) (List.forall_mem_nil _)

end MessageResponse

namespace ErrorResponse

def layout : Layout := .record ["status", "code", "error", "timestamp"] [] fun _ => .value

theorem follows : Follows layout ofSource? := by
  refine follows_record fun f g fields => ?_
  have text (name : String) (known : name ∈ ["status", "code", "error", "timestamp"]) :
      required? text? f name = required? text? g name :=
    fields.required? known List.not_mem_nil follows_text?
  have status : required? uint16? f "status" = required? uint16? g "status" :=
    fields.required? (by decide) List.not_mem_nil follows_uint16?
  rw [status, text "code" (by decide), text "error" (by decide), text "timestamp" (by decide)]

theorem rejects : Rejects layout ofSource? := by
  refine rejects_record fun f name must lacking => ?_
  have no_text : required? text? f name = none := required?_eq_none (rejects_value _) lacking
  have no_number : required? uint16? f name = none := required?_eq_none (rejects_value _) lacking
  simp only [List.mem_cons, List.not_mem_nil, or_false] at must
  rcases must with rfl | rfl | rfl | rfl
  · simp [no_number]
  · simp [no_text]
  · simp [no_text]
  · simp [no_text]

theorem isInt64_toNat (status : UInt16) : IsInt64 (status.toNat : Int) := by
  have small := status.toNat_lt
  have least : Int64.minValue.toInt = -9223372036854775808 := by decide
  have greatest : Int64.maxValue.toInt = 9223372036854775807 := by decide
  constructor <;> omega

theorem reads_status (status : UInt16) : Reads uint16? (Json.ofNat status.toNat) status := by
  intro t means
  cases means with
  | number value =>
      have small := status.toNat_lt
      have within : 0 ≤ (status.toNat : Int) ∧ (status.toNat : Int) ≤ 65535 := by omega
      simp only [uint16?, int?, int?_of_value? value]
      rw [if_pos within, Option.map_some, Int.toNat_natCast, UInt16.ofNat_toNat]

/-- The members, all of which are always there. -/
def written (e : ErrorResponse) : List (String × Option Json) :=
  [("status", some (Json.ofNat e.status.toNat)), ("code", some (.string e.code)),
    ("error", some (.string e.error)), ("timestamp", some (.string e.timestamp))]

theorem reads (e : ErrorResponse) : Reads ofSource? e.toJson e := by
  intro t means
  have names : ["status", "code", "error", "timestamp"].Nodup := by decide
  have distinct : (e.written.map (·.1)).Nodup := names
  obtain ⟨xs, record, members⟩ :=
    record?_of_present ["status", "code", "error", "timestamp"] distinct means
  have text (name s : String) (member : (name, some (.string s)) ∈ e.written) :
      required? text? (firstNamed? xs) name = some s :=
    required?_of_present members distinct member (reads_text s)
  have status := required?_of_present members distinct (.head _) (reads_status e.status)
  simp only [ofSource?, record, Option.bind_eq_bind, Option.bind_some, status,
    text "code" e.code (by simp [written]), text "error" e.error (by simp [written]),
    text "timestamp" e.timestamp (by simp [written])]

theorem writable (e : ErrorResponse) : e.toJson.Writable := by
  apply Json.writable_object
  simp only [List.forall_mem_cons]
  exact ⟨Json.writable_int64 (isInt64_toNat _), ⟨_, .string _⟩, ⟨_, .string _⟩, ⟨_, .string _⟩,
    List.forall_mem_nil _⟩

theorem read?_text (e : ErrorResponse) : read? e.toJson.text = some e :=
  e.reads.text ⟨trivial, trivial, trivial, trivial, trivial⟩ e.writable

theorem faithfulText : FaithfulText layout [] toJson read? :=
  faithfulText_of_record read?_text follows rejects (List.forall_mem_nil _) (List.forall_mem_nil _)

end ErrorResponse

namespace DockerAuth

def layout : Layout := .record ["username", "password", "email", "auth"] [] fun _ => .value

theorem follows : Follows layout ofSource? := by
  refine follows_record fun f g fields => ?_
  have text (name : String) (known : name ∈ ["username", "password", "email", "auth"]) :
      required? text? f name = required? text? g name :=
    fields.required? known List.not_mem_nil follows_text?
  rw [text "username" (by decide), text "password" (by decide), text "email" (by decide),
    text "auth" (by decide)]

theorem rejects : Rejects layout ofSource? := by
  refine rejects_record fun f name must lacking => ?_
  have missing : required? text? f name = none := required?_eq_none (rejects_value _) lacking
  simp only [List.mem_cons, List.not_mem_nil, or_false] at must
  rcases must with rfl | rfl | rfl | rfl <;> simp [missing]

end DockerAuth

namespace DockerConfig

def layout : Layout := .record ["auths"] [] fun _ => .map DockerAuth.layout

theorem follows : Follows layout ofSource? := by
  refine follows_record fun f g fields => ?_
  rw [fields.required? (by decide) (by decide) (follows_map? DockerAuth.follows)]

theorem rejects : Rejects layout ofSource? := by
  refine rejects_record fun f name must lacking => ?_
  have missing := required?_eq_none (rejects_map? DockerAuth.rejects) lacking
  rw [List.mem_singleton.1 must] at missing
  simp [missing]

theorem faithfulText : FaithfulText layout [] toJson read? :=
  faithfulText_of_record read?_text follows rejects (List.forall_mem_nil _) (List.forall_mem_nil _)

end DockerConfig

/-- The types that are exchanged as text are faithfully written, whatever the texts in a value. -/
theorem wire_types_faithful :
    FaithfulText Action.layout Action.omissible Action.toJson Action.read? ∧
      FaithfulText CredentialRequest.layout CredentialRequest.omissible CredentialRequest.toJson
        CredentialRequest.read? ∧
      FaithfulText MessageResponse.layout [] MessageResponse.toJson MessageResponse.read? ∧
      FaithfulText ErrorResponse.layout [] ErrorResponse.toJson ErrorResponse.read? ∧
      FaithfulText DockerConfig.layout [] DockerConfig.toJson DockerConfig.read? :=
  ⟨Action.faithfulText, CredentialRequest.faithfulText, MessageResponse.faithfulText,
    ErrorResponse.faithfulText, DockerConfig.faithfulText⟩

namespace DockerConfig

/-- Two entries for one registry may not change places. -/
theorem repeated_registry_order_counts :
    let bob : DockerAuth := ⟨"bob", "p", "e", "a"⟩
    let eve : DockerAuth := ⟨"eve", "p", "e", "a"⟩
    [("r", bob), ("r", eve)].Perm [("r", eve), ("r", bob)] ∧
      read? (textOf [("r", bob), ("r", eve)]) = some ⟨SortedMap.ofList [("r", eve)]⟩ ∧
      read? (textOf [("r", eve), ("r", bob)]) = some ⟨SortedMap.ofList [("r", bob)]⟩ ∧
      read? (textOf [("r", bob), ("r", eve)]) ≠ read? (textOf [("r", eve), ("r", bob)]) := by
  simp only [read?_textOf]
  exact ⟨.swap _ _ _, by decide, by decide, by decide⟩

end DockerConfig

end PullSecrets
