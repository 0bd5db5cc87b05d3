import PullSecrets.Proofs.Encodings
import PullSecrets.Proofs.Times

/-! # Metadata read back

What was read as the metadata of an object is read back from its JSON form, but for the fractions
of seconds, which are not written (`ObjectMeta.reads`). What makes it so is what reading ensures:
leap seconds end a minute, counters have 64 bits, and a free value has room (`ObjectMeta.Sound`).
-/

namespace PullSecrets

open Source

/-- A step of a decoder that comes to something is followed by the next one. -/
theorem Source.next_eq_some {α β : Type} {x : Option α} {next : α → Option β} {a : α} {b : β}
    (read : x = some a) (rest : next a = some b) : x.bind next = some b := by
  rw [read]
  exact rest

namespace LabelRequirement

theorem reads (r : LabelRequirement) : Reads ofSource? r.toJson r := by
  intro t means
  obtain ⟨xs, loose, members⟩ := loose?_of_means means
  have distinct : ["key", "operator", "values"].Nodup := by decide
  have key : last? text? xs "key" = some (some r.key) :=
    last?_of_present members distinct (by simp) (readsField_written r.key)
  have operator : last? text? xs "operator" = some (some r.operator) :=
    last?_of_present members distinct (by simp) (readsField_written r.operator)
  have values : last? (list? text?) xs "values" = some r.values :=
    last?_of_present members distinct (by simp) (readsField_texts r.values)
  simp only [ofSource?, loose, Option.bind_eq_bind, Option.bind_some, key, operator, values]
  rfl

theorem writable (r : LabelRequirement) : r.toJson.Writable := by
  apply Json.writable_present
  simp only [List.forall_mem_cons]
  exact ⟨Json.writable_text (some _), Json.writable_text (some _),
    Json.writable_map fun ss _ => Json.writable_texts ss, List.forall_mem_nil _⟩

end LabelRequirement

namespace LabelSelector

theorem readsField_expressions (value : Option (List LabelRequirement)) :
    ReadsField (list? LabelRequirement.ofSource?)
      (value.map fun rs => .array (rs.map LabelRequirement.toJson)) value :=
  .same fun _ _ => ⟨by simp, reads_list_same fun r _ => r.reads⟩

theorem reads (s : LabelSelector) : Reads ofSource? s.toJson s := by
  intro t means
  obtain ⟨xs, loose, members⟩ := loose?_of_means means
  have distinct : ["matchExpressions", "matchLabels"].Nodup := by decide
  have expressions : last? (list? LabelRequirement.ofSource?) xs "matchExpressions" =
      some s.matchExpressions :=
    last?_of_present members distinct (by simp) (readsField_expressions s.matchExpressions)
  have labels : last? (map? text?) xs "matchLabels" = some s.matchLabels :=
    last?_of_present members distinct (by simp) (readsField_map s.matchLabels)
  simp only [ofSource?, loose, Option.bind_eq_bind, Option.bind_some, expressions, labels]

theorem writable (s : LabelSelector) : s.toJson.Writable := by
  apply Json.writable_present
  simp only [List.forall_mem_cons]
  refine ⟨Json.writable_map fun rs _ => ?_, Json.writable_map fun m _ => Json.writable_textMap m,
    List.forall_mem_nil _⟩
  exact Json.writable_array (List.forall_mem_map.2 fun r _ => r.writable)

end LabelSelector

namespace Instant

theorem readsField {value : Option Instant} (regular : ∀ t ∈ value, t.Regular) :
    ReadsField ofSource? (value.map toJson) (value.map whole) := by
  refine .map fun t given => ⟨by simp [toJson], ?_⟩
  intro s means
  have text : s.text? = some t.text := reads_text t.text s means
  rw [ofSource?, text, Option.bind_some, read?_text (regular t given)]

theorem toJson_whole (t : Instant) : t.whole.toJson = t.toJson :=
  congrArg Json.string t.text_whole

theorem writable (t : Instant) : t.toJson.Writable := ⟨_, .string t.text⟩

theorem regular_of_last? {xs : List (String × Source)} {name : String} {value : Option Instant}
    (read : last? ofSource? xs name = some value) : ∀ t ∈ value, t.Regular := by
  intro t given
  obtain ⟨s, -, decoded⟩ := exists_of_last? read given
  obtain ⟨text, -, stated⟩ := Option.bind_eq_some_iff.1 decoded
  exact regular_of_read? stated

end Instant

theorem isInt64_of_last? {xs : List (String × Source)} {name : String} {value : Option Int}
    (read : last? int64? xs name = some value) : ∀ n ∈ value, IsInt64 n := by
  intro n given
  obtain ⟨s, -, decoded⟩ := exists_of_last? read given
  cases s with
  | number l =>
      simp only [int64?, int?] at decoded
      split at decoded
      · split at decoded
        · next within =>
            cases decoded
            exact within
        · cases decoded
      · cases decoded
  | null | bool | string | array | object => cases decoded

namespace ManagedFields

/-- Without the fraction of the second. -/
def whole (f : ManagedFields) : ManagedFields := { f with time := f.time.map Instant.whole }

/-- What reading ensures. -/
structure Sound (room : Nat) (f : ManagedFields) : Prop where
  fields : ∀ j ∈ f.fields, j ≠ .null ∧ j.WellRead room ∧ j.Writable
  time : ∀ t ∈ f.time, t.Regular

theorem sound_of_ofSource? {room : Nat} {s : Source} {f : ManagedFields}
    (read : ofSource? room s = some f) : f.Sound room := by
  simp only [ofSource?, Option.bind_eq_bind, Option.bind_eq_some_iff, Option.some.injEq] at read
  obtain ⟨xs, -, apiVersion, -, fieldsType, -, fields, free, manager, -, operation, -, subresource,
    -, time, timed, rfl⟩ := read
  refine ⟨?_, Instant.regular_of_last? timed⟩
  intro j given
  obtain ⟨s, other, decoded⟩ := exists_of_last? free given
  refine ⟨?_, Json.wellRead_of_ofSource? s decoded, Json.writable_of_ofSource? decoded⟩
  rintro rfl
  exact other (Json.eq_null_of_ofSource? decoded)

theorem reads {room : Nat} {f : ManagedFields} (sound : f.Sound room) :
    Reads (ofSource? room) f.toJson f.whole := by
  intro t means
  obtain ⟨xs, loose, members⟩ := loose?_of_means means
  have distinct : ["apiVersion", "fieldsType", "fieldsV1", "manager", "operation", "subresource",
    "time"].Nodup := by decide
  have apiVersion : last? text? xs "apiVersion" = some f.apiVersion :=
    last?_of_present members distinct (by simp) (readsField_text _)
  have fieldsType : last? text? xs "fieldsType" = some f.fieldsType :=
    last?_of_present members distinct (by simp) (readsField_text _)
  have fields : last? (Json.ofSource? room) xs "fieldsV1" = some f.fields := by
    have free : ReadsField (Json.ofSource? room) (f.fields.map id) f.fields :=
      .same fun j given => ⟨(sound.fields j given).1, Json.reads_json (sound.fields j given).2.1⟩
    rw [Option.map_id] at free
    exact last?_of_present members distinct (by simp) free
  have manager : last? text? xs "manager" = some f.manager :=
    last?_of_present members distinct (by simp) (readsField_text _)
  have operation : last? text? xs "operation" = some f.operation :=
    last?_of_present members distinct (by simp) (readsField_text _)
  have subresource : last? text? xs "subresource" = some f.subresource :=
    last?_of_present members distinct (by simp) (readsField_text _)
  have time : last? Instant.ofSource? xs "time" = some (f.time.map Instant.whole) :=
    last?_of_present members distinct (by simp) (Instant.readsField sound.time)
  simp only [ofSource?, loose, Option.bind_eq_bind, Option.bind_some, apiVersion, fieldsType,
    fields, manager, operation, subresource, time]
  rfl

theorem toJson_whole (f : ManagedFields) : f.whole.toJson = f.toJson := by
  have time : (f.time.map Instant.whole).map Instant.toJson = f.time.map Instant.toJson := by
    rw [Option.map_map]
    exact congrArg (f.time.map ·) (funext Instant.toJson_whole)
  simp only [toJson, whole, time]

theorem writable {room : Nat} {f : ManagedFields} (sound : f.Sound room) : f.toJson.Writable := by
  apply Json.writable_present
  simp only [List.forall_mem_cons]
  exact ⟨Json.writable_text _, Json.writable_text _, fun j given => (sound.fields j given).2.2,
    Json.writable_text _, Json.writable_text _, Json.writable_text _,
    Json.writable_map fun t _ => t.writable, List.forall_mem_nil _⟩

end ManagedFields

theorem OwnerReference.writable (r : OwnerReference) : r.toJson.Writable := by
  apply Json.writable_present
  simp only [List.forall_mem_cons]
  exact ⟨Json.writable_text (some _), Json.writable_bool _, Json.writable_bool _,
    Json.writable_text (some _), Json.writable_text (some _), Json.writable_text (some _),
    List.forall_mem_nil _⟩

theorem OwnerReference.reads (r : OwnerReference) : Reads ofSource? r.toJson r := by
  intro t means
  obtain ⟨xs, loose, members⟩ := loose?_of_means means
  have distinct : ["apiVersion", "blockOwnerDeletion", "controller", "kind", "name",
    "uid"].Nodup := by decide
  have apiVersion : last? text? xs "apiVersion" = some (some r.apiVersion) :=
    last?_of_present members distinct (by simp) (readsField_written r.apiVersion)
  have blocks : last? bool? xs "blockOwnerDeletion" = some r.blockOwnerDeletion :=
    last?_of_present members distinct (by simp) (readsField_bool _)
  have controller : last? bool? xs "controller" = some r.controller :=
    last?_of_present members distinct (by simp) (readsField_bool _)
  have kind : last? text? xs "kind" = some (some r.kind) :=
    last?_of_present members distinct (by simp) (readsField_written r.kind)
  have name : last? text? xs "name" = some (some r.name) :=
    last?_of_present members distinct (by simp) (readsField_written r.name)
  have uid : last? text? xs "uid" = some (some r.uid) :=
    last?_of_present members distinct (by simp) (readsField_written r.uid)
  simp only [ofSource?, loose, Option.bind_eq_bind, Option.bind_some, apiVersion, blocks,
    controller, kind, name, uid]
  rfl

namespace ObjectMeta

/-- Without the fractions of seconds. -/
def whole (m : ObjectMeta) : ObjectMeta :=
  { m with
    creationTimestamp := m.creationTimestamp.map Instant.whole
    deletionTimestamp := m.deletionTimestamp.map Instant.whole
    managedFields := m.managedFields.map (List.map ManagedFields.whole) }

/-- The metadata that the members of a loose record describe, one by one. -/
structure Describes (room : Nat) (xs : List (String × Source)) (m : ObjectMeta) : Prop where
  annotations : last? (map? text?) xs "annotations" = some m.annotations
  creation : last? Instant.ofSource? xs "creationTimestamp" = some m.creationTimestamp
  grace : last? int64? xs "deletionGracePeriodSeconds" = some m.deletionGracePeriodSeconds
  deletion : last? Instant.ofSource? xs "deletionTimestamp" = some m.deletionTimestamp
  finalizers : last? (list? text?) xs "finalizers" = some m.finalizers
  generateName : last? text? xs "generateName" = some m.generateName
  generation : last? int64? xs "generation" = some m.generation
  labels : last? (map? text?) xs "labels" = some m.labels
  managed : last? (list? (ManagedFields.ofSource? (room - 3))) xs "managedFields" =
    some m.managedFields
  name : last? text? xs "name" = some m.name
  ns : last? text? xs "namespace" = some m.ns
  owners : last? (list? OwnerReference.ofSource?) xs "ownerReferences" = some m.ownerReferences
  version : last? text? xs "resourceVersion" = some m.resourceVersion
  link : last? text? xs "selfLink" = some m.selfLink
  uid : last? text? xs "uid" = some m.uid

theorem ofSource?_eq_some_iff {room : Nat} {s : Source} {m : ObjectMeta} :
    ofSource? room s = some m ↔ ∃ xs, s.loose? = some xs ∧ Describes room xs m := by
  constructor
  · intro read
    obtain ⟨xs, loose, read⟩ := Option.bind_eq_some_iff.1 read
    obtain ⟨_, annotations, read⟩ := Option.bind_eq_some_iff.1 read
    obtain ⟨_, creation, read⟩ := Option.bind_eq_some_iff.1 read
    obtain ⟨_, grace, read⟩ := Option.bind_eq_some_iff.1 read
    obtain ⟨_, deletion, read⟩ := Option.bind_eq_some_iff.1 read
    obtain ⟨_, finalizers, read⟩ := Option.bind_eq_some_iff.1 read
    obtain ⟨_, generateName, read⟩ := Option.bind_eq_some_iff.1 read
    obtain ⟨_, generation, read⟩ := Option.bind_eq_some_iff.1 read
    obtain ⟨_, labels, read⟩ := Option.bind_eq_some_iff.1 read
    obtain ⟨_, managed, read⟩ := Option.bind_eq_some_iff.1 read
    obtain ⟨_, name, read⟩ := Option.bind_eq_some_iff.1 read
    obtain ⟨_, ns, read⟩ := Option.bind_eq_some_iff.1 read
    obtain ⟨_, owners, read⟩ := Option.bind_eq_some_iff.1 read
    obtain ⟨_, version, read⟩ := Option.bind_eq_some_iff.1 read
    obtain ⟨_, link, read⟩ := Option.bind_eq_some_iff.1 read
    obtain ⟨_, uid, read⟩ := Option.bind_eq_some_iff.1 read
    cases read
    exact ⟨xs, loose, annotations, creation, grace, deletion, finalizers, generateName, generation,
      labels, managed, name, ns, owners, version, link, uid⟩
  · rintro ⟨xs, loose, fields⟩
    exact next_eq_some loose <| next_eq_some fields.annotations <| next_eq_some fields.creation <|
      next_eq_some fields.grace <| next_eq_some fields.deletion <|
      next_eq_some fields.finalizers <| next_eq_some fields.generateName <|
      next_eq_some fields.generation <| next_eq_some fields.labels <|
      next_eq_some fields.managed <| next_eq_some fields.name <| next_eq_some fields.ns <|
      next_eq_some fields.owners <| next_eq_some fields.version <| next_eq_some fields.link <|
      next_eq_some fields.uid rfl

/-- What reading ensures. -/
structure Sound (room : Nat) (m : ObjectMeta) : Prop where
  creation : ∀ t ∈ m.creationTimestamp, t.Regular
  grace : ∀ n ∈ m.deletionGracePeriodSeconds, IsInt64 n
  deletion : ∀ t ∈ m.deletionTimestamp, t.Regular
  generation : ∀ n ∈ m.generation, IsInt64 n
  managed : ∀ fs ∈ m.managedFields, ∀ f ∈ fs, f.Sound (room - 3)

theorem sound_of_ofSource? {room : Nat} {s : Source} {m : ObjectMeta}
    (read : ofSource? room s = some m) : m.Sound room := by
  obtain ⟨xs, -, fields⟩ := ofSource?_eq_some_iff.1 read
  refine ⟨Instant.regular_of_last? fields.creation, isInt64_of_last? fields.grace,
    Instant.regular_of_last? fields.deletion, isInt64_of_last? fields.generation, ?_⟩
  intro fs given f member
  obtain ⟨s, -, decoded⟩ := exists_of_last? fields.managed given
  obtain ⟨t, decoded⟩ := exists_of_list? decoded member
  exact ManagedFields.sound_of_ofSource? decoded

/-- Metadata that were read are read back from their JSON form. -/
theorem reads {room : Nat} {m : ObjectMeta} (sound : m.Sound room) :
    Reads (ofSource? room) m.toJson m.whole := by
  intro t means
  obtain ⟨xs, loose, members⟩ := loose?_of_means means
  have distinct : ["annotations", "creationTimestamp", "deletionGracePeriodSeconds",
    "deletionTimestamp", "finalizers", "generateName", "generation", "labels", "managedFields",
    "name", "namespace", "ownerReferences", "resourceVersion", "selfLink", "uid"].Nodup := by
    decide
  have managed : ReadsField (list? (ManagedFields.ofSource? (room - 3)))
      (m.managedFields.map fun fs => .array (fs.map ManagedFields.toJson))
      m.whole.managedFields :=
    .map fun fs given => ⟨by simp, reads_list fun f member =>
      ManagedFields.reads (sound.managed fs given f member)⟩
  have owners : ReadsField (list? OwnerReference.ofSource?)
      (m.ownerReferences.map fun rs => .array (rs.map OwnerReference.toJson))
      m.ownerReferences :=
    .same fun _ _ => ⟨by simp, reads_list_same fun r _ => r.reads⟩
  refine ofSource?_eq_some_iff.2 ⟨xs, loose, ?_⟩
  exact {
    annotations := last?_of_present members distinct (by simp) (readsField_map m.annotations)
    creation := last?_of_present members distinct (by simp) (Instant.readsField sound.creation)
    grace := last?_of_present members distinct (by simp)
      (readsField_int64 m.deletionGracePeriodSeconds sound.grace)
    deletion := last?_of_present members distinct (by simp) (Instant.readsField sound.deletion)
    finalizers := last?_of_present members distinct (by simp) (readsField_texts m.finalizers)
    generateName := last?_of_present members distinct (by simp) (readsField_text m.generateName)
    generation := last?_of_present members distinct (by simp)
      (readsField_int64 m.generation sound.generation)
    labels := last?_of_present members distinct (by simp) (readsField_map m.labels)
    managed := last?_of_present members distinct (by simp) managed
    name := last?_of_present members distinct (by simp) (readsField_text m.name)
    ns := last?_of_present members distinct (by simp) (readsField_text m.ns)
    owners := last?_of_present members distinct (by simp) owners
    version := last?_of_present members distinct (by simp) (readsField_text m.resourceVersion)
    link := last?_of_present members distinct (by simp) (readsField_text m.selfLink)
    uid := last?_of_present members distinct (by simp) (readsField_text m.uid) }

/-- What is not read back is not written, either. -/
theorem toJson_whole (m : ObjectMeta) : m.whole.toJson = m.toJson := by
  have time (value : Option Instant) :
      (value.map Instant.whole).map Instant.toJson = value.map Instant.toJson := by
    rw [Option.map_map]
    exact congrArg (value.map ·) (funext Instant.toJson_whole)
  have managed (value : Option (List ManagedFields)) :
      (value.map (List.map ManagedFields.whole)).map
          (fun fs => Json.array (fs.map ManagedFields.toJson)) =
        value.map fun fs => Json.array (fs.map ManagedFields.toJson) := by
    simp only [Option.map_map, Function.comp_def, List.map_map, ManagedFields.toJson_whole]
  simp only [toJson, whole, time, managed]

theorem writable {room : Nat} {m : ObjectMeta} (sound : m.Sound room) : m.toJson.Writable := by
  apply Json.writable_present
  simp only [List.forall_mem_cons]
  refine ⟨Json.writable_map fun m _ => Json.writable_textMap m,
    Json.writable_map fun t _ => t.writable,
    Json.writable_map fun n given => Json.writable_int64 (sound.grace n given),
    Json.writable_map fun t _ => t.writable, Json.writable_map fun ss _ => Json.writable_texts ss,
    Json.writable_text _,
    Json.writable_map fun n given => Json.writable_int64 (sound.generation n given),
    Json.writable_map fun m _ => Json.writable_textMap m,
    Json.writable_map fun fs given => ?_, Json.writable_text _, Json.writable_text _,
    Json.writable_map fun rs _ => ?_, Json.writable_text _, Json.writable_text _,
    Json.writable_text _, List.forall_mem_nil _⟩
  · exact Json.writable_array (List.forall_mem_map.2 fun f member =>
      ManagedFields.writable (sound.managed fs given f member))
  · exact Json.writable_array (List.forall_mem_map.2 fun r _ => r.writable)

end ObjectMeta

end PullSecrets
