import PullSecrets.Proofs.Metadata

/-! # What is carried along

Of the spec of a PodDefault all members but three are carried along: they come out of the JSON form
with the values with which they went in (`PodDefaultSpec.kept`). A PodDefault that was read is read
back from its JSON form, but for the fractions of seconds in its metadata (`PodDefault.reads`).
`PodDefault.survives` says both, for any order of members.
-/

namespace PullSecrets

open Source

/-- The value of a member of an object, as it stands there; of two with one name the last. -/
def Source.member? (s : Source) (name : String) : Option Source :=
  s.loose?.bind fun xs => (valuesOf name xs).getLast?

theorem Json.member?_object (ms : List (String × Json)) (name : String) :
    (object ms).member? name = (valuesOf name ms).getLast? := by
  rw [member?, valuesOf, List.getLast?_map, ← List.head?_reverse, ← List.filter_reverse,
    List.head?_filter]

theorem SortedMap.valuesOf_entries {α : Type} (m : SortedMap String α) (name : String) :
    valuesOf name m.entries = (m.find? name).toList := by
  obtain ⟨entries, rising⟩ := m
  simp only [find?]
  induction entries with
  | nil => rfl
  | cons e entries ih =>
      obtain ⟨key, value⟩ := e
      by_cases same : key = name
      · subst same
        have later : valuesOf key entries = [] := by
          rw [List.eq_nil_iff_forall_not_mem]
          intro v member
          have below := List.rel_of_pairwise_cons rising (mem_valuesOf.1 member)
          simp at below
        rw [valuesOf_cons_self, later, findIn, if_pos Std.ReflOrd.compare_self]
        rfl
      · have other : compare name key ≠ .eq :=
          fun equal => same (Std.LawfulEqOrd.eq_of_compare equal).symm
        rw [valuesOf_cons_of_ne _ same, ih (List.Pairwise.of_cons rising), findIn, if_neg other]

theorem SortedMap.nodup_names {α : Type} (m : SortedMap String α) :
    (m.entries.map (·.1)).Nodup := by
  rw [List.Nodup, List.pairwise_map]
  refine m.rising.imp fun {a b} below same => ?_
  simp [same] at below

theorem Source.of_guard {condition : Bool} {u : Unit}
    (passes : (guard condition : Option Unit) = some u) : condition = true := by
  cases condition with
  | true => rfl
  | false => cases passes

/-- What stands once and may be missing or `null` is read from its value, if there is one. -/
theorem Source.eq_bind_of_optional? {α : Type} {decode : Source → Option α} {name : String}
    {xs : List (String × Source)} {value : Option α} (null : decode .null = none)
    (once : (valuesOf name xs).length ≤ 1)
    (read : optional? decode (firstNamed? xs) name = some value) :
    value = (valuesOf name xs).getLast?.bind decode := by
  rw [optional?, firstNamed?_eq] at read
  generalize valuesOf name xs = trees at once read
  cases trees with
  | nil =>
      cases read
      rfl
  | cons t rest =>
      obtain rfl : rest = [] := by simpa using once
      cases value with
      | some a => exact (of_nullable? read).2.symm
      | none =>
          cases t with
          | null => exact null.symm
          | bool | number | string | array | object =>
              simp [nullable?] at read

namespace PodDefaultSpec

/-- The members that are looked at, as they are written. -/
def ownMembers (p : PodDefaultSpec) : List (String × Option Json) :=
  [("selector", some p.selector.toJson), ("desc", Json.ofText? p.desc),
    ("imagePullSecrets", p.imagePullSecrets.map fun names => .array (names.map referenceJson))]

theorem toJson_eq (p : PodDefaultSpec) :
    p.toJson = .object (Json.present p.ownMembers ++ p.extra.entries) := rfl

/-- The spec that the members of an object describe, one by one. -/
structure Describes (room : Nat) (xs : List (String × Source)) (p : PodDefaultSpec) : Prop where
  once : ∀ name ∈ ownNames, (valuesOf name xs).length ≤ 1
  selector : (valuesOf "selector" xs).head? = none ∧ p.selector = {} ∨
    ∃ t, (valuesOf "selector" xs).head? = some t ∧ LabelSelector.ofSource? t = some p.selector
  desc : optional? text? (firstNamed? xs) "desc" = some p.desc
  pulls : optional? (list? referenceOfSource?) (firstNamed? xs) "imagePullSecrets" =
    some p.imagePullSecrets
  extra : ∃ pairs, valuesWith? (Json.ofSource? (room - 1)) (xs.filter fun m => m.1 ∉ ownNames) =
    some pairs ∧ p.extra = SortedMap.ofList pairs

theorem ofSource?_eq_some_iff {room : Nat} {s : Source} {p : PodDefaultSpec} :
    ofSource? room s = some p ↔ ∃ xs, s.loose? = some xs ∧ Describes room xs p := by
  have once (xs : List (String × Source)) :
      (ownNames.all fun name => decide (occurrences name xs ≤ 1)) = true ↔
        ∀ name ∈ ownNames, (valuesOf name xs).length ≤ 1 := by
    simp only [List.all_eq_true, decide_eq_true_eq, occurrences_eq]
  constructor
  · intro read
    obtain ⟨xs, loose, read⟩ := Option.bind_eq_some_iff.1 read
    obtain ⟨_, single, read⟩ := Option.bind_eq_some_iff.1 read
    obtain ⟨pairs, free, read⟩ := Option.bind_eq_some_iff.1 read
    have single := (once xs).1 (of_guard single)
    simp only [firstNamed?_eq] at read
    cases selects : (valuesOf "selector" xs).head? with
    | none =>
        rw [selects] at read
        obtain ⟨_, selector, read⟩ := Option.bind_eq_some_iff.1 read
        obtain ⟨_, desc, read⟩ := Option.bind_eq_some_iff.1 read
        obtain ⟨_, pulls, read⟩ := Option.bind_eq_some_iff.1 read
        cases read
        cases selector
        exact ⟨xs, loose, single, .inl ⟨selects, rfl⟩, desc, pulls, pairs, free, rfl⟩
    | some t =>
        rw [selects] at read
        obtain ⟨_, selector, read⟩ := Option.bind_eq_some_iff.1 read
        obtain ⟨_, desc, read⟩ := Option.bind_eq_some_iff.1 read
        obtain ⟨_, pulls, read⟩ := Option.bind_eq_some_iff.1 read
        cases read
        exact ⟨xs, loose, single, .inr ⟨t, selects, selector⟩, desc, pulls, pairs, free, rfl⟩
  · rintro ⟨xs, loose, fields⟩
    obtain ⟨pairs, free, extra⟩ := fields.extra
    have single : (guard (ownNames.all fun name => occurrences name xs ≤ 1) : Option Unit) =
        some () := if_pos ((once xs).2 fields.once)
    refine next_eq_some loose <| next_eq_some single <| next_eq_some free ?_
    simp only [firstNamed?_eq]
    obtain ⟨selects, selector⟩ | ⟨t, selects, selector⟩ := fields.selector
    · rw [selects]
      exact next_eq_some rfl <| next_eq_some fields.desc <| next_eq_some fields.pulls <| by
        rw [← selector, ← extra]
    · rw [selects]
      exact next_eq_some selector <| next_eq_some fields.desc <| next_eq_some fields.pulls <| by
        rw [← extra]

section Kept

variable {room : Nat} {xs : List (String × Source)} {p : PodDefaultSpec} {name : String}

theorem valuesOf_ownMembers {value : Option Json} (member : (name, value) ∈ p.ownMembers) :
    valuesOf name (Json.present p.ownMembers) = value.toList := by
  have distinct : ownNames.Nodup := by decide
  exact valuesOf_present distinct member

theorem valuesOf_ownMembers_of_not_mem (free : name ∉ ownNames) :
    valuesOf name (Json.present p.ownMembers) = [] :=
  valuesOf_eq_nil fun inside => free ((names_present_sublist p.ownMembers).subset inside)

/-- The names of what is carried along are other ones. -/
theorem Describes.find?_extra (fields : Describes room xs p) :
    (∀ name ∈ ownNames, p.extra.find? name = none) ∧
      ∀ name ∉ ownNames, (valuesOf name xs).getLast?.map (Json.ofSource? (room - 1)) =
        (p.extra.find? name).map some := by
  obtain ⟨pairs, free, extra⟩ := fields.extra
  have each (name : String) := itemsWith?_valuesOf free name
  have kept (name : String) : valuesOf name (xs.filter fun m => m.1 ∉ ownNames) =
      if name ∉ ownNames then valuesOf name xs else [] := by
    rw [valuesOf_filter (fun name => decide (name ∉ ownNames))]
    simp only [decide_eq_true_eq]
  simp only [extra, SortedMap.find?_ofList]
  constructor
  · intro name own
    have read := each name
    rw [kept, if_neg (not_not.2 own)] at read
    rw [← Option.some.inj read]
    rfl
  · intro name free
    have read := each name
    rw [kept, if_pos free] at read
    rw [← List.getLast?_map, ← List.getLast?_map, map_eq_of_itemsWith? read]

theorem Describes.member?_toJson (fields : Describes room xs p) :
    (∀ name value, (name, value) ∈ p.ownMembers → p.toJson.member? name = value) ∧
      ∀ name ∉ ownNames, p.toJson.member? name = p.extra.find? name := by
  simp only [toJson_eq, Json.member?_object, valuesOf_append, SortedMap.valuesOf_entries]
  constructor
  · intro name value member
    have own : name ∈ ownNames := List.mem_map_of_mem (f := Prod.fst) member
    rw [valuesOf_ownMembers member, fields.find?_extra.1 name own]
    cases value <;> rfl
  · intro name free
    rw [valuesOf_ownMembers_of_not_mem free]
    cases p.extra.find? name <;> rfl

/-- The names of the members that are written differ from each other. -/
theorem nodup_of_find?_extra (names : ∀ name ∈ ownNames, p.extra.find? name = none) :
    ((Json.present p.ownMembers ++ p.extra.entries).map (·.1)).Nodup := by
  have own : List.Sublist ((Json.present p.ownMembers).map (·.1)) ownNames := by
    rw [show ownNames = p.ownMembers.map (·.1) from rfl]
    exact names_present_sublist p.ownMembers
  rw [List.map_append, List.nodup_append]
  refine ⟨own.nodup (by decide), p.extra.nodup_names, ?_⟩
  rintro name written other carried rfl
  obtain ⟨m, member, rfl⟩ := List.mem_map.1 carried
  have found : p.extra.find? m.1 = some m.2 := (SortedMap.find?_eq_some_iff _).2 member
  rw [names m.1 (own.subset written)] at found
  cases found

end Kept

/-- What is written of a spec, compared with the tree from which it was read. The members that are
not looked at keep their values, none is added but the selector, and of the others a text and a list
of names are kept, while what is missing or `null` is left out. -/
structure Kept (room : Nat) (s : Source) (p : PodDefaultSpec) : Prop where
  carried : ∀ name ∉ ownNames,
    (s.member? name).map (Json.ofSource? (room - 1)) = (p.toJson.member? name).map some
  selector : p.toJson.member? "selector" = some p.selector.toJson
  desc : p.toJson.member? "desc" = (s.member? "desc").bind fun t => t.text?.map .string
  pulls : p.toJson.member? "imagePullSecrets" = (s.member? "imagePullSecrets").bind fun t =>
    (t.list? referenceOfSource?).map fun names => .array (names.map referenceJson)
  distinct : ∃ ms, p.toJson = .object ms ∧ (ms.map (·.1)).Nodup

theorem kept {room : Nat} {s : Source} {p : PodDefaultSpec} (read : ofSource? room s = some p) :
    p.Kept room s := by
  obtain ⟨xs, loose, fields⟩ := ofSource?_eq_some_iff.1 read
  have there (name : String) : s.member? name = (valuesOf name xs).getLast? := by
    rw [Source.member?, loose, Option.bind_some]
  obtain ⟨own, free⟩ := fields.member?_toJson
  refine ⟨?_, own "selector" _ (by simp [ownMembers]), ?_, ?_, _, p.toJson_eq,
    nodup_of_find?_extra fields.find?_extra.1⟩
  · intro name other
    rw [there, free name other, fields.find?_extra.2 name other]
  · have desc := eq_bind_of_optional? rfl (fields.once "desc" (by decide)) fields.desc
    rw [own "desc" (Json.ofText? p.desc) (by simp [ownMembers]), there, desc, Json.ofText?,
      Option.map_bind]
    rfl
  · have pulls := eq_bind_of_optional? rfl (fields.once "imagePullSecrets" (by decide)) fields.pulls
    let listed (names : List String) : Json := .array (names.map referenceJson)
    rw [own "imagePullSecrets" (p.imagePullSecrets.map listed) (by simp [ownMembers, listed]),
      there, pulls, Option.map_bind]
    rfl

/-- What reading ensures. -/
structure Sound (room : Nat) (p : PodDefaultSpec) : Prop where
  names : ∀ name ∈ ownNames, p.extra.find? name = none
  values : ∀ m ∈ p.extra.entries, m.2.WellRead (room - 1) ∧ m.2.Writable

theorem sound_of_ofSource? {room : Nat} {s : Source} {p : PodDefaultSpec}
    (read : ofSource? room s = some p) : p.Sound room := by
  obtain ⟨xs, -, fields⟩ := ofSource?_eq_some_iff.1 read
  refine ⟨fields.find?_extra.1, ?_⟩
  intro m member
  have found : p.extra.find? m.1 = some m.2 := (SortedMap.find?_eq_some_iff _).2 member
  have free : m.1 ∉ ownNames := by
    intro own
    rw [fields.find?_extra.1 m.1 own] at found
    cases found
  have value := fields.find?_extra.2 m.1 free
  rw [found, Option.map_some, Option.map_eq_some_iff] at value
  obtain ⟨t, -, decoded⟩ := value
  exact ⟨Json.wellRead_of_ofSource? t decoded, Json.writable_of_ofSource? decoded⟩

section Back

variable {room : Nat} {xs : List (String × Source)} {p : PodDefaultSpec}

/-- The values of the members that are looked at. -/
theorem values_of_means (names : ∀ name ∈ ownNames, p.extra.find? name = none)
    (members : MembersMean xs (Json.present p.ownMembers ++ p.extra.entries)) {name : String}
    {value : Option Json} (member : (name, value) ∈ p.ownMembers) :
    List.Forall₂ Means (valuesOf name xs) value.toList := by
  have own : name ∈ ownNames := List.mem_map_of_mem (f := Prod.fst) member
  have values := members.valuesOf name
  rwa [valuesOf_append, valuesOf_ownMembers member, SortedMap.valuesOf_entries, names name own,
    Option.toList_none, List.append_nil] at values

/-- The members that are carried along. -/
theorem filter_means (names : ∀ name ∈ ownNames, p.extra.find? name = none)
    (members : MembersMean xs (Json.present p.ownMembers ++ p.extra.entries)) :
    MembersMean (xs.filter fun m => m.1 ∉ ownNames) p.extra.entries := by
  have own : (Json.present p.ownMembers).filter (fun m => m.1 ∉ ownNames) = [] := by
    rw [List.filter_eq_nil_iff]
    intro m member free
    have unknown := valuesOf_ownMembers_of_not_mem (p := p) (of_decide_eq_true free)
    exact List.not_mem_nil (unknown ▸ mem_valuesOf.2 member)
  have carried : p.extra.entries.filter (fun m => m.1 ∉ ownNames) = p.extra.entries := by
    rw [List.filter_eq_self]
    intro m member
    apply decide_eq_true
    intro known
    have found : p.extra.find? m.1 = some m.2 := (SortedMap.find?_eq_some_iff _).2 member
    rw [names m.1 known] at found
    cases found
  have filtered := members.filter fun name => decide (name ∉ ownNames)
  rwa [List.filter_append, own, carried, List.nil_append] at filtered

theorem reads_reference (name : String) : Reads referenceOfSource? (referenceJson name) name := by
  intro t means
  have once : ∀ known ∈ ["name"], (valuesOf known [("name", Json.string name)]).length ≤ 1 := by
    simp [valuesOf]
  obtain ⟨xs, record, members⟩ := record?_of_means means once
  rw [referenceOfSource?, record]
  exact required?_of_values (members.valuesOf "name") (reads_text name)

/-- A spec that was read is read back from its JSON form. -/
theorem reads (sound : p.Sound room) : Reads (ofSource? room) p.toJson p := by
  intro t means
  obtain ⟨xs, loose, members⟩ := loose?_of_means means
  have values {name : String} {value : Option Json} (member : (name, value) ∈ p.ownMembers) :=
    values_of_means sound.names members member
  have references : ReadsField (list? referenceOfSource?)
      (p.imagePullSecrets.map fun names => .array (names.map referenceJson)) p.imagePullSecrets :=
    .same fun _ _ => ⟨by simp, reads_list_same fun name _ => reads_reference name⟩
  refine ofSource?_eq_some_iff.2 ⟨xs, loose, ?_, .inr ?_, ?_, ?_, p.extra.entries, ?_, ?_⟩
  · intro name own
    obtain ⟨field, member, rfl⟩ := List.mem_map.1 (show name ∈ p.ownMembers.map (·.1) from own)
    rw [(values member).length_eq]
    cases field.2 <;> simp
  · have own : ("selector", some p.selector.toJson) ∈ p.ownMembers := .head _
    have tree := values own
    generalize valuesOf "selector" xs = trees at tree ⊢
    cases tree with
    | cons first later => exact ⟨_, rfl, LabelSelector.reads p.selector _ first⟩
  · exact optional?_of_values (values (by simp [ownMembers])) (readsField_text p.desc)
  · exact optional?_of_values (values (by simp [ownMembers])) references
  · have free : ∀ m ∈ p.extra.entries, Reads (Json.ofSource? (room - 1)) (id m.2) m.2 :=
      fun m member => Json.reads_json (sound.values m member).1
    exact valuesWith?_of_means free (by simpa using filter_means sound.names members)
  · exact (SortedMap.ofList_entries _).symm

end Back

theorem writable_ownMembers (p : PodDefaultSpec) :
    ∀ field ∈ p.ownMembers, ∀ j ∈ field.2, j.Writable := by
  simp only [ownMembers, List.forall_mem_cons]
  refine ⟨?_, Json.writable_text p.desc, Json.writable_map fun names _ => ?_, List.forall_mem_nil _⟩
  · rintro j ⟨⟩
    exact p.selector.writable
  · apply Json.writable_array
    rintro j inside
    obtain ⟨name, -, rfl⟩ := List.mem_map.1 inside
    exact Json.writable_object (by simpa using ⟨_, .string name⟩)

theorem writable {room : Nat} {p : PodDefaultSpec} (sound : p.Sound room) : p.toJson.Writable := by
  rw [toJson_eq]
  apply Json.writable_object
  intro m member
  rcases List.mem_append.1 member with own | carried
  · exact Json.writable_of_mem_present (writable_ownMembers p) m own
  · exact (sound.values m carried).2

end PodDefaultSpec

namespace PodDefault

/-- The tree of the spec. -/
def specTree? (s : Source) : Option Source :=
  (s.record? ["metadata", "spec"]).bind fun fields => fields "spec"

/-- Without the fractions of seconds in the metadata. -/
def whole (p : PodDefault) : PodDefault := { p with metadata := p.metadata.whole }

theorem ofSource?_eq_some_iff {room : Nat} {s : Source} {p : PodDefault} :
    ofSource? room s = some p ↔ ∃ fields, s.record? ["metadata", "spec"] = some fields ∧
      required? (ObjectMeta.ofSource? (room - 1)) fields "metadata" = some p.metadata ∧
      required? (PodDefaultSpec.ofSource? (room - 1)) fields "spec" = some p.spec := by
  constructor
  · intro read
    obtain ⟨fields, record, read⟩ := Option.bind_eq_some_iff.1 read
    obtain ⟨_, metadata, read⟩ := Option.bind_eq_some_iff.1 read
    obtain ⟨_, spec, read⟩ := Option.bind_eq_some_iff.1 read
    cases read
    exact ⟨fields, record, metadata, spec⟩
  · rintro ⟨fields, record, metadata, spec⟩
    simp only [ofSource?, record, Option.bind_eq_bind, Option.bind_some, metadata, spec]

/-- The spec is read from its tree. -/
theorem exists_specTree? {room : Nat} {s : Source} {p : PodDefault}
    (read : ofSource? room s = some p) :
    ∃ spec, specTree? s = some spec ∧ PodDefaultSpec.ofSource? (room - 1) spec = some p.spec := by
  obtain ⟨fields, record, -, spec⟩ := ofSource?_eq_some_iff.1 read
  obtain ⟨tree, there, decoded⟩ := Option.bind_eq_some_iff.1 spec
  exact ⟨tree, by rw [specTree?, record, Option.bind_some, there], decoded⟩

/-- What reading ensures. -/
structure Sound (room : Nat) (p : PodDefault) : Prop where
  metadata : p.metadata.Sound (room - 1)
  spec : p.spec.Sound (room - 1)

theorem sound_of_ofSource? {room : Nat} {s : Source} {p : PodDefault}
    (read : ofSource? room s = some p) : p.Sound room := by
  obtain ⟨fields, -, metadata, spec⟩ := ofSource?_eq_some_iff.1 read
  obtain ⟨m, -, metadata⟩ := Option.bind_eq_some_iff.1 metadata
  obtain ⟨t, -, spec⟩ := Option.bind_eq_some_iff.1 spec
  exact ⟨ObjectMeta.sound_of_ofSource? metadata, PodDefaultSpec.sound_of_ofSource? spec⟩

/-- A PodDefault that was read is read back from its JSON form. -/
theorem reads {room : Nat} {p : PodDefault} (sound : p.Sound room) :
    Reads (ofSource? room) p.toJson p.whole := by
  intro t means
  have once : ∀ name ∈ ["metadata", "spec"], (valuesOf name p.members).length ≤ 1 := by
    simp [valuesOf, members]
  obtain ⟨xs, record, members⟩ := record?_of_means means once
  refine ofSource?_eq_some_iff.2 ⟨_, record, ?_, ?_⟩
  · exact required?_of_values (members.valuesOf "metadata") (ObjectMeta.reads sound.metadata)
  · exact required?_of_values (members.valuesOf "spec") (PodDefaultSpec.reads sound.spec)

theorem toJson_whole (p : PodDefault) : p.whole.toJson = p.toJson := by
  simp only [toJson, members, whole, ObjectMeta.toJson_whole]

theorem writable {room : Nat} {p : PodDefault} (sound : p.Sound room) : p.toJson.Writable := by
  apply Json.writable_object
  simp only [members, List.forall_mem_cons]
  exact ⟨⟨_, .string _⟩, ⟨_, .string _⟩, ObjectMeta.writable sound.metadata,
    PodDefaultSpec.writable sound.spec, List.forall_mem_nil _⟩

/-- If its numbers are whole, it is read back from its text. -/
theorem read?_text {p : PodDefault} (sound : p.Sound nestingLimit) (integral : p.toJson.Integral) :
    read? p.toJson.text = some p.whole := by
  rw [read?, Source.read?_text integral, Option.bind_some]
  exact reads sound _ (Json.means_ofJson p.toJson integral (writable sound))

/-- What becomes of a PodDefault that was read from a tree. -/
structure Survives (room : Nat) (s : Source) (p : PodDefault) : Prop where
  /-- The spec is written with all that stands in its tree. -/
  kept : ∃ spec, specTree? s = some spec ∧ p.toJson.member? "spec" = some p.spec.toJson ∧
    p.spec.Kept (room - 1) spec
  /-- The JSON form can be written, and however it is written, the same is read back, but for the
  fractions of seconds. -/
  written : p.toJson.Writable
  back : Reads (ofSource? room) p.toJson p.whole
  text : room = nestingLimit → p.toJson.Integral → read? p.toJson.text = some p.whole
  /-- What is lost is not written, either. -/
  again : p.whole.toJson = p.toJson
  /-- The order of members does not matter. -/
  ordered : ∀ other, s.Reordered other → ofSource? room other = some p

theorem survives {room : Nat} {s : Source} {p : PodDefault} (read : ofSource? room s = some p) :
    p.Survives room s where
  kept := by
    obtain ⟨spec, there, decoded⟩ := exists_specTree? read
    exact ⟨spec, there, rfl, PodDefaultSpec.kept decoded⟩
  written := writable (sound_of_ofSource? read)
  back := reads (sound_of_ofSource? read)
  text := by
    rintro rfl
    exact read?_text (sound_of_ofSource? read)
  again := toJson_whole p
  ordered other reordered := (ofSource?_respects room reordered).symm.trans read

end PodDefault

end PullSecrets
