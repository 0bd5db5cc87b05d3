import Mathlib.Logic.Relation
import PullSecrets.Proofs.MemberOrder

/-! # Layouts

A layout says what has to stand in an object and what may. Edits that keep to the layout, such as
to write members with different names in another order, make no difference to a decoder that
follows it (`Source.Follows`), and nothing is decoded where something is missing that has to be
there (`Source.Rejects`).
-/

namespace PullSecrets

/-- What is to stand in a tree. -/
inductive Layout where
  | value
  /-- An object with members of its own, some of which may be left out. -/
  | record (mandatory optional : List String) (inside : String → Layout)
  /-- An object whose members may have any names. -/
  | map (entry : Layout)

namespace Source

/-- An object with legible names. -/
def withMembers (members : List (String × Source)) : Source :=
  .object (members.map fun m => (some m.1, m.2))

/-- One edit that is to make no difference. Members with different names change places, a member is
added that the layout does not know, or `null` is written for one that may be missing. -/
inductive Edit : Layout → Source → Source → Prop
  | swap {layout : Layout} (before after : List (String × Source)) {m n : String × Source}
      (apart : m.1 ≠ n.1) :
      Edit layout (withMembers (before ++ m :: n :: after))
        (withMembers (before ++ n :: m :: after))
  | unknown {mandatory optional : List String} {inside : String → Layout}
      (before after : List (String × Source)) {name : String} (s : Source)
      (strange : name ∉ mandatory ++ optional) :
      Edit (.record mandatory optional inside) (withMembers (before ++ after))
        (withMembers (before ++ (name, s) :: after))
  | null {mandatory optional : List String} {inside : String → Layout}
      (before after : List (String × Source)) {name : String} (free : name ∈ optional)
      (absent : name ∉ (before ++ after).map (·.1)) :
      Edit (.record mandatory optional inside) (withMembers (before ++ after))
        (withMembers (before ++ (name, .null) :: after))
  | field {mandatory optional : List String} {inside : String → Layout}
      (before after : List (String × Source)) {name : String} {s t : Source}
      (edit : Edit (inside name) s t) :
      Edit (.record mandatory optional inside) (withMembers (before ++ (name, s) :: after))
        (withMembers (before ++ (name, t) :: after))
  | entry {layout : Layout} (before after : List (String × Source)) {name : String} {s t : Source}
      (edit : Edit layout s t) :
      Edit (.map layout) (withMembers (before ++ (name, s) :: after))
        (withMembers (before ++ (name, t) :: after))

/-- The trees differ by any number of edits, either way. -/
def Reworded (layout : Layout) : Source → Source → Prop := Relation.EqvGen (Edit layout)

/-- Something is missing that has to be there. -/
inductive Lacks : Layout → Source → Prop
  | absent {mandatory optional : List String} {inside : String → Layout}
      {members : List (String × Source)} {name : String} (must : name ∈ mandatory)
      (absent : name ∉ members.map (·.1)) :
      Lacks (.record mandatory optional inside) (withMembers members)
  | field {mandatory optional : List String} {inside : String → Layout}
      {members : List (String × Source)} {name : String} {s : Source} (must : name ∈ mandatory)
      (member : (name, s) ∈ members) (lacks : Lacks (inside name) s) :
      Lacks (.record mandatory optional inside) (withMembers members)
  | entry {layout : Layout} {members : List (String × Source)} {name : String} {s : Source}
      (member : (name, s) ∈ members) (lacks : Lacks layout s) :
      Lacks (.map layout) (withMembers members)

/-- The members with other names. -/
def without (name : String) (members : List (String × Source)) : List (String × Source) :=
  members.filter fun m => m.1 ≠ name

section Decoders

variable {α : Type} {layout : Layout} {decode : Source → Option α}
  {mandatory optional : List String} {inside : String → Layout} {build : Fields → Option α}
  {members before after : List (String × Source)} {s t : Source} {name : String} {f g : Fields}

/-- Edits make no difference to what is decoded. -/
def Follows (layout : Layout) (decode : Source → Option α) : Prop :=
  ∀ ⦃s t⦄, Edit layout s t → decode s = decode t

/-- Where something is missing nothing is decoded. -/
def Rejects (layout : Layout) (decode : Source → Option α) : Prop :=
  ∀ ⦃s⦄, Lacks layout s → decode s = none

theorem Follows.reworded (follows : Follows layout decode) (same : Reworded layout s t) :
    decode s = decode t := by
  induction same with
  | rel s t edit => exact follows edit
  | refl s => rfl
  | symm s t _ ih => exact ih.symm
  | trans s t u _ _ first second => exact first.trans second

theorem follows_text? : Follows .value text? := by
  intro s t edit
  cases edit
  rfl

theorem follows_uint16? : Follows .value uint16? := by
  intro s t edit
  cases edit
  rfl

theorem rejects_value (decode : Source → Option α) : Rejects .value decode := by
  intro s lacks
  cases lacks

/-- Trees that are the same or one edit apart. -/
abbrev Near (layout : Layout) : Source → Source → Prop := Relation.ReflGen (Edit layout)

theorem Follows.near (follows : Follows layout decode) ⦃s t : Source⦄ (near : Near layout s t) :
    decode s = decode t := by
  cases near with
  | refl => rfl
  | single edit => exact follows edit

theorem near_refl (items : List Source) : List.Forall₂ (Near layout) items items :=
  List.forall₂_same.2 fun _ _ => .refl

theorem valuesOf_swap {m n : String × Source} (apart : m.1 ≠ n.1) :
    valuesOf name (before ++ m :: n :: after) = valuesOf name (before ++ n :: m :: after) := by
  obtain ⟨key, s⟩ := m
  obtain ⟨other, t⟩ := n
  rw [valuesOf_append, valuesOf_append]
  by_cases here : key = name
  · subst here
    simp only [valuesOf_cons_self, valuesOf_cons_of_ne _ apart.symm]
  · by_cases there : other = name
    · subst there
      simp only [valuesOf_cons_self, valuesOf_cons_of_ne _ apart]
    · simp only [valuesOf_cons_of_ne _ here, valuesOf_cons_of_ne _ there]

theorem valuesOf_edited {key : String} (edit : key = name → Edit layout s t) :
    List.Forall₂ (Near layout) (valuesOf name (before ++ (key, s) :: after))
      (valuesOf name (before ++ (key, t) :: after)) := by
  rw [valuesOf_append, valuesOf_append]
  refine List.rel_append (near_refl _) ?_
  by_cases here : key = name
  · have first := edit here
    subst here
    rw [valuesOf_cons_self, valuesOf_cons_self]
    exact .cons (.single first) (near_refl _)
  · rw [valuesOf_cons_of_ne _ here, valuesOf_cons_of_ne _ here]
    exact near_refl _

/-- The values of a name before and after an edit: they correspond, or `null` was written where
there was none. -/
inductive ValuesEdit (layout : Layout) (free : Prop) : List Source → List Source → Prop
  | near {before after : List Source} (each : List.Forall₂ (Near layout) before after) :
      ValuesEdit layout free before after
  | null (may : free) : ValuesEdit layout free [] [.null]

theorem ValuesEdit.length_le_one {free : Prop} {before after : List Source}
    (edit : ValuesEdit layout free before after) : before.length ≤ 1 ↔ after.length ≤ 1 := by
  cases edit with
  | near each => rw [each.length_eq]
  | null => simp

theorem valuesEdit_of_edit (edit : Edit (.record mandatory optional inside) s t) :
    ∃ xs ys, s = withMembers xs ∧ t = withMembers ys ∧ ∀ name ∈ mandatory ++ optional,
      ValuesEdit (inside name) (name ∈ optional) (valuesOf name xs) (valuesOf name ys) := by
  cases edit with
  | swap before after apart =>
      refine ⟨_, _, rfl, rfl, fun name _ => ?_⟩
      rw [valuesOf_swap apart]
      exact .near (near_refl _)
  | unknown before after s strange =>
      refine ⟨_, _, rfl, rfl, fun name known => ?_⟩
      have apart := (ne_of_mem_of_not_mem known strange).symm
      rw [valuesOf_append, valuesOf_append, valuesOf_cons_of_ne _ apart]
      exact .near (near_refl _)
  | @null _ _ _ before after key free absent =>
      refine ⟨_, _, rfl, rfl, fun name known => ?_⟩
      by_cases here : key = name
      · subst here
        have none_there := valuesOf_eq_nil absent
        rw [valuesOf_append, List.append_eq_nil_iff] at none_there
        rw [valuesOf_append, valuesOf_append, valuesOf_cons_self, none_there.1, none_there.2]
        exact .null free
      · rw [valuesOf_append, valuesOf_append, valuesOf_cons_of_ne _ here]
        exact .near (near_refl _)
  | field before after edit =>
      refine ⟨_, _, rfl, rfl, fun name _ => .near (valuesOf_edited ?_)⟩
      rintro rfl
      exact edit

theorem record?_withMembers (names : List String) :
    (withMembers members).record? names =
      if ∀ name ∈ names, (valuesOf name members).length ≤ 1 then some (firstNamed? members)
      else none := by
  have named : named? (members.map fun m => (some m.1, m.2)) = some members :=
    named?_eq_some_iff.2 rfl
  simp only [withMembers, record?, named, occurrences_eq, List.all_eq_true, decide_eq_true_eq]

/-- A field before and after an edit. -/
inductive FieldEdit (layout : Layout) (free : Prop) : Option Source → Option Source → Prop
  | near {before after : Option Source} (each : Option.Rel (Near layout) before after) :
      FieldEdit layout free before after
  | null (may : free) : FieldEdit layout free none (some .null)

theorem ValuesEdit.head? {free : Prop} {before after : List Source}
    (edit : ValuesEdit layout free before after) :
    FieldEdit layout free before.head? after.head? := by
  cases edit with
  | near each =>
      cases each with
      | nil => exact .near .none
      | cons first _ => exact .near (.some first)
  | null may => exact .null may

/-- The fields of a record before and after an edit. -/
def FieldsEdit (mandatory optional : List String) (inside : String → Layout) (f g : Fields) :
    Prop :=
  ∀ name ∈ mandatory ++ optional, FieldEdit (inside name) (name ∈ optional) (f name) (g name)

theorem record?_edit (edit : Edit (.record mandatory optional inside) s t) :
    Option.Rel (FieldsEdit mandatory optional inside) (s.record? (mandatory ++ optional))
      (t.record? (mandatory ++ optional)) := by
  obtain ⟨xs, ys, rfl, rfl, values⟩ := valuesEdit_of_edit edit
  have once : (∀ name ∈ mandatory ++ optional, (valuesOf name xs).length ≤ 1) ↔
      ∀ name ∈ mandatory ++ optional, (valuesOf name ys).length ≤ 1 :=
    forall₂_congr fun name known => (values name known).length_le_one
  rw [record?_withMembers, record?_withMembers]
  simp only [once]
  split
  · refine .some fun name known => ?_
    rw [firstNamed?_eq, firstNamed?_eq]
    exact (values name known).head?
  · exact .none

/-- A decoder of a record follows its layout when what it makes of the fields does. -/
theorem follows_record
    (each : ∀ f g, FieldsEdit mandatory optional inside f g → build f = build g) :
    Follows (.record mandatory optional inside)
      fun s => (s.record? (mandatory ++ optional)).bind build := by
  intro s t edit
  rcases rel_cases (record?_edit edit) with ⟨left, right⟩ | ⟨f, g, left, right, fields⟩
  · simp only [left, right]
  · simp only [left, right, Option.bind_some, each f g fields]

theorem nullable?_near (follows : Follows layout decode) (near : Near layout s t) :
    nullable? decode s = nullable? decode t := by
  cases near with
  | refl => rfl
  | single edit =>
      have same := follows edit
      -- edits are made within objects, so neither tree is `null`
      cases edit <;> simpa only [nullable?, withMembers] using congrArg (Option.map some) same

theorem FieldsEdit.required? (fields : FieldsEdit mandatory optional inside f g)
    (known : name ∈ mandatory ++ optional) (fixed : name ∉ optional)
    (follows : Follows (inside name) decode) :
    required? decode f name = required? decode g name := by
  have edit := fields name known
  rw [Source.required?, Source.required?]
  generalize f name = before, g name = after at edit
  cases edit with
  | near each =>
      cases each with
      | none => rfl
      | some near => exact follows.near near
  | null may => exact absurd may fixed

theorem FieldsEdit.optional? (fields : FieldsEdit mandatory optional inside f g)
    (known : name ∈ mandatory ++ optional) (follows : Follows (inside name) decode) :
    optional? decode f name = optional? decode g name := by
  have edit := fields name known
  rw [Source.optional?, Source.optional?]
  generalize f name = before, g name = after at edit
  cases edit with
  | near each =>
      cases each with
      | none => rfl
      | some near => exact nullable?_near follows near
  | null may => rfl

theorem firstNamed?_of_mem (once : (valuesOf name members).length ≤ 1)
    (member : (name, s) ∈ members) : firstNamed? members name = some s := by
  rw [firstNamed?_eq]
  have inside := mem_valuesOf.2 member
  generalize valuesOf name members = values at once inside
  cases inside with
  | head => rfl
  | tail first later =>
      have more := List.length_pos_of_mem later
      simp only [List.length_cons] at once
      omega

/-- A decoder of a record takes no record in which something is missing if it needs the fields that
there have to be. -/
theorem rejects_record
    (each : ∀ f name, name ∈ mandatory → (∀ s ∈ f name, Lacks (inside name) s) → build f = none) :
    Rejects (.record mandatory optional inside)
      fun s => (s.record? (mandatory ++ optional)).bind build := by
  intro s lacks
  cases lacks with
  | absent must absent =>
      simp only [record?_withMembers]
      split
      · refine each _ _ must fun s given => ?_
        rw [firstNamed?_eq, valuesOf_eq_nil absent] at given
        cases given
      · rfl
  | field must member lacks =>
      simp only [record?_withMembers]
      split
      · next once =>
          refine each _ _ must fun s given => ?_
          rw [firstNamed?_of_mem (once _ (List.mem_append_left _ must)) member] at given
          cases given
          exact lacks
      · rfl

theorem required?_eq_none (rejects : Rejects layout decode)
    (lacking : ∀ s ∈ f name, Lacks layout s) : required? decode f name = none := by
  rw [required?]
  cases given : f name with
  | none => rfl
  | some s => exact rejects (lacking s given)

/-- The fields of a record but for one. -/
def clear (name : String) (f : Fields) : Fields :=
  fun other => if other = name then none else f other

theorem required?_clear {other : String} (apart : other ≠ name) :
    required? decode (clear name f) other = required? decode f other := by
  rw [required?, required?, clear, if_neg apart]

theorem optional?_clear {other : String} (apart : other ≠ name) :
    optional? decode (clear name f) other = optional? decode f other := by
  rw [optional?, optional?, clear, if_neg apart]

theorem optional?_clear_self : optional? decode (clear name f) name = some none := by
  rw [optional?, clear, if_pos rfl]

/-- A decoder of a record leaves unset what is left out if it does so where the field is cleared. -/
theorem unset_record (names : List String) {change : α → α} {a : α}
    (each : ∀ f, build f = some a → build (clear name f) = some (change a))
    (read : ((withMembers members).record? names).bind build = some a) :
    ((withMembers (without name members)).record? names).bind build = some (change a) := by
  have values (other : String) : valuesOf other (without name members) =
      if other ≠ name then valuesOf other members else [] := by
    have kept := @valuesOf_filter _ _ _ _ other (fun key => decide (key ≠ name)) members
    simpa [without] using kept
  rw [record?_withMembers] at read ⊢
  split at read
  · next once =>
      have still : ∀ other ∈ names, (valuesOf other (without name members)).length ≤ 1 := by
        intro other known
        rw [values]
        split
        · exact once other known
        · exact Nat.zero_le 1
      have cleared : firstNamed? (without name members) = clear name (firstNamed? members) := by
        funext other
        rw [clear, firstNamed?_eq, firstNamed?_eq, values]
        by_cases same : other = name <;> simp [same]
      rw [if_pos still, cleared]
      exact each _ read
  · cases read

theorem without_null (free : name ∈ optional) :
    Edit (.record mandatory optional inside) (withMembers (without name members))
      (withMembers ((name, .null) :: without name members)) := by
  refine .null [] _ free ?_
  simp

theorem map?_withMembers :
    map? decode (withMembers members) = (valuesWith? decode members).map SortedMap.ofList := by
  have named : named? (members.map fun m => (some m.1, m.2)) = some members :=
    named?_eq_some_iff.2 rfl
  simp only [map?, withMembers, loose?, named]

theorem follows_map? (follows : Follows layout decode) : Follows (.map layout) (map? decode) := by
  intro s t edit
  cases edit with
  | swap before after apart =>
      rw [map?_withMembers, map?_withMembers]
      refine map_valuesWith?_congr (fun name => ?_) fun _ _ => SortedMap.ofList_congr
      rw [valuesOf_swap apart]
  | entry before after edit =>
      rw [map?_withMembers, map?_withMembers]
      refine map_valuesWith?_congr (fun name => ?_) fun _ _ => SortedMap.ofList_congr
      exact itemsWith?_congr follows.near (valuesOf_edited fun _ => edit)

theorem rejects_map? (rejects : Rejects layout decode) : Rejects (.map layout) (map? decode) := by
  intro s lacks
  cases lacks with
  | entry member lacks =>
      have fails : valuesWith? decode _ = none := valuesWith?_eq_none_iff.2
        ⟨_, itemsWith?_eq_none_iff.2 ⟨_, mem_valuesOf.2 member, rejects lacks⟩⟩
      rw [map?_withMembers, fails, Option.map_none]

end Decoders

end Source

end PullSecrets
