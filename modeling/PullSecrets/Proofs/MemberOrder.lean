import Mathlib.Data.List.Forall2
import Mathlib.Data.List.Nodup
import PullSecrets.Object.PodDefault
import PullSecrets.Proofs.ReadValues

/-! # The order of members

In which order an object gives values to different names makes no difference to what is read from
it (`PodDefault.ofSource?_respects`). Only the order of values that are given to one name counts,
so two trees are taken as the same when they give every name the same values in the same order
(`Source.Reordered`).
-/

namespace PullSecrets

/-- Two options are related when both are missing, or both are there and related. -/
theorem rel_cases {α β : Type} {r : α → β → Prop} {a : Option α} {b : Option β}
    (related : Option.Rel r a b) :
    (a = none ∧ b = none) ∨ ∃ x y, a = some x ∧ b = some y ∧ r x y := by
  cases related with
  | none => exact .inl ⟨rfl, rfl⟩
  | some inside => exact .inr ⟨_, _, rfl, rfl, inside⟩

/-- The values that are given to a name, in order. -/
def valuesOf {κ α : Type} [BEq κ] (name : κ) (ms : List (κ × α)) : List α :=
  (ms.filter fun m => m.1 == name).map (·.2)

section Values

variable {κ α β : Type} [BEq κ] [LawfulBEq κ] {name : κ} {ms : List (κ × α)}

theorem valuesOf_cons_self (value : α) :
    valuesOf name ((name, value) :: ms) = value :: valuesOf name ms := by
  simp [valuesOf]

theorem valuesOf_cons_of_ne {other : κ} (value : α) (apart : other ≠ name) :
    valuesOf name ((other, value) :: ms) = valuesOf name ms := by
  simp [valuesOf, apart]

theorem mem_valuesOf {value : α} : value ∈ valuesOf name ms ↔ (name, value) ∈ ms := by
  simp [valuesOf]

theorem valuesOf_eq_nil (free : name ∉ ms.map (·.1)) : valuesOf name ms = [] := by
  rw [List.eq_nil_iff_forall_not_mem]
  intro value member
  exact free (List.mem_map_of_mem (f := Prod.fst) (mem_valuesOf.1 member))

omit [LawfulBEq κ] in
theorem valuesOf_append (ms ns : List (κ × α)) :
    valuesOf name (ms ++ ns) = valuesOf name ms ++ valuesOf name ns := by
  simp [valuesOf]

/-- To keep the members with some names is to keep all values of them and none of others. -/
theorem valuesOf_filter (keep : κ → Bool) (ms : List (κ × α)) :
    valuesOf name (ms.filter fun m => keep m.1) = if keep name then valuesOf name ms else [] := by
  induction ms with
  | nil => cases keep name <;> rfl
  | cons m ms ih =>
      obtain ⟨key, value⟩ := m
      by_cases same : key = name
      · subst same
        by_cases kept : keep key = true
        · simp_all [valuesOf_cons_self]
        · simp_all
      · by_cases kept : keep key = true
        · simp_all [valuesOf_cons_of_ne]
        · simp_all [valuesOf_cons_of_ne]

end Values

/-- Of the values of a name the last counts. -/
theorem SortedMap.find?_ofList {α : Type} (pairs : List (String × α)) (name : String) :
    (ofList pairs).find? name = (valuesOf name pairs).getLast? := by
  have onto (m : SortedMap String α) :
      (pairs.foldl (fun m (k, v) => m.insert k v) m).find? name =
        (valuesOf name pairs).getLast?.or (m.find? name) := by
    induction pairs generalizing m with
    | nil => rfl
    | cons pair pairs ih =>
        obtain ⟨key, value⟩ := pair
        rw [List.foldl_cons, ih]
        by_cases same : key = name
        · subst same
          rw [find?_insert_self, valuesOf_cons_self, List.getLast?_cons]
          cases (valuesOf key pairs).getLast? <;> rfl
        · rw [find?_insert_of_ne _ _ (Ne.symm same), valuesOf_cons_of_ne _ same]
  rw [ofList, onto, find?_empty, Option.or_none]

theorem SortedMap.ofList_congr {α : Type} {pairs pairs' : List (String × α)}
    (same : ∀ name, valuesOf name pairs = valuesOf name pairs') : ofList pairs = ofList pairs' := by
  apply ext_find?
  intro name
  rw [find?_ofList, find?_ofList, same]

theorem Json.sortMembers_congr {ms ns : List (String × Json)}
    (same : ∀ name, valuesOf name ms = valuesOf name ns) : sortMembers ms = sortMembers ns := by
  apply SortedMap.entries_eq_of_find? (sortMembers_rising ms) (sortMembers_rising ns)
  intro name
  have last (ms : List (String × Json)) :
      (ms.reverse.find? fun m => m.1 == name).map (·.2) = (valuesOf name ms).getLast? := by
    rw [valuesOf, List.getLast?_map, ← List.head?_reverse, ← List.filter_reverse, List.head?_filter]
  rw [findIn_sortMembers, findIn_sortMembers, last, last, same]

namespace Source

/-- Objects may give values to different names in another order. -/
inductive Reordered : Source → Source → Prop
  | null : Reordered .null .null
  | bool (b : Bool) : Reordered (.bool b) (.bool b)
  | number (l : Literal) : Reordered (.number l) (.number l)
  | string (content : Option String) : Reordered (.string content) (.string content)
  | array {items items' : List Source} (each : List.Forall₂ Reordered items items') :
      Reordered (.array items) (.array items')
  | object {ms ns : List (Option String × Source)}
      (values : ∀ name, List.Forall₂ Reordered (valuesOf name ms) (valuesOf name ns)) :
      Reordered (.object ms) (.object ns)

mutual
theorem Reordered.refl : (s : Source) → Reordered s s
  | .null => .null
  | .bool b => .bool b
  | .number l => .number l
  | .string content => .string content
  | .array items => .array (forall₂_reordered_refl items)
  | .object ms => .object fun name => List.forall₂_same.2 fun s member =>
      reordered_refl_of_mem ms name s (mem_valuesOf.1 member)

theorem forall₂_reordered_refl : (items : List Source) → List.Forall₂ Reordered items items
  | [] => .nil
  | s :: rest => .cons (Reordered.refl s) (forall₂_reordered_refl rest)

theorem reordered_refl_of_mem : (ms : List (Option String × Source)) → (name : Option String) →
    (s : Source) → (name, s) ∈ ms → Reordered s s
  | (key, t) :: rest, name, s, member => by
      rcases List.mem_cons.1 member with same | later
      · cases same
        exact Reordered.refl t
      · exact reordered_refl_of_mem rest name s later
end

/-- Members with different names may be written in any order. -/
theorem Reordered.of_perm {ms ns : List (Option String × Source)}
    (distinct : (ms.map (·.1)).Nodup) (perm : ms.Perm ns) :
    Reordered (.object ms) (.object ns) := by
  have values (name : Option String) : valuesOf name ms = valuesOf name ns := by
    have one : (ms.filter fun m => m.1 == name).length ≤ 1 := by
      have once := List.nodup_iff_count_le_one.1 distinct name
      rwa [List.count_eq_countP, List.countP_map, List.countP_eq_length_filter] at once
    have same : (ms.filter fun m => m.1 == name).Perm (ns.filter fun m => m.1 == name) :=
      perm.filter _
    rw [valuesOf, valuesOf]
    generalize (ms.filter fun m => m.1 == name) = here at one same
    generalize (ns.filter fun m => m.1 == name) = there at same
    cases here with
    | nil => rw [same.nil_eq]
    | cons m rest =>
        obtain rfl : rest = [] := by simpa using one
        rw [List.perm_singleton.1 same.symm]
  refine .object fun name => ?_
  rw [values name]
  exact forall₂_reordered_refl _

/-- Objects that give every name the same values, but for their order. -/
def MembersReordered (xs ys : List (String × Source)) : Prop :=
  ∀ name, List.Forall₂ Reordered (valuesOf name xs) (valuesOf name ys)

section Reading

variable {α : Type} {decode : Source → Option α} {xs ys : List (String × Source)}
  {items items' : List Source} {s t : Source} {name : String} {names : List String}

/-- What is read does not depend on the order of members. -/
def Respects (decode : Source → Option α) : Prop := ∀ ⦃s t⦄, Reordered s t → decode s = decode t

theorem text?_respects : Respects text? := by
  intro s t same
  cases same <;> rfl

theorem bool?_respects : Respects bool? := by
  intro s t same
  cases same <;> rfl

theorem int?_respects (least greatest : Int) : Respects (int? least greatest) := by
  intro s t same
  cases same <;> rfl

theorem nullable?_respects (respects : Respects decode) : Respects (nullable? decode) := by
  intro s t same
  have decoded := respects same
  cases same with
  | null => rfl
  | bool | number | string | array | object => simp only [nullable?, decoded]

theorem itemsWith?_congr {r : Source → Source → Prop}
    (respects : ∀ ⦃s t⦄, r s t → decode s = decode t) (each : List.Forall₂ r items items') :
    itemsWith? decode items = itemsWith? decode items' := by
  induction each with
  | nil => rfl
  | cons first later ih => simp only [itemsWith?, respects first, ih]

theorem list?_respects (respects : Respects decode) : Respects (list? decode) := by
  intro s t same
  cases same with
  | array each => exact itemsWith?_congr respects each
  | null | bool | number | string | object => rfl

theorem named?_eq_some_iff {ms : List (Option String × Source)} :
    named? ms = some xs ↔ ms = xs.map fun x => (some x.1, x.2) := by
  induction ms generalizing xs with
  | nil => cases xs <;> simp [named?]
  | cons m ms ih =>
      obtain ⟨key | key, s⟩ := m
      · cases xs <;> simp [named?]
      · rw [named?, Option.map_eq_some_iff]
        constructor
        · rintro ⟨rest, read, rfl⟩
          rw [ih.1 read]
          rfl
        · intro same
          cases xs with
          | nil => cases same
          | cons x xs =>
              obtain ⟨first, later⟩ := List.cons.inj same
              cases first
              exact ⟨xs, ih.2 later, rfl⟩

theorem named?_eq_none_iff {ms : List (Option String × Source)} :
    named? ms = none ↔ valuesOf none ms ≠ [] := by
  induction ms with
  | nil => simp [named?, valuesOf]
  | cons m ms ih =>
      obtain ⟨key | key, s⟩ := m
      · simp [named?, valuesOf_cons_self]
      · rw [named?, Option.map_eq_none_iff, ih, valuesOf_cons_of_ne _ (Option.some_ne_none key)]

theorem valuesOf_some (xs : List (String × Source)) (name : String) :
    valuesOf (some name) (xs.map fun x => (some x.1, x.2)) = valuesOf name xs := by
  simp [valuesOf, List.filter_map, Function.comp_def]

theorem named?_reordered {ms ns : List (Option String × Source)}
    (values : ∀ name, List.Forall₂ Reordered (valuesOf name ms) (valuesOf name ns)) :
    Option.Rel MembersReordered (named? ms) (named? ns) := by
  have unnamed : valuesOf none ms = [] ↔ valuesOf none ns = [] := by
    have lengths := (values none).length_eq
    rw [← List.length_eq_zero_iff, ← List.length_eq_zero_iff, lengths]
  cases left : named? ms with
  | none =>
      have right : named? ns = none :=
        named?_eq_none_iff.2 (mt unnamed.2 (named?_eq_none_iff.1 left))
      rw [right]
      exact .none
  | some xs =>
      cases right : named? ns with
      | none =>
          have unread : named? ms = none :=
            named?_eq_none_iff.2 (mt unnamed.1 (named?_eq_none_iff.1 right))
          rw [left] at unread
          cases unread
      | some ys =>
          refine .some fun name => ?_
          have related := values (some name)
          rwa [named?_eq_some_iff.1 left, named?_eq_some_iff.1 right, valuesOf_some,
            valuesOf_some] at related

theorem loose?_reordered (same : Reordered s t) :
    Option.Rel MembersReordered s.loose? t.loose? := by
  cases same with
  | object values => exact named?_reordered values
  | null | bool | number | string | array => exact .none

theorem last?_congr (respects : Respects decode) (same : MembersReordered xs ys) (name : String) :
    last? decode xs name = last? decode ys name := by
  have values := itemsWith?_congr (nullable?_respects respects) (same name)
  simp only [valuesOf] at values
  simp only [last?, values]

theorem itemsWith?_eq_none_iff :
    itemsWith? decode items = none ↔ ∃ s ∈ items, decode s = none := by
  induction items with
  | nil => simp [itemsWith?]
  | cons s items ih => cases read : decode s <;> simp [itemsWith?, read, ih]

theorem valuesWith?_eq_none_iff :
    valuesWith? decode xs = none ↔ ∃ name, itemsWith? decode (valuesOf name xs) = none := by
  have some_fails : valuesWith? decode xs = none ↔ ∃ x ∈ xs, decode x.2 = none := by
    induction xs with
    | nil => simp [valuesWith?]
    | cons x xs ih => cases read : decode x.2 <;> simp [valuesWith?, read, ih]
  rw [some_fails]
  simp only [itemsWith?_eq_none_iff, mem_valuesOf, Prod.exists]

theorem itemsWith?_valuesOf {pairs : List (String × α)} (read : valuesWith? decode xs = some pairs)
    (name : String) : itemsWith? decode (valuesOf name xs) = some (valuesOf name pairs) := by
  induction xs generalizing pairs with
  | nil =>
      cases read
      rfl
  | cons x xs ih =>
      obtain ⟨key, s⟩ := x
      rw [valuesWith?] at read
      split at read
      · next a first =>
          obtain ⟨later, rest, rfl⟩ := Option.map_eq_some_iff.1 read
          by_cases same : key = name
          · subst same
            rw [valuesOf_cons_self, valuesOf_cons_self, itemsWith?, first, ih rest]
            rfl
          · rw [valuesOf_cons_of_ne _ same, valuesOf_cons_of_ne _ same, ih rest]
      · cases read

/-- Values that decode the same under each name decode the same, but for the order of names. -/
theorem valuesWith?_congr
    (each : ∀ name, itemsWith? decode (valuesOf name xs) = itemsWith? decode (valuesOf name ys)) :
    Option.Rel (fun ps qs => ∀ name, valuesOf name ps = valuesOf name qs)
      (valuesWith? decode xs) (valuesWith? decode ys) := by
  have fails : valuesWith? decode xs = none ↔ valuesWith? decode ys = none := by
    simp only [valuesWith?_eq_none_iff, each]
  cases left : valuesWith? decode xs with
  | none =>
      rw [fails.1 left]
      exact .none
  | some ps =>
      cases right : valuesWith? decode ys with
      | none => simp [fails.2 right] at left
      | some qs =>
          refine .some fun name => ?_
          have related := each name
          rwa [itemsWith?_valuesOf left, itemsWith?_valuesOf right, Option.some.injEq] at related

theorem valuesWith?_reordered (respects : Respects decode) (same : MembersReordered xs ys) :
    Option.Rel (fun ps qs => ∀ name, valuesOf name ps = valuesOf name qs)
      (valuesWith? decode xs) (valuesWith? decode ys) :=
  valuesWith?_congr fun name => itemsWith?_congr respects (same name)

theorem map_valuesWith?_congr {β : Type} {build : List (String × α) → β}
    (each : ∀ name, itemsWith? decode (valuesOf name xs) = itemsWith? decode (valuesOf name ys))
    (builds : ∀ ps qs, (∀ name, valuesOf name ps = valuesOf name qs) → build ps = build qs) :
    (valuesWith? decode xs).map build = (valuesWith? decode ys).map build := by
  rcases rel_cases (valuesWith?_congr each) with
    ⟨left, right⟩ | ⟨ps, qs, left, right, values⟩
  · rw [left, right]
  · rw [left, right]
    exact congrArg some (builds ps qs values)

theorem map?_respects (respects : Respects decode) : Respects (map? decode) := by
  intro s t same
  rcases rel_cases (loose?_reordered same) with ⟨left, right⟩ | ⟨xs, ys, left, right, related⟩
  · simp only [map?, left, right]
  · simp only [map?, left, right]
    exact map_valuesWith?_congr (fun name => itemsWith?_congr respects (related name))
      fun _ _ => SortedMap.ofList_congr

/-- Fields that hold the same trees, but for the order of members. -/
def FieldsReordered (f g : Fields) : Prop := ∀ name, Option.Rel Reordered (f name) (g name)

theorem occurrences_eq (xs : List (String × Source)) (name : String) :
    occurrences name xs = (valuesOf name xs).length := by
  rw [occurrences, valuesOf, List.length_map, List.countP_eq_length_filter]

theorem firstNamed?_eq (xs : List (String × Source)) (name : String) :
    firstNamed? xs name = (valuesOf name xs).head? := by
  rw [firstNamed?, valuesOf, List.head?_map, List.head?_filter]

theorem occurrences_congr (same : MembersReordered xs ys) (name : String) :
    occurrences name xs = occurrences name ys := by
  rw [occurrences_eq, occurrences_eq, (same name).length_eq]

theorem firstNamed?_reordered (same : MembersReordered xs ys) :
    FieldsReordered (firstNamed? xs) (firstNamed? ys) := by
  intro name
  rw [firstNamed?_eq, firstNamed?_eq]
  generalize valuesOf name xs = before, valuesOf name ys = after, same name = values
  cases values with
  | nil => exact .none
  | cons first later => exact .some first

theorem getElem?_reordered (each : List.Forall₂ Reordered items items') (n : Nat) :
    Option.Rel Reordered items[n]? items'[n]? := by
  induction each generalizing n with
  | nil => exact .none
  | cons first later ih =>
      cases n with
      | zero => exact .some first
      | succ n => exact ih n

theorem record?_reordered (names : List String) (same : Reordered s t) :
    Option.Rel FieldsReordered (s.record? names) (t.record? names) := by
  cases same with
  | null | bool | number | string => exact .none
  | array each =>
      simp only [record?, each.length_eq]
      split
      · refine .some fun name => ?_
        unfold itemNamed?
        split
        · exact getElem?_reordered each _
        · exact .none
      · exact .none
  | @object ms ns values =>
      rcases rel_cases (named?_reordered values) with
        ⟨left, right⟩ | ⟨xs, ys, left, right, related⟩
      · simp only [record?, left, right]
        exact .none
      · simp only [record?, left, right, occurrences_congr related]
        split
        · exact .some (firstNamed?_reordered related)
        · exact .none

theorem required?_congr {f g : Fields} (respects : Respects decode) (same : FieldsReordered f g)
    (name : String) : required? decode f name = required? decode g name := by
  rcases rel_cases (same name) with ⟨left, right⟩ | ⟨s, t, left, right, related⟩
  · simp only [required?, left, right]
  · simp only [required?, left, right, Option.bind_some, respects related]

theorem optional?_congr {f g : Fields} (respects : Respects decode) (same : FieldsReordered f g)
    (name : String) : optional? decode f name = optional? decode g name := by
  rcases rel_cases (same name) with ⟨left, right⟩ | ⟨s, t, left, right, related⟩
  · simp only [optional?, left, right]
  · simp only [optional?, left, right, nullable?_respects respects related]

theorem filter_reordered (keep : String → Bool) (same : MembersReordered xs ys) :
    MembersReordered (xs.filter fun x => keep x.1) (ys.filter fun y => keep y.1) := by
  intro name
  rw [valuesOf_filter, valuesOf_filter]
  split
  · exact same name
  · exact .nil

end Reading

end Source

namespace Json

theorem itemsOfSource?_eq (room : Nat) (items : List Source) :
    itemsOfSource? room items = Source.itemsWith? (ofSource? room) items := by
  induction items with
  | nil => rfl
  | cons s rest ih =>
      rw [itemsOfSource?, Source.itemsWith?, ih]
      cases ofSource? room s <;> rfl

theorem membersOfSource?_eq (room : Nat) (ms : List (Option String × Source)) :
    membersOfSource? room ms = (Source.named? ms).bind (Source.valuesWith? (ofSource? room)) := by
  induction ms with
  | nil => rfl
  | cons m rest ih =>
      obtain ⟨key | key, s⟩ := m
      · rfl
      · rw [membersOfSource?, ih, Source.named?]
        cases Source.named? rest with
        | none => cases ofSource? room s <;> rfl
        | some xs => cases read : ofSource? room s <;> simp [Source.valuesWith?, read]

theorem ofSource?_respects (room : Nat) : Source.Respects (ofSource? room) := by
  induction room with
  | zero =>
      intro s t same
      cases same <;> rfl
  | succ room ih =>
      intro s t same
      cases same with
      | null | bool | number | string => rfl
      | array each =>
          simp only [ofSource?, itemsOfSource?_eq, Nat.add_sub_cancel,
            Source.itemsWith?_congr ih each]
      | @object ms ns values =>
          simp only [ofSource?, membersOfSource?_eq, Nat.add_sub_cancel]
          rcases rel_cases (Source.named?_reordered values) with
            ⟨left, right⟩ | ⟨xs, ys, left, right, related⟩
          · rw [left, right]
          · have built : (Source.valuesWith? (ofSource? room) xs).map
                (fun ms => object (sortMembers ms)) = _ :=
              Source.map_valuesWith?_congr
                (fun name => Source.itemsWith?_congr ih (related name))
                fun _ _ same => congrArg object (sortMembers_congr same)
            rw [left, right, Option.bind_some, Option.bind_some, built]

end Json

open Source

theorem Instant.ofSource?_respects : Respects Instant.ofSource? := by
  intro s t same
  rw [ofSource?, ofSource?, text?_respects same]

/-- A loose record is read member by member. -/
theorem Source.bind_loose?_respects {α : Type} {next : List (String × Source) → Option α}
    (each : ∀ xs ys, MembersReordered xs ys → next xs = next ys) :
    Respects fun s => s.loose?.bind next := by
  intro s t same
  rcases rel_cases (loose?_reordered same) with ⟨left, right⟩ | ⟨xs, ys, left, right, related⟩
  · simp only [left, right]
  · simp only [left, right, Option.bind_some, each xs ys related]

theorem ManagedFields.ofSource?_respects (room : Nat) : Respects (ofSource? room) := by
  refine bind_loose?_respects fun xs ys related => ?_
  simp only [last?_congr text?_respects related,
    last?_congr (Json.ofSource?_respects room) related,
    last?_congr Instant.ofSource?_respects related]

theorem OwnerReference.ofSource?_respects : Respects ofSource? := by
  refine bind_loose?_respects fun xs ys related => ?_
  simp only [last?_congr text?_respects related, last?_congr bool?_respects related]

theorem ObjectMeta.ofSource?_respects (room : Nat) : Respects (ofSource? room) := by
  refine bind_loose?_respects fun xs ys related => ?_
  have int64? : Respects Source.int64? := int?_respects _ _
  simp only [last?_congr text?_respects related, last?_congr int64? related,
    last?_congr Instant.ofSource?_respects related,
    last?_congr (map?_respects text?_respects) related,
    last?_congr (list?_respects text?_respects) related,
    last?_congr (list?_respects (ManagedFields.ofSource?_respects _)) related,
    last?_congr (list?_respects OwnerReference.ofSource?_respects) related]

theorem LabelRequirement.ofSource?_respects : Respects ofSource? := by
  refine bind_loose?_respects fun xs ys related => ?_
  simp only [last?_congr text?_respects related,
    last?_congr (list?_respects text?_respects) related]

theorem LabelSelector.ofSource?_respects : Respects ofSource? := by
  refine bind_loose?_respects fun xs ys related => ?_
  simp only [last?_congr (list?_respects LabelRequirement.ofSource?_respects) related,
    last?_congr (map?_respects text?_respects) related]

theorem PodDefaultSpec.referenceOfSource?_respects : Respects referenceOfSource? := by
  intro s t same
  rcases rel_cases (record?_reordered ["name"] same) with
    ⟨left, right⟩ | ⟨f, g, left, right, related⟩
  · simp only [referenceOfSource?, left, right]
  · simp only [referenceOfSource?, left, right, Option.bind_eq_bind, Option.bind_some,
      required?_congr text?_respects related]

theorem PodDefaultSpec.ofSource?_respects (room : Nat) : Respects (ofSource? room) := by
  refine bind_loose?_respects fun xs ys related => ?_
  have fields := firstNamed?_reordered related
  have free := filter_reordered (fun name => decide (name ∉ ownNames)) related
  have once : (ownNames.all fun name => decide (occurrences name xs ≤ 1)) =
      ownNames.all fun name => decide (occurrences name ys ≤ 1) := by
    simp only [occurrences_congr related]
  rw [once]
  refine congrArg (Option.bind _) (funext fun _ => ?_)
  simp only [optional?_congr text?_respects fields,
    optional?_congr (list?_respects referenceOfSource?_respects) fields]
  rcases rel_cases (valuesWith?_reordered (Json.ofSource?_respects (room - 1)) free) with
    ⟨left, right⟩ | ⟨ps, qs, left, right, values⟩
  · rw [left, right]
    rfl
  · rw [left, right]
    simp only [Option.bind_eq_bind, Option.bind_some, SortedMap.ofList_congr values]
    rcases rel_cases (fields "selector") with ⟨left, right⟩ | ⟨s, t, left, right, same⟩
    · rw [left, right]
    · rw [left, right]
      simp only [LabelSelector.ofSource?_respects same]

/-- A PodDefault is read the same in whatever order members are written. -/
theorem PodDefault.ofSource?_respects (room : Nat) : Respects (ofSource? room) := by
  intro s t same
  rcases rel_cases (record?_reordered ["metadata", "spec"] same) with
    ⟨left, right⟩ | ⟨f, g, left, right, related⟩
  · simp only [ofSource?, left, right]
  · simp only [ofSource?, left, right, Option.bind_eq_bind, Option.bind_some,
      required?_congr (ObjectMeta.ofSource?_respects _) related,
      required?_congr (PodDefaultSpec.ofSource?_respects _) related]

end PullSecrets
