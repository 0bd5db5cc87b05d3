import PullSecrets.Proofs.Documents
import PullSecrets.Proofs.MemberOrder

/-! # Reading what was written

A tree means a value when it has its parts, with a literal for every number (`Source.Means`). A
decoder reads a value when it gets the same from every tree that means it (`Source.Reads`), so that
it does not matter how numbers are written. Of a loose record whose members may be missing each one
is read by itself (`last?_of_present`).
-/

namespace PullSecrets

namespace Source

/-- The tree has the parts of the value, and its literals have the values of the numbers. -/
inductive Means : Source → Json → Prop
  | null : Means .null .null
  | bool (b : Bool) : Means (.bool b) (.bool b)
  | number {l : Literal} {n : Number} (value : l.value? = some n) : Means (.number l) (.number n)
  | string (s : String) : Means (.string (some s)) (.string s)
  | array {items : List Source} {js : List Json} (each : List.Forall₂ Means items js) :
      Means (.array items) (.array js)
  | object {xs : List (String × Source)} {js : List (String × Json)}
      (names : xs.map (·.1) = js.map (·.1))
      (values : List.Forall₂ Means (xs.map (·.2)) (js.map (·.2))) :
      Means (.object (xs.map fun x => (some x.1, x.2))) (.object js)

/-- A value is read as something, whatever tree it comes in. -/
def Reads {α : Type} (decode : Source → Option α) (j : Json) (a : α) : Prop :=
  ∀ s, s.Means j → decode s = some a

/-- Members with the names of some others, and trees that mean their values. -/
structure MembersMean (xs : List (String × Source)) (js : List (String × Json)) : Prop where
  names : xs.map (·.1) = js.map (·.1)
  values : List.Forall₂ Means (xs.map (·.2)) (js.map (·.2))

section Reading

variable {α β : Type} {decode : Source → Option β} {encode : α → Json} {f : α → β}
  {xs : List (String × Source)} {js : List (String × Json)}

theorem reads_text (s : String) : Reads text? (.string s) s := by
  intro t means
  cases means
  rfl

theorem reads_bool (b : Bool) : Reads bool? (.bool b) b := by
  intro t means
  cases means
  rfl

theorem int?_of_value? {l : Literal} {n : Int} (value : l.value? = some (.int n)) :
    l.int? = some n := by
  unfold Literal.value? at value
  cases whole : l.int? with
  | some m =>
      rw [whole] at value
      cases value
      rfl
  | none =>
      rw [whole] at value
      cases float : l.float? with
      | none => simp [float] at value
      | some x => simp [float] at value

/-- A number of 64 bits with a sign. -/
def IsInt64 (n : Int) : Prop := Int64.minValue.toInt ≤ n ∧ n ≤ Int64.maxValue.toInt

theorem reads_int64 {n : Int} (fits : IsInt64 n) : Reads int64? (.number (.int n)) n := by
  intro t means
  cases means with
  | number value =>
      simp only [int64?, int?, int?_of_value? value]
      exact if_pos fits

theorem reads_items {as : List α} (each : ∀ a ∈ as, Reads decode (encode a) (f a))
    {items : List Source} (means : List.Forall₂ Means items (as.map encode)) :
    itemsWith? decode items = some (as.map f) := by
  induction as generalizing items with
  | nil =>
      cases means
      rfl
  | cons a as ih =>
      cases means with
      | cons first later =>
          have rest := ih (fun b member => each b (.tail _ member)) later
          simp only [itemsWith?, each a (.head _) _ first, rest, Option.map_some, List.map_cons]

theorem reads_list {as : List α} (each : ∀ a ∈ as, Reads decode (encode a) (f a)) :
    Reads (list? decode) (.array (as.map encode)) (as.map f) := by
  intro t means
  cases means with
  | array items => exact reads_items each items

theorem reads_list_same {encode : β → Json} {bs : List β}
    (each : ∀ b ∈ bs, Reads decode (encode b) b) :
    Reads (list? decode) (.array (bs.map encode)) bs := by
  have list : Reads (list? decode) (.array (bs.map encode)) (bs.map id) := reads_list each
  rwa [List.map_id] at list

theorem reads_texts (ss : List String) : Reads (list? text?) (Json.ofTexts ss) ss :=
  reads_list_same fun s _ => reads_text s

theorem loose?_of_means {s : Source} (means : s.Means (.object js)) :
    ∃ xs, s.loose? = some xs ∧ MembersMean xs js := by
  cases means with
  | object names values => exact ⟨_, named?_eq_some_iff.2 rfl, names, values⟩

theorem MembersMean.nil_inv (means : MembersMean xs []) : xs = [] :=
  List.map_eq_nil_iff.1 means.names

theorem MembersMean.cons_inv {j : String × Json} (means : MembersMean xs (j :: js)) :
    ∃ s rest, xs = (j.1, s) :: rest ∧ s.Means j.2 ∧ MembersMean rest js := by
  obtain ⟨names, values⟩ := means
  cases xs with
  | nil => cases names
  | cons x rest =>
      obtain ⟨key, s⟩ := x
      obtain ⟨other, value⟩ := j
      obtain ⟨same, later⟩ := List.cons.inj names
      obtain rfl : key = other := same
      cases values with
      | cons first others => exact ⟨s, rest, rfl, first, later, others⟩

theorem MembersMean.valuesOf (means : MembersMean xs js) (name : String) :
    List.Forall₂ Means (valuesOf name xs) (valuesOf name js) := by
  induction js generalizing xs with
  | nil =>
      rw [means.nil_inv]
      exact .nil
  | cons j js ih =>
      obtain ⟨s, rest, rfl, first, later⟩ := means.cons_inv
      obtain ⟨key, value⟩ := j
      by_cases here : key = name
      · subst here
        rw [valuesOf_cons_self, valuesOf_cons_self]
        exact .cons first (ih later)
      · rw [valuesOf_cons_of_ne _ here, valuesOf_cons_of_ne _ here]
        exact ih later

theorem MembersMean.filter (keep : String → Bool) (means : MembersMean xs js) :
    MembersMean (xs.filter fun x => keep x.1) (js.filter fun j => keep j.1) := by
  induction js generalizing xs with
  | nil =>
      rw [means.nil_inv]
      exact ⟨rfl, .nil⟩
  | cons j js ih =>
      obtain ⟨s, rest, rfl, first, later⟩ := means.cons_inv
      have others := ih later
      simp only [List.filter_cons]
      split
      · exact ⟨congrArg (j.1 :: ·) others.names, .cons first others.values⟩
      · exact others

theorem valuesWith?_of_means {entries : List (String × α)} {decode : Source → Option α}
    (each : ∀ e ∈ entries, Reads decode (encode e.2) e.2)
    (means : MembersMean xs (entries.map fun e => (e.1, encode e.2))) :
    valuesWith? decode xs = some entries := by
  induction entries generalizing xs with
  | nil =>
      rw [means.nil_inv]
      rfl
  | cons e entries ih =>
      obtain ⟨s, rest, rfl, first, later⟩ := means.cons_inv
      have others := ih (fun e member => each e (.tail _ member)) later
      simp only [valuesWith?, each e (.head _) s first, others, Option.map_some]

theorem names_present_sublist (fields : List (String × Option Json)) :
    List.Sublist ((Json.present fields).map (·.1)) (fields.map (·.1)) := by
  induction fields with
  | nil => exact .slnil
  | cons field fields ih =>
      obtain ⟨name, value⟩ := field
      cases value with
      | none => exact ih.cons name
      | some j => exact ih.cons_cons name

theorem valuesOf_present {fields : List (String × Option Json)} {name : String}
    {value : Option Json} (distinct : (fields.map (·.1)).Nodup) (member : (name, value) ∈ fields) :
    PullSecrets.valuesOf name (Json.present fields) = value.toList := by
  induction fields with
  | nil => cases member
  | cons field fields ih =>
      obtain ⟨key, other⟩ := field
      obtain ⟨fresh, rest⟩ := List.nodup_cons.1 distinct
      have whole : Json.present ((key, other) :: fields) =
          (other.map fun j => (key, j)).toList ++ Json.present fields := by
        cases other <;> rfl
      rw [whole, valuesOf_append]
      cases member with
      | head =>
          have none_later : PullSecrets.valuesOf name (Json.present fields) = [] :=
            valuesOf_eq_nil fun inside => fresh ((names_present_sublist fields).subset inside)
          rw [none_later]
          cases value <;> simp [PullSecrets.valuesOf]
      | tail _ later =>
          have apart : key ≠ name := by
            rintro rfl
            exact fresh (List.mem_map.2 ⟨_, later, rfl⟩)
          rw [ih rest later]
          cases other <;> simp [PullSecrets.valuesOf, apart]

theorem reads_nullable {j : Json} {b : β} (given : j ≠ .null) (reads : Reads decode j b) :
    Reads (nullable? decode) j (some b) := by
  intro s means
  have read := reads s means
  cases means with
  | null => exact absurd rfl given
  | bool | number | string | array | object => simp only [nullable?, read, Option.map_some]

/-- A member that may be missing is read as something that may be, too. -/
def ReadsField (decode : Source → Option β) : Option Json → Option β → Prop :=
  Option.Rel fun j b => j ≠ .null ∧ Reads decode j b

theorem ReadsField.map {value : Option α}
    (each : ∀ a ∈ value, encode a ≠ .null ∧ Reads decode (encode a) (f a)) :
    ReadsField decode (value.map encode) (value.map f) := by
  cases value with
  | none => exact .none
  | some a => exact .some (each a rfl)

theorem ReadsField.same {value : Option β} {encode : β → Json}
    (each : ∀ b ∈ value, encode b ≠ .null ∧ Reads decode (encode b) b) :
    ReadsField decode (value.map encode) value := by
  cases value with
  | none => exact .none
  | some b => exact .some (each b rfl)

theorem readsField_text (value : Option String) : ReadsField text? (Json.ofText? value) value :=
  .same fun s _ => ⟨by simp, reads_text s⟩

/-- A text that is always written. -/
theorem readsField_written (s : String) : ReadsField text? (some (.string s)) (some s) :=
  readsField_text (some s)

theorem readsField_texts (value : Option (List String)) :
    ReadsField (list? text?) (value.map Json.ofTexts) value :=
  .same fun ss _ => ⟨by simp [Json.ofTexts], reads_texts ss⟩

theorem readsField_bool (value : Option Bool) : ReadsField bool? (value.map .bool) value :=
  .same fun b _ => ⟨by simp, reads_bool b⟩

theorem readsField_int64 (value : Option Int) (fits : ∀ n ∈ value, IsInt64 n) :
    ReadsField int64? (value.map fun n => .number (.int n)) value :=
  .same fun n given => ⟨by simp, reads_int64 (fits n given)⟩

theorem last?_eq_some_iff {name : String} {value : Option β} :
    last? decode xs name = some value ↔ ∃ values,
      itemsWith? (nullable? decode) (PullSecrets.valuesOf name xs) = some values ∧
        value = values.getLast?.join := by
  simp only [last?, PullSecrets.valuesOf]
  cases itemsWith? (nullable? decode) ((xs.filter fun m => m.1 == name).map (·.2)) with
  | none => simp
  | some values => simp [eq_comm]

/-- A member that may be missing is read by itself. -/
theorem last?_of_present {fields : List (String × Option Json)} {name : String}
    {written : Option Json} {value : Option β} (means : MembersMean xs (Json.present fields))
    (distinct : (fields.map (·.1)).Nodup) (member : (name, written) ∈ fields)
    (reads : ReadsField decode written value) : last? decode xs name = some value := by
  have values := means.valuesOf name
  rw [valuesOf_present distinct member] at values
  rw [last?_eq_some_iff]
  generalize PullSecrets.valuesOf name xs = trees at values
  cases reads with
  | none =>
      cases values
      exact ⟨[], rfl, rfl⟩
  | @some j b reads =>
      cases values with
      | cons first later =>
          cases later
          refine ⟨[some b], ?_, rfl⟩
          simp only [itemsWith?, reads_nullable reads.1 reads.2 _ first, Option.map_some]

theorem reads_map (m : SortedMap String String) : Reads (map? text?) m.toJson m := by
  intro t means
  obtain ⟨xs, loose, members⟩ := loose?_of_means means
  have each : ∀ e ∈ m.entries, Reads text? (.string e.2) e.2 := fun e _ => reads_text e.2
  simp only [map?, loose, valuesWith?_of_means each members, Option.map_some,
    SortedMap.ofList_entries]

theorem readsField_map (value : Option (SortedMap String String)) :
    ReadsField (map? text?) (value.map SortedMap.toJson) value :=
  .same fun m _ => ⟨by simp [SortedMap.toJson], reads_map m⟩

theorem map_eq_of_itemsWith? {items : List Source} {bs : List β}
    (read : itemsWith? decode items = some bs) : items.map decode = bs.map some := by
  induction items generalizing bs with
  | nil =>
      cases read
      rfl
  | cons s items ih =>
      rw [itemsWith?] at read
      split at read
      · next a first =>
          obtain ⟨later, rest, rfl⟩ := Option.map_eq_some_iff.1 read
          rw [List.map_cons, List.map_cons, first, ih rest]
      · cases read

theorem exists_of_itemsWith? {items : List Source} {bs : List β} {b : β}
    (read : itemsWith? decode items = some bs) (member : b ∈ bs) :
    ∃ s ∈ items, decode s = some b := by
  have inside : some b ∈ items.map decode := by
    rw [map_eq_of_itemsWith? read]
    exact List.mem_map_of_mem member
  exact List.mem_map.1 inside

theorem exists_of_list? {s : Source} {bs : List β} {b : β} (read : list? decode s = some bs)
    (member : b ∈ bs) : ∃ t, decode t = some b := by
  cases s with
  | array items =>
      obtain ⟨t, -, decoded⟩ := exists_of_itemsWith? read member
      exact ⟨t, decoded⟩
  | null | bool | number | string | object => cases read

theorem of_nullable? {s : Source} {b : β} (read : nullable? decode s = some (some b)) :
    s ≠ .null ∧ decode s = some b := by
  cases s with
  | null => cases read
  | bool | number | string | array | object =>
      simp only [nullable?, Option.map_eq_some_iff, Option.some.injEq, exists_eq_right] at read
      exact ⟨by simp, read⟩

/-- What is read under a name comes from one of its values. -/
theorem exists_of_last? {name : String} {value : Option β} {b : β}
    (read : last? decode xs name = some value) (given : b ∈ value) :
    ∃ s, s ≠ .null ∧ decode s = some b := by
  obtain ⟨values, decoded, rfl⟩ := last?_eq_some_iff.1 read
  have last : values.getLast? = some (some b) := Option.join_eq_some_iff.1 given
  obtain ⟨s, -, nullable⟩ := exists_of_itemsWith? decoded (List.mem_of_getLast? last)
  exact ⟨s, of_nullable? nullable⟩

theorem record?_of_means {s : Source} {names : List String} (means : s.Means (.object js))
    (once : ∀ name ∈ names, (PullSecrets.valuesOf name js).length ≤ 1) :
    ∃ xs, s.record? names = some (firstNamed? xs) ∧ MembersMean xs js := by
  cases means with
  | @object xs js each values =>
      have members : MembersMean xs js := ⟨each, values⟩
      have single : (names.all fun name => decide (occurrences name xs ≤ 1)) = true := by
        simp only [List.all_eq_true, decide_eq_true_eq, occurrences_eq]
        intro name member
        rw [(members.valuesOf name).length_eq]
        exact once name member
      refine ⟨xs, ?_, members⟩
      simp only [record?, named?_eq_some_iff.2 rfl, single, if_true]

theorem required?_of_values {name : String} {j : Json} {b : β}
    (values : List.Forall₂ Means (PullSecrets.valuesOf name xs) [j]) (reads : Reads decode j b) :
    required? decode (firstNamed? xs) name = some b := by
  rw [required?, firstNamed?_eq]
  generalize PullSecrets.valuesOf name xs = trees at values
  cases values with
  | cons first later => exact reads _ first

theorem optional?_of_values {name : String} {written : Option Json} {value : Option β}
    (values : List.Forall₂ Means (PullSecrets.valuesOf name xs) written.toList)
    (reads : ReadsField decode written value) :
    optional? decode (firstNamed? xs) name = some value := by
  rw [optional?, firstNamed?_eq]
  generalize PullSecrets.valuesOf name xs = trees at values
  cases reads with
  | none =>
      cases values
      rfl
  | some reads =>
      cases values with
      | cons first later => exact reads_nullable reads.1 reads.2 _ first

variable {fields : List (String × Option Json)} {name : String} {s : Source}

theorem record?_of_present (names : List String) {fields : List (String × Option Json)}
    (distinct : (fields.map (·.1)).Nodup) (means : s.Means (.object (Json.present fields))) :
    ∃ xs, s.record? names = some (firstNamed? xs) ∧ MembersMean xs (Json.present fields) := by
  refine record?_of_means means fun name _ => ?_
  by_cases here : name ∈ fields.map (·.1)
  · obtain ⟨field, member, rfl⟩ := List.mem_map.1 here
    rw [valuesOf_present distinct member]
    cases field.2 <;> simp
  · rw [valuesOf_eq_nil (mt (names_present_sublist fields).mem here)]
    exact Nat.zero_le 1

theorem required?_of_present {j : Json} {b : β} (means : MembersMean xs (Json.present fields))
    (distinct : (fields.map (·.1)).Nodup) (member : (name, some j) ∈ fields)
    (reads : Reads decode j b) : required? decode (firstNamed? xs) name = some b := by
  have values := means.valuesOf name
  rw [valuesOf_present distinct member] at values
  exact required?_of_values values reads

theorem optional?_of_present {written : Option Json} {value : Option β}
    (means : MembersMean xs (Json.present fields)) (distinct : (fields.map (·.1)).Nodup)
    (member : (name, written) ∈ fields) (reads : ReadsField decode written value) :
    optional? decode (firstNamed? xs) name = some value := by
  have values := means.valuesOf name
  rw [valuesOf_present distinct member] at values
  exact optional?_of_values values reads

/-- A field for which something is always written, if need be `null`. -/
theorem optional?_of_written {j : Json} {value : Option β}
    (means : MembersMean xs (Json.present fields)) (distinct : (fields.map (·.1)).Nodup)
    (member : (name, some j) ∈ fields) (reads : Reads (nullable? decode) j value) :
    optional? decode (firstNamed? xs) name = some value := by
  have nullable := required?_of_present means distinct member reads
  rw [required?] at nullable
  rw [optional?]
  cases given : firstNamed? xs name with
  | none => simp [given] at nullable
  | some s => simpa [given] using nullable

end Reading

end Source

namespace Json

open Source

variable {room : Nat} {j : Json}

/-- There is a tree that means the value. -/
def Writable (j : Json) : Prop := ∃ t : Source, t.Means j

theorem writable_array {js : List Json} (each : ∀ j ∈ js, j.Writable) : (array js).Writable := by
  have trees : ∃ items, List.Forall₂ Means items js := by
    induction js with
    | nil => exact ⟨[], .nil⟩
    | cons j js ih =>
        obtain ⟨t, means⟩ := each j (.head _)
        obtain ⟨items, later⟩ := ih fun k member => each k (.tail _ member)
        exact ⟨t :: items, .cons means later⟩
  obtain ⟨items, means⟩ := trees
  exact ⟨_, .array means⟩

theorem writable_object {members : List (String × Json)} (each : ∀ m ∈ members, m.2.Writable) :
    (object members).Writable := by
  have trees : ∃ xs, MembersMean xs members := by
    induction members with
    | nil => exact ⟨[], rfl, .nil⟩
    | cons m members ih =>
        obtain ⟨t, means⟩ := each m (.head _)
        obtain ⟨xs, later⟩ := ih fun n member => each n (.tail _ member)
        exact ⟨(m.1, t) :: xs, congrArg (m.1 :: ·) later.names, .cons means later.values⟩
  obtain ⟨xs, means⟩ := trees
  exact ⟨_, .object means.names means.values⟩

theorem writable_of_mem_present {fields : List (String × Option Json)}
    (each : ∀ field ∈ fields, ∀ j ∈ field.2, j.Writable) : ∀ m ∈ present fields, m.2.Writable := by
  intro m member
  obtain ⟨field, inside, named⟩ := List.mem_filterMap.1 member
  obtain ⟨j, given, rfl⟩ := Option.map_eq_some_iff.1 named
  exact each field inside j given

/-- A record can be written when the members that are there can. -/
theorem writable_present {fields : List (String × Option Json)}
    (each : ∀ field ∈ fields, ∀ j ∈ field.2, j.Writable) : (object (present fields)).Writable :=
  writable_object (writable_of_mem_present each)

theorem writable_map {α : Type} {encode : α → Json} {value : Option α}
    (each : ∀ a ∈ value, (encode a).Writable) : ∀ j ∈ value.map encode, j.Writable := by
  intro j given
  obtain ⟨a, there, rfl⟩ := Option.map_eq_some_iff.1 given
  exact each a there

theorem writable_text (value : Option String) : ∀ j ∈ ofText? value, j.Writable :=
  writable_map fun s _ => ⟨_, .string s⟩

theorem writable_bool (value : Option Bool) : ∀ j ∈ value.map bool, j.Writable :=
  writable_map fun b _ => ⟨_, .bool b⟩

theorem writable_texts (ss : List String) : (ofTexts ss).Writable := by
  apply writable_array
  intro j member
  obtain ⟨s, -, rfl⟩ := List.mem_map.1 member
  exact ⟨_, .string s⟩

theorem writable_textMap (m : SortedMap String String) : m.toJson.Writable := by
  apply writable_object
  intro j member
  obtain ⟨e, -, rfl⟩ := List.mem_map.1 member
  exact ⟨_, .string e.2⟩

theorem writable_int64 {n : Int} (fits : IsInt64 n) : (number (.int n)).Writable := by
  have bounds : (Number.int n).Fits := by
    have greatest : Int64.maxValue.toInt = 9223372036854775807 := by decide
    have size : (UInt64.size : Int) = 18446744073709551616 := by decide
    obtain ⟨low, high⟩ := fits
    exact ⟨low, by omega⟩
  exact ⟨_, .number (Number.value?_literal trivial bounds)⟩

theorem itemsWellRead_iff {items : List Json} :
    ItemsWellRead room items ↔ ∀ j ∈ items, j.WellRead room := by
  induction items with
  | nil => simp [ItemsWellRead]
  | cons j items ih => simp [ItemsWellRead, ih]

theorem integral_present {fields : List (String × Option Json)}
    (each : ∀ field ∈ fields, ∀ j ∈ field.2, j.Integral) : (object (present fields)).Integral := by
  induction fields with
  | nil => trivial
  | cons field fields ih =>
      obtain ⟨name, value⟩ := field
      have later := ih fun other member => each other (.tail _ member)
      cases value with
      | none => exact later
      | some j => exact ⟨each _ (.head _) j rfl, later⟩

theorem integral_text (value : Option String) : ∀ j ∈ ofText? value, j.Integral := by
  intro j given
  obtain ⟨s, -, rfl⟩ := Option.map_eq_some_iff.1 given
  trivial

/-- A record can be read when its members stand in order and those that are there can be read. -/
theorem wellRead_present {fields : List (String × Option Json)} (room_left : 0 < room)
    (rising : (fields.map (·.1)).Pairwise fun a b => compare a b = .lt)
    (each : ∀ field ∈ fields, ∀ j ∈ field.2, j.WellRead (room - 1)) :
    (object (present fields)).WellRead room := by
  have members : Rising (present fields) :=
    List.pairwise_map.1 (rising.sublist (names_present_sublist fields))
  refine ⟨room_left, members, membersWellRead_iff.2 fun m member => ?_⟩
  obtain ⟨field, inside, named⟩ := List.mem_filterMap.1 member
  obtain ⟨j, given, rfl⟩ := Option.map_eq_some_iff.1 named
  exact each field inside j given

theorem wellRead_text (value : Option String) : ∀ j ∈ ofText? value, j.WellRead room := by
  intro j given
  obtain ⟨s, -, rfl⟩ := Option.map_eq_some_iff.1 given
  trivial

/-- A value that can be read is read from every tree that means it. -/
theorem reads_json (well : j.WellRead room) : Reads (ofSource? room) j j := by
  induction room using Nat.strongRecOn generalizing j with
  | ind room ih =>
      intro t means
      cases means with
      | null | bool | string => rfl
      | number value => simp only [ofSource?, value, Option.map_some]
      | @array items js each =>
          obtain ⟨positive, well⟩ := well
          have inside : ∀ j ∈ js, Reads (ofSource? (room - 1)) (id j) (id j) :=
            fun j member => ih _ (Nat.sub_one_lt_of_lt positive) (itemsWellRead_iff.1 well j member)
          have read := reads_items inside (by rwa [List.map_id])
          rw [List.map_id] at read
          rw [ofSource?, if_neg (Nat.ne_of_gt positive), itemsOfSource?_eq, read, Option.map_some]
      | @object xs js names values =>
          obtain ⟨positive, rising, well⟩ := well
          have inside : ∀ m ∈ js, Reads (ofSource? (room - 1)) (id m.2) m.2 :=
            fun m member =>
              ih _ (Nat.sub_one_lt_of_lt positive) (membersWellRead_iff.1 well m member)
          have read := valuesWith?_of_means inside ⟨by simpa using names, by simpa using values⟩
          rw [ofSource?, if_neg (Nat.ne_of_gt positive), membersOfSource?_eq,
            named?_eq_some_iff.2 rfl, Option.bind_some, read, Option.map_some,
            sortMembers_of_rising rising]

/-- What was read can be written. -/
theorem writable_of_ofSource? {s : Source} (read : ofSource? room s = some j) : j.Writable := by
  induction room using Nat.strongRecOn generalizing s j with
  | ind room ih =>
      cases s with
      | null =>
          cases read
          exact ⟨_, .null⟩
      | bool b =>
          cases read
          exact ⟨_, .bool b⟩
      | number l =>
          obtain ⟨n, value, rfl⟩ := Option.map_eq_some_iff.1 read
          exact ⟨_, .number value⟩
      | string content =>
          obtain ⟨s, -, rfl⟩ := Option.map_eq_some_iff.1 read
          exact ⟨_, .string s⟩
      | array items =>
          rw [ofSource?] at read
          split at read
          · cases read
          · next positive =>
              obtain ⟨js, inside, rfl⟩ := Option.map_eq_some_iff.1 read
              rw [itemsOfSource?_eq] at inside
              apply writable_array
              intro k member
              obtain ⟨t, -, decoded⟩ := exists_of_itemsWith? inside member
              exact ih _ (by omega) decoded
      | object ms =>
          rw [ofSource?] at read
          split at read
          · cases read
          · next positive =>
              obtain ⟨js, inside, rfl⟩ := Option.map_eq_some_iff.1 read
              rw [membersOfSource?_eq] at inside
              obtain ⟨xs, -, values⟩ := Option.bind_eq_some_iff.1 inside
              apply writable_object
              intro m member
              have decoded := itemsWith?_valuesOf values m.1
              obtain ⟨t, -, decoded⟩ := exists_of_itemsWith? decoded
                (mem_valuesOf.2 (mem_sortMembers member))
              exact ih _ (by omega) decoded

theorem eq_null_of_ofSource? {s : Source} (read : ofSource? room s = some .null) : s = .null := by
  cases s with
  | null => rfl
  | bool b => cases read
  | number l => simp [ofSource?] at read
  | string content => simp [ofSource?] at read
  | array items => simp [ofSource?] at read
  | object members => simp [ofSource?] at read

theorem writable_of_forall₂ {items : List Source} {js : List Json}
    (each : List.Forall₂ Means items js) : ∀ j ∈ js, j.Writable := by
  induction each with
  | nil => exact List.forall_mem_nil _
  | cons first later ih => exact List.forall_mem_cons.2 ⟨⟨_, first⟩, ih⟩

theorem Writable.items {js : List Json} (writable : (array js).Writable) :
    ∀ j ∈ js, j.Writable := by
  obtain ⟨t, means⟩ := writable
  cases means with
  | array each => exact writable_of_forall₂ each

theorem Writable.values {members : List (String × Json)} (writable : (object members).Writable) :
    ∀ m ∈ members, m.2.Writable := by
  obtain ⟨t, means⟩ := writable
  cases means with
  | object names values =>
      exact fun m member => writable_of_forall₂ values m.2 (List.mem_map_of_mem member)

mutual
/-- The tree of the text of a value means it. -/
theorem means_ofJson : (j : Json) → j.Integral → j.Writable → (Source.ofJson j).Means j
  | .null, _, _ => .null
  | .bool b, _, _ => .bool b
  | .string s, _, _ => .string s
  | .number n, integral, writable => by
      obtain ⟨t, means⟩ := writable
      cases means with
      | number value =>
          exact .number (Number.value?_literal integral (Number.fits_of_value? value))
  | .array items, integral, writable =>
      .array (means_ofItems items integral writable.items)
  | .object members, integral, writable => by
      have names := Source.named?_eq_some_iff.1 (Source.named?_ofMembers members)
      rw [Source.ofJson, names]
      refine .object (by simp) ?_
      rw [List.map_map]
      exact means_ofMembers members integral writable.values

theorem means_ofItems : (items : List Json) → ItemsIntegral items →
    (∀ j ∈ items, j.Writable) → List.Forall₂ Means (Source.ofItems items) items
  | [], _, _ => .nil
  | j :: rest, integral, writable =>
      .cons (means_ofJson j integral.1 (writable j (.head _)))
        (means_ofItems rest integral.2 fun k member => writable k (.tail _ member))

theorem means_ofMembers : (members : List (String × Json)) → MembersIntegral members →
    (∀ m ∈ members, m.2.Writable) →
    List.Forall₂ Means (members.map fun m => Source.ofJson m.2) (members.map (·.2))
  | [], _, _ => .nil
  | m :: rest, integral, writable =>
      .cons (means_ofJson m.2 integral.1 (writable m (.head _)))
        (means_ofMembers rest integral.2 fun n member => writable n (.tail _ member))
end

end Json

/-- What is read as something is so from its text, too. -/
theorem Source.Reads.text {α : Type} {decode : Source → Option α} {j : Json} {a : α}
    (reads : Source.Reads decode j a) (integral : j.Integral) (writable : j.Writable) :
    (Source.read? j.text).bind decode = some a := by
  rw [Source.read?_text integral, Option.bind_some, reads _ (j.means_ofJson integral writable)]

end PullSecrets
