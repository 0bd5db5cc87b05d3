import PullSecrets.Json.Source
import PullSecrets.Proofs.Literals

/-! # JSON texts read back

The text of a value is read back as the tree of the value (`read?_text`), in which numbers are
literals and the members of objects stand as they were written. What is not an integer is left out
of account.
-/

namespace PullSecrets

mutual
/-- All numbers in the value are integers. -/
def Json.Integral : Json → Prop
  | .null | .bool _ | .string _ => True
  | .number n => n.Integral
  | .array items => ItemsIntegral items
  | .object members => MembersIntegral members

def Json.ItemsIntegral : List Json → Prop
  | [] => True
  | j :: rest => j.Integral ∧ ItemsIntegral rest

def Json.MembersIntegral : List (String × Json) → Prop
  | [] => True
  | (_, j) :: rest => j.Integral ∧ MembersIntegral rest
end

namespace Source

mutual
/-- The tree of the text of a value. -/
def ofJson : Json → Source
  | .null => .null
  | .bool b => .bool b
  | .number n => .number n.literal
  | .string s => .string (some s)
  | .array items => .array (ofItems items)
  | .object members => .object (ofMembers members)

def ofItems : List Json → List Source
  | [] => []
  | j :: rest => ofJson j :: ofItems rest

def ofMembers : List (String × Json) → List (Option String × Source)
  | [] => []
  | (k, j) :: rest => (some k, ofJson j) :: ofMembers rest
end

theorem skipBlanks_cons {c : Char} {cs : List Char} (solid : isBlank c = false) :
    skipBlanks (c :: cs) = c :: cs := by
  simp [skipBlanks, solid]

/-- A character that a number starts with starts nothing else. -/
theorem starts_apart {c : Char} (starts : Number.Starts c) :
    isBlank c = false ∧ ∀ d ∈ ['"', '[', ']', '\x7b', 'n', 't', 'f'], c ≠ d := by
  rcases starts with rfl | digit
  · refine ⟨rfl, ?_⟩
    rintro d other rfl
    simp at other
  · constructor
    · cases blank : isBlank c with
      | false => rfl
      | true =>
          simp only [isBlank, Bool.or_eq_true, beq_iff_eq] at blank
          rcases blank with ((rfl | rfl) | rfl) | rfl <;> exact absurd digit (by decide)
    · rintro d other rfl
      simp only [List.mem_cons, List.not_mem_nil, or_false] at other
      rcases other with rfl | rfl | rfl | rfl | rfl | rfl | rfl <;> exact absurd digit (by decide)

theorem readValue_literal {n : Nat} {c : Char} {cs : List Char} (starts : Number.Starts c) :
    readValue (n + 1) (c :: cs) =
      (readLiteral (c :: cs)).map fun (l, rest) => (.number l, rest) := by
  obtain ⟨solid, apart⟩ := starts_apart starts
  rw [readValue, skipBlanks_cons solid]
  -- no other kind of value starts so
  split
  · next same => exact absurd (List.cons.inj same).1 (apart '"' (by decide))
  · next same => exact absurd (List.cons.inj same).1 (apart '[' (by decide))
  · next same => exact absurd (List.cons.inj same).1 (apart '\x7b' (by decide))
  · next same => exact absurd (List.cons.inj same).1 (apart 'n' (by decide))
  · next same => exact absurd (List.cons.inj same).1 (apart 't' (by decide))
  · next same => exact absurd (List.cons.inj same).1 (apart 'f' (by decide))
  · rfl

/-- A value starts with a character that is neither blank nor closes an array. -/
theorem render_starts {j : Json} (integral : j.Integral) :
    ∃ c cs, j.render = c :: cs ∧ isBlank c = false ∧ c ≠ ']' := by
  cases j with
  | null => exact ⟨_, _, rfl, by decide, by decide⟩
  | bool b => cases b <;> exact ⟨_, _, rfl, by decide, by decide⟩
  | number n =>
      obtain ⟨c, cs, text, starts⟩ := Number.render_starts integral
      obtain ⟨solid, apart⟩ := starts_apart starts
      exact ⟨c, cs, text, solid, apart ']' (by decide)⟩
  | string s => exact ⟨_, _, rfl, by decide, by decide⟩
  | array items => cases items <;> exact ⟨_, _, rfl, by decide, by decide⟩
  | object members => cases members <;> exact ⟨_, _, rfl, by decide, by decide⟩

theorem ends_cons {c : Char} {rest : List Char} (digit : c.isDigit = false) (point : c ≠ '.')
    (small : c ≠ 'e') (capital : c ≠ 'E') : Ends (c :: rest) := by
  rintro d first
  obtain rfl : c = d := by simpa using first
  exact ⟨digit, point, small, capital⟩

theorem ends_renderItems (items : List Json) (rest : List Char) :
    Ends (Json.renderItems items ++ rest) := by
  cases items <;> exact ends_cons (by decide) (by decide) (by decide) (by decide)

theorem ends_renderMembers (members : List (String × Json)) (rest : List Char) :
    Ends (Json.renderMembers members ++ rest) := by
  cases members with
  | nil => exact ends_cons (by decide) (by decide) (by decide) (by decide)
  | cons m members => exact ends_cons (by decide) (by decide) (by decide) (by decide)

section Step

variable {n : Nat} {rest : List Char} {j k : Json} {items : List Json} {name : String}
  {members : List (String × Json)} {s : Source}

theorem readValue_number {x : Number} (integral : x.Integral) (ends : Ends rest) :
    readValue (n + 1) (x.render ++ rest) = some (.number x.literal, rest) := by
  obtain ⟨c, cs, text, starts⟩ := Number.render_starts integral
  have literal := Number.readLiteral_render integral ends
  rw [text, List.cons_append] at literal ⊢
  rw [readValue_literal starts, literal]
  rfl

theorem renderString_append (s : String) (rest : List Char) :
    Json.renderString s ++ rest = '"' :: (s.toList.flatMap Json.escapeChar ++ '"' :: rest) := by
  simp only [Json.renderString, List.cons_append, List.append_assoc, List.nil_append]

theorem readValue_string (s : String) :
    readValue (n + 1) (Json.renderString s ++ rest) = some (.string (some s), rest) := by
  obtain ⟨pieces, content, read⟩ := readString_renderString s rest
  rw [renderString_append, readValue, skipBlanks_cons (by decide)]
  simp only [read, content, Option.map_some]

theorem readName_renderString (s : String) :
    readName (Json.renderString s ++ ':' :: rest) = some (some s, rest) := by
  obtain ⟨pieces, content, read⟩ := readString_renderString s (':' :: rest)
  rw [renderString_append, readName, skipBlanks_cons (by decide)]
  simp only [read]
  rw [skipBlanks_cons (by decide)]
  simp only [content]

theorem readValue_array (integral : j.Integral) :
    readValue (n + 1) ((Json.array (j :: items)).render ++ rest) =
      readItems n [] (j.render ++ (Json.renderItems items ++ rest)) := by
  obtain ⟨c, cs, text, solid, other⟩ := render_starts integral
  rw [Json.render, text, List.cons_append, readValue, skipBlanks_cons (by decide)]
  simp only [List.cons_append, List.append_assoc]
  rw [skipBlanks_cons solid]
  split
  · next closed => exact absurd (List.cons.inj closed).1 other
  · rfl

theorem readValue_object :
    readValue (n + 1) ((Json.object ((name, j) :: members)).render ++ rest) =
      readMembers n [] (Json.renderString name ++
        ':' :: (j.render ++ (Json.renderMembers members ++ rest))) := by
  rw [Json.render, List.cons_append, readValue, skipBlanks_cons (by decide)]
  simp only [List.append_assoc, List.cons_append]
  rw [renderString_append, skipBlanks_cons (by decide)]
  rfl

theorem readItems_last {before : List Source}
    (value : readValue n (j.render ++ (Json.renderItems [] ++ rest)) =
      some (s, Json.renderItems [] ++ rest)) :
    readItems (n + 1) before (j.render ++ (Json.renderItems [] ++ rest)) =
      some (.array (s :: before).reverse, rest) := by
  rw [readItems, value]
  simp only [Json.renderItems, List.cons_append]
  rw [skipBlanks_cons (by decide)]
  rfl

theorem readItems_next {before : List Source}
    (value : readValue n (j.render ++ (Json.renderItems (k :: items) ++ rest)) =
      some (s, Json.renderItems (k :: items) ++ rest)) :
    readItems (n + 1) before (j.render ++ (Json.renderItems (k :: items) ++ rest)) =
      readItems n (s :: before) (k.render ++ (Json.renderItems items ++ rest)) := by
  rw [readItems, value]
  simp only [Json.renderItems, List.cons_append, List.append_assoc]
  rw [skipBlanks_cons (by decide)]
  rfl

theorem readMembers_last {before : List (Option String × Source)}
    (value : readValue n (j.render ++ (Json.renderMembers [] ++ rest)) =
      some (s, Json.renderMembers [] ++ rest)) :
    readMembers (n + 1) before
        (Json.renderString name ++ ':' :: (j.render ++ (Json.renderMembers [] ++ rest))) =
      some (.object ((some name, s) :: before).reverse, rest) := by
  rw [readMembers, readName_renderString]
  simp only [value]
  simp only [Json.renderMembers, List.cons_append]
  rw [skipBlanks_cons (by decide)]
  rfl

theorem readMembers_next {before : List (Option String × Source)} {other : String}
    (value : readValue n (j.render ++ (Json.renderMembers ((other, k) :: members) ++ rest)) =
      some (s, Json.renderMembers ((other, k) :: members) ++ rest)) :
    readMembers (n + 1) before (Json.renderString name ++
        ':' :: (j.render ++ (Json.renderMembers ((other, k) :: members) ++ rest))) =
      readMembers n ((some name, s) :: before) (Json.renderString other ++
        ':' :: (k.render ++ (Json.renderMembers members ++ rest))) := by
  rw [readMembers, readName_renderString]
  simp only [value]
  simp only [Json.renderMembers, List.cons_append, List.append_assoc]
  rw [skipBlanks_cons (by decide)]
  rfl

theorem render_length_pos (integral : j.Integral) : 0 < j.render.length := by
  obtain ⟨c, cs, text, -⟩ := render_starts integral
  rw [text]
  exact Nat.succ_pos _

theorem renderItems_length_pos (items : List Json) : 0 < (Json.renderItems items).length := by
  cases items <;> exact Nat.succ_pos _

theorem renderMembers_length_pos (members : List (String × Json)) :
    0 < (Json.renderMembers members).length := by
  cases members <;> exact Nat.succ_pos _

end Step

mutual
/-- As many steps as the text has characters are enough to read a value back. -/
theorem readValue_render : (j : Json) → {n : Nat} → {rest : List Char} → j.Integral →
    j.render.length ≤ n → Ends rest → readValue n (j.render ++ rest) = some (ofJson j, rest)
  -- every value has a character, so there is a step for it
  | j, 0, _, integral, enough, _ => by
      have := render_length_pos integral
      omega
  | .null, _ + 1, _, _, _, _ => rfl
  | .bool true, _ + 1, _, _, _, _ => rfl
  | .bool false, _ + 1, _, _, _, _ => rfl
  | .number _, _ + 1, _, integral, _, ends => readValue_number integral ends
  | .string s, _ + 1, _, _, _, _ => readValue_string s
  | .array [], _ + 1, _, _, _, _ => rfl
  | .array (j :: items), n + 1, rest, integral, enough, _ => by
      rw [readValue_array integral.1]
      refine readItems_render j items [] integral.1 integral.2 ?_
      simp only [Json.render, List.length_cons, List.length_append] at enough
      omega
  | .object [], _ + 1, _, _, _, _ => rfl
  | .object ((name, j) :: members), n + 1, rest, integral, enough, _ => by
      rw [readValue_object]
      refine readMembers_render name j members [] integral.1 integral.2 ?_
      simp only [Json.render, List.length_cons, List.length_append] at enough
      omega

theorem readItems_render : (j : Json) → (items : List Json) → {n : Nat} →
    (before : List Source) → {rest : List Char} → j.Integral → Json.ItemsIntegral items →
    j.render.length + (Json.renderItems items).length ≤ n →
    readItems n before (j.render ++ (Json.renderItems items ++ rest)) =
      some (.array (before.reverse ++ ofJson j :: ofItems items), rest)
  | j, items, 0, _, _, integral, _, enough => by
      have := render_length_pos integral
      omega
  | j, items, n + 1, before, rest, integral, integrals, enough => by
      have closed := renderItems_length_pos items
      have value := readValue_render j (n := n) integral (by omega) (ends_renderItems items rest)
      match items with
      | [] =>
          rw [readItems_last value]
          simp only [List.reverse_cons, ofItems]
      | k :: items =>
          simp only [Json.renderItems, List.length_cons, List.length_append] at enough
          rw [readItems_next value, readItems_render k items _ integrals.1 integrals.2 (by omega)]
          simp only [List.reverse_cons, List.append_assoc, List.singleton_append, ofItems]

theorem readMembers_render : (name : String) → (j : Json) → (members : List (String × Json)) →
    {n : Nat} → (before : List (Option String × Source)) → {rest : List Char} → j.Integral →
    Json.MembersIntegral members →
    j.render.length + (Json.renderMembers members).length ≤ n →
    readMembers n before (Json.renderString name ++
        ':' :: (j.render ++ (Json.renderMembers members ++ rest))) =
      some (.object (before.reverse ++ (some name, ofJson j) :: ofMembers members), rest)
  | _, j, members, 0, _, _, integral, _, enough => by
      have := render_length_pos integral
      omega
  | name, j, members, n + 1, before, rest, integral, integrals, enough => by
      have closed := renderMembers_length_pos members
      have value :=
        readValue_render j (n := n) integral (by omega) (ends_renderMembers members rest)
      match members with
      | [] =>
          rw [readMembers_last value]
          simp only [List.reverse_cons, ofMembers]
      | (other, k) :: members =>
          simp only [Json.renderMembers, List.length_cons, List.length_append] at enough
          rw [readMembers_next value,
            readMembers_render other k members _ integrals.1 integrals.2 (by omega)]
          simp only [List.reverse_cons, List.append_assoc, List.singleton_append, ofMembers]
end

theorem read?_text {j : Json} (integral : j.Integral) : read? j.text = some (ofJson j) := by
  have read : readValue (2 * j.render.length + 2) (j.render ++ []) = some (ofJson j, []) :=
    readValue_render j integral (by omega) nofun
  rw [List.append_nil] at read
  simp only [read?, readFirst?, Json.text, String.toList_ofList, read]
  rfl

end Source

end PullSecrets
