import PullSecrets.Proofs.Readback
import PullSecrets.SortedMap

/-! # Values that were read

A value that was read has the members of its objects in the order of their names, each name once,
no integer beyond 64 bits, and no deeper nesting than there was room for (`wellRead_of_ofSource?`).
Such a value, if all its numbers are integers, is read back from its own text (`read?_text`).
-/

namespace PullSecrets

namespace Json

/-- Members in the order of their names, each name once. -/
abbrev Rising (members : List (String × Json)) : Prop :=
  members.Pairwise fun a b => compare a.1 b.1 = .lt

mutual
/-- The value can be read when there is room for so many containers. -/
def WellRead (room : Nat) : Json → Prop
  | .null | .bool _ | .string _ => True
  | .number n => n.Fits
  | .array items => 0 < room ∧ ItemsWellRead (room - 1) items
  | .object members => 0 < room ∧ Rising members ∧ MembersWellRead (room - 1) members

def ItemsWellRead (room : Nat) : List Json → Prop
  | [] => True
  | j :: rest => j.WellRead room ∧ ItemsWellRead room rest

def MembersWellRead (room : Nat) : List (String × Json) → Prop
  | [] => True
  | (_, j) :: rest => j.WellRead room ∧ MembersWellRead room rest
end

section Sorting

variable {key name : String} {value : Json} {members : List (String × Json)}

/-- A member is put in its place unless there is one with its name. -/
theorem placeMember_eq (rising : Rising members) :
    placeMember key value members =
      match SortedMap.findIn key members with
      | some _ => members
      | none => SortedMap.insertIn key value members := by
  induction members with
  | nil => rfl
  | cons m members ih =>
      obtain ⟨k, v⟩ := m
      unfold placeMember SortedMap.insertIn
      cases order : compare key k with
      | lt =>
          have missing : SortedMap.findIn key ((k, v) :: members) = none := by
            refine SortedMap.findIn_eq_none fun e member same => ?_
            have after : compare key e.1 = .lt := by
              cases member with
              | head => exact order
              | tail _ member =>
                  exact Std.TransCmp.lt_trans order (List.rel_of_pairwise_cons rising member)
            cases same.symm.trans after
          simp only [missing]
      | eq => simp only [SortedMap.findIn, order, if_true]
      | gt =>
          have later := ih (List.Pairwise.of_cons rising)
          simp only [SortedMap.findIn, order, reduceCtorEq, if_false, later]
          cases SortedMap.findIn key members <;> rfl

theorem rising_placeMember (rising : Rising members) : Rising (placeMember key value members) := by
  rw [placeMember_eq rising]
  split
  · exact rising
  · exact SortedMap.rising_insertIn key value rising

theorem findIn_placeMember (rising : Rising members) :
    SortedMap.findIn name (placeMember key value members) =
      if key = name then (SortedMap.findIn name members).or (some value)
      else SortedMap.findIn name members := by
  rw [placeMember_eq rising]
  by_cases same : key = name
  · subst same
    cases found : SortedMap.findIn key members with
    | some v => simp [found]
    | none => simp [SortedMap.findIn_insertIn, Std.ReflOrd.compare_self]
  · have other : compare name key ≠ .eq := fun eq => same (Std.LawfulEqOrd.eq_of_compare eq).symm
    cases found : SortedMap.findIn key members with
    | some v => simp [same]
    | none => simp [SortedMap.findIn_insertIn, same, other]

theorem sortMembers_cons (key : String) (value : Json) (members : List (String × Json)) :
    sortMembers ((key, value) :: members) = placeMember key value (sortMembers members) := rfl

theorem sortMembers_rising (members : List (String × Json)) : Rising (sortMembers members) := by
  induction members with
  | nil => exact .nil
  | cons m members ih => exact rising_placeMember ih

theorem mem_sortMembers {m : String × Json} (member : m ∈ sortMembers members) : m ∈ members := by
  induction members with
  | nil => exact member
  | cons first members ih =>
      obtain ⟨key, value⟩ := first
      rw [sortMembers_cons, placeMember_eq (sortMembers_rising members)] at member
      split at member
      · exact .tail _ (ih member)
      · rcases SortedMap.mem_insertIn member with rfl | member
        · exact .head _
        · exact .tail _ (ih member)

/-- Of several members with one name the last is kept. -/
theorem findIn_sortMembers (members : List (String × Json)) (name : String) :
    SortedMap.findIn name (sortMembers members) =
      (members.reverse.find? fun m => m.1 == name).map (·.2) := by
  induction members with
  | nil => rfl
  | cons m members ih =>
      obtain ⟨key, value⟩ := m
      rw [sortMembers_cons, findIn_placeMember (sortMembers_rising members), ih,
        List.reverse_cons, List.find?_append]
      by_cases same : key = name
      · cases members.reverse.find? fun m => m.1 == name <;> simp [same]
      · cases members.reverse.find? fun m => m.1 == name <;> simp [same]

theorem sortMembers_of_rising (rising : Rising members) : sortMembers members = members := by
  induction members with
  | nil => rfl
  | cons m members ih =>
      obtain ⟨key, value⟩ := m
      rw [sortMembers_cons, ih (List.Pairwise.of_cons rising)]
      cases members with
      | nil => rfl
      | cons next members =>
          have first : compare key next.1 = .lt := List.rel_of_pairwise_cons rising (.head _)
          simp only [placeMember, first]

/-- To sort members does not change what is found under a name. -/
theorem member?_sortMembers (members : List (String × Json)) (name : String) :
    (Json.object (sortMembers members)).member? name = (Json.object members).member? name := by
  -- what is sorted already stays as it is when sorted once more
  simp only [member?, ← findIn_sortMembers, sortMembers_of_rising (sortMembers_rising members)]

end Sorting

theorem membersWellRead_iff {room : Nat} {members : List (String × Json)} :
    MembersWellRead room members ↔ ∀ m ∈ members, m.2.WellRead room := by
  induction members with
  | nil => simp [MembersWellRead]
  | cons m members ih => simp [MembersWellRead, ih]

mutual
theorem WellRead.mono : (j : Json) → {room more : Nat} → room ≤ more → j.WellRead room →
    j.WellRead more
  | .null, _, _, _, _ => trivial
  | .bool _, _, _, _, _ => trivial
  | .string _, _, _, _, _ => trivial
  | .number _, _, _, _, fits => fits
  | .array items, _, _, le, ⟨positive, read⟩ =>
      ⟨by omega, ItemsWellRead.mono items (by omega) read⟩
  | .object members, _, _, le, ⟨positive, rising, read⟩ =>
      ⟨by omega, rising, MembersWellRead.mono members (by omega) read⟩

theorem ItemsWellRead.mono : (items : List Json) → {room more : Nat} → room ≤ more →
    ItemsWellRead room items → ItemsWellRead more items
  | [], _, _, _, _ => trivial
  | j :: rest, _, _, le, ⟨first, later⟩ =>
      ⟨WellRead.mono j le first, ItemsWellRead.mono rest le later⟩

theorem MembersWellRead.mono : (members : List (String × Json)) → {room more : Nat} →
    room ≤ more → MembersWellRead room members → MembersWellRead more members
  | [], _, _, _, _ => trivial
  | (_, j) :: rest, _, _, le, ⟨first, later⟩ =>
      ⟨WellRead.mono j le first, MembersWellRead.mono rest le later⟩
end

mutual
theorem wellRead_of_ofSource? : (s : Source) → {room : Nat} → {j : Json} →
    ofSource? room s = some j → j.WellRead room
  | .null, _, _, read => by
      cases read
      trivial
  | .bool _, _, _, read => by
      cases read
      trivial
  | .number l, _, _, read => by
      obtain ⟨n, value, rfl⟩ := Option.map_eq_some_iff.1 read
      exact Number.fits_of_value? value
  | .string content, _, _, read => by
      obtain ⟨s, -, rfl⟩ := Option.map_eq_some_iff.1 read
      trivial
  | .array items, room, _, read => by
      rw [ofSource?] at read
      split at read
      · cases read
      · obtain ⟨js, inside, rfl⟩ := Option.map_eq_some_iff.1 read
        exact ⟨by omega, itemsWellRead_of_itemsOfSource? items inside⟩
  | .object members, room, _, read => by
      rw [ofSource?] at read
      split at read
      · cases read
      · obtain ⟨ms, inside, rfl⟩ := Option.map_eq_some_iff.1 read
        have each := membersWellRead_iff.1 (membersWellRead_of_membersOfSource? members inside)
        refine ⟨by omega, sortMembers_rising ms, membersWellRead_iff.2 fun m member => ?_⟩
        exact each m (mem_sortMembers member)

theorem itemsWellRead_of_itemsOfSource? : (ss : List Source) → {room : Nat} → {items : List Json} →
    itemsOfSource? room ss = some items → ItemsWellRead room items
  | [], _, _, read => by
      cases read
      trivial
  | s :: rest, room, _, read => by
      rw [itemsOfSource?] at read
      split at read
      · next first =>
          obtain ⟨js, later, rfl⟩ := Option.map_eq_some_iff.1 read
          exact ⟨wellRead_of_ofSource? s first, itemsWellRead_of_itemsOfSource? rest later⟩
      · cases read

theorem membersWellRead_of_membersOfSource? : (ms : List (Option String × Source)) → {room : Nat} →
    {members : List (String × Json)} → membersOfSource? room ms = some members →
    MembersWellRead room members
  | [], _, _, read => by
      cases read
      trivial
  | (none, _) :: _, _, _, read => by cases read
  | (some key, s) :: rest, room, _, read => by
      rw [membersOfSource?] at read
      split at read
      · next first =>
          obtain ⟨ms, later, rfl⟩ := Option.map_eq_some_iff.1 read
          exact ⟨wellRead_of_ofSource? s first, membersWellRead_of_membersOfSource? rest later⟩
      · cases read
end

mutual
/-- The tree of the text of a value that can be read has the value. -/
theorem ofSource?_ofJson : (j : Json) → {room : Nat} → j.WellRead room → j.Integral →
    ofSource? room (Source.ofJson j) = some j
  | .null, _, _, _ => rfl
  | .bool _, _, _, _ => rfl
  | .string _, _, _, _ => rfl
  | .number n, _, fits, integral => by
      rw [Source.ofJson, ofSource?, Number.value?_literal integral fits]
      rfl
  | .array items, room, ⟨positive, read⟩, integral => by
      rw [Source.ofJson, ofSource?, if_neg (by omega), itemsOfSource?_ofItems items read integral]
      rfl
  | .object members, room, ⟨positive, rising, read⟩, integral => by
      rw [Source.ofJson, ofSource?, if_neg (by omega),
        membersOfSource?_ofMembers members read integral, Option.map_some,
        sortMembers_of_rising rising]

theorem itemsOfSource?_ofItems : (items : List Json) → {room : Nat} → ItemsWellRead room items →
    ItemsIntegral items → itemsOfSource? room (Source.ofItems items) = some items
  | [], _, _, _ => rfl
  | j :: rest, room, read, integral => by
      rw [Source.ofItems, itemsOfSource?, ofSource?_ofJson j read.1 integral.1]
      simp only [itemsOfSource?_ofItems rest read.2 integral.2, Option.map_some]

theorem membersOfSource?_ofMembers : (members : List (String × Json)) → {room : Nat} →
    MembersWellRead room members → MembersIntegral members →
    membersOfSource? room (Source.ofMembers members) = some members
  | [], _, _, _ => rfl
  | (key, j) :: rest, room, read, integral => by
      rw [Source.ofMembers, membersOfSource?, ofSource?_ofJson j read.1 integral.1]
      simp only [membersOfSource?_ofMembers rest read.2 integral.2, Option.map_some]
end

/-- A value that can be read is read back from its text. -/
theorem read?_text {j : Json} (read : j.WellRead Source.nestingLimit) (integral : j.Integral) :
    Json.read? j.text = some j := by
  rw [Json.read?, Source.read?_text integral, Option.bind_some, ofSource?_ofJson j read integral]

/-- Members may be written in any order. -/
theorem read?_text_object {members : List (String × Json)}
    (read : MembersWellRead (Source.nestingLimit - 1) members)
    (integral : MembersIntegral members) :
    Json.read? (Json.object members).text = some (.object (sortMembers members)) := by
  have whole : (Json.object members).Integral := integral
  rw [Json.read?, Source.read?_text whole, Option.bind_some, Source.ofJson, ofSource?,
    if_neg (by decide), membersOfSource?_ofMembers members read integral, Option.map_some]

end Json

end PullSecrets
