/-!
# Sorted maps

A finite map kept as a list of entries with strictly rising keys, so that equal maps are equal
values and entries come out in key order. Main statements: `find?_insert`, `find?_erase` and
`ext_find?`.
-/

namespace PullSecrets

/-- Entries with strictly rising keys. -/
structure SortedMap (κ β : Type) [Ord κ] where
  entries : List (κ × β)
  rising : entries.Pairwise fun a b => compare a.1 b.1 = .lt

namespace SortedMap

variable {κ β γ : Type} [Ord κ]

def findIn (k : κ) : List (κ × β) → Option β
  | [] => none
  | (l, v) :: rest => if compare k l = .eq then some v else findIn k rest

/-- The entries with the value of `k` set to `v`. -/
def insertIn (k : κ) (v : β) : List (κ × β) → List (κ × β)
  | [] => [(k, v)]
  | (l, w) :: rest =>
    match compare k l with
    | .lt => (k, v) :: (l, w) :: rest
    | .eq => (k, v) :: rest
    | .gt => (l, w) :: insertIn k v rest

def empty : SortedMap κ β := ⟨[], .nil⟩

instance : Inhabited (SortedMap κ β) := ⟨empty⟩
instance : EmptyCollection (SortedMap κ β) := ⟨empty⟩

instance [DecidableEq κ] [DecidableEq β] : DecidableEq (SortedMap κ β) := fun a b =>
  if h : a.entries = b.entries then isTrue (by cases a; cases b; cases h; rfl)
  else isFalse (fun e => h (congrArg entries e))

def find? (m : SortedMap κ β) (k : κ) : Option β := findIn k m.entries

def contains (m : SortedMap κ β) (k : κ) : Bool := (m.find? k).isSome

def filter (p : κ → β → Bool) (m : SortedMap κ β) : SortedMap κ β :=
  ⟨m.entries.filter fun (k, v) => p k v, m.rising.filter _⟩

def erase (m : SortedMap κ β) (k : κ) : SortedMap κ β := m.filter fun l _ => compare k l ≠ .eq

def map (f : β → γ) (m : SortedMap κ β) : SortedMap κ γ :=
  ⟨m.entries.map fun (k, v) => (k, f v), List.pairwise_map.2 m.rising⟩

def keys (m : SortedMap κ β) : List κ := m.entries.map (·.1)

theorem mem_insertIn {k : κ} {v : β} {es : List (κ × β)} {e : κ × β} (h : e ∈ insertIn k v es) :
    e = (k, v) ∨ e ∈ es := by
  induction es with
  | nil => simpa [insertIn] using h
  | cons a rest ih =>
    obtain ⟨l, w⟩ := a
    unfold insertIn at h
    split at h
    · simpa using h
    · rcases List.mem_cons.1 h with h | h
      · exact .inl h
      · exact .inr (List.mem_cons_of_mem _ h)
    · rcases List.mem_cons.1 h with h | h
      · exact .inr (h ▸ List.mem_cons_self)
      · rcases ih h with h | h
        · exact .inl h
        · exact .inr (List.mem_cons_of_mem _ h)

@[simp] theorem find?_empty (k : κ) : (empty : SortedMap κ β).find? k = none := rfl

theorem findIn_eq_none {k : κ} {es : List (κ × β)} (h : ∀ e ∈ es, compare k e.1 ≠ .eq) :
    findIn k es = none := by
  induction es with
  | nil => rfl
  | cons a rest ih =>
    rw [findIn, if_neg (h a List.mem_cons_self)]
    exact ih fun e he => h e (List.mem_cons_of_mem _ he)

section Ordered

variable [Std.TransOrd κ] [Std.LawfulEqOrd κ]

theorem rising_insertIn (k : κ) (v : β) {es : List (κ × β)}
    (h : es.Pairwise fun a b => compare a.1 b.1 = .lt) :
    (insertIn k v es).Pairwise fun a b => compare a.1 b.1 = .lt := by
  induction es with
  | nil => simp [insertIn]
  | cons a rest ih =>
    obtain ⟨l, w⟩ := a
    obtain ⟨ha, hr⟩ := List.pairwise_cons.1 h
    unfold insertIn
    split
    · next hc =>
      refine List.pairwise_cons.2 ⟨fun b hb => ?_, h⟩
      rcases List.mem_cons.1 hb with rfl | hb
      · exact hc
      · exact Std.TransCmp.lt_trans hc (ha b hb)
    · next hc =>
      obtain rfl := Std.LawfulEqOrd.eq_of_compare hc
      exact List.pairwise_cons.2 ⟨ha, hr⟩
    · next hc =>
      refine List.pairwise_cons.2 ⟨fun b hb => ?_, ih hr⟩
      rcases mem_insertIn hb with rfl | hb
      · exact Std.OrientedCmp.lt_of_gt hc
      · exact ha b hb

def insert (m : SortedMap κ β) (k : κ) (v : β) : SortedMap κ β :=
  ⟨insertIn k v m.entries, rising_insertIn k v m.rising⟩

/-- The map of some pairs; of two pairs with one key the later counts. -/
def ofList (pairs : List (κ × β)) : SortedMap κ β :=
  pairs.foldl (fun m (k, v) => m.insert k v) empty

omit [Std.TransOrd κ] in
theorem findIn_insertIn (k l : κ) (v : β) (es : List (κ × β)) :
    findIn l (insertIn k v es) = if compare l k = .eq then some v else findIn l es := by
  induction es with
  | nil => simp [insertIn, findIn]
  | cons a rest ih =>
    obtain ⟨m, w⟩ := a
    unfold insertIn
    split
    · simp [findIn]
    · next hc =>
      obtain rfl := Std.LawfulEqOrd.eq_of_compare hc
      simp only [findIn]
      split <;> rfl
    · next hc =>
      simp only [findIn, ih]
      by_cases hm : compare l m = .eq
      · obtain rfl := Std.LawfulEqOrd.eq_of_compare hm
        have : compare l k ≠ .eq := fun he => by
          obtain rfl := Std.LawfulEqOrd.eq_of_compare he
          simp at hc
        simp [this]
      · simp [hm]

theorem find?_insert (m : SortedMap κ β) (k l : κ) (v : β) :
    (m.insert k v).find? l = if compare l k = .eq then some v else m.find? l :=
  findIn_insertIn k l v m.entries

omit [Std.TransOrd κ] in
theorem findIn_filter (p : κ → Bool) (k : κ) (es : List (κ × β)) :
    findIn k (es.filter fun (l, _) => p l) = if p k then findIn k es else none := by
  induction es with
  | nil => simp [findIn]
  | cons a rest ih =>
    obtain ⟨l, w⟩ := a
    by_cases hc : compare k l = .eq
    · obtain rfl := Std.LawfulEqOrd.eq_of_compare hc
      by_cases hp : p k <;> simp [hp, findIn, ih]
    · by_cases hp : p l <;> simp [hp, findIn, ih, hc]

omit [Std.TransOrd κ] in
theorem find?_erase (m : SortedMap κ β) (k l : κ) :
    (m.erase k).find? l = if compare k l = .eq then none else m.find? l := by
  have := findIn_filter (fun l => decide (compare k l ≠ .eq)) l m.entries
  by_cases h : compare k l = .eq <;> simpa [find?, erase, filter, h] using this

omit [Std.TransOrd κ] [Std.LawfulEqOrd κ] in
theorem findIn_cons_of_rising {a : κ × β} {es : List (κ × β)}
    (h : (a :: es).Pairwise fun a b => compare a.1 b.1 = .lt) : findIn a.1 es = none := by
  refine findIn_eq_none fun e he hc => ?_
  have := (List.pairwise_cons.1 h).1 e he
  simp [hc] at this

theorem entries_eq_of_find? {es fs : List (κ × β)}
    (he : es.Pairwise fun a b => compare a.1 b.1 = .lt)
    (hf : fs.Pairwise fun a b => compare a.1 b.1 = .lt)
    (h : ∀ k, findIn k es = findIn k fs) : es = fs := by
  induction es generalizing fs with
  | nil =>
    cases fs with
    | nil => rfl
    | cons b fs => simpa [findIn] using h b.1
  | cons a es ih =>
    cases fs with
    | nil => simpa [findIn] using h a.1
    | cons b fs =>
      have below : ∀ {a b : κ × β} {es fs : List (κ × β)},
          ((a :: es).Pairwise fun a b => compare a.1 b.1 = .lt) →
          (∀ k, findIn k (a :: es) = findIn k (b :: fs)) → compare b.1 a.1 ≠ .lt := by
        intro a b es fs ha hk hlt
        have hb := hk b.1
        rw [findIn, if_neg (by simp [hlt])] at hb
        have : findIn b.1 es = none := findIn_eq_none fun e hmem hc => by
          have := Std.TransCmp.lt_trans hlt ((List.pairwise_cons.1 ha).1 e hmem)
          simp [hc] at this
        simp [this, findIn] at hb
      have hab : compare a.1 b.1 = .eq := by
        cases hc : compare a.1 b.1 with
        | eq => rfl
        | lt => exact absurd hc (below hf fun k => (h k).symm)
        | gt => exact absurd (Std.OrientedCmp.lt_of_gt hc) (below he h)
      obtain ⟨k, v⟩ := a
      obtain ⟨l, w⟩ := b
      obtain rfl := Std.LawfulEqOrd.eq_of_compare hab
      have hv := h k
      simp only [findIn, Std.ReflOrd.compare_self, if_true, Option.some.injEq] at hv
      subst hv
      congr 1
      refine ih (List.pairwise_cons.1 he).2 (List.pairwise_cons.1 hf).2 fun m => ?_
      by_cases hm : compare m k = .eq
      · obtain rfl := Std.LawfulEqOrd.eq_of_compare hm
        rw [findIn_cons_of_rising he, findIn_cons_of_rising hf]
      · simpa [findIn, hm] using h m

/-- Maps that give every key the same value are equal. -/
theorem ext_find? {m n : SortedMap κ β} (h : ∀ k, m.find? k = n.find? k) : m = n := by
  obtain ⟨es, he⟩ := m
  obtain ⟨fs, hf⟩ := n
  cases entries_eq_of_find? he hf h
  rfl

@[simp] theorem find?_insert_self (m : SortedMap κ β) (k : κ) (v : β) :
    (m.insert k v).find? k = some v := by
  rw [find?_insert, if_pos Std.ReflOrd.compare_self]

theorem find?_insert_of_ne (m : SortedMap κ β) {k l : κ} (v : β) (other : l ≠ k) :
    (m.insert k v).find? l = m.find? l := by
  rw [find?_insert, if_neg fun same => other (Std.LawfulEqOrd.eq_of_compare same)]

omit [Std.TransOrd κ] in
theorem find?_erase_of_ne (m : SortedMap κ β) {k l : κ} (other : l ≠ k) :
    (m.erase k).find? l = m.find? l := by
  rw [find?_erase, if_neg fun same => other (Std.LawfulEqOrd.eq_of_compare same).symm]

theorem insert_insert (m : SortedMap κ β) (k : κ) (v w : β) :
    (m.insert k v).insert k w = m.insert k w := by
  apply ext_find?
  intro l
  simp only [find?_insert]
  split <;> rfl

theorem insert_comm (m : SortedMap κ β) {k l : κ} (apart : k ≠ l) (v w : β) :
    (m.insert k v).insert l w = (m.insert l w).insert k v := by
  apply ext_find?
  intro key
  by_cases first : key = k
  · subst first
    rw [find?_insert_self, find?_insert_of_ne _ _ apart, find?_insert_self]
  · by_cases second : key = l
    · subst second
      rw [find?_insert_self, find?_insert_of_ne _ _ apart.symm, find?_insert_self]
    · simp only [find?_insert_of_ne _ _ first, find?_insert_of_ne _ _ second]

omit [Std.TransOrd κ] in
theorem findIn_eq_some_iff {k : κ} {v : β} {es : List (κ × β)}
    (h : es.Pairwise fun a b => compare a.1 b.1 = .lt) :
    findIn k es = some v ↔ (k, v) ∈ es := by
  induction es with
  | nil => simp [findIn]
  | cons a rest ih =>
      obtain ⟨l, w⟩ := a
      obtain ⟨below, rising⟩ := List.pairwise_cons.1 h
      rw [findIn, List.mem_cons]
      split
      · next same =>
          obtain rfl := Std.LawfulEqOrd.eq_of_compare same
          have absent : (k, v) ∉ rest := by
            intro member
            simpa using below _ member
          simp [absent, eq_comm]
      · next other =>
          have differs : (k, v) ≠ (l, w) := by
            rintro ⟨⟩
            exact other Std.ReflOrd.compare_self
          simp only [differs, false_or]
          exact ih rising

omit [Std.TransOrd κ] in
theorem find?_eq_some_iff (m : SortedMap κ β) {k : κ} {v : β} :
    m.find? k = some v ↔ (k, v) ∈ m.entries := findIn_eq_some_iff m.rising

omit [Std.TransOrd κ] in
theorem find?_filter_eq_some_iff (m : SortedMap κ β) (p : κ → β → Bool) {k : κ} {v : β} :
    (m.filter p).find? k = some v ↔ m.find? k = some v ∧ p k v = true := by
  rw [find?_eq_some_iff, find?_eq_some_iff]
  exact List.mem_filter

omit [Std.TransOrd κ] in
theorem mem_keys_iff (m : SortedMap κ β) {k : κ} : k ∈ m.keys ↔ ∃ v, m.find? k = some v := by
  simp only [keys, List.mem_map, find?_eq_some_iff]
  constructor
  · rintro ⟨⟨l, v⟩, member, rfl⟩
    exact ⟨v, member⟩
  · rintro ⟨v, member⟩
    exact ⟨(k, v), member, rfl⟩

omit [Std.TransOrd κ] [Std.LawfulEqOrd κ] in
theorem keys_rising (m : SortedMap κ β) : m.keys.Pairwise fun k l => compare k l = .lt :=
  List.pairwise_map.2 m.rising

theorem find?_foldl_insert (pairs : List (κ × β)) (m : SortedMap κ β) (k : κ) :
    (∃ v, (pairs.foldl (fun m (k, v) => m.insert k v) m).find? k = some v) ↔
      (∃ v, m.find? k = some v) ∨ ∃ v, (k, v) ∈ pairs := by
  induction pairs generalizing m with
  | nil => simp
  | cons pair pairs ih =>
      obtain ⟨l, w⟩ := pair
      rw [List.foldl_cons, ih]
      by_cases same : k = l
      · subst same
        simp
      · simp [find?_insert_of_ne m w same, same]

omit [Std.LawfulEqOrd κ] in
theorem insertIn_last {k : κ} {v : β} {es : List (κ × β)} (last : ∀ e ∈ es, compare e.1 k = .lt) :
    insertIn k v es = es ++ [(k, v)] := by
  induction es with
  | nil => rfl
  | cons e es ih =>
      obtain ⟨l, w⟩ := e
      have above : compare k l = .gt := Std.OrientedCmp.gt_of_lt (last (l, w) List.mem_cons_self)
      have later := ih fun e member => last e (List.mem_cons_of_mem _ member)
      rw [insertIn, above, List.cons_append, later]

theorem entries_foldl_insert (pairs : List (κ × β)) (m : SortedMap κ β)
    (rising : (m.entries ++ pairs).Pairwise fun a b => compare a.1 b.1 = .lt) :
    (pairs.foldl (fun m (k, v) => m.insert k v) m).entries = m.entries ++ pairs := by
  induction pairs generalizing m with
  | nil => exact (List.append_nil _).symm
  | cons pair pairs ih =>
      have last : ∀ e ∈ m.entries, compare e.1 pair.1 = .lt := fun e member =>
        (List.pairwise_append.1 rising).2.2 e member pair List.mem_cons_self
      have grown : (m.insert pair.1 pair.2).entries = m.entries ++ [pair] := insertIn_last last
      rw [List.foldl_cons, ih, grown, List.append_assoc, List.singleton_append]
      rwa [grown, List.append_assoc, List.singleton_append]

theorem ofList_entries (m : SortedMap κ β) : ofList m.entries = m := by
  have same : (ofList m.entries).entries = m.entries := entries_foldl_insert _ empty m.rising
  generalize ofList m.entries = n at same ⊢
  cases m
  cases n
  cases same
  rfl

theorem mem_keys_ofList_iff (pairs : List (κ × β)) {k : κ} :
    k ∈ (ofList pairs).keys ↔ ∃ v, (k, v) ∈ pairs := by
  rw [mem_keys_iff, ofList, find?_foldl_insert]
  simp

end Ordered

end SortedMap

end PullSecrets
