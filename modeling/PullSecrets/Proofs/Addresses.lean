import Mathlib.Data.List.TakeDrop
import Mathlib.Data.List.TakeWhile
import PullSecrets.Http.Target

/-! # Addresses written back

A target that was read is written back without its fragment; if it has a scheme, the two for the web
are written in small letters, and the path is not empty (`Target.writtenAs_of_read`). An address is
written back in one way at most (`Target.WrittenAs.unique`).
-/

namespace PullSecrets

/-- Nothing, or something that starts with a character. -/
def Opens (c : Char) (cs : List Char) : Prop := ∀ d ∈ cs.head?, d = c

/-- A text is cut in one way where its characters stop to be of a kind. -/
theorem cut_unique {p : Char → Bool} {taken rest taken' rest' : List Char}
    (all : ∀ c ∈ taken, p c = true) (stops : ∀ c ∈ rest.head?, p c = false)
    (all' : ∀ c ∈ taken', p c = true) (stops' : ∀ c ∈ rest'.head?, p c = false)
    (same : taken ++ rest = taken' ++ rest') : taken = taken' ∧ rest = rest' := by
  induction taken generalizing taken' with
  | nil =>
      cases taken' with
      | nil => exact ⟨rfl, same⟩
      | cons d taken' =>
          have first := stops d (congrArg List.head? same)
          simp [all' d (.head _)] at first
  | cons c taken ih =>
      cases taken' with
      | nil =>
          have first := stops' c (congrArg List.head? same.symm)
          simp [all c (.head _)] at first
      | cons d taken' =>
          obtain ⟨rfl, later⟩ := List.cons.inj same
          obtain ⟨rfl, rfl⟩ := ih (fun e member => all e (.tail _ member))
            (fun e member => all' e (.tail _ member)) later
          exact ⟨rfl, rfl⟩

theorem Opens.cut {c : Char} {taken rest taken' rest' : List Char} (free : c ∉ taken)
    (free' : c ∉ taken') (opens : Opens c rest) (opens' : Opens c rest')
    (same : taken ++ rest = taken' ++ rest') : taken = taken' ∧ rest = rest' := by
  have all {cs : List Char} (free : c ∉ cs) : ∀ d ∈ cs, (d != c) = true := by
    intro d member
    simpa using ne_of_mem_of_not_mem member free
  have stops {cs : List Char} (opens : Opens c cs) : ∀ d ∈ cs.head?, (d != c) = false := by
    intro d first
    simp [opens d first]
  exact cut_unique (all free) (stops opens) (all free') (stops opens') same

theorem Opens.head_append {c d : Char} {cs rest : List Char} (opens : Opens c cs)
    (first : d ∈ (cs ++ rest).head?) : d = c ∨ d ∈ rest.head? := by
  cases cs with
  | nil => exact .inr first
  | cons e cs => exact .inl (opens d first)

namespace Target

/-- How an address is written back. -/
inductive WrittenAs : List Char → List Char → Prop
  | bare {authority : List Char} (undivided : ∀ c ∈ authority, c ≠ '/' ∧ c ≠ '?' ∧ c ≠ '#') :
      WrittenAs authority authority
  | rooted {path fragment : List Char} (root : path.head? = some '/') (whole : '#' ∉ path)
      (marked : Opens '#' fragment) :
      WrittenAs (path ++ fragment) path
  | full {scheme authority path query fragment : List Char}
      (scheme_chars : ∀ c ∈ scheme, isSchemeChar c = true)
      (undivided : ∀ c ∈ authority, c ≠ '/' ∧ c ≠ '?' ∧ c ≠ '#')
      (root : Opens '/' path) (path_chars : ∀ c ∈ path, c ≠ '?' ∧ c ≠ '#')
      (asked : Opens '?' query) (whole : '#' ∉ query) (marked : Opens '#' fragment) :
      WrittenAs (scheme ++ ':' :: '/' :: '/' :: (authority ++ (path ++ (query ++ fragment))))
        ((usualScheme (String.ofList scheme)).toList ++
          ':' :: '/' :: '/' :: (authority ++ ((if path = [] then ['/'] else path) ++ query)))

/-- The query of a target as it is written. -/
def queryText : Option String → List Char
  | some query => '?' :: query.toList
  | none => []

theorem text_toList (t : Target) :
    t.text.toList =
      (match t.scheme with
        | some scheme => scheme.toList ++ [':', '/', '/']
        | none => []) ++ t.authority.toList ++ t.path.toList ++ queryText t.query := by
  obtain ⟨scheme, authority, path, query⟩ := t
  cases scheme <;> cases query <;> simp [text, queryText]

theorem span_cases {p : Char → Bool} {cs taken rest : List Char}
    (split : cs.span p = (taken, rest)) :
    cs = taken ++ rest ∧ (∀ c ∈ taken, p c = true) ∧ ∀ c ∈ rest.head?, p c = false := by
  rw [List.span_eq_takeWhile_dropWhile, Prod.mk.injEq] at split
  obtain ⟨rfl, rfl⟩ := split
  refine ⟨List.takeWhile_append_dropWhile.symm, fun c => List.mem_takeWhile_imp, fun c first => ?_⟩
  have stops := List.head?_dropWhile_not p cs
  rw [Option.mem_def.1 first] at stops
  exact stops

theorem opens_queryText (query : Option String) : Opens '?' (queryText query) := by
  cases query with
  | none => nofun
  | some query =>
      intro c first
      cases first
      rfl

theorem readPath_cases {cs : List Char} {path : String} {query : Option String}
    (read : readPath cs = some (path, query)) :
    ∃ fragment, cs = path.toList ++ (queryText query ++ fragment) ∧
      (∀ c ∈ path.toList, c ≠ '?' ∧ c ≠ '#') ∧ '#' ∉ queryText query ∧ Opens '#' fragment := by
  unfold readPath at read
  generalize taken : cs.span (fun c => c != '?' && c != '#') = split at read
  obtain ⟨before, rest⟩ := split
  obtain ⟨rfl, free, stops⟩ := span_cases taken
  have undivided : ∀ c ∈ before, c ≠ '?' ∧ c ≠ '#' := by simpa using free
  dsimp only at read
  split at read
  · split at read
    · next later =>
        split at read
        · cases read
          have whole : '#' ∉ later.takeWhile (· != '#') := fun member => by
            simpa using List.mem_takeWhile_imp member
          refine ⟨later.dropWhile (· != '#'), ?_, ?_, ?_, ?_⟩
          · simp [queryText, List.takeWhile_append_dropWhile]
          · simpa using undivided
          · simpa [queryText] using whole
          · intro c first
            have stops := List.head?_dropWhile_not (· != '#') later
            rw [Option.mem_def.1 first] at stops
            simpa using stops
        · cases read
    · next other =>
        cases read
        refine ⟨rest, by simp [queryText], by simpa using undivided, by simp [queryText], ?_⟩
        intro c first
        cases rest with
        | nil => cases first
        | cons d rest =>
            cases first
            have mark := stops c rfl
            have no_query : c ≠ '?' := fun same => other rest (by rw [same])
            simpa [no_query] using mark
  · cases read

theorem splitScheme_cases {cs rest : List Char} {scheme : Option (List Char)}
    (split : splitScheme cs = some (scheme, rest)) :
    (scheme = none ∧ rest = cs) ∨
      ∃ name, scheme = some name ∧ cs = name ++ ':' :: '/' :: '/' :: rest ∧
        ∀ c ∈ name, isSchemeChar c = true := by
  unfold splitScheme at split
  split at split
  · next name later taken =>
      obtain ⟨whole, all, -⟩ := span_cases taken
      split at split
      · cases split
        exact .inr ⟨name, rfl, whole, all⟩
      · cases split
  · cases split
    exact .inl ⟨rfl, rfl⟩

theorem splitAuthority_cases {cs authority rest : List Char}
    (split : splitAuthority cs = (authority, rest)) :
    cs = authority ++ rest ∧ (∀ c ∈ authority, c ≠ '/' ∧ c ≠ '?' ∧ c ≠ '#') ∧
      ∀ c ∈ rest.head?, c = '/' ∨ c = '?' ∨ c = '#' := by
  obtain ⟨whole, free, stops⟩ := span_cases split
  refine ⟨whole, fun c member => ?_, fun c first => ?_⟩
  · simpa [and_assoc] using free c member
  · have mark := stops c first
    by_cases slash : c = '/'
    · exact .inl slash
    · by_cases asks : c = '?'
      · exact .inr (.inl asks)
      · exact .inr (.inr (by simpa [slash, asks] using mark))

theorem writtenAs_of_readFull {cs : List Char} {t : Target} (read : readFull cs = some t) :
    WrittenAs cs t.text.toList := by
  unfold readFull at read
  split at read
  · cases read
  · next scheme rest taken =>
      generalize cut : splitAuthority rest = parts at read
      obtain ⟨authority, path⟩ := parts
      obtain ⟨rfl, undivided, stops⟩ := splitAuthority_cases cut
      dsimp only at read
      split at read
      · cases read
      · rcases splitScheme_cases taken with ⟨rfl, whole⟩ | ⟨name, rfl, whole, chars⟩
        · dsimp only at read
          split at read
          · next empty =>
              obtain rfl : path = [] := List.isEmpty_iff.1 empty
              cases read
              rw [List.append_nil] at whole
              simpa [text, ← whole] using WrittenAs.bare undivided
          · cases read
        · dsimp only at read
          split at read
          · cases read
          · obtain ⟨⟨found, query⟩, cut, rfl⟩ := Option.map_eq_some_iff.1 read
            obtain ⟨fragment, rfl, path_chars, unmarked, marked⟩ := readPath_cases cut
            have root : Opens '/' found.toList := by
              intro c first
              have member := List.mem_of_mem_head? first
              have split := stops c (by simp [Option.mem_def.1 first])
              simpa [path_chars c member] using split
            have written := WrittenAs.full chars undivided root path_chars (opens_queryText query)
              unmarked marked
            have empty : found.toList = [] ↔ found = "" := String.toList_eq_nil_iff
            rw [whole, text_toList]
            by_cases bare : found = "" <;> simpa [empty, bare] using written

/-- What is read as a target is written back as it should be. -/
theorem writtenAs_of_read {address : String} {t : Target} (read : Target.read address = .ok t) :
    WrittenAs address.toList t.text.toList := by
  unfold Target.read at read
  split at read
  · cases read
  · dsimp only at read
    split at read
    · next found =>
        cases read
        split at found
        · cases found
        · next star =>
            cases found
            rw [star]
            exact .bare (by simp)
        · next rest rooted =>
            obtain ⟨⟨path, query⟩, cut, rfl⟩ := Option.map_eq_some_iff.1 found
            obtain ⟨fragment, whole, path_chars, unmarked, marked⟩ := readPath_cases cut
            have root : (path.toList ++ queryText query).head? = some '/' := by
              cases chars : path.toList with
              | cons c cs =>
                  rw [chars] at whole
                  rw [List.cons_append, List.head?_cons, (List.cons.inj whole).1]
              | nil =>
                  -- neither a query nor a fragment starts with a slash
                  rw [chars, List.nil_append] at whole
                  cases query with
                  | none =>
                      have opened : '/' :: rest = fragment := whole
                      cases marked '/' (congrArg List.head? opened.symm)
                  | some query => cases (List.cons.inj whole).1
            have unmarked_path : '#' ∉ path.toList ++ queryText query := by
              intro member
              rcases List.mem_append.1 member with inside | inside
              · exact (path_chars _ inside).2 rfl
              · exact unmarked inside
            rw [rooted, whole, text_toList, ← List.append_assoc]
            simpa using WrittenAs.rooted root unmarked_path marked
        · exact writtenAs_of_readFull found
    · cases read

theorem after_path {query fragment : List Char} (asked : Opens '?' query)
    (marked : Opens '#' fragment) :
    ∀ c ∈ (query ++ fragment).head?, (c != '?' && c != '#') = false := by
  intro c first
  rcases asked.head_append first with rfl | later
  · rfl
  · rw [marked c later]
    rfl

theorem after_authority {path query fragment : List Char} (root : Opens '/' path)
    (asked : Opens '?' query) (marked : Opens '#' fragment) :
    ∀ c ∈ (path ++ (query ++ fragment)).head?, (c != '/' && c != '?' && c != '#') = false := by
  intro c first
  rcases root.head_append first with rfl | later
  · rfl
  · simpa using fun _ => by simpa using after_path asked marked c later

/-- An address is written back in one way at most. -/
theorem WrittenAs.unique {address address' shown shown' : List Char}
    (written : WrittenAs address shown) (written' : WrittenAs address' shown')
    (same : address = address') : shown = shown' := by
  have divided {path rest : List Char} (root : path.head? = some '/') : '/' ∈ path ++ rest :=
    List.mem_append_left _ (List.mem_of_mem_head? root)
  have named {scheme path fragment rest : List Char} (root : path.head? = some '/')
      (chars : ∀ c ∈ scheme, isSchemeChar c = true) :
      path ++ fragment ≠ scheme ++ ':' :: '/' :: '/' :: rest := by
    intro same
    have first : (scheme ++ ':' :: '/' :: '/' :: rest).head? = some '/' := by
      rw [← same, List.head?_append, root]
      rfl
    cases scheme with
    | nil => cases first
    | cons c scheme =>
        cases first
        exact absurd (chars '/' (.head _)) (by decide)
  cases written with
  | bare undivided =>
      cases written' with
      | bare => exact same
      | rooted root => exact absurd rfl (undivided '/' (same ▸ divided root)).1
      | full => exact absurd rfl (undivided '/' (by rw [same]; simp)).1
  | rooted root whole marked =>
      cases written' with
      | bare undivided => exact absurd rfl (undivided '/' (same ▸ divided root)).1
      | rooted _ whole' marked' => exact (Opens.cut whole whole' marked marked' same).1
      | full chars => exact absurd same (named root chars)
  | full chars undivided root path_chars asked whole marked =>
      cases written' with
      | bare whole_authority => exact absurd rfl (whole_authority '/' (by rw [← same]; simp)).1
      | rooted root' => exact absurd same.symm (named root' chars)
      | full chars' undivided' root' path_chars' asked' whole' marked' =>
          have colon (rest : List Char) : ∀ c ∈ (':' :: rest).head?, isSchemeChar c = false := by
            intro c first
            cases first
            decide
          obtain ⟨rfl, separated⟩ := cut_unique chars (colon _) chars' (colon _) same
          simp only [List.cons.injEq, true_and] at separated
          obtain ⟨rfl, paths⟩ := cut_unique (by simpa [and_assoc] using undivided)
            (after_authority root asked marked) (by simpa [and_assoc] using undivided')
            (after_authority root' asked' marked') separated
          obtain ⟨rfl, queries⟩ := cut_unique (by simpa using path_chars)
            (after_path asked marked) (by simpa using path_chars') (after_path asked' marked') paths
          rw [(Opens.cut whole whole' marked marked' queries).1]

end Target

end PullSecrets
