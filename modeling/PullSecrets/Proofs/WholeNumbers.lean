import Mathlib.Data.List.Forall2
import Mathlib.Data.List.TakeWhile
import PullSecrets.Proofs.Incomplete

/-! # Whole numbers in a body

A field may be sent as a number, and is then the text of what was read. That text is what stands in
the body as long as the number is an integer of 64 bits; a longer one is read as floating point, so
that other digits are stored than were sent (`whole_number_kept_iff`).
-/

namespace PullSecrets

namespace Literal

theorem digitChar_digitValue {c : Char} (digit : c.isDigit = true) :
    digitValue c < 10 ∧ Nat.digitChar (digitValue c) = c := by
  obtain ⟨low, high⟩ := Char.isDigit_iff_toNat.1 digit
  have low : 48 ≤ c.toNat := low
  have high : c.toNat ≤ 57 := high
  have small : digitValue c < 10 := by
    unfold digitValue
    omega
  refine ⟨small, ?_⟩
  apply Char.toNat_inj.1
  rw [Nat.toNat_digitChar_of_lt_ten small]
  unfold digitValue
  omega

theorem toDigits_foldl {n : Nat} {cs : List Char} (positive : 0 < n)
    (digits : ∀ c ∈ cs, c.isDigit = true) :
    Nat.toDigits 10 (cs.foldl (fun n c => n * 10 + digitValue c) n) = Nat.toDigits 10 n ++ cs := by
  induction cs generalizing n with
  | nil => simp
  | cons c cs ih =>
      obtain ⟨small, same⟩ := digitChar_digitValue (digits c (.head _))
      have longer : Nat.toDigits 10 (n * 10 + digitValue c) = Nat.toDigits 10 n ++ [c] := by
        rw [Nat.mul_comm, ← Nat.toDigits_append_toDigits (by decide) positive small,
          Nat.toDigits_of_lt_base small, same]
      have later : ∀ d ∈ cs, d.isDigit = true := fun d inside => digits d (.tail _ inside)
      have grown : 0 < n * 10 + digitValue c := by omega
      calc Nat.toDigits 10 ((c :: cs).foldl (fun n c => n * 10 + digitValue c) n)
        _ = Nat.toDigits 10 (n * 10 + digitValue c) ++ cs := ih grown later
        _ = Nat.toDigits 10 n ++ c :: cs := by rw [longer, List.append_assoc, List.singleton_append]

/-- Digits that do not start with a zero are the digits of what they amount to. -/
theorem toDigits_ofDigits {c : Char} {cs : List Char} (nonzero : c ≠ '0')
    (digits : ∀ d ∈ c :: cs, d.isDigit = true) :
    Nat.toDigits 10 (ofDigits (c :: cs)) = c :: cs := by
  obtain ⟨small, same⟩ := digitChar_digitValue (digits c (.head _))
  have positive : 0 < digitValue c := by
    apply Nat.pos_of_ne_zero
    intro zero
    rw [zero] at same
    exact nonzero same.symm
  have rest : ∀ d ∈ cs, d.isDigit = true := fun d inside => digits d (.tail _ inside)
  have whole := toDigits_foldl positive rest
  rw [Nat.toDigits_of_lt_base small, same] at whole
  simpa [ofDigits] using whole

/-- The integer that a literal without fraction and exponent amounts to. -/
def integer (l : Literal) : Int := if l.negative then -ofDigits l.whole else ofDigits l.whole

end Literal

namespace Source

theorem readWhole_eq_some {cs digits rest : List Char}
    (read : readWhole cs = some (digits, rest)) :
    cs = digits ++ rest ∧ digits = Nat.toDigits 10 (Literal.ofDigits digits) := by
  unfold readWhole at read
  rw [List.span_eq_takeWhile_dropWhile] at read
  have all : ∀ c ∈ cs.takeWhile Char.isDigit, c.isDigit = true := fun c => List.mem_takeWhile_imp
  have split := List.takeWhile_append_dropWhile (p := Char.isDigit) (l := cs)
  generalize cs.takeWhile Char.isDigit = taken at read all split
  cases taken with
  | nil => cases read
  | cons c ds =>
      by_cases zero : c = '0'
      · subst zero
        cases ds with
        | nil =>
            cases read
            exact ⟨split.symm, by decide⟩
        | cons d ds => cases read
      · have plain : some (c :: ds, cs.dropWhile Char.isDigit) = some (digits, rest) := by
          simpa [zero] using read
        cases plain
        exact ⟨split.symm, (Literal.toDigits_ofDigits zero all).symm⟩

theorem readFraction_suffix {cs rest : List Char} {fraction : Option (List Char)}
    (read : readFraction cs = some (fraction, rest)) :
    rest <:+ cs ∧ (fraction = none → rest = cs) := by
  unfold readFraction at read
  split at read
  · rw [List.span_eq_takeWhile_dropWhile] at read
    split at read
    · cases read
    · next after digits rest' _ same =>
        cases read
        cases same
        exact ⟨(List.dropWhile_suffix _).trans (List.suffix_cons _ _), nofun⟩
  · cases read
    exact ⟨List.suffix_rfl, fun _ => rfl⟩

theorem readPower_suffix {cs rest : List Char} {power : Option (Bool × List Char)}
    (read : readPower cs = some (power, rest)) : rest <:+ cs ∧ power ≠ none := by
  unfold readPower at read
  split at read
  next negative unsigned sign =>
  have suffix : unsigned <:+ cs := by
    split at sign
    · cases sign
      exact List.suffix_cons _ _
    · cases sign
      exact List.suffix_cons _ _
    · cases sign
      exact List.suffix_rfl
  rw [List.span_eq_takeWhile_dropWhile] at read
  split at read
  · cases read
  · next digits rest' _ same =>
      cases read
      cases same
      exact ⟨(List.dropWhile_suffix _).trans suffix, nofun⟩

theorem readExponent_suffix {cs rest : List Char} {power : Option (Bool × List Char)}
    (read : readExponent cs = some (power, rest)) :
    rest <:+ cs ∧ (power = none → rest = cs) := by
  unfold readExponent at read
  split at read
  · obtain ⟨suffix, some⟩ := readPower_suffix read
    exact ⟨suffix.trans (List.suffix_cons _ _), fun none => absurd none some⟩
  · obtain ⟨suffix, some⟩ := readPower_suffix read
    exact ⟨suffix.trans (List.suffix_cons _ _), fun none => absurd none some⟩
  · cases read
    exact ⟨List.suffix_rfl, fun _ => rfl⟩

theorem readUnsigned_eq_some {negative : Bool} {cs rest : List Char} {l : Literal}
    (read : readUnsigned negative cs = some (l, rest)) :
    rest <:+ cs ∧ l.negative = negative ∧ l.whole = Nat.toDigits 10 (Literal.ofDigits l.whole) ∧
      (l.isInteger = true → cs = l.whole ++ rest) := by
  simp only [readUnsigned, Option.bind_eq_bind, Option.bind_eq_some_iff] at read
  obtain ⟨⟨whole, after⟩, first, ⟨fraction, after'⟩, second, ⟨power, after''⟩, third, same⟩ := read
  cases same
  obtain ⟨split, digits⟩ := readWhole_eq_some first
  obtain ⟨suffix, plain⟩ := readFraction_suffix second
  obtain ⟨suffix', plain'⟩ := readExponent_suffix third
  refine ⟨?_, rfl, digits, ?_⟩
  · rw [split]
    exact (suffix'.trans suffix).trans (List.suffix_append _ _)
  · intro whole
    simp only [Literal.isInteger, Bool.and_eq_true, Option.isNone_iff_eq_none] at whole
    have last : after'' = after := (plain' whole.2).trans (plain whole.1)
    rw [split, last]

/-- A literal without fraction and exponent is all that is taken from the text. -/
theorem readLiteral_eq_some {cs rest : List Char} {l : Literal}
    (read : readLiteral cs = some (l, rest)) :
    rest <:+ cs ∧ l.whole = Nat.toDigits 10 (Literal.ofDigits l.whole) ∧
      (l.isInteger = true → cs = l.integerText ++ rest) := by
  unfold readLiteral at read
  split at read
  · obtain ⟨suffix, negative, digits, split⟩ := readUnsigned_eq_some read
    refine ⟨suffix.trans (List.suffix_cons _ _), digits, fun whole => ?_⟩
    simp only [Literal.integerText, negative, if_true, List.cons_append, split whole]
  · obtain ⟨suffix, unsigned, digits, split⟩ := readUnsigned_eq_some read
    refine ⟨suffix, digits, fun whole => ?_⟩
    simp only [Literal.integerText, unsigned, Bool.false_eq_true, if_false, split whole]

theorem readString_suffix {before pieces : List Piece} {cs rest : List Char}
    (read : readString before cs = some (pieces, rest)) : rest <:+ cs := by
  fun_induction readString before cs with
  | case1 before after =>
      cases read
      exact List.suffix_cons _ _
  | case2 before a b c d after n found ih =>
      refine (ih read).trans ?_
      exact ⟨['\\', 'u', a, b, c, d], rfl⟩
  | case3 => cases read
  | case4 before e after _ c found ih => exact (ih read).trans ⟨['\\', e], rfl⟩
  | case5 => cases read
  | case6 => cases read
  | case7 before c after _ _ _ _ ih => exact (ih read).trans (List.suffix_cons _ _)
  | case8 => cases read

theorem skipBlanks_suffix (cs : List Char) : skipBlanks cs <:+ cs := List.dropWhile_suffix _

theorem suffix_of_skipBlanks {c : Char} {cs rest : List Char} (first : skipBlanks cs = c :: rest) :
    rest <:+ cs :=
  (List.suffix_cons _ _).trans (first ▸ skipBlanks_suffix cs)

theorem readName_suffix {cs rest : List Char} {key : Option String}
    (read : readName cs = some (key, rest)) : rest <:+ cs := by
  unfold readName at read
  split at read
  · next opened start =>
      split at read
      · next ps closed string =>
          split at read
          · next after colon =>
              cases read
              exact (suffix_of_skipBlanks colon).trans
                ((readString_suffix string).trans (suffix_of_skipBlanks start))
          · cases read
      · cases read
  · cases read

/-- A number literal stands somewhere in the tree. -/
inductive Has (l : Literal) : Source → Prop where
  | number : Has l (.number l)
  | item {items : List Source} {s : Source} (inside : s ∈ items) (has : Has l s) :
      Has l (.array items)
  | member {members : List (Option String × Source)} {m : Option String × Source}
      (inside : m ∈ members) (has : Has l m.2) : Has l (.object members)

/-- Each literal of the tree is read at some place of the text. -/
def Traced (cs : List Char) (s : Source) : Prop :=
  ∀ l, Has l s → ∃ place rest, place <:+ cs ∧ readLiteral place = some (l, rest)

theorem Traced.mono {cs more : List Char} {s : Source} (traced : Traced cs s)
    (suffix : cs <:+ more) : Traced more s := by
  intro l has
  obtain ⟨place, rest, inside, read⟩ := traced l has
  exact ⟨place, rest, inside.trans suffix, read⟩

/-- What each reader leaves is the end of the text, and the literals it finds come from the text. -/
structure Tracing (n : Nat) : Prop where
  value : ∀ {cs s rest}, readValue n cs = some (s, rest) → rest <:+ cs ∧ Traced cs s
  items : ∀ {text before cs s rest}, cs <:+ text → (∀ item ∈ before, Traced text item) →
    readItems n before cs = some (s, rest) → rest <:+ text ∧ Traced text s
  members : ∀ {text before cs s rest}, cs <:+ text →
    (∀ m ∈ before, Traced text (Prod.snd m)) →
    readMembers n before cs = some (s, rest) → rest <:+ text ∧ Traced text s

section Readers

variable {n : Nat} {text cs rest : List Char} {s : Source}

theorem traced_array (before : List Source) (traced : ∀ item ∈ before, Traced text item) :
    Traced text (.array before.reverse) := by
  intro l has
  cases has with
  | item inside has => exact traced _ (List.mem_reverse.1 inside) l has

theorem traced_object (before : List (Option String × Source))
    (traced : ∀ m ∈ before, Traced text m.2) : Traced text (.object before.reverse) := by
  intro l has
  cases has with
  | member inside has => exact traced _ (List.mem_reverse.1 inside) l has

theorem readItems_traced (tracing : Tracing n) {before : List Source} (suffix : cs <:+ text)
    (traced : ∀ item ∈ before, Traced text item)
    (read : readItems (n + 1) before cs = some (s, rest)) : rest <:+ text ∧ Traced text s := by
  rw [readItems] at read
  split at read
  · cases read
  · next item after first =>
      obtain ⟨left, here⟩ := tracing.value first
      have grown : ∀ other ∈ item :: before, Traced text other :=
        List.forall_mem_cons.2 ⟨here.mono suffix, traced⟩
      split at read
      · next later comma =>
          exact tracing.items ((suffix_of_skipBlanks comma).trans (left.trans suffix)) grown read
      · next later closing =>
          cases read
          exact ⟨(suffix_of_skipBlanks closing).trans (left.trans suffix), traced_array _ grown⟩
      · cases read

theorem readMembers_traced (tracing : Tracing n) {before : List (Option String × Source)}
    (suffix : cs <:+ text) (traced : ∀ m ∈ before, Traced text m.2)
    (read : readMembers (n + 1) before cs = some (s, rest)) : rest <:+ text ∧ Traced text s := by
  rw [readMembers] at read
  split at read
  · cases read
  · next key after named =>
      have suffix := (readName_suffix named).trans suffix
      split at read
      · cases read
      · next value after first =>
          obtain ⟨left, here⟩ := tracing.value first
          have grown : ∀ other ∈ (key, value) :: before, Traced text other.2 :=
            List.forall_mem_cons.2 ⟨here.mono suffix, traced⟩
          split at read
          · next later comma =>
              exact tracing.members ((suffix_of_skipBlanks comma).trans (left.trans suffix)) grown
                read
          · next later closing =>
              cases read
              exact ⟨(suffix_of_skipBlanks closing).trans (left.trans suffix),
                traced_object _ grown⟩
          · cases read

theorem readValue_traced (tracing : Tracing n)
    (read : readValue (n + 1) cs = some (s, rest)) : rest <:+ cs ∧ Traced cs s := by
  rw [readValue] at read
  split at read
  · next after quote =>
      obtain ⟨⟨pieces, left⟩, string, same⟩ := Option.map_eq_some_iff.1 read
      cases same
      refine ⟨(readString_suffix string).trans (suffix_of_skipBlanks quote), ?_⟩
      intro l has
      cases has
  · next after opening =>
      have inside := suffix_of_skipBlanks opening
      split at read
      · next later closing =>
          cases read
          exact ⟨(suffix_of_skipBlanks closing).trans inside,
            traced_array [] (List.forall_mem_nil _)⟩
      · exact tracing.items ((skipBlanks_suffix after).trans inside) (List.forall_mem_nil _) read
  · next after opening =>
      have inside := suffix_of_skipBlanks opening
      split at read
      · next later closing =>
          cases read
          exact ⟨(suffix_of_skipBlanks closing).trans inside,
            traced_object [] (List.forall_mem_nil _)⟩
      · exact tracing.members ((skipBlanks_suffix after).trans inside) (List.forall_mem_nil _) read
  · next after word =>
      cases read
      refine ⟨(List.suffix_append ['u', 'l', 'l'] _).trans (suffix_of_skipBlanks word), ?_⟩
      intro l has
      cases has
  · next after word =>
      cases read
      refine ⟨(List.suffix_append ['r', 'u', 'e'] _).trans (suffix_of_skipBlanks word), ?_⟩
      intro l has
      cases has
  · next after word =>
      cases read
      refine ⟨(List.suffix_append ['a', 'l', 's', 'e'] _).trans (suffix_of_skipBlanks word), ?_⟩
      intro l has
      cases has
  · obtain ⟨⟨l, left⟩, literal, same⟩ := Option.map_eq_some_iff.1 read
    cases same
    refine ⟨(readLiteral_eq_some literal).1.trans (skipBlanks_suffix cs), ?_⟩
    intro other has
    cases has
    exact ⟨_, _, skipBlanks_suffix cs, literal⟩

end Readers

/-- The bound on the steps is all that the readers recurse on, so they are followed together. -/
theorem tracing (n : Nat) : Tracing n := by
  induction n with
  | zero => exact ⟨nofun, nofun, nofun⟩
  | succ n ih => exact ⟨readValue_traced ih, readItems_traced ih, readMembers_traced ih⟩

theorem readFirst?_traced {cs rest : List Char} {s : Source}
    (read : readFirst? cs = some (s, rest)) : Traced cs s :=
  ((tracing _).value read).2

end Source

namespace Literal

variable {l : Literal}

theorem eq_foldl_of_takeWhole {n v : Nat} {cs : List Char} (all : takeWhole n cs = (v, 0)) :
    v = cs.foldl (fun n c => n * 10 + digitValue c) n := by
  induction cs generalizing n with
  | nil =>
      cases all
      rfl
  | cons c cs ih =>
      simp only [takeWhole] at all
      split at all
      · exact ih all
      · cases all

/-- What is read exactly is what the digits amount to. -/
theorem integer_of_int? {n : Int} (read : l.int? = some n) : n = l.integer := by
  unfold int? at read
  cases taken : takeWhole 0 l.whole with
  | mk v left =>
      simp only [taken] at read
      split at read
      · next whole =>
          obtain ⟨-, none⟩ : l.isInteger = true ∧ left = 0 := by simpa using whole
          rw [none] at taken
          have value : v = ofDigits l.whole := eq_foldl_of_takeWhole taken
          subst value
          unfold integer
          split at read
          · next positive => simp_all
          · next negative =>
              split at read
              · simp_all
              · cases read
      · cases read

/-- A literal as it is written, not zero, is the one that its value is written as. -/
theorem eq_ofInt (whole : l.isInteger = true)
    (digits : l.whole = Nat.toDigits 10 (ofDigits l.whole)) (nonzero : l.integer ≠ 0) :
    l = .ofInt l.integer := by
  obtain ⟨negative, ds, fraction, exponent⟩ := l
  obtain ⟨rfl, rfl⟩ : fraction = none ∧ exponent = none := by simpa [isInteger] using whole
  simp only at digits
  cases negative with
  | true =>
      have positive : 0 < ofDigits ds := by
        simp only [integer, if_true] at nonzero
        omega
      simp [ofInt, integer, positive, ← digits]
  | false => simp [ofInt, integer, ← digits]

theorem integerText_ofInt (n : Int) : (ofInt n).integerText = (Number.int n).render := by
  by_cases negative : n < 0
  · simp [integerText, ofInt, Number.render, negative]
  · simp [integerText, ofInt, Number.render, negative]

theorem int?_eq_integer_iff (whole : l.isInteger = true)
    (digits : l.whole = Nat.toDigits 10 (ofDigits l.whole)) (nonzero : l.integer ≠ 0) :
    l.int? = some l.integer ↔ (Number.int l.integer).Fits := by
  constructor
  · exact Number.fits_of_int?
  · intro fits
    have read := Number.int?_ofInt fits
    rwa [← eq_ofInt whole digits nonzero] at read

end Literal

theorem Magnitude.mark_mem_render (x : Magnitude) : '.' ∈ x.render ∨ 'e' ∈ x.render := by
  unfold render
  split
  · left
    decide
  · simp only [Decimal.positional, Decimal.scientific]
    split
    · left
      split
      · simp
      · simp
    · right
      simp

/-- The text of a floating-point number has a point or an exponent. -/
theorem Number.mark_mem_render (x : Binary64) :
    '.' ∈ (Number.float x).render ∨ 'e' ∈ (Number.float x).render := by
  simp only [render]
  split
  · exact x.magnitude.mark_mem_render.imp (.tail _) (.tail _)
  · exact x.magnitude.mark_mem_render

theorem Literal.no_mark_mem_integerText {l : Literal}
    (digits : l.whole = Nat.toDigits 10 (Literal.ofDigits l.whole)) :
    '.' ∉ l.integerText ∧ 'e' ∉ l.integerText := by
  have plain (c : Char) (other : c.isDigit = false) : c ∉ l.whole := by
    rw [digits]
    intro member
    have digit := Nat.isDigit_of_mem_toDigits (by decide) (by decide) member
    cases digit.symm.trans other
  have point := plain '.' rfl
  have power := plain 'e' rfl
  unfold Literal.integerText
  split
  · simp [point, power]
  · exact ⟨point, power⟩

/-- A member as it is written has a name and a value. -/
def Json.Valued (room : Nat) (w : Option String × Source) (m : String × Json) : Prop :=
  w.1 = some m.1 ∧ ofSource? room w.2 = some m.2

theorem Json.forall₂_of_membersOfSource? {room : Nat} {written : List (Option String × Source)}
    {members : List (String × Json)} (read : membersOfSource? room written = some members) :
    List.Forall₂ (Valued room) written members := by
  induction written generalizing members with
  | nil =>
      cases read
      exact .nil
  | cons w written ih =>
      obtain ⟨_ | key, s⟩ := w
      · cases read
      · rw [membersOfSource?] at read
        split at read
        · next value here =>
            obtain ⟨later, rest, rfl⟩ := Option.map_eq_some_iff.1 read
            exact .cons ⟨rfl, here⟩ (ih rest)
        · cases read

/-- Trees and values of members agree on which member comes first with a name. -/
theorem Json.find?_of_forall₂ {room : Nat} {written : List (Option String × Source)}
    {members : List (String × Json)} {name : String} {s : Source}
    (both : List.Forall₂ (Valued room) written members)
    (found : (written.find? fun w => w.1 == some name).map (·.2) = some s) :
    ∃ j, ofSource? room s = some j ∧ (members.find? fun m => m.1 == name).map (·.2) = some j := by
  induction both with
  | nil => cases found
  | @cons w m written members same rest ih =>
      obtain ⟨key, s'⟩ := w
      obtain ⟨rfl, value⟩ := same
      by_cases here : m.1 = name
      · obtain rfl : s' = s := by simpa [here] using found
        exact ⟨m.2, value, by simp [here]⟩
      · obtain ⟨j, read, later⟩ := ih (by simpa [here] using found)
        exact ⟨j, read, by simpa [here] using later⟩

namespace Request

/-- The last member with a name of the object that the body starts with, before it gets a value. -/
def written? (r : Request) (name : String) : Option Source :=
  match Source.readFirst? (Text.readable r.body) with
  | some (.object members, _) => (members.reverse.find? fun m => m.1 == some name).map (·.2)
  | _ => none

/-- The number literal that is sent for a field. -/
def literal? (r : Request) (name : String) : Option Literal :=
  match r.written? name with
  | some (.number l) => some l
  | _ => none

variable {r : Request} {name : String} {l : Literal}

theorem written?_of_literal? (sent : r.literal? name = some l) :
    r.written? name = some (.number l) := by
  unfold literal? at sent
  split at sent
  · next found =>
      cases sent
      exact found
  · cases sent

/-- What is sent for a field is read at some place of the body. -/
theorem place_of_literal? (sent : r.literal? name = some l) :
    ∃ place rest, place <:+ Text.readable r.body ∧
      Source.readLiteral place = some (l, rest) := by
  have found := written?_of_literal? sent
  unfold written? at found
  split at found
  · next members rest first =>
      obtain ⟨m, last, same⟩ := Option.map_eq_some_iff.1 found
      have inside := List.mem_reverse.1 (List.mem_of_find?_eq_some last)
      have has : Source.Has l (.object members) := .member inside (same ▸ .number)
      exact Source.readFirst?_traced first l has
  · cases found

/-- A body is read only if what is sent for a field has a value, which is then the field's. -/
theorem field?_of_literal? (read : ¬ r.Unreadable) (sent : r.literal? name = some l) :
    ∃ n, l.value? = some n ∧ r.field? name = some (.number n) := by
  have room : Source.nestingLimit ≠ 0 := by decide
  have found := written?_of_literal? sent
  obtain ⟨body, json⟩ := Option.ne_none_iff_exists'.1 (mt json?_eq_none_iff.1 read)
  rw [field?_eq, json, Option.bind_some]
  unfold written? at found
  split at found
  · next written rest first =>
      unfold json? at json
      split at json
      · simp only [first, Json.ofSource?, if_neg room] at json
        obtain ⟨members, inside, rfl⟩ := Option.map_eq_some_iff.1 json
        have both := List.forall₂_reverse_iff.2 (Json.forall₂_of_membersOfSource? inside)
        obtain ⟨j, value, last⟩ := Json.find?_of_forall₂ both found
        rw [Json.member?_sortMembers]
        obtain ⟨n, number, rfl⟩ := Option.map_eq_some_iff.1 value
        exact ⟨n, number, last⟩
      · cases json
  · cases found

end Request

namespace CredentialRequest

/-- The fields of a submission with their names. -/
def fields (submission : CredentialRequest) : List (String × Option String) :=
  [("namespace", submission.ns), ("name", submission.name), ("registry", submission.registry),
    ("username", submission.username), ("password", submission.password),
    ("email", submission.email)]

theorem fields_of_complete {submission : CredentialRequest} {c : Credential}
    (complete : submission.complete? = some c) :
    submission.fields = c.fields.map fun field => (field.1, some field.2) := by
  obtain ⟨⟨ns, -⟩, ⟨name, -⟩, ⟨registry, -⟩, ⟨username, -⟩, ⟨password, -⟩, ⟨email, -⟩⟩ :=
    complete?_eq_some_iff.1 complete
  simp [fields, Credential.fields, ns, name, registry, username, password, email]

end CredentialRequest

theorem Credential.fields_names (c : Credential) :
    c.fields.map Prod.fst = CredentialRequest.fieldNames := rfl

theorem Request.mem_fields_iff {r : Request} {name : String} {text : Option String}
    (named : name ∈ CredentialRequest.fieldNames) :
    (name, text) ∈ r.submission.fields ↔ text = (r.field? name).bind Json.fieldText? := by
  rw [submission_eq]
  simp only [CredentialRequest.fieldNames, List.mem_cons, List.not_mem_nil, or_false] at named
  rcases named with rfl | rfl | rfl | rfl | rfl | rfl <;> simp [CredentialRequest.fields]

theorem Json.fieldText?_int {n : Int} (nonzero : n ≠ 0) :
    (number (.int n)).fieldText? = some (String.ofList (Number.int n).render) := by
  have counts : (Number.int n).isZero = false := by simpa [Number.isZero] using nonzero
  simp only [fieldText?, counts, Bool.false_eq_true, if_false, text, render]

theorem Json.mark_mem_fieldText? {x : Binary64} {text : String}
    (here : (number (.float x)).fieldText? = some text) :
    '.' ∈ text.toList ∨ 'e' ∈ text.toList := by
  simp only [fieldText?] at here
  split at here
  · cases here
  · cases here
    simpa only [Json.text, render, String.toList_ofList] using Number.mark_mem_render x

section Sent

variable {r : Request} {name : String} {l : Literal}

/-- A number of 64 bits is taken as it is written; the text of any other has a mark that no integer
has. -/
theorem Request.fieldText?_of_literal? (read : ¬ r.Unreadable) (sent : r.literal? name = some l)
    (whole : l.isInteger = true) (nonzero : l.integer ≠ 0) :
    (Number.int l.integer).Fits ∧
        (r.field? name).bind Json.fieldText? = some (String.ofList l.integerText) ∨
      ¬ (Number.int l.integer).Fits ∧ ∀ text, (r.field? name).bind Json.fieldText? = some text →
        '.' ∈ text.toList ∨ 'e' ∈ text.toList := by
  obtain ⟨place, rest, -, literal⟩ := place_of_literal? sent
  have digits := (Source.readLiteral_eq_some literal).2.1
  have exact_iff := Literal.int?_eq_integer_iff whole digits nonzero
  obtain ⟨n, value, field⟩ := field?_of_literal? read sent
  rw [field, Option.bind_some]
  unfold Literal.value? at value
  cases int : l.int? with
  | some k =>
      obtain rfl := Literal.integer_of_int? int
      simp only [int, Option.some.injEq] at value
      subst value
      have written : l.integerText = (Number.int l.integer).render := by
        rw [← Literal.integerText_ofInt, ← Literal.eq_ofInt whole digits nonzero]
      rw [written]
      exact .inl ⟨exact_iff.1 int, Json.fieldText?_int nonzero⟩
  | none =>
      simp only [int] at value
      obtain ⟨x, -, rfl⟩ := Option.map_eq_some_iff.1 value
      right
      constructor
      · intro fits
        cases int.symm.trans (exact_iff.2 fits)
      · intro text here
        exact Json.mark_mem_fieldText? here

/-- A field that is sent as a whole number other than zero, with however many digits: the submission
has the number as it is written in the body exactly when it is an integer of 64 bits, signed or not.
So does a complete credential; it has a rounded number, with a point or an exponent, for any other.
A number that is too large even to be rounded makes the whole body unreadable. -/
theorem whole_number_kept_iff (named : name ∈ CredentialRequest.fieldNames)
    (sent : r.literal? name = some l) (whole : l.isInteger = true) (nonzero : l.integer ≠ 0) :
    l.integerText <:+: Text.readable r.body ∧
      (¬ r.Unreadable →
        ((name, some (String.ofList l.integerText)) ∈ r.submission.fields ↔
          (Number.int l.integer).Fits)) ∧
      (∀ c, r.submission.complete? = some c →
        ((name, String.ofList l.integerText) ∈ c.fields ↔ (Number.int l.integer).Fits) ∧
          (¬ (Number.int l.integer).Fits →
            ∃ text, (name, text) ∈ c.fields ∧ ('.' ∈ text.toList ∨ 'e' ∈ text.toList))) ∧
      (l.value? = none → r.Unreadable) := by
  obtain ⟨place, rest, suffix, literal⟩ := Request.place_of_literal? sent
  obtain ⟨-, digits, split⟩ := Source.readLiteral_eq_some literal
  have kept_iff (read : ¬ r.Unreadable) :
      (name, some (String.ofList l.integerText)) ∈ r.submission.fields ↔
        (Number.int l.integer).Fits := by
    rw [Request.mem_fields_iff named]
    rcases Request.fieldText?_of_literal? read sent whole nonzero with
      ⟨fits, text⟩ | ⟨beyond, marks⟩
    · exact iff_of_true text.symm fits
    · refine iff_of_false (fun same => ?_) beyond
      have marked := marks _ same.symm
      obtain ⟨point, power⟩ := Literal.no_mark_mem_integerText digits
      rw [String.toList_ofList] at marked
      exact marked.elim point power
  refine ⟨?_, kept_iff, fun c complete => ?_, fun large => ?_⟩
  · rw [split whole] at suffix
    exact (List.prefix_append _ _).isInfix.trans suffix.isInfix
  · have read : ¬ r.Unreadable := fun unreadable => by
      rw [Request.complete?_eq_none_iff.2 (.unreadable unreadable)] at complete
      cases complete
    have fields := CredentialRequest.fields_of_complete complete
    have given (text : String) : (name, text) ∈ c.fields ↔
        (name, some text) ∈ r.submission.fields := by
      simp [fields]
    refine ⟨(given _).trans (kept_iff read), fun beyond => ?_⟩
    obtain ⟨⟨_, text⟩, member, rfl⟩ : ∃ field ∈ c.fields, field.1 = name :=
      List.mem_map.1 (c.fields_names ▸ named)
    have here := (Request.mem_fields_iff named).1 ((given text).1 member)
    refine ⟨text, member, ?_⟩
    rcases Request.fieldText?_of_literal? read sent whole nonzero with ⟨fits, -⟩ | ⟨-, marks⟩
    · exact absurd fits beyond
    · exact marks text here.symm
  · by_contra read
    obtain ⟨n, value, -⟩ := Request.field?_of_literal? read sent
    cases large.symm.trans value

end Sent

/-- The largest number of 64 bits as a password, and the next one as a user name. -/
theorem whole_number_kept_iff_largest :
    let json : Header := ⟨"content-type", Text.encode "application/json", by decide, by decide⟩
    let body : Bytes := Text.encode ("\x7b\"namespace\":\"a\",\"name\":\"b\"," ++
      "\"registry\":\"r\",\"username\":18446744073709551616," ++
      "\"password\":18446744073709551615,\"email\":-1\x7d")
    let r : Request := ⟨"POST", "/api/secrets/create", [json], body⟩
    ("password", some "18446744073709551615") ∈ r.submission.fields ∧
      ("username", some "18446744073709551616") ∉ r.submission.fields := by
  intro json body r
  have read : ¬ r.Unreadable := by decide +kernel
  have password : r.literal? "password" =
      some ⟨false, "18446744073709551615".toList, none, none⟩ := by decide +kernel
  have username : r.literal? "username" =
      some ⟨false, "18446744073709551616".toList, none, none⟩ := by decide +kernel
  have kept := whole_number_kept_iff (by decide) password rfl (by decide +kernel)
  have changed := whole_number_kept_iff (by decide) username rfl (by decide +kernel)
  constructor
  · exact (kept.2.1 read).2 ⟨by decide +kernel, by decide +kernel⟩
  · intro same
    have fits := (changed.2.1 read).1 same
    exact absurd fits.2 (by decide +kernel)

/-- A password of twenty digits that is stored with others. -/
theorem whole_number_rounded :
    let json : Header := ⟨"content-type", Text.encode "application/json", by decide, by decide⟩
    let body : Bytes := Text.encode ("\x7b\"namespace\":\"a\",\"name\":\"b\"," ++
      "\"registry\":\"r\",\"username\":\"u\",\"password\":18446744073709551616," ++
      "\"email\":\"e\"\x7d")
    let r : Request := ⟨"POST", "/api/secrets/create", [json], body⟩
    r.submission.complete? = some ⟨"a", "b", "r", "u", "1.8446744073709552e+19", "e"⟩ := by
  decide +kernel

end PullSecrets
