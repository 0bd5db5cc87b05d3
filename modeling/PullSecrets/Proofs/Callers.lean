import Mathlib.Data.List.Forall2
import Mathlib.Logic.Relation
import PullSecrets.Proofs.ByteOrder
import PullSecrets.Proofs.FailStop
import PullSecrets.Proofs.Session
import PullSecrets.Proofs.Stages

/-! # Who a request comes from

The user of a request is what the first header with the configured name says, without the prefix.
What a caller adds to the headers after that one, or under other names, does not change the user
(`userOf?_edits`), and no review is ever about anybody else (`reviews_on_behalf`).
-/

namespace PullSecrets

namespace Header

/-- The value of the header is a text of visible characters, blanks and tabs. -/
def Shows (h : Header) (value : String) : Prop :=
  h.value = Text.encode value ∧
    ∀ c ∈ value.toList, c = '\t' ∨ 32 ≤ c.toNat ∧ c.toNat ≤ 126

/-- The header has a name, in whatever case it is written. -/
def IsNamed (h : Header) (name : String) : Prop := Text.lowerAscii h.name = Text.lowerAscii name

instance (h : Header) (name : String) : Decidable (h.IsNamed name) :=
  inferInstanceAs (Decidable (_ = _))

theorem isTextByte_iff {b : UInt8} :
    isTextByte b = true ↔ b.toNat = 9 ∨ 32 ≤ b.toNat ∧ b.toNat ≤ 126 := by
  simp [isTextByte, UInt8.le_iff_toNat_le, UInt8.lt_iff_toNat_lt, ← UInt8.toNat_inj]
  omega

theorem encodeChar_ascii {c : Char} (ascii : c.toNat < 128) :
    String.utf8EncodeChar c = [UInt8.ofNat c.toNat] := by
  have low : c.val.toNat ≤ 127 := Nat.le_of_lt_succ ascii
  simp only [String.utf8EncodeChar, low, if_true]
  rfl

theorem encode_ascii {s : String} (ascii : ∀ c ∈ s.toList, c.toNat < 128) :
    Text.encode s = s.toList.map fun c => UInt8.ofNat c.toNat := by
  rw [Text.encode_eq_flatMap]
  generalize s.toList = cs at ascii
  induction cs with
  | nil => rfl
  | cons c cs ih =>
      have first := encodeChar_ascii (ascii c (.head _))
      have rest := ih fun d later => ascii d (.tail _ later)
      simp only [List.flatMap_cons, List.map_cons, first, rest, List.singleton_append]

theorem toNat_ofNat_ascii {n : Nat} (ascii : n < 128) : (Char.ofNat n).toNat = n := by
  have valid : n.isValidChar := .inl (Nat.lt_trans ascii (by decide))
  rw [Char.ofNat, dif_pos valid]
  rfl

theorem ascii_of_shown {s : String}
    (shown : ∀ c ∈ s.toList, c = '\t' ∨ 32 ≤ c.toNat ∧ c.toNat ≤ 126) :
    ∀ c ∈ s.toList, c.toNat < 128 := by
  intro c member
  rcases shown c member with rfl | ⟨-, visible⟩
  · decide
  · omega

theorem shows_of_text? {h : Header} {value : String} (read : h.text? = some value) :
    h.Shows value := by
  unfold text? at read
  split at read
  · next all =>
      rw [List.all_eq_true] at all
      have text (b : UInt8) (member : b ∈ h.value) := isTextByte_iff.1 (all b member)
      have back (b : UInt8) (member : b ∈ h.value) : (Char.ofNat b.toNat).toNat = b.toNat := by
        have := text b member
        exact toNat_ofNat_ascii (by omega)
      obtain rfl := Option.some.inj read
      have shown : ∀ c ∈ (String.ofList (h.value.map fun b => Char.ofNat b.toNat)).toList,
          c = '\t' ∨ 32 ≤ c.toNat ∧ c.toNat ≤ 126 := by
        intro c member
        rw [String.toList_ofList] at member
        obtain ⟨b, inside, rfl⟩ := List.mem_map.1 member
        rw [back b inside]
        rcases text b inside with tab | visible
        · left
          rw [tab]
        · exact .inr visible
      have same : ∀ b ∈ h.value, UInt8.ofNat (Char.ofNat b.toNat).toNat = b := by
        intro b inside
        rw [back b inside, UInt8.ofNat_toNat]
      apply And.intro _ shown
      rw [encode_ascii (ascii_of_shown shown), String.toList_ofList, List.map_map]
      exact ((List.map_congr_left same).trans (List.map_id' _)).symm
  · cases read

theorem text?_of_shows {h : Header} {value : String} (shows : h.Shows value) :
    h.text? = some value := by
  obtain ⟨encoded, shown⟩ := shows
  have ascii := ascii_of_shown shown
  rw [encode_ascii ascii] at encoded
  have byte (c : Char) (member : c ∈ value.toList) : (UInt8.ofNat c.toNat).toNat = c.toNat := by
    have := ascii c member
    rw [UInt8.toNat_ofNat']
    omega
  have all : h.value.all isTextByte = true := by
    rw [List.all_eq_true, encoded]
    intro b member
    obtain ⟨c, inside, rfl⟩ := List.mem_map.1 member
    rw [isTextByte_iff, byte c inside]
    rcases shown c inside with rfl | visible
    · exact .inl rfl
    · exact .inr visible
  have same : ∀ c ∈ value.toList, Char.ofNat (UInt8.ofNat c.toNat).toNat = c := by
    intro c inside
    rw [byte c inside, Char.ofNat_toNat]
  have back : h.value.map (fun b => Char.ofNat b.toNat) = value.toList := by
    rw [encoded, List.map_map]
    exact (List.map_congr_left same).trans (List.map_id' _)
  rw [text?, if_pos all, back, String.ofList_toList]

/-- A value is read as the text that it is the encoding of. -/
theorem text?_eq_some_iff {h : Header} {value : String} :
    h.text? = some value ↔ h.Shows value :=
  ⟨shows_of_text?, text?_of_shows⟩

theorem Shows.unique {h : Header} {value other : String} (shows : h.Shows value)
    (shows' : h.Shows other) : value = other :=
  Option.some.inj ((text?_of_shows shows).symm.trans (text?_of_shows shows'))

theorem isTokenChar_capital :
    ∀ n < 26, isTokenChar (Char.ofNat (65 + n)) = true ∧
      isTokenChar (Char.ofNat (65 + n)).toLower = true := by
  decide

theorem isTokenChar_toLower (c : Char) : isTokenChar c.toLower = isTokenChar c := by
  by_cases capital : 65 ≤ c.toNat ∧ c.toNat ≤ 90
  · have letter := isTokenChar_capital (c.toNat - 65) (by omega)
    rw [Nat.add_sub_cancel' capital.1, Char.ofNat_toNat] at letter
    rw [letter.1, letter.2]
  · have small : c.toLower = c := dif_neg capital
    rw [small]

theorem isName_lowerAscii (s : String) : isName (Text.lowerAscii s) = isName s := by
  have length : (Text.lowerAscii s).length = s.length := by
    rw [← String.length_toList, ← String.length_toList, Text.lowerAscii, String.toList_ofList,
      List.length_map]
  have chars : isToken (Text.lowerAscii s) = isToken s := by
    simp [isToken, Text.lowerAscii, Function.comp_def, isTokenChar_toLower]
  rw [isName, isName, chars, length]

/-- Only a legal name is the name of a header. -/
theorem IsNamed.isName {h : Header} {name : String} (named : h.IsNamed name) :
    Header.isName name = true := by
  rw [← isName_lowerAscii, ← named, isName_lowerAscii, h.name_isName]

end Header

namespace Identity

variable {lead value user : String}

/-- The user that a value names: what comes after the prefix, or all of it if it starts with
another text. -/
def Names (lead value user : String) : Prop :=
  user ≠ "" ∧ (value = lead ++ user ∨ (∀ rest, value ≠ lead ++ rest) ∧ user = value)

theorem afterPrefix?_eq_some_iff {lead cs rest : List Char} :
    afterPrefix? lead cs = some rest ↔ cs = lead ++ rest := by
  induction lead generalizing cs with
  | nil => simp [afterPrefix?]
  | cons p lead ih =>
      cases cs with
      | nil => simp [afterPrefix?]
      | cons c cs =>
          by_cases same : p = c
          · simp [afterPrefix?, same, ih]
          · simp [afterPrefix?, same, Ne.symm same]

theorem withoutPrefix_append (lead rest : String) : withoutPrefix lead (lead ++ rest) = rest := by
  have found : afterPrefix? lead.toList (lead ++ rest).toList = some rest.toList := by
    rw [afterPrefix?_eq_some_iff, String.toList_append]
  simp only [withoutPrefix, found, String.ofList_toList]

theorem withoutPrefix_of_ne (other : ∀ rest, value ≠ lead ++ rest) :
    withoutPrefix lead value = value := by
  unfold withoutPrefix
  split
  · next rest found =>
      rw [afterPrefix?_eq_some_iff] at found
      have split : value = lead ++ String.ofList rest := by
        rw [← String.toList_inj, found, String.toList_append, String.toList_ofList]
      exact absurd split (other _)
  · rfl

/-- The prefix is taken off once, and only at the start. -/
theorem names_iff : Names lead value user ↔ user ≠ "" ∧ user = withoutPrefix lead value := by
  unfold Names
  refine and_congr_right fun _ => ?_
  by_cases starts : ∃ rest, value = lead ++ rest
  · obtain ⟨rest, rfl⟩ := starts
    rw [withoutPrefix_append]
    constructor
    · rintro (same | ⟨other, -⟩)
      · rw [← withoutPrefix_append lead rest, same, withoutPrefix_append]
      · exact absurd rfl (other rest)
    · rintro rfl
      exact .inl rfl
  · rw [not_exists] at starts
    rw [withoutPrefix_of_ne starts]
    constructor
    · rintro (same | ⟨-, same⟩)
      · exact absurd same (starts user)
      · exact same
    · intro same
      exact .inr ⟨starts, same⟩

theorem not_names_lead : ¬ Names lead lead user := by
  have nothing : withoutPrefix lead lead = "" := by
    simpa using withoutPrefix_append lead ""
  rw [names_iff, nothing]
  rintro ⟨given, rfl⟩
  exact given rfl

theorem not_names_empty : ¬ Names lead "" user := by
  rintro ⟨given, split | ⟨-, rfl⟩⟩
  · have parts := congrArg String.toList split
    rw [String.toList_append] at parts
    exact given (String.toList_eq_nil_iff.1 (List.append_eq_nil_iff.1 parts.symm).2)
  · exact given rfl

theorem user?_ofHeader_iff {h : Header} :
    (ofHeader lead h).user? = some user ↔ ∃ value, h.Shows value ∧ Names lead value user := by
  simp only [← Header.text?_eq_some_iff, names_iff, ofHeader]
  cases h.text? with
  | none => simp [user?]
  | some value =>
      by_cases empty : withoutPrefix lead value = ""
      · simp [empty, user?]
      · simp only [empty, if_false, user?, Option.some.injEq, exists_eq_left']
        constructor
        · rintro rfl
          exact ⟨empty, rfl⟩
        · rintro ⟨-, rfl⟩
          rfl

end Identity

namespace Headers

variable {headers headers' : Headers} {name name' : String} {h : Header}

theorem first?_eq_find? (headers : Headers) (name : String) :
    headers.first? name = headers.find? fun h => decide (h.IsNamed name) := rfl

theorem first?_eq_some_iff : headers.first? name = some h ↔
    ∃ before after, headers = before ++ h :: after ∧
      (∀ other ∈ before, ¬ other.IsNamed name) ∧ h.IsNamed name := by
  rw [first?_eq_find?, List.find?_eq_some_iff_append]
  simp only [decide_eq_true_eq, Bool.not_eq_true', decide_eq_false_iff_not]
  constructor
  · rintro ⟨named, before, after, rfl, others⟩
    exact ⟨before, after, rfl, others, named⟩
  · rintro ⟨before, after, rfl, others, named⟩
    exact ⟨named, before, after, rfl, others⟩

theorem first?_congr (same : Text.lowerAscii name' = Text.lowerAscii name) :
    headers.first? name' = headers.first? name := by
  simp only [first?, Text.eqIgnoringCase, same]

/-- What somebody may do to a list of headers without a say in the first one with a name: write
names in another case, add, remove and move headers with other names, and repeat the name later
on. -/
inductive Edit (name : String) : Headers → Headers → Prop where
  | recased {a b : Headers} (same : List.Forall₂
      (fun x y => Text.lowerAscii x.name = Text.lowerAscii y.name ∧ x.value = y.value) a b) :
      Edit name a b
  | inserted (before after : Headers) {other : Header} (elsewhere : ¬ other.IsNamed name) :
      Edit name (before ++ after) (before ++ other :: after)
  | removed (before after : Headers) {other : Header} (elsewhere : ¬ other.IsNamed name) :
      Edit name (before ++ other :: after) (before ++ after)
  | swapped (before after : Headers) {x y : Header}
      (elsewhere : ¬ x.IsNamed name ∨ ¬ y.IsNamed name) :
      Edit name (before ++ x :: y :: after) (before ++ y :: x :: after)
  | repeated (before between after : Headers) {first again : Header}
      (here : first.IsNamed name) (there : again.IsNamed name) :
      Edit name (before ++ first :: between ++ after)
        (before ++ first :: between ++ again :: after)

/-- An edit may change how the first header with the name is written, but not its value. -/
theorem Edit.value (edit : Edit name headers headers') :
    (headers'.first? name).map Header.value = (headers.first? name).map Header.value := by
  simp only [first?_eq_find?]
  cases edit with
  | recased same =>
      induction same with
      | nil => rfl
      | @cons x y a b both rest ih =>
          have alike : y.IsNamed name ↔ x.IsNamed name := by
            simp only [Header.IsNamed, both.1]
          by_cases named : x.IsNamed name
          · simp [named, alike, both.2]
          · simp [named, alike, ih]
  | inserted before after elsewhere | removed before after elsewhere =>
      simp [elsewhere]
  | @swapped before after x y elsewhere =>
      rcases elsewhere with elsewhere | elsewhere
      · by_cases named : y.IsNamed name <;> simp [elsewhere, named]
      · by_cases named : x.IsNamed name <;> simp [elsewhere, named]
  | repeated before between after here there =>
      simp [here]

end Headers

section Users

variable {settings settings' : AccessSettings} {headers headers' : Headers} {user : String}

theorem userOf?_eq_bind (settings : AccessSettings) (headers : Headers) :
    userOf? settings headers = (headers.first? settings.userHeader).bind fun h =>
      (Identity.ofHeader settings.userPrefix h).user? := by
  unfold userOf? Identity.ofHeaders
  cases headers.first? settings.userHeader <;> rfl

theorem userOf?_eq_some_iff : userOf? settings headers = some user ↔
    ∃ before h after value, headers = before ++ h :: after ∧
      (∀ other ∈ before, ¬ other.IsNamed settings.userHeader) ∧ h.IsNamed settings.userHeader ∧
      h.Shows value ∧ Identity.Names settings.userPrefix value user := by
  simp only [userOf?_eq_bind, Option.bind_eq_some_iff, Headers.first?_eq_some_iff,
    Identity.user?_ofHeader_iff]
  constructor
  · rintro ⟨h, ⟨before, after, split, others, named⟩, value, shows, names⟩
    exact ⟨before, h, after, value, split, others, named, shows, names⟩
  · rintro ⟨before, h, after, value, split, others, named, shows, names⟩
    exact ⟨h, ⟨before, after, split, others, named⟩, value, shows, names⟩

/-- The first header with the name decides, also when it is no use. -/
theorem userOf?_eq_none {h : Header} (first : headers.first? settings.userHeader = some h)
    (useless : (∀ value, ¬ h.Shows value) ∨ h.Shows settings.userPrefix ∨ h.Shows "") :
    userOf? settings headers = none := by
  rw [userOf?_eq_bind, first, Option.bind_some, Option.eq_none_iff_forall_ne_some]
  intro user known
  obtain ⟨value, shows, names⟩ := Identity.user?_ofHeader_iff.1 known
  rcases useless with unreadable | bare | empty
  · exact unreadable value shows
  · cases shows.unique bare
    exact Identity.not_names_lead names
  · cases shows.unique empty
    exact Identity.not_names_empty names

theorem userOf?_congr (lead : settings'.userPrefix = settings.userPrefix)
    (value : (headers'.first? settings'.userHeader).map Header.value =
      (headers.first? settings.userHeader).map Header.value) :
    userOf? settings' headers' = userOf? settings headers := by
  rw [userOf?_eq_bind, userOf?_eq_bind]
  cases first : headers.first? settings.userHeader with
  | none =>
      rw [first] at value
      simp [Option.map_eq_none_iff.1 value]
  | some h =>
      rw [first] at value
      obtain ⟨h', first', same⟩ := Option.map_eq_some_iff.1 value
      simp [first', Identity.ofHeader, Header.text?, same, lead]

/-- No edits change the user, nor does the case in which the configured name is written. -/
theorem userOf?_edits (name : Text.lowerAscii settings'.userHeader =
      Text.lowerAscii settings.userHeader)
    (lead : settings'.userPrefix = settings.userPrefix)
    (edits : Relation.ReflTransGen (Headers.Edit settings.userHeader) headers headers') :
    userOf? settings' headers' = userOf? settings headers := by
  apply userOf?_congr lead
  rw [Headers.first?_congr name]
  induction edits with
  | refl => rfl
  | tail _ edit ih => rw [edit.value, ih]

end Users

/-- Reviews are about a user and nobody else. -/
def OnBehalf (user : Option String) : Rule := fun _ call =>
  match call with
  | .review name _ => user = some name
  | _ => True

theorem onBehalf_suits (settings : AccessSettings) (headers : Headers) :
    (OnBehalf (userOf? settings headers)).Suits settings headers := by
  constructor
  case reviews =>
    intro history name action known
    exact known
  all_goals
    intros
    trivial

theorem reviews_on_behalf {σ : Type} (settings : AccessSettings) (operation : Operation)
    (answers : Answers σ) (s : σ) {user : String} {action : Action}
    (asked : .review user action ∈ calls ((operation.program settings).run answers s).2.1) :
    operation.headers?.bind (userOf? settings) = some user := by
  have keeps : (operation.program settings).Keeps
      (OnBehalf (operation.headers?.bind (userOf? settings))) [] := by
    apply operation.program_keeps
    · intro headers known
      rw [Option.mem_def.1 known, Option.bind_some]
      exact onBehalf_suits settings headers
    · intro ns
      exact reconcile_keeps trivial fun names => trivial
  obtain ⟨before, known⟩ := (keeps.run answers s).1.of_mem_calls asked
  exact known

/-- A request has a user exactly when the configured name is legal and the first header with that
name has a readable value that is more than the prefix, which is taken off once and only at the
start. The user stays the same whatever is edited without a say in that header, is nobody when
that header is no use, and is the one whom all reviews of an operation are about. -/
theorem identity_of_first_header (settings : AccessSettings) (headers : Headers) :
    (∀ user, userOf? settings headers = some user ↔
      Header.isName settings.userHeader = true ∧
        ∃ before h after value, headers = before ++ h :: after ∧
          (∀ other ∈ before, ¬ other.IsNamed settings.userHeader) ∧
          h.IsNamed settings.userHeader ∧ h.Shows value ∧
          Identity.Names settings.userPrefix value user) ∧
      (∀ (settings' : AccessSettings) (headers' : Headers),
        Text.lowerAscii settings'.userHeader = Text.lowerAscii settings.userHeader →
        settings'.userPrefix = settings.userPrefix →
        Relation.ReflTransGen (Headers.Edit settings.userHeader) headers headers' →
        userOf? settings' headers' = userOf? settings headers) ∧
      (∀ before h after, headers = before ++ h :: after →
        (∀ other ∈ before, ¬ other.IsNamed settings.userHeader) →
        h.IsNamed settings.userHeader →
        (∀ value, ¬ h.Shows value) ∨ h.Shows settings.userPrefix ∨ h.Shows "" →
        userOf? settings headers = none) ∧
      ∀ (operation : Operation), operation.headers? = some headers →
        ∀ {σ : Type} (answers : Answers σ) (s : σ) (user : String) (action : Action),
          .review user action ∈ calls ((operation.program settings).run answers s).2.1 →
          userOf? settings headers = some user := by
  refine ⟨?_, ?_, ?_, ?_⟩
  · intro user
    rw [userOf?_eq_some_iff, iff_and_self]
    rintro ⟨before, h, after, value, split, others, named, -⟩
    exact named.isName
  · intro settings' headers' name lead edits
    exact userOf?_edits name lead edits
  · intro before h after split others named useless
    have first : headers.first? settings.userHeader = some h :=
      Headers.first?_eq_some_iff.2 ⟨before, after, split, others, named⟩
    exact userOf?_eq_none first useless
  · intro operation known σ answers s user action asked
    have found := reviews_on_behalf settings operation answers s asked
    rwa [known, Option.bind_some] at found

/-- A caller who sends a second header with the name, and the name in capitals, stays who they are;
one whose first header is the bare prefix is nobody, whatever comes after it. -/
theorem identity_of_first_header_repeated :
    let al : Header := ⟨"Kubeflow-UserID", Text.encode ":al", by decide, by decide⟩
    let bare : Header := ⟨"kubeflow-userid", Text.encode ":", by decide, by decide⟩
    let root : Header := ⟨"KUBEFLOW-USERID", Text.encode ":root", by decide, by decide⟩
    userOf? {} [al] = some "al" ∧ userOf? {} [al, root] = some "al" ∧
      userOf? {} [bare, root] = none := by
  intro al bare root
  have shown (h : Header) (value : String) (read : h.text? = some value) : h.Shows value :=
    Header.shows_of_text? read
  have known : userOf? {} [al] = some "al" := by
    rw [(identity_of_first_header {} [al]).1 "al"]
    refine ⟨by decide, [], al, [], ":al", rfl, nofun, by decide, shown _ _ (by decide), ?_⟩
    exact ⟨by decide, .inl (by decide)⟩
  have edit : Headers.Edit "kubeflow-userid" [al] [al, root] :=
    .repeated [] [] [] (by decide) (by decide)
  have same := (identity_of_first_header {} [al]).2.1 {} [al, root] rfl rfl (.single edit)
  refine ⟨known, same.trans known, ?_⟩
  apply (identity_of_first_header {} [bare, root]).2.2.1 [] bare [root] rfl nofun (by decide)
  exact .inr (.inl (shown _ _ (by decide)))

end PullSecrets
