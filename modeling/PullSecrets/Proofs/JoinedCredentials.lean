import PullSecrets.Proofs.Documents

/-! # Two copies of a credential

An entry of a Docker configuration holds user and password twice: as they are, and joined by a
colon. A kubelet takes the joined copy apart at its first colon and uses what it finds there. The
two copies agree exactly when there is no colon in the name of the user (`joined_copy_agrees_iff`);
a password may have as many as it likes.
-/

namespace PullSecrets

namespace Text

/-- The characters before and after the first colon. -/
def aroundColon? : List Char → Option (List Char × List Char)
  | [] => none
  | c :: cs => if c = ':' then some ([], cs) else (aroundColon? cs).map fun (a, b) => (c :: a, b)

/-- The texts before and after the first colon. -/
def splitColon? (s : String) : Option (String × String) :=
  (aroundColon? s.toList).map fun (a, b) => (String.ofList a, String.ofList b)

theorem aroundColon?_eq_some_iff {cs a b : List Char} :
    aroundColon? cs = some (a, b) ↔ ':' ∉ a ∧ cs = a ++ ':' :: b := by
  induction cs generalizing a with
  | nil => simp [aroundColon?]
  | cons c cs ih =>
      rw [aroundColon?]
      by_cases colon : c = ':'
      · subst colon
        cases a with
        | nil => simp
        | cons d a => simp +contextual [eq_comm]
      · rw [if_neg colon, Option.map_eq_some_iff]
        constructor
        · rintro ⟨⟨before, after⟩, found, same⟩
          obtain ⟨rfl, rfl⟩ := Prod.mk.inj same
          obtain ⟨absent, rfl⟩ := ih.1 found
          exact ⟨List.not_mem_cons_of_ne_of_not_mem (Ne.symm colon) absent, rfl⟩
        · rintro ⟨absent, same⟩
          cases a with
          | nil => exact absurd (List.cons.inj same).1 colon
          | cons d a =>
              obtain ⟨rfl, rfl⟩ := List.cons.inj same
              exact ⟨(a, b), ih.2 ⟨List.not_mem_of_not_mem_cons absent, rfl⟩, rfl⟩

theorem splitColon?_eq_some_iff {s a b : String} :
    splitColon? s = some (a, b) ↔ ':' ∉ a.toList ∧ s = a ++ ":" ++ b := by
  have whole : s = a ++ ":" ++ b ↔ s.toList = a.toList ++ ':' :: b.toList := by
    rw [← String.toList_inj, String.toList_append, String.toList_append, List.append_assoc]
    rfl
  rw [whole, ← aroundColon?_eq_some_iff, splitColon?, Option.map_eq_some_iff]
  constructor
  · rintro ⟨⟨before, after⟩, found, same⟩
    obtain ⟨rfl, rfl⟩ := Prod.mk.inj same
    simpa using found
  · intro found
    exact ⟨(a.toList, b.toList), found, by simp⟩

theorem splitColon?_append_iff {user password : String} :
    splitColon? (user ++ ":" ++ password) = some (user, password) ↔ ':' ∉ user.toList := by
  simp [splitColon?_eq_some_iff]

/-- A text with a colon in it has a first one. -/
theorem exists_splitColon?_append (user password : String) :
    ∃ a b, splitColon? (user ++ ":" ++ password) = some (a, b) := by
  have colon : ':' ∈ (user ++ ":" ++ password).toList := by simp
  obtain ⟨before, after, split, absent⟩ := List.eq_append_cons_of_mem colon
  refine ⟨String.ofList before, String.ofList after, ?_⟩
  rw [splitColon?, aroundColon?_eq_some_iff.2 ⟨absent, split⟩, Option.map_some]

end Text

namespace DockerAuth

/-- User and password as the joined copy tells them. -/
def joined? (a : DockerAuth) : Option (String × String) :=
  (Text.Base64.decode? a.auth.toList).bind fun bytes => (Text.decode? bytes).bind Text.splitColon?

theorem decode?_joined (username password : String) :
    Text.Base64.decode? (joined username password).toList =
      some (Text.encode (username ++ ":" ++ password)) := by
  rw [joined, String.toList_ofList, Text.Base64.decode?_encode]

theorem joined_inj {username password username' password' : String} :
    joined username password = joined username' password' ↔
      username ++ ":" ++ password = username' ++ ":" ++ password' := by
  constructor
  · intro same
    have bytes := congrArg (fun s : String => Text.Base64.decode? s.toList) same
    simp only [decode?_joined, Option.some.injEq] at bytes
    have texts := congrArg Text.decode? bytes
    rwa [Text.decode?_encode, Text.decode?_encode, Option.some.injEq] at texts
  · intro same
    rw [joined, joined, same]

end DockerAuth

namespace Credential

/-- What a Docker configuration holds for the registry of a credential. -/
def entry (c : Credential) : DockerAuth :=
  ⟨c.username, c.password, c.email, DockerAuth.joined c.username c.password⟩

theorem joined?_entry (c : Credential) :
    c.entry.joined? = Text.splitColon? (c.username ++ ":" ++ c.password) := by
  rw [DockerAuth.joined?, entry, DockerAuth.decode?_joined, Option.bind_some, Text.decode?_encode,
    Option.bind_some]

theorem auth_entry_inj {c c' : Credential} (plain : ':' ∉ c.username.toList)
    (plain' : ':' ∉ c'.username.toList) :
    c.entry.auth = c'.entry.auth ↔ c.username = c'.username ∧ c.password = c'.password := by
  rw [entry, entry, DockerAuth.joined_inj]
  constructor
  · intro same
    -- one text has one first colon
    have here := congrArg Text.splitColon? same
    rw [Text.splitColon?_append_iff.2 plain, Text.splitColon?_append_iff.2 plain',
      Option.some.injEq] at here
    exact Prod.mk.inj here
  · rintro ⟨user, password⟩
    rw [user, password]

end Credential

/-- A kubelet that reads the configuration stored for a credential finds one entry. The bytes of its
joined copy are those of user and password with a colon between them, and to split them at the first
colon gives user and password again exactly when there is no colon in the name of the user. Of two
credentials without one there, the joined copies are equal only if both user and password are. -/
theorem joined_copy_agrees_iff (c c' : Credential) :
    (DockerConfig.read? (DockerConfig.ofCredential c).text).map (·.auths.entries) =
        some [(c.registry, c.entry)] ∧
      (c.entry.username = c.username ∧ c.entry.password = c.password ∧
        Text.Base64.decode? c.entry.auth.toList =
          some (Text.encode (c.username ++ ":" ++ c.password))) ∧
      (∃ user password, c.entry.joined? = some (user, password) ∧ ':' ∉ user.toList ∧
        user ++ ":" ++ password = c.username ++ ":" ++ c.password) ∧
      (c.entry.joined? = some (c.entry.username, c.entry.password) ↔
        ':' ∉ c.entry.username.toList) ∧
      (':' ∉ c.username.toList → ':' ∉ c'.username.toList →
        (c.entry.auth = c'.entry.auth ↔ c.username = c'.username ∧ c.password = c'.password)) := by
  refine ⟨?_, ⟨rfl, rfl, DockerAuth.decode?_joined _ _⟩, ?_, ?_, Credential.auth_entry_inj⟩
  · rw [DockerConfig.read?_text]
    rfl
  · obtain ⟨user, password, found⟩ := Text.exists_splitColon?_append c.username c.password
    obtain ⟨absent, same⟩ := Text.splitColon?_eq_some_iff.1 found
    exact ⟨user, password, (Credential.joined?_entry c).trans found, absent, same.symm⟩
  · rw [Credential.joined?_entry]
    exact Text.splitColon?_append_iff

/-- Passwords that differ after a colon make different copies. A user with a colon in the name is
told as another one, who has the same copy. -/
theorem joined_copy_agrees_iff_colons :
    let short : Credential := ⟨"ns", "quay", "r.io", "al", "b", "e"⟩
    let long : Credential := ⟨"ns", "quay", "r.io", "al", "b:c:ü", "e"⟩
    let moved : Credential := ⟨"ns", "quay", "r.io", "al:b", "c:ü", "e"⟩
    (short.entry.auth ≠ long.entry.auth ∧ long.entry.joined? = some ("al", "b:c:ü")) ∧
      moved.entry.auth = long.entry.auth ∧ moved.entry.joined? ≠ some ("al:b", "c:ü") := by
  intro short long moved
  obtain ⟨-, -, -, told, apart⟩ := joined_copy_agrees_iff long short
  obtain ⟨-, -, -, lost, -⟩ := joined_copy_agrees_iff moved short
  refine ⟨⟨?_, told.2 (by decide)⟩, by decide, mt lost.1 (by decide)⟩
  intro same
  exact absurd ((apart (by decide) (by decide)).1 same.symm).2 (by decide)

end PullSecrets
