import PullSecrets.Proofs.StoredCredential

/-! # Incomplete credentials

A credential is incomplete when one of its six fields is missing, and a field is missing when its
member is absent or has a value that does not count. Then the request is refused before anybody is
asked, and never otherwise; of the body nothing but the last members with the six names matters
(`incomplete_refused`).
-/

namespace PullSecrets

namespace Json

/-- The values with which a field is missing. -/
inductive Falsy : Json → Prop where
  | null : Falsy .null
  | no : Falsy (.bool false)
  | empty : Falsy (.string "")
  | zero {n : Number} (zero : n.isZero = true) : Falsy (.number n)

instance (j : Json) : Decidable j.Falsy :=
  match j with
  | .null => isTrue .null
  | .bool false => isTrue .no
  | .bool true => isFalse nofun
  | .number _ => decidable_of_iff _ ⟨.zero, fun | .zero zero => zero⟩
  | .string s => decidable_of_iff (s = "") ⟨fun same => same ▸ .empty, fun | .empty => rfl⟩
  | .array _ => isFalse nofun
  | .object _ => isFalse nofun

theorem truthy_iff_not_falsy {j : Json} : j.Truthy ↔ ¬ j.Falsy := by
  cases j with
  | null => exact iff_of_false id fun counts => counts .null
  | bool b =>
      cases b with
      | false => exact iff_of_false id fun counts => counts .no
      | true => exact iff_of_true trivial nofun
  | number n =>
      have counts : (number n).Truthy ↔ ¬ n.isZero = true := Bool.not_eq_true _ ▸ Iff.rfl
      exact counts.trans (not_congr ⟨.zero, fun | .zero zero => zero⟩)
  | string s =>
      constructor
      · rintro counts ⟨⟩
        exact counts rfl
      · rintro counts rfl
        exact counts .empty
  | array items | object members => exact iff_of_true trivial nofun

theorem truthy_of_fieldText? {j : Json} {text : String} (here : j.fieldText? = some text)
    (given : text ≠ "") : j.Truthy := by
  cases j with
  | null => cases here
  | bool b =>
      cases b with
      | false => cases here
      | true => trivial
  | number n =>
      cases zero : n.isZero with
      | false => exact zero
      | true => simp [fieldText?, zero] at here
  | string s =>
      cases here
      exact given
  | array items | object members => trivial

end Json

namespace Request

/-- A body that is not read as JSON. -/
inductive Unreadable (r : Request) : Prop where
  | unannounced (other : r.headers.announceJson = false)
  | long (beyond : bodyLimit < r.body.length)
  | malformed (fails : ∀ s rest, Source.readFirst? (Text.readable r.body) = some (s, rest) →
      Json.ofSource? Source.nestingLimit s = none)

theorem json?_eq_none_iff {r : Request} : r.json? = none ↔ r.Unreadable := by
  unfold json?
  constructor
  · intro unread
    split at unread
    · refine .malformed fun s rest first => ?_
      simpa only [first] using unread
    · next refused =>
        simp only [Bool.and_eq_true, decide_eq_true_eq, not_and_or, Bool.not_eq_true,
          Nat.not_le] at refused
        exact refused.elim .unannounced .long
  · rintro (other | beyond | fails)
    · simp only [other, Bool.false_and, Bool.false_eq_true, if_false]
    · simp only [Nat.not_le.2 beyond, decide_false, Bool.and_false, Bool.false_eq_true, if_false]
    · split
      · split
        · next s rest first => exact fails s rest first
        · rfl
      · rfl

instance (r : Request) : Decidable r.Unreadable := decidable_of_iff _ json?_eq_none_iff

/-- The members of the object that the body starts with, in the order in which they are written,
repeated ones included. -/
def members? (r : Request) : Option (List (String × Json)) :=
  if r.headers.announceJson && r.body.length ≤ bodyLimit then
    match Source.readFirst? (Text.readable r.body) with
    | some (.object members, _) => Json.membersOfSource? (Source.nestingLimit - 1) members
    | _ => none
  else none

/-- The value of the last member with a name. -/
def field? (r : Request) (name : String) : Option Json :=
  r.members?.bind fun members => (Json.object members).member? name

theorem field?_eq (r : Request) (name : String) :
    r.field? name = r.json?.bind fun body => body.member? name := by
  have room : Source.nestingLimit ≠ 0 := by decide
  unfold field? members? json?
  split
  · cases first : Source.readFirst? (Text.readable r.body) with
    | none => rfl
    | some read =>
        obtain ⟨s, rest⟩ := read
        cases s with
        | object written =>
            simp only [Json.ofSource?, if_neg room]
            cases Json.membersOfSource? (Source.nestingLimit - 1) written with
            | none => rfl
            | some members => exact (Json.member?_sortMembers members name).symm
        | null | bool b => rfl
        | number l =>
            simp only [Json.ofSource?]
            cases l.value? <;> rfl
        | string content => cases content <;> rfl
        | array items =>
            simp only [Json.ofSource?, if_neg room]
            cases Json.itemsOfSource? (Source.nestingLimit - 1) items <;> rfl
  · rfl

/-- The credential that a request submits is incomplete: nothing is read from the body, or no
object, or the object does not give all six fields. -/
inductive Incomplete (r : Request) : Prop where
  | unreadable (unreadable : r.Unreadable)
  | bare {body : Json} (read : r.json? = some body) (bare : ∀ members, body ≠ .object members)
  | missing {name : String} (named : name ∈ CredentialRequest.fieldNames)
      (missing : ∀ v, r.field? name = some v → v.Falsy)

variable {r : Request} {c : Credential}

theorem submission_eq (r : Request) : r.submission =
    { ns := (r.field? "namespace").bind Json.fieldText?
      name := (r.field? "name").bind Json.fieldText?
      registry := (r.field? "registry").bind Json.fieldText?
      username := (r.field? "username").bind Json.fieldText?
      password := (r.field? "password").bind Json.fieldText?
      email := (r.field? "email").bind Json.fieldText? } := by
  simp only [field?_eq, submission]
  cases r.json? <;> rfl

theorem given_of_complete (complete : r.submission.complete? = some c) :
    ∀ name ∈ CredentialRequest.fieldNames, ∃ v, r.field? name = some v ∧ v.Truthy := by
  have field {name text : String}
      (read : (r.field? name).bind Json.fieldText? = some text ∧ text ≠ "") :
      ∃ v, r.field? name = some v ∧ v.Truthy := by
    obtain ⟨v, found, here⟩ := Option.bind_eq_some_iff.1 read.1
    exact ⟨v, found, Json.truthy_of_fieldText? here read.2⟩
  rw [submission_eq] at complete
  obtain ⟨ns, name, registry, username, password, email⟩ :=
    CredentialRequest.complete?_eq_some_iff.1 complete
  simp only [CredentialRequest.fieldNames, List.forall_mem_cons]
  exact ⟨field ns, field name, field registry, field username, field password, field email,
    List.forall_mem_nil _⟩

theorem complete_of_given
    (given : ∀ name ∈ CredentialRequest.fieldNames, ∃ v, r.field? name = some v ∧ v.Truthy) :
    ∃ c, r.submission.complete? = some c := by
  simp only [field?_eq, Option.bind_eq_some_iff] at given
  obtain ⟨_, ⟨body, read, -⟩, -⟩ := given "namespace" (.head _)
  simp only [read, Option.some.injEq, exists_eq_left'] at given
  obtain ⟨c, complete, -⟩ := PullSecrets.complete_of_given (wellRead_of_json? read) given
  exact ⟨c, by rwa [submission, read]⟩

/-- The service misses a field exactly when the request is incomplete. -/
theorem complete?_eq_none_iff : r.submission.complete? = none ↔ r.Incomplete := by
  constructor
  · intro incomplete
    by_contra given
    obtain ⟨c, complete⟩ : ∃ c, r.submission.complete? = some c := by
      refine complete_of_given fun name named => ?_
      have counts := mt (Incomplete.missing named) given
      simp only [not_forall] at counts
      obtain ⟨v, found, counts⟩ := counts
      exact ⟨v, found, Json.truthy_iff_not_falsy.2 counts⟩
    cases incomplete.symm.trans complete
  · intro incomplete
    cases complete : r.submission.complete? with
    | none => rfl
    | some c =>
        have given := given_of_complete complete
        simp only [field?_eq] at given
        cases incomplete with
        | unreadable unreadable =>
            obtain ⟨v, found, -⟩ := given "namespace" (.head _)
            rw [json?_eq_none_iff.2 unreadable] at found
            cases found
        | @bare body read bare =>
            obtain ⟨v, found, -⟩ := given "namespace" (.head _)
            rw [read, Option.bind_some] at found
            cases body with
            | object members => exact absurd rfl (bare members)
            | null | bool | number | string | array => cases found
        | missing named missing =>
            obtain ⟨v, found, counts⟩ := given _ named
            exact absurd (missing v (field?_eq r _ ▸ found)) (Json.truthy_iff_not_falsy.1 counts)

instance (r : Request) : Decidable r.Incomplete := decidable_of_iff _ complete?_eq_none_iff

end Request

/-- No failure of a call says that fields are missing. -/
theorem Step.failure?_ne_incomplete (step : Step) : step.failure? ≠ some .incomplete := by
  cases step with
  | logged event => exact nofun
  | asked call answer =>
      cases call with
      | review user action =>
          match answer with
          | .ok true | .ok false | .error e => exact nofun
      | createSecret | listSecrets | deleteSecret | applyPodDefault | listPodDefaults
      | serverVersion => cases answer <;> exact nofun

section Answers

variable {σ : Type} {settings : AccessSettings} {headers : Headers} {clock : Clock}

theorem Attempt.result_ne_incomplete (a : Attempt) (answers : Answers σ) (s : σ) :
    ((a.program settings headers).run answers s).1 ≠ .error .incomplete := by
  have stops := attempt_stops settings headers answers s a
  unfold StopsAtFailure at stops
  cases made : reviews? settings headers a.actions with
  | none =>
      simp only [made] at stops
      rw [stops.2]
      exact nofun
  | some reviews =>
      simp only [made] at stops
      obtain ⟨names, stop, -⟩ := stops
      intro incomplete
      obtain ⟨step, -, fails⟩ := (stop.fails_iff _).1 incomplete
      exact step.failure?_ne_incomplete fails

theorem Server.tell_status (a : Attempt) {result : Except ServiceError String}
    (other : result ≠ .error .incomplete) :
    (Server.tell clock a result).status = 200 ∨ (Server.tell clock a result).status = 500 := by
  match result with
  | .ok report => exact .inl rfl
  | .error .incomplete => exact absurd rfl other
  | .error (.unauthorized e) | .error (.cluster e) => exact .inr rfl

/-- A request to create a secret. -/
def Request.creating (headers : Headers) (body : Bytes) : Request :=
  ⟨"POST", "/api/secrets/create", headers, body⟩

theorem Request.creating_route (headers : Headers) (body : Bytes) :
    (Request.creating headers body).route? = some .createSecret := by
  have path : Route.ofPath? "/api/secrets/create" = some .createSecret := by decide +kernel
  simp only [Request.route?, Request.creating, path]
  rfl

theorem Server.answer_creating (body : Bytes) :
    Server.answer settings clock (.creating headers body) =
      Server.createSecret settings clock (.creating headers body) :=
  Server.answer_of_writes (Request.creating_route headers body) (by decide)

theorem Server.answer_of_incomplete {body : Bytes}
    (incomplete : (Request.creating headers body).Incomplete) :
    (Server.answer settings clock (.creating headers body)).Yields
      ((Failure.badRequest "Missing required fields").response clock.now) := by
  rw [Server.answer_creating]
  refine (submitted_yields _).bind ?_
  rw [Registry.create_eq, Request.complete?_eq_none_iff.2 incomplete]
  exact rfl

theorem Server.status_of_complete {body : Bytes} (answers : Answers σ) (s : σ)
    (complete : ¬ (Request.creating headers body).Incomplete) :
    let response :=
      ((Server.answer settings clock (.creating headers body)).run answers s).1
    response.status = 200 ∨ response.status = 500 := by
  intro response
  rw [← Request.complete?_eq_none_iff, Option.eq_none_iff_forall_ne_some, not_forall_not] at complete
  obtain ⟨c, complete⟩ := complete
  have attempted := attempt_of_complete (Request.creating_route headers body) complete
  simp only [response, Server.answer_of_attempt attempted, Program.run_bind,
    (Server.conclude_yields _ _ _ _).result]
  exact Server.tell_status _ (Attempt.result_ne_incomplete _ answers s)

theorem Server.submitted_of_read {r : Request} (read : ¬ r.Unreadable) :
    submitted r = .done r.submission := by
  rw [← Request.json?_eq_none_iff] at read
  obtain ⟨body, json⟩ := Option.ne_none_iff_exists'.1 read
  simp only [submitted, Request.submission, json]

/-- Of bodies that are read, only the fields of a credential matter. -/
theorem Server.answer_congr {body body' : Bytes}
    (read : ¬ (Request.creating headers body).Unreadable)
    (read' : ¬ (Request.creating headers body').Unreadable)
    (same : ∀ name ∈ CredentialRequest.fieldNames,
      (Request.creating headers body').field? name = (Request.creating headers body).field? name) :
    Server.answer settings clock (.creating headers body') =
      Server.answer settings clock (.creating headers body) := by
  have submission : (Request.creating headers body').submission =
      (Request.creating headers body).submission := by
    simp only [CredentialRequest.fieldNames, List.forall_mem_cons] at same
    simp only [Request.submission_eq, same]
  rw [answer_creating, answer_creating, createSecret, createSecret, submitted_of_read read,
    submitted_of_read read', submission]
  rfl

end Answers

/-- Whoever asks, answers and decides: to create a secret is answered with status 400 exactly when
the credential is incomplete, in one way and without a call, and with 200 or 500 otherwise. Among
bodies that are read, those that agree in the last members with the six names are all answered by
the same program. -/
theorem incomplete_refused {σ : Type} (settings : AccessSettings) (clock : Clock)
    (headers : Headers) (body : Bytes) (answers : Answers σ) (s : σ) :
    let r := Request.creating headers body
    let run := (Server.answer settings clock r).run answers s
    (run.1.status = 400 ↔ r.Incomplete) ∧
      (r.Incomplete →
        run.1 = (Failure.badRequest "Missing required fields").response clock.now ∧
          calls run.2.1 = [] ∧ run.2.2 = s) ∧
      (¬ r.Incomplete → run.1.status = 200 ∨ run.1.status = 500) ∧
      (∀ body', let r' := Request.creating headers body'
        ¬ r.Unreadable → ¬ r'.Unreadable →
        (∀ name ∈ CredentialRequest.fieldNames, r'.field? name = r.field? name) →
        (Server.answer settings clock r').run answers s = run) ∧
      ∀ text ∈ ["-0", "0.0", "1e-400"], ∃ v ∈ Json.read? text, v.Falsy := by
  intro r run
  have refused (incomplete : r.Incomplete) :
      run.1 = (Failure.badRequest "Missing required fields").response clock.now ∧
        calls run.2.1 = [] ∧ run.2.2 = s := by
    have yields : (Server.answer settings clock r).Yields _ :=
      Server.answer_of_incomplete incomplete
    obtain ⟨events, whole⟩ := yields.run answers s
    refine ⟨yields.result answers s, yields.calls answers s, ?_⟩
    simp only [run, whole]
  have served (complete : ¬ r.Incomplete) : run.1.status = 200 ∨ run.1.status = 500 :=
    Server.status_of_complete answers s complete
  refine ⟨⟨fun status => ?_, fun incomplete => ?_⟩, refused, served, ?_, by decide +kernel⟩
  · by_contra complete
    rcases served complete with other | other
    · exact absurd (other.symm.trans status) (by decide)
    · exact absurd (other.symm.trans status) (by decide)
  · rw [(refused incomplete).1]
    rfl
  · intro body' r' read read' same
    simp only [run, r, r', Server.answer_congr read read' same]

/-- Somebody without a name sends three bodies: one with a literal too small to be anything but
zero, one that is complete, and the same with its members turned round, one of them twice. -/
theorem incomplete_refused_nameless :
    let json : Header := ⟨"content-type", Text.encode "application/json", by decide, by decide⟩
    let object (members : List String) : Bytes :=
      Text.encode ("\x7b" ++ ",".intercalate members ++ "\x7d")
    let members (username : String) : List String :=
      ["\"namespace\":\"a\"", "\"name\":\"b\"", "\"registry\":\"r\"",
        "\"username\":" ++ username, "\"password\":\"p\"", "\"email\":[0]"]
    let twisted := "\"name\":null" :: "\"more\":1" :: (members "7").reverse
    let answer (body : Bytes) :=
      (Server.answer {} ⟨⟨0, 0⟩, 0⟩ (.creating [json] body)).run MemoryCluster.answers {}
    (answer (object (members "1e-400"))).1 =
        (Failure.badRequest "Missing required fields").response ⟨0, 0⟩ ∧
      calls (answer (object (members "1e-400"))).2.1 = [] ∧
      ((answer (object (members "7"))).1.status = 200 ∨
        (answer (object (members "7"))).1.status = 500) ∧
      answer (object twisted) = answer (object (members "7")) := by
  intro json object members twisted answer
  have tiny : (Request.creating [json] (object (members "1e-400"))).Incomplete := by
    decide +kernel
  have whole : ¬ (Request.creating [json] (object (members "7"))).Incomplete := by decide +kernel
  have read : ¬ (Request.creating [json] (object (members "7"))).Unreadable :=
    mt .unreadable whole
  have read' : ¬ (Request.creating [json] (object twisted)).Unreadable := by decide +kernel
  have same : ∀ name ∈ CredentialRequest.fieldNames,
      (Request.creating [json] (object twisted)).field? name =
        (Request.creating [json] (object (members "7"))).field? name := by decide +kernel
  obtain ⟨-, refused, -⟩ := incomplete_refused {} ⟨⟨0, 0⟩, 0⟩ [json] (object (members "1e-400"))
    MemoryCluster.answers {}
  obtain ⟨-, -, served, alike, -⟩ := incomplete_refused {} ⟨⟨0, 0⟩, 0⟩ [json]
    (object (members "7")) MemoryCluster.answers {}
  exact ⟨(refused tiny).1, (refused tiny).2.1, served whole, alike _ read read' same⟩

end PullSecrets
