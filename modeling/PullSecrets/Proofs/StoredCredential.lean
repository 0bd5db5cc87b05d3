import PullSecrets.Cluster.ApiRequest
import PullSecrets.Proofs.Courses
import PullSecrets.Proofs.Documents
import PullSecrets.Proofs.FailStop
import PullSecrets.Proofs.Replies
import PullSecrets.Proofs.Stages

/-! # The credential that is stored

A credential goes from the body of a request into a submission, from there into a call, and from
the call into a secret. Each field is read from the member with its name (`complete_of_given`), a
caller who is let through gets the call that stores the credential (`StopsAtFailure.called`), and
what the secret keeps is proved in `Secret.keeps_ofCredential`.
-/

namespace PullSecrets

theorem Magnitude.render_ne_nil (x : Magnitude) : x.render ≠ [] := by
  unfold render
  split
  · exact List.cons_ne_nil _ _
  · simp only [Decimal.positional, Decimal.scientific]
    split
    · split
      · exact List.cons_ne_nil _ _
      · simp
    · simp

theorem Number.render_ne_nil (n : Number) : n.render ≠ [] := by
  cases n with
  | int n =>
      obtain ⟨c, cs, text, -⟩ := render_starts (n := .int n) trivial
      rw [text]
      exact List.cons_ne_nil _ _
  | float x =>
      simp only [render]
      split
      · exact List.cons_ne_nil _ _
      · exact x.magnitude.render_ne_nil

namespace Json

theorem text_ne_empty (j : Json) : j.text ≠ "" := by
  have written : j.render ≠ [] := by
    cases j with
    | null => exact List.cons_ne_nil _ _
    | bool b => cases b <;> exact List.cons_ne_nil _ _
    | number n => exact n.render_ne_nil
    | string s => exact List.cons_ne_nil _ _
    | array items => cases items <;> exact List.cons_ne_nil _ _
    | object members => cases members <;> exact List.cons_ne_nil _ _
  intro empty
  have same := congrArg String.toList empty
  rw [text, String.toList_ofList] at same
  exact written same

/-- The values that count; to set a field to another is to leave it out. -/
def Truthy : Json → Prop
  | .null | .bool false => False
  | .number n => n.isZero = false
  | .string s => s ≠ ""
  | .bool true | .array _ | .object _ => True

/-- What the text of a field is: the string itself, or a JSON text from which the value is read
back; a number that is no integer may be rounded. -/
def ReadAs (text : String) : Json → Prop
  | .string s => text = s
  | j => text = j.text ∧ (j.Integral → Json.read? text = some j)

theorem readAs_text {j : Json} (other : ∀ s, j ≠ .string s)
    (read : j.WellRead Source.nestingLimit) : j.ReadAs j.text := by
  have back := Json.read?_text read
  cases j with
  | string s => exact absurd rfl (other s)
  | null | bool | number | array | object => exact ⟨rfl, back⟩

theorem fieldText?_of_truthy {j : Json} (truthy : j.Truthy)
    (read : j.WellRead Source.nestingLimit) :
    ∃ text, j.fieldText? = some text ∧ text ≠ "" ∧ j.ReadAs text := by
  cases j with
  | null => exact truthy.elim
  | string s => exact ⟨s, rfl, truthy, rfl⟩
  | bool b =>
      cases b with
      | false => exact truthy.elim
      | true => exact ⟨_, rfl, text_ne_empty _, readAs_text nofun read⟩
  | number n =>
      have counts : n.isZero = false := truthy
      refine ⟨_, ?_, text_ne_empty _, readAs_text nofun read⟩
      simp only [fieldText?, counts, Bool.false_eq_true, if_false]
  | array items | object members => exact ⟨_, rfl, text_ne_empty _, readAs_text nofun read⟩

theorem WellRead.member {body j : Json} {name : String} {room : Nat} (read : body.WellRead room)
    (found : body.member? name = some j) : j.WellRead room := by
  cases body with
  | object members =>
      obtain ⟨m, first, rfl⟩ := Option.map_eq_some_iff.1 found
      have inside := List.mem_reverse.1 (List.mem_of_find?_eq_some first)
      exact WellRead.mono m.2 (Nat.sub_le _ _) (membersWellRead_iff.1 read.2.2 m inside)
  | null | bool | number | string | array => cases found

end Json

/-- The fields with their names in a request. -/
def Credential.fields (c : Credential) : List (String × String) :=
  [("namespace", c.ns), ("name", c.name), ("registry", c.registry), ("username", c.username),
    ("password", c.password), ("email", c.email)]

theorem complete_of_given {body : Json} (read : body.WellRead Source.nestingLimit)
    (given : ∀ name ∈ CredentialRequest.fieldNames,
      ∃ v, body.member? name = some v ∧ v.Truthy) :
    ∃ c, (CredentialRequest.ofJson body).complete? = some c ∧
      ∀ field ∈ c.fields, ∃ v, body.member? field.1 = some v ∧ v.ReadAs field.2 := by
  -- the six fields are read in the same way
  have field (name : String) (named : name ∈ CredentialRequest.fieldNames) :
      ∃ text, ((body.member? name).bind Json.fieldText? = some text ∧ text ≠ "") ∧
        ∃ v, body.member? name = some v ∧ v.ReadAs text := by
    obtain ⟨v, found, truthy⟩ := given name named
    obtain ⟨text, here, some, reads⟩ := Json.fieldText?_of_truthy truthy (read.member found)
    exact ⟨text, ⟨by rw [found, Option.bind_some, here], some⟩, v, found, reads⟩
  obtain ⟨ns, hns, ns_read⟩ := field "namespace" (by decide)
  obtain ⟨name, hname, name_read⟩ := field "name" (by decide)
  obtain ⟨registry, hregistry, registry_read⟩ := field "registry" (by decide)
  obtain ⟨username, husername, username_read⟩ := field "username" (by decide)
  obtain ⟨password, hpassword, password_read⟩ := field "password" (by decide)
  obtain ⟨email, hemail, email_read⟩ := field "email" (by decide)
  refine ⟨⟨ns, name, registry, username, password, email⟩, ?_, ?_⟩
  · exact CredentialRequest.complete?_eq_some_iff.2
      ⟨hns, hname, hregistry, husername, hpassword, hemail⟩
  · simp only [Credential.fields, List.forall_mem_cons]
    exact ⟨ns_read, name_read, registry_read, username_read, password_read, email_read, nofun⟩

theorem wellRead_of_json? {r : Request} {body : Json} (read : r.json? = some body) :
    body.WellRead Source.nestingLimit := by
  unfold Request.json? at read
  split at read
  · split at read
    · exact Json.wellRead_of_ofSource? _ read
    · cases read
  · cases read

section Called

variable {α σ : Type} {settings : AccessSettings} {headers : Headers} {steps more : List Step}
  {call : Call}

/-- Who makes no call twice gets no two answers to it. -/
theorem asked_unique {a b : call.Answer} (once : (calls steps).Nodup)
    (first : .asked call a ∈ steps) (second : .asked call b ∈ steps) : a = b := by
  induction steps with
  | nil => cases first
  | cons step steps ih =>
      have later : (calls steps).Nodup :=
        once.sublist ((List.sublist_cons_self step steps).filterMap _)
      have apart {answer other : call.Answer} (here : .asked call answer = step)
          (there : .asked call other ∈ steps) : False := by
        subst here
        exact (List.nodup_cons.1 once).1 (mem_calls there)
      rcases List.mem_cons.1 first with here | there
      · rcases List.mem_cons.1 second with here' | there
        · cases here.trans here'.symm
          rfl
        · exact (apart here there).elim
      · rcases List.mem_cons.1 second with here | there'
        · exact (apart here there).elim
        · exact ih later there there'

/-- Who goes through a list in order and does not meet a member has not come past it. -/
theorem prefix_of_not_mem {l before after : List α} {a : α} (short : l <+: before ++ a :: after)
    (absent : a ∉ l) : l <+: before := by
  rcases List.prefix_or_prefix_of_prefix short (List.prefix_append before _) with within | ⟨t, rfl⟩
  · exact within
  · have rest := (List.prefix_append_right_inj before).1 short
    cases t with
    | nil => simp only [List.append_nil, List.prefix_rfl]
    | cons first t =>
        obtain rfl : first = a := (List.cons_prefix_cons.1 rest).1
        exact absurd (by simp) absent

theorem mem_reviews {actions : List Action} {reviews : List Call}
    (made : reviews? settings headers actions = some reviews) (member : call ∈ reviews) :
    settings.disabled = false ∧ ∃ user, userOf? settings headers = some user ∧
      ∃ action ∈ actions, call = .review user action := by
  unfold reviews? at made
  split at made
  · cases made
    cases member
  · next enabled =>
      obtain ⟨user, known, rfl⟩ := Option.map_eq_some_iff.1 made
      obtain ⟨action, asked, rfl⟩ := List.mem_map.1 member
      exact ⟨by simpa using enabled, user, known, action, asked, rfl⟩

/-- Nothing fails among the reviews of a caller who is granted all that they ask for. -/
theorem passes_of_granted {actions : List Action} {reviews : List Call}
    (made : reviews? settings headers actions = some reviews)
    (granted : ∀ action ∈ actions, Granted settings headers action steps)
    (once : (calls steps).Nodup) (within : calls steps <+: reviews) {step : Step}
    (member : step ∈ steps) : step.failure? = none := by
  cases step with
  | logged event => rfl
  | asked call answer =>
      obtain ⟨enabled, user, known, action, asked, rfl⟩ :=
        mem_reviews made (within.subset (mem_calls member))
      rcases granted action asked with open' | ⟨name, known', answered⟩
      · cases enabled.symm.trans open'
      · obtain rfl := Option.some.inj (known'.symm.trans known)
        rw [asked_unique once member answered]
        rfl

/-- A caller who is granted all that the gates ask for gets the call that is behind them. -/
theorem StopsAtFailure.called {actions : List Action} {ns : String}
    {later : List String → List Call} {value : List String → α}
    {run : Except ServiceError α × List Step × σ} (gates : actions ≠ [])
    (stops : StopsAtFailure settings headers actions ns (fun names => call :: later names) value
      run)
    (granted : ∀ action ∈ actions, Granted settings headers action run.2.1) :
    call ∈ calls run.2.1 := by
  unfold StopsAtFailure at stops
  cases made : reviews? settings headers actions with
  | none =>
      obtain ⟨action, actions, rfl⟩ := List.exists_cons_of_ne_nil gates
      rcases granted action List.mem_cons_self with open' | ⟨name, known, -⟩
      · simp [reviews?, open'] at made
      · simp only [reviews?, known, Option.map_some] at made
        split at made <;> cases made
  | some reviews =>
      simp only [made] at stops
      obtain ⟨names, stop, -⟩ := stops
      by_contra absent
      -- the run ended among the reviews, although none of them failed
      have within := prefix_of_not_mem stop.in_order absent
      have whole := stop.goes_on fun step member =>
        passes_of_granted made granted stop.once within member
      rw [whole] at absent
      exact absent (List.mem_append_right _ List.mem_cons_self)

/-- Nothing else is changed on the way: only the planned call can be one that stores. -/
theorem StopsAtFailure.mem_plan {actions : List Action} {ns : String}
    {plan : List String → List Call} {value : List String → α}
    {run : Except ServiceError α × List Step × σ}
    (stops : StopsAtFailure settings headers actions ns plan value run)
    (member : call ∈ calls run.2.1) :
    (∃ user action, call = .review user action) ∨ ∃ names, call ∈ plan names := by
  unfold StopsAtFailure at stops
  cases made : reviews? settings headers actions with
  | none =>
      simp only [made] at stops
      rw [stops.1] at member
      cases member
  | some reviews =>
      simp only [made] at stops
      obtain ⟨names, stop, -⟩ := stops
      rcases List.mem_append.1 (stop.in_order.subset member) with asked | planned
      · obtain ⟨-, user, -, action, -, same⟩ := mem_reviews made asked
        exact .inl ⟨user, action, same⟩
      · exact .inr ⟨names, planned⟩

theorem granted_of_append {action : Action} (silent : calls more = [])
    (granted : Granted settings headers action (steps ++ more)) :
    Granted settings headers action steps := by
  rcases granted with open' | ⟨name, known, answered⟩
  · exact .inl open'
  · rcases List.mem_append.1 answered with early | late
    · exact .inr ⟨name, known, early⟩
    · exact absurd late (not_asked silent)

end Called

section Answered

variable {σ : Type} {settings : AccessSettings} {r : Request} {c : Credential}

theorem answer_calls (settings : AccessSettings) (clock : Clock) (answers : Answers σ) (s : σ)
    {a : Attempt}
    (attempted : r.attempt? = some a) :
    ∃ more, calls more = [] ∧ ((Server.answer settings clock r).run answers s).2.1 =
      ((a.program settings r.headers).run answers s).2.1 ++ more := by
  rw [Server.answer_of_attempt attempted, Program.run_bind]
  exact ⟨_, (Server.conclude_yields _ _ _ _).calls _ _, rfl⟩

/-- Of all credentials only the one that a request submits is ever stored for it, and it is stored
when the caller passes the gate. -/
theorem answer_stores (clock : Clock) (answers : Answers σ) (s : σ)
    (attempted : r.attempt? = some (.creation c)) :
    let steps := ((Server.answer settings clock r).run answers s).2.1
    (∀ other, .createSecret other ∈ calls steps → other = c) ∧
      (Granted settings r.headers (.secrets "create" c.ns) steps →
        Granted settings r.headers (.podDefaults "create" c.ns) steps →
        .createSecret c ∈ calls steps) := by
  intro steps
  obtain ⟨more, silent, whole⟩ := answer_calls settings clock answers s attempted
  have stops := attempt_stops settings r.headers answers s (.creation c)
  simp only [steps, whole, calls_append, silent, List.append_nil]
  constructor
  · intro other asked
    rcases stops.mem_plan asked with ⟨user, action, same⟩ | ⟨names, planned⟩
    · cases same
    · simpa [Attempt.call] using planned
  · intro secrets podDefaults
    refine stops.called (by simp [Attempt.actions]) fun action asked => ?_
    simp only [Attempt.actions, Attempt.verb, Attempt.ns, List.mem_cons, List.not_mem_nil,
      or_false] at asked
    rcases asked with rfl | rfl
    · exact granted_of_append silent secrets
    · exact granted_of_append silent podDefaults

end Answered

/-- What is sent to store a credential is its secret, and only the target can stand in the way. -/
theorem createSecret_sent (c : Credential) :
    match ApiRequest.ofCall (.createSecret c) with
    | .ok request => request.body = some (Secret.ofCredential c).toJson
    | .error e => ∃ fault, e = .api (.unbuildable fault) := by
  simp only [ApiRequest.ofCall, ApiRequest.createSecret, ApiRequest.ofParts]
  cases Target.read (ApiRequest.secretsPath c.ns ++ "?") with
  | ok target => rfl
  | error e => cases e <;> exact ⟨_, rfl⟩

/-- A request to create a secret that gives all six fields is read as one credential. Each of its
fields stands for the member with its name. Whoever answers, no other credential is stored, and
this one is when the caller passes the gate; what is sent is a secret that keeps it. -/
theorem stored_credential_faithful {σ : Type} (settings : AccessSettings) (clock : Clock)
    (answers : Answers σ) (s : σ) {r : Request} {body : Json}
    (served : r.route? = some .createSecret) (read : r.json? = some body)
    (given : ∀ name ∈ CredentialRequest.fieldNames,
      ∃ v, body.member? name = some v ∧ v.Truthy) :
    let steps := ((Server.answer settings clock r).run answers s).2.1
    ∃ c : Credential, r.submission.complete? = some c ∧
      (∀ field ∈ c.fields, ∃ v, body.member? field.1 = some v ∧ v.ReadAs field.2) ∧
      ((∀ other, .createSecret other ∈ calls steps → other = c) ∧
        (Granted settings r.headers (.secrets "create" c.ns) steps →
          Granted settings r.headers (.podDefaults "create" c.ns) steps →
          .createSecret c ∈ calls steps)) ∧
      (match ApiRequest.ofCall (.createSecret c) with
        | .ok request => request.body = some (Secret.ofCredential c).toJson
        | .error e => ∃ fault, e = .api (.unbuildable fault)) ∧
      Secret.Keeps c (Secret.ofCredential c) := by
  obtain ⟨c, complete, fields⟩ := complete_of_given (wellRead_of_json? read) given
  have submitted : r.submission.complete? = some c := by rwa [Request.submission, read]
  exact ⟨c, submitted, fields, answer_stores clock answers s (attempt_of_complete served submitted),
    createSecret_sent c, Secret.keeps_ofCredential c⟩

/-- An empty cluster with an open gate stores texts with quotes, a backslash, a control character
and a character beyond the basic plane, and a truth value, a list and an object as JSON. -/
theorem stored_credential_faithful_mixed :
    let json : Header := ⟨"content-type", Text.encode "application/json", by decide, by decide⟩
    let text := "\x7b\"namespace\":\"a\",\"name\":true,\"registry\":\"r.io/\\\"\\\\\"," ++
      "\"username\":[1,null],\"password\":\"\\u0001😀\",\"email\":\x7b\"b\":null,\"a\":\"\"\x7d\x7d"
    let r : Request := ⟨"POST", "/api/secrets/create", [json], Text.encode text⟩
    let c : Credential :=
      ⟨"a", "true", "r.io/\"\\", "[1,null]", "\x01😀", "\x7b\"a\":\"\",\"b\":null\x7d"⟩
    let asked :=
      ((Server.answer { disabled := true } ⟨⟨0, 0⟩, 0⟩ r).run MemoryCluster.answers {}).2.1
    .createSecret c ∈ calls asked ∧ Secret.Keeps c (Secret.ofCredential c) := by
  intro json text r c asked
  let body : Json := .object [("email", .object [("a", .string ""), ("b", .null)]),
    ("name", .bool true), ("namespace", .string "a"), ("password", .string "\x01😀"),
    ("registry", .string "r.io/\"\\"), ("username", .array [.number (.int 1), .null])]
  have served : r.route? = some .createSecret := by decide +kernel
  have read : r.json? = some body := by decide +kernel
  have complete : r.submission.complete? = some c := by decide +kernel
  have given : ∀ name ∈ CredentialRequest.fieldNames,
      ∃ v, body.member? name = some v ∧ v.Truthy := by
    simp only [CredentialRequest.fieldNames, List.forall_mem_cons]
    have text {s : String} (some : s ≠ "") : (Json.string s).Truthy := some
    exact ⟨⟨_, rfl, text (by decide)⟩, ⟨_, rfl, trivial⟩, ⟨_, rfl, text (by decide)⟩,
      ⟨_, rfl, trivial⟩, ⟨_, rfl, text (by decide)⟩, ⟨_, rfl, trivial⟩, nofun⟩
  obtain ⟨other, complete', -, ⟨-, stored⟩, -, keeps⟩ := stored_credential_faithful
    { disabled := true } ⟨⟨0, 0⟩, 0⟩ MemoryCluster.answers {} served read given
  obtain rfl := Option.some.inj (complete'.symm.trans complete)
  exact ⟨stored (.inl rfl) (.inl rfl), keeps⟩

end PullSecrets
