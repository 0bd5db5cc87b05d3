import PullSecrets.Proofs.StoredCredential

/-! # Empty namespaces and names

A path has a place for a namespace, and nothing keeps two slashes from meeting there. Which
requests leave a place empty that way is said by `Request.Unplaced`; they are the only ones by which
the empty namespace is named to the cluster (`empty_place_iff`). An empty name of a secret never is:
the last segment of a path is not empty, and a credential is complete.
-/

namespace PullSecrets

namespace Text

theorem encode_eq_nil_iff {s : String} : encode s = [] ↔ s = "" := by
  constructor
  · intro empty
    have same := decode?_encode s
    rw [empty, ← show encode "" = [] from rfl, decode?_encode] at same
    exact (Option.some.inj same).symm
  · rintro rfl
    rfl

theorem length_le_unescapeOnto (before bytes : Bytes) :
    before.length ≤ (unescapeOnto before bytes).length := by
  fun_induction unescapeOnto before bytes with
  | case1 before => simp
  | case2 before p q rest b found ih => exact Nat.le_of_succ_le ih
  | case3 before p q rest other ih => exact Nat.le_of_succ_le ih
  | case4 before b rest other ih => exact Nat.le_of_succ_le ih

theorem unescape_eq_nil_iff {bytes : Bytes} : unescape bytes = [] ↔ bytes = [] := by
  constructor
  · intro empty
    cases bytes with
    | nil => rfl
    | cons b rest =>
        -- whatever stands at the start, one byte comes of it
        have grown : ∃ b' rest', unescape (b :: rest) = unescapeOnto [b'] rest' := by
          unfold unescape
          rw [unescapeOnto.eq_def]
          split
          · simp_all
          · split
            · exact ⟨_, _, rfl⟩
            · exact ⟨_, _, rfl⟩
          · exact ⟨_, _, rfl⟩
        obtain ⟨b', rest', same⟩ := grown
        have long := length_le_unescapeOnto [b'] rest'
        rw [← same, empty] at long
        simp at long
  · rintro rfl
    simp [unescape, unescapeOnto]

theorem unescapeText?_empty : unescapeText? "" = some "" := by
  have nothing : unescape (encode "") = encode "" := unescape_eq_nil_iff.2 rfl
  rw [unescapeText?, nothing, decode?_encode]

/-- Only the empty segment stands for the empty text. -/
theorem eq_empty_of_unescapeText? {s t : String} (read : unescapeText? s = some t) :
    t = "" ↔ s = "" := by
  rw [← encode_eq_nil_iff, ← encode_eq_nil_iff, encode_of_decode? read, unescape_eq_nil_iff]

end Text

namespace Route

theorem modifyHead_same {α : Type} (l : List α) : l.modifyHead (fun a => a) = l :=
  congrFun List.modifyHead_id l

theorem segmentsOnto_eq (before : List String) (current cs : List Char) :
    segmentsOnto before current cs = before.reverse ++
      ((cs.splitOn '/').modifyHead (current.reverse ++ ·)).map String.ofList := by
  induction cs generalizing before current with
  | nil => simp [segmentsOnto]
  | cons c cs ih =>
      rw [List.splitOn_cons_eq_if_modifyHead]
      by_cases slash : c = '/'
      · subst slash
        simp [segmentsOnto, ih, modifyHead_same]
      · simp [segmentsOnto, ih, slash, Function.comp_def]

theorem segments_eq (path : String) :
    segments path = (path.toList.splitOn '/').map String.ofList := by
  simp [segments, segmentsOnto_eq, modifyHead_same]

theorem not_mem_of_mem_splitOn {cs part : List Char} (member : part ∈ cs.splitOn '/') :
    '/' ∉ part := by
  induction cs generalizing part with
  | nil =>
      rw [List.splitOn_nil, List.mem_singleton] at member
      simp [member]
  | cons c cs ih =>
      rw [List.splitOn_cons_eq_if_modifyHead] at member
      split at member
      · rcases List.mem_cons.1 member with rfl | member
        · exact List.not_mem_nil
        · exact ih member
      · next other =>
          cases parts : cs.splitOn '/' with
          | nil => exact absurd parts (List.splitOn_ne_nil _ _)
          | cons first rest =>
              rw [parts] at member ih
              rcases List.mem_cons.1 member with rfl | member
              · have plain := ih (List.mem_cons_self)
                rw [List.mem_cons, not_or]
                exact ⟨fun slash => other (by simp [← slash]), plain⟩
              · exact ih (List.mem_cons_of_mem _ member)

/-- A path is its segments with slashes between them. -/
theorem segments_eq_iff {path : String} {parts : List String} (some : parts ≠ []) :
    segments path = parts ↔
      path.toList = ['/'].intercalate (parts.map String.toList) ∧
        ∀ part ∈ parts, '/' ∉ part.toList := by
  rw [segments_eq]
  constructor
  · rintro rfl
    constructor
    · simp [Function.comp_def, List.intercalate_splitOn]
    · intro part member
      obtain ⟨cs, inside, rfl⟩ := List.mem_map.1 member
      rw [String.toList_ofList]
      exact not_mem_of_mem_splitOn inside
  · rintro ⟨joined, plain⟩
    rw [joined, List.splitOn_intercalate]
    · simp [Function.comp_def]
    · intro l member
      obtain ⟨part, inside, rfl⟩ := List.mem_map.1 member
      exact plain part inside
    · simpa using some

/-- The segments of the path of a route. -/
def parts : Route → List String
  | .createSecret => ["", "api", "secrets", "create"]
  | .listSecrets ns => ["", "api", "secrets", "list", ns]
  | .deleteSecret ns name => ["", "api", "secrets", "delete", ns, name]
  | .listPodDefaults ns => ["", "api", "namespaces", ns, "poddefaults"]
  | .liveness => ["", "healthz"]
  | .readiness => ["", "readyz"]

/-- The parameter that ends a path is not empty. -/
def Filled : Route → Prop
  | .listSecrets ns => ns ≠ ""
  | .deleteSecret _ name => name ≠ ""
  | _ => True

theorem ofSegments?_eq_some_iff {segments : List String} {route : Route} :
    ofSegments? segments = some route ↔ segments = route.parts ∧ route.Filled := by
  constructor
  · intro found
    unfold ofSegments? at found
    split at found
    case h_2 ns | h_3 ns name =>
      split at found
      · cases found
      · next given =>
          cases found
          exact ⟨rfl, given⟩
    all_goals
      cases found
      try exact ⟨rfl, trivial⟩
  · rintro ⟨rfl, filled⟩
    cases route with
    | listSecrets ns | deleteSecret ns name => exact if_neg filled
    | createSecret | listPodDefaults | liveness | readiness => rfl

theorem ofPath?_eq_some_iff {path : String} {route : Route} : ofPath? path = some route ↔
    (path.toList = ['/'].intercalate (route.parts.map String.toList) ∧
      ∀ part ∈ route.parts, '/' ∉ part.toList) ∧ route.Filled := by
  have some : route.parts ≠ [] := by cases route <;> exact List.cons_ne_nil _ _
  rw [ofPath?, ofSegments?_eq_some_iff, segments_eq_iff some]

theorem named_eq_ok_iff {param value : String} {next : String → Except String Route}
    {found : Route} : unescape.named param value next = .ok found ↔
      ∃ s, Text.unescapeText? value = some s ∧ next s = .ok found := by
  unfold unescape.named
  cases Text.unescapeText? value with
  | none => simp
  | some s => simp

theorem deleteSecret_path (name : String) :
    ['/'].intercalate ((deleteSecret "" name).parts.map String.toList) =
      "/api/secrets/delete//".toList ++ name.toList := by
  simp [parts, List.intercalate]

/-- The namespace that a route is about. -/
def ns? : Route → Option String
  | .listSecrets ns | .deleteSecret ns _ | .listPodDefaults ns => some ns
  | .createSecret | .liveness | .readiness => none

end Route

namespace Request

/-- The request leaves the namespace out of a path that has a place for it: two slashes meet. -/
inductive Unplaced (r : Request) : Prop where
  | listing (method : r.method = "GET" ∨ r.method = "HEAD")
      (path : r.path = "/api/namespaces//poddefaults")
  | removal {name : String} (method : r.method = "DELETE")
      (path : r.path = "/api/secrets/delete//" ++ name) (given : name ≠ "")
      (single : '/' ∉ name.toList) (text : (Text.unescapeText? name).isSome = true)

variable {r : Request} {route : Route}

theorem route?_eq_some_iff : r.route? = some route ↔ ∃ written,
    Route.ofPath? r.path = some written ∧
      (r.method = written.method ∨ r.method = "HEAD" ∧ written.method = "GET") ∧
      written.unescape = .ok route := by
  unfold route?
  cases Route.ofPath? r.path with
  | none => simp
  | some written =>
      by_cases method : r.method = written.method ∨ r.method = "HEAD" ∧ written.method = "GET"
      · cases unescaped : written.unescape with
        | error param => simp [method, unescaped, Except.toOption]
        | ok found => simp [method, unescaped, Except.toOption]
      · simp [method]

/-- A parameter in last place is not empty after it was unescaped either. -/
theorem filled_of_route? (served : r.route? = some route) : route.Filled := by
  obtain ⟨written, found, -, unescaped⟩ := route?_eq_some_iff.1 served
  have filled := (Route.ofPath?_eq_some_iff.1 found).2
  cases written with
  | createSecret | liveness | readiness =>
      cases unescaped
      trivial
  | listSecrets ns =>
      obtain ⟨text, read, same⟩ := Route.named_eq_ok_iff.1 unescaped
      cases same
      exact mt (Text.eq_empty_of_unescapeText? read).1 filled
  | deleteSecret ns name =>
      obtain ⟨text, -, next⟩ := Route.named_eq_ok_iff.1 unescaped
      obtain ⟨text', read, same⟩ := Route.named_eq_ok_iff.1 next
      cases same
      exact mt (Text.eq_empty_of_unescapeText? read).1 filled
  | listPodDefaults ns =>
      obtain ⟨text, read, same⟩ := Route.named_eq_ok_iff.1 unescaped
      cases same
      trivial

theorem Unplaced.served (unplaced : r.Unplaced) :
    ∃ route, r.route? = some route ∧ route.ns? = some "" := by
  have empty := Text.unescapeText?_empty
  cases unplaced with
  | listing method path =>
      refine ⟨.listPodDefaults "", route?_eq_some_iff.2 ⟨.listPodDefaults "", ?_, ?_, ?_⟩, rfl⟩
      · rw [Route.ofPath?_eq_some_iff, path]
        exact ⟨by decide, trivial⟩
      · exact method.imp_right fun head => ⟨head, rfl⟩
      · exact Route.named_eq_ok_iff.2 ⟨"", empty, rfl⟩
  | @removal name method path given single text =>
      obtain ⟨name', read⟩ := Option.isSome_iff_exists.1 text
      refine ⟨.deleteSecret "" name', route?_eq_some_iff.2 ⟨.deleteSecret "" name, ?_, ?_, ?_⟩, rfl⟩
      · rw [Route.ofPath?_eq_some_iff, path]
        refine ⟨⟨?_, ?_⟩, given⟩
        · rw [String.toList_append, Route.deleteSecret_path]
        · simp only [Route.parts, List.forall_mem_cons]
          exact ⟨by decide, by decide, by decide, by decide, by decide, single,
            List.forall_mem_nil _⟩
      · exact .inl method
      · exact Route.named_eq_ok_iff.2 ⟨"", empty, Route.named_eq_ok_iff.2 ⟨name', read, rfl⟩⟩

theorem unplaced_of_route (served : r.route? = some route) (empty : route.ns? = some "") :
    r.Unplaced := by
  have filled := filled_of_route? served
  obtain ⟨written, found, method, unescaped⟩ := route?_eq_some_iff.1 served
  obtain ⟨⟨joined, plain⟩, given⟩ := Route.ofPath?_eq_some_iff.1 found
  cases written with
  | createSecret | liveness | readiness =>
      cases unescaped
      cases empty
  | listSecrets ns =>
      obtain ⟨text, -, same⟩ := Route.named_eq_ok_iff.1 unescaped
      cases same
      exact absurd (Option.some.inj empty) filled
  | deleteSecret ns name =>
      obtain ⟨text, read, next⟩ := Route.named_eq_ok_iff.1 unescaped
      obtain ⟨text', read', same⟩ := Route.named_eq_ok_iff.1 next
      cases same
      obtain rfl := (Text.eq_empty_of_unescapeText? read).1 (Option.some.inj empty)
      refine @Unplaced.removal r name ?_ ?_ given ?_ ?_
      · have other : "DELETE" ≠ "GET" := by decide
        exact method.resolve_right fun head => other head.2
      · rw [← String.toList_inj, joined, String.toList_append, Route.deleteSecret_path]
      · exact plain name (by simp [Route.parts])
      · rw [read']
        rfl
  | listPodDefaults ns =>
      obtain ⟨text, read, same⟩ := Route.named_eq_ok_iff.1 unescaped
      cases same
      obtain rfl := (Text.eq_empty_of_unescapeText? read).1 (Option.some.inj empty)
      refine .listing ?_ ?_
      · exact method.imp_right And.left
      · rw [← String.toList_inj, joined]
        rfl

end Request

namespace Program

variable {α β σ : Type} {call : Call}

/-- Whatever the answers are, the program makes the call. -/
def Makes (call : Call) : Program α → Prop
  | .done _ => False
  | .ask first next => first = call ∨ ∀ answer, (next answer).Makes call
  | .log _ next => next.Makes call

theorem Makes.bind {p : Program α} {f : α → Program β} (makes : p.Makes call) :
    (p >>= f).Makes call := by
  induction p with
  | done a => exact makes.elim
  | ask first next ih => exact makes.imp_right fun later answer => ih answer (later answer)
  | log event next ih => exact ih makes

theorem Yields.bind_makes {p : Program α} {a : α} {f : α → Program β} (yields : p.Yields a)
    (makes : (f a).Makes call) : (p >>= f).Makes call := by
  induction p with
  | done b =>
      cases (yields : b = a)
      exact makes
  | ask first next => exact yields.elim
  | log event next ih => exact ih yields

theorem Makes.run {p : Program α} (makes : p.Makes call) (answers : Answers σ) (s : σ) :
    call ∈ calls (p.run answers s).2.1 := by
  induction p generalizing s with
  | done a => exact makes.elim
  | ask first next ih =>
      rcases makes with rfl | later
      · exact mem_calls (.head _)
      · have inside := ih (answers first s).1 (later _) (answers first s).2
        exact ((List.sublist_cons_self _ _).filterMap _).subset inside
  | log event next ih => exact ih makes s

end Program

namespace Call

/-- The namespace that a call names. -/
def ns? : Call → Option String
  | .review _ action => action.ns
  | .createSecret c => some c.ns
  | .listSecrets ns | .deleteSecret ns _ | .listPodDefaults ns => some ns
  | .applyPodDefault p => some p.key.ns
  | .serverVersion => none

/-- The name of the secret that a call stores or removes. -/
def secret? : Call → Option String
  | .createSecret c => some c.name
  | .deleteSecret _ name => some name
  | _ => none

end Call

/-- No call names an empty secret, and an empty namespace only where that is excused. -/
def Placed (excused : Prop) : Rule := fun _ call =>
  (call.ns? = some "" → excused) ∧ call.secret? ≠ some ""

section Requests

variable {excused : Prop} {ns : String} {history : List Step} {settings : AccessSettings}
  {headers : Headers} {action : Action} {clock : Clock} {r : Request} {route : Route}

theorem placed_of_ns (excuse : ns = "" → excused) {call : Call} (here : call.ns? = some ns)
    (given : call.secret? ≠ some "") : Placed excused history call := by
  constructor
  · intro empty
    exact excuse (Option.some.inj (here.symm.trans empty))
  · exact given

theorem reconcile_placed (excuse : ns = "" → excused) :
    (Registry.reconcile ns).Keeps (Placed excused) history :=
  reconcile_keeps (placed_of_ns excuse rfl nofun) fun _ => placed_of_ns excuse rfl nofun

theorem Attempt.program_placed (a : Attempt) (excuse : a.ns = "" → excused) (given : a.name ≠ "") :
    (a.program settings headers).Keeps (Placed excused) history := by
  have reviewed (all : List Step) (user : String) (action : Action) (here : action.ns = some a.ns) :
      Placed excused all (.review user action) := placed_of_ns excuse here nofun
  apply gated_keeps fun all user _ => reviewed all user _ rfl
  intro all _ _
  apply gated_keeps fun all user _ => reviewed all user _ rfl
  intro all _ _
  have asked : Placed excused all a.call := by
    cases a with
    | creation c | removal ns name => exact placed_of_ns excuse rfl (mt Option.some.inj given)
  apply calling_keeps asked
  intro result
  exact finished_keeps fun later _ => reconcile_placed excuse

/-- The calls of a route name what the route names, and a credential names both. -/
theorem serve_placed (filled : route.Filled) (excuse : route.ns? = some "" → excused) :
    (Server.serve settings clock r route).Keeps (Placed excused) history := by
  cases route with
  | createSecret =>
      apply (Server.submitted_yields r).obeys.bind
      rintro all submission - -
      apply concluded_keeps
      rw [Registry.create_eq]
      cases complete : submission.complete? with
      | none => trivial
      | some c =>
          obtain ⟨⟨-, ns⟩, ⟨-, name⟩, -⟩ := CredentialRequest.complete?_eq_some_iff.1 complete
          exact Attempt.program_placed _ (fun empty => absurd empty ns) name
  | listSecrets ns =>
      have excuse (empty : ns = "") : excused := absurd empty filled
      apply concluded_keeps
      apply gated_keeps fun all user _ => placed_of_ns excuse rfl nofun
      intro all _ _
      exact calling_keeps (placed_of_ns excuse rfl nofun) fun names => trivial
  | deleteSecret ns name =>
      apply concluded_keeps
      have excuse (empty : ns = "") : excused := excuse (congrArg some empty)
      exact Attempt.program_placed (.removal ns name) excuse filled
  | listPodDefaults ns =>
      have excuse (empty : ns = "") : excused := excuse (congrArg some empty)
      refine (ensureAllowed_obeys fun all user _ => placed_of_ns excuse rfl nofun).bind ?_
      rintro all (e | ⟨⟩) - -
      · exact (Server.answer_yields _ _).keeps
      · refine ⟨placed_of_ns excuse rfl nofun, fun answer => ?_⟩
        cases answer with
        | error e => exact (Server.answer_yields _ _).keeps
        | ok listed => trivial
  | liveness => trivial
  | readiness =>
      refine ⟨⟨nofun, nofun⟩, fun answer => ?_⟩
      cases answer <;> trivial

theorem answer_placed : (Server.answer settings clock r).Keeps (Placed r.Unplaced) history := by
  cases served : r.route? with
  | none =>
      obtain ⟨response, immediate⟩ := Server.answer_of_no_route served
      rw [immediate]
      trivial
  | some route =>
      have placed : (Server.serve settings clock r route).Keeps (Placed r.Unplaced) history :=
        serve_placed (Request.filled_of_route? served) (Request.unplaced_of_route served)
      rcases Server.answer_of_route settings clock served with ⟨-, whole⟩ | ⟨-, -, bare⟩
      · rwa [whole]
      · rw [bare]
        exact placed.map

/-- Somebody is let through to the gate: it stands open, or the caller is known. -/
def Admitted (settings : AccessSettings) (headers : Headers) : Prop :=
  settings.disabled = true ∨ userOf? settings headers ≠ none

/-- Behind the open gate it is the operation that names its namespace, else a review. -/
theorem gate_makes {α : Type} {f : Except AccessError Unit → Program α} (call : Call)
    (admitted : Admitted settings headers) (about : action.ns = some ns) (here : call.ns? = some ns)
    (next : settings.disabled = true → (f (.ok ())).Makes call) :
    ∃ call, call.ns? = some ns ∧ (ensureAllowed settings headers action >>= f).Makes call := by
  cases enabled : settings.disabled with
  | true =>
      have passes : ensureAllowed settings headers action = .done (.ok ()) := if_pos enabled
      rw [passes]
      exact ⟨call, here, next enabled⟩
  | false =>
      have known := admitted.resolve_left (by simp [enabled])
      obtain ⟨user, known⟩ := Option.ne_none_iff_exists'.1 known
      refine ⟨.review user action, about, Program.Makes.bind ?_⟩
      rw [ensureAllowed_of_enabled enabled]
      apply (identify_yields settings headers).bind_makes
      rw [known]
      exact .inl rfl

theorem gated_makes {α : Type} {next : Program (Except ServiceError α)} (call : Call)
    (admitted : Admitted settings headers) (about : action.ns = some ns) (here : call.ns? = some ns)
    (later : settings.disabled = true → next.Makes call) :
    ∃ call, call.ns? = some ns ∧ (Registry.gated settings headers action next).Makes call :=
  gate_makes call admitted about here later

theorem serve_makes (clock : Clock) (admitted : Admitted settings r.headers)
    (here : route.ns? = some ns) :
    ∃ call, call.ns? = some ns ∧ (Server.serve settings clock r route).Makes call := by
  cases route with
  | createSecret | liveness | readiness => cases here
  | listSecrets place =>
      obtain ⟨call, here, makes⟩ : ∃ call, call.ns? = some ns ∧
          (Registry.list settings r.headers place).Makes call := by
        apply gated_makes (.listSecrets place) admitted here here
        intro _
        exact .inl rfl
      exact ⟨call, here, makes.bind⟩
  | deleteSecret place name =>
      obtain ⟨call, here, makes⟩ : ∃ call, call.ns? = some ns ∧
          (Registry.delete settings r.headers place name).Makes call := by
        apply gated_makes (.deleteSecret place name) admitted here here
        intro disabled
        rw [gated_of_disabled disabled]
        exact .inl rfl
      exact ⟨call, here, makes.bind⟩
  | listPodDefaults place =>
      exact gate_makes (.listPodDefaults place) admitted here here fun _ => .inl rfl

theorem serve_silent (clock : Clock) (stopped : ¬ Admitted settings r.headers)
    (here : route.ns? = some ns) :
    ∃ response, (Server.serve settings clock r route).Yields response := by
  simp only [Admitted, not_or, Bool.not_eq_true, not_not] at stopped
  obtain ⟨enabled, unknown⟩ := stopped
  cases route with
  | createSecret | liveness | readiness => cases here
  | listSecrets ns | deleteSecret ns name =>
      exact ⟨_, (gated_yields_of_unknown enabled unknown).bind (Server.conclude_yields _ _ _ _)⟩
  | listPodDefaults ns =>
      exact ⟨_, (ensureAllowed_yields_of_unknown enabled unknown).bind (Server.answer_yields _ _)⟩

/-- A path with a place for a namespace gets it named by a call exactly when somebody is let through
to the gate. -/
theorem asked_iff {σ : Type} (served : r.route? = some route) (here : route.ns? = some ns)
    (answers : Answers σ) (s : σ) :
    (∃ call ∈ calls ((Server.answer settings clock r).run answers s).2.1, call.ns? = some ns) ↔
      Admitted settings r.headers := by
  constructor
  · rintro ⟨call, asked, -⟩
    by_contra stopped
    obtain ⟨response, yields⟩ : ∃ response, (Server.answer settings clock r).Yields response := by
      obtain ⟨response, yields⟩ := serve_silent clock stopped here
      rcases Server.answer_of_route settings clock served with ⟨-, whole⟩ | ⟨-, -, bare⟩
      · exact ⟨response, whole ▸ yields⟩
      · exact ⟨response.withoutBody, bare ▸ yields.bind rfl⟩
    rw [yields.calls] at asked
    cases asked
  · intro admitted
    obtain ⟨call, here, makes⟩ := serve_makes clock admitted here
    refine ⟨call, Program.Makes.run ?_ answers s, here⟩
    rcases Server.answer_of_route settings clock served with ⟨-, whole⟩ | ⟨-, -, bare⟩
    · rwa [whole]
    · rw [bare]
      exact makes.bind

end Requests

/-- Whatever is answered and whoever asks: no call of a request names an empty secret, and one names
the empty namespace exactly when two slashes meet where the path has a place for a namespace and
somebody is let through to the gate. -/
theorem empty_place_iff {σ : Type} (settings : AccessSettings) (clock : Clock) (r : Request)
    (answers : Answers σ) (s : σ) :
    let asked := calls ((Server.answer settings clock r).run answers s).2.1
    (∀ call ∈ asked, call.secret? ≠ some "") ∧
      ((∃ call ∈ asked, call.ns? = some "") ↔ r.Unplaced ∧ Admitted settings r.headers) := by
  intro asked
  have placed (call : Call) (made : call ∈ asked) :
      (call.ns? = some "" → r.Unplaced) ∧ call.secret? ≠ some "" := by
    have keeps : (Server.answer settings clock r).Keeps (Placed r.Unplaced) [] := answer_placed
    obtain ⟨before, placed⟩ := (keeps.run answers s).1.of_mem_calls made
    exact placed
  constructor
  · intro call made
    exact (placed call made).2
  · constructor
    · rintro ⟨call, made, empty⟩
      have unplaced := (placed call made).1 empty
      obtain ⟨route, served, here⟩ := unplaced.served
      exact ⟨unplaced, (asked_iff served here answers s).1 ⟨call, made, empty⟩⟩
    · rintro ⟨unplaced, admitted⟩
      obtain ⟨route, served, here⟩ := unplaced.served
      exact (asked_iff served here answers s).2 admitted

/-- A review about no namespace in particular, and a removal in it. -/
theorem empty_place_removal :
    let al : Header := ⟨"kubeflow-userid", Text.encode ":al", by decide, by decide⟩
    let r : Request := ⟨"DELETE", "/api/secrets/delete//quay", [al], []⟩
    let asked := calls ((Server.answer {} ⟨⟨0, 0⟩, 0⟩ r).run MemoryCluster.answers {}).2.1
    .review "al" (.secrets "delete" "") ∈ asked ∧ .deleteSecret "" "quay" ∈ asked := by
  decide +kernel

end PullSecrets
