import PullSecrets.Proofs.FailStop
import PullSecrets.Proofs.Pairs
import PullSecrets.Proofs.WireTypes

/-! # Reports of failures

Behind every route that asks the gate there is one operation (`Server.operation`), and a response
tells what came of it and nothing else (`Server.answer_tells`). How a failure is reported is fixed
by the route and the failure (`Server.Reports`). Of a failure that the API server gave a message for
only this message is told (`Server.operation_alike`).
-/

namespace PullSecrets

namespace Program

variable {α β σ : Type} (answers : Answers σ) (s : σ)

theorem result_bind_of_yields {p : Program α} {f : α → Program β} {a : α} (yields : p.Yields a) :
    ((p >>= f).run answers s).1 = ((f a).run answers s).1 := by
  obtain ⟨events, run⟩ := yields.run answers s
  rw [run_bind, run]

theorem result_bind_yielding {p : Program α} {f : α → Program β} {g : α → β}
    (yields : ∀ a, (f a).Yields (g a)) :
    ((p >>= f).run answers s).1 = g (p.run answers s).1 := by
  rw [run_bind]
  exact (yields _).result answers _

theorem result_map (f : α → β) (p : Program α) :
    ((f <$> p).run answers s).1 = f (p.run answers s).1 :=
  result_bind_yielding answers s fun _ => rfl

end Program

/-- What is told of a failed call: the message that the API server gave, if it gave one, and else
the whole text of the failure. -/
inductive ClusterError.Wording : ClusterError → String → Prop
  | own (s : ApiStatus) (given : s.message ≠ "") : Wording (.api (.status s)) s.message
  | whole (e : ClusterError) (silent : ∀ s, e = .api (.status s) → s.message = "") :
      Wording e e.message

theorem ClusterError.wording_apiMessage (e : ClusterError) : e.Wording e.apiMessage := by
  cases e with
  | kubeconfig | malformed | encoding | internal => exact .whole _ nofun
  | api e =>
      cases e with
      | unbuildable | transport | undecodable | notUtf8 | unendedLine => exact .whole _ nofun
      | status s =>
          by_cases given : s.message = ""
          · rw [apiMessage, if_pos given]
            refine .whole _ fun t same => ?_
            cases same
            exact given
          · rw [apiMessage, if_neg given]
            exact .own s given

/-- What the client is told was tried, on the routes that concern secrets. -/
def Route.trial? : Route → Option String
  | .createSecret => some "Failed to create secret or update PodDefault"
  | .listSecrets _ => some "Failed to list secrets"
  | .deleteSecret .. => some "Failed to delete secret or update PodDefault"
  | _ => none

namespace Server

variable {settings : AccessSettings} {clock : Clock} {r : Request} {route : Route}

/-- The operation behind a route that asks the gate. -/
def operation (settings : AccessSettings) (r : Request) :
    Route → Option (Program (Except ServiceError Json))
  | .createSecret => some <| Except.map (fun m => MessageResponse.toJson ⟨m⟩) <$>
      Registry.create settings r.headers r.submission
  | .listSecrets ns => some <| Except.map Json.ofTexts <$> Registry.list settings r.headers ns
  | .deleteSecret ns name => some <| Except.map (fun m => MessageResponse.toJson ⟨m⟩) <$>
      Registry.delete settings r.headers ns name
  | .listPodDefaults ns => some <| Except.map podDefaultsJson <$>
      Registry.gated settings r.headers (.podDefaults "list" ns)
        (Registry.calling (.listPodDefaults ns) fun ps => .done (.ok ps))
  | .liveness | .readiness => none

/-- What a failure on a route amounts to. -/
def failureOf (route : Route) (e : ServiceError) : Failure :=
  match route.trial?, e with
  | some trial, e => .ofService trial e
  | none, .unauthorized e => .ofRefusal e
  | none, e => .internal e.message

/-- The response that tells what came of the operation behind a route. -/
def tells (clock : Clock) (route : Route) : Except ServiceError Json → Response
  | .ok value => .json 200 value
  | .error e => (failureOf route e).response clock.now

theorem told_eq_tells {α : Type} {trial : String} (on : route.trial? = some trial)
    (success : α → Json) (outcome : Except ServiceError α) :
    told clock trial success outcome = tells clock route (outcome.map success) := by
  cases outcome with
  | ok a => rfl
  | error e => simp only [told, Except.map, tells, failureOf, on]

section Runs

variable {σ : Type} (answers : Answers σ) (s : σ)

theorem concluded {α : Type} {trial : String} (on : route.trial? = some trial)
    (success : α → Json) (p : Program (Except ServiceError α)) :
    ((p >>= conclude clock trial success).run answers s).1 =
      tells clock route ((Except.map success <$> p).run answers s).1 := by
  rw [Program.result_bind_yielding answers s (conclude_yields clock trial success),
    Program.result_map, told_eq_tells on]

theorem listPodDefaults_tells (ns : String) :
    ((listPodDefaults settings clock r ns).run answers s).1 =
      tells clock (.listPodDefaults ns) ((Except.map podDefaultsJson <$>
        Registry.gated settings r.headers (.podDefaults "list" ns)
          (Registry.calling (.listPodDefaults ns) fun ps => .done (.ok ps))).run answers s).1 := by
  rw [Program.result_map, listPodDefaults, Registry.gated, Program.run_bind, Program.run_bind]
  generalize (ensureAllowed settings r.headers _).run answers s = gate
  obtain ⟨allowed, steps, s⟩ := gate
  cases allowed with
  | error e => exact (answer_yields (Failure.ofRefusal e) clock.now).result answers s
  | ok =>
      simp only [Registry.calling, Program.run]
      cases (answers (.listPodDefaults ns) s).1 with
      | error e => exact (answer_yields (.internal e.apiMessage) clock.now).result answers _
      | ok ps => rfl

/-- The response to a request tells what came of the operation behind its route. -/
theorem answer_tells {operation : Program (Except ServiceError Json)}
    (served : r.route? = some route) (bodied : r.method ≠ "HEAD")
    (behind : Server.operation settings r route = some operation) :
    ((answer settings clock r).run answers s).1 =
      tells clock route (operation.run answers s).1 := by
  have whole : answer settings clock r = serve settings clock r route := by
    rcases answer_of_route settings clock served with ⟨-, whole⟩ | ⟨head, -⟩
    · exact whole
    · exact absurd head bodied
  rw [whole]
  cases route with
  | liveness | readiness => cases behind
  | createSecret =>
      cases behind
      exact (Program.result_bind_of_yields answers s (submitted_yields r)).trans
        (concluded answers s rfl _ _)
  | listSecrets ns | deleteSecret ns name =>
      cases behind
      exact concluded answers s rfl _ _
  | listPodDefaults ns =>
      cases behind
      exact listPodDefaults_tells answers s ns

/-- What came of the gate and of the call when PodDefaults were to be listed. -/
theorem listing_cases (settings : AccessSettings) (r : Request) (ns : String) :
    let gate := (ensureAllowed settings r.headers (.podDefaults "list" ns)).run answers s
    let result := ((Except.map podDefaultsJson <$>
      Registry.gated settings r.headers (.podDefaults "list" ns)
        (Registry.calling (.listPodDefaults ns) fun ps => .done (.ok ps))).run answers s).1
    (∃ e, gate.1 = .error e ∧ result = .error (.unauthorized e)) ∨
      gate.1 = .ok () ∧
        ((∃ e, (answers (.listPodDefaults ns) gate.2.2).1 = .error e ∧
            result = .error (.cluster e)) ∨
          ∃ ps, (answers (.listPodDefaults ns) gate.2.2).1 = .ok ps ∧
            result = .ok (podDefaultsJson ps)) := by
  simp only [Program.result_map, Registry.gated, Program.run_bind]
  generalize (ensureAllowed settings r.headers _).run answers s = gate
  obtain ⟨allowed, steps, s⟩ := gate
  cases allowed with
  | error e => exact .inl ⟨e, rfl, rfl⟩
  | ok =>
      refine .inr ⟨rfl, ?_⟩
      simp only [Registry.calling, Program.run]
      cases (answers (.listPodDefaults ns) s).1 with
      | error e => exact .inl ⟨e, rfl, rfl⟩
      | ok ps => exact .inr ⟨ps, rfl, rfl⟩

end Runs

/-- How a failure is reported on a route, at a time. -/
inductive Reports (now : Instant) : Route → ServiceError → ErrorResponse → Prop
  | incomplete {route : Route} {trial : String} (on : route.trial? = some trial) :
      Reports now route .incomplete
        ⟨400, "BAD_REQUEST", "Missing required fields", now.fullText⟩
  | refused {route : Route} {trial : String} (on : route.trial? = some trial) (e : AccessError) :
      Reports now route (.unauthorized e)
        ⟨500, "INTERNAL_ERROR", trial ++ ": " ++ e.message, now.fullText⟩
  | failed {route : Route} {trial : String} (on : route.trial? = some trial) {e : ClusterError}
      {message : String} (wording : e.Wording message) :
      Reports now route (.cluster e)
        ⟨500, "INTERNAL_ERROR", trial ++ ": " ++ message, now.fullText⟩
  | listingRefused (ns : String) (e : AccessError) :
      Reports now (.listPodDefaults ns) (.unauthorized e)
        ⟨403, "FORBIDDEN", e.message, now.fullText⟩
  | listingFailed (ns : String) {e : ClusterError} {message : String}
      (wording : e.Wording message) :
      Reports now (.listPodDefaults ns) (.cluster e)
        ⟨500, "INTERNAL_ERROR", message, now.fullText⟩

theorem reports_of_trial (now : Instant) {trial : String} (on : route.trial? = some trial)
    (e : ServiceError) : Reports now route e ((failureOf route e).body now) := by
  unfold failureOf
  rw [on]
  cases e with
  | incomplete => exact .incomplete on
  | unauthorized e => exact .refused on e
  | cluster e => exact .failed on e.wording_apiMessage

/-- Every failure of an operation is reported. -/
theorem reports_of_operation {σ : Type} (answers : Answers σ) (s : σ)
    {operation : Program (Except ServiceError Json)} {e : ServiceError}
    (behind : Server.operation settings r route = some operation)
    (failed : (operation.run answers s).1 = .error e) (now : Instant) :
    Reports now route e ((failureOf route e).body now) := by
  cases route with
  | liveness | readiness => cases behind
  | createSecret | listSecrets | deleteSecret => exact reports_of_trial now rfl e
  | listPodDefaults ns =>
      cases behind
      rcases listing_cases answers s settings r ns with
        ⟨e', -, refused⟩ | ⟨-, ⟨e', -, broken⟩ | ⟨ps, -, listed⟩⟩
      · cases failed.symm.trans refused
        exact .listingRefused ns e'
      · cases failed.symm.trans broken
        exact .listingFailed ns e'.wording_apiMessage
      · cases failed.symm.trans listed

theorem status_eq_200_iff (outcome : Except ServiceError Json) :
    (tells clock route outcome).status = 200 ↔ outcome.isOk = true := by
  cases outcome with
  | ok value => exact iff_of_true rfl rfl
  | error e =>
      refine iff_of_false (fun status => ?_) nofun
      have failure : (failureOf route e).status = 200 := status
      cases failing : failureOf route e <;> simp [failing, Failure.status] at failure

theorem status_of_trial {trial : String} (on : route.trial? = some trial)
    (outcome : Except ServiceError Json) :
    ((tells clock route outcome).status = 400 ↔ outcome = .error .incomplete) ∧
      ((tells clock route outcome).status = 500 ↔ ∃ e, e ≠ .incomplete ∧ outcome = .error e) := by
  cases outcome with
  | ok value => simp [tells, Response.json]
  | error e =>
      cases e <;>
        simp [tells, failureOf, on, Failure.ofService, Failure.response, Failure.status,
          Response.json]

theorem status_of_listing (clock : Clock) (ns : String) (outcome : Except ServiceError Json) :
    ((tells clock (.listPodDefaults ns) outcome).status = 403 ↔
        ∃ e, outcome = .error (.unauthorized e)) ∧
      ((tells clock (.listPodDefaults ns) outcome).status = 500 ↔
        outcome = .error .incomplete ∨ ∃ e, outcome = .error (.cluster e)) := by
  cases outcome with
  | ok value => simp [tells, Response.json]
  | error e =>
      cases e <;>
        simp [tells, failureOf, Route.trial?, Failure.ofRefusal, Failure.response, Failure.status,
          Response.json]

end Server

/-- Two failures of which the same is told: of statuses of the API server that bear a message,
nothing but the message is. -/
inductive ClusterError.Alike : ClusterError → ClusterError → Prop
  | same (e : ClusterError) : Alike e e
  | status {s t : ApiStatus} (given : s.message ≠ "") (same : s.message = t.message) :
      Alike (.api (.status s)) (.api (.status t))

theorem ClusterError.Alike.apiMessage {e e' : ClusterError} (alike : e.Alike e') :
    e.apiMessage = e'.apiMessage := by
  cases alike with
  | same => rfl
  | status given same =>
      rw [ClusterError.apiMessage, if_neg given, ClusterError.apiMessage, if_neg (same ▸ given),
        same]

/-- Two answers that are the same result or two failures of which the same is told. -/
inductive AnswerAlike {α : Type} : Except ClusterError α → Except ClusterError α → Prop
  | ok (a : α) : AnswerAlike (.ok a) (.ok a)
  | error {e e' : ClusterError} (alike : e.Alike e') : AnswerAlike (.error e) (.error e')

/-- Two outcomes of an operation, likewise. -/
inductive OutcomeAlike {α : Type} : Except ServiceError α → Except ServiceError α → Prop
  | same (outcome : Except ServiceError α) : OutcomeAlike outcome outcome
  | failed {e e' : ClusterError} (alike : e.Alike e') :
      OutcomeAlike (.error (.cluster e)) (.error (.cluster e'))

/-- From these states on, all calls are answered alike. -/
def AnsweredAlike {σ τ : Type} (answers : Answers σ) (s : σ) (answers' : Answers τ) (t : τ) :
    Prop :=
  ∃ states : σ → τ → Prop, states s t ∧ ∀ s t, states s t → ∀ call,
    AnswerAlike (answers call s).1 (answers' call t).1 ∧
      states (answers call s).2 (answers' call t).2

namespace Pairing

variable {α β σ τ : Type} {π : Pairing σ τ} {settings : AccessSettings} {headers : Headers}

/-- Calls are answered alike on both sides, and what is logged does not matter. -/
structure Words (π : Pairing σ τ) : Prop where
  asks : ∀ call, π.Pairs AnswerAlike (Program.call call) (Program.call call)
  logs : ∀ event event', π.Pairs Eq (Program.record event) (Program.record event')

namespace Words

theorem ensureAllowed_pairs (words : π.Words) (action : Action) :
    π.Pairs Eq (ensureAllowed settings headers action) (ensureAllowed settings headers action) := by
  refine Pairing.ensureAllowed_pairs (fun event _ => words.logs event event) fun user => ?_
  refine (words.asks _).bind fun answer answer' alike => ?_
  cases alike with
  | ok allowed => cases allowed <;> exact .log (words.logs _ _) (.done rfl)
  | error alike => exact (words.logs _ _).bind_eq fun _ => .done rfl

theorem gated_pairs (words : π.Words) {action : Action}
    {next : Program (Except ServiceError α)} (inside : π.Pairs OutcomeAlike next next) :
    π.Pairs OutcomeAlike (Registry.gated settings headers action next)
      (Registry.gated settings headers action next) :=
  Pairing.gated_pairs (words.ensureAllowed_pairs action) (fun _ => .same _) inside

theorem calling_pairs (words : π.Words) {call : Call}
    {next : call.Result → Program (Except ServiceError α)}
    (inside : ∀ result, π.Pairs OutcomeAlike (next result) (next result)) :
    π.Pairs OutcomeAlike (Registry.calling call next) (Registry.calling call next) := by
  refine (words.asks call).bind fun answer answer' alike => ?_
  cases alike with
  | ok result => exact inside result
  | error alike => exact .done (.failed alike)

theorem reconcile_pairs (words : π.Words) (ns : String) :
    π.Pairs AnswerAlike (Registry.reconcile ns) (Registry.reconcile ns) := by
  refine (words.asks (.listSecrets ns)).bind fun answer answer' alike => ?_
  cases alike with
  | error alike => exact .done (.error alike)
  | ok names =>
      refine (words.asks (.applyPodDefault _)).bind fun answer answer' alike => ?_
      cases alike with
      | error alike => exact .done (.error alike)
      | ok => exact .log (words.logs _ _) (.done (.ok _))

theorem work_pairs (words : π.Words) (a : Attempt) : π.Pairs OutcomeAlike a.work a.work := by
  refine words.calling_pairs fun _ => .log (words.logs _ _) ?_
  have after : π.Pairs OutcomeAlike (Registry.reconcileAfter a.ns a.name)
      (Registry.reconcileAfter a.ns a.name) := by
    refine (words.reconcile_pairs a.ns).bind fun result result' alike => ?_
    cases alike with
    | ok => exact .done (.same _)
    | error alike => exact (words.logs _ _).bind_eq fun _ => .done (.failed alike)
  refine after.bind fun result result' alike => ?_
  cases alike with
  | same => cases result <;> exact .done (.same _)
  | failed alike => exact .done (.failed alike)

theorem program_pairs (words : π.Words) (a : Attempt) :
    π.Pairs OutcomeAlike (a.program settings headers) (a.program settings headers) :=
  words.gated_pairs (words.gated_pairs (words.work_pairs a))

theorem map_pairs {p : Program (Except ServiceError α)} (f : α → β)
    (pairs : π.Pairs OutcomeAlike p p) :
    π.Pairs OutcomeAlike (Except.map f <$> p) (Except.map f <$> p) := by
  refine pairs.bind fun outcome outcome' alike => .done ?_
  cases alike with
  | same => exact .same _
  | failed alike => exact .failed alike

theorem operation_pairs (words : π.Words) {r : Request} {route : Route}
    {operation : Program (Except ServiceError Json)}
    (behind : Server.operation settings r route = some operation) :
    π.Pairs OutcomeAlike operation operation := by
  cases route with
  | liveness | readiness => cases behind
  | createSecret =>
      cases behind
      refine map_pairs _ ?_
      rw [Registry.create_eq]
      cases r.submission.complete? with
      | none => exact .done (.same _)
      | some c => exact words.program_pairs (.creation c)
  | deleteSecret ns name =>
      cases behind
      exact map_pairs _ (words.program_pairs (.removal ns name))
  | listSecrets ns | listPodDefaults ns =>
      cases behind
      exact map_pairs _ (words.gated_pairs (words.calling_pairs fun _ => .done (.same _)))

end Words

/-- Two ways of answering, with no regard to what is done. -/
def results (answers : Answers σ) (answers' : Answers τ) (states : σ → τ → Prop) : Pairing σ τ where
  answers := answers
  answers' := answers'
  states := states
  steps _ _ := True
  nil := trivial
  append _ _ _ _ _ _ := trivial

theorem words_results {answers : Answers σ} {answers' : Answers τ} {states : σ → τ → Prop}
    (alike : ∀ s t, states s t → ∀ call, AnswerAlike (answers call s).1 (answers' call t).1 ∧
      states (answers call s).2 (answers' call t).2) :
    (results answers answers' states).Words where
  asks call s t corresponds :=
    ⟨(alike s t corresponds call).1, trivial, (alike s t corresponds call).2⟩
  logs _ _ _ _ corresponds := ⟨rfl, trivial, corresponds⟩

end Pairing

theorem Server.tells_alike {clock : Clock} {route : Route}
    {outcome outcome' : Except ServiceError Json}
    (alike : OutcomeAlike outcome outcome') :
    tells clock route outcome = tells clock route outcome' := by
  cases alike with
  | same => rfl
  | failed alike =>
      unfold tells failureOf
      cases route.trial? <;> simp only [Failure.ofService, ServiceError.message, alike.apiMessage]

/-- Clusters that are the same but for failures of which the same is told. -/
structure MemoryCluster.Alike (m m' : MemoryCluster) : Prop where
  store : m.store = m'.store
  version : m.version = m'.version
  reviewer : ∀ user action, AnswerAlike (m.reviewer user action) (m'.reviewer user action)
  createSecret : Option.Rel ClusterError.Alike m.faults.createSecret m'.faults.createSecret
  listSecrets : Option.Rel ClusterError.Alike m.faults.listSecrets m'.faults.listSecrets
  deleteSecret : Option.Rel ClusterError.Alike m.faults.deleteSecret m'.faults.deleteSecret
  applyPodDefault : Option.Rel ClusterError.Alike m.faults.applyPodDefault m'.faults.applyPodDefault
  listPodDefaults : Option.Rel ClusterError.Alike m.faults.listPodDefaults m'.faults.listPodDefaults
  serverVersion : Option.Rel ClusterError.Alike m.faults.serverVersion m'.faults.serverVersion

namespace MemoryCluster.Alike

variable {m m' : MemoryCluster}

theorem withStore (alike : m.Alike m') (store : Store) :
    (m.withStore store).Alike (m'.withStore store) :=
  { alike with store := rfl }

theorem sparing {α : Type} (alike : m.Alike m') {fault fault' : Option ClusterError}
    (faults : Option.Rel ClusterError.Alike fault fault')
    {outcome outcome' : Except ClusterError α × MemoryCluster}
    (otherwise : AnswerAlike outcome.1 outcome'.1 ∧ outcome.2.Alike outcome'.2) :
    AnswerAlike (sparing fault m outcome).1 (sparing fault' m' outcome').1 ∧
      (MemoryCluster.sparing fault m outcome).2.Alike
        (MemoryCluster.sparing fault' m' outcome').2 := by
  cases faults with
  | none => exact otherwise
  | some told => exact ⟨.error told, alike⟩

/-- Such clusters answer all calls alike. -/
theorem answeredAlike (alike : m.Alike m') : AnsweredAlike answers m answers m' := by
  refine ⟨MemoryCluster.Alike, alike, fun m m' alike call => ?_⟩
  have store := alike.store
  cases call with
  | review user action => exact ⟨alike.reviewer user action, alike⟩
  | listSecrets ns => exact alike.sparing alike.listSecrets ⟨store ▸ .ok _, alike⟩
  | listPodDefaults ns => exact alike.sparing alike.listPodDefaults ⟨store ▸ .ok _, alike⟩
  | serverVersion => exact alike.sparing alike.serverVersion ⟨alike.version ▸ .ok _, alike⟩
  | applyPodDefault p =>
      exact alike.sparing alike.applyPodDefault ⟨.ok _, store ▸ alike.withStore _⟩
  | createSecret c =>
      refine alike.sparing alike.createSecret ?_
      rw [store]
      split
      · exact ⟨.error (.same _), alike⟩
      · exact ⟨.ok _, alike.withStore _⟩
  | deleteSecret ns name =>
      refine alike.sparing alike.deleteSecret ?_
      rw [store]
      split
      · exact ⟨.ok _, alike.withStore _⟩
      · exact ⟨.error (.same _), alike⟩

end MemoryCluster.Alike

/-- Where calls are answered alike, operations come to alike outcomes. -/
theorem Server.operation_alike {σ τ : Type} {answers : Answers σ} {s : σ} {answers' : Answers τ}
    {t : τ} {settings : AccessSettings} {r : Request} {route : Route}
    {operation : Program (Except ServiceError Json)} (alike : AnsweredAlike answers s answers' t)
    (behind : Server.operation settings r route = some operation) :
    OutcomeAlike (operation.run answers s).1 (operation.run answers' t).1 := by
  obtain ⟨states, start, each⟩ := alike
  exact ((Pairing.words_results each).operation_pairs behind s t start).1

/-- A response tells whether the operation behind the route succeeded, and if it did not, it reports
the failure in the one form there is. -/
theorem failures_reported {σ : Type} (answers : Answers σ) (s : σ) (settings : AccessSettings)
    (clock : Clock) {r : Request} {route : Route} {operation : Program (Except ServiceError Json)}
    (served : r.route? = some route) (bodied : r.method ≠ "HEAD")
    (behind : Server.operation settings r route = some operation) :
    let result := (operation.run answers s).1
    let response := ((Server.answer settings clock r).run answers s).1
    (response.status = 200 ↔ result.isOk = true) ∧
      (∀ value, result = .ok value → response = .json 200 value) ∧
      (∀ e, result = .error e → ∃ report, Server.Reports clock.now route e report ∧
        response = .json report.status report.toJson ∧
        ErrorResponse.read? response.body.content = some report) ∧
      (∀ trial, route.trial? = some trial →
        (response.status = 400 ↔ result = .error .incomplete) ∧
        (response.status = 500 ↔ ∃ e, e ≠ .incomplete ∧ result = .error e)) ∧
      (∀ ns, route = .listPodDefaults ns →
        let gate := (ensureAllowed settings r.headers (.podDefaults "list" ns)).run answers s
        (response.status = 403 ↔ ∃ e, gate.1 = .error e) ∧
        (response.status = 500 ↔
          gate.1 = .ok () ∧ ∃ e, (answers (.listPodDefaults ns) gate.2.2).1 = .error e)) ∧
      ∀ (τ : Type) (answers' : Answers τ) (t : τ), AnsweredAlike answers s answers' t →
        ((Server.answer settings clock r).run answers' t).1 = response := by
  intro result response
  have tells : response = Server.tells clock route result :=
    Server.answer_tells answers s served bodied behind
  refine ⟨?_, fun value succeeded => ?_, fun e failed => ?_, fun trial on => ?_,
    fun ns listing => ?_, fun τ answers' t alike => ?_⟩
  · rw [tells]
    exact Server.status_eq_200_iff result
  · rw [tells, succeeded]
    rfl
  · have reported := Server.reports_of_operation answers s behind failed clock.now
    have report : response = ((Server.failureOf route e).response clock.now) := by
      rw [tells, failed]
      rfl
    exact ⟨_, reported, report, report ▸ ErrorResponse.read?_text _⟩
  · rw [tells]
    exact Server.status_of_trial on result
  · subst listing
    cases behind
    intro gate
    have status := Server.status_of_listing clock ns result
    rw [tells, status.1, status.2]
    rcases Server.listing_cases answers s settings r ns with
      ⟨e, refused, failed⟩ | ⟨allowed, ⟨e, broken, failed⟩ | ⟨ps, listed, succeeded⟩⟩
    · simp [result, failed, gate, refused]
    · simp [result, failed, gate, allowed, broken]
    · simp [result, succeeded, gate, allowed, listed]
  · rw [tells, Server.answer_tells answers' t served bodied behind]
    exact (Server.tells_alike (Server.operation_alike alike behind)).symm

/-- The API server is busy, for one reason or for another. -/
theorem failures_reported_conflict :
    let al : Header := ⟨"kubeflow-userid", Text.encode ":al", by decide, by decide⟩
    let r : Request := ⟨"DELETE", "/api/secrets/delete/team/quay", [al], []⟩
    let busy (code : UInt16) (reason : String) : MemoryCluster :=
      { faults := { deleteSecret := some (.refused code reason "busy") } }
    let response (m : MemoryCluster) : Response :=
      ((Server.answer {} ⟨⟨0, 0⟩, 0⟩ r).run MemoryCluster.answers m).1
    (r.route? = some (.deleteSecret "team" "quay") ∧ r.method ≠ "HEAD" ∧
        (busy 409 "Conflict").Alike (busy 503 "ServiceUnavailable")) ∧
      (response (busy 409 "Conflict")).status = 500 ∧
      (∃ report, report.error = "Failed to delete secret or update PodDefault: busy" ∧
        ErrorResponse.read? (response (busy 409 "Conflict")).body.content = some report) ∧
      response (busy 503 "ServiceUnavailable") = response (busy 409 "Conflict") := by
  intro al r busy response
  have served : r.route? = some (.deleteSecret "team" "quay") := by decide +kernel
  have bodied : r.method ≠ "HEAD" := by decide
  have alike : (busy 409 "Conflict").Alike (busy 503 "ServiceUnavailable") :=
    ⟨rfl, rfl, fun _ _ => .ok _, .none, .none, .some (.status (by decide) rfl), .none, .none, .none⟩
  obtain ⟨-, -, reports, statuses, -, told⟩ := failures_reported MemoryCluster.answers
    (busy 409 "Conflict") {} ⟨⟨0, 0⟩, 0⟩ served bodied rfl
  have failed : ((Except.map (fun m => MessageResponse.toJson ⟨m⟩) <$>
      Registry.delete {} [al] "team" "quay").run MemoryCluster.answers (busy 409 "Conflict")).1 =
        .error (.cluster (.refused 409 "Conflict" "busy")) := by decide +kernel
  obtain ⟨report, reported, -, read⟩ := reports _ failed
  refine ⟨⟨served, bodied, alike⟩, (statuses _ rfl).2.2 ⟨_, by decide, failed⟩,
    ⟨report, ?_, read⟩, told _ _ _ alike.answeredAlike⟩
  cases reported with
  | failed on wording =>
      cases on
      cases wording with
      | own => rfl
      | whole _ silent => exact absurd (silent _ rfl) (by decide)

end PullSecrets
