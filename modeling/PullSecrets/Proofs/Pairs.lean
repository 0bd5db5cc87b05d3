import Mathlib.Data.List.Forall2
import PullSecrets.Proofs.Replies
import PullSecrets.Proofs.Session

/-! # Two runs side by side

A `Pairing` has two ways of answering, and says which of their states correspond and which steps.
Two programs pair when they keep this up and come to related results (`Pairing.Pairs`). The stages
of an operation are gone through once: `answer_pairs` says that a request pairs with itself, at two
times and behind two gates, when the gates, the calls and the remarks do. What all runs have in
common is the case of a run beside itself (`Pairing.alone`).
-/

namespace PullSecrets

variable {α β σ τ : Type}

/-- What one handler responds at two times. -/
inductive Response.Redated (clock clock' : Clock) : Response → Response → Prop where
  | same (response : Response) : Redated clock clock' response response
  | failure (f : Failure) : Redated clock clock' (f.response clock.now) (f.response clock'.now)
  | alive : Redated clock clock' (Server.liveness clock) (Server.liveness clock')
  | ready (version : String) :
      Redated clock clock' (Server.ready clock version) (Server.ready clock' version)
  | unready : Redated clock clock' (Server.unready clock) (Server.unready clock')
  | bare {a b : Response} (inside : Redated clock clock' a b) :
      Redated clock clock' a.withoutBody b.withoutBody

namespace Response

/-- The response without anything that a clock tells. -/
def undated (r : Response) : Response :=
  match r.body with
  | .json value => { r with body := .json ((value.without "timestamp").without "uptime_seconds") }
  | _ => r

theorem timeless_withoutBody (r : Response) : r.timeless.withoutBody = r.withoutBody := by
  unfold timeless
  cases r.body <;> rfl

theorem undated_withoutBody (r : Response) : r.undated.withoutBody = r.withoutBody := by
  unfold undated
  cases r.body <;> rfl

namespace Redated

variable {clock clock' : Clock} {a b : Response}

theorem timeless (redated : Redated clock clock' a b) (uptime : clock.uptime = clock'.uptime) :
    a.timeless = b.timeless := by
  induction redated with
  | same => rfl
  | failure f => exact timeless_failure f _ _
  | alive =>
      simp [Server.liveness, Response.timeless, Response.json, Json.without, List.filter, uptime]
  | ready version =>
      simp [Server.ready, Response.timeless, Response.json, Json.without, List.filter]
  | unready => simp [Server.unready, Response.timeless, Response.json, Json.without, List.filter]
  | @bare a b inside ih =>
      have same : a.withoutBody = b.withoutBody := by
        rw [← timeless_withoutBody a, ih, timeless_withoutBody]
      rw [same]

theorem undated (redated : Redated clock clock' a b) : a.undated = b.undated := by
  induction redated with
  | same => rfl
  | failure f =>
      simp [Failure.response, Failure.body, ErrorResponse.toJson, Response.undated, Response.json,
        Json.without, List.filter]
  | alive => simp [Server.liveness, Response.undated, Response.json, Json.without, List.filter]
  | ready version => simp [Server.ready, Response.undated, Response.json, Json.without, List.filter]
  | unready => simp [Server.unready, Response.undated, Response.json, Json.without, List.filter]
  | @bare a b inside ih =>
      have same : a.withoutBody = b.withoutBody := by
        rw [← undated_withoutBody a, ih, undated_withoutBody]
      rw [same]

end Redated

end Response

/-- Two ways of answering, with the states that correspond and the steps that do. -/
structure Pairing (σ τ : Type) where
  answers : Answers σ
  answers' : Answers τ
  states : σ → τ → Prop
  steps : List Step → List Step → Prop
  nil : steps [] []
  append : ∀ a a' b b', steps a a' → steps b b' → steps (a ++ b) (a' ++ b')

namespace Pairing

/-- A run beside itself, in which all steps have a property. -/
def alone (answers : Answers σ) (holds : List Step → Prop) (nil : holds [])
    (append : ∀ a b, holds a → holds b → holds (a ++ b)) : Pairing σ σ where
  answers := answers
  answers' := answers
  states := Eq
  steps steps _ := holds steps
  nil := nil
  append a _ b _ := append a b

variable (π : Pairing σ τ)

/-- From states that correspond, two programs come to related results and to states that correspond,
by steps that do. -/
def Pairs (related : α → α → Prop) (p q : Program α) : Prop :=
  ∀ s t, π.states s t →
    related (p.run π.answers s).1 (q.run π.answers' t).1 ∧
      π.steps (p.run π.answers s).2.1 (q.run π.answers' t).2.1 ∧
      π.states (p.run π.answers s).2.2 (q.run π.answers' t).2.2

namespace Pairs

variable {π} {related : α → α → Prop} {p q : Program α}

theorem done {a b : α} (same : related a b) : π.Pairs related (.done a) (.done b) :=
  fun _ _ corresponds => ⟨same, π.nil, corresponds⟩

theorem bind {last : β → β → Prop} {f g : α → Program β} (first : π.Pairs related p q)
    (rest : ∀ a b, related a b → π.Pairs last (f a) (g b)) : π.Pairs last (p >>= f) (q >>= g) := by
  intro s t corresponds
  obtain ⟨results, steps, states⟩ := first s t corresponds
  obtain ⟨results', steps', states'⟩ := rest _ _ results _ _ states
  rw [Program.run_bind, Program.run_bind]
  exact ⟨results', π.append _ _ _ _ steps steps', states'⟩

/-- What follows equal results has to pair for each of them. -/
theorem bind_eq {last : β → β → Prop} {f g : α → Program β} (first : π.Pairs Eq p q)
    (rest : ∀ a, π.Pairs last (f a) (g a)) : π.Pairs last (p >>= f) (q >>= g) :=
  first.bind fun a _ same => same ▸ rest a

theorem ask {call : Call} {next next' : call.Answer → Program α}
    (asks : π.Pairs Eq (Program.call call) (Program.call call))
    (rest : ∀ answer, π.Pairs related (next answer) (next' answer)) :
    π.Pairs related (.ask call next) (.ask call next') :=
  asks.bind_eq rest

theorem log {event : LogEvent} (logs : π.Pairs Eq (Program.record event) (Program.record event))
    (rest : π.Pairs related p q) : π.Pairs related (.log event p) (.log event q) :=
  logs.bind_eq fun _ => rest

theorem record {event : LogEvent} (shows : π.steps [.logged event] [.logged event]) :
    π.Pairs Eq (Program.record event) (Program.record event) :=
  fun _ _ corresponds => ⟨rfl, shows, corresponds⟩

/-- A call pairs when it is answered alike on both sides. -/
theorem call {call : Call}
    (alike : ∀ s t, π.states s t → (π.answers call s).1 = (π.answers' call t).1 ∧
      π.states (π.answers call s).2 (π.answers' call t).2)
    (shows : ∀ answer, π.steps [.asked call answer] [.asked call answer]) :
    π.Pairs Eq (Program.call call) (Program.call call) := by
  intro s t corresponds
  obtain ⟨same, states⟩ := alike s t corresponds
  have steps := shows (π.answers call s).1
  refine ⟨same, ?_, states⟩
  simp only [Program.call, Program.run]
  rwa [← same]

end Pairs

section Alone

variable {answers : Answers σ} {kept : List Step → Prop} {nil : kept []}
  {append : ∀ a b, kept a → kept b → kept (a ++ b)}

theorem call_alone {call : Call} (shows : ∀ answer, kept [.asked call answer]) :
    (alone answers kept nil append).Pairs Eq (Program.call call) (Program.call call) :=
  .call (fun _ _ same => same ▸ ⟨rfl, rfl⟩) shows

/-- What holds of a run beside itself holds of the run. -/
theorem Pairs.holds {related : α → α → Prop} {p : Program α}
    (pairs : (alone answers kept nil append).Pairs related p p) (s : σ) :
    kept (p.run answers s).2.1 :=
  (pairs s s rfl).2.1

end Alone

/-- Lines that are about a request, and not about what was asked of the cluster. -/
inductive Remark : LogEvent → Prop where
  | userHeaderMissing (header : String) : Remark (.userHeaderMissing header)
  | userResolved (user header : String) : Remark (.userResolved user header)
  | bodyRejected : Remark .bodyRejected
  | internalFailure (message : String) : Remark (.internalFailure message)
  | podDefaultsListed (ns : String) (count : Nat) : Remark (.podDefaultsListed ns count)

/-- All that has to pair for requests to pair, behind two gates. -/
structure Serves (settings settings' : AccessSettings) (headers : Headers) : Prop where
  gate : ∀ action,
    π.Pairs Eq (ensureAllowed settings headers action) (ensureAllowed settings' headers action)
  work : ∀ a : Attempt, π.Pairs Eq a.work a.work
  listSecrets : ∀ ns,
    π.Pairs Eq (Program.call (.listSecrets ns)) (Program.call (.listSecrets ns))
  listPodDefaults : ∀ ns,
    π.Pairs Eq (Program.call (.listPodDefaults ns)) (Program.call (.listPodDefaults ns))
  readiness : ∀ clock clock',
    π.Pairs (Response.Redated clock clock') (Server.readiness clock) (Server.readiness clock')
  remarks : ∀ event, Remark event →
    π.Pairs Eq (Program.record event) (Program.record event)

section Requests

variable {π} {settings settings' : AccessSettings} {headers : Headers} {clock clock' : Clock}
  {r : Request}

/-- A gate pairs with itself when its reviews do. -/
theorem ensureAllowed_pairs {action : Action}
    (remarks : ∀ event, Remark event → π.Pairs Eq (Program.record event) (Program.record event))
    (asks : ∀ user, π.Pairs Eq (.ask (.review user action) (reviewed user action))
      (.ask (.review user action) (reviewed user action))) :
    π.Pairs Eq (ensureAllowed settings headers action) (ensureAllowed settings headers action) := by
  have identifies : π.Pairs Eq (identify settings headers) (identify settings headers) := by
    simp only [identify]
    cases Identity.ofHeaders settings headers with
    | absent => exact .log (remarks _ (.userHeaderMissing _)) (.done rfl)
    | unusable => exact .done rfl
    | user name => exact .log (remarks _ (.userResolved name _)) (.done rfl)
  unfold ensureAllowed
  split
  · exact .done rfl
  · refine identifies.bind_eq fun found => ?_
    cases found with
    | none => exact .done rfl
    | some user => exact asks user

theorem gated_pairs {related : Except ServiceError α → Except ServiceError α → Prop}
    {action : Action} {next next' : Program (Except ServiceError α)}
    (gate : π.Pairs Eq (ensureAllowed settings headers action)
      (ensureAllowed settings' headers action))
    (refused : ∀ e, related (.error (.unauthorized e)) (.error (.unauthorized e)))
    (inside : π.Pairs related next next') :
    π.Pairs related (Registry.gated settings headers action next)
      (Registry.gated settings' headers action next') := by
  refine gate.bind_eq fun result => ?_
  cases result with
  | error e => exact .done (refused e)
  | ok => exact inside

theorem calling_pairs {call : Call} {next : call.Result → Program (Except ServiceError α)}
    (asks : π.Pairs Eq (Program.call call) (Program.call call))
    (inside : ∀ result, π.Pairs Eq (next result) (next result)) :
    π.Pairs Eq (Registry.calling call next) (Registry.calling call next) := by
  refine .ask asks fun answer => ?_
  cases answer with
  | error e => exact .done rfl
  | ok result => exact inside result

/-- Where all calls of a kind and all log lines pair, so does the work of an attempt. -/
theorem work_pairs (a : Attempt) (asks : π.Pairs Eq (Program.call a.call) (Program.call a.call))
    (lists : π.Pairs Eq (Program.call (.listSecrets a.ns)) (Program.call (.listSecrets a.ns)))
    (applies : ∀ p, π.Pairs Eq (Program.call (.applyPodDefault p))
      (Program.call (.applyPodDefault p)))
    (logs : ∀ event, π.Pairs Eq (Program.record event) (Program.record event)) :
    π.Pairs Eq a.work a.work := by
  refine calling_pairs asks fun result => ?_
  have reconciles : π.Pairs Eq (Registry.reconcile a.ns) (Registry.reconcile a.ns) := by
    refine .ask lists fun answer => ?_
    cases answer with
    | error e => exact .done rfl
    | ok names =>
        refine .ask (applies _) fun answer => ?_
        cases answer with
        | error e => exact .done rfl
        | ok => exact .log (logs _) (.done rfl)
  refine .log (logs _) (.bind_eq ?_ fun result => ?_)
  · refine reconciles.bind_eq fun result => ?_
    cases result with
    | error e => exact .log (logs _) (.done rfl)
    | ok => exact .done rfl
  · cases result <;> exact .done rfl

/-- A probe pairs with itself when it is answered alike. -/
theorem readiness_pairs
    (asks : π.Pairs Eq (Program.call .serverVersion) (Program.call .serverVersion))
    (logs : ∀ e, π.Pairs Eq (Program.record (.readinessFailed e))
      (Program.record (.readinessFailed e))) (clock clock' : Clock) :
    π.Pairs (Response.Redated clock clock') (Server.readiness clock) (Server.readiness clock') := by
  refine .ask asks fun answer => ?_
  cases answer with
  | ok version => exact .done (.ready version)
  | error e => exact .log (logs e) (.done .unready)

namespace Serves

/-- A failure on this side is remarked upon. -/
theorem failure_pairs (serves : π.Serves settings settings' headers) (failure : Failure) :
    π.Pairs (Response.Redated clock clock') (failure.answer clock.now)
      (failure.answer clock'.now) := by
  cases failure with
  | internal message =>
      exact .log (serves.remarks _ (.internalFailure message)) (.done (.failure (.internal message)))
  | forbidden message => exact .done (.failure (.forbidden message))
  | badRequest message => exact .done (.failure (.badRequest message))

theorem conclude_pairs (serves : π.Serves settings settings' headers) (attempt : String)
    (success : α → Json) (outcome : Except ServiceError α) :
    π.Pairs (Response.Redated clock clock') (Server.conclude clock attempt success outcome)
      (Server.conclude clock' attempt success outcome) := by
  cases outcome with
  | ok a => exact .done (.same _)
  | error e => exact serves.failure_pairs _

theorem create_pairs (serves : π.Serves settings settings' headers)
    (submission : CredentialRequest) :
    π.Pairs Eq (Registry.create settings headers submission)
      (Registry.create settings' headers submission) := by
  rw [Registry.create_eq, Registry.create_eq]
  cases submission.complete? with
  | none => exact .done rfl
  | some c =>
      exact gated_pairs (serves.gate _) (fun _ => rfl)
        (gated_pairs (serves.gate _) (fun _ => rfl) (serves.work _))

theorem delete_pairs (serves : π.Serves settings settings' headers) (ns name : String) :
    π.Pairs Eq (Registry.delete settings headers ns name)
      (Registry.delete settings' headers ns name) :=
  gated_pairs (serves.gate _) (fun _ => rfl)
    (gated_pairs (serves.gate _) (fun _ => rfl) (serves.work (.removal ns name)))

theorem list_pairs (serves : π.Serves settings settings' headers) (ns : String) :
    π.Pairs Eq (Registry.list settings headers ns) (Registry.list settings' headers ns) :=
  gated_pairs (serves.gate _) (fun _ => rfl)
    (calling_pairs (serves.listSecrets ns) fun _ => .done rfl)

theorem submitted_pairs (serves : π.Serves settings settings' headers) (r : Request) :
    π.Pairs Eq (Server.submitted r) (Server.submitted r) := by
  unfold Server.submitted
  cases r.json? with
  | some body => exact .done rfl
  | none => exact .log (serves.remarks _ .bodyRejected) (.done rfl)

theorem listPodDefaults_pairs (serves : π.Serves settings settings' r.headers) (ns : String) :
    π.Pairs (Response.Redated clock clock') (Server.listPodDefaults settings clock r ns)
      (Server.listPodDefaults settings' clock' r ns) := by
  refine (serves.gate _).bind_eq fun result => ?_
  cases result with
  | error e => exact serves.failure_pairs _
  | ok =>
      refine .ask (serves.listPodDefaults ns) fun answer => ?_
      cases answer with
      | error e => exact serves.failure_pairs _
      | ok ps => exact .log (serves.remarks _ (.podDefaultsListed ns ps.length)) (.done (.same _))

theorem serve_pairs (serves : π.Serves settings settings' r.headers) (route : Route) :
    π.Pairs (Response.Redated clock clock') (Server.serve settings clock r route)
      (Server.serve settings' clock' r route) := by
  cases route with
  | createSecret =>
      refine (serves.submitted_pairs r).bind_eq fun submission => ?_
      exact (serves.create_pairs submission).bind_eq fun outcome => serves.conclude_pairs _ _ outcome
  | listSecrets ns =>
      exact (serves.list_pairs ns).bind_eq fun outcome => serves.conclude_pairs _ _ outcome
  | deleteSecret ns name =>
      exact (serves.delete_pairs ns name).bind_eq fun outcome => serves.conclude_pairs _ _ outcome
  | listPodDefaults ns => exact serves.listPodDefaults_pairs ns
  | liveness => exact .done .alive
  | readiness => exact serves.readiness clock clock'

/-- A request pairs with itself, at two times and behind two gates. -/
theorem answer_pairs (serves : π.Serves settings settings' r.headers) (clock clock' : Clock) :
    π.Pairs (Response.Redated clock clock') (Server.answer settings clock r)
      (Server.answer settings' clock' r) := by
  unfold Server.answer
  cases Route.ofPath? r.path with
  | none => exact .done (.same _)
  | some route =>
      have dispatched : π.Pairs (Response.Redated clock clock')
          (Server.dispatch settings clock r route) (Server.dispatch settings' clock' r route) := by
        unfold Server.dispatch
        cases route.unescape with
        | error param => exact .done (.same _)
        | ok route => exact serves.serve_pairs route
      dsimp only
      split
      · exact dispatched
      · split
        · exact dispatched.bind fun a b inside => .done (.bare inside)
        · exact .done (.same _)

end Serves

end Requests

end Pairing

/-- Whether a call looks at what a cluster stores. -/
def Call.Looks : Call → Prop
  | .review .. | .serverVersion => False
  | _ => True

theorem Attempt.call_looks (a : Attempt) : a.call.Looks := by
  cases a <;> trivial

/-- Who reviews and whether there is a sign of life do not come into what is stored. -/
theorem MemoryCluster.answers_congr {m m' : MemoryCluster} {call : Call}
    (store : m.store = m'.store)
    (faults : { m.faults with serverVersion := none } = { m'.faults with serverVersion := none })
    (looks : call.Looks) : (answers call m).1 = (answers call m').1 := by
  obtain ⟨store, reviewer, ⟨create, list, delete, apply, listPodDefaults, probe⟩, version⟩ := m
  obtain ⟨store', reviewer', ⟨create', list', delete', apply', listPodDefaults', probe'⟩,
    version'⟩ := m'
  cases store
  cases faults
  cases call with
  | review | serverVersion => exact looks.elim
  | createSecret c =>
      simp only [answers, sparing]
      cases create with
      | some e => rfl
      | none => cases store.secrets.contains c.key <;> rfl
  | deleteSecret ns name =>
      simp only [answers, sparing]
      cases delete with
      | some e => rfl
      | none => cases store.secrets.contains ⟨ns, name⟩ <;> rfl
  | listSecrets ns => cases list <;> rfl
  | applyPodDefault p => cases apply <;> rfl
  | listPodDefaults ns => cases listPodDefaults <;> rfl

namespace Session

theorem records_cons (settings : AccessSettings) (m : MemoryCluster) (event : Event)
    (events : List Event) : records settings m (event :: events) =
      records settings m [event] ++ records settings (final settings m [event]) events := by
  cases event <;> rfl

theorem final_cons (settings : AccessSettings) (m : MemoryCluster) (event : Event)
    (events : List Event) :
    final settings m (event :: events) = final settings (final settings m [event]) events := by
  cases event <;> rfl

/-- What one event keeps up in two sessions, all of their events do. -/
theorem pairs {settings settings' : AccessSettings}
    {states : MemoryCluster → MemoryCluster → Prop} {alike : Event → Event → Prop}
    {shows : Record → Record → Prop}
    (step : ∀ m m' event event', states m m' → alike event event' →
      List.Forall₂ shows (records settings m [event]) (records settings' m' [event']) ∧
        states (final settings m [event]) (final settings' m' [event']))
    {events events' : List Event} (pairs : List.Forall₂ alike events events')
    {m m' : MemoryCluster} (start : states m m') :
    List.Forall₂ shows (records settings m events) (records settings' m' events') ∧
      states (final settings m events) (final settings' m' events') := by
  induction pairs generalizing m m' with
  | nil => exact ⟨.nil, start⟩
  | @cons event event' events events' first later ih =>
      obtain ⟨here, corresponds⟩ := step _ _ _ _ start first
      obtain ⟨rest, last⟩ := ih corresponds
      rw [records_cons settings m, records_cons settings' m', final_cons settings m event events,
        final_cons settings' m' event' events']
      exact ⟨List.rel_append here rest, last⟩

end Session

end PullSecrets
