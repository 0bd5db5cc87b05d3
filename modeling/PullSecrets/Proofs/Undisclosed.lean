import PullSecrets.Proofs.Pairs

/-! # Failures stay undisclosed

Why a review failed, or a sign of life, is told to the log alone. Two sessions in which reviews and
probes fail at the same places, but for different reasons, give the same responses, do the same and
leave the same clusters behind; their logs differ in the field that tells the reason
(`failures_undisclosed`).
-/

namespace PullSecrets

/-- Two answers that are the same result, or both a failure. -/
inductive FailAlike {α : Type} : Except ClusterError α → Except ClusterError α → Prop where
  | ok (a : α) : FailAlike (.ok a) (.ok a)
  | error (e e' : ClusterError) : FailAlike (.error e) (.error e')

/-- Two lines that are the same but for the reason that they give. -/
inductive LogEvent.SameButReason : LogEvent → LogEvent → Prop where
  | same (event : LogEvent) : SameButReason event event
  | reviewFailed (user : String) (action : Action) (e e' : ClusterError) :
      SameButReason (.reviewFailed user action e) (.reviewFailed user action e')
  | readinessFailed (e e' : ClusterError) : SameButReason (.readinessFailed e) (.readinessFailed e')

/-- Two steps that are the same but for the reason why a review or a probe failed. -/
inductive Step.SameButReason : Step → Step → Prop where
  | logged {event event' : LogEvent} (same : event.SameButReason event') :
      SameButReason (.logged event) (.logged event')
  | asked (call : Call) (answer : call.Answer) :
      SameButReason (.asked call answer) (.asked call answer)
  | reviewed (user : String) (action : Action) {answer answer' : Except ClusterError Bool}
      (alike : FailAlike answer answer') :
      SameButReason (.asked (.review user action) answer) (.asked (.review user action) answer')
  | probed {answer answer' : Except ClusterError String} (alike : FailAlike answer answer') :
      SameButReason (.asked .serverVersion answer) (.asked .serverVersion answer')

/-- Two reviewers that fail on the same questions and give the same answers to the others. -/
def Reviewer.SameButReason (reviewer reviewer' : Reviewer) : Prop :=
  ∀ user action, FailAlike (reviewer user action) (reviewer' user action)

/-- Faults that are the same but for the reason why there is no sign of life. -/
structure Faults.SameButReason (faults faults' : Faults) : Prop where
  others : { faults with serverVersion := none } = { faults' with serverVersion := none }
  probe : faults.serverVersion.isSome = faults'.serverVersion.isSome

/-- Clusters that are the same but for the reasons why reviews and probes fail. -/
structure MemoryCluster.SameButReason (m m' : MemoryCluster) : Prop where
  store : m.store = m'.store
  version : m.version = m'.version
  reviewer : m.reviewer.SameButReason m'.reviewer
  faults : m.faults.SameButReason m'.faults

namespace Pairing

variable {settings : AccessSettings} {headers : Headers}

/-- Runs in which calls fail for different reasons. -/
def undisclosed : Pairing MemoryCluster MemoryCluster where
  answers := MemoryCluster.answers
  answers' := MemoryCluster.answers
  states := MemoryCluster.SameButReason
  steps := List.Forall₂ Step.SameButReason
  nil := .nil
  append _ _ _ _ first later := List.rel_append first later

theorem undisclosed_record {event event' : LogEvent} (same : event.SameButReason event') :
    undisclosed.Pairs Eq (Program.record event) (Program.record event') :=
  fun _ _ alike => ⟨rfl, .cons (.logged same) .nil, alike⟩

theorem undisclosed_call {call : Call} (looks : call.Looks) :
    undisclosed.Pairs Eq (Program.call call) (Program.call call) := by
  refine .call (fun m m' alike => ?_) fun answer => .cons (.asked call answer) .nil
  have same := MemoryCluster.answers_congr alike.store alike.faults.others looks
  refine ⟨same, ?_⟩
  simp only [undisclosed, MemoryCluster.answers_replays, ← same]
  refine ⟨?_, alike.version, alike.reviewer, alike.faults⟩
  simp only [MemoryCluster.withStore_store, alike.store]

/-- The gate tells the caller that a review failed, and the log why. -/
theorem undisclosed_review (user : String) (action : Action) :
    undisclosed.Pairs Eq (.ask (.review user action) (reviewed user action))
      (.ask (.review user action) (reviewed user action)) := by
  have asks : undisclosed.Pairs FailAlike (Program.call (.review user action))
      (Program.call (.review user action)) := by
    intro m m' alike
    have answers := alike.reviewer user action
    exact ⟨answers, .cons (.reviewed user action answers) .nil, alike⟩
  refine asks.bind fun answer answer' alike => ?_
  cases alike with
  | ok allowed => cases allowed <;> exact .log (undisclosed_record (.same _)) (.done rfl)
  | error e e' =>
      have lines := undisclosed_record (.reviewFailed user action e e')
      exact lines.bind_eq fun _ => .done rfl

theorem undisclosed_readiness (clock clock' : Clock) :
    undisclosed.Pairs (Response.Redated clock clock') (Server.readiness clock)
      (Server.readiness clock') := by
  have probes : undisclosed.Pairs FailAlike (Program.call .serverVersion)
      (Program.call .serverVersion) := by
    intro m m' alike
    have probe := alike.faults.probe
    simp only [undisclosed, Program.call, Program.run, MemoryCluster.answers,
      MemoryCluster.sparing]
    cases fails : m.faults.serverVersion with
    | none =>
        have none : m'.faults.serverVersion = none := by simpa [fails] using probe.symm
        simp only [none, alike.version]
        exact ⟨.ok _, .cons (.probed (.ok _)) .nil, alike⟩
    | some e =>
        obtain ⟨e', some⟩ : ∃ e', m'.faults.serverVersion = some e' := by
          simpa [fails, Option.isSome_iff_exists] using probe.symm
        simp only [some]
        exact ⟨.error e e', .cons (.probed (.error e e')) .nil, alike⟩
  refine probes.bind fun answer answer' alike => ?_
  cases alike with
  | ok version => exact .done (.ready version)
  | error e e' =>
      have lines := undisclosed_record (.readinessFailed e e')
      exact lines.bind_eq fun _ => .done .unready

theorem undisclosed_serves (settings : AccessSettings) (headers : Headers) :
    undisclosed.Serves settings settings headers where
  gate _ := ensureAllowed_pairs (fun event _ => undisclosed_record (.same event))
    fun user => undisclosed_review user _
  work a := work_pairs a (undisclosed_call a.call_looks) (undisclosed_call trivial)
    (fun _ => undisclosed_call trivial) fun event => undisclosed_record (.same event)
  listSecrets _ := undisclosed_call trivial
  listPodDefaults _ := undisclosed_call trivial
  readiness := undisclosed_readiness
  remarks event _ := undisclosed_record (.same event)

end Pairing

/-- Events of two sessions: one request at two times, or rules that fail for different reasons. -/
inductive Event.SameButReason : Event → Event → Prop where
  | request {clock clock' : Clock} (uptime : clock.uptime = clock'.uptime) (r : Request) :
      SameButReason (.perform (.request clock r)) (.perform (.request clock' r))
  | replace {reviewer reviewer' : Reviewer} {faults faults' : Faults}
      (reviewers : reviewer.SameButReason reviewer') (same : faults.SameButReason faults') :
      SameButReason (.replace reviewer faults) (.replace reviewer' faults')

/-- Records of two requests that went alike but for the reasons of failures and the time. -/
structure Record.SameButReason (a b : Record) : Prop where
  before : a.before.SameButReason b.before
  responses : ∃ response response', a.outcome = .answered response ∧
    b.outcome = .answered response' ∧ response.timeless = response'.timeless
  steps : List.Forall₂ Step.SameButReason a.steps b.steps
  after : a.after.SameButReason b.after

theorem request_undisclosed (settings : AccessSettings) {clock clock' : Clock}
    (uptime : clock.uptime = clock'.uptime) (r : Request) {m m' : MemoryCluster}
    (alike : m.SameButReason m') :
    ((Operation.request clock r).perform settings m).SameButReason
      ((Operation.request clock' r).perform settings m') := by
  obtain ⟨responses, steps, after⟩ :=
    (Pairing.undisclosed_serves settings r.headers).answer_pairs clock clock' m m' alike
  rw [Operation.perform_request, Operation.perform_request]
  exact ⟨alike, ⟨_, _, rfl, rfl, responses.timeless uptime⟩, steps, after⟩

/-- Two sessions in which reviews and probes fail at the same places, for whatever reasons: each
request gets the same response but for the time, is reviewed alike, makes the same calls and leaves
the same store, and the log differs in the reasons of these failures and in nothing else. -/
theorem failures_undisclosed (settings : AccessSettings) {m m' : MemoryCluster}
    (start : m.SameButReason m') {events events' : List Event}
    (alike : List.Forall₂ Event.SameButReason events events') :
    List.Forall₂ Record.SameButReason (Session.records settings m events)
        (Session.records settings m' events') ∧
      (Session.final settings m events).SameButReason (Session.final settings m' events') := by
  refine Session.pairs (fun m m' event event' states pair => ?_) alike start
  cases pair with
  | request uptime r =>
      have shows := request_undisclosed settings uptime r states
      exact ⟨.cons shows .nil, shows.after⟩
  | replace reviewers same => exact ⟨.nil, states.store, states.version, reviewers, same⟩

/-- A refused connection and a malformed answer, at different times, look the same to a caller who
lists secrets and asks for a sign of life. -/
theorem failures_undisclosed_listing :
    let al : Header := ⟨"kubeflow-userid", Text.encode ":al", by decide, by decide⟩
    let failing (e : ClusterError) : MemoryCluster :=
      { reviewer := fun _ _ => .error e, faults := { serverVersion := some e } }
    let m := failing (.internal "dial tcp 10.0.0.1:443: refused")
    let m' := failing (.malformed "SubjectAccessReview has no status")
    let session (seconds : Int) : List Event :=
      [.perform (.request ⟨⟨seconds, 0⟩, 5⟩ ⟨"GET", "/api/secrets/list/team", [al], []⟩),
        .perform (.request ⟨⟨seconds, 0⟩, 5⟩ ⟨"GET", "/readyz", [], []⟩)]
    let records := Session.records {} m (session 0)
    let records' := Session.records {} m' (session 9)
    (m.SameButReason m' ∧ List.Forall₂ Event.SameButReason (session 0) (session 9)) ∧
      (records.map fun record => record.steps.filterMap Step.event?) ≠
        (records'.map fun record => record.steps.filterMap Step.event?) ∧
      List.Forall₂ Record.SameButReason records records' := by
  intro al failing m m' session records records'
  have start : m.SameButReason m' := ⟨rfl, rfl, fun _ _ => .error _ _, rfl, rfl⟩
  have visit := @Event.SameButReason.request ⟨⟨0, 0⟩, 5⟩ ⟨⟨9, 0⟩, 5⟩ rfl
  have alike : List.Forall₂ Event.SameButReason (session 0) (session 9) :=
    .cons (visit _) (.cons (visit _) .nil)
  exact ⟨⟨start, alike⟩, by decide +kernel, (failures_undisclosed {} start alike).1⟩

end PullSecrets
