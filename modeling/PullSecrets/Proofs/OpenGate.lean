import PullSecrets.Proofs.Independence
import PullSecrets.Proofs.Pairs

/-! # The open gate

While the gate stands open nobody is asked. A session behind it goes like one in which the gate is
shut, every request names its user, and the reviewer allows everything
(`open_gate_as_allowing`): the responses, the calls beside reviews with their answers, and the
stores are the same.
-/

namespace PullSecrets

variable {σ : Type} {settings : AccessSettings} {headers : Headers} {m : MemoryCluster}

/-- The settings with the gate left open. -/
def AccessSettings.opened (settings : AccessSettings) : AccessSettings :=
  { settings with disabled := true }

/-- The settings with the gate shut. -/
def AccessSettings.shut (settings : AccessSettings) : AccessSettings :=
  { settings with disabled := false }

/-- The reviewer that allows everything. -/
def Reviewer.allowing : Reviewer := fun _ _ => .ok true

namespace Step

/-- Whether a step asks something of the cluster other than a review. -/
def isOperation : Step → Bool
  | .asked (.review ..) _ | .logged _ => false
  | .asked .. => true

end Step

/-- The calls among some steps that are no reviews, with their answers. -/
def operations (steps : List Step) : List Step := steps.filter Step.isOperation

theorem operations_append (steps more : List Step) :
    operations (steps ++ more) = operations steps ++ operations more := List.filter_append ..

namespace Pairing

/-- Runs in which nothing is reviewed. -/
def unreviewed (answers : Answers σ) : Pairing σ σ :=
  .alone answers (fun steps => reviews steps = []) rfl fun _ _ first later => by
    rw [reviews_append, first, later, List.append_nil]

theorem unreviewed_serves (settings : AccessSettings) (headers : Headers) (answers : Answers σ) :
    (unreviewed answers).Serves settings.opened settings.opened headers where
  gate _ := .done rfl
  work a := by
    refine work_pairs a (call_alone fun answer => ?_) (call_alone fun _ => rfl)
      (fun _ => call_alone fun _ => rfl) fun _ => .record rfl
    cases a <;> rfl
  listSecrets _ := call_alone fun _ => rfl
  listPodDefaults _ := call_alone fun _ => rfl
  readiness := readiness_pairs (call_alone fun _ => rfl) fun _ => .record rfl
  remarks _ _ := .record rfl

/-- Runs behind the open gate beside runs behind the shut one, where everything is allowed. -/
def bypass : Pairing MemoryCluster MemoryCluster where
  answers := MemoryCluster.answers
  answers' := MemoryCluster.answers
  states m m' := m' = { m with reviewer := .allowing }
  steps steps steps' := operations steps = operations steps'
  nil := rfl
  append _ _ _ _ first later := by rw [operations_append, operations_append, first, later]

/-- Where everything is allowed, a user who is known passes the shut gate, and leaves nothing behind
but a review and two lines. -/
theorem shut_gate_run {user : String} (known : userOf? settings headers = some user)
    (action : Action) (m : MemoryCluster) :
    let m' := { m with reviewer := .allowing }
    (ensureAllowed settings.shut headers action).run MemoryCluster.answers m' =
      (.ok (), [.logged (.userResolved user settings.userHeader),
        .asked (.review user action) (.ok true), .logged (.accessAllowed user action)], m') := by
  intro m'
  have asks : ensureAllowed settings.shut headers action = _ := if_neg Bool.false_ne_true
  have same : Identity.ofHeaders settings.shut headers = Identity.ofHeaders settings headers := rfl
  rw [asks, identify, same]
  unfold userOf? at known
  cases found : Identity.ofHeaders settings headers with
  | absent | unusable => simp [found, Identity.user?] at known
  | user name =>
      obtain rfl : name = user := by simpa [found, Identity.user?] using known
      rfl

theorem bypass_gate {user : String} (known : userOf? settings headers = some user)
    (action : Action) : bypass.Pairs Eq (ensureAllowed settings.opened headers action)
      (ensureAllowed settings.shut headers action) := by
  rintro m m' rfl
  have passes := shut_gate_run known action m
  simp only [bypass] at passes ⊢
  rw [passes]
  exact ⟨rfl, rfl, rfl⟩

theorem bypass_call {call : Call} (looks : call.Looks) :
    bypass.Pairs Eq (Program.call call) (Program.call call) := by
  refine .call ?_ fun answer => rfl
  rintro m m' rfl
  have same : (MemoryCluster.answers call m).1 =
      (MemoryCluster.answers call { m with reviewer := .allowing }).1 :=
    MemoryCluster.answers_congr rfl rfl looks
  refine ⟨same, ?_⟩
  simp only [bypass, MemoryCluster.answers_replays, ← same]
  rfl

theorem bypass_probe :
    bypass.Pairs Eq (Program.call .serverVersion) (Program.call .serverVersion) := by
  refine .call ?_ fun answer => rfl
  rintro ⟨store, reviewer, ⟨_, _, _, _, _, probe⟩, version⟩ m' rfl
  cases probe <;> exact ⟨rfl, rfl⟩

theorem bypass_serves {user : String} (known : userOf? settings headers = some user) :
    bypass.Serves settings.opened settings.shut headers where
  gate := bypass_gate known
  work a := work_pairs a (bypass_call a.call_looks) (bypass_call trivial)
    (fun _ => bypass_call trivial) fun _ => .record rfl
  listSecrets _ := bypass_call trivial
  listPodDefaults _ := bypass_call trivial
  readiness := readiness_pairs bypass_probe fun _ => .record rfl
  remarks _ _ := .record rfl

end Pairing

/-- Events of two sessions: requests by a known user at two times, and rules of which one set allows
everything. -/
inductive Event.Bypassed (settings : AccessSettings) : Event → Event → Prop where
  | request {clock clock' : Clock} {r : Request} {user : String}
      (known : userOf? settings r.headers = some user) :
      Bypassed settings (.perform (.request clock r)) (.perform (.request clock' r))
  | replace (reviewer : Reviewer) (faults : Faults) :
      Bypassed settings (.replace reviewer faults) (.replace .allowing faults)

/-- Records of two requests that went alike but for reviews, lines in the log and the clock. -/
structure Record.Bypassed (a b : Record) : Prop where
  before : a.before.store = b.before.store
  responses : ∃ response response', a.outcome = .answered response ∧
    b.outcome = .answered response' ∧ response.undated = response'.undated
  operations : operations a.steps = operations b.steps
  after : a.after.store = b.after.store

theorem request_bypassed {r : Request} {user : String}
    (known : userOf? settings r.headers = some user) (clock clock' : Clock) (m : MemoryCluster) :
    let m' := { m with reviewer := .allowing }
    let a := (Operation.request clock r).perform settings.opened m
    let b := (Operation.request clock' r).perform settings.shut m'
    a.Bypassed b ∧ b.after = { a.after with reviewer := .allowing } := by
  intro m' a b
  obtain ⟨responses, operations, after⟩ :=
    (Pairing.bypass_serves known).answer_pairs clock clock' m m' rfl
  simp only [a, b, Operation.perform_request]
  refine ⟨⟨rfl, ⟨_, _, rfl, rfl, responses.undated⟩, operations, ?_⟩, after⟩
  exact (congrArg MemoryCluster.store after).symm

theorem request_unreviewed (settings : AccessSettings) (clock : Clock) (r : Request)
    (m : MemoryCluster) :
    reviews ((Operation.request clock r).perform settings.opened m).steps = [] := by
  rw [Operation.perform_request]
  have serves := Pairing.unreviewed_serves settings r.headers MemoryCluster.answers
  exact (serves.answer_pairs clock clock).holds m

/-- A session behind the open gate, under any reviewers, goes like one behind the shut gate in which
everything is allowed and every request names its user. Behind the open gate nothing is reviewed,
whoever asks. -/
theorem open_gate_as_allowing (settings : AccessSettings) (m : MemoryCluster)
    {events events' : List Event}
    (bypassed : List.Forall₂ (Event.Bypassed settings) events events') :
    List.Forall₂ Record.Bypassed (Session.records settings.opened m events)
        (Session.records settings.shut { m with reviewer := .allowing } events') ∧
      ∀ visits : List Event, ∀ record ∈ Session.records settings.opened m visits,
        ∀ clock r, record.operation = .request clock r → reviews record.steps = [] := by
  constructor
  · have start : Pairing.bypass.states m { m with reviewer := .allowing } := rfl
    refine (Session.pairs (fun m m' event event' states pair => ?_) bypassed start).1
    cases states
    cases pair with
    | @request clock clock' r user known =>
        obtain ⟨shows, after⟩ := request_bypassed known clock clock' m
        exact ⟨.cons shows .nil, after⟩
    | replace reviewer faults => exact ⟨.nil, rfl⟩
  · intro visits record member clock r sent
    rw [Session.performed settings.opened member, sent]
    exact request_unreviewed settings clock r record.before

/-- A reviewer that denies everything does not keep a secret from being removed through the open
gate. -/
theorem open_gate_as_allowing_removal :
    let al : Header := ⟨"kubeflow-userid", Text.encode ":al", by decide, by decide⟩
    let r : Request := ⟨"DELETE", "/api/secrets/delete/team/quay", [al], []⟩
    let m : MemoryCluster :=
      { store := { secrets := SortedMap.empty.insert ⟨"team", "quay"⟩ Secret.registryType },
        reviewer := fun _ _ => .ok false }
    let events : List Event := [.perform (.request ⟨⟨0, 0⟩, 0⟩ r)]
    let events' : List Event := [.perform (.request ⟨⟨9, 0⟩, 7⟩ r)]
    let records := Session.records (AccessSettings.opened {}) m events
    let records' := Session.records (AccessSettings.shut {}) { m with reviewer := .allowing } events'
    (records.map fun record => calls record.steps) =
        [[.deleteSecret "team" "quay", .listSecrets "team",
          .applyPodDefault (.ofSecretNames "team" [])]] ∧
      (records'.map fun record => reviews record.steps) =
        [[("al", .secrets "delete" "team", .ok true),
          ("al", .podDefaults "create" "team", .ok true)]] ∧
      List.Forall₂ (Event.Bypassed {}) events events' ∧
      List.Forall₂ Record.Bypassed records records' := by
  intro al r m events events' records records'
  have known : userOf? {} r.headers = some "al" := by decide
  have bypassed : List.Forall₂ (Event.Bypassed {}) events events' := .cons (.request known) .nil
  exact ⟨by decide +kernel, by decide +kernel, bypassed, (open_gate_as_allowing {} m bypassed).1⟩

end PullSecrets
