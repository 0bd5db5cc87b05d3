import Mathlib.Data.List.Forall2
import PullSecrets.Proofs.Replies
import PullSecrets.Proofs.Session

/-! # Credentials stay confidential

Of a credential, only the place where it is stored has an effect that can be seen. `Program.seen` is
what shows of a run in memory once credentials are withheld from its steps, log lines included; to
create a secret shows the same for any two credentials with one place (`seen_creation`), and so
does a session in which one is submitted for the other (`credentials_confidential`).
-/

namespace PullSecrets

variable {α β : Type} {settings : AccessSettings} {headers : Headers} {m : MemoryCluster}

/-- A credential of which only the place is told. -/
def Credential.withheld (c : Credential) : Credential :=
  { ns := c.ns, name := c.name, registry := "", username := "", password := "", email := "" }

def Step.redacted : Step → Step
  | .asked (.createSecret c) answer => .asked (.createSecret c.withheld) answer
  | step => step

namespace Program

/-- What shows of a run in memory when credentials are withheld. -/
def seen (p : Program α) (m : MemoryCluster) : α × List Step × MemoryCluster :=
  let (a, steps, after) := p.run MemoryCluster.answers m
  (a, steps.map Step.redacted, after)

theorem seen_ask (call : Call) (next : call.Answer → Program α) :
    (ask call next).seen m =
      let (answer, after) := MemoryCluster.answers call m
      let (a, steps, last) := (next answer).seen after
      (a, (Step.asked call answer).redacted :: steps, last) := rfl

theorem seen_createSecret {c : Credential} {next other : Except ClusterError Unit → Program α}
    (same : ∀ answer m, (next answer).seen m = (other answer).seen m) (m : MemoryCluster) :
    (ask (.createSecret c) next).seen m = (ask (.createSecret c.withheld) other).seen m := by
  -- the cluster looks at the place of the secret and at nothing else
  have answered : MemoryCluster.answers (.createSecret c) m =
      MemoryCluster.answers (.createSecret c.withheld) m := rfl
  rw [seen_ask, seen_ask, answered]
  simp only [same]
  rfl

theorem seen_bind (p : Program α) (f : α → Program β) :
    (p >>= f).seen m =
      let (a, steps, after) := p.seen m
      let (b, more, last) := (f a).seen after
      (b, steps ++ more, last) := by
  simp only [seen, run_bind, List.map_append]

end Program

theorem gated_seen {action : Action} {next other : Program (Except ServiceError α)}
    (same : ∀ m, next.seen m = other.seen m) (m : MemoryCluster) :
    (Registry.gated settings headers action next).seen m =
      (Registry.gated settings headers action other).seen m := by
  unfold Registry.gated
  rw [Program.seen_bind, Program.seen_bind]
  obtain ⟨result, steps, after⟩ := (ensureAllowed settings headers action).seen m
  cases result with
  | error e => rfl
  | ok => simp only [same]

theorem work_seen (c : Credential) (m : MemoryCluster) :
    (Attempt.creation c).work.seen m = (Attempt.creation c.withheld).work.seen m := by
  refine Program.seen_createSecret (fun answer m => ?_) m
  cases answer with
  | error e => rfl
  | ok => rfl

/-- To create a secret shows no more than its place. -/
theorem seen_creation (c : Credential) (m : MemoryCluster) :
    ((Attempt.creation c).program settings headers).seen m =
      ((Attempt.creation c.withheld).program settings headers).seen m :=
  gated_seen (gated_seen (work_seen c)) m

theorem conclude_seen (trial : String) (result : Except ServiceError String) :
    ∃ steps, ∀ clock m,
      (Server.conclude clock trial (fun m => MessageResponse.toJson ⟨m⟩) result).seen m =
        (Server.told clock trial (fun m => MessageResponse.toJson ⟨m⟩) result, steps, m) := by
  cases result with
  | ok message => exact ⟨[], fun clock m => rfl⟩
  | error e =>
      cases e with
      | incomplete => exact ⟨[], fun clock m => rfl⟩
      | unauthorized | cluster => exact ⟨[.logged (.internalFailure _)], fun clock m => rfl⟩

/-- The outcome but for the time that a response bears. -/
def Outcome.timeless : Outcome → Outcome
  | .answered response => .answered response.timeless
  | outcome => outcome

/-- Records that cannot be told apart: the clusters before and after, the outcome but for the time,
and the steps but for the credentials. -/
structure Record.Alike (a b : Record) : Prop where
  before : a.before = b.before
  outcome : a.outcome.timeless = b.outcome.timeless
  steps : a.steps.map Step.redacted = b.steps.map Step.redacted
  after : a.after = b.after

/-- Events that are the same, or requests by one caller to create a secret in one place. -/
inductive Event.Alike : Event → Event → Prop where
  | refl (event : Event) : Event.Alike event event
  | creation {clock clock' : Clock} {r r' : Request} {c c' : Credential}
      (served : r.route? = some .createSecret) (served' : r'.route? = some .createSecret)
      (headers : r.headers = r'.headers)
      (complete : r.submission.complete? = some c) (complete' : r'.submission.complete? = some c')
      (ns : c.ns = c'.ns) (name : c.name = c'.name) :
      Event.Alike (.perform (.request clock r)) (.perform (.request clock' r'))

theorem Record.Alike.refl (record : Record) : record.Alike record := ⟨rfl, rfl, rfl, rfl⟩

/-- What shows of a request to create a secret is the place of the secret, and the time. -/
theorem answer_seen (settings : AccessSettings) :
    ∃ more : Except ServiceError String → List Step, ∀ clock r c m,
      r.attempt? = some (.creation c) →
        (Server.answer settings clock r).seen m =
          let (result, steps, after) :=
            ((Attempt.creation c.withheld).program settings r.headers).seen m
          (Server.tell clock (.creation c) result, steps ++ more result, after) := by
  choose more told using conclude_seen (Attempt.creation default).trial
  refine ⟨more, fun clock r c m attempted => ?_⟩
  have told (result : Except ServiceError String) (m : MemoryCluster) :
      (Server.conclude clock (Attempt.creation c).trial (fun m => MessageResponse.toJson ⟨m⟩)
        result).seen m = (Server.tell clock (.creation c) result, more result, m) :=
    told result clock m
  rw [Server.answer_of_attempt attempted, Program.seen_bind, seen_creation]
  simp only [told]

theorem perform_alike (settings : AccessSettings) (clock clock' : Clock) {r r' : Request}
    {c c' : Credential} (attempted : r.attempt? = some (.creation c))
    (attempted' : r'.attempt? = some (.creation c')) (headers : r.headers = r'.headers)
    (same : c.withheld = c'.withheld) (m : MemoryCluster) :
    ((Operation.request clock r).perform settings m).Alike
      ((Operation.request clock' r').perform settings m) := by
  obtain ⟨more, told⟩ := answer_seen settings
  have seen := told clock r c m attempted
  have seen' := told clock' r' c' m attempted'
  rw [← headers, ← same] at seen'
  generalize ((Attempt.creation c.withheld).program settings r.headers).seen m = shown at seen seen'
  obtain ⟨result, steps, after⟩ := shown
  simp only [Program.seen, Prod.mk.injEq] at seen seen'
  rw [Operation.perform_request, Operation.perform_request]
  refine ⟨rfl, ?_, seen.2.1.trans seen'.2.1.symm, seen.2.2.trans seen'.2.2.symm⟩
  simp only [Outcome.timeless, seen.1, seen'.1]
  exact congrArg Outcome.answered (Server.tell_timeless clock clock' _ result)

theorem Session.alike (settings : AccessSettings) {events events' : List Event}
    (alike : List.Forall₂ Event.Alike events events') (m : MemoryCluster) :
    List.Forall₂ Record.Alike (records settings m events) (records settings m events') ∧
      final settings m events = final settings m events' := by
  induction alike generalizing m with
  | nil => exact ⟨.nil, rfl⟩
  | @cons event _ _ _ first later ih =>
      cases first with
      | refl =>
          cases event with
          | replace reviewer faults => exact ih _
          | perform operation =>
              obtain ⟨records, final⟩ := ih (operation.perform settings m).after
              exact ⟨.cons (.refl _) records, final⟩
      | @creation clock clock' r r' c c' served served' headers complete complete' ns name =>
          have same : c.withheld = c'.withheld := by simp only [Credential.withheld, ns, name]
          have here := perform_alike settings clock clock'
            (attempt_of_complete served complete) (attempt_of_complete served' complete')
            headers same m
          obtain ⟨records, final⟩ := ih ((Operation.request clock r).perform settings m).after
          refine ⟨.cons here ?_, final.trans ?_⟩
          · rwa [← here.after]
          · rw [here.after]
            rfl

/-- Whatever registry, user, password and address are submitted for a secret, alike in two sessions
but for these: each request gets the same answer, is reviewed and logged alike, makes the same calls
but for the credential that it stores, and leaves the same cluster. The forms for diagnosis do not
show a password either. -/
theorem credentials_confidential (settings : AccessSettings) (m : MemoryCluster)
    {events events' : List Event} (alike : List.Forall₂ Event.Alike events events') :
    List.Forall₂ Record.Alike (Session.records settings m events)
        (Session.records settings m events') ∧
      Session.final settings m events = Session.final settings m events' ∧
      (∀ (r : CredentialRequest) (password password' : String),
        { r with password := some password }.diagnosis =
          { r with password := some password' }.diagnosis) ∧
      ∀ (c : Credential) (password password' : String),
        { c with password := password }.diagnosis = { c with password := password' }.diagnosis := by
  obtain ⟨records, final⟩ := Session.alike settings alike m
  exact ⟨records, final, fun r password password' => rfl, fun c password password' => rfl⟩

/-- Two sessions that store different credentials in one place and then list it. -/
theorem credentials_confidential_resubmission :
    let al : Header := ⟨"kubeflow-userid", Text.encode ":al", by decide, by decide⟩
    let json : Header := ⟨"content-type", Text.encode "application/json", by decide, by decide⟩
    let session (registry username password email : String) : List Event :=
      let submission : CredentialRequest :=
        ⟨some "team", some "quay", some registry, some username, some password, some email⟩
      [.perform (.request ⟨⟨0, 0⟩, 0⟩
          ⟨"POST", "/api/secrets/create", [al, json], Text.encode submission.toJson.text⟩),
        .perform (.list [al] "team")]
    let events := session "r" "u" "p" "e"
    let events' := session "s" "v" "q" "f"
    let stored (events : List Event) : List Call :=
      (Session.records {} {} events).flatMap fun record => record.steps.filterMap Step.call?
    (.createSecret ⟨"team", "quay", "r", "u", "p", "e"⟩ ∈ stored events ∧
        .createSecret ⟨"team", "quay", "s", "v", "q", "f"⟩ ∈ stored events') ∧
      List.Forall₂ Event.Alike events events' ∧
      List.Forall₂ Record.Alike (Session.records {} {} events) (Session.records {} {} events') := by
  intro al json session events events' stored
  have alike : List.Forall₂ Event.Alike events events' := by
    refine .cons ?_ (.cons (.refl _) .nil)
    exact @Event.Alike.creation _ _ _ _ ⟨"team", "quay", "r", "u", "p", "e"⟩
      ⟨"team", "quay", "s", "v", "q", "f"⟩ (by decide +kernel) (by decide +kernel) rfl
      (by decide +kernel) (by decide +kernel) rfl rfl
  exact ⟨by decide +kernel, alike, (credentials_confidential {} {} alike).1⟩

end PullSecrets
