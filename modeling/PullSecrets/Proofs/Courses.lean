import PullSecrets.Proofs.Session
import PullSecrets.Proofs.Sync

/-! # What operations come to in memory

`Program.brief` keeps of a run in memory what lasts: its result, the changes it made to secrets and
the PodDefaults it stored. Each operation has one theorem about its brief, which says all it can do;
`Course` is the common form for creating and deleting. What a request comes to is what the
operation behind it comes to, told in a response.
-/

namespace PullSecrets

variable {α β : Type} {settings : AccessSettings} {headers : Headers} {m : MemoryCluster}

/-- What the gate answers, by the rules of a cluster in memory. -/
def Reviewer.verdict (reviewer : Reviewer) (settings : AccessSettings) (headers : Headers)
    (action : Action) : Except AccessError Unit :=
  if settings.disabled then .ok ()
  else
    match userOf? settings headers with
    | none => .error .unauthenticated
    | some user =>
        match reviewer user action with
        | .ok true => .ok ()
        | .ok false => .error (.denied user action)
        | .error _ => .error .engineUnavailable

/-- Whether the gate lets a caller do something. -/
def Reviewer.Admits (reviewer : Reviewer) (settings : AccessSettings) (headers : Headers)
    (action : Action) : Prop :=
  settings.disabled = true ∨
    ∃ user, userOf? settings headers = some user ∧ reviewer user action = .ok true

theorem Reviewer.verdict_eq_ok_iff {reviewer : Reviewer} {action : Action} :
    reviewer.verdict settings headers action = .ok () ↔
      reviewer.Admits settings headers action := by
  unfold verdict Admits
  split
  · next disabled => simp [disabled]
  · next enabled =>
      cases known : userOf? settings headers with
      | none => simp [enabled]
      | some user =>
          cases answer : reviewer user action with
          | error e => simp [enabled, answer]
          | ok allowed => cases allowed <;> simp [enabled, answer]

instance (reviewer : Reviewer) (action : Action) :
    Decidable (reviewer.Admits settings headers action) :=
  match answer : reviewer.verdict settings headers action with
  | .ok () => isTrue (Reviewer.verdict_eq_ok_iff.1 answer)
  | .error _ => isFalse fun admitted => by
      cases answer.symm.trans (Reviewer.verdict_eq_ok_iff.2 admitted)

namespace Program

/-- What lasts of a run in memory. -/
def brief (p : Program α) (m : MemoryCluster) : α × List Change × List PodDefault :=
  let (a, steps, _) := p.run MemoryCluster.answers m
  (a, changes steps, writes steps)

@[simp] theorem brief_log (event : LogEvent) (next : Program α) :
    (log event next).brief m = next.brief m := rfl

theorem brief_ask {call : Call} {answer : call.Answer} {after : MemoryCluster}
    (answered : MemoryCluster.answers call m = (answer, after)) (next : call.Answer → Program α) :
    (ask call next).brief m =
      let (a, cs, ps) := (next answer).brief after
      (a, changes [.asked call answer] ++ cs, writes [.asked call answer] ++ ps) := by
  simp only [brief, run, answered, changes, writes, ← List.filterMap_append,
    List.singleton_append]

/-- What fails leaves nothing behind. -/
theorem brief_ask_error {call : Call} {e : ClusterError} {after : MemoryCluster}
    (answered : MemoryCluster.answers call m = (.error e, after))
    (next : call.Answer → Program α) :
    (ask call next).brief m = (next (.error e)).brief after := by
  rw [brief_ask answered]
  cases call <;> rfl

theorem brief_bind (p : Program α) (f : α → Program β) :
    (p >>= f).brief m =
      let (a, cs, ps) := p.brief m
      let (b, ds, qs) := (f a).brief (m.withStore (m.store.revise cs ps))
      (b, cs ++ ds, ps ++ qs) := by
  have replayed := MemoryCluster.run_replays p m
  simp only [brief, run_bind, changes, writes, List.filterMap_append] at replayed ⊢
  rw [replayed]
  rfl

theorem Yields.brief {p : Program α} {a : α} (yields : p.Yields a) :
    p.brief m = (a, [], []) := by
  obtain ⟨events, result⟩ := yields.run MemoryCluster.answers m
  have silent {γ : Type} (of : Step → Option γ) (none : ∀ event, of (.logged event) = none) :
      (events.map Step.logged).filterMap of = [] := by
    simp [List.filterMap_map, none]
  unfold Program.brief changes writes
  rw [result]
  simp only [silent Step.change? fun _ => rfl, silent Step.podDefault? fun _ => rfl]

theorem brief_bind_of_yields {p : Program α} {f : α → Program β} {g : α → β}
    (yields : ∀ a, (f a).Yields (g a)) :
    (p >>= f).brief m = (g (p.brief m).1, (p.brief m).2) := by
  rw [brief_bind]
  simp only [(yields _).brief, List.append_nil]

theorem brief_map (f : α → β) (p : Program α) :
    (f <$> p).brief m = (f (p.brief m).1, (p.brief m).2) :=
  brief_bind_of_yields fun _ => rfl

section Lasting

variable {p : Program α} {a : α} {cs : List Change} {ps : List PodDefault}

theorem result_of_brief (brief : p.brief m = (a, cs, ps)) :
    (p.run MemoryCluster.answers m).1 = a := congrArg Prod.fst brief

theorem after_of_brief (brief : p.brief m = (a, cs, ps)) :
    (p.run MemoryCluster.answers m).2.2 = m.withStore (m.store.revise cs ps) := by
  have made : changes (p.run MemoryCluster.answers m).2.1 = cs :=
    congrArg (fun lasting => lasting.2.1) brief
  have stored : writes (p.run MemoryCluster.answers m).2.1 = ps :=
    congrArg (fun lasting => lasting.2.2) brief
  rw [MemoryCluster.run_replays, Store.replay, made, stored]

end Lasting

end Program

theorem ensureAllowed_brief (action : Action) :
    (ensureAllowed settings headers action).brief m =
      (m.reviewer.verdict settings headers action, [], []) := by
  unfold ensureAllowed Reviewer.verdict
  split
  · rfl
  · rw [Program.brief_bind, (identify_yields settings headers).brief]
    simp only [Store.revise_nil, MemoryCluster.withStore_self]
    cases userOf? settings headers with
    | none => rfl
    | some user =>
        dsimp only
        have answered : MemoryCluster.answers (.review user action) m =
            (m.reviewer user action, m) := rfl
        rw [Program.brief_ask answered]
        cases m.reviewer user action with
        | error e => rfl
        | ok allowed => cases allowed <;> rfl

theorem gated_brief (action : Action) (next : Program (Except ServiceError α)) :
    (Registry.gated settings headers action next).brief m =
      match m.reviewer.verdict settings headers action with
      | .ok () => next.brief m
      | .error e => (.error (.unauthorized e), [], []) := by
  unfold Registry.gated
  rw [Program.brief_bind, ensureAllowed_brief]
  cases m.reviewer.verdict settings headers action <;> rfl

/-- What becomes of the registry PodDefault of a namespace when it is computed anew. -/
def MemoryCluster.renewal (m : MemoryCluster) (ns : String) : Except ClusterError PodDefault :=
  match m.faults.listSecrets with
  | some e => .error e
  | none =>
      match m.faults.applyPodDefault with
      | some e => .error e
      | none => .ok (.ofSecretNames ns (m.store.registrySecrets ns))

theorem MemoryCluster.renewal_eq_ok {ns : String} {p : PodDefault}
    (renewed : m.renewal ns = .ok p) : p = .ofSecretNames ns (m.store.registrySecrets ns) := by
  unfold renewal at renewed
  split at renewed
  · cases renewed
  · split at renewed
    · cases renewed
    · exact (Except.ok.inj renewed).symm

theorem reconcile_brief (ns : String) :
    (Registry.reconcile ns).brief m = (m.renewal ns, [], (m.renewal ns).toOption.toList) := by
  unfold Registry.reconcile MemoryCluster.renewal
  cases lists : m.faults.listSecrets with
  | some e =>
      rw [Program.brief_ask_error (MemoryCluster.answers_listSecrets_fault lists)]
      rfl
  | none =>
      rw [Program.brief_ask (MemoryCluster.answers_listSecrets lists)]
      cases applies : m.faults.applyPodDefault with
      | some e =>
          simp only [Program.brief_ask_error (MemoryCluster.answers_applyPodDefault_fault applies)]
          rfl
      | none =>
          simp only [Program.brief_ask (MemoryCluster.answers_applyPodDefault applies)]
          rfl

theorem finished_brief (event : LogEvent) (ns secret done : String) :
    (Registry.finished event ns secret done).brief m =
      match m.renewal ns with
      | .ok p =>
          (.ok ("Secret " ++ secret ++ " " ++ done ++
            " and PodDefault updated in namespace " ++ ns), [], [p])
      | .error e => (.error (.cluster e), [], []) := by
  unfold Registry.finished Registry.reconcileAfter
  rw [Program.brief_log, Program.brief_bind, Program.brief_bind, reconcile_brief]
  cases m.renewal ns <;> rfl

namespace CredentialRequest

/-- All six fields are present, and they are those of a credential; an empty field counts as
missing. -/
def Submits (r : CredentialRequest) (c : Credential) : Prop :=
  (r.ns = some c.ns ∧ c.ns ≠ "") ∧ (r.name = some c.name ∧ c.name ≠ "") ∧
    (r.registry = some c.registry ∧ c.registry ≠ "") ∧
    (r.username = some c.username ∧ c.username ≠ "") ∧
    (r.password = some c.password ∧ c.password ≠ "") ∧ (r.email = some c.email ∧ c.email ≠ "")

theorem complete?_eq_some_iff {r : CredentialRequest} {c : Credential} :
    r.complete? = some c ↔ r.Submits c := by
  simp only [complete?, given?, Submits, Option.bind_eq_bind, Option.bind_eq_some_iff,
    Option.filter_eq_some_iff, decide_eq_true_eq, Option.some.injEq]
  constructor
  · rintro ⟨ns, hns, name, hname, registry, hregistry, username, husername, password, hpassword,
      email, hemail, rfl⟩
    exact ⟨hns, hname, hregistry, husername, hpassword, hemail⟩
  · rintro ⟨ns, name, registry, username, password, email⟩
    exact ⟨_, ns, _, name, _, registry, _, username, _, password, _, email, rfl⟩

theorem ns_of_complete {r : CredentialRequest} {c : Credential} (complete : r.complete? = some c) :
    r.ns = some c.ns :=
  (complete?_eq_some_iff.1 complete).1.1

end CredentialRequest

/-- The rules and the secrets of a cluster; PodDefaults are left out of account. -/
structure Ledger where
  secrets : SortedMap ObjectKey String
  reviewer : Reviewer
  faults : Faults

namespace Ledger

/-- What a ledger keeps of a cluster. -/
def of (m : MemoryCluster) : Ledger := ⟨m.store.secrets, m.reviewer, m.faults⟩

@[simp] theorem of_secrets (m : MemoryCluster) : (of m).secrets = m.store.secrets := rfl

@[simp] theorem of_faults (m : MemoryCluster) : (of m).faults = m.faults := rfl

/-- A caller may change the secrets of a namespace when the PodDefault may be written too. -/
def MayChange (l : Ledger) (settings : AccessSettings) (headers : Headers) (verb ns : String) :
    Prop :=
  l.reviewer.Admits settings headers (.secrets verb ns) ∧
    l.reviewer.Admits settings headers (.podDefaults "create" ns)

instance (l : Ledger) (verb ns : String) : Decidable (l.MayChange settings headers verb ns) :=
  inferInstanceAs (Decidable (_ ∧ _))

/-- The change to the secrets that an operation commits. -/
def commit? (settings : AccessSettings) (l : Ledger) : Operation → Option Change
  | .create headers submission =>
      match submission.complete? with
      | some c =>
          if l.MayChange settings headers "create" c.ns ∧ l.faults.createSecret = none ∧
              l.secrets.find? c.key = none then some (.add c.key)
          else none
      | none => none
  | .delete headers ns name =>
      if l.MayChange settings headers "delete" ns ∧ l.faults.deleteSecret = none ∧
          l.secrets.find? ⟨ns, name⟩ ≠ none then some (.remove ⟨ns, name⟩)
      else none
  | _ => none

end Ledger

/-- What an attempt at a change to the secrets of a namespace comes to: the change that is
committed, if any, with the brief of the attempt. -/
inductive Course (m : MemoryCluster) (ns : String) :
    Option Change → Except ServiceError String × List Change × List PodDefault → Prop where
  /-- Nothing was written. -/
  | refused (e : ServiceError) : Course m ns none (.error e, [], [])
  /-- The secrets were changed, but the PodDefault could not follow. -/
  | stale (change : Change) (here : change.key.ns = ns) (e : ClusterError) :
      Course m ns (some change) (.error (.cluster e), [change], [])
  /-- The PodDefault was computed from the secrets after the change. -/
  | finished (change : Change) (here : change.key.ns = ns) (message : String) :
      Course m ns (some change)
        (.ok message, [change],
          [.ofSecretNames ns ((m.store.revise [change] []).registrySecrets ns)])

/-- A change that the cluster accepts is followed by the PodDefault. -/
theorem Course.of_accepted (change : Change) {ns : String} (here : change.key.ns = ns)
    (event : LogEvent) (secret done : String) :
    Course m ns (some change)
      (let (result, cs, ps) :=
        (Registry.finished event ns secret done).brief (m.withStore (m.store.revise [change] []))
      (result, change :: cs, ps)) := by
  rw [finished_brief]
  unfold MemoryCluster.renewal
  simp only [MemoryCluster.withStore_faults, MemoryCluster.withStore_store]
  cases m.faults.listSecrets with
  | some e => exact .stale change here e
  | none =>
      cases m.faults.applyPodDefault with
      | some e => exact .stale change here e
      | none => exact .finished change here _

/-- Both gates of a change: who does not pass them changes nothing. -/
theorem Course.of_gated {change? : Option Change} {verb ns : String}
    {next : Program (Except ServiceError String)}
    (admitted : (Ledger.of m).MayChange settings headers verb ns →
      Course m ns change? (next.brief m))
    (refused : ¬ (Ledger.of m).MayChange settings headers verb ns → change? = none) :
    Course m ns change? ((Registry.gated settings headers (.secrets verb ns)
      (Registry.gated settings headers (.podDefaults "create" ns) next)).brief m) := by
  rw [gated_brief, gated_brief]
  cases first : m.reviewer.verdict settings headers (.secrets verb ns) with
  | error e =>
      rw [refused fun may => by cases first.symm.trans (Reviewer.verdict_eq_ok_iff.2 may.1)]
      exact .refused _
  | ok =>
      cases second : m.reviewer.verdict settings headers (.podDefaults "create" ns) with
      | error e =>
          rw [refused fun may => by cases second.symm.trans (Reviewer.verdict_eq_ok_iff.2 may.2)]
          exact .refused _
      | ok =>
          exact admitted ⟨Reviewer.verdict_eq_ok_iff.1 first, Reviewer.verdict_eq_ok_iff.1 second⟩

theorem createComplete_course (c : Credential) {submission : CredentialRequest}
    (complete : submission.complete? = some c) :
    Course m c.ns ((Ledger.of m).commit? settings (.create headers submission))
      ((Registry.createComplete settings headers c).brief m) := by
  refine Course.of_gated (fun may => ?_) fun refused => by simp [Ledger.commit?, complete, refused]
  unfold Registry.calling
  rcases Option.eq_none_or_eq_some m.faults.createSecret with works | ⟨e, fails⟩
  · rcases Option.eq_none_or_eq_some (m.store.secrets.find? c.key) with free | ⟨type, taken⟩
    · have commits : (Ledger.of m).commit? settings (.create headers submission) =
          some (.add c.key) := by simp [Ledger.commit?, complete, may, works, free]
      rw [commits, Program.brief_ask (MemoryCluster.answers_createSecret_free works free)]
      exact .of_accepted (.add c.key) rfl (.secretCreated c.ns c.name) c.name "created"
    · have unchanged : (Ledger.of m).commit? settings (.create headers submission) = none := by
        simp [Ledger.commit?, complete, taken]
      rw [unchanged, Program.brief_ask_error (MemoryCluster.answers_createSecret_taken works taken)]
      exact .refused _
  · have unchanged : (Ledger.of m).commit? settings (.create headers submission) = none := by
      simp [Ledger.commit?, complete, fails]
    rw [unchanged, Program.brief_ask_error (MemoryCluster.answers_createSecret_fault fails)]
    exact .refused _

theorem delete_course (ns name : String) :
    Course m ns ((Ledger.of m).commit? settings (.delete headers ns name))
      ((Registry.delete settings headers ns name).brief m) := by
  refine Course.of_gated (fun may => ?_) fun refused => by simp [Ledger.commit?, refused]
  unfold Registry.calling
  rcases Option.eq_none_or_eq_some m.faults.deleteSecret with works | ⟨e, fails⟩
  · rcases Option.eq_none_or_eq_some (m.store.secrets.find? ⟨ns, name⟩) with
      missing | ⟨type, present⟩
    · have unchanged : (Ledger.of m).commit? settings (.delete headers ns name) = none := by
        simp [Ledger.commit?, missing]
      rw [unchanged,
        Program.brief_ask_error (MemoryCluster.answers_deleteSecret_missing works missing)]
      exact .refused _
    · have commits : (Ledger.of m).commit? settings (.delete headers ns name) =
          some (.remove ⟨ns, name⟩) := by simp [Ledger.commit?, may, works, present]
      rw [commits, Program.brief_ask (MemoryCluster.answers_deleteSecret_present works present)]
      exact .of_accepted (.remove ⟨ns, name⟩) rfl (.secretDeleted ns name) name "deleted"
  · have unchanged : (Ledger.of m).commit? settings (.delete headers ns name) = none := by
      simp [Ledger.commit?, fails]
    rw [unchanged, Program.brief_ask_error (MemoryCluster.answers_deleteSecret_fault fails)]
    exact .refused _

theorem create_course {submission : CredentialRequest} {ns : String}
    (here : submission.ns = some ns) :
    Course m ns ((Ledger.of m).commit? settings (.create headers submission))
      ((Registry.create settings headers submission).brief m) := by
  unfold Registry.create
  cases complete : submission.complete? with
  | none =>
      have unchanged : (Ledger.of m).commit? settings (.create headers submission) = none := by
        simp [Ledger.commit?, complete]
      rw [unchanged]
      exact .refused _
  | some c =>
      have place := CredentialRequest.ns_of_complete complete
      obtain rfl : c.ns = ns := Option.some.inj (place.symm.trans here)
      exact createComplete_course c complete

/-- What a list of registry secrets brings. -/
def MemoryCluster.listing (m : MemoryCluster) (settings : AccessSettings) (headers : Headers)
    (ns : String) : Except ServiceError (List String) :=
  match m.reviewer.verdict settings headers (.secrets "list" ns) with
  | .error e => .error (.unauthorized e)
  | .ok () =>
      match m.faults.listSecrets with
      | some e => .error (.cluster e)
      | none => .ok (m.store.registrySecrets ns)

theorem MemoryCluster.listing_eq_ok {ns : String} {names : List String}
    (listed : m.listing settings headers ns = .ok names) : names = m.store.registrySecrets ns := by
  unfold listing at listed
  split at listed
  · cases listed
  · split at listed
    · cases listed
    · exact (Except.ok.inj listed).symm

theorem list_brief (ns : String) :
    (Registry.list settings headers ns).brief m = (m.listing settings headers ns, [], []) := by
  unfold Registry.list MemoryCluster.listing
  rw [gated_brief]
  cases m.reviewer.verdict settings headers (.secrets "list" ns) with
  | error e => rfl
  | ok =>
      unfold Registry.calling
      rcases Option.eq_none_or_eq_some m.faults.listSecrets with works | ⟨e, fails⟩
      · simp only [Program.brief_ask (MemoryCluster.answers_listSecrets works), works]
        rfl
      · simp only [Program.brief_ask_error (MemoryCluster.answers_listSecrets_fault fails), fails]
        rfl

section Requests

variable {clock : Clock} {r : Request}

theorem createSecret_brief :
    (Server.createSecret settings clock r).brief m =
      let (result, lasting) := (Registry.create settings r.headers r.submission).brief m
      (Server.told clock "Failed to create secret or update PodDefault"
        (fun m => MessageResponse.toJson ⟨m⟩) result, lasting) := by
  unfold Server.createSecret
  rw [Program.brief_bind, (Server.submitted_yields r).brief]
  exact Program.brief_bind_of_yields fun outcome => Server.conclude_yields _ _ _ outcome

theorem deleteSecret_brief (ns name : String) :
    (Server.deleteSecret settings clock r ns name).brief m =
      let (result, lasting) := (Registry.delete settings r.headers ns name).brief m
      (Server.told clock "Failed to delete secret or update PodDefault"
        (fun m => MessageResponse.toJson ⟨m⟩) result, lasting) :=
  Program.brief_bind_of_yields fun outcome => Server.conclude_yields _ _ _ outcome

theorem listSecrets_brief (ns : String) :
    (Server.listSecrets settings clock r ns).brief m =
      (Server.told clock "Failed to list secrets" Json.ofTexts
        (m.listing settings r.headers ns), [], []) := by
  have whole := Program.brief_bind_of_yields (m := m)
    (p := Registry.list settings r.headers ns) fun outcome =>
      Server.conclude_yields clock "Failed to list secrets" Json.ofTexts outcome
  rwa [list_brief] at whole

theorem listPodDefaults_brief (ns : String) :
    ((Server.listPodDefaults settings clock r ns).brief m).2 = ([], []) := by
  unfold Server.listPodDefaults
  rw [Program.brief_bind, ensureAllowed_brief]
  simp only [Store.revise_nil, MemoryCluster.withStore_self]
  cases m.reviewer.verdict settings r.headers (.podDefaults "list" ns) with
  | error e => simp only [(Server.answer_yields _ _).brief, List.append_nil]
  | ok =>
      cases answered : MemoryCluster.answers (.listPodDefaults ns) m with
      | mk answer after =>
          simp only [Program.brief_ask answered]
          cases answer with
          | error e => simp only [(Server.answer_yields _ _).brief]; rfl
          | ok listed => rfl

theorem readiness_brief : ((Server.readiness clock).brief m).2 = ([], []) := by
  unfold Server.readiness
  cases answered : MemoryCluster.answers .serverVersion m with
  | mk answer after =>
      rw [Program.brief_ask answered]
      cases answer <;> rfl

end Requests

namespace Outcome

/-- The outcome tells what came of an attempt to change a secret, at once or in a response. -/
def Tells (result : Except ServiceError String) : Outcome → Prop
  | .told direct => direct = result
  | .answered response =>
      ∃ clock attempt, response =
        Server.told clock attempt (fun m => MessageResponse.toJson ⟨m⟩) result
  | _ => False

variable {outcome : Outcome} {result : Except ServiceError String}

theorem Tells.succeeded_iff (tells : outcome.Tells result) :
    outcome.Succeeded ↔ result.isOk = true := by
  cases outcome with
  | listed | written => exact tells.elim
  | told direct =>
      cases (tells : direct = result)
      exact Iff.rfl
  | answered response =>
      obtain ⟨clock, attempt, rfl⟩ := tells
      exact Server.told_status_iff clock attempt _ result

theorem Tells.failedWith {e : ClusterError} (tells : outcome.Tells (.error (.cluster e))) :
    outcome.FailedWith e := by
  cases outcome with
  | listed | written => exact tells.elim
  | told direct => exact (tells : direct = _)
  | answered response =>
      obtain ⟨clock, attempt, told⟩ := tells
      exact ⟨attempt, clock.now, told⟩

end Outcome

end PullSecrets
