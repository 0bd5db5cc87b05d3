import PullSecrets.Proofs.Accounts

/-! # Refinement

Seen through its secrets, the service is a plain store: `Ledger.step` commits the change that an
operation asks for, or nothing. `service_refines` says that in every session the secrets of the
cluster are those of the ledger, whatever becomes of PodDefaults, and that lists tell what the
ledger holds.
-/

namespace PullSecrets

namespace Ledger

variable {settings : AccessSettings} {headers : Headers} {l : Ledger} {change : Change}

/-- What happens in a session, as far as it is seen in the ledger. -/
def step (settings : AccessSettings) (l : Ledger) : Event → Ledger
  | .perform operation =>
      { l with secrets := (l.commit? settings operation.core).toList.foldl Change.apply l.secrets }
  | .replace reviewer faults => { l with reviewer, faults }

theorem commit?_create_iff {submission : CredentialRequest} :
    l.commit? settings (.create headers submission) = some change ↔
      ∃ c, submission.Submits c ∧ l.MayChange settings headers "create" c.ns ∧
        l.faults.createSecret = none ∧ l.secrets.find? c.key = none ∧ change = .add c.key := by
  simp only [commit?, ← CredentialRequest.complete?_eq_some_iff]
  cases submission.complete? with
  | none => simp
  | some c =>
      rw [Option.ite_none_right_eq_some]
      constructor
      · rintro ⟨⟨may, works, free⟩, same⟩
        exact ⟨c, rfl, may, works, free, (Option.some.inj same).symm⟩
      · rintro ⟨d, same, may, works, free, rfl⟩
        cases same
        exact ⟨⟨may, works, free⟩, rfl⟩

theorem commit?_delete_iff {ns name : String} :
    l.commit? settings (.delete headers ns name) = some change ↔
      l.MayChange settings headers "delete" ns ∧ l.faults.deleteSecret = none ∧
        l.secrets.find? ⟨ns, name⟩ ≠ none ∧ change = .remove ⟨ns, name⟩ := by
  rw [commit?, Option.ite_none_right_eq_some]
  constructor
  · rintro ⟨⟨may, works, present⟩, same⟩
    exact ⟨may, works, present, (Option.some.inj same).symm⟩
  · rintro ⟨may, works, present, rfl⟩
    exact ⟨⟨may, works, present⟩, rfl⟩

/-- What is committed does not depend on whether the PodDefault can follow. -/
theorem commit?_of_followers (lists applies : Option ClusterError) (operation : Operation) :
    commit? settings
        { l with faults := { l.faults with listSecrets := lists, applyPodDefault := applies } }
        operation =
      l.commit? settings operation := by
  cases operation <;> rfl

end Ledger

namespace Account

variable {settings : AccessSettings} {m : MemoryCluster} {operation : Operation}
  {outcome : Outcome} {cs : List Change} {ps : List PodDefault}

/-- An operation changes the secrets by what the ledger commits, once, and by nothing else. -/
theorem commits (account : Account settings m operation (outcome, cs, ps)) :
    cs = ((Ledger.of m).commit? settings operation.core).toList := by
  cases account with
  | attempt alters commits course tells =>
      rw [commits]
      cases course <;> rfl
  | renewal same =>
      subst same
      rfl
  | quiet idle uncommitted =>
      rw [uncommitted]
      rfl

/-- No PodDefault is stored but the one of a namespace that is changed or reconciled. -/
theorem stores (account : Account settings m operation (outcome, cs, ps)) {p : PodDefault}
    (stored : p ∈ ps) :
    ∃ ns, p.key = PodDefault.registryKey ns ∧
      (operation = .reconcile ns ∨ ∃ change ∈ cs, change.key.ns = ns) := by
  cases account with
  | @attempt ns _ _ _ _ _ alters commits course tells =>
      cases course with
      | refused | stale => cases stored
      | finished change here message =>
          rw [List.mem_singleton] at stored
          subst stored
          exact ⟨ns, rfl, .inr ⟨change, .head _, here⟩⟩
  | @renewal ns same =>
      cases renewed : m.renewal ns with
      | error e =>
          rw [renewed] at stored
          cases stored
      | ok q =>
          rw [renewed, Except.toOption, Option.toList, List.mem_singleton] at stored
          rw [stored, MemoryCluster.renewal_eq_ok renewed]
          exact ⟨ns, rfl, .inl same⟩
  | quiet => cases stored

end Account

namespace Operation

/-- The outcome in which an operation shows names that it listed. -/
def shows (names : List String) : Operation → Outcome
  | .request _ r =>
      let whole := Response.json 200 (Json.ofTexts names)
      .answered (if r.method = "HEAD" then whole.withoutBody else whole)
  | _ => .listed (.ok names)

variable {settings : AccessSettings} {m : MemoryCluster} {operation : Operation} {headers : Headers}
  {ns : String}

theorem route_of_core_list {clock : Clock} {r : Request}
    (core : (Operation.request clock r).core = .list headers ns) :
    r.route? = some (.listSecrets ns) ∧ r.headers = headers := by
  simp only [Operation.core] at core
  split at core
  · cases core
  · next place served =>
      cases core
      exact ⟨served, rfl⟩
  · cases core
  · cases core

theorem told_of_listing {clock : Clock} {attempt : String}
    (succeeded : (Server.told clock attempt Json.ofTexts (m.listing settings headers ns)).status =
      200) :
    Server.told clock attempt Json.ofTexts (m.listing settings headers ns) =
      .json 200 (Json.ofTexts (m.store.registrySecrets ns)) := by
  rw [Server.told_status_iff] at succeeded
  cases listed : m.listing settings headers ns with
  | error e =>
      rw [listed] at succeeded
      cases succeeded
  | ok names =>
      rw [MemoryCluster.listing_eq_ok listed]
      rfl

/-- A list that succeeds tells of all registry secrets that there are, also in a response. -/
theorem shown_of_succeeded (core : operation.core = .list headers ns)
    (succeeded : (operation.perform settings m).outcome.Succeeded) :
    (operation.perform settings m).outcome = operation.shows (m.store.registrySecrets ns) := by
  have outcome : (operation.perform settings m).outcome =
      ((operation.program settings).brief m).1 := rfl
  rw [outcome] at succeeded ⊢
  cases operation with
  | create | delete | reconcile => cases core
  | list =>
      cases core
      rw [program, Program.brief_map, list_brief] at succeeded ⊢
      cases listed : m.listing settings headers ns with
      | error e =>
          rw [listed] at succeeded
          cases succeeded
      | ok names =>
          rw [MemoryCluster.listing_eq_ok listed]
          rfl
  | request clock r =>
      obtain ⟨served, rfl⟩ := route_of_core_list core
      rw [program, Program.brief_map] at succeeded ⊢
      rcases Server.answer_of_route settings clock served with
        ⟨get, whole⟩ | ⟨head, -, bare⟩
      · have body : r.method ≠ "HEAD" := by
          simp [get, Route.method]
        rw [whole, Server.serve, listSecrets_brief] at succeeded ⊢
        simp only [shows, if_neg body]
        exact congrArg Outcome.answered (told_of_listing succeeded)
      · rw [bare, Program.brief_map, Server.serve, listSecrets_brief] at succeeded ⊢
        simp only [shows, if_pos head]
        exact congrArg (Outcome.answered ∘ Response.withoutBody) (told_of_listing succeeded)

end Operation

/-- An operation leaves the ledger as the ledger's own step does. -/
theorem ledger_perform (settings : AccessSettings) (operation : Operation) (m : MemoryCluster) :
    Ledger.of (operation.perform settings m).after =
      (Ledger.of m).step settings (.perform operation) := by
  have account := account settings operation m
  have after : (operation.perform settings m).after = m.withStore _ :=
    MemoryCluster.run_replays _ m
  rw [after, Ledger.step, ← account.commits]
  rfl

/-- The ledger keeps account of every session. -/
theorem ledger_final (settings : AccessSettings) (m : MemoryCluster) (events : List Event) :
    Ledger.of (Session.final settings m events) =
      events.foldl (Ledger.step settings) (Ledger.of m) := by
  induction events generalizing m with
  | nil => rfl
  | cons event events ih =>
      cases event with
      | replace reviewer faults => exact ih _
      | perform operation =>
          rw [Session.final, ih, List.foldl_cons, ledger_perform]

/-- What an operation did, seen from the ledger before it. -/
structure Record.Refines (settings : AccessSettings) (l : Ledger) (record : Record) : Prop where
  before : Ledger.of record.before = l
  after : Ledger.of record.after = l.step settings (.perform record.operation)
  /-- Only what the ledger commits is changed, and only once. -/
  commits : changes record.steps = (l.commit? settings record.operation.core).toList
  /-- A secret of any type at its place keeps a credential out. -/
  creates : ∀ headers submission, record.operation.core = .create headers submission →
    ∀ change, change ∈ changes record.steps ↔
      ∃ c, submission.Submits c ∧ l.MayChange settings headers "create" c.ns ∧
        l.faults.createSecret = none ∧ l.secrets.find? c.key = none ∧ change = .add c.key
  deletes : ∀ headers ns name, record.operation.core = .delete headers ns name →
    ∀ change, change ∈ changes record.steps ↔
      l.MayChange settings headers "delete" ns ∧ l.faults.deleteSecret = none ∧
        l.secrets.find? ⟨ns, name⟩ ≠ none ∧ change = .remove ⟨ns, name⟩
  /-- The PodDefault does not come into what is committed. -/
  independent : ∀ lists applies,
    let other := { record.before with
      faults := { record.before.faults with listSecrets := lists, applyPodDefault := applies } }
    changes (record.operation.perform settings other).steps = changes record.steps
  secrets_kept : ∀ key, (∀ change ∈ changes record.steps, change.key ≠ key) →
    record.after.store.secrets.find? key = record.before.store.secrets.find? key
  podDefaults_kept : ∀ key, (∀ ns, key = PodDefault.registryKey ns →
      ¬ Changed ns record.steps ∧ record.operation ≠ .reconcile ns) →
    record.after.store.podDefaults.find? key = record.before.store.podDefaults.find? key
  lists : ∀ headers ns, record.operation.core = .list headers ns → record.outcome.Succeeded →
    ∃ names, record.outcome = record.operation.shows names ∧
      (names.Pairwise fun a b => Text.encode a < Text.encode b) ∧
      ∀ name, name ∈ names ↔ l.secrets.find? ⟨ns, name⟩ = some Secret.registryType

theorem perform_refines (settings : AccessSettings) (operation : Operation) (m : MemoryCluster) :
    (operation.perform settings m).Refines settings (Ledger.of m) := by
  have committed (m : MemoryCluster) : changes (operation.perform settings m).steps =
      ((Ledger.of m).commit? settings operation.core).toList :=
    (account settings operation m).commits
  have after : (operation.perform settings m).after = m.withStore (m.store.revise _ _) :=
    MemoryCluster.run_replays _ m
  constructor
  case before => rfl
  case after => exact ledger_perform settings operation m
  case commits => exact committed m
  case creates =>
    intro headers submission core change
    rw [committed, Option.mem_toList, ← Ledger.commit?_create_iff, ← core]
    rfl
  case deletes =>
    intro headers ns name core change
    rw [committed, Option.mem_toList, ← Ledger.commit?_delete_iff, ← core]
    rfl
  case independent =>
    intro lists applies other
    have same : (Ledger.of other).commit? settings operation.core =
        (Ledger.of m).commit? settings operation.core :=
      Ledger.commit?_of_followers (l := Ledger.of m) lists applies operation.core
    calc changes (operation.perform settings other).steps
      _ = ((Ledger.of other).commit? settings operation.core).toList := committed other
      _ = ((Ledger.of m).commit? settings operation.core).toList := by rw [same]
      _ = changes (operation.perform settings m).steps := (committed m).symm
  case secrets_kept =>
    intro key elsewhere
    rw [after]
    exact Store.find?_secrets_revise m.store _ elsewhere
  case podDefaults_kept =>
    intro key elsewhere
    rw [after]
    refine Store.find?_podDefaults_revise m.store _ fun p stored same => ?_
    obtain ⟨ns, place, cause⟩ := (account settings operation m).stores stored
    obtain ⟨unchanged, idle⟩ := elsewhere ns (same.symm.trans place)
    exact cause.elim idle unchanged
  case lists =>
    intro headers ns core succeeded
    refine ⟨m.store.registrySecrets ns, Operation.shown_of_succeeded core succeeded,
      m.store.registrySecrets_rising ns, fun name => ?_⟩
    exact Store.mem_registrySecrets_iff

/-- After any session, the next operation refines a step of the ledger that kept account of the
session. -/
theorem service_refines (settings : AccessSettings) (m : MemoryCluster) (events : List Event)
    (operation : Operation) :
    (operation.perform settings (Session.final settings m events)).Refines settings
      (events.foldl (Ledger.step settings) (Ledger.of m)) := by
  rw [← ledger_final]
  exact perform_refines settings operation _

end PullSecrets
