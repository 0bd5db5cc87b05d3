import PullSecrets.Proofs.Accounts

/-! # Drift

The registry PodDefault of a namespace drifts when the secrets of the namespace change and it does
not follow. The main theorem, `drift_reported`, says of whole sessions that an operation which
succeeds on a namespace leaves it in sync whatever was before, that only a change to its secrets
whose caller is told of a failure brings a namespace out of sync, and that a namespace stays in
sync after a success until the next operation gets through to it.
-/

namespace PullSecrets

variable {settings : AccessSettings} {m : MemoryCluster} {operation : Operation} {ns : String}

section Operations

variable {outcome : Outcome} {cs : List Change} {ps : List PodDefault}

theorem Operation.alters_unique {other : String} (here : operation.Alters ns)
    (there : operation.Alters other) : ns = other := by
  unfold Operation.Alters at here there
  cases core : operation.core with
  | create headers submission =>
      rw [core] at here there
      exact Option.some.inj (here.symm.trans there)
  | delete headers place name =>
      rw [core] at here there
      exact here.symm.trans there
  | list | reconcile | request =>
      rw [core] at here
      exact here.elim

/-- Requests do not reconcile, and reconciling changes no secret. -/
theorem Operation.not_alters_of_reconcile {other : String} (same : operation = .reconcile other) :
    ¬ operation.Alters ns := by
  subst same
  exact id

namespace Account

/-- Only a change to its secrets is made in a namespace. -/
theorem alters_of_changed (account : Account settings m operation (outcome, cs, ps))
    {change : Change} (made : change ∈ cs) : operation.Alters change.key.ns := by
  cases account with
  | @attempt place _ _ _ _ _ alters commits course tells =>
      cases course with
      | refused => cases made
      | stale only here | finished only here =>
          rw [List.mem_singleton] at made
          rwa [made, here]
  | renewal | quiet => cases made

/-- An operation that succeeds on a namespace leaves it in sync, whatever was before. -/
theorem inSync_of_succeeded (account : Account settings m operation (outcome, cs, ps))
    (renews : operation.Renews ns) (succeeded : outcome.Succeeded) :
    (m.store.revise cs ps).InSync ns := by
  cases account with
  | @attempt place _ _ _ _ _ alters commits course tells =>
      have done := tells.succeeded_iff.1 succeeded
      obtain rfl : place = ns := by
        rcases renews with here | same
        · exact Operation.alters_unique alters here
        · exact (Operation.not_alters_of_reconcile same alters).elim
      cases course with
      | refused | stale => cases done
      | finished change here message =>
          exact Store.inSync_renewed (m.store.revise [change] []) place
  | @renewal place same =>
      obtain rfl : place = ns := by
        rcases renews with here | again
        · exact (Operation.not_alters_of_reconcile same here).elim
        · rw [same] at again
          exact Operation.reconcile.inj again
      cases renewed : m.renewal place with
      | error e =>
          rw [renewed] at succeeded
          cases succeeded
      | ok p =>
          rw [MemoryCluster.renewal_eq_ok renewed]
          exact Store.inSync_renewed m.store place
  | quiet idle uncommitted => exact absurd renews (idle ns)

/-- Nothing but a fault of the cluster keeps a namespace from being repaired. -/
theorem succeeded_of_reconcile (account : Account settings m operation (outcome, cs, ps))
    (same : operation = .reconcile ns) (lists : m.faults.listSecrets = none)
    (applies : m.faults.applyPodDefault = none) : outcome.Succeeded := by
  cases account with
  | attempt alters => exact (Operation.not_alters_of_reconcile same alters).elim
  | renewal =>
      rw [MemoryCluster.renewal, lists, applies]
      rfl
  | quiet idle => exact absurd (.inr same) (idle ns)

/-- Only a change to the secrets of a namespace that fails afterwards brings it out of sync. -/
theorem drifts (account : Account settings m operation (outcome, cs, ps))
    (before : m.store.InSync ns) (after : ¬ (m.store.revise cs ps).InSync ns) :
    operation.Alters ns ∧ (∃ change ∈ cs, change.key.ns = ns) ∧ ∃ e, outcome.FailedWith e := by
  cases account with
  | @attempt place _ _ _ _ _ alters commits course tells =>
      cases course with
      | refused => exact absurd before after
      | stale change here e =>
          by_cases same : ns = change.key.ns
          · refine ⟨?_, ⟨change, List.mem_singleton_self change, same.symm⟩, e, tells.failedWith⟩
            rwa [same, here]
          · exact absurd ((Store.inSync_change_of_ne same).2 before) after
      | finished change here message =>
          -- The PodDefault follows, so neither this namespace nor another is left behind.
          refine absurd ?_ after
          by_cases same : ns = place
          · subst same
            exact Store.inSync_renewed (m.store.revise [change] []) ns
          · have elsewhere : ns ≠ change.key.ns := fun there => same (there.trans here)
            apply (Store.inSync_renewed_of_ne (s := m.store.revise [change] []) same).2
            exact (Store.inSync_change_of_ne elsewhere).2 before
  | @renewal place same =>
      refine absurd ?_ after
      cases renewed : m.renewal place with
      | error e => exact before
      | ok p =>
          rw [MemoryCluster.renewal_eq_ok renewed]
          by_cases same : ns = place
          · subst same
            exact Store.inSync_renewed m.store ns
          · exact (Store.inSync_renewed_of_ne same).2 before
  | quiet idle uncommitted => exact absurd before after

end Account

end Operations

namespace Record

/-- The operation got through to a namespace: it changed a secret there, or brought its PodDefault
up to date. -/
def Touches (ns : String) (record : Record) : Prop :=
  Changed ns record.steps ∨ record.operation = .reconcile ns ∧ record.outcome.Succeeded

end Record

namespace Session

variable {events : List Event} {record : Record}

theorem record_account (member : record ∈ records settings m events) :
    Account settings record.before record.operation
      (record.outcome, changes record.steps, writes record.steps) := by
  rw [performed settings member]
  exact account settings record.operation record.before

theorem record_after (member : record ∈ records settings m events) :
    record.after.store =
      record.before.store.revise (changes record.steps) (writes record.steps) := by
  rw [performed settings member]
  exact congrArg MemoryCluster.store (MemoryCluster.run_replays _ record.before)

theorem record_inSync (member : record ∈ records settings m events)
    (renews : record.operation.Renews ns) (succeeded : record.outcome.Succeeded) :
    record.after.store.InSync ns := by
  rw [record_after member]
  exact (record_account member).inSync_of_succeeded renews succeeded

theorem record_repairs (member : record ∈ records settings m events)
    (same : record.operation = .reconcile ns) (lists : record.before.faults.listSecrets = none)
    (applies : record.before.faults.applyPodDefault = none) : record.after.store.InSync ns :=
  record_inSync member (.inr same)
    ((record_account member).succeeded_of_reconcile same lists applies)

theorem record_drifts (member : record ∈ records settings m events)
    (before : record.before.store.InSync ns) (after : ¬ record.after.store.InSync ns) :
    record.operation.Alters ns ∧ Changed ns record.steps ∧
      ∃ e, record.outcome.FailedWith e := by
  rw [record_after member] at after
  exact (record_account member).drifts before after

theorem renews_of_touches (member : record ∈ records settings m events)
    (touches : record.Touches ns) : record.operation.Renews ns := by
  rcases touches with ⟨change, made, here⟩ | ⟨same, -⟩
  · rw [← here]
    exact .inl ((record_account member).alters_of_changed made)
  · exact .inr same

/-- A namespace in sync stays so for as long as no operation gets through to it. -/
theorem inSync_final (start : m.store.InSync ns)
    (untouched : ∀ record ∈ records settings m events, ¬ record.Touches ns) :
    (final settings m events).store.InSync ns := by
  induction events generalizing m with
  | nil => exact start
  | cons event events ih =>
      cases event with
      | replace reviewer faults => exact ih start untouched
      | perform operation =>
          simp only [records, List.forall_mem_cons] at untouched
          have member : operation.perform settings m ∈
              records settings m [.perform operation] := List.mem_singleton_self _
          have stays : (operation.perform settings m).after.store.InSync ns := by
            apply Classical.byContradiction
            intro drifted
            exact untouched.1 (.inl (record_drifts member start drifted).2.1)
          exact ih stays untouched.2

/-- What follows a record is the session that goes on from there. -/
theorem goes_on {earlier later : List Record}
    (split : records settings m events = earlier ++ record :: later) :
    ∃ rest, later = records settings record.after rest ∧
      final settings m events = final settings record.after rest := by
  induction events generalizing m earlier with
  | nil => simp [records] at split
  | cons event events ih =>
      cases event with
      | replace reviewer faults => exact ih split
      | perform operation =>
          cases earlier with
          | nil =>
              rw [records, List.nil_append, List.cons.injEq] at split
              obtain ⟨rfl, rfl⟩ := split
              exact ⟨events, rfl, rfl⟩
          | cons first earlier =>
              rw [records, List.cons_append, List.cons.injEq] at split
              exact ih split.2

end Session

/-- In every session, under every setting of the gate, rules and faults, and for every namespace:
an operation that succeeds on the namespace leaves it in sync, and reconciling it does so unless
the cluster fails; an operation that brings it out of sync is to change its secrets, has changed
one, and tells its caller that the cluster failed; and if the last operation that got through to it
succeeded, the namespace is in sync at the end. -/
theorem drift_reported (settings : AccessSettings) (m : MemoryCluster) (events : List Event)
    (ns : String) :
    (∀ record ∈ Session.records settings m events,
      (record.operation.Renews ns → record.outcome.Succeeded → record.after.store.InSync ns) ∧
      (record.operation = .reconcile ns → record.before.faults.listSecrets = none →
        record.before.faults.applyPodDefault = none → record.after.store.InSync ns) ∧
      (record.before.store.InSync ns → ¬ record.after.store.InSync ns →
        record.operation.Alters ns ∧ Changed ns record.steps ∧
          ∃ e, record.outcome.FailedWith e)) ∧
    ∀ earlier record later, Session.records settings m events = earlier ++ record :: later →
      record.Touches ns → record.outcome.Succeeded → (∀ next ∈ later, ¬ next.Touches ns) →
      (Session.final settings m events).store.InSync ns := by
  constructor
  · intro record member
    exact ⟨Session.record_inSync member, Session.record_repairs member,
      Session.record_drifts member⟩
  · intro earlier record later split touches succeeded untouched
    have member : record ∈ Session.records settings m events := by
      rw [split]
      exact List.mem_append_right _ (.head _)
    obtain ⟨rest, rfl, same⟩ := Session.goes_on split
    rw [same]
    apply Session.inSync_final _ untouched
    exact Session.record_inSync member (Session.renews_of_touches member touches) succeeded

theorem drift_reported_creation :
    let submission : CredentialRequest :=
      ⟨some "team", some "quay", some "r", some "u", some "p", some "e"⟩
    let m : MemoryCluster :=
      { store := Store.renewed {} "team",
        faults := { applyPodDefault := some (.refused 500 "InternalError" "") } }
    let record := (Operation.create [] submission).perform { disabled := true } m
    (record.before.store.InSync "team" ∧ ¬ record.after.store.InSync "team") ∧
      record.operation.Alters "team" ∧ Changed "team" record.steps ∧
        ∃ e, record.outcome.FailedWith e := by
  intro submission m record
  have before : record.before.store.InSync "team" := Store.inSync_renewed {} "team"
  have after : ¬ record.after.store.InSync "team" := by
    rintro ⟨p, found, -, names⟩
    have stale : record.after.store.podDefaults.find? (PodDefault.registryKey "team") =
        some (.ofSecretNames "team" []) := by decide
    have there : record.after.store.secrets.find? ⟨"team", "quay"⟩ =
        some Secret.registryType := by decide
    cases found.symm.trans stale
    exact absurd ((names "quay").2 there) (by decide)
  have reported := drift_reported { disabled := true } m [.perform (.create [] submission)] "team"
  exact ⟨⟨before, after⟩, (reported.1 record (.head _)).2.2 before after⟩

end PullSecrets
