import PullSecrets.Proofs.Courses

/-! # Accounts of operations

`Account` lists all that an operation of a session can come to in memory: an attempt at a change,
which takes its course; the registry PodDefault computed anew; or nothing that lasts. Requests are
on the same footing as the operations behind them. Everything about sessions is derived from
`account`, none of it from the programs again.
-/

namespace PullSecrets

namespace Operation

/-- The operation is to change a secret of a namespace. -/
def Alters (ns : String) (operation : Operation) : Prop :=
  match operation.core with
  | .create _ submission => submission.ns = some ns
  | .delete _ place _ => place = ns
  | _ => False

/-- The operation is to bring the registry PodDefault of a namespace up to date. -/
def Renews (ns : String) (operation : Operation) : Prop :=
  operation.Alters ns ∨ operation = .reconcile ns

end Operation

/-- All that an operation can come to: its outcome, the changes it made to secrets and the
PodDefaults it stored. -/
inductive Account (settings : AccessSettings) (m : MemoryCluster) (operation : Operation) :
    Outcome × List Change × List PodDefault → Prop where
  | attempt {ns : String} {change? : Option Change} {result : Except ServiceError String}
      {cs : List Change} {ps : List PodDefault} {outcome : Outcome} (alters : operation.Alters ns)
      (commits : (Ledger.of m).commit? settings operation.core = change?)
      (course : Course m ns change? (result, cs, ps)) (tells : outcome.Tells result) :
      Account settings m operation (outcome, cs, ps)
  | renewal {ns : String} (same : operation = .reconcile ns) :
      Account settings m operation
        (.written (m.renewal ns), [], (m.renewal ns).toOption.toList)
  | quiet {outcome : Outcome} (idle : ∀ ns, ¬ operation.Renews ns)
      (uncommitted : (Ledger.of m).commit? settings operation.core = none) :
      Account settings m operation (outcome, [], [])

namespace Account

variable {settings : AccessSettings} {m : MemoryCluster} {operation : Operation}
  {headers : Headers} {outcome : Outcome}

theorem of_create {submission : CredentialRequest}
    (core : operation.core = .create headers submission)
    (tells : outcome.Tells ((Registry.create settings headers submission).brief m).1) :
    Account settings m operation
      (outcome, ((Registry.create settings headers submission).brief m).2) := by
  cases place : submission.ns with
  | some ns =>
      have alters : operation.Alters ns := by simp only [Operation.Alters, core, place]
      refine .attempt alters rfl ?_ tells
      rw [core]
      exact create_course place
  | none =>
      have incomplete : submission.complete? = none := by
        cases complete : submission.complete? with
        | none => rfl
        | some c => cases place.symm.trans (CredentialRequest.ns_of_complete complete)
      have nothing : ((Registry.create settings headers submission).brief m).2 = ([], []) := by
        rw [Registry.create, incomplete]
        rfl
      rw [nothing]
      refine .quiet (fun ns renews => ?_) ?_
      · rcases renews with alters | rfl
        · simp only [Operation.Alters, core, place, reduceCtorEq] at alters
        · cases core
      · rw [core]
        simp only [Ledger.commit?, incomplete]

theorem of_delete {ns name : String} (core : operation.core = .delete headers ns name)
    (tells : outcome.Tells ((Registry.delete settings headers ns name).brief m).1) :
    Account settings m operation
      (outcome, ((Registry.delete settings headers ns name).brief m).2) := by
  have alters : operation.Alters ns := by simp only [Operation.Alters, core]
  refine .attempt alters rfl ?_ tells
  rw [core]
  exact delete_course ns name

/-- An operation that is neither a change nor a reconciliation has to last in nothing. -/
theorem of_idle {lasting : List Change × List PodDefault} (nothing : lasting = ([], []))
    (reads : (∃ headers ns, operation.core = .list headers ns) ∨
      ∃ clock r, operation.core = .request clock r) :
    Account settings m operation (outcome, lasting) := by
  rw [nothing]
  refine .quiet (fun ns renews => ?_) ?_
  · rcases renews with alters | rfl
    · rcases reads with ⟨headers, place, core⟩ | ⟨clock, r, core⟩ <;>
        simp only [Operation.Alters, core] at alters
    · rcases reads with ⟨headers, place, core⟩ | ⟨clock, r, core⟩ <;> cases core
  · rcases reads with ⟨headers, place, core⟩ | ⟨clock, r, core⟩ <;> rw [core] <;> rfl

theorem serve_lasting {clock : Clock} {r : Request} {route : Route}
    (reads : route.method = "GET") :
    ((Server.serve settings clock r route).brief m).2 = ([], []) := by
  cases route with
  | createSecret | deleteSecret => simp [Route.method] at reads
  | listSecrets ns => rw [Server.serve, listSecrets_brief]
  | listPodDefaults ns => exact listPodDefaults_brief ns
  | liveness => rfl
  | readiness => exact readiness_brief

theorem core_of_read {clock : Clock} {r : Request} {route : Route}
    (served : r.route? = some route) (reads : route.method = "GET") :
    (∃ headers ns, (Operation.request clock r).core = .list headers ns) ∨
      ∃ clock' r', (Operation.request clock r).core = .request clock' r' := by
  simp only [Operation.core, served]
  cases route with
  | createSecret | deleteSecret => simp [Route.method] at reads
  | listSecrets ns => exact .inl ⟨_, _, rfl⟩
  | listPodDefaults | liveness | readiness => exact .inr ⟨_, _, rfl⟩

theorem of_served {clock : Clock} {r : Request} {route : Route}
    (served : r.route? = some route) :
    Account settings m (.request clock r)
      ((Outcome.answered <$> Server.serve settings clock r route).brief m) := by
  rw [Program.brief_map]
  cases route with
  | createSecret =>
      rw [Server.serve, createSecret_brief]
      exact of_create (by simp only [Operation.core, served]) ⟨_, _, rfl⟩
  | deleteSecret ns name =>
      rw [Server.serve, deleteSecret_brief]
      exact of_delete (by simp only [Operation.core, served]) ⟨_, _, rfl⟩
  | listSecrets | listPodDefaults | liveness | readiness =>
      exact of_idle (serve_lasting rfl) (core_of_read served rfl)

theorem of_request (clock : Clock) (r : Request) :
    Account settings m (.request clock r)
      ((Outcome.answered <$> Server.answer settings clock r).brief m) := by
  cases served : r.route? with
  | none =>
      obtain ⟨response, immediate⟩ := Server.answer_of_no_route served
      rw [immediate]
      exact of_idle rfl (.inr ⟨clock, r, by simp only [Operation.core, served]⟩)
  | some route =>
      rcases Server.answer_of_route settings clock served with ⟨-, whole⟩ | ⟨-, reads, bare⟩
      · rw [whole]
        exact of_served served
      · rw [bare, Program.brief_map, Program.brief_map]
        exact of_idle (serve_lasting reads) (core_of_read served reads)

end Account

/-- Whatever the rules are, an operation comes to something that its account lists. -/
theorem account (settings : AccessSettings) (operation : Operation) (m : MemoryCluster) :
    Account settings m operation ((operation.program settings).brief m) := by
  cases operation with
  | create headers submission =>
      rw [Operation.program, Program.brief_map]
      exact .of_create rfl rfl
  | delete headers ns name =>
      rw [Operation.program, Program.brief_map]
      exact .of_delete rfl rfl
  | list headers ns =>
      rw [Operation.program, Program.brief_map, list_brief]
      exact .of_idle rfl (.inl ⟨headers, ns, rfl⟩)
  | reconcile ns =>
      rw [Operation.program, Program.brief_map, reconcile_brief]
      exact .renewal rfl
  | request clock r => exact .of_request clock r

end PullSecrets
