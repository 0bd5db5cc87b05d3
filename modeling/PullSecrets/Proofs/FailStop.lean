import PullSecrets.Proofs.Attempts

/-! # Stopping at the first failure

An operation has a plan: the calls that it makes one after another when nothing fails. However the
calls are answered, it makes them in order, each at most once, and ends at the first that fails
with the error of that call. Nothing is assumed about whoever answers, who may fail at any time and
answer the same question in different ways.
-/

namespace PullSecrets

variable {α σ : Type}

/-- The error with which an operation ends when a call of its own is answered so. -/
def Call.failure? : (call : Call) → call.Answer → Option ServiceError
  | .review _ _, .ok true => none
  | .review user action, .ok false => some (.unauthorized (.denied user action))
  | .review _ _, .error _ => some (.unauthorized .engineUnavailable)
  | _, .ok _ => none
  | _, .error e => some (.cluster e)

namespace Step

def failure? : Step → Option ServiceError
  | .asked call answer => call.failure? answer
  | .logged _ => none

end Step

/-- The calls that some steps made, in order. -/
def calls (steps : List Step) : List Call := steps.filterMap Step.call?

theorem calls_append (steps more : List Step) : calls (steps ++ more) = calls steps ++ calls more :=
  List.filterMap_append

theorem mem_calls {steps : List Step} {call : Call} {answer : call.Answer}
    (member : .asked call answer ∈ steps) : call ∈ calls steps :=
  List.mem_filterMap.2 ⟨_, member, rfl⟩

theorem Rule.Followed.of_mem_calls {rule : Rule} {history steps : List Step}
    (followed : rule.Followed history steps) {call : Call} (asked : call ∈ calls steps) :
    ∃ before, rule before call := by
  obtain ⟨step, member, same⟩ := List.mem_filterMap.1 asked
  obtain ⟨before, after, rfl⟩ := List.append_of_mem member
  cases step with
  | logged event => cases same
  | asked call answer =>
      cases same
      exact ⟨_, followed before call answer after rfl⟩

theorem not_asked {steps : List Step} (silent : calls steps = []) {call : Call}
    {answer : call.Answer} : .asked call answer ∉ steps := by
  intro member
  have asked := mem_calls member
  rw [silent] at asked
  cases asked

theorem calls_eq_nil_of_append {before after : List Step} {step : Step}
    (silent : calls (before ++ step :: after) = []) : calls after = [] := by
  rw [← List.singleton_append, ← List.append_assoc, calls_append] at silent
  exact (List.append_eq_nil_iff.1 silent).2

/-- Steps that go through a plan up to the first call that fails, and the result that they come to;
it is `value` when none fails. -/
inductive Staged (value : α) : List Call → List Step → Except ServiceError α → Prop where
  | finished : Staged value [] [] (.ok value)
  | logged {plan : List Call} {event : LogEvent} {steps : List Step}
      {result : Except ServiceError α} (later : Staged value plan steps result) :
      Staged value plan (.logged event :: steps) result
  | passed {call : Call} {answer : call.Answer} {plan : List Call} {steps : List Step}
      {result : Except ServiceError α} (passes : call.failure? answer = none)
      (later : Staged value plan steps result) :
      Staged value (call :: plan) (.asked call answer :: steps) result
  | failed {call : Call} {answer : call.Answer} {plan : List Call} {steps : List Step}
      {e : ServiceError} (fails : call.failure? answer = some e) (silent : calls steps = []) :
      Staged value (call :: plan) (.asked call answer :: steps) (.error e)

/-- What it means to stop at the first failure: the steps of a run and its result, against a plan
and the value that belongs to it. -/
structure FailStop (plan : List Call) (value : α) (steps : List Step)
    (result : Except ServiceError α) : Prop where
  in_order : calls steps <+: plan
  once : (calls steps).Nodup
  /-- After a failure nothing more is asked. -/
  stops : ∀ before step after, steps = before ++ step :: after → step.failure? ≠ none →
    calls after = []
  /-- Without one the operation goes on to the end. -/
  goes_on : (∀ step ∈ steps, step.failure? = none) → calls steps = plan
  succeeds_iff : result = .ok value ↔
    calls steps = plan ∧ ∀ step ∈ steps, step.failure? = none
  fails_iff : ∀ e, result = .error e ↔ ∃ step ∈ steps, step.failure? = some e

namespace Staged

variable {value : α} {plan : List Call} {steps : List Step} {result : Except ServiceError α}

theorem in_order (staged : Staged value plan steps result) : calls steps <+: plan := by
  induction staged with
  | finished => exact List.prefix_rfl
  | logged later ih => exact ih
  | passed passes later ih => exact (List.prefix_cons_inj _).2 ih
  | @failed call answer plan steps e fails silent =>
      have only : calls (.asked call answer :: steps) = [call] := congrArg (call :: ·) silent
      rw [only]
      exact (List.prefix_cons_inj call).2 (List.nil_prefix)

theorem stops (staged : Staged value plan steps result) (before : List Step) (step : Step)
    (after : List Step) (split : steps = before ++ step :: after)
    (fails : step.failure? ≠ none) : calls after = [] := by
  induction staged generalizing before with
  | finished => simp at split
  | logged later ih =>
      cases before with
      | nil =>
          cases split
          exact absurd rfl fails
      | cons first before => exact ih before (List.cons.inj split).2
  | passed passes later ih =>
      cases before with
      | nil =>
          cases split
          exact absurd passes fails
      | cons first before => exact ih before (List.cons.inj split).2
  | failed fails silent =>
      cases before with
      | nil =>
          cases split
          exact silent
      | cons first before =>
          have later := congrArg calls (List.cons.inj split).2
          rw [silent] at later
          exact calls_eq_nil_of_append later.symm

/-- A run has no failure and comes to the end of its plan, or has a single one and comes to its
error. -/
theorem ends (staged : Staged value plan steps result) :
    ((∀ step ∈ steps, step.failure? = none) ∧ calls steps = plan ∧ result = .ok value) ∨
      ∃ e, result = .error e ∧ (∃ step ∈ steps, step.failure? = some e) ∧
        ∀ step ∈ steps, ∀ other, step.failure? = some other → other = e := by
  induction staged with
  | finished => exact .inl ⟨List.forall_mem_nil _, rfl, rfl⟩
  | logged later ih =>
      rcases ih with ⟨clean, whole, same⟩ | ⟨e, same, ⟨step, member, fails⟩, single⟩
      · exact .inl ⟨List.forall_mem_cons.2 ⟨rfl, clean⟩, whole, same⟩
      · refine .inr ⟨e, same, ⟨step, .tail _ member, fails⟩, ?_⟩
        exact List.forall_mem_cons.2 ⟨nofun, single⟩
  | passed passes later ih =>
      rcases ih with ⟨clean, whole, same⟩ | ⟨e, same, ⟨step, member, fails⟩, single⟩
      · exact .inl ⟨List.forall_mem_cons.2 ⟨passes, clean⟩, congrArg (_ :: ·) whole, same⟩
      · refine .inr ⟨e, same, ⟨step, .tail _ member, fails⟩, ?_⟩
        refine List.forall_mem_cons.2 ⟨fun other fails => ?_, single⟩
        cases passes.symm.trans fails
  | failed fails silent =>
      refine .inr ⟨_, rfl, ⟨_, .head _, fails⟩, ?_⟩
      refine List.forall_mem_cons.2 ⟨fun other again => ?_, fun step member other again => ?_⟩
      · exact Option.some.inj (again.symm.trans fails)
      · cases step with
        | logged event => cases again
        | asked call answer => exact absurd member (not_asked silent)

theorem failStop (staged : Staged value plan steps result) (distinct : plan.Nodup) :
    FailStop plan value steps result where
  in_order := staged.in_order
  once := distinct.sublist staged.in_order.sublist
  stops := staged.stops
  goes_on clean := by
    rcases staged.ends with ⟨-, whole, -⟩ | ⟨e, -, ⟨step, member, fails⟩, -⟩
    · exact whole
    · cases (clean step member).symm.trans fails
  succeeds_iff := by
    rcases staged.ends with ⟨clean, whole, rfl⟩ | ⟨e, rfl, ⟨step, member, fails⟩, -⟩
    · exact iff_of_true rfl ⟨whole, clean⟩
    · refine iff_of_false nofun fun ⟨_, clean⟩ => ?_
      cases (clean step member).symm.trans fails
  fails_iff e := by
    rcases staged.ends with ⟨clean, -, rfl⟩ | ⟨other, rfl, failure, single⟩
    · refine iff_of_false nofun fun ⟨step, member, fails⟩ => ?_
      cases (clean step member).symm.trans fails
    · constructor
      · intro same
        cases same
        exact failure
      · rintro ⟨step, member, fails⟩
        rw [single step member e fails]

end Staged

namespace Program

/-- However calls are answered, the program goes through a plan. Plan and value may depend on the
names that are listed for a namespace on the way. -/
structure Follows (ns : String) (plan : List String → List Call) (value : List String → α)
    (p : Program (Except ServiceError α)) : Prop where
  staged : ∀ {σ : Type} (answers : Answers σ) (s : σ), ∃ names,
    Staged (value names) (plan names) (p.run answers s).2.1 (p.run answers s).1 ∧
      ∀ listed, .asked (.listSecrets ns) (.ok listed) ∈ (p.run answers s).2.1 → listed = names

theorem Yields.calls {p : Program α} {a : α} (yields : p.Yields a) (answers : Answers σ) (s : σ) :
    calls (p.run answers s).2.1 = [] := by
  obtain ⟨events, result⟩ := yields.run answers s
  rw [result]
  simp [PullSecrets.calls, List.filterMap_map, Step.call?]

theorem Yields.result {p : Program α} {a : α} (yields : p.Yields a) (answers : Answers σ) (s : σ) :
    (p.run answers s).1 = a := by
  obtain ⟨events, result⟩ := yields.run answers s
  rw [result]

namespace Follows

variable {ns : String} {plan : List String → List Call} {value : List String → α}

theorem done (a : α) : Follows ns (fun _ => []) (fun _ => a) (.done (.ok a)) := by
  constructor
  intro σ answers s
  exact ⟨[], .finished, fun _ member => absurd member List.not_mem_nil⟩

theorem log {event : LogEvent} {next : Program (Except ServiceError α)}
    (later : next.Follows ns plan value) : (Program.log event next).Follows ns plan value := by
  constructor
  intro σ answers s
  obtain ⟨names, staged, same⟩ := later.staged answers s
  refine ⟨names, .logged staged, fun listed member => same listed ?_⟩
  cases member with
  | tail _ member => exact member

/-- A call that fails has to be the last, and may be logged. -/
theorem ask {call : Call} {next : call.Answer → Program (Except ServiceError α)}
    (other : call ≠ .listSecrets ns)
    (passes : ∀ answer, call.failure? answer = none → (next answer).Follows ns plan value)
    (fails : ∀ answer e, call.failure? answer = some e → (next answer).Yields (.error e)) :
    (Program.ask call next).Follows ns (fun names => call :: plan names) value := by
  constructor
  intro σ answers s
  simp only [run]
  generalize answers call s = answered
  obtain ⟨answer, after⟩ := answered
  have elsewhere {listed : List String} {steps : List Step}
      (member : .asked (.listSecrets ns) (.ok listed) ∈ Step.asked call answer :: steps) :
      .asked (.listSecrets ns) (.ok listed) ∈ steps := by
    cases member with
    | head => exact absurd rfl other
    | tail _ member => exact member
  cases outcome : call.failure? answer with
  | none =>
      obtain ⟨names, staged, same⟩ := (passes answer outcome).staged answers after
      exact ⟨names, .passed outcome staged, fun listed member => same listed (elsewhere member)⟩
  | some e =>
      have yields := fails answer e outcome
      have silent := yields.calls answers after
      refine ⟨[], ?_, fun listed member => ?_⟩
      · rw [yields.result]
        exact .failed outcome silent
      · exact absurd (elsewhere member) (not_asked silent)

/-- The names are those that the list brings; nothing that follows lists again. -/
theorem list {next : Except ClusterError (List String) → Program (Except ServiceError α)}
    (single : ∀ names, .listSecrets ns ∉ plan names)
    (passes : ∀ names, (next (.ok names)).Follows ns (fun _ => plan names) fun _ => value names)
    (fails : ∀ e, (next (.error e)).Yields (.error (.cluster e))) :
    (Program.ask (.listSecrets ns) next).Follows ns (fun names => .listSecrets ns :: plan names)
      value := by
  constructor
  intro σ answers s
  simp only [run]
  generalize answers (.listSecrets ns) s = answered
  obtain ⟨answer, after⟩ := answered
  cases answer with
  | error e =>
      have silent := (fails e).calls answers after
      refine ⟨[], ?_, fun listed member => ?_⟩
      · rw [(fails e).result]
        exact .failed rfl silent
      · cases member with
        | tail _ member => exact absurd member (not_asked silent)
  | ok names =>
      obtain ⟨_, staged, -⟩ := (passes names).staged answers after
      refine ⟨names, .passed rfl staged, fun listed member => ?_⟩
      cases member with
      | head => rfl
      | tail _ member =>
          exact absurd (staged.in_order.subset (mem_calls member)) (single names)

end Follows

end Program

section Operations

variable {settings : AccessSettings} {headers : Headers} {action : Action} {ns : String}
  {plan : List String → List Call} {value : List String → α}
  {next : Program (Except ServiceError α)}

theorem gated_of_disabled (disabled : settings.disabled = true) :
    Registry.gated settings headers action next = next := by
  simp only [Registry.gated, ensureAllowed, disabled, if_true, Program.done_bind]

theorem ensureAllowed_of_enabled (enabled : settings.disabled = false) :
    ensureAllowed settings headers action = identify settings headers >>= fun
      | none => .done (.error .unauthenticated)
      | some user => .ask (.review user action) (reviewed user action) :=
  if_neg (by simp [enabled])

theorem ensureAllowed_yields_of_unknown (enabled : settings.disabled = false)
    (unknown : userOf? settings headers = none) :
    (ensureAllowed settings headers action).Yields (.error .unauthenticated) := by
  rw [ensureAllowed_of_enabled enabled]
  apply (identify_yields settings headers).bind
  rw [unknown]
  rfl

theorem gated_yields_of_unknown (enabled : settings.disabled = false)
    (unknown : userOf? settings headers = none) :
    (Registry.gated settings headers action next).Yields
      (.error (.unauthorized .unauthenticated)) :=
  (ensureAllowed_yields_of_unknown enabled unknown).bind rfl

theorem gated_follows {user : String} (enabled : settings.disabled = false)
    (known : userOf? settings headers = some user) (inside : next.Follows ns plan value) :
    (Registry.gated settings headers action next).Follows ns
      (fun names => .review user action :: plan names) value := by
  simp only [Registry.gated, ensureAllowed_of_enabled enabled, identify]
  unfold userOf? at known
  cases found : Identity.ofHeaders settings headers with
  | absent | unusable => simp [found, Identity.user?] at known
  | user name =>
      obtain rfl : name = user := by simpa [found, Identity.user?] using known
      apply Program.Follows.log
      refine Program.Follows.ask (by simp) (fun answer passes => ?_) fun answer e fails => ?_
      · match answer, passes with
        | .ok true, _ => exact Program.Follows.log inside
      · match answer, fails with
        | .ok false, rfl => exact rfl
        | .error _, rfl => exact rfl

theorem finished_follows (event : LogEvent) (ns secret done : String) :
    (Registry.finished event ns secret done).Follows ns
      (fun names => [.listSecrets ns, .applyPodDefault (.ofSecretNames ns names)])
      fun _ =>
        "Secret " ++ secret ++ " " ++ done ++ " and PodDefault updated in namespace " ++ ns := by
  apply Program.Follows.log
  apply Program.Follows.list (by simp)
  · intro names
    refine Program.Follows.ask (by simp) (fun answer passes => ?_) fun answer e fails => ?_
    · cases answer with
      | error e => cases passes
      | ok => exact Program.Follows.log (.done _)
    · cases answer with
      | error e =>
          cases fails
          exact rfl
      | ok => cases fails
  · intro e
    exact rfl

theorem calling_follows {call : Call} {next : call.Result → Program (Except ServiceError α)}
    (other : call ≠ .listSecrets ns) (succeeds : ∀ result, call.failure? (.ok result) = none)
    (fails : ∀ e, call.failure? (.error e) = some (.cluster e))
    (later : ∀ result, (next result).Follows ns plan value) :
    (Registry.calling call next).Follows ns (fun names => call :: plan names) value := by
  refine Program.Follows.ask other (fun answer passed => ?_) fun answer e failed => ?_
  · cases answer with
    | error e => cases passed.symm.trans (fails e)
    | ok result => exact later result
  · cases answer with
    | error e =>
        cases failed.symm.trans (fails _)
        exact rfl
    | ok result => cases failed.symm.trans (succeeds result)

theorem work_follows (a : Attempt) :
    a.work.Follows a.ns
      (fun names => [a.call, .listSecrets a.ns, .applyPodDefault (.ofSecretNames a.ns names)])
      fun _ => a.report := by
  have later := finished_follows a.event a.ns a.name a.done
  cases a with
  | creation c | removal ns name =>
      exact calling_follows nofun (fun _ => rfl) (fun _ => rfl) fun _ => later

/-- The reviews by which the gate lets a caller pass; none are made when it stands open, and none
can be made for somebody who is not known. -/
def reviews? (settings : AccessSettings) (headers : Headers) (actions : List Action) :
    Option (List Call) :=
  if settings.disabled then some []
  else (userOf? settings headers).map fun user => actions.map (.review user)

/-- A run stops at the first failure of the reviews of some actions and then of a plan. The names
on which the plan depends are those that the run lists; nobody is asked for a caller who is not
known. -/
def StopsAtFailure (settings : AccessSettings) (headers : Headers) (actions : List Action)
    (ns : String) (plan : List String → List Call) (value : List String → α)
    (run : Except ServiceError α × List Step × σ) : Prop :=
  match reviews? settings headers actions with
  | none => calls run.2.1 = [] ∧ run.1 = .error (.unauthorized .unauthenticated)
  | some reviews => ∃ names, FailStop (reviews ++ plan names) (value names) run.2.1 run.1 ∧
      ∀ listed, .asked (.listSecrets ns) (.ok listed) ∈ run.2.1 → listed = names

/-- A program behind one gate after another. -/
def gatedBy (settings : AccessSettings) (headers : Headers) (actions : List Action)
    (next : Program (Except ServiceError α)) : Program (Except ServiceError α) :=
  actions.foldr (Registry.gated settings headers) next

theorem gatedBy_of_disabled (disabled : settings.disabled = true) (actions : List Action) :
    gatedBy settings headers actions next = next := by
  induction actions with
  | nil => rfl
  | cons action actions ih => exact (gated_of_disabled disabled).trans ih

theorem gatedBy_follows {user : String} (enabled : settings.disabled = false)
    (known : userOf? settings headers = some user) (inside : next.Follows ns plan value)
    (actions : List Action) :
    (gatedBy settings headers actions next).Follows ns
      (fun names => actions.map (.review user) ++ plan names) value := by
  induction actions with
  | nil => exact inside
  | cons action actions ih => exact gated_follows enabled known ih

theorem gatedBy_stops (actions : List Action) (some : actions ≠ []) (distinct : actions.Nodup)
    (inside : next.Follows ns plan value) (once : ∀ names, (plan names).Nodup)
    (apart : ∀ names user action, .review user action ∉ plan names) (answers : Answers σ) (s : σ) :
    StopsAtFailure settings headers actions ns plan value
      ((gatedBy settings headers actions next).run answers s) := by
  unfold StopsAtFailure
  cases enabled : settings.disabled with
  | true =>
      obtain ⟨names, staged, same⟩ := inside.staged answers s
      simp only [reviews?, enabled, if_true, gatedBy_of_disabled enabled, List.nil_append]
      exact ⟨names, staged.failStop (once names), same⟩
  | false =>
      cases known : userOf? settings headers with
      | none =>
          obtain ⟨action, actions, rfl⟩ := List.exists_cons_of_ne_nil some
          have yields : (gatedBy settings headers (action :: actions) next).Yields _ :=
            gated_yields_of_unknown enabled known
          simp only [reviews?, enabled, known, Bool.false_eq_true, if_false, Option.map_none]
          exact ⟨yields.calls answers s, yields.result answers s⟩
      | some user =>
          obtain ⟨names, staged, same⟩ :=
            (gatedBy_follows enabled known inside actions).staged answers s
          simp only [reviews?, enabled, known, Bool.false_eq_true, if_false, Option.map_some]
          refine ⟨names, staged.failStop ?_, same⟩
          refine List.nodup_append.2 ⟨?_, once names, ?_⟩
          · refine List.pairwise_map.2 (distinct.imp fun differ same => ?_)
            exact differ (Call.review.inj same).2
          · rintro call review planned there rfl
            obtain ⟨action, -, rfl⟩ := List.mem_map.1 review
            exact apart names user action there

theorem Attempt.report_creation (c : Credential) : (creation c).report =
    "Secret " ++ c.name ++ " created and PodDefault updated in namespace " ++ c.ns := by
  simp only [report, String.append_assoc]
  rfl

theorem Attempt.report_removal (ns name : String) : (removal ns name).report =
    "Secret " ++ name ++ " deleted and PodDefault updated in namespace " ++ ns := by
  simp only [report, String.append_assoc]
  rfl

theorem attempt_stops (settings : AccessSettings) (headers : Headers) (answers : Answers σ) (s : σ)
    (a : Attempt) :
    StopsAtFailure settings headers a.actions a.ns
      (fun names => [a.call, .listSecrets a.ns, .applyPodDefault (.ofSecretNames a.ns names)])
      (fun _ => a.report) ((a.program settings headers).run answers s) := by
  refine gatedBy_stops a.actions nofun ?_ (work_follows a) (fun names => ?_)
    (fun names user action => ?_) answers s
  · -- the gates ask about different resources
    simp [Attempt.actions, Action.secrets, Action.podDefaults]
  · cases a <;> simp [Attempt.call]
  · cases a <;> simp [Attempt.call]

theorem list_stops (answers : Answers σ) (s : σ) (ns : String) :
    StopsAtFailure settings headers [.secrets "list" ns] ns (fun _ => [.listSecrets ns]) id
      ((Registry.list settings headers ns).run answers s) := by
  have listing : (Registry.calling (.listSecrets ns) fun names =>
      .done (.ok names)).Follows ns (fun _ => [.listSecrets ns]) id :=
    Program.Follows.list (by simp) (fun names => .done names) fun e => rfl
  exact gatedBy_stops [_] nofun (by simp) listing (by simp) (by simp) answers s

end Operations

/-- Whoever answers, and however: to create, to delete and to list stops at the first call that is
denied or fails, with the error of that call, and succeeds when the whole plan went through. A
credential that is not complete is refused before anybody is asked, and the PodDefault that is
stored names what was listed just before. -/
theorem operations_fail_stop (answers : Answers σ) (s : σ) (settings : AccessSettings)
    (headers : Headers) (submission : CredentialRequest) (ns name : String) :
    (match submission.complete? with
      | none =>
          let run := (Registry.create settings headers submission).run answers s
          calls run.2.1 = [] ∧ run.1 = .error .incomplete
      | some c =>
          StopsAtFailure settings headers [.secrets "create" c.ns, .podDefaults "create" c.ns] c.ns
            (fun names => [.createSecret c, .listSecrets c.ns,
              .applyPodDefault (.ofSecretNames c.ns names)])
            (fun _ => "Secret " ++ c.name ++ " created and PodDefault updated in namespace " ++ c.ns)
            ((Registry.create settings headers submission).run answers s)) ∧
      StopsAtFailure settings headers [.secrets "delete" ns, .podDefaults "create" ns] ns
        (fun names => [.deleteSecret ns name, .listSecrets ns,
          .applyPodDefault (.ofSecretNames ns names)])
        (fun _ => "Secret " ++ name ++ " deleted and PodDefault updated in namespace " ++ ns)
        ((Registry.delete settings headers ns name).run answers s) ∧
      StopsAtFailure settings headers [.secrets "list" ns] ns (fun _ => [.listSecrets ns]) id
        ((Registry.list settings headers ns).run answers s) := by
  have removal := attempt_stops settings headers answers s (.removal ns name)
  rw [Attempt.report_removal, ← Registry.delete_eq] at removal
  refine ⟨?_, removal, list_stops answers s ns⟩
  cases complete : submission.complete? with
  | none =>
      simp only [Registry.create_eq, complete]
      exact ⟨rfl, rfl⟩
  | some c =>
      simp only [Registry.create_eq, complete]
      have creation := attempt_stops settings headers answers s (.creation c)
      rwa [Attempt.report_creation] at creation

end PullSecrets
