import PullSecrets.Proofs.Changes
import PullSecrets.Proofs.Rules
import PullSecrets.Proofs.Session

/-! # Traffic

Any number of operations are under way at the same time against one cluster in memory. Whenever
the turn of an operation comes it does its next step, and a call is answered at once by the rules
of that moment; rules may be replaced at any time, so any call may fail. What was done is kept as a
history of moments. An operation that is never interrupted does what its run does
(`drives_alone`).
-/

namespace PullSecrets

namespace Program

variable {α σ : Type} {rule : Rule} {post : List Step → α → Prop} {history : List Step}
  {answers : Answers σ} {p rest : Program α} {s after : σ} {step : Step}

/-- The next step of a program, with what is left to do and the state that the step leaves. -/
def advance (answers : Answers σ) : Program α → σ → Option (Step × Program α × σ)
  | .done _, _ => none
  | .ask call next, s =>
      let (answer, after) := answers call s
      some (.asked call answer, next answer, after)
  | .log event next, s => some (.logged event, next, s)

theorem Obeys.advance (obeys : p.Obeys rule post history)
    (advanced : p.advance answers s = some (step, rest, after)) :
    rule.Followed history [step] ∧ rest.Obeys rule post (history ++ [step]) := by
  cases p with
  | done a => cases advanced
  | ask call next =>
      cases advanced
      exact ⟨.asked obeys.1 .nil, obeys.2 _⟩
  | log event next =>
      cases advanced
      exact ⟨.logged .nil, obeys⟩

end Program

/-- A step that was done while others were under way: the number of the operation that did it, and
the store that it found. -/
structure Moment where
  number : Nat
  step : Step
  store : Store

/-- Operations under way, by number, what they have done so far, and their cluster. -/
structure Traffic where
  cluster : MemoryCluster
  underway : List (Program Outcome) := []
  history : List Moment := []

/-- What happens in traffic. -/
inductive Happening where
  | start (operation : Operation)
  | advance (number : Nat)
  | replace (reviewer : Reviewer) (faults : Faults)

namespace Traffic

/-- The traffic after an operation did a step. -/
def after (t : Traffic) (number : Nat) (step : Step) (rest : Program Outcome)
    (cluster : MemoryCluster) : Traffic where
  cluster
  underway := t.underway.set number rest
  history := t.history ++ [⟨number, step, t.cluster.store⟩]

/-- What a happening makes of traffic. An operation that is done, or was never started, has no step
to do. -/
def happen (settings : AccessSettings) (t : Traffic) : Happening → Traffic
  | .start operation => { t with underway := t.underway ++ [operation.program settings] }
  | .advance number =>
      match t.underway[number]?.bind (·.advance MemoryCluster.answers t.cluster) with
      | some (step, rest, cluster) => t.after number step rest cluster
      | none => t
  | .replace reviewer faults => { t with cluster := { t.cluster with reviewer, faults } }

/-- The traffic that comes of some happenings, from when nothing was under way. -/
def run (settings : AccessSettings) (m : MemoryCluster) (happenings : List Happening) : Traffic :=
  happenings.foldl (happen settings) { cluster := m }

variable {settings : AccessSettings} {m : MemoryCluster} {happenings : List Happening}

/-- What holds at first and is kept by everything that happens holds at any time. -/
theorem run_induction {Holds : Traffic → Prop} (first : Holds { cluster := m })
    (start : ∀ t operation, Holds t →
      Holds { t with underway := t.underway ++ [Operation.program settings operation] })
    (replace : ∀ t reviewer faults, Holds t →
      Holds { t with cluster := { t.cluster with reviewer, faults } })
    (advance : ∀ t number p step rest cluster, Holds t → t.underway[number]? = some p →
      p.advance MemoryCluster.answers t.cluster = some (step, rest, cluster) →
      Holds (t.after number step rest cluster)) :
    Holds (run settings m happenings) := by
  unfold run
  generalize ({ cluster := m } : Traffic) = t at first
  induction happenings generalizing t with
  | nil => exact first
  | cons happening happenings ih =>
      apply ih
      cases happening with
      | start operation => exact start t operation first
      | replace reviewer faults => exact replace t reviewer faults first
      | advance number =>
          simp only [happen]
          cases next : t.underway[number]?.bind (·.advance MemoryCluster.answers t.cluster) with
          | none => exact first
          | some moved =>
              obtain ⟨p, found, advanced⟩ := Option.bind_eq_some_iff.1 next
              exact advance t number p _ _ _ first found advanced

/-- Left to itself, an operation does some steps and comes to an outcome. -/
def Drives (settings : AccessSettings) (t : Traffic) (number : Nat)
    (whole : Outcome × List Step × MemoryCluster) : Prop :=
  let driven := (List.replicate whole.2.1.length (.advance number)).foldl (happen settings) t
  driven.cluster = whole.2.2 ∧ driven.underway = t.underway.set number (.done whole.1) ∧
    driven.history.map Moment.step = t.history.map Moment.step ++ whole.2.1

theorem drives_cons {t : Traffic} {number : Nat} {p rest : Program Outcome} {step : Step}
    {cluster last : MemoryCluster} {outcome : Outcome} {steps : List Step}
    (found : t.underway[number]? = some p)
    (advanced : p.advance MemoryCluster.answers t.cluster = some (step, rest, cluster))
    (drives : Drives settings (t.after number step rest cluster) number (outcome, steps, last)) :
    Drives settings t number (outcome, step :: steps, last) := by
  have moves : t.happen settings (.advance number) = t.after number step rest cluster := by
    simp only [happen, found, Option.bind_some, advanced]
  simp only [Drives, List.length_cons, List.replicate_succ, List.foldl_cons, moves]
  obtain ⟨ends, underway, history⟩ := drives
  refine ⟨ends, underway.trans ?_, history.trans ?_⟩
  · exact List.set_set _
  · simp only [after, List.map_append, List.map_cons, List.map_nil, List.append_assoc,
      List.singleton_append]

/-- An operation whose steps follow one another at once does what its run does. -/
theorem drives_alone {t : Traffic} {number : Nat} {p : Program Outcome}
    (found : t.underway[number]? = some p) :
    Drives settings t number (p.run MemoryCluster.answers t.cluster) := by
  have within : number < t.underway.length := (List.getElem?_eq_some_iff.1 found).1
  induction p generalizing t with
  | done outcome =>
      refine ⟨rfl, ?_, (List.append_nil _).symm⟩
      obtain ⟨_, here⟩ := List.getElem?_eq_some_iff.1 found
      calc t.underway
        _ = t.underway.set number t.underway[number] := (List.set_getElem_self within).symm
        _ = t.underway.set number (.done outcome) := by rw [here]
  | ask call next ih =>
      refine drives_cons found rfl (ih _ (List.getElem?_set_self within) ?_)
      rwa [after, List.length_set]
  | log event next ih =>
      refine drives_cons found rfl (ih (List.getElem?_set_self within) ?_)
      rwa [after, List.length_set]

theorem advance_replays {p rest : Program Outcome} {step : Step} {cluster : MemoryCluster}
    (advanced : p.advance MemoryCluster.answers m = some (step, rest, cluster)) :
    cluster = m.withStore (m.store.replay [step]) := by
  cases p with
  | done outcome => cases advanced
  | ask call next =>
      cases advanced
      exact MemoryCluster.answers_replays call m
  | log event next =>
      cases advanced
      rfl

theorem advance_lists {p rest : Program Outcome} {cluster : MemoryCluster} {ns : String}
    {names : List String} (advanced : p.advance MemoryCluster.answers m =
      some (.asked (.listSecrets ns) (.ok names), rest, cluster)) :
    names = m.store.registrySecrets ns := by
  cases p with
  | done | log => cases advanced
  | ask call next =>
      simp only [Program.advance, Option.some.injEq, Prod.mk.injEq, Step.asked.injEq] at advanced
      obtain ⟨⟨rfl, answered⟩, -⟩ := advanced
      exact MemoryCluster.registrySecrets_of_answers (eq_of_heq answered)

/-- The history accounts for the store, at the end and at each of its moments, and every list it
tells of was complete. -/
structure Faithful (start : Store) (t : Traffic) : Prop where
  current : t.cluster.store = start.replay (t.history.map Moment.step)
  momentary : ∀ earlier moment later, t.history = earlier ++ moment :: later →
    moment.store = start.replay (earlier.map Moment.step)
  complete : ∀ moment ∈ t.history, ∀ ns names,
    moment.step = .asked (.listSecrets ns) (.ok names) → names = moment.store.registrySecrets ns

/-- A moment of a history that has grown by one is the new one or an old one. -/
theorem split_concat {history earlier later : List Moment} {new moment : Moment}
    (split : history ++ [new] = earlier ++ moment :: later) :
    (earlier = history ∧ moment = new ∧ later = []) ∨
      ∃ rest, later = rest ++ [new] ∧ history = earlier ++ moment :: rest := by
  rcases List.eq_nil_or_concat later with rfl | ⟨rest, last, rfl⟩
  · obtain ⟨same, ends⟩ := List.append_inj' split rfl
    cases ends
    exact .inl ⟨same.symm, rfl, rfl⟩
  · rw [List.concat_eq_append, ← List.cons_append, ← List.append_assoc] at split
    obtain ⟨same, ends⟩ := List.append_inj' split rfl
    cases ends
    exact .inr ⟨rest, List.concat_eq_append, same⟩

theorem run_faithful : (run settings m happenings).Faithful m.store := by
  apply run_induction
  case first =>
    exact ⟨rfl, by simp, by simp⟩
  case start =>
    intro t operation before
    exact ⟨before.current, before.momentary, before.complete⟩
  case replace =>
    intro t reviewer faults before
    exact ⟨before.current, before.momentary, before.complete⟩
  case advance =>
    intro t number p step rest cluster before found advanced
    constructor
    case current =>
      rw [advance_replays advanced]
      simp only [after, List.map_append, Store.replay_append, ← before.current]
      rfl
    case momentary =>
      intro earlier moment later split
      rcases split_concat split with ⟨rfl, rfl, -⟩ | ⟨old, -, split⟩
      · exact before.current
      · exact before.momentary earlier moment old split
    case complete =>
      intro moment member ns names lists
      rcases List.mem_append.1 member with old | new
      · exact before.complete moment old ns names lists
      · rw [List.mem_singleton] at new
        subst new
        subst lists
        exact advance_lists advanced

/-- The steps of a single operation in a history. -/
def own (number : Nat) (history : List Moment) : List Step :=
  (history.filter (·.number = number)).map Moment.step

theorem own_append (number : Nat) (history more : List Moment) :
    own number (history ++ more) = own number history ++ own number more := by
  simp only [own, List.filter_append, List.map_append]

theorem own_cons_self (moment : Moment) (history : List Moment) :
    own moment.number (moment :: history) = moment.step :: own moment.number history := by
  simp only [own, decide_true, List.filter_cons_of_pos, List.map_cons]

theorem own_of_ne {number : Nat} {history : List Moment}
    (others : ∀ moment ∈ history, moment.number ≠ number) : own number history = [] := by
  unfold own
  rw [List.map_eq_nil_iff, List.filter_eq_nil_iff]
  intro moment member same
  exact others moment member (of_decide_eq_true same)

/-- A history has no moment of some kind, or a last one. -/
theorem last_or_none (Holds : Moment → Prop) (history : List Moment) :
    (∀ moment ∈ history, ¬ Holds moment) ∨
      ∃ earlier last later, history = earlier ++ last :: later ∧ Holds last ∧
        ∀ moment ∈ later, ¬ Holds moment := by
  induction history with
  | nil => exact .inl (List.forall_mem_nil _)
  | cons first history ih =>
      rcases ih with never | ⟨earlier, last, later, rfl, holds, never⟩
      · by_cases holds : Holds first
        · exact .inr ⟨[], first, history, rfl, holds, never⟩
        · exact .inl (List.forall_mem_cons.2 ⟨holds, never⟩)
      · exact .inr ⟨first :: earlier, last, later, rfl, holds, never⟩

/-- The last step of an operation was done at some moment, and it was idle from then on. -/
theorem own_eq_concat {number : Nat} {history : List Moment} {steps : List Step} {step : Step}
    (did : own number history = steps ++ [step]) :
    ∃ before moment between, history = before ++ moment :: between ∧
      moment.number = number ∧ moment.step = step ∧
      ∀ other ∈ between, other.number ≠ number := by
  rcases last_or_none (·.number = number) history with
    never | ⟨before, moment, between, rfl, rfl, never⟩
  · rw [own_of_ne never] at did
    simp at did
  · rw [own_append, own_cons_self, own_of_ne never] at did
    obtain ⟨-, same⟩ := List.append_inj' did rfl
    exact ⟨before, moment, between, rfl, rfl, List.head_eq_of_cons_eq same, never⟩

/-- Every operation has followed a rule so far, and goes on to do so. -/
structure Orderly (rule : Rule) (t : Traffic) : Prop where
  followed : ∀ number, rule.Followed [] (own number t.history)
  keeps : ∀ number (p : Program Outcome), t.underway[number]? = some p →
    p.Keeps rule (own number t.history)
  started : ∀ moment ∈ t.history, moment.number < t.underway.length

theorem run_orderly {rule : Rule}
    (programs : ∀ operation : Operation, (operation.program settings).Keeps rule []) :
    (run settings m happenings).Orderly rule := by
  apply run_induction
  case first => exact ⟨fun _ => .nil, by simp, by simp⟩
  case replace =>
    intro t reviewer faults before
    exact ⟨before.followed, before.keeps, before.started⟩
  case start =>
    intro t operation before
    refine ⟨before.followed, ?_, ?_⟩
    · intro number p found
      by_cases old : number < t.underway.length
      · rw [List.getElem?_append_left old] at found
        exact before.keeps number p found
      · have fresh : t.underway.length ≤ number := Nat.le_of_not_lt old
        have idle := own_of_ne fun moment member =>
          Nat.ne_of_lt (Nat.lt_of_lt_of_le (before.started moment member) fresh)
        rw [List.getElem?_append_right fresh, List.getElem?_singleton] at found
        obtain ⟨-, same⟩ := Option.ite_none_right_eq_some.1 found
        cases same
        rw [idle]
        exact programs operation
    · intro moment member
      rw [List.length_append]
      exact Nat.lt_add_right _ (before.started moment member)
  case advance =>
    intro t mover p step rest cluster before found advanced
    obtain ⟨follows, goes⟩ := (before.keeps mover p found).advance advanced
    have mine : own mover (t.after mover step rest cluster).history =
        own mover t.history ++ [step] := by
      rw [after, own_append]
      exact congrArg _ (own_cons_self ⟨mover, step, t.cluster.store⟩ [])
    have theirs (number : Nat) (moved : mover ≠ number) :
        own number (t.after mover step rest cluster).history = own number t.history := by
      rw [after, own_append, own_of_ne (List.forall_mem_singleton.2 moved), List.append_nil]
    refine ⟨?_, ?_, ?_⟩
    · intro number
      by_cases moved : mover = number
      · subst moved
        rw [mine]
        exact (before.followed mover).append follows
      · rw [theirs number moved]
        exact before.followed number
    · intro number q there
      by_cases moved : mover = number
      · subst moved
        have within := (List.getElem?_eq_some_iff.1 found).1
        rw [after, List.getElem?_set_self within] at there
        cases there
        rw [mine]
        exact goes
      · rw [theirs number moved]
        rw [after, List.getElem?_set_ne moved] at there
        exact before.keeps number q there
    · intro moment member
      rw [after, List.length_set]
      rcases List.mem_append.1 member with old | new
      · exact before.started moment old
      · rw [List.mem_singleton] at new
        subst new
        exact (List.getElem?_eq_some_iff.1 found).1

end Traffic

end PullSecrets
