import PullSecrets.Program

/-! # Rules for calls

A rule says which call may follow which history. `Obeys` holds of a program that no answers lead
to break a rule, so it assumes nothing about the cluster behind the calls; `Obeys.run` carries it
over to any run. The statements are about histories, not about states: what a cluster keeps is
the matter of other modules.
-/

namespace PullSecrets

/-- What may be called, given all that was done before. -/
abbrev Rule : Type := List Step → Call → Prop

/-- Each call of a list of steps is allowed by what stands before it, after an earlier history. -/
def Rule.Followed (rule : Rule) (history steps : List Step) : Prop :=
  ∀ before call answer after, steps = before ++ .asked call answer :: after →
    rule (history ++ before) call

namespace Rule.Followed

variable {rule : Rule} {history steps : List Step}

theorem nil : rule.Followed history [] := by
  intro before call answer after split
  simp at split

theorem asked {call : Call} {answer : call.Answer} (first : rule history call)
    (rest : rule.Followed (history ++ [.asked call answer]) steps) :
    rule.Followed history (.asked call answer :: steps) := by
  intro before other reply after split
  cases before with
  | nil =>
      cases (List.cons.inj split).1
      simpa only [List.append_nil] using first
  | cons step before =>
      obtain ⟨rfl, others⟩ := List.cons.inj split
      simpa only [List.append_assoc, List.singleton_append] using
        rest before other reply after others

theorem logged {event : LogEvent} (rest : rule.Followed (history ++ [.logged event]) steps) :
    rule.Followed history (.logged event :: steps) := by
  intro before call answer after split
  cases before with
  | nil => cases (List.cons.inj split).1
  | cons step before =>
      obtain ⟨rfl, others⟩ := List.cons.inj split
      simpa only [List.append_assoc, List.singleton_append] using
        rest before call answer after others

theorem append {more : List Step} (first : rule.Followed history steps)
    (rest : rule.Followed (history ++ steps) more) : rule.Followed history (steps ++ more) := by
  intro before call answer after split
  rcases List.append_eq_append_iff.1 split with ⟨middle, rfl, later⟩ | ⟨middle, rfl, earlier⟩
  · simpa only [List.append_assoc] using rest middle call answer after later
  · cases middle with
    | nil =>
        simpa only [List.append_nil] using rest [] call answer after (by simpa using earlier.symm)
    | cons step middle =>
        obtain ⟨rfl, -⟩ := List.cons.inj earlier
        exact first before call answer middle rfl

end Rule.Followed

namespace Program

variable {α β σ : Type} {rule : Rule} {history : List Step}

/-- After `history`, every call of the program follows the rule, and what was done up to its end
goes with its result as `post` says. -/
def Obeys (rule : Rule) (post : List Step → α → Prop) (history : List Step) : Program α → Prop
  | .done a => post history a
  | .ask call next =>
      rule history call ∧ ∀ answer, Obeys rule post (history ++ [.asked call answer]) (next answer)
  | .log event next => Obeys rule post (history ++ [.logged event]) next

/-- Every call of the program follows the rule. -/
abbrev Keeps (rule : Rule) (history : List Step) (p : Program α) : Prop :=
  p.Obeys rule (fun _ _ => True) history

namespace Obeys

variable {p : Program α} {post : List Step → α → Prop}

theorem mono {weaker : List Step → α → Prop} (obeys : p.Obeys rule post history)
    (implies : ∀ all a, post all a → weaker all a) : p.Obeys rule weaker history := by
  induction p generalizing history with
  | done a => exact implies history a obeys
  | ask call next ih => exact ⟨obeys.1, fun answer => ih answer (obeys.2 answer)⟩
  | log event next ih => exact ih obeys

/-- The continuation starts from a history that extends the one at the start, so that what was
known there still holds. -/
theorem bind {f : α → Program β} {last : List Step → β → Prop} (first : p.Obeys rule post history)
    (rest : ∀ all a, history <+: all → post all a → (f a).Obeys rule last all) :
    (p >>= f).Obeys rule last history := by
  suffices general : ∀ start, start <+: history →
      (∀ all a, start <+: all → post all a → (f a).Obeys rule last all) →
      (p >>= f).Obeys rule last history from
    general history List.prefix_rfl rest
  clear rest
  intro start grown rest
  induction p generalizing history with
  | done a => exact rest history a grown first
  | ask call next ih =>
      refine ⟨first.1, fun answer => ih answer (first.2 answer) ?_⟩
      exact grown.trans (List.prefix_append _ _)
  | log event next ih => exact ih first (grown.trans (List.prefix_append _ _))

theorem bind_keeps {f : α → Program β} (first : p.Keeps rule history)
    (rest : ∀ all a, (f a).Keeps rule all) : (p >>= f).Keeps rule history :=
  first.bind fun all a _ _ => rest all a

theorem map {f : α → β} (obeys : p.Keeps rule history) : (f <$> p).Keeps rule history :=
  obeys.bind fun _ _ _ _ => trivial

/-- A program that obeys a rule follows it in every run. -/
theorem run (obeys : p.Obeys rule post history) (answers : Answers σ) (s : σ) :
    rule.Followed history (p.run answers s).2.1 ∧
      post (history ++ (p.run answers s).2.1) (p.run answers s).1 := by
  induction p generalizing history s with
  | done a => exact ⟨.nil, by simpa [Program.run, Obeys] using obeys⟩
  | ask call next ih =>
      obtain ⟨followed, reached⟩ := ih _ (obeys.2 (answers call s).1) (answers call s).2
      exact ⟨followed.asked obeys.1, by simpa [Program.run] using reached⟩
  | log event next ih =>
      obtain ⟨followed, reached⟩ := ih obeys s
      exact ⟨followed.logged, by simpa [Program.run] using reached⟩

end Obeys

/-- The program comes to `a` and does no more than log on the way. -/
def Yields (a : α) : Program α → Prop
  | .done b => b = a
  | .ask .. => False
  | .log _ next => next.Yields a

namespace Yields

variable {p : Program α} {a : α}

theorem bind {f : α → Program β} {b : β} (yields : p.Yields a) (later : (f a).Yields b) :
    (p >>= f).Yields b := by
  induction p with
  | done c =>
      cases (yields : c = a)
      exact later
  | ask call next => exact yields.elim
  | log event next ih => exact ih yields

theorem obeys (yields : p.Yields a) : p.Obeys rule (fun _ b => b = a) history := by
  induction p generalizing history with
  | done b => exact yields
  | ask call next => exact yields.elim
  | log event next ih => exact ih yields

theorem keeps (yields : p.Yields a) : p.Keeps rule history :=
  yields.obeys.mono fun _ _ _ => trivial

theorem run (yields : p.Yields a) (answers : Answers σ) (s : σ) :
    ∃ events : List LogEvent, p.run answers s = (a, events.map .logged, s) := by
  induction p with
  | done b => exact ⟨[], by rw [Program.run, yields]; rfl⟩
  | ask call next => exact yields.elim
  | log event next ih =>
      obtain ⟨events, result⟩ := ih yields
      exact ⟨event :: events, by rw [Program.run, result]; rfl⟩

end Yields

end Program

end PullSecrets
