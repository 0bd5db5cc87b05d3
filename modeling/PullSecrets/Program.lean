import PullSecrets.Cluster.Call
import PullSecrets.Log

/-!
# Programs over a cluster

A `Program` makes calls to a cluster, one after another, and logs; what it does next may depend on
the answers. It says nothing about who answers: `run` takes any way of answering, with a state of
its own, and gives back the result together with a record of all that was done.
-/

namespace PullSecrets

/-- A computation that makes calls and logs. -/
inductive Program (α : Type) : Type where
  | done (a : α)
  /-- A call, and what follows each answer. -/
  | ask (call : Call) (next : call.Answer → Program α)
  /-- A line in the log, and what follows. -/
  | log (event : LogEvent) (next : Program α)

/-- A thing done: a call with its answer, or a line in the log. -/
inductive Step where
  | asked (call : Call) (answer : call.Answer)
  | logged (event : LogEvent)

/-- A way of answering calls, with a state. -/
abbrev Answers (σ : Type) : Type := (call : Call) → σ → call.Answer × σ

namespace Program

variable {α β σ : Type}

def bind (p : Program α) (f : α → Program β) : Program β :=
  match p with
  | .done a => f a
  | .ask call next => .ask call fun answer => (next answer).bind f
  | .log event next => .log event (next.bind f)

instance : Monad Program where
  pure := .done
  bind := bind

def call (c : Call) : Program c.Answer := .ask c .done

def record (event : LogEvent) : Program Unit := .log event (.done ())

/-- The result of a program, the things it did, and the state that the answers left. -/
def run (answers : Answers σ) : Program α → σ → α × List Step × σ
  | .done a, s => (a, [], s)
  | .ask c next, s =>
    let (answer, s) := answers c s
    let (a, steps, s) := run answers (next answer) s
    (a, .asked c answer :: steps, s)
  | .log event next, s =>
    let (a, steps, s) := run answers next s
    (a, .logged event :: steps, s)

@[simp] theorem pure_eq (a : α) : (pure a : Program α) = .done a := rfl

@[simp] theorem done_bind (a : α) (f : α → Program β) : (Program.done a >>= f) = f a := rfl

@[simp] theorem ask_bind (c : Call) (next : c.Answer → Program α) (f : α → Program β) :
    (Program.ask c next >>= f) = .ask c fun answer => next answer >>= f := rfl

@[simp] theorem log_bind (e : LogEvent) (next : Program α) (f : α → Program β) :
    (Program.log e next >>= f) = .log e (next >>= f) := rfl

@[simp] theorem call_bind (c : Call) (f : c.Answer → Program β) :
    (Program.call c >>= f) = .ask c f := rfl

@[simp] theorem record_bind (e : LogEvent) (f : Unit → Program β) :
    (Program.record e >>= f) = .log e (f ()) := rfl

@[simp] theorem run_done (answers : Answers σ) (a : α) (s : σ) :
    run answers (.done a) s = (a, [], s) := rfl

/-- A program and its continuation run one after the other. -/
theorem run_bind (answers : Answers σ) (p : Program α) (f : α → Program β) (s : σ) :
    run answers (p >>= f) s =
      let (a, steps, s) := run answers p s
      let (b, more, s) := run answers (f a) s
      (b, steps ++ more, s) := by
  induction p generalizing s with
  | done a => rfl
  | ask c next ih => simp [run, ih]
  | log e next ih => simp [run, ih]

end Program

namespace Step

def call? : Step → Option Call
  | .asked c _ => some c
  | .logged _ => none

def event? : Step → Option LogEvent
  | .asked .. => none
  | .logged e => some e

end Step

end PullSecrets
