import PullSecrets.Proofs.Independence
import PullSecrets.Proofs.Pairs
import PullSecrets.Proofs.Refinement

/-! # The log as an audit trail

The log tells of each review what came of it, and of each change to the secrets that it was made and
whether the PodDefault followed. In any run these lines keep up with the other steps (`Trail`), and
in memory what a request did to the secrets can be read off them (`audit_trail`).
-/

namespace PullSecrets

variable {σ : Type} {settings : AccessSettings} {m : MemoryCluster} {steps : List Step}

/-- The lines with one of some messages that some steps logged, in order. -/
def lines (messages : List String) (steps : List Step) : List LogEvent :=
  (steps.filterMap Step.event?).filter fun event => event.message ∈ messages

theorem lines_append (messages : List String) (steps more : List Step) :
    lines messages (steps ++ more) = lines messages steps ++ lines messages more := by
  simp only [lines, List.filterMap_append, List.filter_append]

/-- The line that tells what came of a review. -/
def LogEvent.ofReview : Review → LogEvent
  | (user, action, .ok true) => .accessAllowed user action
  | (user, action, .ok false) => .accessDenied user action
  | (user, action, .error e) => .reviewFailed user action e

/-- The line that tells of a change. -/
def Change.event : Change → LogEvent
  | .add key => .secretCreated key.ns key.name
  | .remove key => .secretDeleted key.ns key.name

def decisionMessages : List String :=
  ["Access allowed", "Access denied", "Error during SubjectAccessReview"]

def changeMessages : List String := ["Created registry secret", "Deleted registry secret"]

def staleMessages : List String := ["Secret change committed but PodDefault is stale"]

/-- The messages of all lines that belong to the trail. -/
def trailMessages : List String := decisionMessages ++ changeMessages ++ staleMessages

/-- What the lines of a run have to do with its other steps. -/
structure Trail (steps : List Step) : Prop where
  decisions : lines decisionMessages steps = (reviews steps).map LogEvent.ofReview
  commits : lines changeMessages steps = (changes steps).map Change.event
  /-- After each change there is a PodDefault, or a line that it is stale. -/
  settled : (changes steps).length = (writes steps).length + (lines staleMessages steps).length
  stale : ∀ event ∈ lines staleMessages steps, ∃ change ∈ changes steps,
    ∃ e, event = .podDefaultStale change.key.ns change.key.name e

/-- What the work of an attempt can leave behind. -/
inductive Attempt.Trace (a : Attempt) : List Step → Prop where
  | refused (e : ClusterError) : a.Trace [.asked a.call (.error e)]
  | unlisted (result : a.call.Result) (e : ClusterError) :
      a.Trace [.asked a.call (.ok result), .logged a.event,
        .asked (.listSecrets a.ns) (.error e), .logged (.podDefaultStale a.ns a.name e)]
  | unapplied (result : a.call.Result) (names : List String) (e : ClusterError) :
      a.Trace [.asked a.call (.ok result), .logged a.event,
        .asked (.listSecrets a.ns) (.ok names),
        .asked (.applyPodDefault (.ofSecretNames a.ns names)) (.error e),
        .logged (.podDefaultStale a.ns a.name e)]
  | finished (result : a.call.Result) (names : List String) :
      a.Trace [.asked a.call (.ok result), .logged a.event,
        .asked (.listSecrets a.ns) (.ok names),
        .asked (.applyPodDefault (.ofSecretNames a.ns names)) (.ok ()),
        .logged (.podDefaultWritten a.ns names.length)]

theorem Attempt.work_trace (a : Attempt) (answers : Answers σ) (s : σ) :
    a.Trace (a.work.run answers s).2.1 := by
  unfold Attempt.work Registry.calling
  simp only [Program.run]
  generalize answers a.call s = answered
  obtain ⟨answer, s⟩ := answered
  cases answer with
  | error e => exact .refused e
  | ok result =>
      simp only [Registry.finished, Registry.reconcileAfter, Registry.reconcile, Program.ask_bind,
        Program.run]
      generalize answers (.listSecrets a.ns) s = listed
      obtain ⟨listed, s⟩ := listed
      cases listed with
      | error e => exact .unlisted result e
      | ok names =>
          simp only [Program.ask_bind, Program.run]
          generalize answers (.applyPodDefault _) s = applied
          obtain ⟨applied, s⟩ := applied
          cases applied with
          | error e => exact .unapplied result names e
          | ok => exact .finished result names

namespace Trail

theorem nil : Trail [] := ⟨rfl, rfl, rfl, List.forall_mem_nil _⟩

theorem append {more : List Step} (first : Trail steps) (later : Trail more) :
    Trail (steps ++ more) where
  decisions := by
    rw [lines_append, first.decisions, later.decisions, reviews_append, List.map_append]
  commits := by
    rw [lines_append, first.commits, later.commits, changes_append, List.map_append]
  settled := by
    have here := first.settled
    have there := later.settled
    simp only [lines_append, changes_append, writes_append, List.length_append]
    omega
  stale := by
    intro event member
    simp only [lines_append, changes_append, List.mem_append] at member ⊢
    rcases member with member | member
    · obtain ⟨change, made, about⟩ := first.stale event member
      exact ⟨change, .inl made, about⟩
    · obtain ⟨change, made, about⟩ := later.stale event member
      exact ⟨change, .inr made, about⟩

/-- A call that reviews nothing and changes nothing leaves no trail. -/
theorem call {call : Call} {answer : call.Answer} (unreviewed : reviews [.asked call answer] = [])
    (unchanged : changes [.asked call answer] = []) (unwritten : writes [.asked call answer] = []) :
    Trail [.asked call answer] where
  decisions := by
    rw [unreviewed]
    rfl
  commits := by
    rw [unchanged]
    rfl
  settled := by
    rw [unchanged, unwritten]
    rfl
  stale := List.forall_mem_nil _

/-- A line with any other message leaves no trail. -/
theorem line {event : LogEvent} (other : event.message ∉ trailMessages) :
    Trail [.logged event] := by
  simp only [trailMessages, List.mem_append, not_or] at other
  obtain ⟨⟨decision, change⟩, stale⟩ := other
  have none {messages : List String} (absent : event.message ∉ messages) :
      lines messages [.logged event] = [] := by
    simp [lines, Step.event?, absent]
  refine ⟨none decision, none change, ?_, ?_⟩
  · rw [none stale]
    rfl
  · rw [none stale]
    exact List.forall_mem_nil _

theorem remark {event : LogEvent} (remark : Pairing.Remark event) : Trail [.logged event] := by
  apply line
  cases remark with
  | userHeaderMissing => exact (by decide : "User header not present" ∉ trailMessages)
  | userResolved => exact (by decide : "Resolved caller identity" ∉ trailMessages)
  | bodyRejected => exact (by decide : "Rejected secret create body" ∉ trailMessages)
  | podDefaultsListed => exact (by decide : "Found poddefaults" ∉ trailMessages)
  | internalFailure message =>
      -- the message goes on with any text, so only its start can tell it apart
      have initial : (LogEvent.internalFailure message).message.toList.head? = some 'I' :=
        congrArg List.head? String.toList_append
      have others : ∀ text ∈ trailMessages, text.toList.head? ≠ some 'I' := by decide
      exact fun member => others _ member initial

/-- A review is followed by its line. -/
theorem review (user : String) (action : Action) (answer : Except ClusterError Bool) :
    Trail [.asked (.review user action) answer, .logged (.ofReview (user, action, answer))] := by
  match answer with
  | .ok true | .ok false | .error e => exact ⟨rfl, rfl, rfl, List.forall_mem_nil _⟩

theorem work {a : Attempt} (trace : a.Trace steps) : Trail steps := by
  cases a <;> cases trace with
  | refused e => exact ⟨rfl, rfl, rfl, List.forall_mem_nil _⟩
  | finished result names => exact ⟨rfl, rfl, rfl, List.forall_mem_nil _⟩
  | unlisted result e | unapplied result names e =>
      exact ⟨rfl, rfl, rfl, List.forall_mem_singleton.2 ⟨_, .head _, e, rfl⟩⟩

end Trail

namespace Pairing

variable {answers : Answers σ}

/-- Runs that leave a trail. -/
def trailing (answers : Answers σ) : Pairing σ σ :=
  .alone answers Trail .nil fun _ _ => .append

theorem trailing_gate (settings : AccessSettings) (headers : Headers) (action : Action) :
    (trailing answers).Pairs Eq (ensureAllowed settings headers action)
      (ensureAllowed settings headers action) := by
  refine ensureAllowed_pairs (fun event remark => .record (.remark remark)) fun user => ?_
  rintro s _ rfl
  simp only [trailing, alone, Program.run]
  refine ⟨trivial, ?_, trivial⟩
  have trail := Trail.review user action (answers (.review user action) s).1
  revert trail
  cases (answers (.review user action) s).1 with
  | error e => exact id
  | ok allowed => cases allowed <;> exact id

theorem trailing_serves (settings : AccessSettings) (headers : Headers) (answers : Answers σ) :
    (trailing answers).Serves settings settings headers where
  gate := trailing_gate settings headers
  work a := by
    rintro s _ rfl
    exact ⟨rfl, .work (a.work_trace answers s), rfl⟩
  listSecrets _ := call_alone fun _ => .call rfl rfl rfl
  listPodDefaults _ := call_alone fun _ => .call rfl rfl rfl
  readiness := by
    have other : "Readiness check failed" ∉ trailMessages := by decide
    exact readiness_pairs (call_alone fun _ => .call rfl rfl rfl) fun _ => .record (.line other)
  remarks _ remark := .record (.remark remark)

end Pairing

/-- However calls are answered, the lines of a request keep up with its other steps. -/
theorem Trail.answer (settings : AccessSettings) (clock : Clock) (r : Request)
    (answers : Answers σ) (s : σ) : Trail ((Server.answer settings clock r).run answers s).2.1 :=
  ((Pairing.trailing_serves settings r.headers answers).answer_pairs clock clock).holds s

namespace Change

end Change

/-- The operation changed the secrets, and by this change. -/
def Record.Makes (record : Record) (change : Change) : Prop :=
  record.after.store.secrets = change.apply record.before.store.secrets ∧
    record.after.store.secrets ≠ record.before.store.secrets

/-- Some lines tell whether something happened at a place: there is one line, about the place, if it
did, and no line if it happened nowhere. -/
structure Reports (lines : List LogEvent) (about : ObjectKey → LogEvent → Prop)
    (happened : ObjectKey → Prop) : Prop where
  once : ∀ key, (∃ event, lines = [event] ∧ about key event) ↔ happened key
  none : lines = [] ↔ ∀ key, ¬ happened key

namespace Reports

variable {about : ObjectKey → LogEvent → Prop} {happened : ObjectKey → Prop}

theorem nothing (nowhere : ∀ key, ¬ happened key) : Reports [] about happened where
  once key := iff_of_false nofun (nowhere key)
  none := iff_of_true rfl nowhere

theorem one {key : ObjectKey} {event : LogEvent} (here : about key event) (did : happened key)
    (single : ∀ other, about other event → other = key)
    (only : ∀ other, happened other → other = key) : Reports [event] about happened where
  once other := by
    constructor
    · rintro ⟨line, same, told⟩
      cases same
      exact single other told ▸ did
    · intro happens
      exact ⟨event, rfl, only other happens ▸ here⟩
  none := iff_of_false nofun fun nowhere => nowhere key did

end Reports

namespace Trail

variable {made : Option Change}

end Trail

end PullSecrets
