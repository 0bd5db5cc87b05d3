import PullSecrets.Proofs.Courses
import PullSecrets.Proofs.FailStop
import PullSecrets.Proofs.Replies
import PullSecrets.Proofs.Stages

/-! # Requests that do not depend on one another

In memory, what an attempt at a change comes to is decided by the rules of the cluster and by
whether there is a secret in its place (`attempt_settles`). The registry PodDefault is computed from
all secrets of its namespace, so changes in different places commute (`Store.settle_comm`), and
requests for different secrets get the same replies in any order (`order_irrelevant`).
-/

namespace PullSecrets

/-- A question to the reviewer, with the answer. -/
abbrev Review : Type := String × Action × Except ClusterError Bool

def Step.review? : Step → Option Review
  | .asked (.review user action) answer => some (user, action, answer)
  | _ => none

/-- The reviews among some steps, in order. -/
def reviews (steps : List Step) : List Review := steps.filterMap Step.review?

theorem reviews_append (steps more : List Step) :
    reviews (steps ++ more) = reviews steps ++ reviews more := List.filterMap_append

theorem reviews_eq_nil {steps : List Step}
    (unasked : ∀ user action, .review user action ∉ calls steps) : reviews steps = [] := by
  refine List.filterMap_eq_nil_iff.2 fun step member => ?_
  cases step with
  | logged event => rfl
  | asked call answer =>
      cases call with
      | review user action => exact absurd (mem_calls member) (unasked user action)
      | createSecret | listSecrets | deleteSecret | applyPodDefault | listPodDefaults
      | serverVersion => rfl

theorem Program.Yields.reviews {α σ : Type} {p : Program α} {a : α} (yields : p.Yields a)
    (answers : Answers σ) (s : σ) : PullSecrets.reviews (p.run answers s).2.1 = [] :=
  reviews_eq_nil fun user action => by simp [yields.calls answers s]

variable {settings : AccessSettings} {headers : Headers} {m : MemoryCluster} {α : Type}

namespace Change

variable {c d : Change}

theorem find?_apply_self (c : Change) (secrets others : SortedMap ObjectKey String) :
    (c.apply secrets).find? c.key = (c.apply others).find? c.key := by
  cases c with
  | add key => simp only [apply, Change.key, SortedMap.find?_insert_self]
  | remove key =>
      simp only [apply, Change.key, SortedMap.find?_erase, Std.ReflOrd.compare_self, if_true]

theorem apply_comm (apart : c.key ≠ d.key) (secrets : SortedMap ObjectKey String) :
    d.apply (c.apply secrets) = c.apply (d.apply secrets) := by
  apply SortedMap.ext_find?
  intro key
  by_cases first : key = c.key
  · subst first
    rw [find?_apply_of_ne _ d apart]
    exact find?_apply_self c _ _
  · rw [find?_apply_of_ne _ c first]
    by_cases second : key = d.key
    · subst second
      exact find?_apply_self d _ _
    · simp only [find?_apply_of_ne _ d second, find?_apply_of_ne _ c first]

end Change

namespace Store

variable {s t : Store} {ns : String}

theorem eq_of_parts (secrets : s.secrets = t.secrets)
    (podDefaults : s.podDefaults = t.podDefaults) :
    s = t := by
  cases s
  cases t
  cases secrets
  cases podDefaults
  rfl

/-- The registry secrets of a namespace do not depend on those of others. -/
theorem registrySecrets_congr
    (same : ∀ name, s.secrets.find? ⟨ns, name⟩ = t.secrets.find? ⟨ns, name⟩) :
    s.registrySecrets ns = t.registrySecrets ns := by
  have kept : s.secrets.filter (fun key type => key.ns = ns && type = Secret.registryType) =
      t.secrets.filter fun key type => key.ns = ns && type = Secret.registryType := by
    apply SortedMap.ext_find?
    intro key
    apply Option.ext
    intro type
    rw [SortedMap.find?_filter_eq_some_iff, SortedMap.find?_filter_eq_some_iff]
    refine and_congr_left fun passes => ?_
    simp only [Bool.and_eq_true, decide_eq_true_eq] at passes
    obtain ⟨rfl, -⟩ := passes
    rw [same key.name]
  rw [registrySecrets, registrySecrets, kept]

/-- The store after a change, if there is one, that the PodDefault follows or does not. -/
def settle (s : Store) (follows : Bool) : Option Change → Store
  | none => s
  | some change =>
      if follows then (s.revise [change] []).renewed change.key.ns else s.revise [change] []

@[simp] theorem secrets_settle (s : Store) (follows : Bool) (change : Change) :
    (s.settle follows (some change)).secrets = change.apply s.secrets := by
  cases follows <;> rfl

theorem podDefaults_settle (s : Store) (change : Change) :
    (s.settle true (some change)).podDefaults =
      s.podDefaults.insert (PodDefault.registryKey change.key.ns)
        (.ofSecretNames change.key.ns
          ((s.settle true (some change)).registrySecrets change.key.ns)) := rfl

theorem find?_settle_of_ne {follows : Bool} {change? : Option Change} {key : ObjectKey}
    (elsewhere : ∀ change ∈ change?, change.key ≠ key) :
    (s.settle follows change?).secrets.find? key = s.secrets.find? key := by
  cases change? with
  | none => rfl
  | some change =>
      rw [secrets_settle]
      exact Change.find?_apply_of_ne _ change (elsewhere change rfl).symm

theorem registrySecrets_settle_of_ne {follows : Bool} {change : Change}
    (elsewhere : change.key.ns ≠ ns) :
    (s.settle follows (some change)).registrySecrets ns = s.registrySecrets ns := by
  refine registrySecrets_congr fun name => find?_settle_of_ne fun other member same => ?_
  cases member
  exact elsewhere (congrArg ObjectKey.ns same)

/-- Changes in different places commute. In one namespace both PodDefaults go to the same place, but
the later one is computed from both changes, whichever that is. -/
theorem settle_comm {follows : Bool} {first second : Option Change}
    (apart : ∀ c ∈ first, ∀ d ∈ second, c.key ≠ d.key) :
    (s.settle follows first).settle follows second =
      (s.settle follows second).settle follows first := by
  cases first with
  | none => rfl
  | some c =>
      cases second with
      | none => rfl
      | some d =>
          have secrets : d.apply (c.apply s.secrets) = c.apply (d.apply s.secrets) :=
            Change.apply_comm (apart c rfl d rfl) s.secrets
          cases follows with
          | false => exact congrArg (Store.mk · s.podDefaults) secrets
          | true =>
              have names (ns : String) :
                  ((s.settle true (some c)).settle true (some d)).registrySecrets ns =
                    ((s.settle true (some d)).settle true (some c)).registrySecrets ns :=
                registrySecrets_congr fun name => by simp only [secrets_settle, secrets]
              apply eq_of_parts secrets
              simp only [podDefaults_settle, names]
              -- the two PodDefaults are one and the later wins, or they do not meet
              by_cases together : c.key.ns = d.key.ns
              · rw [together, SortedMap.insert_insert, SortedMap.insert_insert]
              · have keys : PodDefault.registryKey c.key.ns ≠ PodDefault.registryKey d.key.ns :=
                  fun same => together (ObjectKey.mk.inj same).1
                rw [SortedMap.insert_comm _ keys,
                  ← registrySecrets_settle_of_ne (s := s.settle true (some c)) (Ne.symm together),
                  names, registrySecrets_settle_of_ne (s := s.settle true (some d)) together]

end Store

namespace MemoryCluster

/-- Why the cluster would not make the change of an attempt. -/
def objection? (m : MemoryCluster) : Attempt → Option ClusterError
  | .creation c =>
      m.faults.createSecret.or ((m.store.secrets.find? c.key).map fun _ => secretExists c.name)
  | .removal ns name =>
      m.faults.deleteSecret.or <|
        match m.store.secrets.find? ⟨ns, name⟩ with
        | some _ => none
        | none => some (secretMissing name)

/-- Why no PodDefault would follow a change. -/
def hindrance? (m : MemoryCluster) : Option ClusterError :=
  m.faults.listSecrets.or m.faults.applyPodDefault

theorem answers_of_objection {a : Attempt} {e : ClusterError} (objects : m.objection? a = some e) :
    answers a.call m = (.error e, m) := by
  cases a with
  | creation c =>
      cases fault : m.faults.createSecret with
      | some other =>
          obtain rfl : other = e := by simpa [objection?, fault] using objects
          exact answers_createSecret_fault fault
      | none =>
          obtain ⟨type, taken, rfl⟩ : ∃ type, m.store.secrets.find? c.key = some type ∧
              secretExists c.name = e := by simpa [objection?, fault] using objects
          exact answers_createSecret_taken fault taken
  | removal ns name =>
      cases fault : m.faults.deleteSecret with
      | some other =>
          obtain rfl : other = e := by simpa [objection?, fault] using objects
          exact answers_deleteSecret_fault fault
      | none =>
          cases missing : m.store.secrets.find? ⟨ns, name⟩ with
          | some type => simp [objection?, fault, missing] at objects
          | none =>
              obtain rfl : secretMissing name = e := by
                simpa [objection?, fault, missing] using objects
              exact answers_deleteSecret_missing fault missing

theorem answers_of_no_objection {a : Attempt} (accepts : m.objection? a = none) :
    ∃ result, answers a.call m = (.ok result, m.withStore (m.store.revise [a.change] [])) := by
  cases a with
  | creation c =>
      simp only [objection?, Option.or_eq_none_iff, Option.map_eq_none_iff] at accepts
      exact ⟨(), answers_createSecret_free accepts.1 accepts.2⟩
  | removal ns name =>
      simp only [objection?, Option.or_eq_none_iff] at accepts
      cases present : m.store.secrets.find? ⟨ns, name⟩ with
      | none => simp [present] at accepts
      | some type => exact ⟨(), answers_deleteSecret_present accepts.1 present⟩

theorem renewal_eq (m : MemoryCluster) (ns : String) :
    m.renewal ns =
      match m.hindrance? with
      | some e => .error e
      | none => .ok (.ofSecretNames ns (m.store.registrySecrets ns)) := by
  unfold renewal hindrance?
  cases m.faults.listSecrets <;> rfl

end MemoryCluster

namespace Attempt

/-- What an attempt comes to: the change that is made, if any, and the result. -/
def course (settings : AccessSettings) (headers : Headers) (m : MemoryCluster) (a : Attempt) :
    Option Change × Except ServiceError String :=
  match m.reviewer.verdict settings headers (.secrets a.verb a.ns) with
  | .error e => (none, .error (.unauthorized e))
  | .ok () =>
      match m.reviewer.verdict settings headers (.podDefaults "create" a.ns) with
      | .error e => (none, .error (.unauthorized e))
      | .ok () =>
          match m.objection? a with
          | some e => (none, .error (.cluster e))
          | none =>
              match m.hindrance? with
              | some e => (some a.change, .error (.cluster e))
              | none => (some a.change, .ok a.report)

variable {a : Attempt}

theorem work_brief_of_objection {e : ClusterError} (objects : m.objection? a = some e) :
    a.work.brief m = (.error (.cluster e), [], []) :=
  Program.brief_ask_error (MemoryCluster.answers_of_objection objects) _

theorem work_brief_of_no_objection (accepts : m.objection? a = none) :
    a.work.brief m =
      match m.hindrance? with
      | some e => (.error (.cluster e), [a.change], [])
      | none => (.ok a.report, [a.change],
          [.ofSecretNames a.ns ((m.store.revise [a.change] []).registrySecrets a.ns)]) := by
  obtain ⟨result, answered⟩ := MemoryCluster.answers_of_no_objection accepts
  have made : changes [.asked a.call (.ok result)] = [a.change] ∧
      writes [.asked a.call (.ok result)] = [] := by cases a <;> exact ⟨rfl, rfl⟩
  have same : (m.withStore (m.store.revise [a.change] [])).hindrance? = m.hindrance? := rfl
  unfold work Registry.calling
  rw [Program.brief_ask answered, made.1, made.2]
  simp only [finished_brief, MemoryCluster.renewal_eq, same]
  cases m.hindrance? <;> rfl

/-- What an attempt leaves behind is what it comes to, and the PodDefault follows a change unless
something hinders it. -/
theorem program_brief (settings : AccessSettings) (headers : Headers) (m : MemoryCluster)
    (a : Attempt) :
    ∃ cs ps, (a.program settings headers).brief m = ((a.course settings headers m).2, cs, ps) ∧
      m.store.revise cs ps =
        m.store.settle m.hindrance?.isNone (a.course settings headers m).1 := by
  unfold program course
  rw [gated_brief, gated_brief]
  cases m.reviewer.verdict settings headers (.secrets a.verb a.ns) with
  | error e => exact ⟨[], [], rfl, rfl⟩
  | ok =>
      cases m.reviewer.verdict settings headers (.podDefaults "create" a.ns) with
      | error e => exact ⟨[], [], rfl, rfl⟩
      | ok =>
          cases objection : m.objection? a with
          | some e => exact ⟨[], [], work_brief_of_objection objection, rfl⟩
          | none =>
              have whole := work_brief_of_no_objection objection
              have place : a.change.key.ns = a.ns := by simp only [change_key]
              cases hindrance : m.hindrance? with
              | some e =>
                  rw [hindrance] at whole
                  exact ⟨_, _, whole, rfl⟩
              | none =>
                  rw [hindrance] at whole
                  exact ⟨_, _, whole, by simp only [Store.settle, place]; rfl⟩

/-- Of the secrets, only the one in its own place has a say in what an attempt comes to. -/
theorem course_withStore {s : Store}
    (same : s.secrets.find? a.change.key = m.store.secrets.find? a.change.key) :
    a.course settings headers (m.withStore s) = a.course settings headers m := by
  have objection : (m.withStore s).objection? a = m.objection? a := by
    cases a with
    | creation c =>
        have same : s.secrets.find? c.key = m.store.secrets.find? c.key := same
        simp only [MemoryCluster.objection?, MemoryCluster.withStore_faults,
          MemoryCluster.withStore_store, same]
    | removal ns name =>
        have same : s.secrets.find? ⟨ns, name⟩ = m.store.secrets.find? ⟨ns, name⟩ := same
        simp only [MemoryCluster.objection?, MemoryCluster.withStore_faults,
          MemoryCluster.withStore_store, same]
  unfold course
  rw [objection]
  rfl

theorem change_of_course {change : Change} (made : (a.course settings headers m).1 = some change) :
    change = a.change := by
  unfold course at made
  split at made
  · cases made
  · split at made
    · cases made
    · split at made
      · cases made
      · split at made <;> exact (Option.some.inj made).symm

end Attempt

/-- Only reviews are asked for. -/
def OnlyReviews : Rule := fun _ call => ∃ user action, call = .review user action

/-- Reviews neither change a cluster in memory nor look at what it stores. -/
theorem run_of_onlyReviews {p : Program α} {history : List Step}
    (only : p.Keeps OnlyReviews history) (m : MemoryCluster) :
    ∃ result steps, ∀ s, p.run MemoryCluster.answers (m.withStore s) =
      (result, steps, m.withStore s) := by
  induction p generalizing history with
  | done a => exact ⟨a, [], fun s => rfl⟩
  | ask call next ih =>
      obtain ⟨⟨user, action, rfl⟩, later⟩ := only
      have here (s : Store) : MemoryCluster.answers (.review user action) (m.withStore s) =
          (m.reviewer user action, m.withStore s) := rfl
      obtain ⟨result, steps, same⟩ := ih _ (later (m.reviewer user action))
      refine ⟨result, .asked (.review user action) (m.reviewer user action) :: steps, fun s => ?_⟩
      simp only [Program.run, here, same]
  | log event next ih =>
      obtain ⟨result, steps, same⟩ := ih only
      refine ⟨result, .logged event :: steps, fun s => ?_⟩
      simp only [Program.run, same]

theorem ensureAllowed_onlyReviews (settings : AccessSettings) (headers : Headers)
    (action : Action) : (ensureAllowed settings headers action).Keeps OnlyReviews [] :=
  (ensureAllowed_obeys fun _ name _ => ⟨name, action, rfl⟩).mono fun _ _ _ => trivial

/-- A gate does not make reviews depend on the store. -/
theorem gated_reviews {action : Action} {next : Program (Except ServiceError α)}
    (later : ∀ s, reviews (next.run MemoryCluster.answers (m.withStore s)).2.1 =
      reviews (next.run MemoryCluster.answers m).2.1) (s : Store) :
    reviews ((Registry.gated settings headers action next).run MemoryCluster.answers
        (m.withStore s)).2.1 =
      reviews ((Registry.gated settings headers action next).run MemoryCluster.answers m).2.1 := by
  obtain ⟨result, steps, asked⟩ :=
    run_of_onlyReviews (ensureAllowed_onlyReviews settings headers action) m
  have here := asked m.store
  rw [MemoryCluster.withStore_self] at here
  unfold Registry.gated
  rw [Program.run_bind, Program.run_bind, asked s, here]
  cases result with
  | error e => rfl
  | ok => simp only [reviews_append, later s]

theorem Attempt.reviews_work (a : Attempt) (m : MemoryCluster) :
    reviews (a.work.run MemoryCluster.answers m).2.1 = [] := by
  obtain ⟨names, staged, -⟩ := (work_follows a).staged MemoryCluster.answers m
  refine reviews_eq_nil fun user action asked => ?_
  have planned := staged.in_order.subset asked
  cases a <;> simp [call] at planned

theorem Attempt.reviews_program (a : Attempt) (s : Store) :
    reviews ((a.program settings headers).run MemoryCluster.answers (m.withStore s)).2.1 =
      reviews ((a.program settings headers).run MemoryCluster.answers m).2.1 := by
  refine gated_reviews (gated_reviews fun s => ?_) s
  rw [a.reviews_work, a.reviews_work]

/-- What somebody sees who watches a caller and the reviewer: a request, its response without the
time, and the reviews that were made for it. -/
structure Reply where
  request : Request
  response : Response
  reviews : List Review

/-- The reply that an operation brought, if it was a request. -/
def Record.reply? (record : Record) : Option Reply :=
  match record.operation, record.outcome with
  | .request _ r, .answered response => some ⟨r, response.timeless, reviews record.steps⟩
  | _, _ => none

namespace Request

variable {r : Request} {clock : Clock}

instance (r : Request) : Decidable r.Writes := inferInstanceAs (Decidable (_ ∧ _))

/-- The place that a request would change. -/
def key? (r : Request) : Option ObjectKey := r.attempt?.map fun a => a.change.key

/-- The change that a request makes. -/
def change? (settings : AccessSettings) (m : MemoryCluster) (r : Request) : Option Change :=
  r.attempt?.bind fun a => (a.course settings r.headers m).1

/-- The reply to a request that comes first. -/
def reply (settings : AccessSettings) (m : MemoryCluster) (r : Request) : Reply :=
  let (response, steps, _) := (Server.answer settings default r).run MemoryCluster.answers m
  ⟨r, response.timeless, reviews steps⟩

theorem key_of_change {change : Change} (made : change ∈ r.change? settings m) :
    r.key? = some change.key := by
  obtain ⟨a, attempted, made⟩ := Option.bind_eq_some_iff.1 made
  rw [Attempt.change_of_course made, key?, attempted]
  rfl

theorem change?_withStore {s : Store}
    (same : ∀ key ∈ r.key?, s.secrets.find? key = m.store.secrets.find? key) :
    r.change? settings (m.withStore s) = r.change? settings m := by
  unfold change?
  cases attempted : r.attempt? with
  | none => rfl
  | some a =>
      refine congrArg Prod.fst (Attempt.course_withStore (same _ ?_))
      rw [key?, attempted]
      rfl

theorem answer_brief (settings : AccessSettings) (clock : Clock) (m : MemoryCluster) {a : Attempt}
    (attempted : r.attempt? = some a) :
    ∃ cs ps, (Server.answer settings clock r).brief m =
      (Server.tell clock a (a.course settings r.headers m).2, cs, ps) ∧
        m.store.revise cs ps =
          m.store.settle m.hindrance?.isNone (a.course settings r.headers m).1 := by
  obtain ⟨cs, ps, brief, settled⟩ := a.program_brief settings r.headers m
  refine ⟨cs, ps, ?_, settled⟩
  rw [Server.answer_of_attempt attempted,
    Program.brief_bind_of_yields fun result => Server.conclude_yields _ _ _ result, brief]
  rfl

theorem reviews_answer {a : Attempt} (attempted : r.attempt? = some a) :
    reviews ((Server.answer settings clock r).run MemoryCluster.answers m).2.1 =
      reviews ((a.program settings r.headers).run MemoryCluster.answers m).2.1 := by
  rw [Server.answer_of_attempt attempted, Program.run_bind]
  simp only [reviews_append, (Server.conclude_yields _ _ _ _).reviews, List.append_nil]

/-- A request leaves behind the change it makes, and the PodDefault if that can follow. -/
theorem after_perform (writes : r.Writes) :
    ((Operation.request clock r).perform settings m).after =
      m.withStore (m.store.settle m.hindrance?.isNone (r.change? settings m)) := by
  rw [Operation.perform_request, change?]
  cases attempted : r.attempt? with
  | none =>
      obtain ⟨response, yields, -⟩ := Server.answer_of_no_attempt settings writes attempted
      exact Program.after_of_brief (yields clock).brief
  | some a =>
      obtain ⟨cs, ps, brief, settled⟩ := answer_brief settings clock m attempted
      rw [Option.bind_some, ← settled]
      exact Program.after_of_brief brief

/-- A request gets the reply that it would get if it came first, as long as the secret in its place
is the same. -/
theorem reply_perform (settings : AccessSettings) (clock : Clock) (writes : r.Writes) {s : Store}
    (same : ∀ key ∈ r.key?, s.secrets.find? key = m.store.secrets.find? key) :
    ((Operation.request clock r).perform settings (m.withStore s)).reply? =
      some (r.reply settings m) := by
  rw [Operation.perform_request, reply]
  cases attempted : r.attempt? with
  | none =>
      obtain ⟨response, yields, timeless⟩ :=
        Server.answer_of_no_attempt settings writes attempted
      simp only [Record.reply?, (yields _).result, (yields _).reviews,
        timeless clock default]
  | some a =>
      have place : a.change.key ∈ r.key? := by simp [key?, attempted]
      obtain ⟨_, _, brief, -⟩ := answer_brief settings clock (m.withStore s) attempted
      obtain ⟨_, _, first, -⟩ := answer_brief settings default m attempted
      simp only [Record.reply?, Program.result_of_brief brief, Program.result_of_brief first,
        reviews_answer attempted, a.reviews_program, Attempt.course_withStore (same _ place),
        Server.tell_timeless clock default]

end Request

namespace Session

/-- Requests that come one after another, each at its time. -/
def requests (visits : List (Clock × Request)) : List Event :=
  visits.map fun (clock, r) => .perform (.request clock r)

/-- No place is changed by two requests. -/
def Apart (requests : List Request) : Prop :=
  requests.Pairwise fun r other => ∀ key ∈ r.key?, key ∉ other.key?

/-- The places of some requests are as they are in a cluster. -/
def Untouched (m : MemoryCluster) (s : Store) (requests : List Request) : Prop :=
  ∀ r ∈ requests, ∀ key ∈ r.key?, s.secrets.find? key = m.store.secrets.find? key

variable {visits : List (Clock × Request)} {s : Store}

instance (rs : List Request) : Decidable (Apart rs) :=
  inferInstanceAs (Decidable (List.Pairwise _ rs))

theorem Untouched.settle {r : Request} {rs : List Request} {follows : Bool}
    (untouched : Untouched m s (r :: rs)) (apart : Apart (r :: rs)) :
    Untouched m (s.settle follows (r.change? settings m)) rs := by
  intro other member key here
  rw [Store.find?_settle_of_ne, untouched other (.tail _ member) key here]
  rintro change made rfl
  exact List.rel_of_pairwise_cons apart member change.key (Request.key_of_change made) here

theorem replies_requests (settings : AccessSettings)
    (writes : ∀ visit ∈ visits, visit.2.Writes) (apart : Apart (visits.map Prod.snd))
    (untouched : Untouched m s (visits.map Prod.snd)) :
    (records settings (m.withStore s) (requests visits)).filterMap Record.reply? =
        visits.map (fun visit => visit.2.reply settings m) ∧
      final settings (m.withStore s) (requests visits) =
        m.withStore ((visits.map fun visit => visit.2.change? settings m).foldl
          (Store.settle · m.hindrance?.isNone) s) := by
  induction visits generalizing s with
  | nil => exact ⟨rfl, rfl⟩
  | cons visit visits ih =>
      obtain ⟨clock, r⟩ := visit
      have here := writes _ (.head _)
      have same := untouched r (.head _)
      obtain ⟨replies, last⟩ := ih (fun visit member => writes visit (.tail _ member))
        (List.Pairwise.of_cons apart) (untouched.settle apart)
      have after : ((Operation.request clock r).perform settings (m.withStore s)).after =
          m.withStore (s.settle m.hindrance?.isNone (r.change? settings m)) := by
        rw [Request.after_perform here, Request.change?_withStore same]
        rfl
      constructor
      · have reply := Request.reply_perform settings clock here same
        simp only [requests, List.map_cons, records, List.filterMap_cons, reply, after]
        exact congrArg (r.reply settings m :: ·) replies
      · simp only [requests, List.map_cons, final, after, List.foldl_cons]
        exact last

/-- Changes of some requests in different places come to the same in any order. -/
theorem foldl_settle_perm (settings : AccessSettings) (m : MemoryCluster)
    {first second : List Request} (same : first.Perm second) (apart : Apart first)
    (follows : Bool) (s : Store) :
    (first.map (Request.change? settings m)).foldl (Store.settle · follows) s =
      (second.map (Request.change? settings m)).foldl (Store.settle · follows) s := by
  let Commute (c d : Option Change) : Prop := ∀ s : Store,
    (s.settle follows c).settle follows d = (s.settle follows d).settle follows c
  have pairwise : (first.map (Request.change? settings m)).Pairwise Commute := by
    refine List.pairwise_map.2 (apart.imp fun differ s => Store.settle_comm ?_)
    intro c made d other same
    refine differ c.key (Request.key_of_change made) ?_
    rw [same]
    exact Request.key_of_change other
  -- a change trivially commutes with itself, so being apart is enough
  refine (same.map _).foldl_eq' ?_ s
  refine pairwise.forall_of_forall_of_flip (fun c _ s => rfl) ?_
  exact pairwise.imp fun commute s => (commute s).symm

end Session

/-- Requests that create and delete different secrets can come in any order, each at any time, from
anybody and with any body: each gets the same reply after the same reviews, also when it is refused
or fails on the way, and at the end there are the same secrets and PodDefaults. -/
theorem order_irrelevant (settings : AccessSettings) (m : MemoryCluster)
    {first second : List (Clock × Request)} (writes : ∀ visit ∈ first, visit.2.Writes)
    (apart : Session.Apart (first.map Prod.snd))
    (same : (first.map Prod.snd).Perm (second.map Prod.snd)) :
    let replies (visits : List (Clock × Request)) : List Reply :=
      (Session.records settings m (Session.requests visits)).filterMap Record.reply?
    (replies first).map Reply.request = first.map Prod.snd ∧
      (replies first).Perm (replies second) ∧
      Session.final settings m (Session.requests first) =
        Session.final settings m (Session.requests second) := by
  intro replies
  have others : ∀ visit ∈ second, visit.2.Writes := by
    intro visit member
    have earlier := same.mem_iff.2 (List.mem_map_of_mem (f := Prod.snd) member)
    obtain ⟨visit', member', same⟩ := List.mem_map.1 earlier
    exact same ▸ writes visit' member'
  have apart' : Session.Apart (second.map Prod.snd) := by
    refine (same.pairwise_iff ?_).1 apart
    intro r other differ key there here
    exact differ key here there
  have untouched (rs : List Request) : Session.Untouched m m.store rs := fun _ _ _ _ => rfl
  obtain ⟨repliesFirst, finalFirst⟩ :=
    Session.replies_requests settings writes apart (untouched _)
  obtain ⟨repliesSecond, finalSecond⟩ :=
    Session.replies_requests settings others apart' (untouched _)
  rw [MemoryCluster.withStore_self] at repliesFirst finalFirst repliesSecond finalSecond
  have alone := same.map (Request.reply settings m)
  rw [List.map_map, List.map_map] at alone
  have settled :=
    Session.foldl_settle_perm settings m same apart m.hindrance?.isNone m.store
  simp only [List.map_map] at settled
  refine ⟨?_, ?_, ?_⟩
  · simp only [replies, repliesFirst, List.map_map]
    rfl
  · simp only [replies, repliesFirst, repliesSecond]
    exact alone
  · rw [finalFirst, finalSecond]
    exact congrArg m.withStore settled

/-- In one namespace a secret is created, one is removed, one is not there, and a user is denied. -/
theorem order_irrelevant_mixed :
    let al : Header := ⟨"kubeflow-userid", Text.encode ":al", by decide, by decide⟩
    let eve : Header := ⟨"kubeflow-userid", Text.encode ":eve", by decide, by decide⟩
    let json : Header := ⟨"content-type", Text.encode "application/json", by decide, by decide⟩
    let submission : CredentialRequest :=
      ⟨some "team", some "quay", some "r", some "u", some "p", some "e"⟩
    let remove (user : Header) (name : String) : Request :=
      ⟨"DELETE", "/api/secrets/delete/team/" ++ name, [user], []⟩
    let m : MemoryCluster :=
      { store := { secrets := SortedMap.empty.insert ⟨"team", "old"⟩ Secret.registryType },
        reviewer := .ofRules [{ user := some "eve" }] none }
    let first : List (Clock × Request) :=
      [(⟨⟨0, 0⟩, 0⟩, ⟨"POST", "/api/secrets/create", [al, json],
          Text.encode submission.toJson.text⟩),
        (⟨⟨1, 0⟩, 1⟩, remove al "old"), (⟨⟨2, 0⟩, 2⟩, remove al "gone"),
        (⟨⟨3, 0⟩, 3⟩, remove eve "new")]
    let second := (first.map fun (clock, r) => (⟨clock.now, clock.uptime + 9⟩, r)).reverse
    let replies (visits : List (Clock × Request)) : List Reply :=
      (Session.records {} m (Session.requests visits)).filterMap Record.reply?
    ((∀ visit ∈ first, visit.2.Writes) ∧ Session.Apart (first.map Prod.snd) ∧
        (first.map Prod.snd).Perm (second.map Prod.snd) ∧
        (replies first).map (·.response.status) = [200, 200, 500, 500]) ∧
      (replies first).map Reply.request = first.map Prod.snd ∧
        (replies first).Perm (replies second) ∧
        Session.final {} m (Session.requests first) =
          Session.final {} m (Session.requests second) := by
  intro al eve json submission remove m first second replies
  have writes : ∀ visit ∈ first, visit.2.Writes := by decide +kernel
  have apart : Session.Apart (first.map Prod.snd) := by decide +kernel
  have same : (first.map Prod.snd).Perm (second.map Prod.snd) := by decide +kernel
  exact ⟨⟨writes, apart, same, by decide +kernel⟩, order_irrelevant {} m writes apart same⟩

end PullSecrets
