import PullSecrets.Cluster.Memory
import PullSecrets.Proofs.Served
import PullSecrets.Proofs.Stages

/-! # Sessions

A session takes operations one after another against a cluster in memory; between them the
reviewer and the faults of the cluster may be replaced. Each operation leaves a record: the cluster
before it, what came of it, all that it did, and the cluster after it. Nothing else writes to the
cluster.
-/

namespace PullSecrets

/-- Something that the service is asked to do. -/
inductive Operation where
  | create (headers : Headers) (submission : CredentialRequest)
  | list (headers : Headers) (ns : String)
  | delete (headers : Headers) (ns name : String)
  | reconcile (ns : String)
  /-- Whatever a request over HTTP asks for. -/
  | request (clock : Clock) (r : Request)

/-- What comes of an operation. -/
inductive Outcome where
  | told (result : Except ServiceError String)
  | listed (result : Except ServiceError (List String))
  | written (result : Except ClusterError PodDefault)
  | answered (response : Response)

namespace Operation

/-- The program that carries the operation out. -/
def program (settings : AccessSettings) : Operation → Program Outcome
  | .create headers submission => Outcome.told <$> Registry.create settings headers submission
  | .list headers ns => Outcome.listed <$> Registry.list settings headers ns
  | .delete headers ns name => Outcome.told <$> Registry.delete settings headers ns name
  | .reconcile ns => Outcome.written <$> Registry.reconcile ns
  | .request clock r => Outcome.answered <$> Server.answer settings clock r

/-- The headers that say who asks; a mere reconciliation is asked for by nobody. -/
def headers? : Operation → Option Headers
  | .create headers _ | .list headers _ | .delete headers _ _ => some headers
  | .request _ r => some r.headers
  | .reconcile _ => none

/-- No answers lead an operation to break a rule that has room for the stages it goes through. -/
theorem program_keeps {rule : Rule} {history : List Step} {settings : AccessSettings}
    (operation : Operation) (suits : ∀ headers ∈ operation.headers?, rule.Suits settings headers)
    (reconciles : ∀ ns, (Registry.reconcile ns).Keeps rule history) :
    (operation.program settings).Keeps rule history := by
  cases operation with
  | create headers submission => exact (create_keeps (suits headers rfl) submission).map
  | list headers ns => exact (list_keeps (suits headers rfl) ns).map
  | delete headers ns name => exact (delete_keeps (suits headers rfl) ns name).map
  | reconcile ns => exact (reconciles ns).map
  | request clock r => exact (answer_keeps (suits r.headers rfl)).map

/-- The operation on secrets that a request asks for; any other operation stands for itself. -/
def core : Operation → Operation
  | .request clock r =>
      match r.route? with
      | some .createSecret => .create r.headers r.submission
      | some (.listSecrets ns) => .list r.headers ns
      | some (.deleteSecret ns name) => .delete r.headers ns name
      | _ => .request clock r
  | operation => operation

end Operation

namespace Outcome

/-- Whether the operation did all it was asked for. -/
def Succeeded : Outcome → Prop
  | .told result => result.isOk
  | .listed result => result.isOk
  | .written result => result.isOk
  | .answered response => response.status = 200

/-- Whether the outcome tells that a call to the cluster failed with `e`. -/
def FailedWith (e : ClusterError) : Outcome → Prop
  | .told result => result = .error (.cluster e)
  | .listed result => result = .error (.cluster e)
  | .written result => result = .error e
  | .answered response =>
      ∃ attempt now, response = (Failure.ofService attempt (.cluster e)).response now

end Outcome

/-- An operation with all that came of it. -/
structure Record where
  operation : Operation
  before : MemoryCluster
  outcome : Outcome
  steps : List Step
  after : MemoryCluster

/-- Carries an operation out against a cluster in memory. -/
def Operation.perform (settings : AccessSettings) (operation : Operation) (m : MemoryCluster) :
    Record :=
  let (outcome, steps, after) := (operation.program settings).run MemoryCluster.answers m
  ⟨operation, m, outcome, steps, after⟩

theorem Operation.perform_request (settings : AccessSettings) (clock : Clock) (r : Request)
    (m : MemoryCluster) : (Operation.request clock r).perform settings m =
      let (response, steps, after) := (Server.answer settings clock r).run MemoryCluster.answers m
      ⟨.request clock r, m, .answered response, steps, after⟩ := by
  have whole := Program.run_bind MemoryCluster.answers (Server.answer settings clock r)
    (fun response => .done (Outcome.answered response)) m
  simp only [Program.run_done, List.append_nil] at whole
  have named : (Operation.request clock r).program settings =
      Server.answer settings clock r >>= fun response => .done (Outcome.answered response) := rfl
  rw [Operation.perform, named, whole]

/-- What happens in a session. -/
inductive Event where
  | perform (operation : Operation)
  | replace (reviewer : Reviewer) (faults : Faults)

namespace Session

variable (settings : AccessSettings)

/-- The records of a session, in order. -/
def records : MemoryCluster → List Event → List Record
  | _, [] => []
  | m, .perform operation :: events =>
      operation.perform settings m :: records (operation.perform settings m).after events
  | m, .replace reviewer faults :: events => records { m with reviewer, faults } events

/-- The cluster at the end of a session. -/
def final : MemoryCluster → List Event → MemoryCluster
  | m, [] => m
  | m, .perform operation :: events => final (operation.perform settings m).after events
  | m, .replace reviewer faults :: events => final { m with reviewer, faults } events

/-- Every record is of an operation carried out against some cluster. -/
theorem performed {m : MemoryCluster} {events : List Event} {record : Record}
    (member : record ∈ records settings m events) :
    record = record.operation.perform settings record.before := by
  induction events generalizing m with
  | nil => cases member
  | cons event events ih =>
      cases event with
      | replace reviewer faults => exact ih member
      | perform operation =>
          cases member with
          | head => rfl
          | tail _ later => exact ih later

end Session

end PullSecrets
