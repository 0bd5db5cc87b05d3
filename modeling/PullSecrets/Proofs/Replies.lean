import PullSecrets.Proofs.Attempts

/-! # Replies

A reply is what a caller sees of a response: all but the time that a failure bears. A request that
does not only read is an attempt at a change (`answer_of_attempt`), or it comes to a reply that no
cluster has a say in (`answer_of_no_attempt`).
-/

namespace PullSecrets

/-- The members of an object but for those with one name. -/
def Json.without (name : String) : Json → Json
  | .object ms => .object (ms.filter fun m => m.1 ≠ name)
  | j => j

namespace Response

/-- The response without the time at which it was given. -/
def timeless (r : Response) : Response :=
  match r.body with
  | .json value => { r with body := .json (value.without "timestamp") }
  | _ => r

theorem timeless_failure (f : Failure) (now now' : Instant) :
    (f.response now).timeless = (f.response now').timeless := by
  simp [Failure.response, Failure.body, ErrorResponse.toJson, timeless, Json.without,
    Response.json, List.filter]

end Response

namespace Request

/-- The request does more than read: to create is to `POST`, and to delete is to `DELETE`. -/
def Writes (r : Request) : Prop := r.method ≠ "GET" ∧ r.method ≠ "HEAD"

/-- The change that a request asks for, if it is one to create or to delete and says all that is
needed. -/
def attempt? (r : Request) : Option Attempt :=
  match r.route? with
  | some .createSecret => r.submission.complete?.map .creation
  | some (.deleteSecret ns name) => some (.removal ns name)
  | _ => none

end Request

theorem attempt_of_complete {r : Request} {c : Credential} (served : r.route? = some .createSecret)
    (complete : r.submission.complete? = some c) : r.attempt? = some (.creation c) := by
  simp only [Request.attempt?, served, complete, Option.map_some]

namespace Server

variable {settings : AccessSettings} {clock : Clock} {r : Request}

/-- What comes of an attempt, told in a response. -/
def tell (clock : Clock) (a : Attempt) : Except ServiceError String → Response :=
  told clock a.trial fun m => MessageResponse.toJson ⟨m⟩

theorem tell_timeless (clock clock' : Clock) (a : Attempt) (result : Except ServiceError String) :
    (tell clock a result).timeless = (tell clock' a result).timeless := by
  cases result with
  | ok m => rfl
  | error e => exact Response.timeless_failure _ _ _

/-- A request that is served by a route which does not only read is answered by it. -/
theorem answer_of_writes {route : Route} (served : r.route? = some route)
    (writes : route.method ≠ "GET") : answer settings clock r = serve settings clock r route := by
  rcases answer_of_route settings clock served with ⟨-, whole⟩ | ⟨-, get, -⟩
  · exact whole
  · exact absurd get writes

theorem readable_of_complete {c : Credential} (complete : r.submission.complete? = some c) :
    ∃ body, r.json? = some body := by
  cases read : r.json? with
  | some body => exact ⟨body, rfl⟩
  | none =>
      have empty : r.submission = {} := by rw [Request.submission, read]
      rw [empty] at complete
      cases complete

theorem answer_of_attempt {a : Attempt} (attempted : r.attempt? = some a) (clock : Clock) :
    answer settings clock r = a.program settings r.headers >>=
      conclude clock a.trial fun m => MessageResponse.toJson ⟨m⟩ := by
  unfold Request.attempt? at attempted
  split at attempted
  · next served =>
      obtain ⟨c, complete, rfl⟩ := Option.map_eq_some_iff.1 attempted
      obtain ⟨body, read⟩ := readable_of_complete complete
      have submission : submitted r = .done r.submission := by
        simp only [submitted, Request.submission, read]
      rw [answer_of_writes served (by decide), serve, createSecret, submission, Program.done_bind,
        Registry.create_eq, complete]
      rfl
  · next ns name served =>
      cases attempted
      exact answer_of_writes served (by simp [Route.method])
  · cases attempted

/-- Who asks for nothing that could be done is answered at once, and always the same. -/
theorem answer_of_no_attempt (settings : AccessSettings) (writes : r.Writes)
    (idle : r.attempt? = none) :
    ∃ response : Clock → Response,
      (∀ clock, (answer settings clock r).Yields (response clock)) ∧
      ∀ clock clock', (response clock).timeless = (response clock').timeless := by
  cases served : r.route? with
  | none =>
      obtain ⟨response, immediate⟩ := answer_of_no_route served
      refine ⟨fun _ => response, fun clock => ?_, fun _ _ => rfl⟩
      rw [immediate clock]
      exact rfl
  | some route =>
      have method : route.method ≠ "GET" := by
        intro get
        rcases answer_of_route settings default served with ⟨same, -⟩ | ⟨head, -⟩
        · exact writes.1 (same.trans get)
        · exact writes.2 head
      cases route with
      | listSecrets | listPodDefaults | liveness | readiness => exact absurd rfl method
      | deleteSecret ns name => simp [Request.attempt?, served] at idle
      | createSecret =>
          have incomplete : r.submission.complete? = none := by
            simpa [Request.attempt?, served] using idle
          refine ⟨fun clock => told clock "Failed to create secret or update PodDefault"
            (fun m => MessageResponse.toJson ⟨m⟩) (.error .incomplete), fun clock => ?_,
            fun clock clock' => Response.timeless_failure _ _ _⟩
          rw [answer_of_writes served method]
          refine (submitted_yields r).bind ?_
          rw [Registry.create_eq, incomplete]
          exact rfl

end Server

end PullSecrets
