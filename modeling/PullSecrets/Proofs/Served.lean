import PullSecrets.Proofs.Rules
import PullSecrets.Server.Handler

/-! # What a request is served by

`Request.route?` puts path, method and parameters together: the route that serves a request, if
there is one. A request without such a route is answered at once, and nobody is asked.
-/

namespace PullSecrets

/-- The route that serves a request, its parameters unescaped. -/
def Request.route? (r : Request) : Option Route :=
  match Route.ofPath? r.path with
  | none => none
  | some route =>
      if r.method = route.method ∨ r.method = "HEAD" ∧ route.method = "GET" then
        route.unescape.toOption
      else none

/-- The credential that the body of a request submits; an unreadable one submits nothing. -/
def Request.submission (r : Request) : CredentialRequest :=
  match r.json? with
  | some body => .ofJson body
  | none => {}

namespace Route

theorem method_of_named {param value : String} {next : String → Except String Route}
    {method : String} (follows : ∀ s found, next s = .ok found → found.method = method)
    {found : Route} (read : unescape.named param value next = .ok found) :
    found.method = method := by
  unfold unescape.named at read
  split at read
  · exact follows _ _ read
  · cases read

theorem method_of_unescape {route found : Route} (read : route.unescape = .ok found) :
    found.method = route.method := by
  cases route with
  | createSecret | liveness | readiness => cases read; rfl
  | listSecrets ns | listPodDefaults ns =>
      refine method_of_named (fun s found read => ?_) read
      cases read
      rfl
  | deleteSecret ns name =>
      refine method_of_named (fun s found read => ?_) read
      refine method_of_named (fun t found read => ?_) read
      cases read
      rfl

end Route

theorem identify_yields (settings : AccessSettings) (headers : Headers) :
    (identify settings headers).Yields (userOf? settings headers) := by
  unfold identify userOf?
  cases h : (Identity.ofHeaders settings headers).event? settings with
  | none => simp [h, Program.Yields]
  | some event => simp [h, Program.Yields]

namespace Server

variable {settings : AccessSettings} {clock : Clock} {r : Request}

/-- Such an answer does not depend on the time. -/
theorem answer_of_no_route (unserved : r.route? = none) :
    ∃ response, ∀ clock, answer settings clock r = .done response := by
  unfold Request.route? at unserved
  unfold answer
  cases found : Route.ofPath? r.path with
  | none => exact ⟨_, fun _ => rfl⟩
  | some route =>
      simp only [found] at unserved
      cases read : route.unescape with
      | error param =>
          refine ⟨if r.method = route.method then notText param
            else if r.method = "HEAD" ∧ route.method = "GET" then (notText param).withoutBody
            else { status := 405, allow := some route.allow }, fun clock => ?_⟩
          simp only [dispatch, read]
          split
          · rfl
          · split <;> rfl
      | ok served =>
          simp only [read, Except.toOption, ite_eq_right_iff, reduceCtorEq, imp_false,
            not_or] at unserved
          simp only [if_neg unserved.1, if_neg unserved.2]
          exact ⟨_, fun _ => rfl⟩

/-- Only what is read is ever served without its body, and only when the body is not asked for. -/
theorem answer_of_route (settings : AccessSettings) (clock : Clock) {route : Route}
    (found : r.route? = some route) :
    r.method = route.method ∧ answer settings clock r = serve settings clock r route ∨
      r.method = "HEAD" ∧ route.method = "GET" ∧
        answer settings clock r = Response.withoutBody <$> serve settings clock r route := by
  unfold Request.route? at found
  unfold answer
  cases path : Route.ofPath? r.path with
  | none => simp [path] at found
  | some written =>
      simp only [path] at found
      split at found
      · next method =>
          cases read : written.unescape with
          | error param => simp [read, Except.toOption] at found
          | ok served =>
              obtain rfl : served = route := by simpa [read, Except.toOption] using found
              simp only [dispatch, read, Route.method_of_unescape read]
              by_cases same : r.method = written.method
              · exact .inl ⟨same, if_pos same⟩
              · have head := method.resolve_left same
                rw [if_neg same, if_pos head]
                exact .inr ⟨head.1, head.2, rfl⟩
      · cases found

theorem submitted_yields (r : Request) : (submitted r).Yields r.submission := by
  unfold submitted Request.submission
  cases r.json? with
  | none => rfl
  | some body => rfl

theorem answer_yields (failure : Failure) (now : Instant) :
    (failure.answer now).Yields (failure.response now) := by
  cases failure with
  | internal message => rfl
  | forbidden message | badRequest message => rfl

/-- The response that tells the outcome of an operation on secrets. -/
def told {α : Type} (clock : Clock) (attempt : String) (success : α → Json) :
    Except ServiceError α → Response
  | .ok a => .json 200 (success a)
  | .error e => (Failure.ofService attempt e).response clock.now

theorem conclude_yields {α : Type} (clock : Clock) (attempt : String) (success : α → Json)
    (outcome : Except ServiceError α) :
    (conclude clock attempt success outcome).Yields (told clock attempt success outcome) := by
  cases outcome with
  | ok a => rfl
  | error e => exact answer_yields _ _

theorem told_status_iff {α : Type} (clock : Clock) (attempt : String) (success : α → Json)
    (outcome : Except ServiceError α) :
    (told clock attempt success outcome).status = 200 ↔ outcome.isOk = true := by
  cases outcome with
  | ok a => exact iff_of_true rfl rfl
  | error e =>
      cases e <;> simp [told, Failure.ofService, Failure.response, Failure.status, Response.json,
        Except.isOk, Except.toBool]

end Server

end PullSecrets
