import PullSecrets.Cluster.ApiRequest
import PullSecrets.Cluster.ApiResponse
import PullSecrets.Program

/-!
# A cluster behind an API server

Answers every call by one exchange with an API server. How requests get there is left open.
-/

namespace PullSecrets

/-- A way of getting responses to requests, with a state. -/
abbrev Exchange (σ : Type) : Type := ApiRequest → σ → Except ApiError ApiResponse × σ

namespace ApiServer

variable {σ : Type}

/-- How a cluster answers of which the API server is reached by an exchange. -/
def answers (exchange : Exchange σ) : Answers σ := fun call s =>
  match ApiRequest.ofCall call with
  | .error e => (.error e, s)
  | .ok request =>
    match exchange request s with
    | (.ok response, s) => (response.result call, s)
    | (.error e, s) => (.error (.api e), s)

def unreachable (detail : String) : Exchange σ := fun _ s => (.error (.transport detail), s)

end ApiServer

end PullSecrets
