import PullSecrets.Proofs.Session
import PullSecrets.Proofs.Stages

/-! # Warrants

While the gate is shut, a request reaches the cluster only after the right questions about its own
user were answered with yes. `Warrant` says for each call what these are, and `requests_warranted`
that every call of every request in a session has its warrant.
-/

namespace PullSecrets

/-- What goes before a call on behalf of a user. -/
def Warrant (user : Option String) : Rule := fun history call =>
  match call with
  | .review name _ => user = some name
  | .createSecret c =>
      Allowed user (.secrets "create" c.ns) history ∧
        Allowed user (.podDefaults "create" c.ns) history
  | .deleteSecret ns _ =>
      Allowed user (.secrets "delete" ns) history ∧
        Allowed user (.podDefaults "create" ns) history
  | .applyPodDefault p =>
      Allowed user (.podDefaults "create" p.key.ns) history ∧ Changed p.key.ns history
  | .listSecrets ns => Allowed user (.secrets "list" ns) history ∨ Changed ns history
  | .listPodDefaults ns => Allowed user (.podDefaults "list" ns) history
  | .serverVersion => True

variable {settings : AccessSettings} {headers : Headers} {clock : Clock} {r : Request}

/-- While the gate is shut, whoever has passed it was allowed to. -/
theorem warrant_suits (enabled : settings.disabled = false) (headers : Headers) :
    (Warrant (userOf? settings headers)).Suits settings headers := by
  have allowed {action history} (granted : Granted settings headers action history) :
      Allowed (userOf? settings headers) action history := by
    simpa only [Granted, enabled, Bool.false_eq_true, false_or] using granted
  constructor
  case reviews =>
    intro history name action known
    exact known
  case creates =>
    intro history c create write
    exact ⟨allowed create, allowed write⟩
  case deletes =>
    intro history ns name remove write
    exact ⟨allowed remove, allowed write⟩
  case lists =>
    intro history ns known
    exact known.imp_left allowed
  case applies =>
    intro history ns names write changed
    have grown := List.prefix_append history [.asked (.listSecrets ns) (.ok names)]
    exact ⟨(allowed write).later grown, changed.later grown⟩
  case listsPodDefaults =>
    intro history ns list
    exact allowed list
  case pings =>
    intro history
    trivial

/-- In a session with the gate shut, every call that a request makes has its warrant. -/
theorem requests_warranted (settings : AccessSettings) (enabled : settings.disabled = false)
    (m : MemoryCluster) (events : List Event) {record : Record}
    (member : record ∈ Session.records settings m events)
    (sent : record.operation = .request clock r) :
    (Warrant (userOf? settings r.headers)).Followed [] record.steps := by
  rw [Session.performed settings member, sent]
  have keeps : (Server.answer settings clock r).Keeps (Warrant (userOf? settings r.headers)) [] :=
    answer_keeps (warrant_suits enabled r.headers)
  exact ((keeps.map (f := Outcome.answered)).run MemoryCluster.answers record.before).1

theorem requests_warranted_removal :
    let r : Request := ⟨"DELETE", "/api/secrets/delete/team/quay",
      [⟨"kubeflow-userid", Text.encode ":al", by decide, by decide⟩], []⟩
    let m : MemoryCluster :=
      { store := { secrets := SortedMap.empty.insert ⟨"team", "quay"⟩ Secret.registryType } }
    let record := (Operation.request ⟨⟨0, 0⟩, 0⟩ r).perform {} m
    record.steps.filterMap Step.call? =
        [.review "al" (.secrets "delete" "team"), .review "al" (.podDefaults "create" "team"),
          .deleteSecret "team" "quay", .listSecrets "team",
          .applyPodDefault (.ofSecretNames "team" [])] ∧
      (Warrant (some "al")).Followed [] record.steps := by
  intro r m record
  refine ⟨by decide +kernel, ?_⟩
  exact requests_warranted {} rfl m [.perform (.request ⟨⟨0, 0⟩, 0⟩ r)] (.head _) rfl

end PullSecrets
