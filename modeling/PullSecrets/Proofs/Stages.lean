import PullSecrets.Proofs.Changes
import PullSecrets.Proofs.Rules
import PullSecrets.Proofs.Served

/-! # The stages of an operation

Every operation runs through the same stages: the gate, a call, and after a change the registry
PodDefault. Here each stage is gone through once, for any rule that has room for it
(`Rule.Suits`); `answer_keeps` puts them together for whatever a request asks for.
-/

namespace PullSecrets

/-- A user is known, and the cluster has said that the user may do something. -/
def Allowed (user : Option String) (action : Action) (history : List Step) : Prop :=
  ∃ name, user = some name ∧ .asked (.review name action) (.ok true) ∈ history

/-- A caller has passed the gate. -/
def Granted (settings : AccessSettings) (headers : Headers) (action : Action)
    (history : List Step) : Prop :=
  settings.disabled = true ∨ Allowed (userOf? settings headers) action history

/-- A rule has room for all that the stages of an operation do on behalf of a caller. -/
structure Rule.Suits (rule : Rule) (settings : AccessSettings) (headers : Headers) : Prop where
  reviews : ∀ history name action, userOf? settings headers = some name →
    rule history (.review name action)
  creates : ∀ history c, Granted settings headers (.secrets "create" c.ns) history →
    Granted settings headers (.podDefaults "create" c.ns) history →
    rule history (.createSecret c)
  deletes : ∀ history ns name, Granted settings headers (.secrets "delete" ns) history →
    Granted settings headers (.podDefaults "create" ns) history →
    rule history (.deleteSecret ns name)
  lists : ∀ history ns,
    Granted settings headers (.secrets "list" ns) history ∨ Changed ns history →
    rule history (.listSecrets ns)
  applies : ∀ history ns names, Granted settings headers (.podDefaults "create" ns) history →
    Changed ns history →
    rule (history ++ [.asked (.listSecrets ns) (.ok names)])
      (.applyPodDefault (.ofSecretNames ns names))
  listsPodDefaults : ∀ history ns,
    Granted settings headers (.podDefaults "list" ns) history → rule history (.listPodDefaults ns)
  pings : ∀ history, rule history .serverVersion

variable {user : Option String} {action : Action} {ns : String} {rule : Rule}
  {history all : List Step} {settings : AccessSettings} {headers : Headers} {α : Type}

theorem Allowed.later (allowed : Allowed user action history) (grown : history <+: all) :
    Allowed user action all := by
  obtain ⟨name, known, answered⟩ := allowed
  exact ⟨name, known, grown.subset answered⟩

theorem Granted.later (granted : Granted settings headers action history)
    (grown : history <+: all) : Granted settings headers action all :=
  granted.imp_right fun allowed => allowed.later grown

theorem Changed.later (changed : Changed ns history) (grown : history <+: all) :
    Changed ns all := by
  obtain ⟨change, made, here⟩ := changed
  exact ⟨change, (grown.filterMap _).subset made, here⟩

theorem ensureAllowed_obeys
    (asks : ∀ all name, userOf? settings headers = some name → rule all (.review name action)) :
    (ensureAllowed settings headers action).Obeys rule
      (fun all result => result = .ok () → Granted settings headers action all) history := by
  unfold ensureAllowed
  split
  · next disabled => exact fun _ => .inl disabled
  · refine (identify_yields settings headers).obeys.bind fun all found grown known => ?_
    subst known
    cases known : userOf? settings headers with
    | none => exact nofun
    | some name =>
        refine ⟨asks all name known, fun answer => ?_⟩
        cases answer with
        | error e => exact nofun
        | ok allowed =>
            cases allowed with
            | false => exact nofun
            | true => exact fun _ => .inr ⟨name, known, by simp⟩

theorem gated_keeps {next : Program (Except ServiceError α)}
    (asks : ∀ all name, userOf? settings headers = some name → rule all (.review name action))
    (inside : ∀ all, history <+: all → Granted settings headers action all →
      next.Keeps rule all) :
    (Registry.gated settings headers action next).Keeps rule history := by
  refine (ensureAllowed_obeys asks).bind fun all result grown passed => ?_
  cases result with
  | error e => trivial
  | ok => exact inside all grown (passed rfl)

theorem calling_keeps {call : Call} {next : call.Result → Program (Except ServiceError α)}
    (here : rule history call)
    (inside : ∀ result, (next result).Keeps rule (history ++ [.asked call (.ok result)])) :
    (Registry.calling call next).Keeps rule history := by
  refine ⟨here, fun answer => ?_⟩
  cases answer with
  | error e => trivial
  | ok result => exact inside result

theorem reconcile_keeps (lists : rule history (.listSecrets ns))
    (applies : ∀ names, rule (history ++ [.asked (.listSecrets ns) (.ok names)])
      (.applyPodDefault (.ofSecretNames ns names))) :
    (Registry.reconcile ns).Keeps rule history := by
  refine ⟨lists, fun answer => ?_⟩
  cases answer with
  | error e => trivial
  | ok names =>
      refine ⟨applies names, fun answer => ?_⟩
      cases answer <;> trivial

theorem finished_keeps {event : LogEvent} {secret done : String}
    (reconciles : ∀ all, history <+: all → (Registry.reconcile ns).Keeps rule all) :
    (Registry.finished event ns secret done).Keeps rule history := by
  have follows : (Registry.reconcileAfter ns secret).Keeps rule (history ++ [.logged event]) := by
    refine (reconciles _ (List.prefix_append _ _)).bind fun all result _ _ => ?_
    cases result <;> trivial
  refine follows.bind fun all result _ _ => ?_
  cases result <;> trivial

section Suited

variable {clock : Clock} {r : Request}

/-- A change stands in the history from its call on, and so does what was granted before it. -/
theorem changing_keeps (suits : rule.Suits settings headers) {verb : String} {call : Call}
    {event : LogEvent} {secret done : String} (change : Change)
    (allows : ∀ all, Granted settings headers (.secrets verb ns) all →
      Granted settings headers (.podDefaults "create" ns) all → rule all call)
    (here : change.key.ns = ns)
    (changes : ∀ result, (Step.asked call (.ok result)).change? = some change) :
    (Registry.gated settings headers (.secrets verb ns) <|
      Registry.gated settings headers (.podDefaults "create" ns) <|
        Registry.calling call fun _ => Registry.finished event ns secret done).Keeps
      rule history := by
  refine gated_keeps (fun all name => suits.reviews all name _) fun all grown first => ?_
  refine gated_keeps (fun all name => suits.reviews all name _) fun all grown write => ?_
  refine calling_keeps (allows all (first.later grown) write) fun result => ?_
  refine finished_keeps fun later grown => ?_
  have changed : Changed ns later := by
    refine Changed.later ⟨change, ?_, here⟩ grown
    simp [PullSecrets.changes, changes]
  have write := write.later ((List.prefix_append _ _).trans grown)
  exact reconcile_keeps (suits.lists later ns (.inr changed)) fun names =>
    suits.applies later ns names write changed

theorem create_keeps (suits : rule.Suits settings headers) (submission : CredentialRequest) :
    (Registry.create settings headers submission).Keeps rule history := by
  unfold Registry.create
  cases submission.complete? with
  | none => trivial
  | some c =>
      exact changing_keeps suits (.add c.key) (fun all => suits.creates all c) rfl fun _ => rfl

theorem delete_keeps (suits : rule.Suits settings headers) (ns name : String) :
    (Registry.delete settings headers ns name).Keeps rule history :=
  changing_keeps suits (.remove ⟨ns, name⟩) (fun all => suits.deletes all ns name) rfl fun _ => rfl

theorem list_keeps (suits : rule.Suits settings headers) (ns : String) :
    (Registry.list settings headers ns).Keeps rule history := by
  refine gated_keeps (fun all name => suits.reviews all name _) fun all grown list => ?_
  exact calling_keeps (suits.lists all ns (.inl list)) fun names => trivial

theorem listPodDefaults_keeps (suits : rule.Suits settings r.headers) (ns : String) :
    (Server.listPodDefaults settings clock r ns).Keeps rule history := by
  refine (ensureAllowed_obeys fun all name => suits.reviews all name _).bind
    fun all result grown passed => ?_
  cases result with
  | error e => exact (Server.answer_yields _ _).keeps
  | ok =>
      refine ⟨suits.listsPodDefaults all ns (passed rfl), fun answer => ?_⟩
      cases answer with
      | error e => exact (Server.answer_yields _ _).keeps
      | ok listed => trivial

/-- To tell the outcome of an operation takes no calls. -/
theorem concluded_keeps {p : Program (Except ServiceError α)} {attempt : String}
    {success : α → Json} (keeps : p.Keeps rule history) :
    (p >>= Server.conclude clock attempt success).Keeps rule history :=
  keeps.bind_keeps fun _ outcome => (Server.conclude_yields clock attempt success outcome).keeps

theorem serve_keeps (suits : rule.Suits settings r.headers) (route : Route) :
    (Server.serve settings clock r route).Keeps rule history := by
  cases route with
  | createSecret =>
      refine (Server.submitted_yields r).obeys.bind fun all submission _ _ => ?_
      exact concluded_keeps (create_keeps suits submission)
  | listSecrets ns => exact concluded_keeps (list_keeps suits ns)
  | deleteSecret ns name => exact concluded_keeps (delete_keeps suits ns name)
  | listPodDefaults ns => exact listPodDefaults_keeps suits ns
  | liveness => trivial
  | readiness =>
      refine ⟨suits.pings history, fun answer => ?_⟩
      cases answer <;> trivial

/-- No answers lead a request to break a rule that has room for the stages of its operation. -/
theorem answer_keeps (suits : rule.Suits settings r.headers) :
    (Server.answer settings clock r).Keeps rule history := by
  cases served : r.route? with
  | none =>
      obtain ⟨response, immediate⟩ := Server.answer_of_no_route served
      rw [immediate]
      trivial
  | some route =>
      rcases Server.answer_of_route settings clock served with ⟨-, whole⟩ | ⟨-, -, bare⟩
      · rw [whole]
        exact serve_keeps suits route
      · rw [bare]
        exact (serve_keeps suits route).map

end Suited

end PullSecrets
