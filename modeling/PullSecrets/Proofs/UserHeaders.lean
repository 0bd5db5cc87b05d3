import PullSecrets.Proofs.Callers
import PullSecrets.Settings.Load

/-! # Settings that can identify a caller

The check of the settings turns away a user header whose name is blank. Such a name is never the
name of a header (`not_isName_of_allBlank`), but it is not the only one: what can be found is a
legal name, and no more than that is needed, whatever the prefix is (`identifiable_iff`). Under any
other name nobody is identified, and no request gets through to the cluster (`answer_probesOnly`).
-/

namespace PullSecrets

namespace Header

theorem graphic_of_isTokenChar {c : Char} (token : isTokenChar c = true) :
    33 ≤ c.toNat ∧ c.toNat ≤ 126 := by
  have bounds (low high : Char) (within : (low ≤ c && c ≤ high) = true) :
      low.toNat ≤ c.toNat ∧ c.toNat ≤ high.toNat := by
    simp only [Bool.and_eq_true, decide_eq_true_eq, Char.le_def, UInt32.le_iff_toNat_le] at within
    exact within
  simp only [isTokenChar, Bool.or_eq_true] at token
  rcases token with ((small | capital) | digit) | mark
  · have := bounds 'a' 'z' small
    exact ⟨Nat.le_trans (by decide) this.1, Nat.le_trans this.2 (by decide)⟩
  · have := bounds 'A' 'Z' capital
    exact ⟨Nat.le_trans (by decide) this.1, Nat.le_trans this.2 (by decide)⟩
  · have := bounds '0' '9' digit
    exact ⟨Nat.le_trans (by decide) this.1, Nat.le_trans this.2 (by decide)⟩
  · have marks : "!#$%&'*+-.^_\x60|~".toList.all
        (fun m => decide (33 ≤ m.toNat ∧ m.toNat ≤ 126)) = true := by
      decide
    exact of_decide_eq_true (List.all_eq_true.1 marks c (List.contains_iff_mem.1 mark))

theorem not_isBlank_of_isTokenChar {c : Char} (token : isTokenChar c = true) :
    Text.isBlank c = false := by
  obtain ⟨low, high⟩ := graphic_of_isTokenChar token
  simp only [Text.isBlank, Bool.or_eq_false_iff, Bool.and_eq_false_iff, decide_eq_false_iff_not,
    beq_eq_false_iff_ne]
  omega

/-- A name that is made of blanks is not the name of a header. -/
theorem not_isName_of_allBlank {name : String} (blank : Text.allBlank name = true) :
    isName name = false := by
  rw [Text.allBlank] at blank
  cases chars : name.toList with
  | nil => simp [isName, isToken, chars]
  | cons c cs =>
      rw [chars, List.all_cons, Bool.and_eq_true] at blank
      have other : isTokenChar c = false := by
        cases token : isTokenChar c with
        | false => rfl
        | true =>
            rw [not_isBlank_of_isTokenChar token] at blank
            cases blank.1
      simp [isName, isToken, chars, other]

end Header

theorem Settings.fault?_eq_noUserHeader_iff {s : Settings} :
    s.fault? = some .noUserHeader ↔
      s.server.port ≠ 0 ∧ Text.allBlank s.access.userHeader = true := by
  unfold fault?
  by_cases port : s.server.port = 0
  · simp [port]
  · simp [port]

theorem Identity.withoutPrefix_eq_empty_iff {lead value : String} :
    withoutPrefix lead value = "" ↔ value = lead ∨ value = "" := by
  by_cases starts : ∃ rest, value = lead ++ rest
  · obtain ⟨rest, rfl⟩ := starts
    rw [withoutPrefix_append]
    simp only [← String.toList_inj, String.toList_append, String.toList_empty]
    simp
  · rw [not_exists] at starts
    have other : value ≠ lead := by
      intro same
      exact starts "" (by simpa using same)
    rw [withoutPrefix_of_ne starts]
    simp [other]

namespace AccessSettings

variable {settings : AccessSettings}

/-- There are headers by which somebody is identified. -/
def Identifiable (settings : AccessSettings) : Prop :=
  ∃ headers user, userOf? settings headers = some user

/-- The header with the configured name and a value. -/
def sent (legal : Header.isName settings.userHeader = true) (value : String)
    (bytes : (Text.encode value).all Header.isValueByte = true) : Header :=
  ⟨settings.userHeader, Text.encode value, legal, bytes⟩

theorem userOf?_sent {value : String} (legal : Header.isName settings.userHeader = true)
    (bytes : (Text.encode value).all Header.isValueByte = true)
    (shown : ∀ c ∈ value.toList, c = '\t' ∨ 32 ≤ c.toNat ∧ c.toNat ≤ 126) (given : value ≠ "")
    (other : value ≠ settings.userPrefix) :
    userOf? settings [sent legal value bytes] =
      some (Identity.withoutPrefix settings.userPrefix value) := by
  have named : (sent legal value bytes).IsNamed settings.userHeader := rfl
  have names : Identity.Names settings.userPrefix value
      (Identity.withoutPrefix settings.userPrefix value) := by
    rw [Identity.names_iff, Ne, Identity.withoutPrefix_eq_empty_iff]
    exact ⟨not_or.2 ⟨other, given⟩, rfl⟩
  rw [userOf?_eq_some_iff]
  exact ⟨[], _, [], value, rfl, List.forall_mem_nil _, named, ⟨rfl, shown⟩, names⟩

/-- Whatever the prefix is, a legal name is all it takes. -/
theorem identifiable_iff :
    settings.Identifiable ↔ Header.isName settings.userHeader = true := by
  constructor
  · rintro ⟨headers, user, known⟩
    obtain ⟨before, h, after, value, -, -, named, -⟩ := userOf?_eq_some_iff.1 known
    exact named.isName
  · intro legal
    -- of two users, at most one is the prefix
    by_cases taken : "a" = settings.userPrefix
    · have other : "b" ≠ settings.userPrefix := by
        rw [← taken]
        decide
      exact ⟨_, _, userOf?_sent legal (by decide) (by simp) (by decide) other⟩
    · exact ⟨_, _, userOf?_sent legal (by decide) (by simp) (by decide) taken⟩

end AccessSettings

section Unidentified

variable {settings : AccessSettings} {headers : Headers} {clock : Clock} {r : Request}
  {history : List Step}

/-- Nothing is called but for a sign of life. -/
def ProbesOnly : Rule := fun _ call => call = .serverVersion

theorem create_probesOnly (enabled : settings.disabled = false)
    (unknown : userOf? settings headers = none) (submission : CredentialRequest) :
    (Registry.create settings headers submission).Keeps ProbesOnly history := by
  unfold Registry.create
  cases submission.complete? with
  | none => trivial
  | some c => exact (gated_yields_of_unknown enabled unknown).keeps

theorem serve_probesOnly (enabled : settings.disabled = false)
    (unknown : userOf? settings r.headers = none) (route : Route) :
    (Server.serve settings clock r route).Keeps ProbesOnly history := by
  cases route with
  | createSecret =>
      apply (Server.submitted_yields r).obeys.bind
      intro all submission _ _
      exact concluded_keeps (create_probesOnly enabled unknown submission)
  | listSecrets ns | deleteSecret ns name =>
      exact concluded_keeps (gated_yields_of_unknown enabled unknown).keeps
  | listPodDefaults ns =>
      have refused : (ensureAllowed settings r.headers (.podDefaults "list" ns)).Yields
          (.error .unauthenticated) := ensureAllowed_yields_of_unknown enabled unknown
      exact (refused.bind (Server.answer_yields _ _)).keeps
  | liveness => trivial
  | readiness =>
      refine ⟨rfl, fun answer => ?_⟩
      cases answer <;> trivial

theorem answer_probesOnly (enabled : settings.disabled = false)
    (unknown : userOf? settings r.headers = none) :
    (Server.answer settings clock r).Keeps ProbesOnly history := by
  cases served : r.route? with
  | none =>
      obtain ⟨response, immediate⟩ := Server.answer_of_no_route served
      rw [immediate]
      trivial
  | some route =>
      rcases Server.answer_of_route settings clock served with ⟨-, whole⟩ | ⟨-, -, bare⟩
      · rw [whole]
        exact serve_probesOnly enabled unknown route
      · rw [bare]
        exact (serve_probesOnly enabled unknown route).map

end Unidentified

/-- Somebody can be identified exactly when the configured name is the legal name of a header,
whatever the prefix is. The check turns away the blank names, none of which is legal. Under a name
that is not, which the check lets through when it is not blank, every caller who comes to the gate
is refused as nobody, and no request makes a call but for a sign of life. -/
theorem identifiable_iff_legal_name (s : Settings) :
    (s.access.Identifiable ↔ Header.isName s.access.userHeader = true) ∧
      (s.fault? = some .noUserHeader ↔
        s.server.port ≠ 0 ∧ Text.allBlank s.access.userHeader = true) ∧
      (s.fault? = some .noUserHeader → ¬ s.access.Identifiable) ∧
      (s.access.disabled = false → ¬ s.access.Identifiable →
        (∀ headers action,
          (ensureAllowed s.access headers action).Yields (.error .unauthenticated)) ∧
        ∀ {σ : Type} (clock : Clock) (r : Request) (answers : Answers σ) (state : σ),
          ∀ call ∈ calls ((Server.answer s.access clock r).run answers state).2.1,
            call = .serverVersion) := by
  refine ⟨AccessSettings.identifiable_iff, Settings.fault?_eq_noUserHeader_iff, ?_, ?_⟩
  · intro rejected
    have blank := (Settings.fault?_eq_noUserHeader_iff.1 rejected).2
    rw [AccessSettings.identifiable_iff, Header.not_isName_of_allBlank blank]
    exact Bool.false_ne_true
  · intro enabled nobody
    have unknown (headers : Headers) : userOf? s.access headers = none := by
      rw [Option.eq_none_iff_forall_ne_some]
      intro user known
      exact nobody ⟨headers, user, known⟩
    constructor
    · intro headers action
      exact ensureAllowed_yields_of_unknown enabled (unknown headers)
    · intro σ clock r answers state call made
      have keeps : (Server.answer s.access clock r).Keeps ProbesOnly [] :=
        answer_probesOnly enabled (unknown r.headers)
      obtain ⟨before, probe⟩ := (keeps.run answers state).1.of_mem_calls made
      exact probe

/-- The default name identifies callers; a list in an empty cluster is refused under a name with a
blank in it. -/
theorem identifiable_iff_legal_name_mistyped :
    let s : Settings := { access := { userHeader := "kubeflow userid" } }
    (AccessSettings.Identifiable {} ∧ ¬ s.access.Identifiable) ∧
      (ensureAllowed s.access [] (.secrets "list" "a")).Yields (.error .unauthenticated) := by
  intro s
  have usual := (identifiable_iff_legal_name {}).1.2 (by decide)
  have mistyped : ¬ s.access.Identifiable := by
    rw [(identifiable_iff_legal_name s).1]
    decide
  have refused := ((identifiable_iff_legal_name s).2.2.2 rfl mistyped).1 [] (.secrets "list" "a")
  exact ⟨⟨usual, mistyped⟩, refused⟩

/-- A name with a blank in it passes the check, and no headers identify anybody under it. -/
theorem accepted_name_unidentifiable :
    let s : Settings := { access := { userHeader := "kubeflow userid" } }
    (s.fault? = none ∧ s.access.disabled = false) ∧
      ¬ ∃ headers user, userOf? s.access headers = some user := by
  intro s
  refine ⟨by decide, ?_⟩
  rintro ⟨headers, user, known⟩
  have legal : Header.isName s.access.userHeader = true :=
    AccessSettings.identifiable_iff.1 ⟨headers, user, known⟩
  exact absurd legal (by decide)

end PullSecrets
