import PullSecrets.Cluster.ApiRequest
import PullSecrets.Proofs.Encodings

/-! # Questions told apart

An authorization engine is asked with the text of an access review. It finds every part of the
question at a place of its own (`AccessReview.Asks`), and nothing at the places of parts that are
not set, so that the text determines user and action (`AccessReview.text_determines`).
-/

namespace PullSecrets

open Source

namespace Json

/-- What is found in nested objects, with one name to follow after the other. -/
def at? (j : Json) : List String → Option Json
  | [] => some j
  | name :: path => (j.member? name).bind fun inner => inner.at? path

theorem ofText?_injective : Function.Injective ofText? :=
  Option.map_injective fun _ _ => string.inj

end Json

namespace AccessReview

variable {r r' : AccessReview} {document : Json}

/-- The document asks the question: an engine that looks up the parts at their places finds them,
and finds nothing where a part is not set. -/
structure Asks (document : Json) (r : AccessReview) : Prop where
  user : document.at? ["spec", "user"] = some (.string r.user)
  verb : document.at? ["spec", "resourceAttributes", "verb"] = some (.string r.action.verb)
  group : document.at? ["spec", "resourceAttributes", "group"] = some (.string r.action.group)
  version : document.at? ["spec", "resourceAttributes", "version"] = some (.string r.action.version)
  resource :
    document.at? ["spec", "resourceAttributes", "resource"] = some (.string r.action.resource)
  ns : document.at? ["spec", "resourceAttributes", "namespace"] = Json.ofText? r.action.ns
  subresource :
    document.at? ["spec", "resourceAttributes", "subresource"] = Json.ofText? r.action.subresource

/-- No document asks two questions. -/
theorem Asks.unique (asks : Asks document r) (asks' : Asks document r') : r = r' := by
  obtain ⟨user, action⟩ := r
  obtain ⟨user', action'⟩ := r'
  obtain ⟨verb, group, version, resource, ns, subresource⟩ := action
  obtain ⟨verb', group', version', resource', ns', subresource'⟩ := action'
  obtain rfl : user = user' := by simpa using asks.user.symm.trans asks'.user
  obtain rfl : verb = verb' := by simpa using asks.verb.symm.trans asks'.verb
  obtain rfl : group = group' := by simpa using asks.group.symm.trans asks'.group
  obtain rfl : version = version' := by simpa using asks.version.symm.trans asks'.version
  obtain rfl : resource = resource' := by simpa using asks.resource.symm.trans asks'.resource
  obtain rfl : ns = ns' := Json.ofText?_injective (asks.ns.symm.trans asks'.ns)
  obtain rfl : subresource = subresource' :=
    Json.ofText?_injective (asks.subresource.symm.trans asks'.subresource)
  rfl

theorem asks_toJson (r : AccessReview) : Asks r.toJson r := by
  obtain ⟨user, verb, group, version, resource, ns, subresource⟩ := r
  -- which members there are depends on the two parts that may be missing
  cases ns <;> cases subresource <;> exact ⟨rfl, rfl, rfl, rfl, rfl, rfl, rfl⟩

/-- What stands in one part is never found at the place of another. -/
theorem asks_toJson_iff : Asks r.toJson r' ↔ r' = r := by
  constructor
  · intro asks
    exact asks.unique r.asks_toJson
  · rintro rfl
    exact r'.asks_toJson

theorem wellRead (r : AccessReview) : r.toJson.WellRead nestingLimit := by
  have names : ["group", "namespace", "resource", "subresource", "verb", "version"].Pairwise
      fun a b => compare a b = .lt := by decide
  have attributes : (attributesJson r.action).WellRead (nestingLimit - 2) := by
    refine Json.wellRead_present (by decide) names ?_
    simp only [List.forall_mem_cons]
    exact ⟨Json.wellRead_text (some _), Json.wellRead_text _, Json.wellRead_text (some _),
      Json.wellRead_text _, Json.wellRead_text (some _), Json.wellRead_text (some _),
      List.forall_mem_nil _⟩
  have spec : Json.Rising [("resourceAttributes", attributesJson r.action),
      ("user", .string r.user)] := by
    simp only [List.pairwise_cons, List.mem_cons, forall_eq_or_imp]
    decide
  have outer : Json.Rising [("apiVersion", .string "authorization.k8s.io/v1"),
      ("kind", .string "SubjectAccessReview"), ("metadata", .object []),
      ("spec", .object [("resourceAttributes", attributesJson r.action),
        ("user", .string r.user)])] := by
    simp only [List.pairwise_cons, List.mem_cons, forall_eq_or_imp]
    decide
  exact ⟨by decide, outer, trivial, trivial, ⟨by decide, .nil, trivial⟩,
    ⟨by decide, spec, attributes, trivial, trivial⟩, trivial⟩

theorem integral (r : AccessReview) : r.toJson.Integral := by
  have attributes : (attributesJson r.action).Integral := by
    apply Json.integral_present
    simp only [List.forall_mem_cons]
    exact ⟨Json.integral_text (some _), Json.integral_text _, Json.integral_text (some _),
      Json.integral_text _, Json.integral_text (some _), Json.integral_text (some _),
      List.forall_mem_nil _⟩
  exact ⟨trivial, trivial, trivial, ⟨attributes, trivial, trivial⟩, trivial⟩

/-- The document is what the text stands for. -/
theorem document_text (r : AccessReview) : Json.read? r.text = some r.toJson :=
  Json.read?_text r.wellRead r.integral

theorem text_eq_iff : r.text = r'.text ↔ r = r' := by
  constructor
  · intro same
    have document : r.toJson = r'.toJson := by
      have read := r.document_text
      rw [same, r'.document_text] at read
      exact (Option.some.inj read).symm
    have asks := r.asks_toJson
    rw [document] at asks
    exact asks_toJson_iff.1 asks
  · rintro rfl
    rfl

theorem reads_action (a : Action) : Reads actionOfSource? (attributesJson a) a := by
  intro t means
  obtain ⟨xs, loose, members⟩ := loose?_of_means means
  have distinct :
      ["group", "namespace", "resource", "subresource", "verb", "version"].Nodup := by decide
  have group : last? text? xs "group" = some (some a.group) :=
    last?_of_present members distinct (by simp) (readsField_written a.group)
  have ns : last? text? xs "namespace" = some a.ns :=
    last?_of_present members distinct (by simp) (readsField_text a.ns)
  have resource : last? text? xs "resource" = some (some a.resource) :=
    last?_of_present members distinct (by simp) (readsField_written a.resource)
  have subresource : last? text? xs "subresource" = some a.subresource :=
    last?_of_present members distinct (by simp) (readsField_text a.subresource)
  have verb : last? text? xs "verb" = some (some a.verb) :=
    last?_of_present members distinct (by simp) (readsField_written a.verb)
  have version : last? text? xs "version" = some (some a.version) :=
    last?_of_present members distinct (by simp) (readsField_written a.version)
  simp only [actionOfSource?, loose, Option.bind_eq_bind, Option.bind_some, group, ns, resource,
    subresource, verb, version]

theorem reads_spec (r : AccessReview) :
    Reads ofSpec? (.object [("resourceAttributes", attributesJson r.action),
      ("user", .string r.user)]) r := by
  intro t means
  obtain ⟨xs, loose, members⟩ := loose?_of_means means
  have parts : MembersMean xs (Json.present [("resourceAttributes", some (attributesJson r.action)),
      ("user", some (.string r.user))]) := members
  have distinct : ["resourceAttributes", "user"].Nodup := by decide
  have attributes : last? actionOfSource? xs "resourceAttributes" = some (some r.action) :=
    last?_of_present parts distinct (by simp)
      (.some ⟨by simp [attributesJson], reads_action r.action⟩)
  have user : last? text? xs "user" = some (some r.user) :=
    last?_of_present parts distinct (by simp) (readsField_written r.user)
  simp only [ofSpec?, loose, Option.bind_eq_bind, Option.bind_some, attributes, user]

theorem reads (r : AccessReview) : Reads ofSource? r.toJson r := by
  intro t means
  obtain ⟨xs, loose, members⟩ := loose?_of_means means
  obtain ⟨apiVersion, rest, rfl, first, members⟩ := members.cons_inv
  obtain ⟨kind, rest, rfl, second, members⟩ := members.cons_inv
  obtain ⟨metadata, rest, rfl, -, members⟩ := members.cons_inv
  obtain ⟨spec, rest, rfl, body, members⟩ := members.cons_inv
  obtain rfl := members.nil_inv
  cases first
  cases second
  have kind : isKind "authorization.k8s.io/v1" "SubjectAccessReview"
      [("apiVersion", .string (some "authorization.k8s.io/v1")),
        ("kind", .string (some "SubjectAccessReview")), ("metadata", metadata), ("spec", spec)] =
      true := by
    simp [isKind, text?]
  have given := reads_nullable (by simp) r.reads_spec spec body
  rw [ofSource?, loose, Option.bind_eq_bind, Option.bind_some, kind]
  show Option.join (last? ofSpec? _ "spec") = some r
  simp [last?, itemsWith?, given]

/-- Decoding gets the question back from its text. -/
theorem read?_text (r : AccessReview) : read? r.text = some r :=
  r.reads.text r.integral
    (Json.writable_of_ofSource? (Json.ofSource?_ofJson _ r.wellRead r.integral))

/-- What is sent to ask a question is its text, whatever the question is. -/
theorem ofCall_review (user : String) (action : Action) :
    ∃ request, ApiRequest.ofCall (.review user action) = .ok request ∧
      request.body.map Json.text = some (text ⟨user, action⟩) := by
  have target : Target.read "/apis/authorization.k8s.io/v1/subjectaccessreviews?" =
      .ok { path := "/apis/authorization.k8s.io/v1/subjectaccessreviews", query := some "" } := by
    decide +kernel
  rw [ApiRequest.ofCall, ApiRequest.review, ApiRequest.ofParts, target]
  exact ⟨_, rfl, rfl⟩

/-- The text in which a question is asked determines user and action. A part that is not set is not
taken for an empty one, and the parts are recovered from the text, by decoding it and by looking at
their places. -/
theorem text_determines (user user' : String) (action action' : Action) :
    (text ⟨user, action⟩ = text ⟨user', action'⟩ ↔ user = user' ∧ action = action') ∧
      text ⟨user, { action with ns := none }⟩ ≠ text ⟨user', { action' with ns := some "" }⟩ ∧
      text ⟨user, { action with subresource := none }⟩ ≠
        text ⟨user', { action' with subresource := some "" }⟩ ∧
      (∃ request, ApiRequest.ofCall (.review user action) = .ok request ∧
        request.body.map Json.text = some (text ⟨user, action⟩)) ∧
      read? (text ⟨user, action⟩) = some ⟨user, action⟩ ∧
      ∃ document, Json.read? (text ⟨user, action⟩) = some document ∧
        ∀ r, Asks document r ↔ r = ⟨user, action⟩ := by
  refine ⟨?_, ?_, ?_, ofCall_review user action, read?_text _, _, document_text _, fun r => ?_⟩
  · simp only [text_eq_iff, mk.injEq]
  · simp [text_eq_iff]
  · simp [text_eq_iff]
  · exact asks_toJson_iff

end AccessReview

end PullSecrets
