import PullSecrets.Proofs.ByteOrder
import PullSecrets.Proofs.CarriedAlong
import PullSecrets.Proofs.Courses
import PullSecrets.Proofs.Replies

/-! # Listed PodDefaults

Who may list the PodDefaults of a namespace gets all of them, in the order of their names, each in
its JSON form with a label and a description beside (`Server.listPodDefaults_brief_of_admits`).
`listed_as_read` puts this together with what is kept of a PodDefault from the document in which it
was written.
-/

namespace PullSecrets

/-- The label for a selector: the least of the exact ones by the bytes of their texts, else that of
the first condition. -/
inductive LabelSelector.Labels (s : LabelSelector) : String → Prop
  | exact {m : SortedMap String String} {key : String} (given : s.matchLabels = some m)
      (member : key ∈ m.keys)
      (least : ∀ other ∈ m.keys, other = key ∨ Text.encode key < Text.encode other) :
      s.Labels key
  | condition {r : LabelRequirement} {rs : List LabelRequirement}
      (inexact : ∀ m ∈ s.matchLabels, m.keys = []) (given : s.matchExpressions = some (r :: rs)) :
      s.Labels r.key
  | unknown (inexact : ∀ m ∈ s.matchLabels, m.keys = [])
      (free : ∀ rs ∈ s.matchExpressions, rs = []) : s.Labels "unknown"

theorem SortedMap.head_least {α : Type} {m : SortedMap String α} {key : String}
    {keys : List String} (first : m.keys = key :: keys) :
    ∀ other ∈ m.keys, other = key ∨ Text.encode key < Text.encode other := by
  have rising : m.keys.Pairwise fun a b => compare a b = .lt := List.pairwise_map.2 m.rising
  intro other member
  rw [first] at rising member
  rcases List.mem_cons.1 member with same | later
  · exact .inl same
  · exact .inr (Text.compare_eq_lt_iff.1 (List.rel_of_pairwise_cons rising later))

theorem LabelSelector.labels_label (s : LabelSelector) : s.Labels s.label := by
  obtain ⟨conditions, labels⟩ := s
  cases exact : labels.bind fun m => m.keys.head? with
  | some key =>
      obtain ⟨m, given, head⟩ := Option.bind_eq_some_iff.1 exact
      obtain ⟨keys, first⟩ := List.head?_eq_some_iff.1 head
      simp only [label, exact]
      exact .exact given (first ▸ List.mem_cons_self) (SortedMap.head_least first)
  | none =>
      have inexact : ∀ m ∈ labels, m.keys = [] :=
        fun m given => List.head?_eq_none_iff.1 (Option.bind_eq_none_iff.1 exact m given)
      cases first : conditions.bind List.head? with
      | some r =>
          obtain ⟨rs, given, head⟩ := Option.bind_eq_some_iff.1 first
          obtain ⟨rest, rfl⟩ := List.head?_eq_some_iff.1 head
          simp only [label, exact, first]
          exact .condition inexact given
      | none =>
          simp only [label, exact, first]
          exact .unknown inexact fun rs given =>
            List.head?_eq_none_iff.1 (Option.bind_eq_none_iff.1 first rs given)

theorem PodDefault.formDesc_eq (p : PodDefault) :
    p.formDesc = p.spec.desc.getD (p.metadata.name.getD "") := by
  rw [formDesc]
  cases p.spec.desc <;> rfl

/-- An entry of a listing: the JSON form of a PodDefault with a label and a description beside. -/
structure Json.Enters (entry : Json) (p : PodDefault) : Prop where
  label : ∃ label, entry.member? "label" = some (.string label) ∧ p.spec.selector.Labels label
  desc : entry.member? "desc" = some (.string (p.spec.desc.getD (p.metadata.name.getD "")))
  rest : (entry.without "label").without "desc" = p.toJson

theorem PodDefault.entryJson_enters (p : PodDefault) : p.entryJson.Enters p where
  label := ⟨p.formLabel, rfl, p.spec.selector.labels_label⟩
  desc := p.formDesc_eq ▸ rfl
  rest := rfl

/-- The PodDefaults of a namespace, each at its place, in the order of their names. -/
structure Store.Holds (s : Store) (ns : String) (held : List (String × PodDefault)) : Prop where
  rising : held.Pairwise fun a b => Text.encode a.1 < Text.encode b.1
  mem_iff : ∀ name p, (name, p) ∈ held ↔ s.podDefaults.find? ⟨ns, name⟩ = some p

theorem ObjectKey.compare_names {a b : ObjectKey} (same : a.ns = b.ns) :
    compare a b = compare a.name b.name := by
  have whole : compare a b = (compare a.ns b.ns).then (compare a.name b.name) := rfl
  rw [whole, same, Std.ReflOrd.compare_self]
  rfl

/-- A listing gives all that is stored in the namespace. -/
theorem Store.exists_holds (s : Store) (ns : String) :
    ∃ held, s.Holds ns held ∧ s.podDefaultsOf ns = held.map (·.2) := by
  let inside := (s.podDefaults.filter fun key _ => key.ns = ns).entries
  have place : ∀ e ∈ inside, e.1.ns = ns := by
    intro e member
    exact of_decide_eq_true (List.mem_filter.1 member).2
  have rising : inside.Pairwise fun a b => compare a.1 b.1 = .lt := SortedMap.rising _
  refine ⟨inside.map fun e => (e.1.name, e.2), ⟨?_, ?_⟩, ?_⟩
  · rw [List.pairwise_map]
    refine rising.imp_of_mem fun {a b} left right below => ?_
    rwa [ObjectKey.compare_names ((place a left).trans (place b right).symm),
      Text.compare_eq_lt_iff] at below
  · intro name p
    rw [SortedMap.find?_eq_some_iff, List.mem_map]
    constructor
    · rintro ⟨⟨key, q⟩, member, same⟩
      cases same
      have here : key.ns = ns := place _ member
      subst here
      exact (List.mem_filter.1 member).1
    · intro member
      exact ⟨(⟨ns, name⟩, p), List.mem_filter.2 ⟨member, decide_eq_true rfl⟩, rfl⟩
  · rw [List.map_map]
    rfl

namespace Server

variable {settings : AccessSettings} {clock : Clock} {r : Request} {m : MemoryCluster} {ns : String}

theorem listPodDefaults_brief_of_admits
    (admitted : m.reviewer.Admits settings r.headers (.podDefaults "list" ns)) :
    (listPodDefaults settings clock r ns).brief m =
      (match m.faults.listPodDefaults with
        | none => .json 200 (podDefaultsJson (m.store.podDefaultsOf ns))
        | some e => (Failure.internal e.apiMessage).response clock.now, [], []) := by
  unfold listPodDefaults
  rw [Program.brief_bind, ensureAllowed_brief, Reviewer.verdict_eq_ok_iff.2 admitted]
  simp only [Store.revise_nil, MemoryCluster.withStore_self]
  cases fails : m.faults.listPodDefaults with
  | none =>
      have answered : MemoryCluster.answers (.listPodDefaults ns) m =
          (.ok (m.store.podDefaultsOf ns), m) := by
        simp only [MemoryCluster.answers, MemoryCluster.sparing, fails]
      rw [Program.brief_ask answered]
      rfl
  | some e =>
      have answered : MemoryCluster.answers (.listPodDefaults ns) m = (.error e, m) := by
        simp only [MemoryCluster.answers, MemoryCluster.sparing, fails]
      simp only [Program.brief_ask_error answered, (answer_yields _ _).brief, List.append_nil]

/-- The answer to a listing: an entry for each PodDefault of the namespace, in the order of names,
or the failure of the cluster. -/
inductive Lists (m : MemoryCluster) (now : Instant) (ns : String) : Response → Prop
  | listed {held : List (String × PodDefault)} {entries : List Json}
      (spared : m.faults.listPodDefaults = none) (all : m.store.Holds ns held)
      (each : List.Forall₂ Json.Enters entries (held.map (·.2))) :
      Lists m now ns (.json 200 (.object [("success", .bool true), ("status", Json.ofNat 200),
        ("poddefaults", .array entries)]))
  | failed {e : ClusterError} (fails : m.faults.listPodDefaults = some e) :
      Lists m now ns ((Failure.internal e.apiMessage).response now)

theorem listPodDefaults_lists
    (admitted : m.reviewer.Admits settings r.headers (.podDefaults "list" ns)) :
    ∃ response, Lists m clock.now ns response ∧
      (listPodDefaults settings clock r ns).brief m = (response, [], []) := by
  refine ⟨_, ?_, listPodDefaults_brief_of_admits admitted⟩
  cases fails : m.faults.listPodDefaults with
  | some e => exact .failed fails
  | none =>
      obtain ⟨held, all, listed⟩ := m.store.exists_holds ns
      rw [listed]
      refine .listed fails all (List.forall₂_map_left_iff.2 (List.forall₂_same.2 fun p _ => ?_))
      exact p.entryJson_enters

/-- Who may list gets the answer, and nothing changes. -/
theorem answer_lists (get : r.method = "GET") (served : r.route? = some (.listPodDefaults ns))
    (admitted : m.reviewer.Admits settings r.headers (.podDefaults "list" ns)) :
    let (response, _, after) := (answer settings clock r).run MemoryCluster.answers m
    Lists m clock.now ns response ∧ after = m := by
  rcases answer_of_route settings clock served with ⟨-, whole⟩ | ⟨head, -⟩
  · obtain ⟨response, lists, brief⟩ := listPodDefaults_lists admitted
    have result := Program.result_of_brief brief
    have after := Program.after_of_brief brief
    rw [Store.revise_nil, MemoryCluster.withStore_self] at after
    rw [whole]
    exact ⟨result ▸ lists, after⟩
  · rw [get] at head
    exact absurd head (by decide)

end Server

/-- What is listed is what was written: of a PodDefault that was read all is kept but the fractions
of seconds in its metadata, and a listing gives the JSON forms of all PodDefaults of the namespace,
each with the label and the description that a form shows. -/
theorem listed_as_read :
    (∀ (room : Nat) (s : Source) (p : PodDefault),
      PodDefault.ofSource? room s = some p → p.Survives room s) ∧
    ∀ (settings : AccessSettings) (clock : Clock) (r : Request) (m : MemoryCluster) (ns : String),
      r.method = "GET" → r.route? = some (.listPodDefaults ns) →
      m.reviewer.Admits settings r.headers (.podDefaults "list" ns) →
      let (response, _, after) := (Server.answer settings clock r).run MemoryCluster.answers m
      Server.Lists m clock.now ns response ∧ after = m :=
  ⟨fun _ _ _ read => PodDefault.survives read,
    fun _ _ _ _ _ get served admitted => Server.answer_lists get served admitted⟩

/-- A PodDefault with a member deep in its spec that is named like one of the spec's own, which is
read the same when the spec comes first, and a listing that leaves out the PodDefault of another
namespace. -/
theorem listed_as_read_quay :
    let metadata := ("metadata", Json.object [("name", .string "quay")])
    let spec := ("spec", Json.object [("desc", .null), ("env", .array [.object [("desc", .null)]])])
    let p : PodDefault := {
      metadata := { name := some "quay" }
      spec := { extra := SortedMap.ofList [("env", .array [.object [("desc", .null)]])] } }
    let al : Header := ⟨"kubeflow-userid", Text.encode ":al", by decide, by decide⟩
    let r : Request := ⟨"GET", "/api/namespaces/ml/poddefaults", [al], []⟩
    let other : Store := ({} : Store).setPodDefault ⟨"web", "quay"⟩ {}
    let m : MemoryCluster := { store := other.setPodDefault ⟨"ml", "quay"⟩ p }
    PodDefault.ofSource? Source.nestingLimit (Source.ofJson (.object [metadata, spec])) = some p ∧
      m.reviewer.Admits {} r.headers (.podDefaults "list" "ml") ∧
      PodDefault.ofSource? Source.nestingLimit (Source.ofJson (.object [spec, metadata])) = some p ∧
      PodDefault.read? p.toJson.text = some p ∧
      Server.Lists m ⟨0, 0⟩ "ml"
        ((Server.answer {} ⟨⟨0, 0⟩, 0⟩ r).run MemoryCluster.answers m).1 := by
  intro metadata spec p al r other m
  have read : PodDefault.ofSource? Source.nestingLimit
      (Source.ofJson (.object [metadata, spec])) = some p := by decide +kernel
  have admitted : m.reviewer.Admits {} r.headers (.podDefaults "list" "ml") := by decide +kernel
  have kept := listed_as_read.1 _ _ _ read
  have listed := listed_as_read.2 {} ⟨⟨0, 0⟩, 0⟩ r m "ml" rfl (by decide +kernel) admitted
  have distinct : [some "metadata", some "spec"].Nodup := by simp
  have swapped : (Source.ofJson (.object [metadata, spec])).Reordered
      (Source.ofJson (.object [spec, metadata])) := .of_perm distinct (.swap _ _ _)
  have integral : p.toJson.Integral :=
    ⟨trivial, trivial, ⟨trivial, trivial⟩, ⟨trivial, ⟨⟨trivial, trivial⟩, trivial⟩, trivial⟩,
      trivial⟩
  exact ⟨read, admitted, kept.ordered _ swapped, kept.text rfl integral, listed.1⟩

/-- The fraction of a second is lost, and a cluster whose listing fails gives no list. -/
theorem half_second_lost :
    let s := Source.ofJson (.object [("metadata", .object
      [("creationTimestamp", .string "2024-01-01T00:00:00.5Z")]), ("spec", .object [])])
    let r : Request := ⟨"GET", "/api/namespaces/ml/poddefaults", [], []⟩
    let m : MemoryCluster := { faults := { listPodDefaults := some (.refused 500 "" "") } }
    (∃ p q, PodDefault.ofSource? Source.nestingLimit s = some p ∧
      PodDefault.ofSource? Source.nestingLimit (Source.ofJson p.toJson) = some q ∧ q ≠ p) ∧
      m.reviewer.Admits { disabled := true } r.headers (.podDefaults "list" "ml") ∧
      ((Server.answer { disabled := true } default r).run MemoryCluster.answers m).1.status =
        500 := by
  intro s r m
  let p : PodDefault :=
    { metadata := { creationTimestamp := some ⟨1704067200, 500000000⟩ } }
  let q : PodDefault := { metadata := { creationTimestamp := some ⟨1704067200, 0⟩ } }
  exact ⟨⟨p, q, by decide +kernel, by decide +kernel, by decide⟩, .inl rfl, by decide +kernel⟩

end PullSecrets
