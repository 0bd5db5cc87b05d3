import PullSecrets.Cluster.Memory
import PullSecrets.Proofs.Sync
import PullSecrets.Registry

/-! # One PodDefault for each set of names

The registry PodDefault of a namespace names the given secrets in rising order, each once. Of all
lists with the same members only one is so (`eq_of_rising`), so the set of names determines the
PodDefault and its JSON form, and is determined by them. To compute it from what is stored a second
time finds the same one and changes nothing (`canonical_of_names`).
-/

namespace PullSecrets

/-- A list that rises in the order of bytes is told by its members. -/
theorem eq_of_rising {names names' : List String}
    (rising : names.Pairwise fun a b => Text.encode a < Text.encode b)
    (rising' : names'.Pairwise fun a b => Text.encode a < Text.encode b)
    (same : ∀ name, name ∈ names ↔ name ∈ names') : names = names' := by
  have once {list : List String} (rises : list.Pairwise fun a b => Text.encode a < Text.encode b) :
      list.Nodup := by
    apply rises.imp
    rintro a _ below rfl
    exact List.lt_irrefl _ below
  apply List.Perm.eq_of_pairwise _ rising rising'
  · exact (List.perm_ext_iff_of_nodup (once rising) (once rising')).2 same
  · intro a b _ _ below above
    exact absurd below (List.lt_asymm above)

namespace PodDefault

variable {ns ns' : String} {names names' : List String}

/-- All that depends on the names are the pull secrets. -/
theorem ofSecretNames_congr (same : ∀ name, name ∈ names ↔ name ∈ names') :
    ofSecretNames ns names = ofSecretNames ns names' := by
  have pulls : distinctNames names = distinctNames names' := by
    apply eq_of_rising (pullSecretNames_rising ns names) (pullSecretNames_rising ns names')
    intro name
    rw [mem_pullSecretNames_iff, mem_pullSecretNames_iff]
    exact same name
  simp only [ofSecretNames, pulls]

theorem mem_iff_of_pulls
    (pulls : (ofSecretNames ns names).pullSecretNames = (ofSecretNames ns' names').pullSecretNames)
    (name : String) : name ∈ names ↔ name ∈ names' := by
  have here : name ∈ (ofSecretNames ns names).pullSecretNames ↔ name ∈ names :=
    mem_pullSecretNames_iff
  rw [← here, pulls, mem_pullSecretNames_iff]

theorem ofSecretNames_eq_iff : ofSecretNames ns names = ofSecretNames ns' names' ↔
    ns = ns' ∧ ∀ name, name ∈ names ↔ name ∈ names' := by
  constructor
  · intro same
    have place := congrArg (fun p => p.metadata.ns) same
    exact ⟨Option.some.inj place, mem_iff_of_pulls (congrArg pullSecretNames same)⟩
  · rintro ⟨rfl, same⟩
    exact ofSecretNames_congr same

/-- The namespace in the JSON form of a PodDefault. -/
def namespaceIn? (j : Json) : Option Json :=
  (j.member? "metadata").bind fun metadata => metadata.member? "namespace"

/-- The pull secrets in the JSON form of a PodDefault. -/
def pullSecretsIn? (j : Json) : Option Json :=
  (j.member? "spec").bind fun spec => spec.member? "imagePullSecrets"

theorem namespaceIn?_toJson (ns : String) (names : List String) :
    namespaceIn? (ofSecretNames ns names).toJson = some (.string ns) := rfl

theorem pullSecretsIn?_toJson (ns : String) (names : List String) :
    pullSecretsIn? (ofSecretNames ns names).toJson =
      some (.array ((ofSecretNames ns names).pullSecretNames.map PodDefaultSpec.referenceJson)) :=
  rfl

theorem referenceJson_injective {a b : String}
    (same : PodDefaultSpec.referenceJson a = PodDefaultSpec.referenceJson b) : a = b := by
  simpa [PodDefaultSpec.referenceJson] using same

theorem toJson_ofSecretNames_eq_iff :
    (ofSecretNames ns names).toJson = (ofSecretNames ns' names').toJson ↔
      ns = ns' ∧ ∀ name, name ∈ names ↔ name ∈ names' := by
  constructor
  · intro same
    have place := congrArg namespaceIn? same
    rw [namespaceIn?_toJson, namespaceIn?_toJson, Option.some.injEq, Json.string.injEq] at place
    have pulls := congrArg pullSecretsIn? same
    rw [pullSecretsIn?_toJson, pullSecretsIn?_toJson, Option.some.injEq, Json.array.injEq] at pulls
    have named := (List.map_inj_right fun _ _ => referenceJson_injective).1 pulls
    exact ⟨place, mem_iff_of_pulls named⟩
  · intro same
    rw [ofSecretNames_eq_iff.2 same]

theorem pullSecretNames_eq_nil_iff :
    (ofSecretNames ns names).pullSecretNames = [] ↔ names = [] := by
  simp only [List.eq_nil_iff_forall_not_mem, mem_pullSecretNames_iff]

/-- A PodDefault is computed again from the names in it. -/
theorem ofSecretNames_pullSecretNames :
    ofSecretNames ns (ofSecretNames ns names).pullSecretNames = ofSecretNames ns names :=
  ofSecretNames_congr fun _ => mem_pullSecretNames_iff

end PodDefault

section Stored

variable {m : MemoryCluster} {ns : String}

/-- Secrets are listed in the order in which they are named. -/
theorem pullSecretNames_registrySecrets (s : Store) (ns : String) :
    (PodDefault.ofSecretNames ns (s.registrySecrets ns)).pullSecretNames = s.registrySecrets ns :=
  eq_of_rising (PodDefault.pullSecretNames_rising _ _) (Store.registrySecrets_rising s ns)
    fun _ => PodDefault.mem_pullSecretNames_iff

theorem reconcile_run (lists : m.faults.listSecrets = none)
    (applies : m.faults.applyPodDefault = none) :
    let names := m.store.registrySecrets ns
    let p := PodDefault.ofSecretNames ns names
    (Registry.reconcile ns).run MemoryCluster.answers m =
      (.ok p, [.asked (.listSecrets ns) (.ok names), .asked (.applyPodDefault p) (.ok ()),
        .logged (.podDefaultWritten ns names.length)], m.withStore (m.store.renewed ns)) := by
  simp only [Registry.reconcile, Program.run, MemoryCluster.answers_listSecrets lists,
    MemoryCluster.answers_applyPodDefault applies]
  rfl

theorem registrySecrets_renewed (s : Store) (ns : String) :
    (s.renewed ns).registrySecrets ns = s.registrySecrets ns := rfl

/-- What is computed a second time is there already. -/
theorem renewed_renewed (s : Store) (ns : String) : (s.renewed ns).renewed ns = s.renewed ns := by
  rw [Store.renewed, registrySecrets_renewed]
  simp only [Store.renewed, Store.setPodDefault, SortedMap.insert_insert]

/-- To reconcile again comes to the same, and leaves the cluster as it is. -/
theorem reconcile_again (lists : m.faults.listSecrets = none)
    (applies : m.faults.applyPodDefault = none) :
    let once := (Registry.reconcile ns).run MemoryCluster.answers m
    let twice := (Registry.reconcile ns).run MemoryCluster.answers once.2.2
    twice.1 = once.1 ∧ twice.2.2 = once.2.2 := by
  intro once twice
  let written := m.withStore (m.store.renewed ns)
  have first : once = _ := reconcile_run lists applies
  have left : once.2.2 = written := by rw [first]
  have second : twice = (Registry.reconcile ns).run MemoryCluster.answers written :=
    congrArg (Program.run MemoryCluster.answers (Registry.reconcile ns)) left
  rw [reconcile_run (m := written) lists applies] at second
  constructor
  · rw [second, first]
    rfl
  · rw [second, left]
    exact congrArg m.withStore (renewed_renewed m.store ns)

end Stored

/-- The PodDefault for some names has exactly them as its pull secrets, in rising order of their
bytes. It is the same for other names, as it is and as JSON, only in the same namespace and if they
are the same but for order and repetition; its pull secrets are always part of the JSON, empty if
there are no names; and it is computed again from the names in it. To reconcile a namespace in a
cluster that does not fail stores the PodDefault that names its registry secrets as they are listed
and leaves all secrets alone, and to do so once more comes to the same and changes nothing. -/
theorem canonical_of_names (ns ns' : String) (names names' : List String) :
    let p := PodDefault.ofSecretNames ns names
    let q := PodDefault.ofSecretNames ns' names'
    ((p.pullSecretNames.Pairwise fun a b => Text.encode a < Text.encode b) ∧
        ∀ name, name ∈ p.pullSecretNames ↔ name ∈ names) ∧
      (p = q ↔ ns = ns' ∧ ∀ name, name ∈ names ↔ name ∈ names') ∧
      (p.toJson = q.toJson ↔ ns = ns' ∧ ∀ name, name ∈ names ↔ name ∈ names') ∧
      (PodDefault.pullSecretsIn? p.toJson =
          some (.array (p.pullSecretNames.map fun name => .object [("name", .string name)])) ∧
        (PodDefault.pullSecretsIn? p.toJson = some (.array []) ↔ names = [])) ∧
      PodDefault.ofSecretNames ns p.pullSecretNames = p ∧
      ∀ m : MemoryCluster, m.faults.listSecrets = none → m.faults.applyPodDefault = none →
        let once := (Registry.reconcile ns).run MemoryCluster.answers m
        let twice := (Registry.reconcile ns).run MemoryCluster.answers once.2.2
        (∃ stored, once.1 = .ok stored ∧ stored.pullSecretNames = m.store.registrySecrets ns ∧
            once.2.2.store.podDefaults.find? (PodDefault.registryKey ns) = some stored) ∧
          once.2.2.store.secrets = m.store.secrets ∧ twice.1 = once.1 ∧
          twice.2.2 = once.2.2 := by
  intro p q
  refine ⟨⟨PodDefault.pullSecretNames_rising ns names,
      fun name => PodDefault.mem_pullSecretNames_iff⟩,
    PodDefault.ofSecretNames_eq_iff, PodDefault.toJson_ofSecretNames_eq_iff,
    ⟨PodDefault.pullSecretsIn?_toJson ns names, ?_⟩, PodDefault.ofSecretNames_pullSecretNames, ?_⟩
  · rw [PodDefault.pullSecretsIn?_toJson, Option.some.injEq, Json.array.injEq, List.map_eq_nil_iff]
    exact PodDefault.pullSecretNames_eq_nil_iff
  · intro m lists applies once twice
    have first : once = _ := reconcile_run lists applies
    refine ⟨⟨_, congrArg Prod.fst first, pullSecretNames_registrySecrets m.store ns, ?_⟩, ?_,
      reconcile_again lists applies⟩
    · rw [first]
      exact SortedMap.find?_insert_self _ _ _
    · rw [first]
      rfl

/-- Order and repetition make no difference, and an empty list clears what was there. In a cluster
with a secret the PodDefault names it, however often it is computed. -/
theorem canonical_of_names_quay :
    let m : MemoryCluster := { store := ({} : Store).addSecret ⟨"a", "quay"⟩ }
    let once := (Registry.reconcile "a").run MemoryCluster.answers m
    PodDefault.ofSecretNames "a" ["quay", "docker", "quay"] =
        PodDefault.ofSecretNames "a" ["docker", "quay"] ∧
      PodDefault.pullSecretsIn? (PodDefault.ofSecretNames "a" []).toJson = some (.array []) ∧
      m.store.registrySecrets "a" = ["quay"] ∧
      ((Registry.reconcile "a").run MemoryCluster.answers once.2.2).2.2 = once.2.2 := by
  intro m once
  obtain ⟨-, same, -⟩ := canonical_of_names "a" "a" ["quay", "docker", "quay"] ["docker", "quay"]
  obtain ⟨-, -, -, empty, -, stored⟩ := canonical_of_names "a" "a" [] []
  have equal : ∀ name, name ∈ ["quay", "docker", "quay"] ↔ name ∈ ["docker", "quay"] := by
    intro name
    simp only [List.mem_cons, List.not_mem_nil, or_false]
    exact ⟨fun member => member.elim .inr id, .inr⟩
  exact ⟨same.2 ⟨rfl, equal⟩, empty.2.2 rfl, rfl, (stored m rfl rfl).2.2.2⟩

end PullSecrets
