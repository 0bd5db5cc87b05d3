import PullSecrets.Proofs.ByteOrder
import PullSecrets.Proofs.Changes

/-! # Namespaces in sync

A namespace is in sync when its registry PodDefault names its registry secrets. The PodDefault that
is computed from all of them brings a namespace in sync (`inSync_renewed`), and only what is
stored for a namespace decides whether it is (`inSync_congr`).
-/

namespace PullSecrets

/-- The place of the registry PodDefault of a namespace. -/
def PodDefault.registryKey (ns : String) : ObjectKey := ⟨ns, registryName⟩

namespace PodDefault

theorem mem_pullSecretNames_iff {ns name : String} {names : List String} :
    name ∈ (ofSecretNames ns names).pullSecretNames ↔ name ∈ names := by
  change name ∈ distinctNames names ↔ name ∈ names
  rw [distinctNames, SortedMap.mem_keys_ofList_iff]
  simp

/-- The names rise in the order of their bytes, so none comes twice. -/
theorem pullSecretNames_rising (ns : String) (names : List String) :
    (ofSecretNames ns names).pullSecretNames.Pairwise fun a b =>
      Text.encode a < Text.encode b := by
  refine (SortedMap.keys_rising (SortedMap.ofList _)).imp ?_
  intro a b below
  exact Text.compare_eq_lt_iff.1 below

end PodDefault

namespace Store

variable {s t : Store} {ns other : String}

/-- The registry PodDefault of a namespace is there, and it names exactly the registry secrets of
the namespace, in rising order of their bytes. -/
def InSync (s : Store) (ns : String) : Prop :=
  ∃ p, s.podDefaults.find? (PodDefault.registryKey ns) = some p ∧
    (p.pullSecretNames.Pairwise fun a b => Text.encode a < Text.encode b) ∧
    ∀ name, name ∈ p.pullSecretNames ↔ s.secrets.find? ⟨ns, name⟩ = some Secret.registryType

theorem mem_registrySecrets_iff {name : String} :
    name ∈ s.registrySecrets ns ↔ s.secrets.find? ⟨ns, name⟩ = some Secret.registryType := by
  simp only [registrySecrets, List.mem_map, SortedMap.mem_keys_iff,
    SortedMap.find?_filter_eq_some_iff, Bool.and_eq_true, decide_eq_true_eq]
  constructor
  · rintro ⟨⟨_, _⟩, ⟨type, found, rfl, rfl⟩, rfl⟩
    exact found
  · intro found
    exact ⟨⟨ns, name⟩, ⟨_, found, rfl, rfl⟩, rfl⟩

/-- Registry secrets are listed in the order of the bytes of their names. -/
theorem registrySecrets_rising (s : Store) (ns : String) :
    (s.registrySecrets ns).Pairwise fun a b => Text.encode a < Text.encode b := by
  let kept := s.secrets.filter fun key type => key.ns = ns && type = Secret.registryType
  have here : ∀ key ∈ kept.keys, key.ns = ns := by
    intro key member
    obtain ⟨type, found⟩ := (SortedMap.mem_keys_iff _).1 member
    rw [SortedMap.find?_filter_eq_some_iff] at found
    simp only [Bool.and_eq_true, decide_eq_true_eq] at found
    exact found.2.1
  refine List.pairwise_map.2 ((SortedMap.keys_rising kept).imp_of_mem ?_)
  intro a b left right below
  have same : compare a.ns b.ns = .eq := by
    rw [here a left, here b right, Std.ReflOrd.compare_self]
  have names : compare a.name b.name = .lt := by
    have lex : (compare a.ns b.ns).then (compare a.name b.name) = .lt := below
    rwa [same] at lex
  exact Text.compare_eq_lt_iff.1 names

/-- The store with the registry PodDefault of a namespace computed anew. -/
def renewed (s : Store) (ns : String) : Store :=
  s.setPodDefault (PodDefault.registryKey ns) (.ofSecretNames ns (s.registrySecrets ns))

theorem inSync_renewed (s : Store) (ns : String) : (s.renewed ns).InSync ns := by
  refine ⟨_, SortedMap.find?_insert_self _ _ _, PodDefault.pullSecretNames_rising _ _, ?_⟩
  intro name
  rw [PodDefault.mem_pullSecretNames_iff, mem_registrySecrets_iff]
  rfl

/-- Whether a namespace is in sync depends on its own secrets and registry PodDefault alone. -/
theorem inSync_congr
    (podDefault : s.podDefaults.find? (PodDefault.registryKey ns) =
      t.podDefaults.find? (PodDefault.registryKey ns))
    (secrets : ∀ name, s.secrets.find? ⟨ns, name⟩ = t.secrets.find? ⟨ns, name⟩) :
    s.InSync ns ↔ t.InSync ns := by
  simp only [InSync, podDefault, secrets]

theorem inSync_renewed_of_ne (elsewhere : ns ≠ other) :
    (s.renewed other).InSync ns ↔ s.InSync ns := by
  refine inSync_congr (SortedMap.find?_insert_of_ne _ _ fun same => ?_) fun name => rfl
  exact elsewhere (congrArg ObjectKey.ns same)

theorem inSync_change_of_ne {change : Change} (elsewhere : ns ≠ change.key.ns) :
    (s.revise [change] []).InSync ns ↔ s.InSync ns := by
  refine inSync_congr rfl fun name => Change.find?_apply_of_ne s.secrets change fun same => ?_
  exact elsewhere (congrArg ObjectKey.ns same)

end Store

end PullSecrets
