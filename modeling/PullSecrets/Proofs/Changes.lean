import PullSecrets.Cluster.Memory

/-! # Changes and replay

The steps of a run tell all that it did to a cluster in memory: `run_replays` says that the store at
the end is the store at the start with the acknowledged writes of the steps made again, and that
nothing else of the cluster changes.
-/

namespace PullSecrets

/-- A change to the secrets of a store. -/
inductive Change where
  | add (key : ObjectKey)
  | remove (key : ObjectKey)
  deriving DecidableEq

namespace Change

/-- The place that is changed. -/
def key : Change → ObjectKey
  | .add key | .remove key => key

/-- The secrets after the change. -/
def apply (secrets : SortedMap ObjectKey String) : Change → SortedMap ObjectKey String
  | .add key => secrets.insert key Secret.registryType
  | .remove key => secrets.erase key

theorem find?_apply_of_ne (secrets : SortedMap ObjectKey String) (change : Change)
    {key : ObjectKey} (other : key ≠ change.key) :
    (change.apply secrets).find? key = secrets.find? key := by
  cases change with
  | add place => exact SortedMap.find?_insert_of_ne secrets _ other
  | remove place => exact SortedMap.find?_erase_of_ne secrets other

end Change

namespace Step

/-- The change that a step made to the secrets, if the cluster acknowledged one. -/
def change? : Step → Option Change
  | .asked (.createSecret c) (.ok ()) => some (.add c.key)
  | .asked (.deleteSecret ns name) (.ok ()) => some (.remove ⟨ns, name⟩)
  | _ => none

/-- The PodDefault that a step stored, if the cluster acknowledged one. -/
def podDefault? : Step → Option PodDefault
  | .asked (.applyPodDefault p) (.ok ()) => some p
  | _ => none

theorem podDefault?_eq_some {step : Step} {p : PodDefault} (stored : step.podDefault? = some p) :
    step = .asked (.applyPodDefault p) (.ok ()) := by
  unfold podDefault? at stored
  split at stored
  · cases stored
    rfl
  · cases stored

end Step

/-- The changes that some steps made to the secrets, in order. -/
def changes (steps : List Step) : List Change := steps.filterMap Step.change?

theorem changes_append (steps more : List Step) :
    changes (steps ++ more) = changes steps ++ changes more := List.filterMap_append

/-- A secret of a namespace was created or removed. -/
def Changed (ns : String) (history : List Step) : Prop :=
  ∃ change ∈ changes history, change.key.ns = ns

/-- The PodDefaults that some steps stored, in order. -/
def writes (steps : List Step) : List PodDefault := steps.filterMap Step.podDefault?

theorem writes_append (steps more : List Step) :
    writes (steps ++ more) = writes steps ++ writes more := List.filterMap_append

namespace Store

/-- The store with some changes made to its secrets and some PodDefaults stored. -/
def revise (s : Store) (cs : List Change) (ps : List PodDefault) : Store where
  secrets := cs.foldl Change.apply s.secrets
  podDefaults := ps.foldl (fun stored p => stored.insert p.key p) s.podDefaults

/-- The store after all that some steps did to it. -/
def replay (s : Store) (steps : List Step) : Store := s.revise (changes steps) (writes steps)

@[simp] theorem revise_nil (s : Store) : s.revise [] [] = s := rfl

/-- What no change is made to stays as it is. -/
theorem find?_secrets_revise (s : Store) {cs : List Change} (ps : List PodDefault)
    {key : ObjectKey} (elsewhere : ∀ change ∈ cs, change.key ≠ key) :
    (s.revise cs ps).secrets.find? key = s.secrets.find? key := by
  simp only [revise]
  induction cs generalizing s with
  | nil => rfl
  | cons change cs ih =>
      rw [List.forall_mem_cons] at elsewhere
      have here := Change.find?_apply_of_ne s.secrets change elsewhere.1.symm
      exact (ih { s with secrets := change.apply s.secrets } elsewhere.2).trans here

theorem find?_podDefaults_revise (s : Store) (cs : List Change) {ps : List PodDefault}
    {key : ObjectKey} (elsewhere : ∀ p ∈ ps, p.key ≠ key) :
    (s.revise cs ps).podDefaults.find? key = s.podDefaults.find? key := by
  simp only [revise]
  induction ps generalizing s with
  | nil => rfl
  | cons p ps ih =>
      rw [List.forall_mem_cons] at elsewhere
      have here := SortedMap.find?_insert_of_ne s.podDefaults p elsewhere.1.symm
      exact (ih (s.setPodDefault p.key p) elsewhere.2).trans here

theorem replay_append (s : Store) (steps more : List Step) :
    s.replay (steps ++ more) = (s.replay steps).replay more := by
  simp only [replay, revise, changes, writes, List.filterMap_append, List.foldl_append]

end Store

namespace MemoryCluster

@[simp] theorem withStore_store (m : MemoryCluster) (s : Store) : (m.withStore s).store = s := rfl

@[simp] theorem withStore_faults (m : MemoryCluster) (s : Store) :
    (m.withStore s).faults = m.faults := rfl

@[simp] theorem withStore_self (m : MemoryCluster) : m.withStore m.store = m := rfl

-- One equation for each way in which a call that matters to secrets and PodDefaults is answered.

section Answers

variable {m : MemoryCluster} {ns name : String} {c : Credential} {p : PodDefault} {e : ClusterError}

theorem answers_createSecret_fault (fails : m.faults.createSecret = some e) :
    answers (.createSecret c) m = (.error e, m) := by
  rw [answers, fails]
  rfl

theorem answers_createSecret_taken {type : String} (works : m.faults.createSecret = none)
    (taken : m.store.secrets.find? c.key = some type) :
    answers (.createSecret c) m = (.error (secretExists c.name), m) := by
  rw [answers, works, SortedMap.contains, taken]
  rfl

theorem answers_createSecret_free (works : m.faults.createSecret = none)
    (free : m.store.secrets.find? c.key = none) :
    answers (.createSecret c) m = (.ok (), m.withStore (m.store.addSecret c.key)) := by
  rw [answers, works, SortedMap.contains, free]
  rfl

theorem answers_deleteSecret_fault (fails : m.faults.deleteSecret = some e) :
    answers (.deleteSecret ns name) m = (.error e, m) := by
  rw [answers, fails]
  rfl

theorem answers_deleteSecret_missing (works : m.faults.deleteSecret = none)
    (missing : m.store.secrets.find? ⟨ns, name⟩ = none) :
    answers (.deleteSecret ns name) m = (.error (secretMissing name), m) := by
  rw [answers, works, SortedMap.contains, missing]
  rfl

theorem answers_deleteSecret_present {type : String} (works : m.faults.deleteSecret = none)
    (present : m.store.secrets.find? ⟨ns, name⟩ = some type) :
    answers (.deleteSecret ns name) m =
      (.ok (), m.withStore (m.store.removeSecret ⟨ns, name⟩)) := by
  rw [answers, works, SortedMap.contains, present]
  rfl

theorem answers_listSecrets_fault (fails : m.faults.listSecrets = some e) :
    answers (.listSecrets ns) m = (.error e, m) := by
  rw [answers, fails]
  rfl

theorem answers_listSecrets (works : m.faults.listSecrets = none) :
    answers (.listSecrets ns) m = (.ok (m.store.registrySecrets ns), m) := by
  rw [answers, works]
  rfl

theorem registrySecrets_of_answers {names : List String}
    (answered : (answers (.listSecrets ns) m).1 = .ok names) :
    names = m.store.registrySecrets ns := by
  cases fails : m.faults.listSecrets with
  | some e => rw [answers_listSecrets_fault fails] at answered; cases answered
  | none => rw [answers_listSecrets fails] at answered; cases answered; rfl

theorem answers_applyPodDefault_fault (fails : m.faults.applyPodDefault = some e) :
    answers (.applyPodDefault p) m = (.error e, m) := by
  rw [answers, fails]
  rfl

theorem answers_applyPodDefault (works : m.faults.applyPodDefault = none) :
    answers (.applyPodDefault p) m = (.ok (), m.withStore (m.store.setPodDefault p.key p)) := by
  rw [answers, works]
  rfl

end Answers

/-- A call changes the store by what its answer acknowledges. -/
theorem answers_replays (call : Call) (m : MemoryCluster) :
    (answers call m).2 = m.withStore (m.store.replay [.asked call (answers call m).1]) := by
  cases call with
  | review user action =>
      simp only [answers]
      cases m.reviewer user action <;> rfl
  | createSecret c =>
      simp only [answers, sparing]
      cases m.faults.createSecret with
      | some e => rfl
      | none => cases m.store.secrets.contains c.key <;> rfl
  | listSecrets ns =>
      simp only [answers, sparing]
      cases m.faults.listSecrets <;> rfl
  | deleteSecret ns name =>
      simp only [answers, sparing]
      cases m.faults.deleteSecret with
      | some e => rfl
      | none => cases m.store.secrets.contains ⟨ns, name⟩ <;> rfl
  | applyPodDefault p =>
      simp only [answers, sparing]
      cases m.faults.applyPodDefault <;> rfl
  | listPodDefaults ns =>
      simp only [answers, sparing]
      cases m.faults.listPodDefaults <;> rfl
  | serverVersion =>
      simp only [answers, sparing]
      cases m.faults.serverVersion <;> rfl

/-- A run changes the store by what its steps acknowledge, and leaves the rules as they are. -/
theorem run_replays {α : Type} (p : Program α) (m : MemoryCluster) :
    (p.run answers m).2.2 = m.withStore (m.store.replay (p.run answers m).2.1) := by
  induction p generalizing m with
  | done a => rfl
  | ask call next ih =>
      simp only [Program.run]
      rw [ih, answers_replays]
      exact congrArg m.withStore (Store.replay_append m.store [_] _).symm
  | log event next ih => exact ih m

end MemoryCluster

end PullSecrets
