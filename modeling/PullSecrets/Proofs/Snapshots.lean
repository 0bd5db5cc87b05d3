import PullSecrets.Proofs.Sync
import PullSecrets.Proofs.Traffic

/-! # Snapshots

With many operations under way, the registry PodDefault of a namespace is the one that was stored
last. It was computed from a single list of all registry secrets that the namespace had at one
moment, the moment at which the operation that stored it had listed them (`latest_snapshot`). It
need not be the latest list: an operation that listed earlier may store later.
-/

namespace PullSecrets

/-- A PodDefault is stored right after the secrets that it names were listed. -/
def Snapshot : Rule := fun history call =>
  match call with
  | .applyPodDefault p => ∃ earlier ns names,
      history = earlier ++ [.asked (.listSecrets ns) (.ok names)] ∧ p = .ofSecretNames ns names
  | _ => True

theorem snapshot_suits (settings : AccessSettings) (headers : Headers) :
    Snapshot.Suits settings headers := by
  constructor
  case applies =>
    intro history ns names write changed
    exact ⟨history, ns, names, rfl, rfl⟩
  all_goals
    intros
    trivial

theorem program_keeps_snapshot (settings : AccessSettings) (operation : Operation) :
    (operation.program settings).Keeps Snapshot [] := by
  apply operation.program_keeps
  · intro headers _
    exact snapshot_suits settings headers
  · intro ns
    exact reconcile_keeps trivial fun names => ⟨[], ns, names, rfl, rfl⟩

/-- A PodDefault of a namespace was stored at the moment. -/
def Moment.Applies (ns : String) (moment : Moment) : Prop :=
  ∃ p, moment.step.podDefault? = some p ∧ p.key.ns = ns

namespace Traffic

variable {settings : AccessSettings} {m : MemoryCluster} {happenings : List Happening}
  {ns : String} {history : List Moment}

theorem find?_replay_of_not_applies (s : Store)
    (never : ∀ moment ∈ history, ¬ moment.Applies ns) :
    (s.replay (history.map Moment.step)).podDefaults.find? (PodDefault.registryKey ns) =
      s.podDefaults.find? (PodDefault.registryKey ns) := by
  refine Store.find?_podDefaults_revise s _ fun p written same => ?_
  obtain ⟨step, told, stored⟩ := List.mem_filterMap.1 written
  obtain ⟨moment, member, rfl⟩ := List.mem_map.1 told
  exact never moment member ⟨p, stored, congrArg ObjectKey.ns same⟩

/-- What an operation stores was computed from what it listed the step before. -/
theorem listed_before {earlier later : List Moment} {applied : Moment} {p : PodDefault}
    (followed : Snapshot.Followed [] (own applied.number (earlier ++ applied :: later)))
    (stored : applied.step = .asked (.applyPodDefault p) (.ok ())) :
    ∃ before listed between ns names, earlier = before ++ listed :: between ∧
      listed.number = applied.number ∧ (∀ moment ∈ between, moment.number ≠ applied.number) ∧
      listed.step = .asked (.listSecrets ns) (.ok names) ∧ p = .ofSecretNames ns names := by
  rw [own_append, own_cons_self, stored] at followed
  obtain ⟨steps, ns, names, did, rfl⟩ := followed _ _ _ _ rfl
  rw [List.nil_append] at did
  obtain ⟨before, listed, between, rfl, same, step, idle⟩ := own_eq_concat did
  exact ⟨before, listed, between, ns, names, rfl, same, idle, step, rfl⟩

/-- Where the registry PodDefault of a namespace comes from: the operation that stored one last had
listed the secrets of the namespace, and did nothing in between. -/
structure Origin (t : Traffic) (ns : String) where
  before : List Moment
  listed : Moment
  between : List Moment
  applied : Moment
  later : List Moment
  names : List String
  told : t.history = before ++ listed :: between ++ applied :: later
  same : listed.number = applied.number
  idle : ∀ moment ∈ between, moment.number ≠ applied.number
  lists : listed.step = .asked (.listSecrets ns) (.ok names)
  applies : applied.step = .asked (.applyPodDefault (.ofSecretNames ns names)) (.ok ())
  last : ∀ moment ∈ later, ¬ moment.Applies ns

namespace Origin

variable {t : Traffic} (origin : t.Origin ns)

/-- All that was done since the secrets were listed. -/
def since : List Moment := origin.listed :: origin.between ++ origin.applied :: origin.later

theorem told_since : t.history = origin.before ++ origin.since := by
  simp only [origin.told, since, List.append_assoc, List.cons_append]

variable {start : Store} (faithful : t.Faithful start)
include faithful

theorem complete : origin.names = origin.listed.store.registrySecrets ns := by
  refine faithful.complete origin.listed ?_ ns origin.names origin.lists
  rw [origin.told_since]
  exact List.mem_append_right _ (.head _)

theorem listed_store : origin.listed.store = start.replay (origin.before.map Moment.step) :=
  faithful.momentary _ _ _ origin.told_since

/-- What was stored last is there still. -/
theorem stands : t.cluster.store.podDefaults.find? (PodDefault.registryKey ns) =
    some (.ofSecretNames ns origin.names) := by
  have steps : t.history.map Moment.step =
      (origin.before ++ origin.listed :: origin.between).map Moment.step ++
        [origin.applied.step] ++ origin.later.map Moment.step := by
    simp only [origin.told, List.map_append, List.map_cons, List.append_assoc,
      List.singleton_append]
  rw [faithful.current, steps, Store.replay_append, find?_replay_of_not_applies _ origin.last,
    Store.replay_append, origin.applies]
  exact SortedMap.find?_insert_self _ _ _

theorem secrets_unchanged (unchanged : ¬ Changed ns (origin.since.map Moment.step))
    (name : String) :
    t.cluster.store.secrets.find? ⟨ns, name⟩ = origin.listed.store.secrets.find? ⟨ns, name⟩ := by
  rw [faithful.current, origin.told_since, List.map_append, Store.replay_append,
    ← origin.listed_store faithful]
  refine Store.find?_secrets_revise _ _ fun change made same => ?_
  exact unchanged ⟨change, made, congrArg ObjectKey.ns same⟩

theorem inSync (unchanged : ¬ Changed ns (origin.since.map Moment.step)) :
    t.cluster.store.InSync ns := by
  refine (Store.inSync_congr ?_ ?_).2 (Store.inSync_renewed origin.listed.store ns)
  · rw [origin.stands faithful, origin.complete faithful]
    exact (SortedMap.find?_insert_self _ _ _).symm
  · exact origin.secrets_unchanged faithful unchanged

end Origin

/-- In traffic, a PodDefault that was stored has an origin. -/
theorem origin_of_applies {t : Traffic} (orderly : t.Orderly Snapshot) {earlier later : List Moment}
    {applied : Moment} (split : t.history = earlier ++ applied :: later)
    (applies : applied.Applies ns) (last : ∀ moment ∈ later, ¬ moment.Applies ns) :
    Nonempty (t.Origin ns) := by
  obtain ⟨p, stored, here⟩ := applies
  have stored := Step.podDefault?_eq_some stored
  have followed := orderly.followed applied.number
  rw [split] at followed
  obtain ⟨before, listed, between, place, names, rfl, same, idle, lists, rfl⟩ :=
    listed_before followed stored
  cases (here : place = ns)
  exact ⟨⟨before, listed, between, applied, later, names, split, same, idle, lists, stored, last⟩⟩

/-- Whatever happens while operations are under way: the secrets are what the changes make of them
in the order in which they were made. For every namespace the registry PodDefault is the one from
the start, or it names exactly the registry secrets that the namespace had at the moment at which
the operation that stored it last listed them; and if none was changed since, the namespace is in
sync. -/
theorem latest_snapshot (settings : AccessSettings) (m : MemoryCluster)
    (happenings : List Happening) (ns : String) :
    let t := run settings m happenings
    t.cluster.store.secrets =
        (changes (t.history.map Moment.step)).foldl Change.apply m.store.secrets ∧
      ((∀ moment ∈ t.history, ¬ moment.Applies ns) ∧
          t.cluster.store.podDefaults.find? (PodDefault.registryKey ns) =
            m.store.podDefaults.find? (PodDefault.registryKey ns) ∨
        ∃ origin : t.Origin ns,
          origin.names = origin.listed.store.registrySecrets ns ∧
          origin.listed.store.secrets =
            (changes (origin.before.map Moment.step)).foldl Change.apply m.store.secrets ∧
          t.cluster.store.podDefaults.find? (PodDefault.registryKey ns) =
            some (.ofSecretNames ns origin.names) ∧
          (∀ name, name ∈ (PodDefault.ofSecretNames ns origin.names).pullSecretNames ↔
            origin.listed.store.secrets.find? ⟨ns, name⟩ = some Secret.registryType) ∧
          (¬ Changed ns (origin.since.map Moment.step) → t.cluster.store.InSync ns)) := by
  intro t
  have faithful : t.Faithful m.store := run_faithful
  have orderly : t.Orderly Snapshot := run_orderly (program_keeps_snapshot settings)
  refine ⟨congrArg Store.secrets faithful.current, ?_⟩
  rcases last_or_none (Moment.Applies ns) t.history with
    never | ⟨earlier, applied, later, split, applies, last⟩
  · left
    refine ⟨never, ?_⟩
    rw [faithful.current]
    exact find?_replay_of_not_applies m.store never
  · right
    obtain ⟨origin⟩ := origin_of_applies orderly split applies last
    have complete := origin.complete faithful
    refine ⟨origin, complete, ?_, origin.stands faithful, ?_, origin.inSync faithful⟩
    · exact congrArg Store.secrets (origin.listed_store faithful)
    · intro name
      rw [PodDefault.mem_pullSecretNames_iff, complete, Store.mem_registrySecrets_iff]

/-- A list that is older than a change may still be stored after it. -/
example :
    let submission : CredentialRequest := ⟨some "team", some "quay", some "r", some "u", some "p",
      some "e"⟩
    let t := run { disabled := true } {} <|
      [.start (.reconcile "team"), .start (.create [] submission), .advance 0] ++
        List.replicate 6 (.advance 1) ++ [.advance 0]
    t.cluster.store.registrySecrets "team" = ["quay"] ∧
      (t.cluster.store.podDefaults.find? (PodDefault.registryKey "team")).map
        PodDefault.pullSecretNames = some [] := by
  decide +kernel

end Traffic

end PullSecrets
