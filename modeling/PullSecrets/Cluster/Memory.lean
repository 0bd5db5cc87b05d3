import PullSecrets.Program

/-!
# A cluster in memory

Secrets and PodDefaults in sorted maps, together with who may do what and which calls fail. It
answers every call at once, and only the operations that write change it. Of a secret no more than
its type is kept.
-/

namespace PullSecrets

/-- The place of an object: its namespace and its name. -/
structure ObjectKey where
  ns : String
  name : String
  deriving DecidableEq, Repr, Inhabited

namespace ObjectKey

/-- Keys are ordered by namespace, then by name. -/
instance : Ord ObjectKey where
  compare := compareLex (compareOn ns) (compareOn name)

instance : Std.TransOrd ObjectKey :=
  inferInstanceAs (Std.TransCmp (compareLex (compareOn ns) (compareOn name)))

instance : Std.LawfulEqOrd ObjectKey where
  compare_self {_} := Ordering.then_eq_eq.2 ⟨Std.ReflOrd.compare_self, Std.ReflOrd.compare_self⟩
  eq_of_compare {a b} h := by
    obtain ⟨hn, hm⟩ := Ordering.then_eq_eq.1 h
    have hn := Std.LawfulEqOrd.eq_of_compare hn
    have hm := Std.LawfulEqOrd.eq_of_compare hm
    cases a
    cases b
    simp_all

end ObjectKey

/-- Answers the question whether a user may do something. -/
abbrev Reviewer : Type := String → Action → Except ClusterError Bool

/-- The calls that fail, and how. -/
structure Faults where
  createSecret : Option ClusterError := none
  listSecrets : Option ClusterError := none
  deleteSecret : Option ClusterError := none
  applyPodDefault : Option ClusterError := none
  listPodDefaults : Option ClusterError := none
  serverVersion : Option ClusterError := none
  deriving DecidableEq, Inhabited

/-- What a cluster stores: the types of secrets, and PodDefaults. -/
structure Store where
  secrets : SortedMap ObjectKey String := ∅
  podDefaults : SortedMap ObjectKey PodDefault := ∅
  deriving DecidableEq, Inhabited

namespace Store

/-- The names of the registry secrets of a namespace, in order. -/
def registrySecrets (s : Store) (ns : String) : List String :=
  (s.secrets.filter fun key type => key.ns = ns && type = Secret.registryType).keys.map (·.name)

def podDefaultsOf (s : Store) (ns : String) : List PodDefault :=
  (s.podDefaults.filter fun key _ => key.ns = ns).entries.map (·.2)

def addSecret (s : Store) (key : ObjectKey) : Store :=
  { s with secrets := s.secrets.insert key Secret.registryType }

def removeSecret (s : Store) (key : ObjectKey) : Store :=
  { s with secrets := s.secrets.erase key }

def setPodDefault (s : Store) (key : ObjectKey) (p : PodDefault) : Store :=
  { s with podDefaults := s.podDefaults.insert key p }

end Store

def Credential.key (c : Credential) : ObjectKey := ⟨c.ns, c.name⟩

/-- The place that the metadata of a PodDefault name; what they leave out is empty. -/
def PodDefault.key (p : PodDefault) : ObjectKey :=
  ⟨p.metadata.ns.getD "", p.metadata.name.getD ""⟩

def secretExists (name : String) : ClusterError :=
  .refused 409 "AlreadyExists" ("secrets \"" ++ name ++ "\" already exists")

def secretMissing (name : String) : ClusterError :=
  .refused 404 "NotFound" ("secrets \"" ++ name ++ "\" not found")

/-- A store with the rules by which it answers. -/
structure MemoryCluster where
  store : Store := {}
  reviewer : Reviewer := fun _ _ => .ok true
  faults : Faults := {}
  version : String := "v1.32.0"

namespace MemoryCluster

def withStore (m : MemoryCluster) (s : Store) : MemoryCluster := { m with store := s }

def sparing {α : Type} (fault : Option ClusterError) (m : MemoryCluster)
    (outcome : Except ClusterError α × MemoryCluster) : Except ClusterError α × MemoryCluster :=
  match fault with
  | some e => (.error e, m)
  | none => outcome

def answers : Answers MemoryCluster
  | .review user action, m => (m.reviewer user action, m)
  | .createSecret c, m =>
    sparing m.faults.createSecret m <|
      if m.store.secrets.contains c.key then (.error (secretExists c.name), m)
      else (.ok (), m.withStore (m.store.addSecret c.key))
  | .listSecrets ns, m => sparing m.faults.listSecrets m (.ok (m.store.registrySecrets ns), m)
  | .deleteSecret ns name, m =>
    sparing m.faults.deleteSecret m <|
      if m.store.secrets.contains ⟨ns, name⟩ then
        (.ok (), m.withStore (m.store.removeSecret ⟨ns, name⟩))
      else (.error (secretMissing name), m)
  | .applyPodDefault p, m =>
    sparing m.faults.applyPodDefault m (.ok (), m.withStore (m.store.setPodDefault p.key p))
  | .listPodDefaults ns, m =>
    sparing m.faults.listPodDefaults m (.ok (m.store.podDefaultsOf ns), m)
  | .serverVersion, m => sparing m.faults.serverVersion m (.ok m.version, m)

end MemoryCluster

/-- A rule that denies: each part that is set has to agree. -/
structure DenyRule where
  user : Option String := none
  verb : Option String := none
  resource : Option String := none
  ns : Option String := none
  deriving DecidableEq, Repr, Inhabited

namespace DenyRule

def agrees (part : Option String) (value : String) : Bool :=
  match part with
  | some s => s == value
  | none => true

def matches? (r : DenyRule) (user : String) (action : Action) : Bool :=
  agrees r.user user && agrees r.verb action.verb && agrees r.resource action.resource &&
    (match r.ns with
      | some ns => action.ns == some ns
      | none => true)

end DenyRule

/-- The reviewer that denies by some rules, or fails. -/
def Reviewer.ofRules (rules : List DenyRule) (failure : Option ClusterError) : Reviewer :=
  fun user action =>
    match failure with
    | some e => .error e
    | none => .ok (!rules.any fun r => r.matches? user action)

end PullSecrets
