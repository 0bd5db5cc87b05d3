import PullSecrets.Kubeconfig.Workstation
import PullSecrets.Proofs.Addresses

/-! # The cluster that is chosen

The settings decide which cluster is talked to. A kubeconfig that they name counts alone, with what
its chosen entries name (`ClientLibrary.ofSettings_congr`), and what is wrong with it ends the
choice. A context that they name is the one that is used, whatever context is in use
(`cluster_as_named`). Of the library that clients are made with no more is asked than that it keeps
to what it is given (`ClientLibrary.Contained`).
-/

namespace PullSecrets

namespace Named

variable {α : Type} {name : String} {entries : List (Named α)} {value : α}

/-- The first entry with a name has a value. -/
def First (name : String) (entries : List (Named α)) (value : α) : Prop :=
  ∃ before after, entries = before ++ ⟨name, some value⟩ :: after ∧ ∀ e ∈ before, e.name ≠ name

theorem first?_eq_some_iff : first? name entries = some value ↔ First name entries value := by
  rw [first?, Option.bind_eq_some_iff]
  constructor
  · rintro ⟨⟨key, found⟩, first, rfl⟩
    obtain ⟨named, before, after, rfl, others⟩ := List.find?_eq_some_iff_append.1 first
    obtain rfl : key = name := by simpa using named
    exact ⟨before, after, rfl, by simpa using others⟩
  · rintro ⟨before, after, rfl, others⟩
    refine ⟨⟨name, some value⟩, List.find?_eq_some_iff_append.2 ⟨by simp, ?_⟩, rfl⟩
    exact ⟨before, after, rfl, by simpa using others⟩

theorem first?_eq_none_iff : first? name entries = none ↔ ∀ value, ¬ First name entries value := by
  simp only [Option.eq_none_iff_forall_ne_some, ne_eq, first?_eq_some_iff]

end Named

namespace Kubeconfig

variable {k : Kubeconfig} {context : Option String} {files : Files} {path : Bytes}

/-- The file cannot be read, or it is no kubeconfig. -/
def Unreadable (files : Files) (path : Bytes) : Prop :=
  (∃ fault, files.readText path = .error fault) ∨
    ∃ document, files.readText path = .ok document ∧ read? document = none

theorem ofFile?_eq_none_iff : ofFile? files path = none ↔ Unreadable files path := by
  unfold ofFile? Unreadable
  cases files.readText path with
  | error fault => simp
  | ok document => simp

/-- No context is in use and none is named, there is no such context, or it is one of a cluster that
there is not. -/
inductive Unknown (k : Kubeconfig) (context : Option String) : Prop
  | unset (named : context.or k.currentContext = none)
  | context {name : String} (named : context.or k.currentContext = some name)
      (missing : ∀ entry, ¬ Named.First name k.contexts entry)
  | cluster {name : String} {entry : ContextEntry}
      (named : context.or k.currentContext = some name)
      (first : Named.First name k.contexts entry)
      (missing : ∀ cluster, ¬ Named.First entry.cluster k.clusters cluster)

theorem choice?_eq_some_iff {cluster : ClusterEntry} {user : UserEntry} :
    k.choice? context = some (cluster, user) ↔ ∃ name entry,
      context.or k.currentContext = some name ∧ Named.First name k.contexts entry ∧
        Named.First entry.cluster k.clusters cluster ∧
        user = (entry.user.bind fun name => Named.first? name k.users).getD {} := by
  simp only [choice?, Option.bind_eq_bind, Option.bind_eq_some_iff, Named.first?_eq_some_iff,
    Option.some.injEq, Prod.mk.injEq]
  constructor
  · rintro ⟨name, named, entry, first, cluster', known, rfl, rfl⟩
    exact ⟨name, entry, named, first, known, rfl⟩
  · rintro ⟨name, entry, named, first, known, rfl⟩
    exact ⟨name, named, entry, first, cluster, known, rfl, rfl⟩

theorem choice?_eq_none_iff : k.choice? context = none ↔ k.Unknown context := by
  constructor
  · intro unchosen
    cases named : context.or k.currentContext with
    | none => exact .unset named
    | some name =>
        cases first : Named.first? name k.contexts with
        | none => exact .context named (Named.first?_eq_none_iff.1 first)
        | some entry =>
            refine .cluster named (Named.first?_eq_some_iff.1 first) fun cluster known => ?_
            rw [← Named.first?_eq_some_iff] at known
            simp [choice?, named, first, known] at unchosen
  · intro unknown
    rw [Option.eq_none_iff_forall_ne_some]
    rintro ⟨cluster, user⟩ chosen
    obtain ⟨name, entry, named, first, known, -⟩ := choice?_eq_some_iff.1 chosen
    cases unknown with
    | unset unnamed => cases named.symm.trans unnamed
    | context named' missing =>
        cases named.symm.trans named'
        exact missing entry first
    | cluster named' first' missing =>
        cases named.symm.trans named'
        rw [← Named.first?_eq_some_iff] at first first'
        cases first.symm.trans first'
        exact missing cluster known

theorem config?_cases {certificates? : Bytes → Option (List Bytes)} {env : Environment}
    {c : ClusterConfig} (found : k.config? certificates? env context = some c) :
    ∃ cluster address, k.choice? context = some (cluster, c.user) ∧
      cluster.server = some address ∧ Target.read address = .ok c.server := by
  obtain ⟨⟨cluster, user⟩, chosen, found⟩ := Option.bind_eq_some_iff.1 found
  obtain ⟨address, served, found⟩ := Option.bind_eq_some_iff.1 found
  obtain ⟨server, read, found⟩ := Option.bind_eq_some_iff.1 found
  obtain ⟨authorities, -, found⟩ := Option.bind_eq_some_iff.1 found
  obtain ⟨proxy, -, found⟩ := Option.bind_eq_some_iff.1 found
  cases found
  refine ⟨cluster, address, chosen, served, ?_⟩
  unfold target? at read
  cases outcome : Target.read address with
  | error fault => simp [outcome, Except.toOption] at read
  | ok t => simpa [outcome, Except.toOption] using read

theorem config?_eq_none (certificates? : Bytes → Option (List Bytes)) (env : Environment)
    (unknown : k.Unknown context) : k.config? certificates? env context = none := by
  unfold config?
  rw [choice?_eq_none_iff.2 unknown]
  rfl

/-- The files that the chosen entries name. -/
def named (k : Kubeconfig) (context : Option String) : List String :=
  match k.choice? context with
  | some (cluster, user) => cluster.authorityFile.toList ++ user.files
  | none => []

theorem named_of_choice {cluster : ClusterEntry} {user : UserEntry}
    (chosen : k.choice? context = some (cluster, user)) :
    k.named context = cluster.authorityFile.toList ++ user.files := by
  rw [named, chosen]

end Kubeconfig

/-- The same variables, but for those that say where kubeconfigs are usually kept, and the same in
some files. -/
structure Environment.AgreeOn (files : List String) (env env' : Environment) : Prop where
  vars : ∀ name, name ≠ "KUBECONFIG" → name ≠ "HOME" → env.bytes? name = env'.bytes? name
  files : ∀ file ∈ files, env.files.read (Text.encode file) = env'.files.read (Text.encode file)

theorem Environment.AgreeOn.mono {files files' : List String} {env env' : Environment}
    (agree : env.AgreeOn files env') (fewer : files' ⊆ files) : env.AgreeOn files' env' where
  vars := agree.vars
  files file member := agree.files file (fewer member)

namespace Kubeconfig

variable {k : Kubeconfig} {context : Option String} {env env' : Environment} {path : Bytes}
  {certificates? : Bytes → Option (List Bytes)}

theorem readText_congr (same : env.files.read path = env'.files.read path) :
    env.files.readText path = env'.files.readText path := by
  rw [Files.readText, Files.readText, same]

theorem ofFile?_congr (same : env.files.read path = env'.files.read path) :
    ofFile? env.files path = ofFile? env'.files path := by
  rw [ofFile?, ofFile?, readText_congr same]

theorem material?_congr {data file : Option String} (agree : env.AgreeOn file.toList env') :
    material? env.files data file = material? env'.files data file := by
  unfold material?
  cases data with
  | some data => rfl
  | none =>
      cases file with
      | none => rfl
      | some file => simp only [agree.files file (.head _)]

theorem authorities?_congr {cluster : ClusterEntry}
    (agree : env.AgreeOn cluster.authorityFile.toList env') :
    authorities? certificates? env.files cluster =
      authorities? certificates? env'.files cluster := by
  unfold authorities?
  rw [material?_congr agree]

theorem proxy?_congr {files : List String} (agree : env.AgreeOn files env')
    (cluster : ClusterEntry) : proxy? env cluster = proxy? env' cluster := by
  unfold proxy? proxyText? Environment.text?
  rw [agree.vars "HTTP_PROXY" (by decide) (by decide),
    agree.vars "HTTPS_PROXY" (by decide) (by decide)]

theorem config?_congr (agree : env.AgreeOn (k.named context) env') :
    k.config? certificates? env context = k.config? certificates? env' context := by
  refine Option.bind_congr fun choice chosen => ?_
  obtain ⟨cluster, user⟩ := choice
  rw [named_of_choice chosen] at agree
  have authorities : authorities? certificates? env.files cluster =
      authorities? certificates? env'.files cluster :=
    authorities?_congr (agree.mono (List.subset_append_left _ _))
  dsimp only
  rw [authorities, proxy?_congr agree]

end Kubeconfig

namespace ClientLibrary

open Kubeconfig

variable {lib : ClientLibrary} {env env' : Environment} {settings : ClusterSettings}
  {context : Option String} {path name : String} {k : Kubeconfig} {c : ClusterConfig}
  {conn : Connection}

/-- Whether a client can be made depends on its configuration, on the files that tell the user, on
what the machine trusts and on what programs print, and not on where kubeconfigs are usually
kept. -/
structure Contained (lib : ClientLibrary) : Prop where
  makes_congr : ∀ {env env' : Environment} {c : ClusterConfig}, env.AgreeOn c.user.files env' →
    lib.trusted env = lib.trusted env' → lib.printed? env c = lib.printed? env' c →
    lib.makes env c = lib.makes env' c

/-- Two environments that differ in nothing that a kubeconfig leads to. -/
structure Alike (lib : ClientLibrary) (path : String) (context : Option String)
    (env env' : Environment) : Prop where
  kubeconfig : env.AgreeOn [path] env'
  named : ∀ k, ofFile? env.files (Text.encode path) = some k → env.AgreeOn (k.named context) env'
  trusted : lib.trusted env = lib.trusted env'
  printed : ∀ k c, ofFile? env.files (Text.encode path) = some k →
    k.config? lib.certificates? env context = some c → lib.printed? env c = lib.printed? env' c

theorem ofSettings_of_file (found : ofFile? env.files (Text.encode path) = some k) :
    lib.ofSettings env ⟨some path, context⟩ =
      match k.config? lib.certificates? env context with
      | some c => lib.connect env c
      | none => .error .unusable := by
  simp only [ofSettings, config, found]
  cases k.config? lib.certificates? env context <;> rfl

theorem ofSettings_of_unreadable (unread : ofFile? env.files (Text.encode path) = none) :
    lib.ofSettings env ⟨some path, context⟩ = .error .unreadable := by
  simp only [ofSettings, config, unread]

/-- A kubeconfig that is named counts alone, with what its chosen entries name. -/
theorem ofSettings_congr (contained : lib.Contained) (alike : lib.Alike path context env env') :
    lib.ofSettings env ⟨some path, context⟩ = lib.ofSettings env' ⟨some path, context⟩ := by
  have same := ofFile?_congr (alike.kubeconfig.files path (.head _))
  cases found : ofFile? env.files (Text.encode path) with
  | none =>
      rw [ofSettings_of_unreadable found, ofSettings_of_unreadable (same ▸ found)]
  | some k =>
      have agree := alike.named k found
      rw [ofSettings_of_file found, ofSettings_of_file (same ▸ found), ← config?_congr agree]
      cases configured : k.config? lib.certificates? env context with
      | none => rfl
      | some c =>
          obtain ⟨cluster, -, choice, -⟩ := config?_cases configured
          rw [named_of_choice choice] at agree
          have makes := contained.makes_congr (agree.mono (List.subset_append_right _ _))
            alike.trusted (alike.printed k c found configured)
          simp only [connect, makes]

theorem connect_error {e : ConnectError} (failed : lib.connect env c = .error e) :
    e = .unsupported := by
  unfold connect at failed
  split at failed <;> cases failed
  rfl

theorem server_of_connect (connected : lib.connect env c = .ok conn) :
    conn.server = c.server := by
  unfold connect at connected
  split at connected <;> cases connected
  rfl

theorem ofSettings_eq_unreadable_iff :
    lib.ofSettings env ⟨some path, context⟩ = .error .unreadable ↔
      Unreadable env.files (Text.encode path) := by
  rw [← ofFile?_eq_none_iff]
  constructor
  · intro failed
    cases found : ofFile? env.files (Text.encode path) with
    | none => rfl
    | some k =>
        rw [ofSettings_of_file found] at failed
        split at failed
        · cases connect_error failed
        · cases failed
  · exact ofSettings_of_unreadable

/-- The kubeconfig in use: the one that the settings name, or else the usual one. -/
def inUse? (lib : ClientLibrary) (env : Environment) (settings : ClusterSettings) :
    Option Kubeconfig :=
  match settings.kubeconfig with
  | some path => ofFile? env.files (Text.encode path)
  | none => usual? lib.home? env

theorem config_of_context (lib : ClientLibrary) (env : Environment)
    (named : settings.context = some name) :
    (∃ k, lib.inUse? env settings = some k ∧ lib.config env settings =
        match k.config? lib.certificates? env (some name) with
        | some c => .ok c
        | none => .error .unusable) ∨
      lib.inUse? env settings = none ∧ (lib.config env settings = .error .unreadable ∨
        lib.config env settings = .error .unusable) := by
  obtain ⟨kubeconfig, context⟩ := settings
  obtain rfl : context = some name := named
  cases kubeconfig with
  | some path =>
      simp only [inUse?, config]
      cases ofFile? env.files (Text.encode path) with
      | none => exact .inr ⟨rfl, .inl rfl⟩
      | some k => exact .inl ⟨k, rfl, rfl⟩
  | none =>
      simp only [inUse?, config]
      cases usual? lib.home? env with
      | none => exact .inr ⟨rfl, .inr rfl⟩
      | some k => exact .inl ⟨k, rfl, rfl⟩

theorem config_of_ofSettings (connected : lib.ofSettings env settings = .ok conn) :
    ∃ c, lib.config env settings = .ok c ∧ conn.server = c.server := by
  unfold ofSettings at connected
  split at connected
  · next c configured => exact ⟨c, configured, server_of_connect connected⟩
  · cases connected

/-- The context that is named leads to the cluster, whose address is shown. -/
theorem exists_of_ofSettings (named : settings.context = some name)
    (connected : lib.ofSettings env settings = .ok conn) :
    ∃ k entry cluster address, lib.inUse? env settings = some k ∧
      Named.First name k.contexts entry ∧ Named.First entry.cluster k.clusters cluster ∧
      cluster.server = some address ∧ Target.WrittenAs address.toList conn.apiServer.toList := by
  obtain ⟨c, configured, server⟩ := config_of_ofSettings connected
  rcases lib.config_of_context env named with ⟨k, used, steps⟩ | ⟨-, failed | failed⟩
  · rw [steps] at configured
    split at configured
    · next c' found =>
        cases configured
        obtain ⟨cluster, address, choice, served, read⟩ := config?_cases found
        obtain ⟨name, entry, same, first, known, -⟩ := choice?_eq_some_iff.1 choice
        cases same
        refine ⟨k, entry, cluster, address, used, first, known, served, ?_⟩
        rw [Connection.apiServer, server]
        exact Target.writtenAs_of_read read
    · cases configured
  · cases failed.symm.trans configured
  · cases failed.symm.trans configured

theorem ofSettings_of_unknown (found : ofFile? env.files (Text.encode path) = some k)
    (unknown : k.Unknown context) :
    lib.ofSettings env ⟨some path, context⟩ = .error .unusable := by
  rw [ofSettings_of_file found, config?_eq_none lib.certificates? env unknown]

theorem ofSettings_of_no_context (named : settings.context = some name)
    (missing : ∀ k, lib.inUse? env settings = some k →
      ∀ entry, ¬ Named.First name k.contexts entry) :
    lib.ofSettings env settings = .error .unreadable ∨
      lib.ofSettings env settings = .error .unusable := by
  have unconfigured :
      lib.config env settings = .error .unreadable ∨ lib.config env settings = .error .unusable := by
    rcases lib.config_of_context env named with ⟨k, used, steps⟩ | ⟨-, failed⟩
    · rw [config?_eq_none lib.certificates? env (.context rfl (missing k used))] at steps
      exact .inr steps
    · exact failed
  rcases unconfigured with failed | failed
  · exact .inl (by rw [ofSettings, failed])
  · exact .inr (by rw [ofSettings, failed])

/-- What comes of some settings, as it is reported. -/
def outcome (lib : ClientLibrary) (env : Environment) (settings : ClusterSettings) :
    Except ClusterError Connection :=
  (lib.ofSettings env settings).mapError ConnectError.toClusterError

theorem outcome_eq_error_iff {e : ConnectError} :
    lib.outcome env settings = .error e.toClusterError ↔ lib.ofSettings env settings = .error e := by
  have injective (e e' : ConnectError) (same : e.toClusterError = e'.toClusterError) : e = e' := by
    cases e <;> cases e' <;> first | rfl | exact absurd same (by decide)
  unfold outcome
  cases lib.ofSettings env settings with
  | ok conn => exact ⟨nofun, nofun⟩
  | error e' =>
      constructor
      · intro same
        exact congrArg Except.error (injective _ _ (Except.error.inj same))
      · rintro ⟨⟩
        rfl

theorem outcome_eq_ok_iff :
    lib.outcome env settings = .ok conn ↔ lib.ofSettings env settings = .ok conn := by
  unfold outcome
  cases lib.ofSettings env settings with
  | ok conn' =>
      constructor
      · rintro ⟨⟩
        rfl
      · rintro ⟨⟩
        rfl
  | error e => exact ⟨nofun, nofun⟩

/-- The cluster that is talked to is the one that the settings name, or there is none. -/
theorem cluster_as_named (contained : lib.Contained) (env : Environment) :
    (∀ path context env', lib.Alike path context env env' →
      lib.outcome env ⟨some path, context⟩ = lib.outcome env' ⟨some path, context⟩) ∧
    (∀ path context,
      (lib.outcome env ⟨some path, context⟩ = .error (.kubeconfig "Failed to read kubeconfig") ↔
        Unreadable env.files (Text.encode path)) ∧
      ∀ k, ofFile? env.files (Text.encode path) = some k → k.Unknown context →
        lib.outcome env ⟨some path, context⟩ = .error (.kubeconfig "Failed to create config")) ∧
    ∀ settings name, settings.context = some name →
      (∀ conn, lib.outcome env settings = .ok conn →
        ∃ k entry cluster address, lib.inUse? env settings = some k ∧
          Named.First name k.contexts entry ∧ Named.First entry.cluster k.clusters cluster ∧
          cluster.server = some address ∧
          Target.WrittenAs address.toList conn.apiServer.toList) ∧
      ((∀ k, lib.inUse? env settings = some k → ∀ entry, ¬ Named.First name k.contexts entry) →
        lib.outcome env settings = .error (.kubeconfig "Failed to read kubeconfig") ∨
          lib.outcome env settings = .error (.kubeconfig "Failed to create config")) := by
  refine ⟨fun path context env' alike => ?_, fun path context => ⟨?_, fun k found unknown => ?_⟩,
    fun settings name named => ⟨fun conn connected => ?_, fun missing => ?_⟩⟩
  · rw [outcome, outcome, ofSettings_congr contained alike]
  · exact (outcome_eq_error_iff (e := .unreadable)).trans ofSettings_eq_unreadable_iff
  · exact outcome_eq_error_iff.2 (ofSettings_of_unknown found unknown)
  · exact exists_of_ofSettings named (outcome_eq_ok_iff.1 connected)
  · exact (ofSettings_of_no_context named missing).imp outcome_eq_error_iff.2
      outcome_eq_error_iff.2

theorem hasCredentials_congr {user : UserEntry} (agree : env.AgreeOn user.files env') :
    hasCredentials env.files user = hasCredentials env'.files user := by
  unfold hasCredentials
  cases user.provider with
  | some provider => rfl
  | none =>
      cases named : user.tokenFile with
      | none => rfl
      | some file =>
          have same := agree.files file (by simp [UserEntry.files, named])
          simp only [readText_congr same]

theorem hasIdentity_congr {user : UserEntry} (agree : env.AgreeOn user.files env') :
    hasIdentity env.files user = hasIdentity env'.files user := by
  have certificate : user.certificateFile.toList ⊆ user.files := fun file member =>
    List.mem_append_left _ (List.mem_append_right _ member)
  unfold hasIdentity
  rw [material?_congr (agree.mono certificate),
    material?_congr (agree.mono (List.subset_append_right _ _))]

theorem workstation_contained : workstation.Contained where
  makes_congr agree _ _ := by
    simp only [workstation, hasCredentials_congr agree, hasIdentity_congr agree]

/-- The context that is named is not the one in use, and there is a usual kubeconfig beside. -/
theorem cluster_as_named_aside :
    let document := "\x7b\"current-context\":\"a\",\"contexts\":[" ++
      "\x7b\"name\":\"a\",\"context\":\x7b\"cluster\":\"a\"\x7d\x7d," ++
      "\x7b\"name\":\"b\",\"context\":\x7b\"cluster\":\"b\"\x7d\x7d],\"clusters\":[" ++
      "\x7b\"name\":\"a\",\"cluster\":\x7b\"server\":\"h\"\x7d\x7d," ++
      "\x7b\"name\":\"b\",\"cluster\":\x7b\"server\":\"http://h\"\x7d\x7d]\x7d"
    let files : Files := Files.add {} (Text.encode "kc") (.file (Text.encode document))
    let env : Environment := ⟨[("KUBECONFIG", Text.encode "usual")], files⟩
    let settings : ClusterSettings := ⟨some "kc", some "b"⟩
    workstation.Contained ∧ workstation.Alike "kc" (some "b") env ⟨[], files⟩ ∧
      settings.context = some "b" ∧
      workstation.outcome env settings = workstation.outcome ⟨[], files⟩ settings ∧
      ∃ conn, workstation.outcome env settings = .ok conn ∧ conn.apiServer = "http://h/" ∧
        ∃ k entry cluster address, workstation.inUse? env settings = some k ∧
          Named.First "b" k.contexts entry ∧ Named.First entry.cluster k.clusters cluster ∧
          cluster.server = some address ∧
          Target.WrittenAs address.toList conn.apiServer.toList := by
  intro document files env settings
  have agree (paths : List String) : env.AgreeOn paths ⟨[], files⟩ := by
    refine ⟨fun name other _ => ?_, fun _ _ => rfl⟩
    have apart : (name == "KUBECONFIG") = false := beq_eq_false_iff_ne.2 other
    change List.lookup name [("KUBECONFIG", Text.encode "usual")] = none
    rw [List.lookup_cons, apart]
    rfl
  have alike : workstation.Alike "kc" (some "b") env ⟨[], files⟩ :=
    ⟨agree _, fun _ _ => agree _, rfl, fun _ _ _ _ => rfl⟩
  have connected : workstation.outcome env settings = .ok ⟨⟨some "http", "h", "/", none⟩⟩ := by
    decide +kernel +zetaReduce
  obtain ⟨alone, -, chosen⟩ := cluster_as_named workstation_contained env
  exact ⟨workstation_contained, alike, rfl, alone "kc" (some "b") _ alike, _, connected,
    by decide, (chosen settings "b" rfl).1 _ connected⟩

/-- A kubeconfig of one context, with the members of its cluster, and more in the context and in the
whole. -/
def oneContext (cluster context whole : String) : String :=
  "\x7b\"contexts\":[\x7b\"name\":\"c\",\"context\":\x7b\"cluster\":\"k\"" ++ context ++
    "\x7d\x7d],\"clusters\":[\x7b\"name\":\"k\",\"cluster\":\x7b" ++ cluster ++ "\x7d\x7d]" ++
    whole ++ "\x7d"

/-- The files that a kubeconfig names for an authority, a token or a client certificate make a
difference, and two addresses are not shown as they are written with a path. -/
theorem other_files_and_forms_count :
    let kubeconfig (document : String) (others : Files) : Files :=
      others.add (Text.encode "kc") (.file (Text.encode document))
    let shown (files : Files) : Except ConnectError String :=
      (Connection.ofSettings ⟨[], files⟩ ⟨some "kc", some "c"⟩).map Connection.apiServer
    let beside : Files := Files.add {} (Text.encode "f") (.file [])
    let authority := kubeconfig
      (oneContext "\"server\":\"http://h\",\"certificate-authority\":\"f\"" "" "")
    let ofUser (user : String) : Files → Files := kubeconfig
      (oneContext "\"server\":\"http://h\"" ",\"user\":\"u\""
        (",\"users\":[\x7b\"name\":\"u\",\"user\":\x7b" ++ user ++ "\x7d\x7d]"))
    let token := ofUser "\"tokenFile\":\"f\""
    let identity := ofUser "\"client-certificate\":\"f\",\"client-key\":\"f\""
    ((authority {}).read (Text.encode "kc") = (authority beside).read (Text.encode "kc") ∧
      shown (authority {}) = .error .unusable ∧ shown (authority beside) = .ok "http://h/") ∧
    ((token {}).read (Text.encode "kc") = (token beside).read (Text.encode "kc") ∧
      shown (token {}) = .error .unsupported ∧ shown (token beside) = .ok "http://h/") ∧
    ((identity {}).read (Text.encode "kc") = (identity beside).read (Text.encode "kc") ∧
      shown (identity {}) = .ok "http://h/" ∧ shown (identity beside) = .error .unsupported) ∧
    shown (kubeconfig (oneContext "\"server\":\"h\"" "" "") {}) = .ok "h" ∧
    shown (kubeconfig (oneContext "\"server\":\"HTTP://h#f\"" "" "") {}) = .ok "http://h/" := by
  intro kubeconfig shown beside authority ofUser token identity
  have same (document : String) : (kubeconfig document {}).read (Text.encode "kc") =
      (kubeconfig document beside).read (Text.encode "kc") := rfl
  refine ⟨⟨same _, ?_⟩, ⟨same _, ?_⟩, ⟨same _, ?_⟩, ?_⟩
  · decide +kernel +zetaReduce
  · decide +kernel +zetaReduce
  · decide +kernel +zetaReduce
  · decide +kernel +zetaReduce

end ClientLibrary

end PullSecrets
