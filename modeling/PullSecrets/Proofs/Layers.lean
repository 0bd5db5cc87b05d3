import Mathlib.Logic.Basic
import PullSecrets.Settings.Load

/-! # Layers of settings

Every setting is looked for in its own variable, then in its own place of one file, and has a
default when it is found in neither. `Setting` names the ten settings, and `settings_layered` says
of each what it is, whatever the other nine are.
-/

namespace PullSecrets

/-- A table of the file. -/
inductive SettingGroup where
  | server
  | access
  | cluster
  | log
  deriving DecidableEq, Repr

namespace SettingGroup

def name : SettingGroup → String
  | .server => "server"
  | .access => "auth"
  | .cluster => "kubernetes"
  | .log => "logging"

/-- The keys of a table; their order counts when it is written as an array. -/
def keys : SettingGroup → List String
  | .server => ["host", "port"]
  | .access => ["disable_auth", "userid_header", "userid_prefix"]
  | .cluster => ["kubeconfig", "context"]
  | .log => ["level", "json", "log_dir"]

/-- What a document says under the keys of a table, if it has the form of a table at all. -/
def fields? (g : SettingGroup) (es : Toml.Entries) : Option Toml.Fields :=
  match Toml.entry? g.name es with
  | some v => v.record? g.keys
  | none => some fun _ => none

end SettingGroup

/-- What can be set. -/
inductive Setting where
  | host
  | port
  | disabled
  | userHeader
  | userPrefix
  | kubeconfig
  | context
  | level
  | json
  | directory
  deriving DecidableEq, Repr

namespace Setting

/-- The type of the values of a setting; some may be left without one. -/
abbrev Value : Setting → Type
  | .host | .userHeader | .userPrefix | .level => String
  | .port => UInt16
  | .disabled | .json => Bool
  | .kubeconfig | .context | .directory => Option String

def of : (k : Setting) → Settings → k.Value
  | .host, s => s.server.host
  | .port, s => s.server.port
  | .disabled, s => s.access.disabled
  | .userHeader, s => s.access.userHeader
  | .userPrefix, s => s.access.userPrefix
  | .kubeconfig, s => s.cluster.kubeconfig
  | .context, s => s.cluster.context
  | .level, s => s.log.level
  | .json, s => s.log.json
  | .directory, s => s.log.directory

def default : (k : Setting) → k.Value
  | .host => "0.0.0.0"
  | .port => (8082 : UInt16)
  | .disabled | .json => false
  | .userHeader => "kubeflow-userid"
  | .userPrefix => ":"
  | .level => "info"
  | .kubeconfig | .context | .directory => none

def variableName : Setting → String
  | .host => "KUBEDASH_HOST"
  | .port => "KUBEDASH_PORT"
  | .disabled => "APP_DISABLE_AUTH"
  | .userHeader => "USERID_HEADER"
  | .userPrefix => "USERID_PREFIX"
  | .kubeconfig => "KUBECONFIG_PATH"
  | .context => "KUBE_CONTEXT"
  | .level => "KUBEDASH_LOG_LEVEL"
  | .json => "KUBEDASH_LOG_JSON"
  | .directory => "KUBEDASH_LOG_DIR"

/-- What the text of the variable says; only for a port there are texts that say nothing. -/
def ofVariable : (k : Setting) → String → Option k.Value
  | .host, text | .userHeader, text | .userPrefix, text | .level, text => some text
  | .port, text => Settings.port? text
  | .disabled, text | .json, text => some (Settings.truth text)
  | .kubeconfig, text | .context, text | .directory, text => some (some text)

def group : Setting → SettingGroup
  | .host | .port => .server
  | .disabled | .userHeader | .userPrefix => .access
  | .kubeconfig | .context => .cluster
  | .level | .json | .directory => .log

def key : Setting → String
  | .host => "host"
  | .port => "port"
  | .disabled => "disable_auth"
  | .userHeader => "userid_header"
  | .userPrefix => "userid_prefix"
  | .kubeconfig => "kubeconfig"
  | .context => "context"
  | .level => "level"
  | .json => "json"
  | .directory => "log_dir"

/-- What a value in the file says, if it is of the right kind. -/
def ofToml : (k : Setting) → Toml → Option k.Value
  | .host, v | .userHeader, v | .userPrefix, v | .level, v => v.text?
  | .port, v => v.uint16?
  | .disabled, v | .json, v => v.bool?
  | .kubeconfig, v | .context, v | .directory, v => v.text?.map some

/-- What stands in a document for a setting. -/
def written? (k : Setting) (es : Toml.Entries) : Option Toml :=
  (k.group.fields? es).bind fun fields => fields k.key

/-- The value of a setting, given the text of its variable and a document. -/
def resolve (k : Setting) (text : Option String) (es : Toml.Entries) : k.Value :=
  ((text.bind k.ofVariable).or ((k.written? es).bind k.ofToml)).getD k.default

/-- There are settings with any values. -/
theorem exists_settings (value : (k : Setting) → k.Value) :
    ∃ s, ∀ k : Setting, k.of s = value k := by
  refine ⟨⟨⟨value .host, value .port⟩, ⟨value .disabled, value .userHeader, value .userPrefix⟩,
    ⟨value .kubeconfig, value .context⟩, ⟨value .level, value .json, value .directory⟩⟩, ?_⟩
  intro k
  cases k <;> rfl

/-- There is nothing to settings but the ten values. -/
theorem ext_of {s s' : Settings} (same : ∀ k : Setting, k.of s = k.of s') : s = s' := by
  obtain ⟨⟨host, port⟩, ⟨disabled, userHeader, userPrefix⟩, ⟨kubeconfig, context⟩,
    ⟨level, json, directory⟩⟩ := s
  cases same .host
  cases same .port
  cases same .disabled
  cases same .userHeader
  cases same .userPrefix
  cases same .kubeconfig
  cases same .context
  cases same .level
  cases same .json
  cases same .directory
  rfl

/-- A variable says what its setting is, or leaves it as it was. -/
theorem of_overridden (k : Setting) (s : Settings) (value? : String → Option String) :
    k.of (s.overridden value?) = ((value? k.variableName).bind k.ofVariable).getD (k.of s) := by
  cases k with
  | host | port | disabled | userHeader | userPrefix | kubeconfig | context | level | json
  | directory =>
      simp only [of, Settings.overridden, variableName]
      cases value? _ <;> rfl

end Setting

section Documents

variable {α : Type} {decode : Toml → Option α} {fields : Toml.Fields} {name : String}

theorem Toml.fieldOr_eq_some_iff {other a : α} : fieldOr decode fields name other = some a ↔
    (∀ v, fields name = some v → (decode v).isSome = true) ∧
      a = ((fields name).bind decode).getD other := by
  unfold fieldOr
  cases fields name with
  | none =>
      constructor
      · intro same
        cases same
        exact ⟨nofun, rfl⟩
      · rintro ⟨-, rfl⟩
        rfl
  | some v =>
      simp only [Option.some.injEq, forall_eq', Option.bind_some]
      cases decode v with
      | none => simp
      | some b => simp [eq_comm]

theorem Toml.field?_eq_fieldOr :
    field? decode fields name = fieldOr (fun v => (decode v).map some) fields name none := rfl

/-- The fields of a table give a setting its value: what is written is of the right kind, and what
is not is as it is by default. -/
def Setting.Given (k : Setting) (fields : Toml.Fields) (value : k.Value) : Prop :=
  (∀ v, fields k.key = some v → (k.ofToml v).isSome = true) ∧
    value = ((fields k.key).bind k.ofToml).getD k.default

theorem Setting.given_nothing (k : Setting) {value : k.Value} :
    k.Given (fun _ => none) value ↔ value = k.default := by
  simp [Given]

namespace Settings

theorem serverOf?_eq_some_iff {v : Toml} {s : ServerSettings} : serverOf? v = some s ↔
    ∃ fields, v.record? SettingGroup.server.keys = some fields ∧
      Setting.host.Given fields s.host ∧ Setting.port.Given fields s.port := by
  simp only [serverOf?, Option.bind_eq_bind, Option.bind_eq_some_iff, Toml.fieldOr_eq_some_iff]
  constructor
  · rintro ⟨fields, table, host, givenHost, port, givenPort, same⟩
    cases same
    exact ⟨fields, table, givenHost, givenPort⟩
  · rintro ⟨fields, table, givenHost, givenPort⟩
    exact ⟨fields, table, s.host, givenHost, s.port, givenPort, rfl⟩

theorem accessOf?_eq_some_iff {v : Toml} {s : AccessSettings} : accessOf? v = some s ↔
    ∃ fields, v.record? SettingGroup.access.keys = some fields ∧
      Setting.disabled.Given fields s.disabled ∧ Setting.userHeader.Given fields s.userHeader ∧
      Setting.userPrefix.Given fields s.userPrefix := by
  simp only [accessOf?, Option.bind_eq_bind, Option.bind_eq_some_iff, Toml.fieldOr_eq_some_iff]
  constructor
  · rintro ⟨fields, table, disabled, first, header, second, lead, third, same⟩
    cases same
    exact ⟨fields, table, first, second, third⟩
  · rintro ⟨fields, table, first, second, third⟩
    exact ⟨fields, table, s.disabled, first, s.userHeader, second, s.userPrefix, third, rfl⟩

theorem clusterOf?_eq_some_iff {v : Toml} {s : ClusterSettings} : clusterOf? v = some s ↔
    ∃ fields, v.record? SettingGroup.cluster.keys = some fields ∧
      Setting.kubeconfig.Given fields s.kubeconfig ∧ Setting.context.Given fields s.context := by
  simp only [clusterOf?, Option.bind_eq_bind, Option.bind_eq_some_iff, Toml.field?_eq_fieldOr,
    Toml.fieldOr_eq_some_iff]
  constructor
  · rintro ⟨fields, table, kubeconfig, first, context, second, same⟩
    cases same
    exact ⟨fields, table, first, second⟩
  · rintro ⟨fields, table, first, second⟩
    exact ⟨fields, table, s.kubeconfig, first, s.context, second, rfl⟩

theorem logOf?_eq_some_iff {v : Toml} {s : LogSettings} : logOf? v = some s ↔
    ∃ fields, v.record? SettingGroup.log.keys = some fields ∧
      Setting.level.Given fields s.level ∧ Setting.json.Given fields s.json ∧
      Setting.directory.Given fields s.directory := by
  simp only [logOf?, Option.bind_eq_bind, Option.bind_eq_some_iff, Toml.field?_eq_fieldOr,
    Toml.fieldOr_eq_some_iff]
  constructor
  · rintro ⟨fields, table, level, first, json, second, directory, third, same⟩
    cases same
    exact ⟨fields, table, first, second, third⟩
  · rintro ⟨fields, table, first, second, third⟩
    exact ⟨fields, table, s.level, first, s.json, second, s.directory, third, rfl⟩

end Settings

/-- A table that is missing is like one without keys. -/
theorem SettingGroup.fieldOr_eq_some_iff (g : SettingGroup) {P : Toml.Fields → α → Prop} {base : α}
    (decodes : ∀ v a, decode v = some a ↔ ∃ fields, v.record? g.keys = some fields ∧ P fields a)
    (empty : ∀ a, P (fun _ => none) a ↔ a = base) {es : Toml.Entries} {a : α} :
    Toml.fieldOr decode (fun key => Toml.entry? key es) g.name base = some a ↔
      ∃ fields, g.fields? es = some fields ∧ P fields a := by
  unfold Toml.fieldOr fields?
  cases found : Toml.entry? g.name es with
  | some v =>
      simp only [found]
      exact decodes v a
  | none =>
      simp only [found, Option.some.injEq, exists_eq_left', empty]
      exact eq_comm

end Documents

/-- The table of the setting is one, and what stands in it for the setting is of the right kind. -/
def Setting.Legible (k : Setting) (es : Toml.Entries) : Prop :=
  (k.group.fields? es).isSome = true ∧ ∀ v, k.written? es = some v → (k.ofToml v).isSome = true

theorem Setting.given_iff {k : Setting} {es : Toml.Entries} {value : k.Value} :
    (∃ fields, k.group.fields? es = some fields ∧ k.Given fields value) ↔
      k.Legible es ∧ value = k.resolve none es := by
  unfold Given Legible resolve written?
  cases k.group.fields? es with
  | none => simp
  | some fields => simp

namespace Settings

/-- The document has the form of settings. -/
def Legible (es : Toml.Entries) : Prop := ∀ k : Setting, k.Legible es

section Tables

variable {es : Toml.Entries}

theorem serverIn_eq_some_iff {s : ServerSettings} :
    Toml.fieldOr serverOf? (fun key => Toml.entry? key es) "server" {} = some s ↔
      ∃ fields, SettingGroup.server.fields? es = some fields ∧
        Setting.host.Given fields s.host ∧ Setting.port.Given fields s.port := by
  apply SettingGroup.server.fieldOr_eq_some_iff fun v s => serverOf?_eq_some_iff
  intro s
  cases s
  simp [Setting.given_nothing, Setting.default]

theorem accessIn_eq_some_iff {s : AccessSettings} :
    Toml.fieldOr accessOf? (fun key => Toml.entry? key es) "auth" {} = some s ↔
      ∃ fields, SettingGroup.access.fields? es = some fields ∧
        Setting.disabled.Given fields s.disabled ∧ Setting.userHeader.Given fields s.userHeader ∧
        Setting.userPrefix.Given fields s.userPrefix := by
  apply SettingGroup.access.fieldOr_eq_some_iff fun v s => accessOf?_eq_some_iff
  intro s
  cases s
  simp [Setting.given_nothing, Setting.default]

theorem clusterIn_eq_some_iff {s : ClusterSettings} :
    Toml.fieldOr clusterOf? (fun key => Toml.entry? key es) "kubernetes" {} = some s ↔
      ∃ fields, SettingGroup.cluster.fields? es = some fields ∧
        Setting.kubeconfig.Given fields s.kubeconfig ∧
        Setting.context.Given fields s.context := by
  apply SettingGroup.cluster.fieldOr_eq_some_iff fun v s => clusterOf?_eq_some_iff
  intro s
  cases s
  simp [Setting.given_nothing, Setting.default]

theorem logIn_eq_some_iff {s : LogSettings} :
    Toml.fieldOr logOf? (fun key => Toml.entry? key es) "logging" {} = some s ↔
      ∃ fields, SettingGroup.log.fields? es = some fields ∧
        Setting.level.Given fields s.level ∧ Setting.json.Given fields s.json ∧
        Setting.directory.Given fields s.directory := by
  apply SettingGroup.log.fieldOr_eq_some_iff fun v s => logOf?_eq_some_iff
  intro s
  cases s
  simp [Setting.given_nothing, Setting.default]

theorem ofEntries?_iff_given {s : Settings} : ofEntries? es = some s ↔
    ∀ k : Setting, ∃ fields, k.group.fields? es = some fields ∧ k.Given fields (k.of s) := by
  simp only [ofEntries?, Option.bind_eq_bind, Option.bind_eq_some_iff, serverIn_eq_some_iff,
    accessIn_eq_some_iff, clusterIn_eq_some_iff, logIn_eq_some_iff]
  constructor
  · rintro ⟨server, ⟨f, hf, host, port⟩, access, ⟨g, hg, disabled, userHeader, userPrefix⟩,
      cluster, ⟨h, hh, kubeconfig, context⟩, log, ⟨i, hi, level, json, directory⟩, same⟩
    cases same
    intro k
    cases k with
    | host => exact ⟨f, hf, host⟩
    | port => exact ⟨f, hf, port⟩
    | disabled => exact ⟨g, hg, disabled⟩
    | userHeader => exact ⟨g, hg, userHeader⟩
    | userPrefix => exact ⟨g, hg, userPrefix⟩
    | kubeconfig => exact ⟨h, hh, kubeconfig⟩
    | context => exact ⟨h, hh, context⟩
    | level => exact ⟨i, hi, level⟩
    | json => exact ⟨i, hi, json⟩
    | directory => exact ⟨i, hi, directory⟩
  · intro given
    -- settings of one table are given by the same fields
    have shared (k : Setting) (g : SettingGroup) (fields : Toml.Fields) (here : k.group = g)
        (table : g.fields? es = some fields) : k.Given fields (k.of s) := by
      obtain ⟨other, found, given⟩ := given k
      rw [here, table] at found
      cases found
      exact given
    obtain ⟨f, hf, -⟩ := given .host
    obtain ⟨g, hg, -⟩ := given .disabled
    obtain ⟨h, hh, -⟩ := given .context
    obtain ⟨i, hi, -⟩ := given .level
    refine ⟨s.server, ⟨f, hf, ?_, ?_⟩, s.access, ⟨g, hg, ?_, ?_, ?_⟩, s.cluster, ⟨h, hh, ?_, ?_⟩,
      s.log, ⟨i, hi, ?_, ?_, ?_⟩, rfl⟩
    · exact shared .host _ f rfl hf
    · exact shared .port _ f rfl hf
    · exact shared .disabled _ g rfl hg
    · exact shared .userHeader _ g rfl hg
    · exact shared .userPrefix _ g rfl hg
    · exact shared .kubeconfig _ h rfl hh
    · exact shared .context _ h rfl hh
    · exact shared .level _ i rfl hi
    · exact shared .json _ i rfl hi
    · exact shared .directory _ i rfl hi

/-- A document that has the form of settings gives each setting its value, independently. -/
theorem ofEntries?_eq_some_iff {s : Settings} : ofEntries? es = some s ↔
    Legible es ∧ ∀ k : Setting, k.of s = k.resolve none es := by
  simp only [ofEntries?_iff_given, Setting.given_iff, Legible, forall_and]

theorem exists_of_legible (legible : Legible es) : ∃ s, ofEntries? es = some s := by
  obtain ⟨s, values⟩ := Setting.exists_settings fun k => k.resolve none es
  exact ⟨s, ofEntries?_eq_some_iff.2 ⟨legible, values⟩⟩

end Tables

end Settings

namespace Settings

/-- The text is the number of a port in decimal digits, perhaps after a plus sign. -/
def IsPort (text : String) (port : UInt16) : Prop :=
  ∃ digits : List Char, (text.toList = digits ∨ text.toList = '+' :: digits) ∧ digits ≠ [] ∧
    (∀ c ∈ digits, c.isDigit = true) ∧ Nat.ofDigitChars 10 digits 0 = port.toNat

/-- To stop counting at a bound is to cut at the bound in the end. -/
theorem foldl_clamped (digits : List Char) (n : Nat) :
    digits.foldl (fun n c => min (n * 10 + (c.toNat - 48)) 65536) (min n 65536) =
      min (Nat.ofDigitChars 10 digits n) 65536 := by
  induction digits generalizing n with
  | nil => rfl
  | cons c digits ih =>
      have step : min (min n 65536 * 10 + (c.toNat - 48)) 65536 =
          min (10 * n + (c.toNat - '0'.toNat)) 65536 := by
        have zero : '0'.toNat = 48 := rfl
        omega
      rw [List.foldl_cons, step, ih, Nat.ofDigitChars_cons]

theorem portOf_eq_some_iff {digits : List Char} {port : UInt16} :
    (if digits.isEmpty || !digits.all Char.isDigit then none
      else
        let n := digits.foldl (fun n c => min (n * 10 + (c.toNat - 48)) 65536) 0
        if n < 65536 then some (UInt16.ofNat n) else none) = some port ↔
      digits ≠ [] ∧ (∀ c ∈ digits, c.isDigit = true) ∧
        Nat.ofDigitChars 10 digits 0 = port.toNat := by
  have bound : port.toNat < 65536 := port.toNat_lt
  have count : digits.foldl (fun n c => min (n * 10 + (c.toNat - 48)) 65536) 0 =
      min (Nat.ofDigitChars 10 digits 0) 65536 := foldl_clamped digits 0
  rw [count]
  generalize Nat.ofDigitChars 10 digits 0 = n
  have number : (if min n 65536 < 65536 then some (UInt16.ofNat (min n 65536)) else none) =
      some port ↔ n = port.toNat := by
    by_cases small : n < 65536
    · have kept : min n 65536 = n := by omega
      rw [kept, if_pos small, Option.some.injEq, ← UInt16.toNat_inj,
        UInt16.toNat_ofNat_of_lt' small]
    · rw [if_neg (by omega)]
      exact iff_of_false nofun (by omega)
  by_cases written : digits ≠ [] ∧ ∀ c ∈ digits, c.isDigit = true
  · have filled : ¬ (digits.isEmpty || !digits.all Char.isDigit) = true := by
      simpa using written
    rw [if_neg filled, number, ← and_assoc, and_iff_right written]
  · have unfilled : (digits.isEmpty || !digits.all Char.isDigit) = true := by
      simpa [or_iff_not_imp_left] using written
    rw [if_pos unfilled]
    exact iff_of_false nofun fun all => written ⟨all.1, all.2.1⟩

theorem port?_eq_some_iff {text : String} {port : UInt16} :
    port? text = some port ↔ IsPort text port := by
  unfold port? IsPort
  split
  · next rest sign =>
      rw [portOf_eq_some_iff]
      constructor
      · intro number
        exact ⟨rest, .inr sign, number⟩
      · rintro ⟨digits, same | same, number⟩
        · have plus := number.2.1 '+' (by rw [← same, sign]; exact .head _)
          exact absurd plus (by decide)
        · cases same.symm.trans sign
          exact number
  · next other =>
      rw [portOf_eq_some_iff]
      constructor
      · intro number
        exact ⟨text.toList, .inl rfl, number⟩
      · rintro ⟨digits, same | same, number⟩
        · rwa [same]
        · exact (other digits same).elim

variable {env : Environment} {path : String} {s : Settings}

/-- The path is the first of those where settings are looked for that exists. -/
def Chosen (env : Environment) (path : String) : Prop :=
  ∃ before after, (env.text? "KUBEDASH_CONFIG").toList ++
      ["/etc/kubedash/config.toml", "./kubedash.toml"] = before ++ path :: after ∧
    (∀ other ∈ before, env.files.contains (Text.encode other) = false) ∧
    env.files.contains (Text.encode path) = true

theorem file?_eq_some_iff : file? env = some path ↔ Chosen env path := by
  unfold file? Chosen candidates
  rw [List.find?_eq_some_iff_append]
  simp only [Bool.not_eq_true']
  constructor
  · rintro ⟨found, before, after, split, others⟩
    exact ⟨before, after, split, others, found⟩
  · rintro ⟨before, after, split, others, found⟩
    exact ⟨found, before, after, split, others⟩

/-- The document underneath the variables: that of the chosen file, or an empty one when there is
no file. -/
inductive Underlies (env : Environment) : Toml.Entries → Prop where
  | nothing (missing : ∀ path, ¬ Chosen env path) : Underlies env []
  | file {path document : String} {es : Toml.Entries} (chosen : Chosen env path)
      (text : env.files.readText (Text.encode path) = .ok document)
      (parsed : Toml.read? document = some es) (legible : Legible es) : Underlies env es

/-- Why the chosen file gives no settings. -/
inductive Fails (env : Environment) : SettingsError → Prop where
  | unreadable {path : String} {fault : FileFault} (chosen : Chosen env path)
      (fails : env.files.readText (Text.encode path) = .error fault) :
      Fails env (.unreadable path fault)
  | malformed {path document : String} (chosen : Chosen env path)
      (text : env.files.readText (Text.encode path) = .ok document)
      (wrong : ∀ es, Toml.read? document = some es → ¬ Legible es) : Fails env .malformed

theorem ofToml_eq_ok_iff {document : String} : ofToml document = .ok s ↔
    ∃ es, Toml.read? document = some es ∧ Legible es ∧
      ∀ k : Setting, k.of s = k.resolve none es := by
  simp only [← ofEntries?_eq_some_iff]
  unfold ofToml
  cases Toml.read? document with
  | none => simp
  | some es => cases read : ofEntries? es <;> simp [read]

theorem ofFile_eq_ok_iff : ofFile env.files path = .ok s ↔
    ∃ document, env.files.readText (Text.encode path) = .ok document ∧ ofToml document = .ok s := by
  unfold ofFile
  cases env.files.readText (Text.encode path) <;> simp

/-- The value of a setting over a document whose settings are known. -/
theorem of_overridden_eq_resolve {base : Settings} {es : Toml.Entries}
    (document : ∀ k : Setting, k.of base = k.resolve none es) (k : Setting) :
    k.of (base.overridden env.text?) = k.resolve (env.text? k.variableName) es := by
  rw [Setting.of_overridden, document]
  simp only [Setting.resolve, Option.bind_none, Option.none_or, Option.getD_or]

theorem load_of_underlies {es : Toml.Entries} (underlies : Underlies env es) :
    ∃ s, load env = .ok s ∧ ∀ k : Setting, k.of s = k.resolve (env.text? k.variableName) es := by
  cases underlies with
  | nothing missing =>
      have none : file? env = none := by
        rw [Option.eq_none_iff_forall_ne_some]
        intro path found
        exact missing path (file?_eq_some_iff.1 found)
      obtain ⟨legible, values⟩ : Legible [] ∧ ∀ k : Setting, k.of {} = k.resolve Option.none [] :=
        ofEntries?_eq_some_iff.1 rfl
      refine ⟨_, ?_, of_overridden_eq_resolve values⟩
      simp only [load, none]
  | file chosen text parsed legible =>
      obtain ⟨base, entries⟩ := exists_of_legible legible
      have values := (ofEntries?_eq_some_iff.1 entries).2
      refine ⟨_, ?_, of_overridden_eq_resolve values⟩
      have read : ofFile env.files _ = .ok base :=
        ofFile_eq_ok_iff.2 ⟨_, text, ofToml_eq_ok_iff.2 ⟨_, parsed, legible, values⟩⟩
      simp only [load, file?_eq_some_iff.2 chosen, read, Except.map]

theorem load_of_fails {e : SettingsError} (fails : Fails env e) : load env = .error e := by
  cases fails with
  | unreadable chosen fault =>
      simp only [load, file?_eq_some_iff.2 chosen, ofFile, fault, Except.map]
  | @malformed path document chosen text wrong =>
      have rejected : ofToml document = .error .malformed := by
        unfold ofToml
        split
        · next base read =>
            obtain ⟨es, parsed, entries⟩ := Option.bind_eq_some_iff.1 read
            exact absurd (ofEntries?_eq_some_iff.1 entries).1 (wrong es parsed)
        · rfl
      simp only [load, file?_eq_some_iff.2 chosen, ofFile, text, rejected, Except.map]

/-- Either the settings come from a document, or they fail for a reason. -/
theorem underlies_or_fails (env : Environment) :
    (∃ es, Underlies env es) ∨ ∃ e, Fails env e := by
  by_cases missing : ∀ path, ¬ Chosen env path
  · exact .inl ⟨[], .nothing missing⟩
  · obtain ⟨path, chosen⟩ := not_forall_not.1 missing
    cases text : env.files.readText (Text.encode path) with
    | error fault => exact .inr ⟨_, .unreadable chosen text⟩
    | ok document =>
        by_cases wrong : ∀ es, Toml.read? document = some es → ¬ Legible es
        · exact .inr ⟨_, .malformed chosen text wrong⟩
        · simp only [not_forall, not_not] at wrong
          obtain ⟨es, parsed, legible⟩ := wrong
          exact .inl ⟨es, .file chosen text parsed legible⟩

theorem load_eq_ok_iff : load env = .ok s ↔ ∃ es, Underlies env es ∧
    ∀ k : Setting, k.of s = k.resolve (env.text? k.variableName) es := by
  constructor
  · intro loaded
    rcases underlies_or_fails env with ⟨es, underlies⟩ | ⟨e, fails⟩
    · obtain ⟨s', loaded', values⟩ := load_of_underlies underlies
      cases loaded.symm.trans loaded'
      exact ⟨es, underlies, values⟩
    · cases loaded.symm.trans (load_of_fails fails)
  · rintro ⟨es, underlies, values⟩
    obtain ⟨s', loaded, values'⟩ := load_of_underlies underlies
    rw [loaded, Setting.ext_of fun k => (values' k).trans (values k).symm]

theorem load_eq_error_iff {e : SettingsError} : load env = .error e ↔ Fails env e := by
  constructor
  · intro failed
    rcases underlies_or_fails env with ⟨es, underlies⟩ | ⟨e', fails⟩
    · obtain ⟨s, loaded, -⟩ := load_of_underlies underlies
      cases failed.symm.trans loaded
    · cases failed.symm.trans (load_of_fails fails)
      exact fails
  · exact load_of_fails

theorem Chosen.unique {other : String} (chosen : Chosen env path) (chosen' : Chosen env other) :
    path = other := by
  rw [← file?_eq_some_iff] at chosen chosen'
  exact Option.some.inj (chosen.symm.trans chosen')

theorem Underlies.unique {es es' : Toml.Entries} (underlies : Underlies env es)
    (underlies' : Underlies env es') : es = es' := by
  cases underlies with
  | nothing missing =>
      cases underlies' with
      | nothing => rfl
      | file chosen => exact absurd chosen (missing _)
  | file chosen text parsed legible =>
      cases underlies' with
      | nothing missing => exact absurd chosen (missing _)
      | file chosen' text' parsed' =>
          obtain rfl := chosen.unique chosen'
          cases text.symm.trans text'
          exact Option.some.inj (parsed.symm.trans parsed')

section Same

variable {env' : Environment} (files : env'.files = env.files)
  (config : env'.text? "KUBEDASH_CONFIG" = env.text? "KUBEDASH_CONFIG")

include files config

theorem Chosen.congr (chosen : Chosen env path) : Chosen env' path := by
  unfold Chosen
  rw [files, config]
  exact chosen

/-- What the file gives depends on no variable but the one that names it. -/
theorem Underlies.congr {es : Toml.Entries} (underlies : Underlies env es) :
    Underlies env' es := by
  cases underlies with
  | nothing missing =>
      exact .nothing fun path chosen => missing path (chosen.congr files.symm config.symm)
  | file chosen text parsed legible =>
      exact .file (chosen.congr files config) (files.symm ▸ text) parsed legible

theorem Fails.congr {e : SettingsError} (fails : Fails env e) : Fails env' e := by
  cases fails with
  | unreadable chosen fault => exact .unreadable (chosen.congr files config) (files.symm ▸ fault)
  | malformed chosen text wrong =>
      exact .malformed (chosen.congr files config) (files.symm ▸ text) wrong

theorem of_load_congr {s' : Settings} (loaded : load env = .ok s) (loaded' : load env' = .ok s')
    (k : Setting) (own : env'.text? k.variableName = env.text? k.variableName) :
    k.of s' = k.of s := by
  obtain ⟨es, underlies, values⟩ := load_eq_ok_iff.1 loaded
  obtain ⟨es', underlies', values'⟩ := load_eq_ok_iff.1 loaded'
  obtain rfl := underlies'.unique (underlies.congr files config)
  rw [values, values', own]

end Same

/-- Only one word is true, in whatever case. -/
theorem truth_iff {word : String} : truth word = true ↔ Text.lowerAscii word = "true" := by
  have lower : Text.lowerAscii "true" = "true" := by decide
  rw [truth, Text.eqIgnoringCase_iff, lower]

/-- Access control is switched off by the word `true`, in the variable or else in the file. -/
theorem disabled_iff {es : Toml.Entries} (text : Option String) :
    Setting.disabled.resolve text es = true ↔
      (∃ word, text = some word ∧ Text.lowerAscii word = "true") ∨
        text = none ∧ Setting.disabled.written? es = some (.boolean true) := by
  cases text with
  | some word =>
      have same : Setting.disabled.resolve (some word) es = truth word := rfl
      simp [same, truth_iff]
  | none =>
      have same : Setting.disabled.resolve none es =
          ((Setting.disabled.written? es).bind Toml.bool?).getD false := rfl
      rw [same]
      cases Setting.disabled.written? es with
      | none => simp
      | some v => cases v <;> simp [Toml.bool?]

theorem overridden_overridden (s : Settings) (value? : String → Option String) :
    (s.overridden value?).overridden value? = s.overridden value? := by
  apply Setting.ext_of
  intro k
  simp only [Setting.of_overridden]
  cases (value? k.variableName).bind k.ofVariable <;> rfl

theorem text?_eq_some_iff {name text : String} :
    env.text? name = some text ↔ env.bytes? name = some (Text.encode text) := by
  unfold Environment.text?
  rw [Option.bind_eq_some_iff]
  constructor
  · rintro ⟨bytes, found, read⟩
    rw [found, Text.encode_of_decode? read]
  · intro found
    exact ⟨_, found, Text.decode?_encode text⟩

end Settings

/-- Settings are loaded from the first file that exists and from variables: each of the ten is what
its own variable says, if that is set to a text that says anything, else what the file says, else
its default. A file that is there but gives no settings is an error, and no other file is tried.
What the other variables are changes nothing, and neither does going over the variables twice. -/
theorem settings_layered (env : Environment) :
    (∀ s, Settings.load env = .ok s ↔ ∃ es, Settings.Underlies env es ∧
        ∀ k : Setting, k.of s = k.resolve (env.text? k.variableName) es) ∧
      (∀ e, Settings.load env = .error e ↔ Settings.Fails env e) ∧
      (∀ name text, env.text? name = some text ↔ env.bytes? name = some (Text.encode text)) ∧
      (∀ text port, Setting.port.ofVariable text = some port ↔ Settings.IsPort text port) ∧
      (∀ text, Settings.truth text = true ↔ Text.lowerAscii text = "true") ∧
      (∀ s, Settings.load env = .ok s → (s.access.disabled = true ↔
        (∃ word, env.text? "APP_DISABLE_AUTH" = some word ∧ Text.lowerAscii word = "true") ∨
          env.text? "APP_DISABLE_AUTH" = none ∧ ∃ es, Settings.Underlies env es ∧
            Setting.disabled.written? es = some (.boolean true))) ∧
      (∀ env' : Environment, env'.files = env.files →
        env'.text? "KUBEDASH_CONFIG" = env.text? "KUBEDASH_CONFIG" →
        (∀ e, Settings.load env' = .error e ↔ Settings.load env = .error e) ∧
          ∀ s s', Settings.load env = .ok s → Settings.load env' = .ok s' →
            ∀ k : Setting, env'.text? k.variableName = env.text? k.variableName →
              k.of s' = k.of s) ∧
      ∀ (s : Settings) (value? : String → Option String),
        (s.overridden value?).overridden value? = s.overridden value? := by
  refine ⟨fun s => Settings.load_eq_ok_iff, fun e => Settings.load_eq_error_iff,
    fun name text => Settings.text?_eq_some_iff, fun text port => Settings.port?_eq_some_iff,
    fun text => Settings.truth_iff, ?_, ?_, Settings.overridden_overridden⟩
  · intro s loaded
    obtain ⟨es, underlies, values⟩ := Settings.load_eq_ok_iff.1 loaded
    have value : s.access.disabled = _ := values .disabled
    rw [value, Settings.disabled_iff]
    refine or_congr_right (and_congr_right fun _ => ?_)
    constructor
    · intro written
      exact ⟨es, underlies, written⟩
    · rintro ⟨es', underlies', written⟩
      rwa [underlies.unique underlies']
  · intro env' files config
    constructor
    · intro e
      rw [Settings.load_eq_error_iff, Settings.load_eq_error_iff]
      exact ⟨.congr files.symm config.symm, .congr files config⟩
    · intro s s' loaded loaded' k own
      exact Settings.of_load_congr files config loaded loaded' k own

/-- The variable of access control wins over the file, and one that is no port does not; the
variables of other settings are neither here nor there. -/
theorem settings_layered_partial :
    let files : Files := ({} : Files).add (Text.encode "/etc/kubedash/config.toml")
      (.file (Text.encode "[auth]\ndisable_auth = true\n[server]\nport = 8080\n"))
    let env : Environment :=
      ⟨[("APP_DISABLE_AUTH", Text.encode "yes"), ("KUBEDASH_PORT", Text.encode "http")], files⟩
    let other : Environment :=
      ⟨[("APP_DISABLE_AUTH", Text.encode "yes"), ("KUBEDASH_HOST", Text.encode "::")], files⟩
    ∃ s, Settings.load env = .ok s ∧ s.access.disabled = false ∧ s.server.port = 8080 ∧
      s.access.userHeader = "kubeflow-userid" ∧
      ∀ s', Settings.load other = .ok s' → s'.access.disabled = false := by
  intro files env other
  have found : (Settings.load env).toOption =
      some { server := { port := 8080 } } := by decide +kernel
  cases loaded : Settings.load env with
  | error e =>
      rw [loaded] at found
      cases found
  | ok s =>
      rw [loaded] at found
      cases found
      refine ⟨_, rfl, rfl, rfl, rfl, ?_⟩
      intro s' loaded'
      obtain ⟨-, -, -, -, -, -, independent, -⟩ := settings_layered env
      exact (independent other rfl (by decide +kernel)).2 _ s' loaded loaded' .disabled
        (by decide +kernel)

end PullSecrets
