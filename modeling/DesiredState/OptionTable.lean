import DesiredState.Setting

/-!
# The option table

**Types.** The options form a closed set. Each has a name, a kind, a default and
a description.

**Rule.** A default is nothing, a boolean, a text in which the module's name may
stand, or a copy of a fact. The order of the table is the order in which options
are resolved and reported.

**Results.** An option is found again under its name.
-/

namespace DesiredState

/-- The options, in the order of the table. -/
inductive OptionName where
  | absent
  | disable
  | disableAtBoot
  | version
  | package
  | service
  | process
  | serviceAutorestart
  | configFile
  | configDir
  | configFileMode
  | configFileOwner
  | configFileGroup
  | source
  | sourceDir
  | sourceDirPurge
  | template
  | content
  | options
  | auditOnly
  | myClass
  | monitor
  | monitorTool
  | monitorTarget
  | firewall
  | firewallTool
  | firewallSrc
  | firewallDst
  | protocol
  | port
  | puppi
  | puppiHelper
deriving DecidableEq, Repr, Inhabited

/-- A piece of a default text. -/
inductive DefaultPiece where
  | literal (text : String)
  | module
deriving DecidableEq, Repr

/-- The default of an option. -/
inductive OptionDefault where
  | unset
  | switch (value : Bool)
  | text (pieces : List DefaultPiece)
  | fact (name : String)
deriving DecidableEq, Repr

namespace OptionDefault

/-- The pieces joined, with a text standing for the module's name. -/
def join (module : String) (pieces : List DefaultPiece) : String :=
  String.join (pieces.map fun
    | .literal piece => piece
    | .module => module)

/-- The default as the table shows it. -/
def display : OptionDefault → String
  | .unset => "-"
  | .switch value => RawValue.booleanText value
  | .text pieces => join "\x7bmodule\x7d" pieces
  | .fact name => "fact:" ++ name

/-- The raw value that a default stands for. -/
def toRaw? (default : OptionDefault) (module : String)
    (facts : KeyMap RawValue) : Option RawValue :=
  match default with
  | .unset => none
  | .switch value => some (.boolean value)
  | .text pieces => some (.text (join module pieces))
  | .fact name => facts.get? name

end OptionDefault

/-- One row of the option table. -/
structure OptionSpec where
  name : String
  kind : OptionKind
  default : OptionDefault
  description : String
deriving DecidableEq, Repr

namespace OptionName

/-- The protocols a firewall rule can name. -/
def protocols : List String :=
  ["tcp", "udp"]

/-- The row of an option. -/
def spec : OptionName → OptionSpec
  | .absent =>
      { name := "absent"
        kind := .switch
        default := .switch false
        description := "Remove package, config and service" }
  | .disable =>
      { name := "disable"
        kind := .switch
        default := .switch false
        description := "Stop the service and disable it at boot" }
  | .disableAtBoot =>
      { name := "disableboot"
        kind := .switch
        default := .switch false
        description := "Disable the service at boot only" }
  | .version =>
      { name := "version"
        kind := .text
        default := .text [.literal "present"]
        description := "Package version to ensure" }
  | .package =>
      { name := "package"
        kind := .text
        default := .text [.module]
        description := "Package name" }
  | .service =>
      { name := "service"
        kind := .text
        default := .text [.module]
        description := "Service name" }
  | .process =>
      { name := "process"
        kind := .text
        default := .text [.module]
        description := "Process name to monitor" }
  | .serviceAutorestart =>
      { name := "service_autorestart"
        kind := .switch
        default := .switch true
        description := "Restart the service when its config changes" }
  | .configFile =>
      { name := "config_file"
        kind := .text
        default := .text [.literal "/etc/", .module, .literal "/", .module, .literal ".conf"]
        description := "Main configuration file path" }
  | .configDir =>
      { name := "config_dir"
        kind := .text
        default := .text [.literal "/etc/", .module]
        description := "Configuration directory path" }
  | .configFileMode =>
      { name := "config_file_mode"
        kind := .text
        default := .text [.literal "0644"]
        description := "Configuration file mode" }
  | .configFileOwner =>
      { name := "config_file_owner"
        kind := .text
        default := .text [.literal "root"]
        description := "Configuration file owner" }
  | .configFileGroup =>
      { name := "config_file_group"
        kind := .text
        default := .text [.literal "root"]
        description := "Configuration file group" }
  | .source =>
      { name := "source"
        kind := .text
        default := .unset
        description := "Source pointer for the configuration file" }
  | .sourceDir =>
      { name := "source_dir"
        kind := .text
        default := .unset
        description := "Source pointer for the configuration directory" }
  | .sourceDirPurge =>
      { name := "source_dir_purge"
        kind := .switch
        default := .switch false
        description := "Purge unmanaged files from the configuration directory" }
  | .template =>
      { name := "template"
        kind := .text
        default := .unset
        description := "Template rendered into the configuration file" }
  | .content =>
      { name := "content"
        kind := .text
        default := .unset
        description := "Inline configuration file content" }
  | .options =>
      { name := "options"
        kind := .mapping
        default := .unset
        description := "Extra key/value pairs passed to the template renderer" }
  | .auditOnly =>
      { name := "audit_only"
        kind := .switch
        default := .switch false
        description := "Audit configuration files without replacing them" }
  | .myClass =>
      { name := "my_class"
        kind := .text
        default := .unset
        description := "Additional class to include" }
  | .monitor =>
      { name := "monitor"
        kind := .switch
        default := .switch false
        description := "Monitor the service process" }
  | .monitorTool =>
      { name := "monitor_tool"
        kind := .text
        default := .text [.literal "process"]
        description := "Monitoring tool" }
  | .monitorTarget =>
      { name := "monitor_target"
        kind := .text
        default := .fact "ipaddress"
        description := "Monitoring target address" }
  | .firewall =>
      { name := "firewall"
        kind := .switch
        default := .switch false
        description := "Open a firewall rule for the service" }
  | .firewallTool =>
      { name := "firewall_tool"
        kind := .text
        default := .text [.literal "iptables"]
        description := "Firewall tool" }
  | .firewallSrc =>
      { name := "firewall_src"
        kind := .text
        default := .text [.literal "0.0.0.0/0"]
        description := "Firewall rule source" }
  | .firewallDst =>
      { name := "firewall_dst"
        kind := .text
        default := .fact "ipaddress"
        description := "Firewall rule destination" }
  | .protocol =>
      { name := "protocol"
        kind := .choice protocols
        default := .text [.literal "tcp"]
        description := "Service protocol" }
  | .port =>
      { name := "port"
        kind := .text
        default := .text [.literal "80"]
        description := "Service port" }
  | .puppi =>
      { name := "puppi"
        kind := .switch
        default := .switch false
        description := "Emit a helper integration descriptor" }
  | .puppiHelper =>
      { name := "puppi_helper"
        kind := .text
        default := .unset
        description := "Helper used by the integration descriptor" }

/-- The options, in the order of the table. -/
def all : List OptionName :=
  [.absent, .disable, .disableAtBoot, .version, .package, .service, .process,
    .serviceAutorestart, .configFile, .configDir, .configFileMode, .configFileOwner,
    .configFileGroup, .source, .sourceDir, .sourceDirPurge, .template, .content, .options,
    .auditOnly, .myClass, .monitor, .monitorTool, .monitorTarget, .firewall, .firewallTool,
    .firewallSrc, .firewallDst, .protocol, .port, .puppi, .puppiHelper]

/-- The name under which an option is supplied. -/
def name (option : OptionName) : String :=
  option.spec.name

/-- What an option holds. -/
def kind (option : OptionName) : OptionKind :=
  option.spec.kind

/-- The option of a name. -/
def ofName? (name : String) : Option OptionName :=
  all.find? fun option => option.name = name

/-- The name belongs to an option. -/
def isKnown (name : String) : Bool :=
  (ofName? name).isSome

/-- The place of an option in the table. -/
def index (option : OptionName) : Nat :=
  all.idxOf option

section Lemmas

theorem mem_all (option : OptionName) : option ∈ all := by
  cases option <;> decide

/-- An option is found again under its name. -/
theorem ofName?_name (option : OptionName) :
    ofName? option.name = some option := by
  cases option <;> decide

theorem name_injective {a b : OptionName} (h : a.name = b.name) : a = b := by
  have hsome := (ofName?_name a).symm.trans (h ▸ ofName?_name b)
  exact Option.some.inj hsome

variable {option : OptionName}

theorem kind_of_default_switch {value : Bool} (h : option.spec.default = .switch value) :
    option.kind = .switch := by
  cases option <;> cases h <;> rfl

theorem default_of_switch (h : option.kind = .switch) :
    ∃ value, option.spec.default = .switch value := by
  cases option <;> first | exact ⟨_, rfl⟩ | cases h

/-- A default text belongs to a text option, or is one of the choices. -/
theorem kind_of_default_text {pieces : List DefaultPiece}
    (h : option.spec.default = .text pieces) :
    option.kind = .text ∨ (option.kind = .choice protocols ∧ pieces = [.literal "tcp"]) := by
  cases option <;> cases h <;> first | exact .inl rfl | exact .inr ⟨rfl, rfl⟩

theorem kind_of_default_fact {name : String} (h : option.spec.default = .fact name) :
    option.kind = .text := by
  cases option <;> cases h <;> rfl

end Lemmas

end OptionName
end DesiredState
