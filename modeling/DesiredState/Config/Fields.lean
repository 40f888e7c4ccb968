import DesiredState.Config
import DesiredState.Json.Declaration

/-!
# Fields of a configuration

**Types.** The options of a configuration are also the fields of a record. A field is a
switch, a text that may be unset, a text that every module has, or a mapping.

**Algorithm.** The settings are put under the names of their options, and each field is
read under its name and with its shape. Where no setting of that name has that shape, a
switch and a text are unset, a text that every module has is empty, and so is a mapping.
-/

namespace DesiredState

/-- What a field holds. -/
inductive Field where
  | switch (value : Switch)
  | text (value : Option String)
  /-- A text that every module has; an unset one is empty. -/
  | required (value : String)
  | mapping (entries : KeyMap String)
deriving DecidableEq

namespace Field

section Reading

variable (settings : KeyMap Setting) (name : String)

/-- The switch under a name. -/
def switchAt : Switch :=
  match settings.get? name with
  | some (.switch value) => value
  | _ => .unset

/-- The text under a name, when it is set. -/
def textAt : Option String :=
  match settings.get? name with
  | some (.text value) => value
  | _ => none

/-- The text under a name that every module has. -/
def requiredAt : String :=
  (textAt settings name).getD ""

/-- The mapping under a name. -/
def mappingAt : KeyMap String :=
  match settings.get? name with
  | some (.mapping entries) => entries
  | _ => .empty

end Reading

/-- The field as JSON; a text that is not set is null. -/
def toJson : Field → Json
  | .switch value => value.toJson
  | .text value => (Setting.text value).toJson
  | .required value => .string value
  | .mapping entries => .ofMap .string entries

end Field

/-- The options of a module as the fields of a record. -/
structure Fields where
  module : String
  absent : Switch
  disable : Switch
  disableAtBoot : Switch
  version : String
  package : String
  service : String
  process : String
  serviceAutorestart : Switch
  configFile : String
  configDir : String
  configFileMode : String
  configFileOwner : String
  configFileGroup : String
  source : Option String
  sourceDir : Option String
  sourceDirPurge : Switch
  template : Option String
  content : Option String
  options : KeyMap String
  auditOnly : Switch
  myClass : Option String
  monitor : Switch
  monitorTool : Option String
  monitorTarget : Option String
  firewall : Switch
  firewallTool : Option String
  firewallSrc : Option String
  firewallDst : Option String
  protocol : String
  port : String
  puppi : Switch
  puppiHelper : Option String
deriving DecidableEq

namespace Config

/-- The settings of a configuration under the names of their options. -/
def settings (config : Config) : KeyMap Setting :=
  .ofList (config.entries.map fun entry => (entry.option.name, entry.value))

open DesiredState.Field in
/-- The fields of a configuration, each read under its name. -/
def fields (config : Config) : Fields :=
  let settings := config.settings
  { module := config.module
    absent := switchAt settings "absent"
    disable := switchAt settings "disable"
    disableAtBoot := switchAt settings "disableboot"
    version := requiredAt settings "version"
    package := requiredAt settings "package"
    service := requiredAt settings "service"
    process := requiredAt settings "process"
    serviceAutorestart := switchAt settings "service_autorestart"
    configFile := requiredAt settings "config_file"
    configDir := requiredAt settings "config_dir"
    configFileMode := requiredAt settings "config_file_mode"
    configFileOwner := requiredAt settings "config_file_owner"
    configFileGroup := requiredAt settings "config_file_group"
    source := textAt settings "source"
    sourceDir := textAt settings "source_dir"
    sourceDirPurge := switchAt settings "source_dir_purge"
    template := textAt settings "template"
    content := textAt settings "content"
    options := mappingAt settings "options"
    auditOnly := switchAt settings "audit_only"
    myClass := textAt settings "my_class"
    monitor := switchAt settings "monitor"
    monitorTool := textAt settings "monitor_tool"
    monitorTarget := textAt settings "monitor_target"
    firewall := switchAt settings "firewall"
    firewallTool := textAt settings "firewall_tool"
    firewallSrc := textAt settings "firewall_src"
    firewallDst := textAt settings "firewall_dst"
    protocol := requiredAt settings "protocol"
    port := requiredAt settings "port"
    puppi := switchAt settings "puppi"
    puppiHelper := textAt settings "puppi_helper" }

end Config

namespace Fields

/-- The field of an option. -/
def field (fields : Fields) : OptionName → Field
  | .absent => .switch fields.absent
  | .disable => .switch fields.disable
  | .disableAtBoot => .switch fields.disableAtBoot
  | .version => .required fields.version
  | .package => .required fields.package
  | .service => .required fields.service
  | .process => .required fields.process
  | .serviceAutorestart => .switch fields.serviceAutorestart
  | .configFile => .required fields.configFile
  | .configDir => .required fields.configDir
  | .configFileMode => .required fields.configFileMode
  | .configFileOwner => .required fields.configFileOwner
  | .configFileGroup => .required fields.configFileGroup
  | .source => .text fields.source
  | .sourceDir => .text fields.sourceDir
  | .sourceDirPurge => .switch fields.sourceDirPurge
  | .template => .text fields.template
  | .content => .text fields.content
  | .options => .mapping fields.options
  | .auditOnly => .switch fields.auditOnly
  | .myClass => .text fields.myClass
  | .monitor => .switch fields.monitor
  | .monitorTool => .text fields.monitorTool
  | .monitorTarget => .text fields.monitorTarget
  | .firewall => .switch fields.firewall
  | .firewallTool => .text fields.firewallTool
  | .firewallSrc => .text fields.firewallSrc
  | .firewallDst => .text fields.firewallDst
  | .protocol => .required fields.protocol
  | .port => .required fields.port
  | .puppi => .switch fields.puppi
  | .puppiHelper => .text fields.puppiHelper

/-- The fields as JSON, each under the name of its option. -/
def toJson (fields : Fields) : Json :=
  .object (("module", .string fields.module) ::
    OptionName.all.map fun option => (option.name, (fields.field option).toJson))

end Fields
end DesiredState
