import DesiredState.Layer
import DesiredState.Lifecycle
import DesiredState.OptionTable

/-!
# Configurations

**Input.** The name of a module, the parameters passed for it, and the facts of
the node.

**Algorithm.** Each option is looked up as a parameter, as the fact
`<module>_<option>`, and as the fact `<option>`; the first value that is not
blank wins, and the default of the option stands in when there is none. The raw
value is then brought to the normal form of the option's kind. The first option
of the table whose value is rejected ends the resolution.

**Result.** A configuration lists one entry per option, in the order of the
table, and offers the value of each option under its kind.
-/

namespace DesiredState

/-- What a configuration is resolved from. -/
structure Sources where
  module : String
  params : KeyMap RawValue
  facts : KeyMap RawValue
deriving Inhabited

/-- A raw value and the layer that holds it. -/
structure Lookup where
  layer : Layer
  raw : Option RawValue

/-- The resolved value of an option and the layer that it comes from. -/
structure Entry where
  option : OptionName
  value : Setting
  layer : Layer
deriving DecidableEq

/-- A value outside the language of its option's kind. -/
structure InvalidValue where
  option : String
  layer : Layer
  rejection : Rejection
deriving DecidableEq, Repr

namespace Sources

/-- The fact that holds an option for one module only. -/
def moduleKey (module option : String) : String :=
  module ++ "_" ++ option

/-- The value under a name, unless it is blank. -/
def present? (values : KeyMap RawValue) (name : String) : Option RawValue :=
  (values.get? name).filter fun raw => !raw.isBlank

/-- The raw value of an option: that of the first layer which holds one. -/
def lookup (sources : Sources) (option : OptionName) : Lookup :=
  match present? sources.params option.name with
  | some raw => ⟨.passed, some raw⟩
  | none =>
      match present? sources.facts (moduleKey sources.module option.name) with
      | some raw => ⟨.moduleScope, some raw⟩
      | none =>
          match present? sources.facts option.name with
          | some raw => ⟨.topScope, some raw⟩
          | none =>
              ⟨.builtIn, option.spec.default.toRaw? sources.module sources.facts⟩

/-- The entry of an option. -/
def entry (sources : Sources) (option : OptionName) :
    Except InvalidValue Entry :=
  let found := sources.lookup option
  match option.kind.normalize found.raw with
  | .ok value => .ok ⟨option, value, found.layer⟩
  | .error rejection => .error ⟨option.name, found.layer, rejection⟩

/-- The entries of some options, up to the first rejected value. -/
def entries (sources : Sources) : List OptionName →
    Except InvalidValue (List Entry)
  | [] => .ok []
  | option :: rest =>
      match sources.entry option with
      | .error invalid => .error invalid
      | .ok entry =>
          match sources.entries rest with
          | .error invalid => .error invalid
          | .ok more => .ok (entry :: more)

/-- The entries that are resolved before the first rejected value. -/
def entriesBeforeError (sources : Sources) : List OptionName → List Entry
  | [] => []
  | option :: rest =>
      match sources.entry option with
      | .error _ => []
      | .ok entry => entry :: sources.entriesBeforeError rest

end Sources

/-- A resolved configuration of a module. -/
structure Config where
  module : String
  entries : List Entry
deriving DecidableEq

namespace Config

/-- The entry of an option. -/
def entry? (config : Config) (option : OptionName) : Option Entry :=
  config.entries.find? fun entry => entry.option = option

/-- The layer that the value of an option comes from. -/
def layer? (config : Config) (option : OptionName) : Option Layer :=
  (config.entry? option).map Entry.layer

/-- The layer that the value of an option comes from. An option without an
entry counts as defaulted. -/
def layerOf (config : Config) (option : OptionName) : Layer :=
  (config.layer? option).getD .builtIn

/-- The value of a switch. -/
def switch (config : Config) (option : OptionName) : Switch :=
  match config.entry? option with
  | some ⟨_, .switch value, _⟩ => value
  | _ => .unset

/-- The switch is on. -/
def isOn (config : Config) (option : OptionName) : Bool :=
  config.switch option = .on

/-- The value of a text option, when it is set. -/
def text? (config : Config) (option : OptionName) : Option String :=
  match config.entry? option with
  | some ⟨_, .text value, _⟩ => value
  | _ => none

/-- The value of a text option whose default is a text. -/
def text (config : Config) (option : OptionName) : String :=
  (config.text? option).getD ""

/-- The value of a mapping option. -/
def mapping (config : Config) (option : OptionName) : KeyMap String :=
  match config.entry? option with
  | some ⟨_, .mapping value, _⟩ => value
  | _ => .empty

/-- The texts of the options that are set and no mappings, by name. -/
def scalars (config : Config) : KeyMap String :=
  .ofList (config.entries.filterMap fun entry =>
    entry.value.scalar?.map fun value => (entry.option.name, value))

/-- The state that the configuration puts its module in. -/
def lifecycle (config : Config) : Lifecycle :=
  .ofSwitches (config.switch .absent) (config.switch .disable)
    (config.switch .disableAtBoot)

end Config

namespace Sources

/-- Resolve every option of the table. -/
def resolve (sources : Sources) : Except InvalidValue Config :=
  match sources.entries OptionName.all with
  | .ok entries => .ok ⟨sources.module, entries⟩
  | .error invalid => .error invalid

end Sources
end DesiredState
