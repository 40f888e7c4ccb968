import DesiredState.Graph.Basic
import DesiredState.Template.Renderer

/-!
# Assembly of a graph

**Input.** A resolved configuration, the facts of the node, a renderer of
templates, and the state of the module.

**Algorithm.** Two contradictions are refused first: a version that removes the
package of a module which is not absent, and content that is given inline and by
another option as well. Then the package, the service and the configuration file
are declared, the configuration directory if it has a source, and one
declaration for each integration that is switched on. Files notify the service
unless its restart is switched off.
-/

namespace DesiredState

/-- Where the content of the configuration file comes from. -/
inductive FileContent where
  | source (pointer : String)
  | inline (text : String)
deriving DecidableEq, Repr

namespace Config

/-- The text attribute of an option, when it is set. -/
def textAttribute? (config : Config) (option : OptionName) : Option Attribute :=
  (config.text? option).map .text

/-- The text attribute of an option whose default is a text. -/
def textAttribute (config : Config) (option : OptionName) : Attribute :=
  .text (config.text option)

section Templates

/-- What the placeholders of the module's templates stand for. -/
def templateVariables (config : Config) (facts : KeyMap RawValue) : Variables :=
  { fqdn := ((facts.get? "fqdn").bind RawValue.scalar?).getD ""
    additionalClass := config.text? .myClass
    facts := facts.filterMap fun _ raw => raw.scalar?
    settings := config.scalars
    options := config.mapping .options }

/-- The content of the file has a second origin beside the inline content. -/
def contentConflict? (config : Config) : Option Conflict :=
  if (config.text? .content).isNone then none
  else if (config.text? .source).isSome then
    some (.secondOrigin (config.layerOf .content) .source)
  else if (config.text? .template).isSome then
    some (.secondOrigin (config.layerOf .content) .template)
  else none

/-- The template that the content of the file is rendered from: a source pointer
goes before it. -/
def renderedTemplate? (config : Config) : Option String :=
  if (config.text? .source).isSome then none else config.text? .template

theorem renderedTemplate?_of_source_none {config : Config} (h : config.text? .source = none) :
    config.renderedTemplate? = config.text? .template := by
  rw [renderedTemplate?, h]
  rfl

/-- The content of the configuration file. -/
def fileContent (config : Config) (facts : KeyMap RawValue)
    (renderer : Renderer) : Except Fault (Option FileContent) :=
  match config.contentConflict? with
  | some conflict => .error (.conflict conflict)
  | none =>
      match config.text? .source, config.text? .template with
      | some pointer, _ => .ok (some (.source pointer))
      | none, some template =>
          match renderer template (config.templateVariables facts) with
          | .ok text => .ok (some (.inline text))
          | .error fault => .error fault
      | none, none => .ok ((config.text? .content).map .inline)

end Templates

section Declarations

/-- The version removes the package of a module that is not absent. -/
def versionConflict? (config : Config) (state : Lifecycle) : Option Conflict :=
  if state ≠ .absent ∧ Ensure.ofVersion (config.text .version) = .absent then
    some (.versionRemoves (config.layerOf .version) (config.text .version) state)
  else none

/-- The text attribute of a demand. -/
def ensureAttribute (ensure : Ensure) : Attribute :=
  .text ensure.text

/-- The declaration of the package. -/
def packageDeclaration (config : Config) (state : Lifecycle) : Declaration :=
  .ofAttributes ⟨.package, config.text .package⟩
    [("ensure", some (ensureAttribute (state.packageEnsure (config.text .version))))]

/-- The service of the module. -/
def serviceRef (config : Config) : Ref :=
  ⟨.service, config.text .service⟩

/-- The declaration of the service. -/
def serviceDeclaration (config : Config) (state : Lifecycle) : Declaration :=
  .ofAttributes config.serviceRef
    [("ensure", state.serviceEnsure.map ensureAttribute),
      ("enable", some (.boolean state.serviceEnabled))]

/-- The attributes that tell whether a file is replaced or only audited. -/
def replaceAttributes (config : Config) : List (String × Option Attribute) :=
  if config.isOn .auditOnly then
    [("replace", some (.boolean false)), ("audit", some (.text "all"))]
  else [("replace", some (.boolean true))]

/-- The declaration of a file, which notifies the service unless its restart is
switched off. -/
def fileDeclaration (config : Config) (id : String)
    (attributes : List (String × Option Attribute)) : Declaration :=
  { Declaration.ofAttributes ⟨.file, id⟩ (attributes ++ config.replaceAttributes) with
    notifies :=
      if config.switch .serviceAutorestart = .off then none
      else some config.serviceRef }

/-- The attribute that holds the content of a file. -/
def contentAttributes : Option FileContent → List (String × Option Attribute)
  | none => []
  | some (.source pointer) => [("source", some (.text pointer))]
  | some (.inline text) => [("content", some (.text text))]

/-- The declaration of the configuration file. -/
def configFileDeclaration (config : Config) (state : Lifecycle)
    (content : Option FileContent) : Declaration :=
  config.fileDeclaration (config.module ++ ".conf")
    ([("ensure", some (ensureAttribute state.fileEnsure)),
      ("path", some (config.textAttribute .configFile)),
      ("mode", some (config.textAttribute .configFileMode)),
      ("owner", some (config.textAttribute .configFileOwner)),
      ("group", some (config.textAttribute .configFileGroup))] ++
      contentAttributes content)

/-- The declaration of the configuration directory, if it has a source. -/
def configDirDeclaration? (config : Config) (state : Lifecycle) :
    Option Declaration :=
  (config.textAttribute? .sourceDir).map fun source =>
    config.fileDeclaration (config.module ++ ".dir")
      [("ensure", some (ensureAttribute state.directoryEnsure)),
        ("path", some (config.textAttribute .configDir)),
        ("source", some source),
        ("recurse", some (.boolean true)),
        ("purge", some (.boolean (config.isOn .sourceDirPurge))),
        ("force", some (.boolean (config.isOn .sourceDirPurge)))]

/-- The declaration of the monitor, if it is switched on. -/
def monitorDeclaration? (config : Config) (state : Lifecycle) :
    Option Declaration :=
  if config.isOn .monitor then
    some (.ofAttributes ⟨.monitor, config.module ++ "_process"⟩
      [("process", some (config.textAttribute .process)),
        ("service", some (config.textAttribute .service)),
        ("target", config.textAttribute? .monitorTarget),
        ("tool", config.textAttribute? .monitorTool),
        ("enable", some (.boolean state.monitorEnabled))])
  else none

/-- The identifier of the firewall rule. -/
def firewallId (config : Config) : String :=
  config.text .service ++ "_" ++ config.text .protocol ++ "_" ++
    config.text .port

/-- The declaration of the firewall rule, if it is switched on. -/
def firewallDeclaration? (config : Config) (state : Lifecycle) :
    Option Declaration :=
  if config.isOn .firewall then
    some (.ofAttributes ⟨.firewall, config.firewallId⟩
      [("source", config.textAttribute? .firewallSrc),
        ("destination", config.textAttribute? .firewallDst),
        ("protocol", some (config.textAttribute .protocol)),
        ("port", some (config.textAttribute .port)),
        ("action", some (.text "allow")),
        ("direction", some (.text "input")),
        ("tool", config.textAttribute? .firewallTool),
        ("enable", some (.boolean state.firewallEnabled))])
  else none

/-- The declaration of the integration descriptor, if it is switched on. -/
def integrationDeclaration? (config : Config) (state : Lifecycle) :
    Option Declaration :=
  if config.isOn .puppi then
    some (.ofAttributes ⟨.integration, config.text .service⟩
      [("ensure", some (ensureAttribute state.integrationEnsure)),
        ("helper", config.textAttribute? .puppiHelper)])
  else none

/-- The declarations of the integrations that are switched on. -/
def integrationDeclarations (config : Config) (state : Lifecycle) :
    List Declaration :=
  (config.monitorDeclaration? state).toList ++
    (config.firewallDeclaration? state).toList ++
    (config.integrationDeclaration? state).toList

/-- The declarations of the module, in the order of the graph. -/
def declarations (config : Config) (state : Lifecycle)
    (content : Option FileContent) : List Declaration :=
  [config.packageDeclaration state, config.serviceDeclaration state,
    config.configFileDeclaration state content] ++
    (config.configDirDeclaration? state).toList ++
    config.integrationDeclarations state

end Declarations

/-- The graph of the module. -/
def assemble (config : Config) (state : Lifecycle)
    (content : Option FileContent) : Graph :=
  let graph := (config.declarations state content).foldl Graph.push
    (Graph.new config.module state)
  match config.text? .myClass with
  | none => graph
  | some name => graph.addInclude name

/-- The graph of the module in a given state, or the contradiction or failure
that stands in its way. -/
def toGraph (config : Config) (facts : KeyMap RawValue) (renderer : Renderer)
    (state : Lifecycle) : Except Fault Graph :=
  match config.versionConflict? state with
  | some conflict => .error (.conflict conflict)
  | none =>
      match config.fileContent facts renderer with
      | .error fault => .error fault
      | .ok content => .ok (config.assemble state content)

end Config
end DesiredState
