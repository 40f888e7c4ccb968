import DesiredState.Input.Collection
import DesiredState.Log
import DesiredState.Template.SearchPath
import DesiredState.Text.Quoted

/-!
# Traces

**Content.** The records that each activity leaves in the log: the collection of
node files, their loading, the resolution of options, the rendering of a template
and the assembly of a graph. An activity that ends early leaves the records of the
steps that it has finished.
-/

namespace DesiredState

open Log (Record)

namespace Setting

/-- A text that may be missing, as records show it. -/
def optionalTrace : Option String → String
  | none => "None"
  | some word => "Some(" ++ Text.quoted word ++ ")"

/-- The state of a switch, as records show it. -/
def switchTrace : Switch → String
  | .on => "True"
  | .off => "False"
  | .unset => "Unset"

/-- The setting, as records show it. -/
def trace : Setting → String
  | .switch value => "Flag(" ++ switchTrace value ++ ")"
  | .text value => "Text(" ++ optionalTrace value ++ ")"
  | .mapping entries =>
      "Mapping(\x7b" ++ String.intercalate ", " (entries.entries.map fun entry =>
        Text.quoted entry.1 ++ ": " ++ Text.quoted entry.2) ++ "\x7d)"

end Setting

section Inputs

/-- The record of a parameter that belongs to no option. -/
def LoadedNode.unknownRecord (loaded : LoadedNode) (name : String) : Record :=
  ⟨.warn, "keel::config",
    loaded.path.text ++ ": ignoring unknown parameter '" ++ name ++ "'"⟩

/-- The records of a node file that has been loaded. -/
def LoadedNode.trace (loaded : LoadedNode) : List Record :=
  loaded.file.unknownParams.map loaded.unknownRecord

namespace Disk

/-- The node files that are loaded before the first one that fails. -/
def loadedBeforeFailure (disk : Disk) : List Path → List LoadedNode
  | [] => []
  | path :: rest =>
      match LoadedNode.load disk path with
      | .error _ => []
      | .ok loaded => loaded :: disk.loadedBeforeFailure rest

/-- The records of loading some node files. -/
def loadTrace (disk : Disk) (paths : List Path) : List Record :=
  (disk.loadedBeforeFailure paths).flatMap LoadedNode.trace

/-- The path leads to a directory or a file. -/
def leadsSomewhere (disk : Disk) (path : Path) : Bool :=
  disk.isDirectory path || disk.isFile path

/-- The record of a directory that has been searched for node files. -/
def searchRecord (disk : Disk) (path : Path) : Record :=
  ⟨.debug, "keel::config",
    path.text ++ ": found " ++ toString (disk.nodeFilesBelow path).length ++
      " input(s)"⟩

/-- The records of collecting the node files that some paths stand for. -/
def collectTrace (disk : Disk) (paths : List Path) : List Record :=
  ((paths.takeWhile disk.leadsSomewhere).filter disk.isDirectory).map
    disk.searchRecord

/-- The records of collecting and loading node files. -/
def inputTrace (disk : Disk) (paths : List Path) : List Record :=
  disk.collectTrace paths ++
    match disk.collect paths with
    | .error _ => []
    | .ok files => disk.loadTrace files

end Disk

end Inputs

section Compilation

/-- The record of a resolved option. -/
def Entry.record (entry : Entry) : Record :=
  ⟨.debug, "declarative::resolver",
    entry.option.name ++ ": " ++ entry.layer.phrase ++ " -> " ++ entry.value.trace⟩

/-- The records of resolving the options of a module. -/
def Sources.resolutionTrace (sources : Sources) : List Record :=
  (sources.entriesBeforeError OptionName.all).map Entry.record

/-- The record of the state that a configuration puts its module in. -/
def Config.stateRecord (config : Config) : Record :=
  ⟨.debug, "declarative::compile",
    config.module ++ ": lifecycle state " ++ config.lifecycle.name⟩

/-- The record of a template whose file has been found. -/
def SearchPath.renderRecord (template : String) (path : Path) : Record :=
  ⟨.debug, "keel::render", "rendering " ++ template ++ " from " ++ path.text⟩

/-- The records of rendering the template of a configuration. -/
def Config.renderTrace (config : Config) (disk : Disk) (search : SearchPath) :
    List Record :=
  if (config.versionConflict? config.lifecycle).isSome ||
      config.contentConflict?.isSome then []
  else
    match config.renderedTemplate? with
    | none => []
    | some template =>
        match search.locate? disk ⟨template⟩ with
        | none => []
        | some path => [SearchPath.renderRecord template path]

/-- The record of a graph that has been assembled. -/
def Graph.record (graph : Graph) : Record :=
  ⟨.debug, "declarative::builder",
    "built " ++ toString graph.size ++ " declarations for " ++ graph.module ++
      " (" ++ graph.state.name ++ ")"⟩

/-- The records of compiling a module whose templates are on a search path. -/
def Sources.compilationTrace (sources : Sources) (disk : Disk)
    (search : SearchPath) : List Record :=
  sources.resolutionTrace ++
    match sources.config with
    | .error _ => []
    | .ok config =>
        config.stateRecord :: config.renderTrace disk search ++
          match sources.compile (search.renderer disk) with
          | .error _ => []
          | .ok compiled => [compiled.graph.record]

end Compilation

end DesiredState
