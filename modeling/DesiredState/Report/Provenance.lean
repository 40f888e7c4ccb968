import DesiredState.Console.Message
import DesiredState.Json.Declaration
import DesiredState.Json.Printer
import DesiredState.Report.Node
import DesiredState.Text.Lines

/-!
# Where options get their values from

**Report.** The state of a node and a table of its options, each with its value and
the layer that the value comes from. A quiet table leaves out options that have
their default. Parameters that belong to no option are named at the end.
-/

namespace DesiredState

open Console (Emission Outcome Palette line padRight)

/-- The value in a table, on one line; a mapping stands as it is. -/
def Setting.cell : Setting → String
  | .mapping entries => Attribute.mappingText entries
  | setting =>
      match setting.scalar? with
      | some value => Text.firstLine value
      | none => "(unset)"

/-- The label of a layer in its colour. -/
def Layer.tag (palette : Palette) (layer : Layer) : String :=
  match layer with
  | .passed => palette.paint [.green] layer.label
  | .moduleScope => palette.paint [.cyan] layer.label
  | .topScope => palette.paint [.yellow] layer.label
  | .builtIn => palette.paint [.dimmed] layer.label

namespace Entry

/-- The row of an option. -/
def row (palette : Palette) (entry : Entry) : String :=
  line ("  " ++ padRight 22 entry.option.name ++ " " ++ padRight 32 entry.value.cell ++
    " " ++ entry.layer.tag palette)

/-- The entry as JSON. -/
def toJson (entry : Entry) : Json :=
  .object [("name", .string entry.option.name), ("value", entry.value.toJson),
    ("layer", .string entry.layer.name)]

end Entry

namespace Provenance

/-- The options that a table lists. -/
def listed (quiet : Bool) (config : Config) : List Entry :=
  config.entries.filter fun entry => !quiet || entry.layer ≠ .builtIn

/-- The remark on parameters that belong to no option. -/
def unknownRemark (palette : Palette) (unknown : List String) : String :=
  if unknown.isEmpty then ""
  else
    line "" ++
      palette.warning ("Ignored unknown parameters: " ++ String.intercalate ", " unknown)

/-- The report as text. -/
def text (manner : Manner) (loaded : LoadedNode) (config : Config) : String :=
  let palette := manner.palette
  palette.title (loaded.name ++ " (" ++ loaded.file.module ++ ")") ++
    palette.pair "state" config.lifecycle.name ++
    palette.heading "Options" ++
    String.join ((listed manner.quiet config).map (Entry.row palette)) ++
    unknownRemark palette loaded.file.unknownParams

/-- The report as JSON. -/
def json (loaded : LoadedNode) (config : Config) : Json :=
  .object [("node", .string loaded.name), ("module", .string loaded.file.module),
    ("state", .string config.lifecycle.name),
    ("options", .array (config.entries.map Entry.toJson))]

/-- Resolve the options of a node and report on them. -/
def resolveNode (manner : Manner) (request : ResolveRequest) (loaded : LoadedNode) :
    Outcome CommandFailure :=
  .after (loaded.file.sources.resolutionTrace.map .record)
    (match loaded.file.sources.config with
      | .error fault =>
          .fail [.complain (manner.palette.fault loaded.name fault)]
            (.notResolved request.input)
      | .ok config =>
          match request.format with
          | .json => .succeed [.print (line (json loaded config).pretty)]
          | .text => .succeed [.print (text manner loaded config)])

/-- Resolve the options of a node file. -/
def run (host : Host) (manner : Manner) (request : ResolveRequest) :
    Outcome CommandFailure :=
  LoadedNode.loadThen host request.input (resolveNode manner request)

end Provenance
end DesiredState
