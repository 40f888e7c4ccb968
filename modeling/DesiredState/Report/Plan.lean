import DesiredState.Graph.Change
import DesiredState.Graph.Target
import DesiredState.Report.LineDiff
import DesiredState.Report.Node
import DesiredState.Text.Lines

/-!
# Plans of changes

**Report.** What has to change to get from the graph of one node to that of another:
the changes of declarations by kind, the classes that are included in one graph
only, and a count. A text of several lines is compared line by line.
-/

namespace DesiredState

open Console (Emission Outcome Palette line)

namespace AttributeChange

/-- A value that may be missing, on one line. -/
def value : Option Attribute → String
  | none => "(none)"
  | some attr => Text.firstLine attr.display

/-- The change on one line. -/
def inLine (palette : Palette) (change : AttributeChange) : String :=
  line ("      " ++ palette.paint [.dimmed] change.key ++ ": " ++ value change.before ++
    " → " ++ value change.after)

/-- The change of a text line by line. -/
def byLine (palette : Palette) (key before after : String) : String :=
  line ("      " ++ palette.paint [.dimmed] key ++ ":") ++
    LineDiff.text palette before after

/-- The text has a line feed. -/
def hasLineFeed (text : String) : Bool :=
  text.toList.contains '\n'

/-- The change: line by line when both values are texts and one of them has several
lines. -/
def text (palette : Palette) (change : AttributeChange) : String :=
  match change.before, change.after with
  | some (.text before), some (.text after) =>
      if hasLineFeed before || hasLineFeed after then
        byLine palette change.key before after
      else change.inLine palette
  | _, _ => change.inLine palette

end AttributeChange

namespace Change

/-- The line of the resource, behind the sign of the change. -/
def resourceLine (palette : Palette) (change : Change) : String :=
  let (color, sign) : Console.Effect × String :=
    match change.kind with
    | .added => (.green, "+")
    | .removed => (.red, "-")
    | .modified => (.yellow, "~")
  line ("  " ++ palette.paint [color] sign ++ " " ++
    palette.paint [.bold] change.ref.text ++ " " ++
    palette.paint [.dimmed, color] change.kind.name)

/-- A notified resource that may be missing. -/
def notified : Option Ref → String
  | none => "(none)"
  | some ref => ref.text

/-- The line of the notified resources, when they differ. -/
def notifyLine (palette : Palette) (notify : Option Ref × Option Ref) : String :=
  line ("      " ++ palette.paint [.dimmed] "notify" ++ ": " ++ notified notify.1 ++
    " → " ++ notified notify.2)

/-- The change of a resource. -/
def text (palette : Palette) (quiet : Bool) (change : Change) : String :=
  if quiet then change.resourceLine palette
  else
    change.resourceLine palette ++
      String.join (change.attributes.map (AttributeChange.text palette)) ++
      String.join (change.notify.toList.map (notifyLine palette))

end Change

/-- The classes that are included in one graph only. -/
def IncludeChanges.text (palette : Palette) (includes : IncludeChanges) : String :=
  if includes.isEmpty then ""
  else
    palette.heading "Includes" ++
      String.join (includes.added.map fun name =>
        line ("  " ++ palette.paint [.green] "+" ++ " " ++
          palette.paint [.bold] ("include " ++ name))) ++
      String.join (includes.removed.map fun name =>
        line ("  " ++ palette.paint [.red] "-" ++ " " ++
          palette.paint [.bold] ("include " ++ name)))

namespace Plan

/-- The changes of the resources of one kind. -/
def groupText (palette : Palette) (quiet : Bool) (group : Kind × List Change) :
    String :=
  palette.heading group.1.title ++
    String.join (group.2.map (Change.text palette quiet))

/-- The count of the changes. -/
def countText (palette : Palette) (counts : ChangeSummary)
    (includes : IncludeChanges) : String :=
  line "" ++
    line (palette.paint [.bold] "Plan:" ++ " " ++
      palette.paint [.green] (toString counts.additions) ++ " to add, " ++
      palette.paint [.yellow] (toString counts.modifications) ++ " to change, " ++
      palette.paint [.red] (toString counts.removals) ++ " to remove") ++
    if includes.isEmpty then ""
    else
      palette.aside ("  includes: " ++ toString counts.includesAdded ++ " added, " ++
        toString counts.includesRemoved ++ " removed")

/-- The changes from one graph to another. -/
def changesText (palette : Palette) (quiet : Bool) (before after : Graph) : String :=
  let changes := before.changes after
  let includes := IncludeChanges.between before after
  let counts := ChangeSummary.of changes includes
  if counts.hasChanges then
    String.join ((Change.groupByKind changes).map (groupText palette quiet)) ++
      includes.text palette ++ countText palette counts includes
  else line "" ++ palette.success "No changes"

/-- The state of the module, when it changes. -/
def stateText (palette : Palette) (before after : Graph) : String :=
  if before.state = after.state then ""
  else palette.pair "state" (before.state.name ++ " → " ++ after.state.name)

/-- The plan that leads from the graph of one node to that of another. -/
def text (manner : Manner) (before after : LoadedNode) (old new : Graph) : String :=
  manner.palette.title (before.name ++ " → " ++ after.name) ++
    stateText manner.palette old new ++
    changesText manner.palette manner.quiet old new

/-- Compile a node and go on with its graph, cut down to the target. -/
def withGraph (host : Host) (manner : Manner) (request : DiffRequest)
    (loaded : LoadedNode) (next : Graph → Outcome CommandFailure) :
    Outcome CommandFailure :=
  let search := loaded.searchPath host request.templates
  let sources := loaded.file.sources
  .after ((sources.compilationTrace host.disk search).map .record)
    (match sources.compile (search.renderer host.disk) with
      | .error fault =>
          .fail [.complain (manner.palette.fault loaded.name fault)]
            (.notCompiled loaded.path)
      | .ok compiled => next (compiled.graph.filterByTarget request.target))

/-- Compare the graphs of two node files. -/
def run (host : Host) (manner : Manner) (request : DiffRequest) :
    Outcome CommandFailure :=
  LoadedNode.loadThen host request.before fun before =>
    LoadedNode.loadThen host request.after fun after =>
      withGraph host manner request before fun old =>
        withGraph host manner request after fun new =>
          .succeed [.print (text manner before after old new)]

end Plan
end DesiredState
