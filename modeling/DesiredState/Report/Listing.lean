import DesiredState.Console.Message
import DesiredState.Graph.Basic
import DesiredState.Text.Lines

/-!
# Listings of graphs

**Rule.** A declaration is listed by its reference, behind a full circle when its
resource is demanded to be there and an empty one when not. Its attributes and the
notified resource follow on lines of their own, unless the listing is quiet. A text
of several lines is cut down to its first line.
-/

namespace DesiredState

open Console (Palette line)

/-- The value on one line, when it is a text; a mapping stands as it is. -/
def Attribute.listing : Attribute → String
  | .text value => Text.firstLine value
  | other => other.display

namespace Declaration

/-- The line of the reference. -/
def referenceLine (palette : Palette) (decl : Declaration) : String :=
  let marker :=
    if decl.isPresent then palette.paint [.green] "●" else palette.paint [.red] "○"
  line ("  " ++ marker ++ " " ++ palette.paint [.bold] decl.ref.text)

/-- The lines of the attributes. -/
def attributeLines (palette : Palette) (decl : Declaration) : List String :=
  decl.attributes.entries.map fun entry =>
    line ("      " ++ palette.paint [.dimmed] entry.1 ++ ": " ++ entry.2.listing)

/-- The line of the notified resource. -/
def notifyLine (palette : Palette) (target : Ref) : String :=
  line ("      " ++ palette.paint [.dimmed] "notify →" ++ " " ++
    palette.paint [.cyan] target.text)

/-- The listing of a declaration. -/
def listing (palette : Palette) (quiet : Bool) (decl : Declaration) : String :=
  if quiet then decl.referenceLine palette
  else
    decl.referenceLine palette ++ String.join (decl.attributeLines palette) ++
      String.join (decl.notifies.toList.map (notifyLine palette))

end Declaration

namespace Graph

/-- The line of a class to include. -/
def includeLine (palette : Palette) (name : String) : String :=
  line ("  " ++ palette.paint [.blue] "+" ++ " " ++
    palette.paint [.dimmed] ("include " ++ name))

/-- The listing of a graph under a name. -/
def listing (palette : Palette) (quiet : Bool) (name : String) (graph : Graph) :
    String :=
  palette.heading (name ++ " (" ++ graph.state.name ++ ")") ++
    String.join (graph.resources.map (Declaration.listing palette quiet)) ++
    String.join (graph.includes.map (includeLine palette))

/-- The lines of the notifications. -/
def edgeLines (palette : Palette) (graph : Graph) : String :=
  String.join (graph.edges.map fun edge => palette.aside ("  " ++ edge.text " ~> "))

end Graph
end DesiredState
