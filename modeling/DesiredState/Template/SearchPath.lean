import DesiredState.Disk
import DesiredState.Template.Renderer

/-!
# Search paths of templates

**Type.** A search path lists the directories in which templates are looked for,
each once: paths with the same components count as one, in the spelling of the
first.

**Rule.** An absolute template is looked for as it is, any other below each root in
turn, and the first file found is taken.
-/

namespace DesiredState

/-- The roots below which templates are looked for. -/
structure SearchPath where
  roots : List Path
deriving DecidableEq, Repr, Inhabited

namespace SearchPath

/-- Add a root at the end, unless there is one with the same components. -/
def addRoot (roots : List Path) (root : Path) : List Path :=
  if roots.any fun known => known.components = root.components then roots
  else roots ++ [root]

/-- The search path of some roots. -/
def ofRoots (roots : List Path) : SearchPath :=
  ⟨roots.foldl addRoot []⟩

/-- The paths at which a template is looked for. -/
def candidates (search : SearchPath) (template : Path) : List Path :=
  if template.isAbsolute then [template]
  else search.roots.map fun root => root.join template

/-- The file of a template. -/
def locate? (disk : Disk) (search : SearchPath) (template : Path) : Option Path :=
  (search.candidates template).find? disk.isFile

/-- The renderer of the templates on a search path. -/
def renderer (disk : Disk) (search : SearchPath) : Renderer :=
  fun template vars =>
    match search.locate? disk ⟨template⟩ with
    | none =>
        .error (.unrendered template (.notFound (search.roots.map Path.text)))
    | some path =>
        match disk.readText? path with
        | none => .error (.unrendered template (.notText path.text))
        | some source => Template.substitute template source vars

end SearchPath
end DesiredState
