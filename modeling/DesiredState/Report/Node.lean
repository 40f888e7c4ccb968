import DesiredState.CommandLine.Command
import DesiredState.CommandLine.Failure
import DesiredState.Console.Outcome
import DesiredState.Trace

/-!
# The nodes of a report

**Search path.** A root for templates that is given on the command line comes before
the root of the node.

**Loading.** A node file that is loaded leaves its records before those of what is
done with it; one that cannot be loaded ends the command.
-/

namespace DesiredState

open Console (Outcome)

namespace LoadedNode

/-- The search path of the node's templates. -/
def searchPath (host : Host) (templates : Option Path) (loaded : LoadedNode) :
    SearchPath :=
  .ofRoots (templates.toList ++ [loaded.templateRoot host.home])

/-- The node together with the renderer of its templates. -/
def job (host : Host) (templates : Option Path) (loaded : LoadedNode) : Job :=
  ⟨loaded.node, (loaded.searchPath host templates).renderer host.disk⟩

/-- The paths at which the template of the node's file is looked for. -/
def templateCandidates (host : Host) (templates : Option Path)
    (loaded : LoadedNode) : List Path :=
  match loaded.file.sources.config with
  | .error _ => []
  | .ok config =>
      config.renderedTemplate?.toList.flatMap fun template =>
        (loaded.searchPath host templates).candidates ⟨template⟩

/-- Load a node file and go on with it. -/
def loadThen (host : Host) (path : Path) (next : LoadedNode → Outcome CommandFailure) :
    Outcome CommandFailure :=
  match load host.disk path with
  | .error cause => .fail [] (.input (.load cause))
  | .ok loaded => .after (loaded.trace.map .record) (next loaded)

end LoadedNode
end DesiredState
