import DesiredState.CommandLine.Arguments
import DesiredState.Report.Batch
import DesiredState.Report.OptionList
import DesiredState.Report.Plan
import DesiredState.Report.Provenance

/-!
# Running a command

**Outcome.** What an invocation prints and logs on a host, and why it fails if it
does.

**Reads.** The paths of the disk that a command reads: those that it is applied to,
and then those at which it looks for templates.
-/

namespace DesiredState

open Console (Outcome Palette)

namespace Invocation

/-- The manner in which the results are shown on a terminal. -/
def manner (invocation : Invocation) (palette : Palette) : Manner :=
  ⟨palette, invocation.quiet, invocation.verbosity⟩

/-- The level that the log is kept at. -/
def logLevel (invocation : Invocation) : Log.Level :=
  .ofVerbosity invocation.quiet invocation.verbosity

/-- Run the command. -/
def run (host : Host) (palette : Palette) (invocation : Invocation) :
    Outcome CommandFailure :=
  match invocation.command with
  | .compile request => Batch.run host (invocation.manner palette) request
  | .resolve request => Provenance.run host (invocation.manner palette) request
  | .diff request => Plan.run host (invocation.manner palette) request
  | .options => OptionList.run (invocation.manner palette)

/-- The paths that the command is applied to. -/
def inputPaths (invocation : Invocation) : List Path :=
  match invocation.command with
  | .compile request => request.inputs
  | .resolve request => [request.input]
  | .diff request => [request.before, request.after]
  | .options => []

/-- The node files that the command compiles, as far as they can be loaded. -/
def compiledFiles (host : Host) (invocation : Invocation) : List Path :=
  match invocation.command with
  | .compile request =>
      match host.disk.collect request.inputs with
      | .ok files => files
      | .error _ => []
  | .diff request => [request.before, request.after]
  | _ => []

/-- The root for templates that is given on the command line. -/
def templates? (invocation : Invocation) : Option Path :=
  match invocation.command with
  | .compile request => request.templates
  | .diff request => request.templates
  | _ => none

/-- The paths at which the command looks for templates. -/
def templatePaths (host : Host) (invocation : Invocation) : List Path :=
  (host.disk.loadedBeforeFailure (invocation.compiledFiles host)).flatMap
    (LoadedNode.templateCandidates host invocation.templates?)

end Invocation
end DesiredState
