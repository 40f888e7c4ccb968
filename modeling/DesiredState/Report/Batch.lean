import DesiredState.Graph.Target
import DesiredState.Json.Declaration
import DesiredState.Json.Fault
import DesiredState.Json.Printer
import DesiredState.Report.Listing
import DesiredState.Report.Node

/-!
# Compiling a batch of nodes

**Algorithm.** The node files are collected and loaded, and their nodes are compiled
by a number of workers, each with the templates of its own search path. The graph of
every node that compiles is cut down to the target.

**Report.** One entry per node, in the order of the node files: a listing of its
graph, or the fault that it ends in. The command fails when a node fails, and it fails
without a report when there is no node or when the workers cannot be started.
-/

namespace DesiredState

open Console (Emission Outcome Palette line)

/-- What came of a node: its state and its graph, or a fault. -/
structure NodeReport where
  node : String
  module : String
  result : Except Fault (Lifecycle × Graph)

namespace NodeReport

/-- The report on a node whose graph is cut down to a target. -/
def ofResult (target : Option String) (loaded : LoadedNode)
    (result : Except Fault Compiled) : NodeReport :=
  { node := loaded.name
    module := loaded.file.module
    result := result.map fun compiled =>
      (compiled.state, compiled.graph.filterByTarget target) }

/-- The node has failed. -/
def hasFailed (report : NodeReport) : Bool :=
  match report.result with
  | .error _ => true
  | .ok _ => false

/-- The fields of a state and a graph; the edges are left out when there are
none. -/
def graphFields (state : Lifecycle) (graph : Graph) : List (String × Json) :=
  [("state", .string state.name), ("graph", graph.toJson)] ++
    if graph.edges.isEmpty then []
    else [("edges", .array (graph.edges.map Edge.toJson))]

/-- The report as JSON. -/
def toJson (report : NodeReport) : Json :=
  .object ([("node", .string report.node), ("module", .string report.module)] ++
    match report.result with
    | .ok (state, graph) => graphFields state graph
    | .error fault => [("error", fault.toJson)])

/-- The report as text. -/
def emission (manner : Manner) (report : NodeReport) : Emission :=
  match report.result with
  | .ok (_, graph) =>
      .print (graph.listing manner.palette manner.quiet report.node ++
        if 0 < manner.verbosity then graph.edgeLines manner.palette else "")
  | .error fault => .complain (manner.palette.fault report.node fault)

end NodeReport

namespace Batch

/-- How many nodes are compiled at a time: as many as the user wishes or as there are
processors, and one at least. -/
def workers (host : Host) (request : CompileRequest) : Nat :=
  max 1 (request.jobs.getD host.processors)

/-- The reports on some nodes, in their order. -/
def reports (host : Host) (request : CompileRequest) (nodes : List LoadedNode) :
    Except PoolFailure (List NodeReport) :=
  let jobs := nodes.map (LoadedNode.job host request.templates)
  (Job.runAll host.poolFailure? (workers host request) jobs).map fun results =>
    (nodes.zip results).map fun pair => .ofResult request.target pair.1 pair.2

/-- How many nodes have failed. -/
def failed (reports : List NodeReport) : Nat :=
  reports.countP NodeReport.hasFailed

/-- The line at the end of a report as text. -/
def summary (palette : Palette) (reports : List NodeReport) : String :=
  line "" ++
    if failed reports = 0 then
      palette.success ("Compiled " ++ toString reports.length ++ " node(s)")
    else
      line (palette.paint [.bold] "Summary:" ++ " " ++
        palette.paint [.green] (toString (reports.length - failed reports)) ++
        " compiled, " ++ palette.paint [.red] (toString (failed reports)) ++ " failed")

/-- The reports in the form that is asked for. -/
def emissions (manner : Manner) (format : ReportFormat) (reports : List NodeReport) :
    List Emission :=
  match format with
  | .json => [.print (line (Json.array (reports.map NodeReport.toJson)).pretty)]
  | .text =>
      reports.map (NodeReport.emission manner) ++
        [.print (summary manner.palette reports)]

/-- The record of a node's search path. -/
def searchRecord (host : Host) (request : CompileRequest) (loaded : LoadedNode) :
    Log.Record :=
  let roots := (loaded.searchPath host request.templates).roots
  ⟨.debug, "keel::commands::compile",
    loaded.name ++ ": template search path [" ++
      String.intercalate ", " (roots.map fun root => Text.quotedPath root.text) ++ "]"⟩

/-- The record of the size of a batch. -/
def sizeRecord (host : Host) (request : CompileRequest) (nodes : List LoadedNode) :
    Log.Record :=
  ⟨.info, "keel::commands::compile",
    "Compiling " ++ toString nodes.length ++ " node(s) with " ++
      toString (workers host request) ++ " job(s)"⟩

/-- The records of what is about to be compiled. -/
def startTrace (host : Host) (request : CompileRequest) (nodes : List LoadedNode) :
    List Log.Record :=
  nodes.map (searchRecord host request) ++ [sizeRecord host request nodes]

/-- The records of compiling some nodes. -/
def nodesTrace (host : Host) (request : CompileRequest) (nodes : List LoadedNode) :
    List Log.Record :=
  nodes.flatMap fun loaded =>
    loaded.file.sources.compilationTrace host.disk
      (loaded.searchPath host request.templates)

/-- Show some reports; the command fails if a node has failed. -/
def conclude (manner : Manner) (format : ReportFormat) (reports : List NodeReport) :
    Outcome CommandFailure :=
  if failed reports = 0 then .succeed (emissions manner format reports)
  else
    .fail (emissions manner format reports) (.nodesFailed (failed reports) reports.length)

/-- Compile some nodes and report on them. -/
def compileNodes (host : Host) (manner : Manner) (request : CompileRequest)
    (nodes : List LoadedNode) : Outcome CommandFailure :=
  .after ((startTrace host request nodes).map .record)
    (match reports host request nodes with
      | .error cause => .fail [] (.noPool cause)
      | .ok reports =>
          .after ((nodesTrace host request nodes).map .record)
            (conclude manner request.format reports))

/-- Compile node files. -/
def run (host : Host) (manner : Manner) (request : CompileRequest) :
    Outcome CommandFailure :=
  .after ((host.disk.inputTrace request.inputs).map .record)
    (match host.disk.loadInputs request.inputs with
      | .error cause => .fail [] (.input cause)
      | .ok [] => .fail [] .noInputs
      | .ok nodes => compileNodes host manner request nodes)

end Batch
end DesiredState
