import DesiredState.Assembly
import DesiredState.CommandLine.Arguments
import DesiredState.CommandLine.Command
import DesiredState.CommandLine.Failure
import DesiredState.CommandLine.Flag
import DesiredState.CommandLine.Given
import DesiredState.CommandLine.Run
import DesiredState.CommandLine.UsageError
import DesiredState.Compilation
import DesiredState.Config
import DesiredState.Config.Fields
import DesiredState.Console.Message
import DesiredState.Console.Outcome
import DesiredState.Console.Style
import DesiredState.Decimal.Double
import DesiredState.Decimal.Shortest
import DesiredState.Declaration
import DesiredState.Disk
import DesiredState.EditScript.Basic
import DesiredState.EditScript.Build
import DesiredState.EditScript.Compute
import DesiredState.EditScript.Frontier
import DesiredState.EditScript.Slide
import DesiredState.Fault
import DesiredState.Graph.Basic
import DesiredState.Graph.Change
import DesiredState.Graph.Target
import DesiredState.Input.Collection
import DesiredState.Input.NodeFile
import DesiredState.Json.Basic
import DesiredState.Json.Declaration
import DesiredState.Json.Fault
import DesiredState.Json.Printer
import DesiredState.Json.Reader
import DesiredState.Json.Token
import DesiredState.KeyMap
import DesiredState.Layer
import DesiredState.Lifecycle
import DesiredState.Log
import DesiredState.Main
import DesiredState.OptionTable
import DesiredState.Path
import DesiredState.Proofs.Acceptance
import DesiredState.Proofs.Assembly.Coherence
import DesiredState.Proofs.Assembly.Demand
import DesiredState.Proofs.Assembly.Layout
import DesiredState.Proofs.Assembly.Masking
import DesiredState.Proofs.Assembly.Refusal
import DesiredState.Proofs.Assembly.Shape
import DesiredState.Proofs.Blame
import DesiredState.Proofs.Blanks
import DesiredState.Proofs.Compilation.Difference
import DesiredState.Proofs.Disk
import DesiredState.Proofs.Entries
import DesiredState.Proofs.Fields
import DesiredState.Proofs.Finding
import DesiredState.Proofs.Graph.Changes
import DesiredState.Proofs.Graph.Grouping
import DesiredState.Proofs.Graph.History
import DesiredState.Proofs.Graph.Operations
import DesiredState.Proofs.Graph.Patch
import DesiredState.Proofs.Graph.Reversal
import DesiredState.Proofs.Graph.Selection
import DesiredState.Proofs.Graph.Targeting
import DesiredState.Proofs.Input.Collection
import DesiredState.Proofs.Isolation
import DesiredState.Proofs.Json.Encoding
import DesiredState.Proofs.KeyMap.Assignment
import DesiredState.Proofs.KeyMap.Listing
import DesiredState.Proofs.NormalForm
import DesiredState.Proofs.Path
import DesiredState.Proofs.Pieces
import DesiredState.Proofs.Precedence
import DesiredState.Proofs.Repassing
import DesiredState.Proofs.Report.Independence
import DesiredState.Proofs.Report.LineDiff
import DesiredState.Proofs.Report.Provenance
import DesiredState.Proofs.Required
import DesiredState.Proofs.Template.Effective
import DesiredState.Proofs.Template.Occurrence
import DesiredState.Proofs.Template.SearchPath
import DesiredState.Proofs.Template.Substitution
import DesiredState.RawValue
import DesiredState.Report.Batch
import DesiredState.Report.LineDiff
import DesiredState.Report.Listing
import DesiredState.Report.Node
import DesiredState.Report.OptionList
import DesiredState.Report.Plan
import DesiredState.Report.Provenance
import DesiredState.Setting
import DesiredState.Template.Placeholder
import DesiredState.Template.Renderer
import DesiredState.Template.SearchPath
import DesiredState.Template.Variables
import DesiredState.Text.Blank
import DesiredState.Text.Lines
import DesiredState.Text.Quoted
import DesiredState.Text.Search
import DesiredState.Text.TerminatedLines
import DesiredState.Text.Unprintable
import DesiredState.Toml.Reader
import DesiredState.Toml.Scalar
import DesiredState.Toml.Table
import DesiredState.Toml.Token
import DesiredState.Trace
