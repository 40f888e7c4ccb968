import DesiredState.Console.Style
import DesiredState.Disk
import DesiredState.Log

/-!
# Commands

**Types.** A command with what it is applied to, the manner in which its results are
shown, and the host that it runs on.
-/

namespace DesiredState

/-- The form of a report. -/
inductive ReportFormat where
  | text
  | json
deriving DecidableEq, Repr

namespace ReportFormat

/-- The name of the form. -/
def name : ReportFormat → String
  | .text => "text"
  | .json => "json"

/-- The form of a name, spelled exactly. -/
def ofName? (name : String) : Option ReportFormat :=
  [text, json].find? fun format => format.name = name

end ReportFormat

/-- Compile node files into graphs. -/
structure CompileRequest where
  /-- Node files, or directories that hold them. -/
  inputs : List Path
  format : ReportFormat
  target : Option String
  /-- How many nodes are compiled at a time. -/
  jobs : Option Nat
  /-- The root that templates are looked for in before the node's own. -/
  templates : Option Path
deriving DecidableEq, Repr

/-- Show where each option of a node gets its value from. -/
structure ResolveRequest where
  input : Path
  format : ReportFormat
deriving DecidableEq, Repr

/-- Compare the graphs of two nodes. -/
structure DiffRequest where
  before : Path
  after : Path
  target : Option String
  /-- The root that templates are looked for in before the node's own. -/
  templates : Option Path
deriving DecidableEq, Repr

/-- What the user asks for. -/
inductive Command where
  | compile (request : CompileRequest)
  | resolve (request : ResolveRequest)
  | diff (request : DiffRequest)
  | options
deriving DecidableEq, Repr

/-- A command with the wishes that hold for every command. -/
structure Invocation where
  verbosity : Nat
  quiet : Bool
  command : Command
deriving DecidableEq, Repr

/-- The manner in which results are shown. -/
structure Manner where
  palette : Console.Palette
  quiet : Bool
  verbosity : Nat
deriving DecidableEq, Repr

/-- What a command finds on the computer that it runs on. -/
structure Host where
  disk : Disk
  home : Option String
  processors : Nat
  /-- Why a pool of so many workers cannot be started, if it cannot. -/
  poolFailure? : Nat → Option String

end DesiredState
