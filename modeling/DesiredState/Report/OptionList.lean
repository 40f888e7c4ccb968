import DesiredState.CommandLine.Command
import DesiredState.Console.Message
import DesiredState.Console.Outcome
import DesiredState.OptionTable

/-!
# The list of options

**Report.** A table of all options with their kind, default and description, below a
word on how options are looked up, which a quiet report leaves out.
-/

namespace DesiredState

open Console (Outcome Palette line padRight)

namespace OptionList

/-- The row of an option. -/
def row (palette : Palette) (option : OptionName) : String :=
  line ("  " ++ padRight 22 option.name ++ " " ++ padRight 20 option.kind.display ++
    " " ++ padRight 30 option.spec.default.display ++ " " ++
    palette.paint [.dimmed] option.spec.description)

/-- The heads of the columns. -/
def head (palette : Palette) : String :=
  line ("  " ++ palette.paint [.bold] (padRight 22 "NAME") ++ " " ++
    palette.paint [.bold] (padRight 20 "TYPE") ++ " " ++
    palette.paint [.bold] (padRight 30 "DEFAULT") ++ " " ++
    palette.paint [.bold] "DESCRIPTION")

/-- How options are looked up. -/
def explanation (palette : Palette) : String :=
  palette.aside
      "Each option is looked up as a passed parameter, then <module>_<name>," ++
    palette.aside "then <name>, then falls back to its default." ++
    line ""

/-- The report. -/
def text (manner : Manner) : String :=
  manner.palette.title "Options" ++
    (if manner.quiet then "" else explanation manner.palette) ++
    head manner.palette ++
    String.join (OptionName.all.map (row manner.palette)) ++
    line "" ++
    manner.palette.info (toString OptionName.all.length ++ " options")

/-- List the options. -/
def run {ε : Type} (manner : Manner) : Outcome ε :=
  .succeed [.print (text manner)]

end OptionList
end DesiredState
