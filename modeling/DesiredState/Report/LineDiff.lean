import DesiredState.Console.Message
import DesiredState.EditScript.Compute
import DesiredState.Text.TerminatedLines

/-!
# Line diffs

**Rule.** Of an edit script between the lines of two texts, the deleted lines are
shown behind a minus and the inserted ones behind a plus; kept lines are not shown.
A shown line that does not end in a line break gets one. After any line that does
not end in a line break, kept ones included, an empty line stands.
-/

namespace DesiredState
namespace LineDiff

open Console (Palette Effect)
open EditScript (Segment)

/-- A line break, if the line has none at its end. -/
def missingBreak (text : String) : String :=
  if Text.endsLine text then "" else "\n"

/-- A changed line behind its sign. -/
def changedLine (palette : Palette) (color : Effect) (sign text : String) : String :=
  "        " ++ palette.paint [color] (sign ++ " " ++ text ++ missingBreak text) ++
    missingBreak text

/-- The lines of a segment. -/
def segmentText (palette : Palette) : Segment String → String
  | .keep lines => String.join (lines.map missingBreak)
  | .delete lines => String.join (lines.map (changedLine palette .red "-"))
  | .insert lines => String.join (lines.map (changedLine palette .green "+"))

/-- The edit script between the lines of two texts. -/
def script (before after : String) : List (Segment String) :=
  EditScript.compute (Text.terminatedLines before) (Text.terminatedLines after)

/-- What is shown of an edit script. -/
def scriptText (palette : Palette) (changes : List (Segment String)) : String :=
  String.join (changes.map (segmentText palette))

/-- The line diff of two texts. -/
def text (palette : Palette) (before after : String) : String :=
  scriptText palette (script before after)

end LineDiff
end DesiredState
