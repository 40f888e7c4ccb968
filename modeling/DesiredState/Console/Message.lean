import DesiredState.Console.Style
import DesiredState.Fault

/-!
# Messages on the console

**Content.** The forms of the lines that reports are made of: titles, pairs of a key
and a value, remarks behind a symbol, and faults with their advice. Each ends with a
line feed.
-/

namespace DesiredState
namespace Console

/-- The text as a line. -/
def line (text : String) : String :=
  text ++ "\n"

namespace Palette

/-- A title, underlined, with a blank line above. -/
def title (palette : Palette) (text : String) : String :=
  line "" ++ line (palette.paint [.bold] text) ++
    line (palette.paint [.dimmed] ("".pushn '─' text.length))

/-- The heading of a section, with a blank line above. -/
def heading (palette : Palette) (text : String) : String :=
  line "" ++ line (palette.paint [.bold, .cyan] text)

/-- A key with its value. -/
def pair (palette : Palette) (key value : String) : String :=
  line ("  " ++ palette.paint [.dimmed] key ++ ": " ++ value)

/-- A remark that only informs. -/
def info (palette : Palette) (text : String) : String :=
  line (palette.paint [.blue] "ℹ" ++ " " ++ text)

/-- A remark on what has worked. -/
def success (palette : Palette) (text : String) : String :=
  line (palette.paint [.green] "✓" ++ " " ++ text)

/-- A remark on what the user should look at. -/
def warning (palette : Palette) (text : String) : String :=
  line (palette.paint [.yellow] "⚠" ++ " " ++ text)

/-- A remark on what has failed. -/
def error (palette : Palette) (text : String) : String :=
  line (palette.paint [.red] "✗" ++ " " ++ text)

/-- A remark in the background. -/
def aside (palette : Palette) (text : String) : String :=
  line ("  " ++ palette.paint [.dimmed] text)

/-- The fault that a node ends in, with its kind above and the advice below. -/
def fault (palette : Palette) (node : String) (fault : Fault) : String :=
  palette.error (palette.paint [.bold] node ++ ": " ++ fault.category) ++
    line ("    " ++ fault.message) ++
    line ("    " ++ palette.paint [.dimmed] fault.advice)

end Palette

end Console
end DesiredState
