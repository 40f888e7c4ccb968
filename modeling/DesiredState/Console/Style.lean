/-!
# Styled texts

**Rule.** On a terminal with colours, a styled text stands between the escape
sequence of its effects and the sequence that ends all effects. Where the text
itself ends all effects, its own effects are taken up again. On any other terminal
the text stands alone.
-/

namespace DesiredState
namespace Console

/-- An effect of a terminal. -/
inductive Effect where
  | bold
  | dimmed
  | red
  | green
  | yellow
  | blue
  | cyan
deriving DecidableEq, Repr

/-- The number of an effect in an escape sequence. -/
def Effect.code : Effect → String
  | .bold => "1"
  | .dimmed => "2"
  | .red => "31"
  | .green => "32"
  | .yellow => "33"
  | .blue => "34"
  | .cyan => "36"

/-- What a terminal can show. -/
structure Palette where
  hasColors : Bool
deriving DecidableEq, Repr, Inhabited

namespace Palette

/-- The escape sequence that ends all effects. -/
def reset : List Char :=
  ['\x1b', '[', '0', 'm']

/-- The escape sequence that starts some effects. -/
def start (effects : List Effect) : List Char :=
  ['\x1b', '['] ++ (String.intercalate ";" (effects.map Effect.code)).toList ++ ['m']

/-- Put a sequence after each end of all effects. -/
def resume (sequence : List Char) : List Char → List Char
  | '\x1b' :: '[' :: '0' :: 'm' :: rest => reset ++ sequence ++ resume sequence rest
  | c :: rest => c :: resume sequence rest
  | [] => []

/-- The text with some effects. -/
def paint (palette : Palette) (effects : List Effect) (text : String) : String :=
  if palette.hasColors && !effects.isEmpty then
    String.ofList (start effects ++ resume (start effects) text.toList ++ reset)
  else text

/-- A terminal without colours shows the text alone. -/
theorem paint_of_not_hasColors {palette : Palette} (h : palette.hasColors = false)
    (effects : List Effect) (text : String) : palette.paint effects text = text := by
  simp [paint, h]

end Palette

/-- The text, filled up with blanks at its end to a width. -/
def padRight (width : Nat) (text : String) : String :=
  text ++ "".pushn ' ' (width - text.length)

end Console
end DesiredState
