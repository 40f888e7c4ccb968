/-!
# Lines of a text

**Rule.** A line ends at a line feed, which belongs to no line, and a carriage
return just before it is dropped with it. What follows the last line feed is a
line when it is not empty.

**Short form.** For a table, a text is cut down to its first line, followed by
the number of further lines when there are any.
-/

namespace DesiredState
namespace Text

/-- Cut at every line feed; the last piece is what follows the last one. -/
def piecesAtLineFeed : List Char → List (List Char)
  | [] => [[]]
  | c :: rest =>
      if c = '\n' then [] :: piecesAtLineFeed rest
      else
        match piecesAtLineFeed rest with
        | [] => [[c]]
        | piece :: pieces => (c :: piece) :: pieces

/-- Drop one carriage return at the end. -/
def dropFinalReturn (cs : List Char) : List Char :=
  if cs.getLast? = some '\r' then cs.dropLast else cs

/-- The lines of a sequence of characters. -/
def linesOfChars (cs : List Char) : List (List Char) :=
  let pieces := piecesAtLineFeed cs
  let ended := pieces.dropLast.map dropFinalReturn
  match pieces.getLast? with
  | none => ended
  | some [] => ended
  | some tail => ended ++ [tail]

/-- The lines of a text. -/
def lines (s : String) : List String :=
  (linesOfChars s.toList).map String.ofList

/-- The first line, followed by the number of further lines when there are
any. -/
def firstLine (s : String) : String :=
  match lines s with
  | [] => ""
  | [line] => line
  | line :: rest => line ++ " … (+" ++ toString rest.length ++ " lines)"

end Text
end DesiredState
