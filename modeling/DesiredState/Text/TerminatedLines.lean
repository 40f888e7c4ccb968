/-!
# Lines with their ends

**Rule.** A line ends with a line feed, with a carriage return, or with both in this
order, and the end belongs to the line. What follows the last end is a line when it
is not empty.

**Results.** The lines, put together, are the text.
-/

namespace DesiredState
namespace Text

/-- Cut after every end of a line. `line` holds the characters of the line so far,
the last one first. -/
def cutLines (line : List Char) : List Char → List (List Char)
  | [] => if line.isEmpty then [] else [line.reverse]
  | '\r' :: '\n' :: rest => ('\n' :: '\r' :: line).reverse :: cutLines [] rest
  | '\r' :: rest => ('\r' :: line).reverse :: cutLines [] rest
  | '\n' :: rest => ('\n' :: line).reverse :: cutLines [] rest
  | c :: rest => cutLines (c :: line) rest

/-- The lines of a text, each with its end. -/
def terminatedLines (s : String) : List String :=
  (cutLines [] s.toList).map String.ofList

/-- The text ends like a line. -/
def endsLine (s : String) : Bool :=
  s.toList.getLast? = some '\n' || s.toList.getLast? = some '\r'

theorem flatten_cutLines (line cs : List Char) :
    (cutLines line cs).flatten = line.reverse ++ cs := by
  fun_induction cutLines line cs with
  | case1 line h => simp_all
  | case2 line h => simp
  | case3 line rest ih => simp [ih]
  | case4 line rest _ ih => simp [ih]
  | case5 line rest ih => simp [ih]
  | case6 line c rest _ _ _ ih => simp [ih]

end Text
end DesiredState
