import DesiredState.Json.Basic
import DesiredState.Text.Quoted

/-!
# Printing JSON

**Rule.** In a string, the quote and the backslash take a backslash, five control
characters have a letter, and the other control characters are written as code
units. An indented text puts every item of an array and every field of an object
on a line of its own, two blanks deeper than what encloses it; an empty one stands
on one line. A compact text has no blanks.
-/

namespace DesiredState
namespace Json

/-- Four lower-case hexadecimal digits of a code unit. -/
def fourHexDigits (unit : Nat) : List Char :=
  let digits := Text.hexDigits unit
  List.replicate (4 - digits.length) '0' ++ digits

/-- A character inside a string. -/
def escapeChar (c : Char) : List Char :=
  if c = '"' then ['\\', '"']
  else if c = '\\' then ['\\', '\\']
  else if c = '\x08' then ['\\', 'b']
  else if c = '\x0c' then ['\\', 'f']
  else if c = '\n' then ['\\', 'n']
  else if c = '\r' then ['\\', 'r']
  else if c = '\t' then ['\\', 't']
  else if c.toNat < 0x20 then ['\\', 'u'] ++ fourHexDigits c.toNat
  else [c]

/-- A string between quotes. -/
def stringText (s : String) : String :=
  "\"" ++ String.ofList (s.toList.flatMap escapeChar) ++ "\""

/-- The text of a value that holds no others. -/
def scalarText : Json → String
  | .boolean value => RawValue.booleanText value
  | .integer value => toString value
  | .float value => value.text
  | .string value => stringText value
  | _ => "null"

/-- The start of a line at a depth. -/
def lineStart (depth : Nat) : String :=
  "\n" ++ "".pushn ' ' (2 * depth)

mutual

/-- The indented text of a value at a depth. -/
def prettyAt (depth : Nat) : Json → String
  | .array [] => "[]"
  | .array items =>
      "[" ++ String.intercalate "," (prettyItems (depth + 1) items) ++
        lineStart depth ++ "]"
  | .object [] => "\x7b\x7d"
  | .object fields =>
      "\x7b" ++ String.intercalate "," (prettyFields (depth + 1) fields) ++
        lineStart depth ++ "\x7d"
  | json => scalarText json

/-- The indented texts of some items, each on a line of its own. -/
def prettyItems (depth : Nat) : List Json → List String
  | [] => []
  | item :: rest => (lineStart depth ++ prettyAt depth item) :: prettyItems depth rest

/-- The indented texts of some fields, each on a line of its own. -/
def prettyFields (depth : Nat) : List (String × Json) → List String
  | [] => []
  | (name, value) :: rest =>
      (lineStart depth ++ stringText name ++ ": " ++ prettyAt depth value) ::
        prettyFields depth rest

end

/-- The indented text of a value. -/
def pretty (json : Json) : String :=
  prettyAt 0 json

mutual

/-- The text of a value without blanks. -/
def compact : Json → String
  | .array items => "[" ++ String.intercalate "," (compactItems items) ++ "]"
  | .object fields =>
      "\x7b" ++ String.intercalate "," (compactFields fields) ++ "\x7d"
  | json => scalarText json

/-- The texts of some items. -/
def compactItems : List Json → List String
  | [] => []
  | item :: rest => item.compact :: compactItems rest

/-- The texts of some fields. -/
def compactFields : List (String × Json) → List String
  | [] => []
  | (name, value) :: rest =>
      (stringText name ++ ":" ++ value.compact) :: compactFields rest

end

end Json
end DesiredState
