import DesiredState.Decimal.Shortest
import DesiredState.Text.Blank

/-!
# Raw values

**Type.** A raw value is what a parameter or a fact holds before any option
gives it a meaning: a boolean, an integer, a float, a text, a list or a mapping.

**Texts.** The first four are scalars and have a text. The display form names a
value in messages and does not spell out lists and mappings.
-/

namespace DesiredState

/-- A value as it is supplied. The entries of a mapping are in increasing order
of their names, each name once. -/
inductive RawValue where
  | boolean (value : Bool)
  | integer (value : Int)
  | float (value : Double)
  | text (value : String)
  | list (items : List RawValue)
  | mapping (entries : List (String × RawValue))
deriving Repr, Inhabited

namespace RawValue

/-- A text of blank characters counts as no value. -/
def isBlank : RawValue → Bool
  | .text value => Text.isBlankText value
  | _ => false

/-- The name of the value's type. -/
def typeName : RawValue → String
  | .boolean _ => "boolean"
  | .integer _ => "integer"
  | .float _ => "float"
  | .text _ => "string"
  | .list _ => "list"
  | .mapping _ => "mapping"

/-- The text of a boolean. -/
def booleanText (value : Bool) : String :=
  if value then "true" else "false"

/-- The text of a scalar. -/
def scalar? : RawValue → Option String
  | .boolean value => some (booleanText value)
  | .integer value => some (toString value)
  | .float value => some value.text
  | .text value => some value
  | .list _ => none
  | .mapping _ => none

/-- The value as messages show it. -/
def display : RawValue → String
  | .boolean value => booleanText value
  | .integer value => toString value
  | .float value => value.text
  | .text value => "\"" ++ value ++ "\""
  | .list items => "[list of " ++ toString items.length ++ "]"
  | .mapping entries => "\x7bmapping of " ++ toString entries.length ++ "\x7d"

/-- The type and the display form. -/
def description (raw : RawValue) : String :=
  raw.typeName ++ " " ++ raw.display

end RawValue
end DesiredState
