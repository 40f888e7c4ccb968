import DesiredState.KeyMap
import DesiredState.RawValue

/-!
# Settings

**Types.** A switch is on, off or unset. A setting is the value of an option
once its kind has given the raw value a meaning: a switch, a text or nothing, or
a mapping of texts.

**Rule.** Each kind of option accepts a language of raw values and brings it to
a normal form. A missing value is always accepted. A switch takes a boolean or
one of four words, whatever their case and the blanks around them; a text takes
a scalar; a choice takes a scalar whose text is allowed once its ASCII letters
are lowered; a mapping takes a mapping of scalars.

**Errors.** A rejection says what was expected and what was found.
-/

namespace DesiredState

/-- The state of an on-off option. -/
inductive Switch where
  | on
  | off
  | unset
deriving DecidableEq, Repr, Inhabited

namespace Switch

/-- The switch of a boolean. -/
def ofBool (value : Bool) : Switch :=
  if value then .on else .off

/-- The text of the state. -/
def text : Switch → String
  | .on => "true"
  | .off => "false"
  | .unset => "unset"

/-- The state of a text. -/
def ofText? (name : String) : Option Switch :=
  [on, off, unset].find? fun switch => switch.text = name

/-- The boolean, or a default when the switch is unset. -/
def getD (switch : Switch) (default : Bool) : Bool :=
  match switch with
  | .on => true
  | .off => false
  | .unset => default

end Switch

/-- The value of an option in normal form. -/
inductive Setting where
  | switch (value : Switch)
  | text (value : Option String)
  | mapping (entries : KeyMap String)
deriving DecidableEq

namespace Setting

/-- The text of a setting that is set and no mapping. -/
def scalar? : Setting → Option String
  | .switch .unset => none
  | .switch value => some value.text
  | .text value => value
  | .mapping _ => none

end Setting

/-- Why a raw value is outside the language of an option's kind. -/
inductive Rejection where
  | notSwitch (found : String)
  | notText (found : String)
  | notAllowed (text : String) (allowed : List String)
  | notMapping (found : String)
  | notScalar (typeName key : String)
deriving DecidableEq, Repr

namespace Rejection

/-- What the kind expects. -/
def expected : Rejection → String
  | .notSwitch _ => "boolean-like (true/false/yes/no)"
  | .notText _ => "string"
  | .notAllowed _ _ => "one of the allowed choices"
  | .notMapping _ => "mapping"
  | .notScalar _ _ => "mapping of scalar values"

/-- What was supplied. -/
def found : Rejection → String
  | .notSwitch found => found
  | .notText found => found
  | .notAllowed text allowed =>
      "\"" ++ text ++ "\" (allowed: " ++ String.intercalate ", " allowed ++ ")"
  | .notMapping found => found
  | .notScalar typeName key => typeName ++ " under key '" ++ key ++ "'"

end Rejection

namespace RawValue

/-- The switch for a word, once it is trimmed and lowered. -/
def switchOfWord? (word : String) : Option Switch :=
  if word = "" then some .unset
  else if word = "true" || word = "yes" then some .on
  else if word = "false" || word = "no" then some .off
  else none

/-- Read a switch. -/
def toSwitch : Option RawValue → Except Rejection Switch
  | none => .ok .unset
  | some (.boolean value) => .ok (.ofBool value)
  | some (.text value) =>
      match switchOfWord? (Text.trim value).toLower with
      | some switch => .ok switch
      | none => .error (.notSwitch (RawValue.text value).description)
  | some raw => .error (.notSwitch raw.description)

/-- Read a text; a blank one counts as missing. -/
def toText : Option RawValue → Except Rejection (Option String)
  | none => .ok none
  | some raw =>
      if raw.isBlank then .ok none
      else
        match raw.scalar? with
        | some word => .ok (some word)
        | none => .error (.notText raw.description)

/-- Read a text that is one of the allowed choices. -/
def toChoice (allowed : List String) (raw : Option RawValue) :
    Except Rejection (Option String) :=
  match toText raw with
  | .error rejection => .error rejection
  | .ok none => .ok none
  | .ok (some word) =>
      if word.toLower ∈ allowed then .ok (some word.toLower)
      else .error (.notAllowed word allowed)

/-- The texts of the entries of a mapping, all of them scalars. -/
def scalarEntries : List (String × RawValue) →
    Except Rejection (List (String × String))
  | [] => .ok []
  | (key, value) :: rest =>
      match value.scalar? with
      | none => .error (.notScalar value.typeName key)
      | some word =>
          match scalarEntries rest with
          | .error rejection => .error rejection
          | .ok entries => .ok ((key, word) :: entries)

/-- Read a mapping of scalars. -/
def toMapping : Option RawValue → Except Rejection (KeyMap String)
  | none => .ok .empty
  | some (.mapping entries) =>
      match scalarEntries entries with
      | .error rejection => .error rejection
      | .ok texts => .ok (.ofList texts)
  | some raw => .error (.notMapping raw.description)

end RawValue

/-- What an option holds. -/
inductive OptionKind where
  | switch
  | text
  | choice (allowed : List String)
  | mapping
deriving DecidableEq, Repr

namespace OptionKind

/-- The kind as tables show it. -/
def display : OptionKind → String
  | .switch => "boolean-like"
  | .text => "string"
  | .choice allowed => "one of " ++ String.intercalate "|" allowed
  | .mapping => "mapping"

/-- The normal form of a raw value under a kind. -/
def normalize (kind : OptionKind) (raw : Option RawValue) :
    Except Rejection Setting :=
  match kind with
  | .switch => (RawValue.toSwitch raw).map .switch
  | .text => (RawValue.toText raw).map .text
  | .choice allowed => (RawValue.toChoice allowed raw).map .text
  | .mapping => (RawValue.toMapping raw).map .mapping

end OptionKind
end DesiredState
