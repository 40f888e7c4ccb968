import DesiredState.RawValue
import DesiredState.KeyMap

/-!
# JSON values

**Type.** A JSON value, with numbers told apart as integers of 64 bits and
doubles, and the fields of an object in the order in which they are written.
A text can hold a well-formed value that stands for nothing that can be kept: a
string with half of a surrogate pair, a number past the largest double, or an
object with such a string for a name.
-/

namespace DesiredState

/-- A JSON value. -/
inductive Json where
  | null
  | boolean (value : Bool)
  | integer (value : Int)
  | float (value : Double)
  | string (value : String)
  | array (items : List Json)
  | object (fields : List (String × Json))
  /-- A well-formed value that cannot be kept. -/
  | unreadable
deriving Repr, Inhabited

namespace Json

/-- The value of the last field of a name. -/
def lastOf (name : String) (fields : List (String × Json)) : Option Json :=
  (fields.reverse.find? fun field => field.1 = name).map Prod.snd

/-- The value of a field of an object, of several with one name the last. -/
def field? (json : Json) (name : String) : Option Json :=
  match json with
  | .object fields => lastOf name fields
  | _ => none

/-- The string of a JSON string. -/
def string? : Json → Option String
  | .string value => some value
  | _ => none

/-- The items of a JSON array. -/
def array? : Json → Option (List Json)
  | .array items => some items
  | _ => none

/-- The fields of a JSON object. -/
def object? : Json → Option (List (String × Json))
  | .object fields => some fields
  | _ => none

mutual

/-- How deep arrays and objects are nested in a value. -/
def depth : Json → Nat
  | .array items => 1 + depthOfItems items
  | .object fields => 1 + depthOfFields fields
  | _ => 0

/-- The greatest depth among some items. -/
def depthOfItems : List Json → Nat
  | [] => 0
  | item :: rest => max item.depth (depthOfItems rest)

/-- The greatest depth among the values of some fields. -/
def depthOfFields : List (String × Json) → Nat
  | [] => 0
  | (_, value) :: rest => max value.depth (depthOfFields rest)

end

mutual

/-- The raw value of a JSON value; `null` and what cannot be kept have none. -/
def toRaw? : Json → Option RawValue
  | .null => none
  | .unreadable => none
  | .boolean value => some (.boolean value)
  | .integer value => some (.integer value)
  | .float value => some (.float value)
  | .string value => some (.text value)
  | .array items => (toRawItems? items).map .list
  | .object fields =>
      (toRawFields? fields).map fun entries => .mapping (KeyMap.ofList entries).entries

/-- The raw values of some items, if all have one. -/
def toRawItems? : List Json → Option (List RawValue)
  | [] => some []
  | item :: rest =>
      match item.toRaw?, toRawItems? rest with
      | some raw, some raws => some (raw :: raws)
      | _, _ => none

/-- The raw values of some fields, if all have one. -/
def toRawFields? : List (String × Json) → Option (List (String × RawValue))
  | [] => some []
  | (name, value) :: rest =>
      match value.toRaw?, toRawFields? rest with
      | some raw, some raws => some ((name, raw) :: raws)
      | _, _ => none

end

/-- The raw values of the fields of an object, by name. -/
def toRawMap? (json : Json) : Option (KeyMap RawValue) :=
  json.object?.bind fun fields => (toRawFields? fields).map .ofList

end Json
end DesiredState
