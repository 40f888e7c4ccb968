import DesiredState.Json.Token

/-!
# Reading JSON

**Algorithm.** The tokens of a text are read one by one against a stack of the
arrays and objects that are open. What is expected next depends on the innermost
one: a value, a name, a colon, or a comma or the closing mark. The text is one
value when the stack is empty again at its end.
-/

namespace DesiredState
namespace Json

/-- An array or object that is open. What it holds is kept in reverse; of an
object also the name of the value to come, and whether a name was missing because
it cannot be kept. -/
inductive Frame where
  | array (items : List Json)
  | object (fields : List (String × Json)) (damaged : Bool) (name : Option String)
deriving Repr

/-- What is expected next. -/
inductive Expected where
  | value
  /-- A value, or the end of an array. -/
  | valueOrClose
  | name
  /-- A name, or the end of an object. -/
  | nameOrClose
  | colon
  | commaOrClose
  /-- The text has been read to its end. -/
  | nothing (result : Json)
deriving Repr

/-- What is open, the innermost first, and what is expected next. -/
structure ReadState where
  frames : List Frame
  expected : Expected
deriving Repr

/-- Put a finished value into the innermost frame. -/
def putValue (frames : List Frame) (value : Json) : ReadState :=
  match frames with
  | [] => ⟨[], .nothing value⟩
  | .array items :: outer => ⟨.array (value :: items) :: outer, .commaOrClose⟩
  | .object fields damaged (some name) :: outer =>
      ⟨.object ((name, value) :: fields) damaged none :: outer, .commaOrClose⟩
  | .object fields _ none :: outer =>
      ⟨.object fields true none :: outer, .commaOrClose⟩

/-- Keep the name of the value to come. -/
def putName (frames : List Frame) (name : Option String) : Option ReadState :=
  match frames with
  | .object fields damaged _ :: outer =>
      some ⟨.object fields damaged name :: outer, .colon⟩
  | _ => none

/-- The value of a string token. -/
def stringValue : Option String → Json
  | some value => .string value
  | none => .unreadable

/-- Read one token where a value may start. -/
def startValue (frames : List Frame) : Token → Option ReadState
  | .scalar value => some (putValue frames value)
  | .string value => some (putValue frames (stringValue value))
  | .openBracket => some ⟨.array [] :: frames, .valueOrClose⟩
  | .openBrace => some ⟨.object [] false none :: frames, .nameOrClose⟩
  | _ => none

/-- Close the innermost array or object. -/
def closeFrame (frames : List Frame) (token : Token) : Option ReadState :=
  match frames, token with
  | .array items :: outer, .closeBracket =>
      some (putValue outer (.array items.reverse))
  | .object fields false _ :: outer, .closeBrace =>
      some (putValue outer (.object fields.reverse))
  | .object _ true _ :: outer, .closeBrace => some (putValue outer .unreadable)
  | _, _ => none

/-- Read one token. -/
def readToken (state : ReadState) (token : Token) : Option ReadState :=
  match state.expected, token with
  | .value, token => startValue state.frames token
  | .valueOrClose, .closeBracket => closeFrame state.frames .closeBracket
  | .valueOrClose, token => startValue state.frames token
  | .name, .string name => putName state.frames name
  | .nameOrClose, .string name => putName state.frames name
  | .nameOrClose, .closeBrace => closeFrame state.frames .closeBrace
  | .colon, .colon => some ⟨state.frames, .value⟩
  | .commaOrClose, .comma =>
      match state.frames with
      | .array _ :: _ => some ⟨state.frames, .value⟩
      | .object _ _ _ :: _ => some ⟨state.frames, .name⟩
      | [] => none
  | .commaOrClose, token => closeFrame state.frames token
  | _, _ => none

/-- The value of a JSON text. -/
def read? (text : String) : Option Json :=
  match (tokens? text.toList).bind fun tokens =>
      tokens.foldlM readToken ⟨[], .value⟩ with
  | some ⟨[], .nothing result⟩ => some result
  | _ => none

example : (read? "[1, \x7b\"a\": [true], \"b\": null\x7d]").isSome = true := by decide +kernel
example : (read? "[1 2]").isNone = true := by decide +kernel
example : (read? "\x7b\"a\": 1,\x7d").isNone = true := by decide +kernel

end Json
end DesiredState
