import DesiredState.Toml.Scalar
import DesiredState.Toml.Table
import DesiredState.Toml.Token

/-!
# Reading TOML

**Algorithm.** The tokens of a document are read one by one against the tables
built so far, the table that the last header opened, and a stack of the arrays
and braces that are open. Each line is blank, a header, or a key with its value.
-/

namespace DesiredState
namespace Toml

/-- What a key is read for. -/
inductive KeyPurpose where
  | assignment
  | header
  | arrayHeader
deriving DecidableEq, Repr

/-- An array or a table between braces that is open. The items of an array are
kept in reverse, and so are the parts of the key whose value is read. -/
inductive Frame where
  | array (items : List Item)
  | braces (entries : Entries) (key : List String)
deriving Repr

/-- What is expected next. -/
inductive Expected where
  | line
  | lineEnd
  /-- The key of a header, or the second bracket of an array's header. -/
  | headerKey
  /-- More of a key, its parts in reverse; `open` tells whether a part is to
  come. -/
  | key (purpose : KeyPurpose) (parts : List String) (isOpen : Bool)
  /-- The second closing bracket of an array's header. -/
  | secondBracket (parts : List String)
  | value
  | itemOrClose
  | commaOrBracket
  | keyOrClose
  | commaOrBrace
deriving Repr

/-- The tables built so far, the path of the one that the last header opened, the
parts of the key whose value is read, in reverse, and what is open. -/
structure ReadState where
  document : Entries
  table : List String
  key : List String
  frames : List Frame
  expected : Expected
deriving Repr

/-- Part of a key. -/
inductive KeyPiece where
  | part (name : String)
  | dot
deriving Repr

/-- A character of a key without quotes. -/
def isKeyChar (c : Char) : Bool :=
  c.isAlphanum || c = '_' || c = '-'

/-- The part of a key that some characters make up, unless there are none. -/
def partPieces (chars : List Char) : List KeyPiece :=
  if chars.isEmpty then [] else [.part (String.ofList chars)]

/-- The pieces of a key that a word makes up. -/
def keyPieces : List Char → List Char → List KeyPiece
  | read, [] => partPieces read.reverse
  | read, c :: rest =>
      if c = '.' then partPieces read.reverse ++ .dot :: keyPieces [] rest
      else keyPieces (c :: read) rest

/-- Extend a key by a piece; parts and dots take turns. -/
def addPiece (key : List String × Bool) (piece : KeyPiece) :
    Option (List String × Bool) :=
  match piece, key with
  | .part name, (parts, true) => some (name :: parts, false)
  | .dot, (parts, false) => some (parts, true)
  | _, _ => none

/-- Extend a key by a token, if the token belongs to a key. -/
def addToken (key : List String × Bool) : Token → Option (List String × Bool)
  | .word chars =>
      if chars.all fun c => isKeyChar c || c = '.' then
        (keyPieces [] chars).foldlM addPiece key
      else none
  | .string false name => addPiece key (.part name)
  | _ => none

/-- Put a finished value where it belongs. -/
def putValue (state : ReadState) (item : Item) : Option ReadState :=
  match state.frames with
  | [] =>
      match state.key with
      | [] => none
      | key :: path =>
          (state.document.assignIn? state.table path.reverse key item).map fun document =>
            { state with document := document, key := [], expected := .lineEnd }
  | .array items :: outer =>
      some { state with
        frames := .array (item :: items) :: outer, expected := .commaOrBracket }
  | .braces entries keys :: outer =>
      match keys with
      | [] => none
      | key :: path =>
          (entries.assign? path.reverse key item).map fun entries =>
            { state with
              frames := .braces entries [] :: outer, expected := .commaOrBrace }

/-- Keep a key whose value comes next. -/
def putKey (state : ReadState) (parts : List String) : ReadState :=
  match state.frames with
  | .braces entries _ :: outer =>
      { state with frames := .braces entries parts :: outer, expected := .value }
  | _ => { state with key := parts, expected := .value }

/-- Read one token where a value has to start. -/
def startValue (state : ReadState) : Token → Option ReadState
  | .word chars => (wordValue? chars).bind fun value => putValue state (.scalar value)
  | .string _ value => putValue state (.scalar (.string value))
  | .mark c _ =>
      if c = '[' then
        some { state with frames := .array [] :: state.frames, expected := .itemOrClose }
      else if c = '{' then
        some { state with frames := .braces [] [] :: state.frames, expected := .keyOrClose }
      else none
  | .lineEnd => none

/-- Close the innermost array or table between braces. -/
def closeFrame (state : ReadState) (c : Char) : Option ReadState :=
  match state.frames with
  | .array items :: outer =>
      if c = ']' then putValue { state with frames := outer } (.array items.reverse)
      else none
  | .braces entries _ :: outer =>
      if c = '}' then putValue { state with frames := outer } (.table .braces entries)
      else none
  | [] => none

/-- Read one token of a key that has been begun. -/
def readKey (state : ReadState) (purpose : KeyPurpose) (parts : List String)
    (isOpen : Bool) (token : Token) : Option ReadState :=
  match token, parts, isOpen, purpose with
  | .mark '=' _, _ :: _, false, .assignment => some (putKey state parts)
  | .mark ']' _, key :: path, false, .header =>
      (state.document.openTable? path.reverse key).map fun document =>
        { state with
          document := document, table := parts.reverse, expected := .lineEnd }
  | .mark ']' _, _ :: _, false, .arrayHeader =>
      some { state with expected := .secondBracket parts }
  | token, _, _, _ =>
      (addToken (parts, isOpen) token).map fun key =>
        { state with expected := .key purpose key.1 key.2 }

/-- Open the table of an array's header. -/
def openNext (state : ReadState) (parts : List String) : Option ReadState :=
  match parts with
  | [] => none
  | key :: path =>
      (state.document.openNext? path.reverse key).map fun document =>
        { state with
          document := document, table := parts.reverse, expected := .lineEnd }

/-- Read one token. -/
def readToken (state : ReadState) (token : Token) : Option ReadState :=
  match state.expected, token with
  | .line, .lineEnd => some state
  | .line, .mark '[' _ => some { state with expected := .headerKey }
  | .line, token => readKey state .assignment [] true token
  | .lineEnd, .lineEnd => some { state with expected := .line }
  | .lineEnd, _ => none
  | .headerKey, .mark '[' false => some { state with expected := .key .arrayHeader [] true }
  | .headerKey, token => readKey state .header [] true token
  | .key purpose parts isOpen, token => readKey state purpose parts isOpen token
  | .secondBracket parts, .mark ']' false => openNext state parts
  | .secondBracket _, _ => none
  | .value, token => startValue state token
  | .itemOrClose, .lineEnd => some state
  | .itemOrClose, .mark ']' _ => closeFrame state ']'
  | .itemOrClose, token => startValue state token
  | .commaOrBracket, .lineEnd => some state
  | .commaOrBracket, .mark ',' _ => some { state with expected := .itemOrClose }
  | .commaOrBracket, .mark ']' _ => closeFrame state ']'
  | .commaOrBracket, _ => none
  | .keyOrClose, .lineEnd => some state
  | .keyOrClose, .mark '}' _ => closeFrame state '}'
  | .keyOrClose, token => readKey state .assignment [] true token
  | .commaOrBrace, .lineEnd => some state
  | .commaOrBrace, .mark ',' _ => some { state with expected := .keyOrClose }
  | .commaOrBrace, .mark '}' _ => closeFrame state '}'
  | .commaOrBrace, _ => none

/-- The tables of a document, as a JSON object. -/
def read? (text : String) : Option Json :=
  match (tokens? text).bind fun tokens =>
      tokens.foldlM readToken ⟨[], [], [], [], .line⟩ with
  | some ⟨document, _, _, [], .line⟩ => some (.object (entriesToJson document))
  | some ⟨document, _, _, [], .lineEnd⟩ => some (.object (entriesToJson document))
  | _ => none

end Toml
end DesiredState
