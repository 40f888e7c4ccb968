import DesiredState.Json.Token

/-!
# TOML tokens

**Algorithm.** The characters of a document are read one by one into a state. A
word is a run of letters, digits, underscores, signs and dots; whether it is a
key or a number is told later. Strings are basic or literal, on one line or on
several; comments and blanks leave no token, and the end of a line leaves one.

**Strings on several lines.** A line end just after the opening quotes does not
count, a line ends in a line feed however it is written, one or two quotes may
stand inside and just before the closing ones, and in a basic string a backslash
at the end of a line removes all blanks and line ends that follow.
-/

namespace DesiredState
namespace Toml

/-- A token of a TOML document. -/
inductive Token where
  | lineEnd
  | word (chars : List Char)
  /-- A string; `multiline` tells whether it was written between three quotes. -/
  | string (multiline : Bool) (value : String)
  /-- One of the six marks; `spaced` tells whether a blank stands before it. -/
  | mark (c : Char) (spaced : Bool)
deriving DecidableEq, Repr

/-- Where the reading of a document stands. Characters are held in reverse. -/
inductive Mode where
  | between (spaced : Bool)
  /-- After a carriage return that has to end a line. -/
  | lineFeed
  | comment
  | word (read : List Char)
  /-- After one or two quotes that open a string. -/
  | opened (quote : Char) (count : Nat)
  /-- After the three quotes that open a string. -/
  | firstLine (quote : Char)
  | firstLineFeed (quote : Char)
  | body (quote : Char) (multiline : Bool) (read : List Char)
  /-- After a carriage return inside a string. -/
  | bodyLineFeed (quote : Char) (read : List Char)
  /-- After some quotes inside a string on several lines. -/
  | quotes (quote : Char) (read : List Char) (count : Nat)
  | escape (multiline : Bool) (read : List Char)
  /-- In the hexadecimal digits of a code point, with how many are to come. -/
  | code (multiline : Bool) (read : List Char) (left value : Nat)
  /-- After a backslash that removes blanks; a line end has to be among them. -/
  | removal (read : List Char) (lineEnded : Bool)
  | removalLineFeed (read : List Char)
deriving Repr

/-- The tokens read so far, in reverse, and where the reading stands. -/
structure LexState where
  tokens : List Token
  mode : Mode
deriving Repr

/-- A character of a word. -/
def isWordChar (c : Char) : Bool :=
  c.isAlphanum || c = '_' || c = '-' || c = '+' || c = '.'

/-- One of the six marks. -/
def isMark (c : Char) : Bool :=
  c = '=' || c = ',' || c = '[' || c = ']' || c = '{' || c = '}'

/-- A control character that no comment and no string holds as it is. -/
def isForbidden (c : Char) : Bool :=
  (c.toNat < 0x20 && c ≠ '\t') || c.toNat = 0x7F

/-- Read one character between tokens. -/
def readBetween (tokens : List Token) (spaced : Bool) (c : Char) : Option LexState :=
  if c = ' ' || c = '\t' then some ⟨tokens, .between true⟩
  else if c = '\n' then some ⟨.lineEnd :: tokens, .between false⟩
  else if c = '\r' then some ⟨tokens, .lineFeed⟩
  else if c = '#' then some ⟨tokens, .comment⟩
  else if c = '"' || c = '\'' then some ⟨tokens, .opened c 1⟩
  else if isMark c then some ⟨.mark c spaced :: tokens, .between false⟩
  else if isWordChar c then some ⟨tokens, .word [c]⟩
  else none

/-- The string token of some characters in reverse. -/
def stringToken (multiline : Bool) (read : List Char) : Token :=
  .string multiline (String.ofList read.reverse)

/-- Read one character inside a string. -/
def readBody (tokens : List Token) (quote : Char) (multiline : Bool)
    (read : List Char) (c : Char) : Option LexState :=
  if c = quote then
    if multiline then some ⟨tokens, .quotes quote read 1⟩
    else some ⟨stringToken false read :: tokens, .between false⟩
  else if c = '\\' && quote = '"' then some ⟨tokens, .escape multiline read⟩
  else if multiline && c = '\n' then some ⟨tokens, .body quote true ('\n' :: read)⟩
  else if multiline && c = '\r' then some ⟨tokens, .bodyLineFeed quote read⟩
  else if isForbidden c then none
  else some ⟨tokens, .body quote multiline (c :: read)⟩

/-- The character that a letter after a backslash stands for. -/
def escaped? (c : Char) : Option Char :=
  if c = '"' || c = '\\' then some c
  else if c = 'b' then some '\x08'
  else if c = 't' then some '\t'
  else if c = 'n' then some '\n'
  else if c = 'f' then some '\x0c'
  else if c = 'r' then some '\r'
  else if c = 'e' then some '\x1b'
  else none

/-- The number of hexadecimal digits after a backslash and a letter. -/
def codeLength? (c : Char) : Option Nat :=
  if c = 'x' then some 2
  else if c = 'u' then some 4
  else if c = 'U' then some 8
  else none

/-- Read the character after a backslash. -/
def readEscape (tokens : List Token) (multiline : Bool) (read : List Char)
    (c : Char) : Option LexState :=
  match escaped? c, codeLength? c with
  | some e, _ => some ⟨tokens, .body '"' multiline (e :: read)⟩
  | none, some length => some ⟨tokens, .code multiline read length 0⟩
  | none, none =>
      if !multiline then none
      else if c = ' ' || c = '\t' then some ⟨tokens, .removal read false⟩
      else if c = '\n' then some ⟨tokens, .removal read true⟩
      else if c = '\r' then some ⟨tokens, .removalLineFeed read⟩
      else none

/-- The character of a code point. -/
def charOfCode? (code : Nat) : Option Char :=
  if code < 0xD800 ∨ (0xE000 ≤ code ∧ code < 0x110000) then some (Char.ofNat code)
  else none

/-- Read a hexadecimal digit of a code point. -/
def readCode (tokens : List Token) (multiline : Bool) (read : List Char)
    (left value : Nat) (c : Char) : Option LexState :=
  match Json.hexValue? c with
  | none => none
  | some digit =>
      let value := value * 16 + digit
      if 1 < left then some ⟨tokens, .code multiline read (left - 1) value⟩
      else
        (charOfCode? value).map fun c => ⟨tokens, .body '"' multiline (c :: read)⟩

/-- Close a string on several lines after a run of quotes. -/
def closeQuotes (tokens : List Token) (quote : Char) (read : List Char)
    (count : Nat) : List Token :=
  stringToken true (List.replicate (count - 3) quote ++ read) :: tokens

/-- Read one character. -/
def readChar (state : LexState) (c : Char) : Option LexState :=
  let tokens := state.tokens
  match state.mode with
  | .between spaced => readBetween tokens spaced c
  | .lineFeed =>
      if c = '\n' then some ⟨.lineEnd :: tokens, .between false⟩ else none
  | .comment =>
      if c = '\n' then some ⟨.lineEnd :: tokens, .between false⟩
      else if c = '\r' then some ⟨tokens, .lineFeed⟩
      else if isForbidden c then none
      else some ⟨tokens, .comment⟩
  | .word read =>
      if isWordChar c then some ⟨tokens, .word (c :: read)⟩
      else readBetween (.word read.reverse :: tokens) false c
  | .opened quote 1 =>
      if c = quote then some ⟨tokens, .opened quote 2⟩
      else readBody tokens quote false [] c
  | .opened quote _ =>
      if c = quote then some ⟨tokens, .firstLine quote⟩
      else readBetween (stringToken false [] :: tokens) false c
  | .firstLine quote =>
      if c = '\n' then some ⟨tokens, .body quote true []⟩
      else if c = '\r' then some ⟨tokens, .firstLineFeed quote⟩
      else readBody tokens quote true [] c
  | .firstLineFeed quote =>
      if c = '\n' then some ⟨tokens, .body quote true []⟩ else none
  | .body quote multiline read => readBody tokens quote multiline read c
  | .bodyLineFeed quote read =>
      if c = '\n' then some ⟨tokens, .body quote true ('\n' :: read)⟩ else none
  | .quotes quote read count =>
      if c = quote then
        if count < 5 then some ⟨tokens, .quotes quote read (count + 1)⟩ else none
      else if count < 3 then
        readBody tokens quote true (List.replicate count quote ++ read) c
      else readBetween (closeQuotes tokens quote read count) false c
  | .escape multiline read => readEscape tokens multiline read c
  | .code multiline read left value => readCode tokens multiline read left value c
  | .removal read lineEnded =>
      if c = ' ' || c = '\t' then some ⟨tokens, .removal read lineEnded⟩
      else if c = '\n' then some ⟨tokens, .removal read true⟩
      else if c = '\r' then some ⟨tokens, .removalLineFeed read⟩
      else if lineEnded then readBody tokens '"' true read c
      else none
  | .removalLineFeed read =>
      if c = '\n' then some ⟨tokens, .removal read true⟩ else none

/-- The tokens of a document whose reading has come to its end. -/
def finish? (state : LexState) : Option (List Token) :=
  match state.mode with
  | .between _ => some state.tokens.reverse
  | .comment => some state.tokens.reverse
  | .word read => some (.word read.reverse :: state.tokens).reverse
  | .opened _ 2 => some (stringToken false [] :: state.tokens).reverse
  | .quotes quote read count =>
      if count < 3 then none
      else some (closeQuotes state.tokens quote read count).reverse
  | _ => none

/-- The characters without a byte order mark in front. -/
def dropByteOrderMark : List Char → List Char
  | [] => []
  | c :: rest => if c.toNat = 0xFEFF then rest else c :: rest

/-- The tokens of a document. -/
def tokens? (text : String) : Option (List Token) :=
  ((dropByteOrderMark text.toList).foldlM readChar ⟨[], .between false⟩).bind finish?

end Toml
end DesiredState
