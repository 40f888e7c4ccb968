import DesiredState.Json.Basic

/-!
# JSON tokens

**Algorithm.** The characters of a text are read one by one into a state: between
tokens, in a string, after a backslash, in the four hexadecimal digits of a code
unit, or in a word. Anything but blanks, quotes and the six marks belongs to a
word; a finished word is one of three literals or a number.

**Strings.** Code units that are written in hexadecimal are joined in pairs. Half
of a pair makes the string unreadable.

**Numbers.** Without fraction and exponent, a number within 64 bits is an
integer, except for the negative zero. Of any other number the leading digits
that fit into 64 bits are rounded to a double and scaled.
-/

namespace DesiredState
namespace Json

/-- A token of a JSON text. -/
inductive Token where
  | openBrace
  | closeBrace
  | openBracket
  | closeBracket
  | colon
  | comma
  /-- A string, unless it holds half of a surrogate pair. -/
  | string (value : Option String)
  /-- A literal or a number. -/
  | scalar (value : Json)
deriving Repr

section Numbers

/-- The value of a decimal digit. -/
def digitValue (c : Char) : Nat :=
  c.toNat - '0'.toNat

/-- The greatest significand that is kept. -/
def largestSignificand : Nat :=
  Nat.pow 2 64 - 1

/-- Extend a significand by leading digits, as long as it fits into 64 bits. The
result holds how many were taken and how many are left. -/
def extend (significand : Nat) : List Char → Nat × Nat × Nat
  | [] => (significand, 0, 0)
  | c :: rest =>
      let next := significand * 10 + digitValue c
      if next ≤ largestSignificand then
        let (result, taken, left) := extend next rest
        (result, taken + 1, left)
      else (significand, 0, rest.length + 1)

/-- A text of at least one digit, read as a number. -/
def naturalOf? (digits : List Char) : Option Nat :=
  if digits.isEmpty || !digits.all Char.isDigit then none
  else some (digits.foldl (fun n c => n * 10 + digitValue c) 0)

/-- The exponent of a number, with its sign. -/
def exponentOf? : List Char → Option Int
  | '+' :: digits => (naturalOf? digits).map fun n => (n : Int)
  | '-' :: digits => (naturalOf? digits).map fun n => -(n : Int)
  | digits => (naturalOf? digits).map fun n => (n : Int)

/-- A whole number; it is an integer within 64 bits, and the zero has no
negative. -/
def wholeNumber (negative : Bool) (digits : List Char) : Json :=
  let (significand, _, left) := extend 0 digits
  if left = 0 ∧ negative = false ∧ significand < Nat.pow 2 63 then
    .integer significand
  else if left = 0 ∧ negative = true ∧ 0 < significand ∧ significand ≤ Nat.pow 2 63 then
    .integer (-(significand : Int))
  else
    match Double.ofScaledDecimal? significand left with
    | some value => .float (value.withSign negative)
    | none => .unreadable

/-- A number with a fraction or an exponent. -/
def fractionalNumber (negative : Bool) (whole fraction : List Char)
    (exponent : Int) : Json :=
  let (significand, _, left) := extend 0 whole
  let (significand, taken, _) := extend significand fraction
  match Double.ofScaledDecimal? significand (left - taken + exponent) with
  | some value => .float (value.withSign negative)
  | none => .unreadable

/-- The digits before the point: a single zero, or digits that start with
another one. -/
def isWholePart : List Char → Bool
  | ['0'] => true
  | c :: rest => c ≠ '0' && c.isDigit && rest.all Char.isDigit
  | [] => false

/-- A number without its sign. -/
def magnitudeOf? (negative : Bool) (cs : List Char) : Option Json :=
  let whole := cs.takeWhile Char.isDigit
  let afterWhole := cs.dropWhile Char.isDigit
  if !isWholePart whole then none
  else
    match afterWhole with
    | [] => some (wholeNumber negative whole)
    | '.' :: rest =>
        let fraction := rest.takeWhile Char.isDigit
        if fraction.isEmpty then none
        else
          match rest.dropWhile Char.isDigit with
          | [] => some (fractionalNumber negative whole fraction 0)
          | c :: exponent =>
              if c = 'e' || c = 'E' then
                (exponentOf? exponent).map (fractionalNumber negative whole fraction)
              else none
    | c :: exponent =>
        if c = 'e' || c = 'E' then
          (exponentOf? exponent).map (fractionalNumber negative whole [])
        else none

/-- The value of a word. -/
def wordValue? (word : List Char) : Option Json :=
  if word = ['n', 'u', 'l', 'l'] then some .null
  else if word = ['t', 'r', 'u', 'e'] then some (.boolean true)
  else if word = ['f', 'a', 'l', 's', 'e'] then some (.boolean false)
  else
    match word with
    | '-' :: rest => magnitudeOf? true rest
    | _ => magnitudeOf? false word

end Numbers

section Strings

/-- A character of a string, or a code unit of 16 bits written in
hexadecimal. -/
inductive Unit16 where
  | plain (c : Char)
  | code (unit : Nat)
deriving Repr

/-- The first half of a surrogate pair. -/
def isLeading (unit : Nat) : Bool :=
  0xD800 ≤ unit && unit < 0xDC00

/-- The second half of a surrogate pair. -/
def isTrailing (unit : Nat) : Bool :=
  0xDC00 ≤ unit && unit < 0xE000

/-- The characters of a string; none when half of a surrogate pair stands
alone. -/
def joinUnits : List Unit16 → Option (List Char)
  | [] => some []
  | .plain c :: rest => (joinUnits rest).map (c :: ·)
  | .code first :: .code second :: rest =>
      if isLeading first then
        if isTrailing second then
          (joinUnits rest).map
            (Char.ofNat (0x10000 + (first - 0xD800) * 0x400 + (second - 0xDC00)) :: ·)
        else none
      else if isTrailing first then none
      else (joinUnits (.code second :: rest)).map (Char.ofNat first :: ·)
  | .code unit :: rest =>
      if isLeading unit || isTrailing unit then none
      else (joinUnits rest).map (Char.ofNat unit :: ·)

/-- The value of a hexadecimal digit. -/
def hexValue? (c : Char) : Option Nat :=
  if c.isDigit then some (digitValue c)
  else if 'a' ≤ c && c ≤ 'f' then some (c.toNat - 'a'.toNat + 10)
  else if 'A' ≤ c && c ≤ 'F' then some (c.toNat - 'A'.toNat + 10)
  else none

/-- The character that a letter after a backslash stands for. -/
def escaped? (c : Char) : Option Char :=
  if c = '"' || c = '\\' || c = '/' then some c
  else if c = 'b' then some '\x08'
  else if c = 'f' then some '\x0c'
  else if c = 'n' then some '\n'
  else if c = 'r' then some '\r'
  else if c = 't' then some '\t'
  else none

end Strings

section Reading

/-- Where the reading of a text stands. Units and digits are held in reverse. -/
inductive Mode where
  | between
  | word (read : List Char)
  | string (read : List Unit16)
  | escape (read : List Unit16)
  | code (read : List Unit16) (digits : List Nat)
deriving Repr

/-- The tokens read so far, in reverse, and where the reading stands. -/
structure LexState where
  tokens : List Token
  mode : Mode
deriving Repr

/-- A blank between tokens. -/
def isSpace (c : Char) : Bool :=
  c = ' ' || c = '\t' || c = '\n' || c = '\r'

/-- The token of a mark. -/
def mark? (c : Char) : Option Token :=
  if c = '{' then some .openBrace
  else if c = '}' then some .closeBrace
  else if c = '[' then some .openBracket
  else if c = ']' then some .closeBracket
  else if c = ':' then some .colon
  else if c = ',' then some .comma
  else none

/-- Read one character between tokens. -/
def readBetween (tokens : List Token) (c : Char) : LexState :=
  if isSpace c then ⟨tokens, .between⟩
  else if c = '"' then ⟨tokens, .string []⟩
  else
    match mark? c with
    | some token => ⟨token :: tokens, .between⟩
    | none => ⟨tokens, .word [c]⟩

/-- A character that ends a word. -/
def endsWord (c : Char) : Bool :=
  isSpace c || c = '"' || (mark? c).isSome

/-- Read one character. -/
def readChar (state : LexState) (c : Char) : Option LexState :=
  match state.mode with
  | .between => some (readBetween state.tokens c)
  | .word read =>
      if endsWord c then
        (wordValue? read.reverse).map fun value =>
          readBetween (.scalar value :: state.tokens) c
      else some ⟨state.tokens, .word (c :: read)⟩
  | .string read =>
      if c = '"' then
        some ⟨.string ((joinUnits read.reverse).map String.ofList) :: state.tokens,
          .between⟩
      else if c = '\\' then some ⟨state.tokens, .escape read⟩
      else if c.toNat < 0x20 then none
      else some ⟨state.tokens, .string (.plain c :: read)⟩
  | .escape read =>
      if c = 'u' then some ⟨state.tokens, .code read []⟩
      else (escaped? c).map fun e => ⟨state.tokens, .string (.plain e :: read)⟩
  | .code read digits =>
      (hexValue? c).map fun digit =>
        match digits with
        | [third, second, first] =>
            ⟨state.tokens,
              .string (.code (((first * 16 + second) * 16 + third) * 16 + digit) :: read)⟩
        | _ => ⟨state.tokens, .code read (digit :: digits)⟩

/-- The tokens of a text. -/
def tokens? (cs : List Char) : Option (List Token) :=
  match cs.foldlM readChar ⟨[], .between⟩ with
  | some ⟨tokens, .between⟩ => some tokens.reverse
  | some ⟨tokens, .word read⟩ =>
      (wordValue? read.reverse).map fun value => (.scalar value :: tokens).reverse
  | _ => none

end Reading

end Json
end DesiredState
