import DesiredState.Json.Token

/-!
# TOML words as values

**Rule.** A word that stands for a value is a boolean, an integer, a float, an
infinity or the value that is not a number. Underscores may stand between digits
only. A decimal integer may have a sign and no leading zero; hexadecimal, octal
and binary ones have neither. Integers have 64 bits; a positive one of 64 bits
without a sign bit becomes a float. A float past the largest double is refused.
-/

namespace DesiredState
namespace Toml

/-- The digits without the underscores between them, if each underscore stands
between two digits. -/
def plainDigits? (isDigit : Char → Bool) : List Char → Option (List Char)
  | [] => none
  | [c] => if isDigit c then some [c] else none
  | c :: '_' :: rest =>
      if isDigit c then (plainDigits? isDigit rest).map (c :: ·) else none
  | c :: rest =>
      if isDigit c then (plainDigits? isDigit rest).map (c :: ·) else none

/-- The number of some digits in a base. -/
def numberOf (base : Nat) (digits : List Char) : Nat :=
  digits.foldl (fun n c => n * base + (Json.hexValue? c).getD 0) 0

/-- An integer of 64 bits; a larger positive one of 64 bits without a sign bit is
a float. -/
def integerOf? (negative : Bool) (magnitude : Nat) : Option Json :=
  if negative then
    if magnitude ≤ Nat.pow 2 63 then some (.integer (-(magnitude : Int))) else none
  else if magnitude < Nat.pow 2 63 then some (.integer magnitude)
  else if magnitude < Nat.pow 2 64 then some (.float (Double.ofNat magnitude))
  else none

/-- An integer with a base in front. -/
def basedInteger? (base : Nat) (digits : List Char) : Option Json :=
  let isDigit (c : Char) : Bool :=
    match Json.hexValue? c with
    | some value => value < base
    | none => false
  (plainDigits? isDigit digits).bind fun ds => integerOf? false (numberOf base ds)

/-- A decimal number without leading zeros. -/
def decimal? (digits : List Char) : Option (List Char) :=
  match plainDigits? Char.isDigit digits with
  | some ['0'] => some ['0']
  | some ('0' :: _) => none
  | result => result

/-- A float, unless it is past the largest double. -/
def floatOf? (negative : Bool) (whole fraction : List Char) (exponent : Int) :
    Option Json :=
  let significand := numberOf 10 (whole ++ fraction)
  let value := Double.ofExactDecimal significand (exponent - fraction.length)
  if value.isInfinite then none else some (.float (value.withSign negative))

/-- The exponent of a float, with its sign. -/
def exponent? : List Char → Option Int
  | '+' :: digits => (plainDigits? Char.isDigit digits).map fun ds => (numberOf 10 ds : Int)
  | '-' :: digits => (plainDigits? Char.isDigit digits).map fun ds => -(numberOf 10 ds : Int)
  | digits => (plainDigits? Char.isDigit digits).map fun ds => (numberOf 10 ds : Int)

/-- A float whose whole part and fraction have been read. -/
def scaledFloat? (negative : Bool) (whole fraction : List Char) :
    List Char → Option Json
  | [] => floatOf? negative whole fraction 0
  | c :: rest =>
      if c = 'e' || c = 'E' then
        (exponent? rest).bind (floatOf? negative whole fraction)
      else none

/-- A digit or an underscore. -/
def isDigitOrUnderscore (c : Char) : Bool :=
  c.isDigit || c = '_'

/-- A number without its sign: an integer or a float. -/
def unsigned? (negative : Bool) (cs : List Char) : Option Json :=
  match decimal? (cs.takeWhile isDigitOrUnderscore),
    cs.dropWhile isDigitOrUnderscore with
  | none, _ => none
  | some whole, [] => integerOf? negative (numberOf 10 whole)
  | some whole, '.' :: rest =>
      (plainDigits? Char.isDigit (rest.takeWhile isDigitOrUnderscore)).bind fun fraction =>
        scaledFloat? negative whole fraction (rest.dropWhile isDigitOrUnderscore)
  | some whole, rest => scaledFloat? negative whole [] rest

/-- A number, an infinity or the value that is not a number, without its sign. -/
def magnitude? (negative : Bool) (cs : List Char) : Option Json :=
  if cs = ['i', 'n', 'f'] then some (.float (.infinite negative))
  else if cs = ['n', 'a', 'n'] then some (.float .notANumber)
  else unsigned? negative cs

/-- The value of a word. -/
def wordValue? (word : List Char) : Option Json :=
  if word = ['t', 'r', 'u', 'e'] then some (.boolean true)
  else if word = ['f', 'a', 'l', 's', 'e'] then some (.boolean false)
  else
    match word with
    | '0' :: 'x' :: digits => basedInteger? 16 digits
    | '0' :: 'o' :: digits => basedInteger? 8 digits
    | '0' :: 'b' :: digits => basedInteger? 2 digits
    | '+' :: rest => magnitude? false rest
    | '-' :: rest => magnitude? true rest
    | rest => magnitude? false rest

end Toml
end DesiredState
