import DesiredState.Text.Unprintable

/-!
# Quoted text

**Rule.** A quoted text stands between double quotes. A tab, a line feed, a
carriage return and the null character are written as a backslash and a letter
(or a zero), a backslash and a double quote with a backslash before them, and a
character without a visible form of its own as its code point in hexadecimal
between braces. A path is quoted in the same way, with a backslash before an
apostrophe as well.
-/

namespace DesiredState
namespace Text

/-- Lower-case hexadecimal digits of a number, without leading zeros. -/
def hexDigits (n : Nat) : List Char :=
  Nat.toDigits 16 n

/-- The written form of one character inside quotes; `apostrophe` tells whether
an apostrophe takes a backslash. -/
def quotedChar (apostrophe : Bool) (c : Char) : List Char :=
  if c = '\x00' then ['\\', '0']
  else if c = '\t' then ['\\', 't']
  else if c = '\n' then ['\\', 'n']
  else if c = '\r' then ['\\', 'r']
  else if c = '\\' || c = '"' || (apostrophe && c = '\'') then ['\\', c]
  else if isUnprintable c then
    ['\\', 'u', '\x7b'] ++ hexDigits c.toNat ++ ['\x7d']
  else [c]

/-- The text between double quotes. -/
def quoted (s : String) : String :=
  String.ofList (['"'] ++ s.toList.flatMap (quotedChar false) ++ ['"'])

/-- The path between double quotes. -/
def quotedPath (s : String) : String :=
  String.ofList (['"'] ++ s.toList.flatMap (quotedChar true) ++ ['"'])

end Text
end DesiredState
