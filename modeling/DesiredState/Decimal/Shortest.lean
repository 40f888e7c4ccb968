import DesiredState.Decimal.Double

/-!
# The shortest decimal text of a double

**Algorithm.** The reals that round to a positive double form an interval
around it, whose ends belong to it when the mantissa is even. For one digit,
two digits, and so on up to seventeen, the two neighbours of the double with
that many digits are tried; the first count with a neighbour in the interval
wins, of two hits the nearer one, and a tie goes to the larger.

**Format.** The digits are written positionally, with no exponent, no point
after a whole number, and a sign for negative numbers and the negative zero.
-/

namespace DesiredState
namespace Double

/-- A positive real `value / unit` between the ends `low / unit` and
`high / unit` of the interval that rounds to it. -/
structure Neighbourhood where
  low : Nat
  value : Nat
  high : Nat
  unit : Nat
  /-- The ends round to the value as well. -/
  closed : Bool

/-- The reals that round to `mantissa * 2 ^ unit` smallest units. -/
def Neighbourhood.of (mantissa unit : Nat) : Neighbourhood :=
  let gap := Nat.pow 2 unit
  let below := if mantissa = Nat.pow 2 52 ∧ 0 < unit then gap else 2 * gap
  { low := 4 * mantissa * gap - below
    value := 4 * mantissa * gap
    high := 4 * mantissa * gap + 2 * gap
    unit := 4 * Nat.pow 2 smallestUnit
    closed := mantissa % 2 = 0 }

namespace Neighbourhood

/-- The neighbourhood divided by `10 ^ exponent`. -/
def shift (r : Neighbourhood) (exponent : Int) : Neighbourhood :=
  if 0 ≤ exponent then { r with unit := r.unit * Nat.pow 10 exponent.toNat }
  else
    let factor := Nat.pow 10 (-exponent).toNat
    { r with low := r.low * factor, value := r.value * factor,
             high := r.high * factor }

/-- The natural number rounds to the value. -/
def accepts (r : Neighbourhood) (n : Nat) : Bool :=
  let point := n * r.unit
  if r.closed then r.low ≤ point && point ≤ r.high
  else r.low < point && point < r.high

/-- The neighbour of the value among the natural numbers that rounds to it:
the nearer one when both do, and the larger when they are equally near. -/
def neighbour? (r : Neighbourhood) : Option Nat :=
  let floor := r.value / r.unit
  let below := r.value % r.unit
  match r.accepts floor, r.accepts (floor + 1) with
  | true, true => some (if 2 * below < r.unit then floor else floor + 1)
  | true, false => some floor
  | false, true => some (floor + 1)
  | false, false => none

/-- How many digits stand before the point; for a value below one, the
negated number of zeros that follow the point. -/
def magnitude (r : Neighbourhood) : Int :=
  if r.unit ≤ r.value then ((Nat.toDigits 10 (r.value / r.unit)).length : Int)
  else 1 - ((Nat.toDigits 10 (r.unit / r.value)).length : Int)

/-- The shortest decimal `digits * 10 ^ exponent` that rounds to the value. -/
def shortest (r : Neighbourhood) : Nat × Int :=
  let attempt (count : Nat) : Option (Nat × Int) :=
    let exponent := r.magnitude - count
    (r.shift exponent).neighbour?.map fun digits => (digits, exponent)
  ((List.range 17).findSome? fun n => attempt (n + 1)).getD (0, 0)

end Neighbourhood

/-- The digits of `digits * 10 ^ exponent`, written positionally. -/
def positional (digits : Nat) (exponent : Int) : List Char :=
  let ds := Nat.toDigits 10 digits
  if 0 ≤ exponent then ds ++ List.replicate exponent.toNat '0'
  else
    let places := (-exponent).toNat
    let padded := List.replicate (places + 1 - ds.length) '0' ++ ds
    let whole := padded.take (padded.length - places)
    let fraction :=
      ((padded.drop (padded.length - places)).reverse.dropWhile (· = '0')).reverse
    if fraction.isEmpty then whole else whole ++ ['.'] ++ fraction

/-- The decimal text of a double. -/
def text : Double → String
  | .notANumber => "NaN"
  | .infinite negative => if negative then "-inf" else "inf"
  | .finite negative mantissa unit =>
      let magnitude :=
        if mantissa = 0 then ['0']
        else
          let (digits, exponent) := (Neighbourhood.of mantissa unit).shortest
          positional digits exponent
      String.ofList (if negative then '-' :: magnitude else magnitude)

section Examples

example : (ofExactDecimal 1 (-1)).text = "0.1" := by decide +kernel
example : (ofExactDecimal 1 21).text = "1000000000000000000000" := by decide +kernel
example : (zero true).text = "-0" := by decide +kernel

end Examples

end Double
end DesiredState
