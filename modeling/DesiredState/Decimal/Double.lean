/-!
# Double-precision numbers

**Type.** A finite double is a sign, a mantissa below 2^53 and the exponent of
its unit, counted from the smallest unit 2^-1074. Infinities and the value that
is not a number stand apart.

**Algorithm.** A quotient of natural numbers is rounded to the nearest double,
a tie going to the even mantissa; a magnitude past the largest double becomes
infinite. Products and quotients of doubles are the exact results, rounded.

**Results.** Rounding a quotient to a whole number misses it by half a unit at
most.
-/

namespace DesiredState

/-- A double-precision number. The finite one is `mantissa * 2 ^ unit` units of
2^-1074, with its sign. -/
inductive Double where
  | notANumber
  | infinite (negative : Bool)
  | finite (negative : Bool) (mantissa unit : Nat)
deriving DecidableEq, Repr, Inhabited

namespace Double

/-- The exponent, negated, of the smallest unit. -/
def smallestUnit : Nat := 1074

/-- The largest unit exponent of a finite double. -/
def largestUnit : Nat := 2045

/-- The whole number nearest to `num / den`, a tie going to the even one. -/
def roundQuotient (num den : Nat) : Nat :=
  let floor := num / den
  let rest := 2 * (num % den)
  if rest < den then floor
  else if den < rest then floor + 1
  else if floor % 2 = 0 then floor
  else floor + 1

/-- A zero with a sign. -/
def zero (negative : Bool) : Double :=
  .finite negative 0 0

/-- The double nearest to `num / den`, with the given sign. -/
def ofQuotient (negative : Bool) (num den : Nat) : Double :=
  let scaled := num * Nat.pow 2 smallestUnit
  let unit := (scaled / den).log2 - 52
  let mantissa := roundQuotient scaled (den * Nat.pow 2 unit)
  let (mantissa, unit) :=
    if mantissa = Nat.pow 2 53 then (Nat.pow 2 52, unit + 1) else (mantissa, unit)
  if largestUnit < unit then .infinite negative
  else .finite negative mantissa unit

/-- The double nearest to a natural number. -/
def ofNat (n : Nat) : Double :=
  ofQuotient false n 1

/-- The magnitude of a finite double, counted in smallest units. -/
def scaled? : Double → Option Nat
  | .finite _ mantissa unit => some (mantissa * Nat.pow 2 unit)
  | _ => none

/-- The sign. -/
def isNegative : Double → Bool
  | .notANumber => false
  | .infinite negative => negative
  | .finite negative _ _ => negative

/-- A zero of either sign. -/
def isZero (x : Double) : Bool :=
  x.scaled? = some 0

/-- An infinity of either sign. -/
def isInfinite : Double → Bool
  | .infinite _ => true
  | _ => false

/-- The same magnitude with the given sign. -/
def withSign (negative : Bool) : Double → Double
  | .notANumber => .notANumber
  | .infinite _ => .infinite negative
  | .finite _ mantissa unit => .finite negative mantissa unit

/-- A double times the double nearest to `10 ^ places`, rounded. -/
def timesPowerOfTen (x : Double) (places : Nat) : Double :=
  match x.scaled?, (ofNat (Nat.pow 10 places)).scaled? with
  | some a, some b => ofQuotient x.isNegative (a * b) (Nat.pow 2 (2 * smallestUnit))
  | _, _ => x

/-- A double divided by the double nearest to `10 ^ places`, rounded. -/
def overPowerOfTen (x : Double) (places : Nat) : Double :=
  match x.scaled?, (ofNat (Nat.pow 10 places)).scaled? with
  | some a, some b => ofQuotient x.isNegative a b
  | _, _ => x

/-- The most decimal places that one power of ten covers. -/
def placesPerStep : Nat := 308

/-- Divide by a power of ten in steps of at most 308 places, rounding after
each; a zero stays as it is. -/
def scaleDown (x : Double) (places : Nat) : Double :=
  if places ≤ placesPerStep then x.overPowerOfTen places
  else if x.isZero then x
  else scaleDown (x.overPowerOfTen placesPerStep) (places - placesPerStep)
termination_by places
decreasing_by simp [placesPerStep] at *; omega

/-- Multiply by a power of ten; there is no result past the largest double. -/
def scaleUp? (x : Double) (places : Nat) : Option Double :=
  if x.isZero then some x
  else if places ≤ placesPerStep then
    let product := x.timesPowerOfTen places
    if product.isInfinite then none else some product
  else none

/-- The double for `significand * 10 ^ exponent`: the significand is rounded
first, then scaled, and rounded again with each step of scaling. -/
def ofScaledDecimal? (significand : Nat) (exponent : Int) : Option Double :=
  let start := ofNat significand
  if 0 ≤ exponent then start.scaleUp? exponent.toNat
  else some (start.scaleDown (-exponent).toNat)

/-- More places than any double has, on either side of the point. -/
def placesBound : Int := 400

/-- The double nearest to `significand * 10 ^ exponent`, rounded once. Powers past
every double are not worked out. -/
def ofExactDecimal (significand : Nat) (exponent : Int) : Double :=
  if significand = 0 then zero false
  else if placesBound < exponent then .infinite false
  else if exponent + (Nat.toDigits 10 significand).length < -placesBound then zero false
  else if 0 ≤ exponent then ofQuotient false (significand * Nat.pow 10 exponent.toNat) 1
  else ofQuotient false significand (Nat.pow 10 (-exponent).toNat)

example : ofNat 1 = .finite false (2 ^ 52) 1022 := by decide +kernel
example : ofExactDecimal 5 (-324) = .finite false 1 0 := by decide +kernel
example : ofScaledDecimal? 1 400 = none := by decide +kernel

end Double
end DesiredState
