import MethodRoles.Binary64.Basic

/-!
# The shortest decimal that reads back

Many decimals are closer to a floating-point number than to any other one.  The
shortest form takes the fewest significant digits with which one of them can be
written, and of those decimals the nearest; of two equally near ones it takes
the greater.

The search is exact.  A number is a fraction of naturals, and so are the ends of
the interval of values that round to it; the ends belong to it when the mantissa
is even.  For one digit, then for two, and so on, the two decimals around the
number are tried.  Seventeen digits are always enough.
-/

namespace MethodRoles.Binary64

/-- Digits of a decimal number, with the power of ten of the first one. -/
structure Decimal where
  /-- The significant digits; the last one is not zero. -/
  digits : List Char
  /-- The power of ten of the first digit. -/
  exponent : Int
deriving DecidableEq

/-- A positive value and the interval of the values that round to it, over one denominator. -/
structure Interval where
  /-- The lower end. -/
  low : Nat
  /-- The value itself. -/
  middle : Nat
  /-- The upper end. -/
  high : Nat
  /-- The common denominator. -/
  denominator : Nat
  /-- Whether the ends round to the value as well. -/
  closed : Bool

namespace Interval

/-- The same interval measured in units of a power of ten. -/
def inUnits (interval : Interval) : Int → Interval
  | .ofNat places =>
      { interval with denominator := interval.denominator * Nat.pow 10 places }
  | .negSucc places =>
      let factor := Nat.pow 10 (places + 1)
      { interval with
        low := interval.low * factor
        middle := interval.middle * factor
        high := interval.high * factor }

/-- Whether a whole number of units lies in the interval. -/
def contains (interval : Interval) (units : Nat) : Bool :=
  let scaled := units * interval.denominator
  if interval.closed then
    interval.low ≤ scaled && scaled ≤ interval.high
  else
    interval.low < scaled && scaled < interval.high

/-- The nearest whole number of units in the interval, the greater of two. -/
def nearest? (interval : Interval) : Option Nat :=
  let below := interval.middle / interval.denominator
  let excess := interval.middle % interval.denominator
  if interval.contains below && interval.contains (below + 1) then
    if 2 * excess < interval.denominator then some below else some (below + 1)
  else if interval.contains below then
    some below
  else if interval.contains (below + 1) then
    some (below + 1)
  else
    none

/-- The power of ten of the first digit of the value. -/
def leadingExponent (interval : Interval) : Int :=
  if interval.denominator ≤ interval.middle then
    (Nat.toDigits 10 (interval.middle / interval.denominator)).length - 1
  else
    let quotient := (interval.denominator + interval.middle - 1) / interval.middle
    Int.negOfNat (Nat.toDigits 10 (quotient - 1)).length

/-- A whole number of units of a power of ten, without the zeros at its end. -/
def decimal (units : Nat) (exponent : Int) : Decimal :=
  let digits := Nat.toDigits 10 units
  ⟨(digits.reverse.dropWhile (· == '0')).reverse, exponent + digits.length - 1⟩

/-- The shortest decimal with at least `count` digits, where `more` longer ones may be tried. -/
def shortestFrom (interval : Interval) (count : Nat) : (more : Nat) → Decimal
  | 0 => decimal (interval.middle / interval.denominator) 0
  | more + 1 =>
      let exponent := interval.leadingExponent - (count : Int) + 1
      match (interval.inUnits exponent).nearest? with
      | some units => decimal units exponent
      | none => shortestFrom interval (count + 1) more

end Interval

/-- The values that round to a finite number, in quarters of its last place. -/
def interval (number : Binary64) : Interval :=
  let unit := Nat.pow 2 number.shift
  let narrowBelow := number.fractionField = 0 ∧ 1 < number.exponentField
  { low := (4 * number.mantissa - if narrowBelow then 1 else 2) * unit
    middle := 4 * number.mantissa * unit
    high := (4 * number.mantissa + 2) * unit
    denominator := 4 * Nat.pow 2 1074
    closed := number.mantissa % 2 == 0 }

/-- The shortest decimal of the magnitude of a finite number other than zero. -/
def shortest (number : Binary64) : Decimal :=
  number.interval.shortestFrom 1 17

end MethodRoles.Binary64
