import MethodRoles.Binary64.Shortest
import MethodRoles.Text.Basic

/-!
# Layout of floating-point numbers

A layout says which numbers are written in plain notation and which in
scientific notation, by the power of ten of the first digit.  Plain notation
always has a point and a digit after it; scientific notation has a point only
when more than one digit is significant.
-/

namespace MethodRoles.Binary64

/-- The bounds of plain notation, as powers of ten of the first digit. -/
structure Layout where
  /-- The least power that is written plainly. -/
  firstPlain : Int
  /-- The least power above it that is not. -/
  firstScientific : Int

/-- Plain notation of a decimal. -/
def plain (decimal : Decimal) : Text :=
  match decimal.exponent with
  | .ofNat power =>
      let whole := decimal.digits.take (power + 1)
      let fraction := decimal.digits.drop (power + 1)
      whole ++ List.replicate (power + 1 - whole.length) '0' ++ '.' ::
        (if fraction.isEmpty then ['0'] else fraction)
  | .negSucc zeros => ['0', '.'] ++ List.replicate zeros '0' ++ decimal.digits

/-- Scientific notation of a decimal. -/
def scientific (decimal : Decimal) : Text :=
  let fraction := decimal.digits.drop 1
  decimal.digits.take 1 ++ (if fraction.isEmpty then [] else '.' :: fraction) ++ 'e' ::
    Text.ofInt decimal.exponent

/-- The written form of the magnitude of a number. -/
def Layout.magnitude (layout : Layout) (number : Binary64) : Text :=
  if number.isInfinite then
    "inf".toList
  else if number.isZero then
    "0.0".toList
  else
    let decimal := number.shortest
    if layout.firstPlain ≤ decimal.exponent && decimal.exponent < layout.firstScientific then
      plain decimal
    else
      scientific decimal

/-- The written form of a number; only a number has a sign. -/
def Layout.render (layout : Layout) (number : Binary64) : Text :=
  if number.isNaN then
    "NaN".toList
  else if number.isNegative then
    '-' :: layout.magnitude number
  else
    layout.magnitude number

end MethodRoles.Binary64
