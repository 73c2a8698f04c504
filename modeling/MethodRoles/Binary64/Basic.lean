/-!
# Binary floating-point numbers of 64 bits

A number is its bit pattern: a sign, eleven exponent bits and 52 fraction bits.
A finite number of magnitude `mantissa * 2 ^ shift / 2 ^ 1074` is decoded into
the two naturals, so that everything about its value is natural arithmetic.

Two patterns are the same number when they are equal, when both are zeros, or
when neither is a number at all.
-/

namespace MethodRoles

/-- A floating-point number by its bit pattern. -/
structure Binary64 where
  /-- The bit pattern. -/
  bits : UInt64
deriving DecidableEq

namespace Binary64

/-- The exponent field of the bit pattern. -/
def exponentField (number : Binary64) : Nat :=
  number.bits.toNat / Nat.pow 2 52 % Nat.pow 2 11

/-- The fraction field of the bit pattern. -/
def fractionField (number : Binary64) : Nat :=
  number.bits.toNat % Nat.pow 2 52

/-- Whether the sign bit is set. -/
def isNegative (number : Binary64) : Bool :=
  Nat.pow 2 63 ≤ number.bits.toNat

/-- Whether the pattern stands for no number. -/
def isNaN (number : Binary64) : Bool :=
  number.exponentField == 2047 && number.fractionField != 0

/-- Whether the number is infinite. -/
def isInfinite (number : Binary64) : Bool :=
  number.exponentField == 2047 && number.fractionField == 0

/-- The magnitude of a finite number in units of its last place. -/
def mantissa (number : Binary64) : Nat :=
  if number.exponentField = 0 then
    number.fractionField
  else
    Nat.pow 2 52 + number.fractionField

/-- The place of the last unit of a finite number, counted in powers of two above `2 ^ -1074`. -/
def shift (number : Binary64) : Nat :=
  number.exponentField - 1

/-- Whether the number is a zero. -/
def isZero (number : Binary64) : Bool :=
  number.exponentField == 0 && number.fractionField == 0

/-- Whether two patterns are the same number; what is no number equals itself. -/
def isSame (left right : Binary64) : Bool :=
  left.bits == right.bits || (left.isZero && right.isZero) || (left.isNaN && right.isNaN)

/--
The magnitude with a given exponent above `2 ^ -1074` and a mantissa from
`2 ^ 52` up to `2 ^ 53`, which carries into the exponent.
-/
def magnitudeBits (mantissa shift : Nat) : Nat :=
  shift * Nat.pow 2 52 + mantissa

/-- A quotient by a power of two, rounded to the nearest natural, a half to the even one. -/
def roundedShift (number places : Nat) : Nat :=
  let quotient := number / Nat.pow 2 places
  let double := 2 * (number % Nat.pow 2 places)
  if double < Nat.pow 2 places || (double == Nat.pow 2 places && quotient % 2 == 0) then
    quotient
  else
    quotient + 1

/-- The bits of the floating-point number nearest to a natural number. -/
def bitsOfNat (number : Nat) : Nat :=
  if number = 0 then
    0
  else if number.log2 ≤ 52 then
    magnitudeBits (number * Nat.pow 2 (52 - number.log2)) (1022 + number.log2)
  else
    magnitudeBits (roundedShift number (number.log2 - 52)) (1022 + number.log2)

/-- The floating-point number nearest to an integer, a half going to the even mantissa. -/
def ofInt (number : Int) : Binary64 :=
  ⟨UInt64.ofNat (bitsOfNat number.natAbs + if number < 0 then Nat.pow 2 63 else 0)⟩

end Binary64

end MethodRoles
