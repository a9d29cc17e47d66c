import Metering.Decimal.Binary64

/-!
# The nearest binary64 number

A whole number times a power of ten, as the binary64 number nearest to it. Far
outside the range of finite numbers the answer is known from the number of
digits alone, zero or infinity, and the power of ten is never computed.
-/

namespace Metering.Decimal

/-- Where the first digit of a number stands before or behind the point. -/
def leadingPlace (significand : Nat) (exponent : Int) : Int :=
  (Nat.toDigits 10 significand).length + exponent

/-- Beyond this place a number has no finite neighbour, and as far behind the point only zero. -/
def farPlace : Int := 400

/-- The binary64 number nearest to `significand * 10 ^ exponent`. -/
def nearest (significand : Nat) (exponent : Int) : Binary64 :=
  let place := leadingPlace significand exponent
  if significand = 0 ∨ place < -farPlace then ⟨0⟩
  else if farPlace < place then Binary64.infinity
  else Binary64.ofFloat (Float.ofScientific significand (exponent < 0) exponent.natAbs)

end Metering.Decimal
