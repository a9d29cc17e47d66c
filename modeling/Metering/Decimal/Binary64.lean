/-!
# Binary64 words

A measured or read real number is kept as the 64-bit word that encodes it, so
that two values are equal exactly when they are the same word: a not-a-number
equals itself, and the two zeros differ. Arithmetic goes through the machine's
own numbers and comes back as a word.
-/

namespace Metering.Decimal

/-- A binary64 number as its bit pattern. -/
structure Binary64 where
  bits : UInt64
deriving DecidableEq, Repr, Inhabited

namespace Binary64

def ofFloat (x : Float) : Binary64 := ⟨x.toBits⟩

def toFloat (x : Binary64) : Float := Float.ofBits x.bits

/-- The word of negative zero, whose only bit is the sign. -/
def signBit : Nat := 0x8000000000000000

/-- What the leading bit of a fraction, which is not written, is worth in the fraction's units. -/
def leadingBit : Nat := 0x10000000000000

def isNegative (x : Binary64) : Bool :=
  signBit ≤ x.bits.toNat

/-- The word without its sign: the place of the absolute value in rising order. -/
def magnitude (x : Binary64) : Nat :=
  x.bits.toNat % signBit

/-- The word of positive infinity, above every finite magnitude. -/
def infinityMagnitude : Nat := 0x7ff0000000000000

def isNaN (x : Binary64) : Bool :=
  infinityMagnitude < x.magnitude

def isFinite (x : Binary64) : Bool :=
  x.magnitude < infinityMagnitude

def infinity : Binary64 := ⟨0x7ff0000000000000⟩

def negInfinity : Binary64 := ⟨0xfff0000000000000⟩

/-- The place of a word in the total order of all words: negative ones below positive ones,
the farther from zero the farther out, a not-a-number beyond infinity on its own side. -/
def orderKey (x : Binary64) : Int :=
  if x.isNegative then -1 - (x.magnitude : Int) else x.magnitude

/-- The same number with the other sign. -/
def negate (x : Binary64) : Binary64 :=
  ⟨x.bits ^^^ 0x8000000000000000⟩

/-- A finite word as `m * 2 ^ e`. -/
def parts (x : Binary64) : Nat × Int :=
  let fraction := x.magnitude % leadingBit
  let exponent := x.magnitude / leadingBit
  if exponent = 0 then (fraction, -1074)
  else (fraction + leadingBit, Int.ofNat exponent - 1075)

/-- A number that is not zero has a significand. -/
theorem parts_ne_zero {x : Binary64} (h : x.magnitude ≠ 0) : x.parts.1 ≠ 0 := by
  unfold parts
  simp only []
  split
  · next hexponent =>
    have hbit : 0 < leadingBit := by decide
    have hsmall := (Nat.div_eq_zero_iff_lt hbit).1 hexponent
    rw [Nat.mod_eq_of_lt hsmall]
    exact h
  · unfold leadingBit
    omega

/-- The absolute value, if it is a whole number. -/
def wholeMagnitude? (x : Binary64) : Option Nat :=
  let (m, e) := x.parts
  if ¬ x.isFinite then none
  else if 0 ≤ e then some (m * Nat.pow 2 e.toNat)
  else if m % Nat.pow 2 e.natAbs = 0 then some (m / Nat.pow 2 e.natAbs) else none

/-- The number, if it is a whole one. -/
def whole? (x : Binary64) : Option Int :=
  x.wholeMagnitude?.map fun n => if x.isNegative then -(n : Int) else n

end Binary64

end Metering.Decimal
