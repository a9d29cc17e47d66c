/-!
# Machine words

Counts and limits are numbers of 64 bits, ages are numbers of 32. This module
names the bounds of such numbers, and says which number the bits of another
one are when they are read with a sign or without.
-/

namespace Metering.Word

/-- The number of words of 64 bits. -/
def count : Nat := 0x10000000000000000

/-- The largest number of 64 bits without a sign. -/
def max : Nat := 0xffffffffffffffff

/-- The largest number of 32 bits without a sign. -/
def max32 : Nat := 0xffffffff

/-- The smallest number of 64 bits with a sign. -/
def minSigned : Int := -0x8000000000000000

/-- The largest number of 64 bits with a sign. -/
def maxSigned : Int := 0x7fffffffffffffff

/-- Whether 64 bits with a sign hold a number. -/
def holdsSigned (n : Int) : Bool := minSigned ≤ n && n ≤ maxSigned

/-- The number with a sign that the lowest 64 bits of a number are. -/
def signed (n : Int) : Int := n.bmod count

/-- The number without a sign that the lowest 64 bits of a number are. -/
def unsigned (n : Int) : Nat := (n % count).toNat

/-- The bits of a number say which number it is, read without a sign. -/
theorem unsigned_signed {n : Nat} (h : n ≤ max) : unsigned (signed n) = n := by
  unfold max at h
  unfold unsigned signed count
  rw [Int.bmod_emod]
  omega

end Metering.Word
