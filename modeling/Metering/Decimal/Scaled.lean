import Metering.Decimal.Binary64
import Metering.Word

/-!
# Reading a decimal number

A number in a document is read digit by digit into a 64-bit significand and a
power of ten. While the digits fit the significand they are exact; digits
after that only move the exponent (in front of the point) or are dropped
(behind it). The value is then the significand as a binary64 number, scaled by
the power of ten in one multiplication or division, each rounded to nearest.
A number too large for a finite value is refused. Whole numbers in the 64-bit
range stay whole.
-/

namespace Metering.Decimal

/-- The value of a numeral: whole where it is written without a point or exponent and fits 64
bits, real otherwise. -/
inductive Number where
  | int (n : Int)
  | real (x : Binary64)
deriving DecidableEq, Repr

/-- The largest value of a 64-bit significand. -/
def maxSignificand : Nat := Word.max

def digitValue (c : Char) : Nat := c.toNat - '0'.toNat

/-- Takes digits into the significand while they fit. What is left over starts with the first
digit that does not. -/
def takeDigits (acc : Nat) : List Char → Nat × List Char
  | [] => (acc, [])
  | c :: cs =>
    let next := acc * 10 + digitValue c
    if next ≤ maxSignificand then takeDigits next cs else (acc, c :: cs)

/-- The power of ten as a binary64 number. -/
def powerOfTen (n : Nat) : Float := Float.ofScientific 1 false n

/-- Scales a significand by a power of ten. The table of powers ends at 308; a larger negative
power is applied in steps, a larger positive one only to zero. -/
def scale (fuel : Nat) (f : Float) (exponent : Int) : Option Float :=
  if exponent.natAbs ≤ 308 then
    if 0 ≤ exponent then
      let r := f * powerOfTen exponent.natAbs
      if r.isInf then none else some r
    else some (f / powerOfTen exponent.natAbs)
  else if f == 0.0 then some f
  else if 0 ≤ exponent then none
  else
    match fuel with
    | 0 => some f
    | fuel + 1 => scale fuel (f / powerOfTen 308) (exponent + 308)

/-- A significand and a power of ten as a binary64 word. Two steps bring every significand below
the smallest positive word, so the steps are bounded. -/
def ofParts? (negative : Bool) (significand : Nat) (exponent : Int) : Option Binary64 :=
  (scale 4 (Float.ofNat significand) exponent).map fun f =>
    Binary64.ofFloat (if negative then -f else f)

/-- A numeral taken apart: its sign, the digits before the point, the digits after a point and
the signed exponent, where they are written. -/
structure Numeral where
  negative : Bool
  whole : List Char
  fraction : Option (List Char)
  exponent : Option (Bool × List Char)
deriving DecidableEq, Repr

namespace Numeral

/-- The written exponent, no larger than 32 bits hold. -/
def exponentValue (ds : List Char) : Option Nat :=
  ds.foldl (fun acc c => acc.bind fun n =>
    let next := n * 10 + digitValue c
    if next < 0x80000000 then some next else none) (some 0)

/-- Keeps an exponent within 32 bits. -/
def clampExponent (e : Int) : Int := max (-0x80000000) (min 0x7fffffff e)

/-- The real value of a numeral. An exponent beyond 32 bits makes a nonzero number too large or
zero. -/
def real? (n : Numeral) : Option Binary64 :=
  let (whole, excess) := takeDigits 0 n.whole
  let fraction := n.fraction.getD []
  let (significand, dropped) := takeDigits whole fraction
  let start : Int := excess.length - ((fraction.length - dropped.length : Nat) : Int)
  match n.exponent with
  | none => ofParts? n.negative significand start
  | some (down, ds) =>
    match exponentValue ds with
    | none =>
      if significand ≠ 0 ∧ ¬ down then none
      else some (if n.negative then ⟨0x8000000000000000⟩ else ⟨0⟩)
    | some e =>
      ofParts? n.negative significand
        (clampExponent (if down then start - e else start + e))

/-- The value of a numeral, unless it is too large. A negative zero and a whole number outside the
64-bit range are real. -/
def value? (n : Numeral) : Option Number :=
  match n.fraction, n.exponent with
  | none, none =>
    match takeDigits 0 n.whole with
    | (m, []) =>
      if ¬ n.negative then some (.int m)
      else if 0 < m ∧ m ≤ 0x8000000000000000 then some (.int (-(m : Int)))
      else (ofParts? true m 0).map .real
    | _ => n.real?.map .real
  | _, _ => n.real?.map .real

end Numeral

end Metering.Decimal
