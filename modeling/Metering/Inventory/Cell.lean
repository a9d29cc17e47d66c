import Metering.Decimal.Nearest
import Metering.Word

/-!
# Cells that should hold a whole number

The platform declares some columns to hold whole numbers, but a cell takes
whatever it is given. A text that is a numeral becomes the number it spells,
and a number without a fraction becomes a whole one; everything else stays
what it is, and a reader that wants a whole number finds out.
-/

namespace Metering.Inventory

open Metering.Decimal (Binary64)

/-- What a cell holds. Of a number with a fraction only that it is one is ever seen. -/
inductive Cell where
  | null
  | int (n : Int)
  | real
  | text (s : String)
deriving DecidableEq, Repr, Inhabited

namespace Cell

/-- The blanks that may stand around a numeral. -/
def isGap (c : Char) : Bool :=
  c = ' ' || (0x9 ≤ c.toNat && c.toNat ≤ 0xd)

def digitsValue (ds : List Char) : Nat :=
  ds.foldl (fun n c => n * 10 + (c.toNat - '0'.toNat)) 0

/-- The sign at the front of a numeral, true for a minus. -/
def readSign : List Char → Bool × List Char
  | [] => (false, [])
  | c :: cs => if c = '-' then (true, cs) else if c = '+' then (false, cs) else (false, c :: cs)

/-- The optional exponent at the end of a numeral. -/
def readExponent? : List Char → Option (Option Int)
  | [] => some none
  | c :: cs =>
    if c = 'e' ∨ c = 'E' then
      let (down, ds) := readSign cs
      if ds.isEmpty ∨ ¬ ds.all Char.isDigit then none
      else some (some (if down then -(digitsValue ds : Int) else digitsValue ds))
    else none

/-- The cell of a real number. A whole one becomes a whole number, short of the two ends of what 64
bits hold. -/
def ofReal (x : Binary64) : Cell :=
  match x.whole? with
  | some n => if Word.minSigned < n ∧ n < Word.maxSigned then .int n else .real
  | none => .real

/-- The cell that a numeral becomes. One with a point, an exponent or too many digits is read as
the nearest real number. -/
def ofNumeral? (s : String) : Option Cell :=
  let cs := ((s.toList.dropWhile isGap).reverse.dropWhile isGap).reverse
  let (negative, cs) := readSign cs
  let whole := cs.takeWhile Char.isDigit
  let (fraction, rest) := match cs.dropWhile Char.isDigit with
    | [] => ([], [])
    | c :: cs =>
      if c = '.' then (cs.takeWhile Char.isDigit, cs.dropWhile Char.isDigit) else ([], c :: cs)
  if whole.isEmpty ∧ fraction.isEmpty then none
  else
    (readExponent? rest).map fun exponent =>
      let digits := digitsValue (whole ++ fraction)
      let signed : Int := if negative then -digits else digits
      if cs.all Char.isDigit ∧ Word.holdsSigned signed then .int signed
      else
        let x := Decimal.nearest digits (exponent.getD 0 - fraction.length)
        ofReal (if negative then x.negate else x)

/-- The cell of a text. -/
def ofText (s : String) : Cell :=
  (ofNumeral? s).getD (.text s)

/-- What a cell is called by a reader that wanted a whole number. -/
def typeName : Cell → String
  | .null => "Null"
  | .int _ => "Integer"
  | .real => "Real"
  | .text _ => "Text"

end Cell

end Metering.Inventory
