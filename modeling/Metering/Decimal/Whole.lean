/-!
# Whole numbers as words

A word for a whole number is a run of decimal digits with at most one sign in
front. Zeros in front of the number are allowed and blanks are not.
-/

namespace Metering.Decimal

/-- The number that digits write, the first of them the highest. -/
def ofDigits (ds : List Char) : Nat :=
  ds.foldl (fun n c => n * 10 + (c.toNat - '0'.toNat)) 0

/-- The number that a word of nothing but digits writes. -/
def natural? (ds : List Char) : Option Nat :=
  if ds.isEmpty || ! ds.all Char.isDigit then none else some (ofDigits ds)

/-- A number up to a bound, from digits with at most a plus in front. -/
def unsigned? (bound : Nat) (word : String) : Option Nat :=
  let ds := match word.toList with
    | [] => []
    | c :: cs => if c = '+' then cs else c :: cs
  match natural? ds with
  | some n => if n ≤ bound then some n else none
  | none => none

/-- A number from zero up to a bound, from digits with at most one sign in front. -/
def nonnegative? (bound : Nat) (word : String) : Option Nat :=
  match word.toList with
  | [] => none
  | c :: cs =>
    if c = '-' then
      match natural? cs with
      | some 0 => some 0
      | _ => none
    else unsigned? bound word

end Metering.Decimal
