import Metering.Decimal.Nearest
import Metering.Json.Basic
import Metering.Time.Civil
import Metering.Toml.Text
import Metering.Word

/-!
# Plain values in a settings file

Truth values, whole and real numbers, dates and times, and quoted texts. The
first characters of a value decide which of them it is. A number may have
single underscores between its digits and no zero in front of another digit;
a whole number has 64 bits. No setting is a date, so a date is only checked
and kept as a record of its text.
-/

namespace Metering.Toml

open Metering.Decimal (Binary64)

/-! ## Numbers -/

/-- Digits with single underscores between them, behind those already read. -/
def readDigits (isDigit : Char → Bool) (acc : List Char) : Reader (List Char)
  | [] => if acc.isEmpty then none else some (acc.reverse, [])
  | c :: cs =>
    if isDigit c then readDigits isDigit (c :: acc) cs
    else if acc.isEmpty then none
    else if c = '_' then
      match cs with
      | [] => none
      | d :: cs => if isDigit d then readDigits isDigit (d :: acc) cs else none
    else some (acc.reverse, c :: cs)

/-- The number that digits of a base write. -/
def ofDigits (base : Nat) (ds : List Char) : Nat :=
  ds.foldl (fun n d => n * base + (Json.Token.hexValue? d).getD 0) 0

/-- The sign of a number, true if it is negative. -/
def readSign? : Reader Bool
  | c :: cs => if c = '-' then some (true, cs) else if c = '+' then some (false, cs) else none
  | [] => none

def readSign (cs : List Char) : Bool × List Char := (readSign? cs).getD (false, cs)

def signed (negative : Bool) (n : Nat) : Int := if negative then -(n : Int) else n

/-- A whole number, if 64 bits hold it. -/
def whole? (n : Int) : Option Json :=
  if Word.holdsSigned n then some (.int n) else none

/-- The base that a letter behind a zero announces. -/
def base? (c : Char) : Option Nat :=
  if c = 'x' then some 16 else if c = 'o' then some 8 else if c = 'b' then some 2 else none

def isDigitOf (base : Nat) (c : Char) : Bool :=
  (Json.Token.hexValue? c).any (· < base)

/-- The digits behind the point of a number, if there is one. -/
def readFraction : Reader (Option (List Char))
  | c :: cs =>
    if c = '.' then (readDigits Char.isDigit [] cs).map fun (ds, rest) => (some ds, rest)
    else some (none, c :: cs)
  | [] => some (none, [])

/-- The power of ten of a number, if there is one. -/
def readExponent : Reader (Option Int)
  | c :: cs =>
    if c = 'e' ∨ c = 'E' then
      let (negative, cs) := readSign cs
      (readDigits Char.isDigit [] cs).map fun (ds, rest) =>
        (some (signed negative (ofDigits 10 ds)), rest)
    else some (none, c :: cs)
  | [] => some (none, [])

/-- A real number. One that is too large is refused, unless it is negative. -/
def real? (negative : Bool) (digits : List Char) (exponent : Int) : Option Json :=
  let x := Decimal.nearest (ofDigits 10 digits) exponent
  if negative then some (.real x.negate)
  else if x = Binary64.infinity then none
  else some (.real x)

/-- A decimal number behind its sign. -/
def readDecimal (negative : Bool) : Reader Json := fun cs => do
  let (digits, cs) ← readDigits Char.isDigit [] cs
  if digits.head? = some '0' ∧ digits.length ≠ 1 then none
  else
    let (fraction, cs) ← readFraction cs
    let (exponent, cs) ← readExponent cs
    if fraction.isNone ∧ exponent.isNone then
      pure (← whole? (signed negative (ofDigits 10 digits)), cs)
    else
      let ds := fraction.getD []
      pure (← real? negative (digits ++ ds) (exponent.getD 0 - ds.length), cs)

/-- A number behind its sign, or one of the two words for values that are none. -/
def readMagnitude (negative : Bool) : Reader Json := fun cs =>
  match Json.Token.afterWord? "inf".toList cs, Json.Token.afterWord? "nan".toList cs with
  | some rest, _ =>
    some (.real (if negative then Binary64.negInfinity else Binary64.infinity), rest)
  | _, some rest =>
    let x : Binary64 := ⟨0x7ff8000000000000⟩
    some (.real (if negative then x.negate else x), rest)
  | none, none => readDecimal negative cs

/-- A number without a sign, in one of the four bases. -/
def readUnsigned : Reader Json
  | c :: l :: cs =>
    match if c = '0' then base? l else none with
    | some base => do
      let (ds, rest) ← readDigits (isDigitOf base) [] cs
      pure (← whole? (ofDigits base ds), rest)
    | none => readMagnitude false (c :: l :: cs)
  | cs => readMagnitude false cs

def readNumber : Reader Json := fun cs =>
  match readSign? cs with
  | some (negative, rest) => readMagnitude negative rest
  | none => readUnsigned cs

/-! ## Dates and times -/

/-- A number of exactly so many digits, between two bounds. -/
def readFixed (count low high : Nat) : Reader Nat := fun cs =>
  let ds := cs.take count
  let n := ofDigits 10 ds
  if ds.length = count ∧ ds.all Char.isDigit ∧ low ≤ n ∧ n ≤ high then some (n, cs.drop count)
  else none

/-- What follows one of some characters. -/
def afterOne? (allowed : List Char) : List Char → Option (List Char)
  | c :: cs => if allowed.contains c then some cs else none
  | [] => none

def readDate : Reader Time.Date := fun cs => do
  let (year, cs) ← readFixed 4 0 9999 cs
  let (month, cs) ← readFixed 2 1 12 (← afterOne? ['-'] cs)
  let (day, cs) ← readFixed 2 1 31 (← afterOne? ['-'] cs)
  let date : Time.Date := ⟨year, month, day⟩
  if date.exists? then pure (date, cs) else none

/-- What follows the digits of a fraction of a second, if there is one. -/
def skipSecondFraction (cs : List Char) : List Char :=
  match afterOne? ['.'] cs with
  | some rest =>
    if (rest.head?.map Char.isDigit).getD false then rest.dropWhile Char.isDigit else cs
  | none => cs

/-- What follows a time of day. A minute may have a leap second. -/
def afterTime? (cs : List Char) : Option (List Char) := do
  let (_, cs) ← readFixed 2 0 23 cs
  let (_, cs) ← readFixed 2 0 59 (← afterOne? [':'] cs)
  let (_, cs) ← readFixed 2 0 60 (← afterOne? [':'] cs)
  pure (skipSecondFraction cs)

/-- What follows the distance to universal time, if there is one. -/
def afterZone? (cs : List Char) : Option (List Char) :=
  match afterOne? ['Z', 'z'] cs, afterOne? ['+', '-'] cs with
  | some rest, _ => some rest
  | _, some rest => do
    let (_, rest) ← readFixed 2 0 23 rest
    let (_, rest) ← readFixed 2 0 59 (← afterOne? [':'] rest)
    pure rest
  | none, none => some cs

/-- Whether a time of day seems to be meant: two digits and a colon. -/
def isTimeLike : List Char → Bool
  | a :: b :: c :: _ => a.isDigit && b.isDigit && c = ':'
  | _ => false

/-- Whether a date seems to be meant: four digits and a dash. -/
def isDateLike : List Char → Bool
  | a :: b :: c :: d :: e :: _ => a.isDigit && b.isDigit && c.isDigit && d.isDigit && e = '-'
  | _ => false

/-- What follows a time of day behind a date, if there is one. -/
def afterDayTime? (cs : List Char) : Option (List Char) :=
  match afterOne? ['T', 't', ' '] cs with
  | some rest => if isTimeLike rest then (afterTime? rest).bind afterZone? else some cs
  | none => some cs

/-- A moment in time, as the record of its text. -/
def moment (cs rest : List Char) : Json :=
  .obj [("moment", .str (String.ofList (cs.take (cs.length - rest.length))))]

def readMoment : Reader Json := fun cs => do
  let rest ← if isDateLike cs then (readDate cs).bind fun (_, rest) => afterDayTime? rest
    else afterTime? cs
  pure (moment cs rest, rest)

/-! ## Values -/

/-- A value that holds no other one. -/
def readScalar : Reader Json
  | [] => none
  | c :: cs =>
    if c = '"' ∨ c = '\'' then (readQuoted c cs).map fun (s, rest) => (.str s, rest)
    else if c = 't' then (Json.Token.afterWord? "rue".toList cs).map fun rest => (.bool true, rest)
    else if c = 'f' then
      (Json.Token.afterWord? "alse".toList cs).map fun rest => (.bool false, rest)
    else if isDateLike (c :: cs) || isTimeLike (c :: cs) then readMoment (c :: cs)
    else readNumber (c :: cs)

end Metering.Toml
