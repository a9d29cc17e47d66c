import Metering.Text.Blank
import Metering.Time.Civil

/-!
# Instants

An instant is a whole second since 1970 and a number of nanoseconds after it;
during a leap second the nanoseconds go past one second. Ledgers keep instants
as milliseconds. Milliseconds outside the years that instants cover read as
the start of 1970, and an instant is cut down to whole milliseconds.

The text of an instant is a date, a time and `Z`. The fraction has none, three,
six or nine digits, the fewest that lose nothing. A year has four digits and no
sign where that is enough. Reading is more generous: it takes any offset from
universal time, blanks around the separators, and parts with fewer digits.
-/

namespace Metering.Time

structure Instant where
  seconds : Int
  nanos : Nat
deriving DecidableEq, Repr, Inhabited

namespace Instant

def epoch : Instant := ⟨0, 0⟩

/-- The years that instants cover. -/
def minYear : Int := -262143

def maxYear : Int := 262142

def minSeconds : Int := (Date.mk minYear 1 1).toDays * 86400

def maxSeconds : Int := (Date.mk maxYear 12 31).toDays * 86400 + 86399

/-- The instant of a number of milliseconds since 1970. -/
def ofMillis (ms : Int) : Instant :=
  let seconds := ms / 1000
  if minSeconds ≤ seconds ∧ seconds ≤ maxSeconds then ⟨seconds, (ms % 1000).toNat * 1000000⟩
  else epoch

/-- The whole milliseconds since 1970, rounded down. -/
def toMillis (i : Instant) : Int :=
  i.seconds * 1000 + i.nanos / 1000000

/-- An instant of whole milliseconds is kept as it is. -/
theorem ofMillis_toMillis_ofMillis (ms : Int) :
    ofMillis (ofMillis ms).toMillis = ofMillis ms := by
  by_cases h : minSeconds ≤ ms / 1000 ∧ ms / 1000 ≤ maxSeconds
  · have hof : ofMillis ms = ⟨ms / 1000, (ms % 1000).toNat * 1000000⟩ := if_pos h
    have hback : (ofMillis ms).toMillis = ms := by
      rw [hof, toMillis]
      simp only []
      omega
    rw [hback]
  · have hof : ofMillis ms = epoch := if_neg h
    rw [hof]
    decide

/-! ## Writing -/

/-- A number in at least so many digits. -/
def padded (width n : Nat) : List Char :=
  let ds := Nat.toDigits 10 n
  List.replicate (width - ds.length) '0' ++ ds

def yearChars (y : Int) : List Char :=
  if 0 ≤ y ∧ y ≤ 9999 then padded 4 y.toNat
  else (if y < 0 then '-' else '+') :: padded 4 y.natAbs

/-- The fraction of a second, with its point. -/
def fractionChars (nanos : Nat) : List Char :=
  if nanos = 0 then []
  else if nanos % 1000000 = 0 then '.' :: padded 3 (nanos / 1000000)
  else if nanos % 1000 = 0 then '.' :: padded 6 (nanos / 1000)
  else '.' :: padded 9 nanos

def chars (i : Instant) : List Char :=
  let date := Date.ofDays (i.seconds / 86400)
  let second := (i.seconds % 86400).toNat
  let leap := i.nanos / 1000000000
  yearChars date.year ++ '-' :: padded 2 date.month ++ '-' :: padded 2 date.day ++
    'T' :: padded 2 (second / 3600) ++ ':' :: padded 2 (second / 60 % 60) ++
    ':' :: padded 2 (second % 60 + leap) ++ fractionChars (i.nanos % 1000000000) ++ ['Z']

def write (i : Instant) : String :=
  String.ofList i.chars

/-! ## Reading -/

def skipBlanks (cs : List Char) : List Char :=
  cs.dropWhile Text.isBlank

/-- The number that so many digits at the front make, after any blanks. -/
def readNumber? (width : Nat) (cs : List Char) : Option (Nat × List Char) :=
  let cs := skipBlanks cs
  let ds := (cs.take width).takeWhile Char.isDigit
  if ds.isEmpty then none
  else some (ds.foldl (fun n c => n * 10 + (c.toNat - '0'.toNat)) 0, cs.drop ds.length)

/-- A separator at the front, after any blanks. -/
def readSeparator? (sep : Char) (cs : List Char) : Option (List Char) :=
  match skipBlanks cs with
  | c :: cs => if c = sep then some cs else none
  | [] => none

/-- A year: four digits at most, or a sign and any number of them. -/
def readYear? (cs : List Char) : Option (Int × List Char) :=
  match skipBlanks cs with
  | [] => none
  | c :: cs =>
    let signed := cs.length
    let unblanked := cs.takeWhile Char.isDigit
    if c = '-' ∨ c = '+' then
      if unblanked.isEmpty then none
      else (readNumber? signed cs).map fun (n, cs) => (if c = '-' then -(n : Int) else n, cs)
    else (readNumber? 4 (c :: cs)).map fun (n, cs) => ((n : Int), cs)

/-- The fraction of a second in nanoseconds; digits after the ninth do not count. -/
def readFraction? : List Char → Option (Nat × List Char)
  | [] => some (0, [])
  | c :: cs =>
    if c = '.' then
      let ds := cs.takeWhile Char.isDigit
      if ds.isEmpty then none
      else
        let kept := ds.take 9
        let value := kept.foldl (fun n c => n * 10 + (c.toNat - '0'.toNat)) 0
        some (value * Nat.pow 10 (9 - kept.length), cs.dropWhile Char.isDigit)
    else some (0, c :: cs)

/-- Exactly two digits. -/
def readPair? : List Char → Option (Nat × List Char)
  | a :: b :: cs =>
    if a.isDigit ∧ b.isDigit then
      some ((a.toNat - '0'.toNat) * 10 + (b.toNat - '0'.toNat), cs)
    else none
  | _ => none

/-- An offset from universal time in seconds: a letter or the name for none, or a sign, hours and
minutes with colons or blanks between them. -/
def readOffset? (cs : List Char) : Option (Int × List Char) :=
  match cs with
  | [] => none
  | c :: rest =>
    if (cs.take 3).map Char.toUpper = "UTC".toList then some (0, cs.drop 3)
    else if c = 'Z' ∨ c = 'z' then some (0, rest)
    else if c = '+' ∨ c = '-' ∨ c = '\u2212' then do
      let (hours, rest) ← readPair? rest
      let (minutes, rest) ← readPair? (rest.dropWhile fun c => c = ':' || Text.isBlank c)
      if minutes < 60 then
        let offset : Int := hours * 3600 + minutes * 60
        some (if c = '+' then offset else -offset, rest)
      else none
    else none

/-- The instant that a text names. -/
def read? (s : String) : Option Instant := do
  let (year, cs) ← readYear? s.toList
  let cs ← readSeparator? '-' cs
  let (month, cs) ← readNumber? 2 cs
  let cs ← readSeparator? '-' cs
  let (day, cs) ← readNumber? 2 cs
  let cs ← match cs with
    | c :: cs => if c = 'T' ∨ c = 't' ∨ c = ' ' then some cs else none
    | [] => none
  let (hour, cs) ← readNumber? 2 cs
  let cs ← readSeparator? ':' cs
  let (minute, cs) ← readNumber? 2 cs
  let cs ← readSeparator? ':' cs
  let (second, cs) ← readNumber? 2 cs
  let (nanos, cs) ← readFraction? cs
  let (offset, cs) ← readOffset? (skipBlanks cs)
  let date : Date := ⟨year, month, day⟩
  if (skipBlanks cs).isEmpty ∧ date.exists? ∧ minYear ≤ year ∧ year ≤ maxYear ∧
      hour < 24 ∧ minute < 60 ∧ second ≤ 60 ∧ offset.natAbs < 86400 then
    let leap := second / 60
    let seconds := date.toDays * 86400 + hour * 3600 + minute * 60 + (second - leap) - offset
    if minSeconds ≤ seconds ∧ seconds ≤ maxSeconds then
      some ⟨seconds, nanos + leap * 1000000000⟩
    else none
  else none

end Instant

end Metering.Time
