/-!
# Blank characters

The characters that Unicode calls white space, and the two things done with
them: cutting them off both ends of a text and splitting a text at them. A
text is blank when nothing is left after the cut.
-/

namespace Metering.Text

/-- The characters with the Unicode property White_Space. -/
def isBlank (c : Char) : Bool :=
  let n := c.toNat
  (0x9 ≤ n && n ≤ 0xd) || n == 0x20 || n == 0x85 || n == 0xa0 || n == 0x1680 ||
    (0x2000 ≤ n && n ≤ 0x200a) || n == 0x2028 || n == 0x2029 || n == 0x202f ||
    n == 0x205f || n == 0x3000

/-- The text without the blanks at its two ends. -/
def trim (cs : List Char) : List Char :=
  ((cs.dropWhile isBlank).reverse.dropWhile isBlank).reverse

/-- A text of nothing but blanks, the empty one included. -/
def allBlank (s : String) : Bool :=
  s.toList.all isBlank

/-- The first stretch of a text without blanks, after the blanks before it. -/
def firstWord? (s : String) : Option String :=
  match (s.toList.dropWhile isBlank).takeWhile (! isBlank ·) with
  | [] => none
  | word => some (String.ofList word)

end Metering.Text
