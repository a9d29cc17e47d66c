import Metering.Json.Printer

/-!
# Documents for people

The lines of a document that is meant to be read: every item and every field
has a line of its own, two blanks further in than the brackets around it. An
empty list or record stays on one line.
-/

namespace Metering.Json

/-- A line break and the blanks in front of the next line. -/
def newLine (depth : Nat) : List Char :=
  '\n' :: List.replicate (2 * depth) ' '

mutual

/-- The characters of a document inside so many brackets. -/
def prettyChars (depth : Nat) : Json → List Char
  | .arr [] => ['[', ']']
  | .arr (x :: rest) =>
    '[' :: (newLine (depth + 1) ++ prettyChars (depth + 1) x ++ prettyItems depth rest)
  | .obj [] => ['\x7b', '\x7d']
  | .obj ((n, v) :: rest) =>
    '\x7b' :: (newLine (depth + 1) ++ Token.quote n ++ ':' :: ' ' :: prettyChars (depth + 1) v ++
      prettyFields depth rest)
  | .null => Token.write .null
  | .bool b => Token.write (.bool b)
  | .int n => Token.write (.number (.int n))
  | .real x => Token.write (.number (.real x))
  | .str s => Token.quote s

/-- The items of a list after its first one, and its end. -/
def prettyItems (depth : Nat) : List Json → List Char
  | [] => newLine depth ++ [']']
  | x :: rest =>
    ',' :: (newLine (depth + 1) ++ prettyChars (depth + 1) x ++ prettyItems depth rest)

/-- The fields of a record after its first one, and its end. -/
def prettyFields (depth : Nat) : List (String × Json) → List Char
  | [] => newLine depth ++ ['\x7d']
  | (n, v) :: rest =>
    ',' :: (newLine (depth + 1) ++ Token.quote n ++ ':' :: ' ' :: prettyChars (depth + 1) v ++
      prettyFields depth rest)

end

/-- The text of a document, with a line for every part. -/
def pretty (j : Json) : String :=
  String.ofList (j.prettyChars 0)

end Metering.Json
