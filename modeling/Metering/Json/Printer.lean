import Metering.Json.Basic
import Metering.Json.Token

/-!
# Writing a document

A document is written without any blanks, its fields in the order it keeps
them. The text is the text of its tokens one after the other, so that reading
and writing meet at the tokens.
-/

namespace Metering.Json

mutual

/-- The tokens of a document. -/
def tokens : Json → List Token
  | .null => [.null]
  | .bool b => [.bool b]
  | .int n => [.number (.int n)]
  | .real x => [.number (.real x)]
  | .str s => [.text s]
  | .arr [] => [.openList, .closeList]
  | .arr (x :: rest) => .openList :: (tokens x ++ itemTokens rest)
  | .obj [] => [.openRecord, .closeRecord]
  | .obj ((n, v) :: rest) => .openRecord :: .text n :: .colon :: (tokens v ++ fieldTokens rest)

/-- The items of a list after its first one, and its end. -/
def itemTokens : List Json → List Token
  | [] => [.closeList]
  | x :: rest => .comma :: (tokens x ++ itemTokens rest)

/-- The fields of a record after its first one, and its end. -/
def fieldTokens : List (String × Json) → List Token
  | [] => [.closeRecord]
  | (n, v) :: rest => .comma :: .text n :: .colon :: (tokens v ++ fieldTokens rest)

end

/-- The characters of a document's text. -/
def chars (j : Json) : List Char :=
  j.tokens.flatMap Token.write

/-- The text of a document. -/
def write (j : Json) : String :=
  String.ofList j.chars

end Metering.Json
