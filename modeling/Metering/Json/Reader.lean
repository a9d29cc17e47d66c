import Metering.Json.Basic
import Metering.Json.Token

/-!
# Reading a document

The tokens of a document are read one after the other by a machine whose state
is the stack of brackets that are still open, with what stands inside each so
far, and what may come next. There is no look-ahead and no going back, so a
text is read in one pass, and whatever the machine has no move for is not a
document. Brackets nest to a limited depth: a text that opens one more is
refused, however it goes on.
-/

namespace Metering.Json

open Metering.Decimal (Number)

/-- A bracket that is open, with what stands inside it so far, the last first. A record whose
next value has not come yet has the value's name on top. -/
inductive Frame where
  | list (items : List Json)
  | record (fields : List (String × Json))
  | named (name : String)
deriving Repr, BEq, Inhabited

/-- What may come next. -/
inductive Expecting where
  | value
  | valueOrClose
  | name
  | nameOrClose
  | colon (name : String)
  | separator
  | done (result : Json)
deriving Repr, BEq, Inhabited

/-- The open brackets, innermost first, their number, and what may come next. -/
structure ReaderState where
  stack : List Frame
  depth : Nat
  expecting : Expecting
deriving Repr, BEq, Inhabited

namespace ReaderState

def start : ReaderState := ⟨[], 0, .value⟩

/-- A value has ended: it goes into the innermost open bracket, or it is the document. -/
def put (v : Json) (stack : List Frame) (depth : Nat) : Option ReaderState :=
  match stack with
  | [] => some ⟨[], depth, .done v⟩
  | .list items :: rest => some ⟨.list (v :: items) :: rest, depth, .separator⟩
  | .named n :: .record fields :: rest =>
    some ⟨.record ((n, v) :: fields) :: rest, depth, .separator⟩
  | _ => none

/-- A token where a value may start. -/
def startValue (limit : Nat) (s : ReaderState) : Token → Option ReaderState
  | .null => put .null s.stack s.depth
  | .bool b => put (.bool b) s.stack s.depth
  | .number (.int n) => put (.int n) s.stack s.depth
  | .number (.real x) => put (.real x) s.stack s.depth
  | .text t => put (.str t) s.stack s.depth
  | .openList =>
    if s.depth < limit then some ⟨.list [] :: s.stack, s.depth + 1, .valueOrClose⟩ else none
  | .openRecord =>
    if s.depth < limit then some ⟨.record [] :: s.stack, s.depth + 1, .nameOrClose⟩ else none
  | _ => none

/-- A closing bracket: it must fit the innermost open one. -/
def close (s : ReaderState) : Token → Option ReaderState
  | .closeList =>
    match s.stack with
    | .list items :: rest => put (.arr items.reverse) rest (s.depth - 1)
    | _ => none
  | .closeRecord =>
    match s.stack with
    | .record fields :: rest => put (.obj fields.reverse) rest (s.depth - 1)
    | _ => none
  | _ => none

/-- A comma: after it a list goes on with a value and a record with a name. -/
def comma (s : ReaderState) : Option ReaderState :=
  match s.stack with
  | .list _ :: _ => some { s with expecting := .value }
  | .record _ :: _ => some { s with expecting := .name }
  | _ => none

/-- One move of the reader. -/
def step (limit : Nat) (s : ReaderState) (t : Token) : Option ReaderState :=
  match s.expecting with
  | .value => s.startValue limit t
  | .valueOrClose =>
    match t with
    | .closeList => s.close .closeList
    | t => s.startValue limit t
  | .name =>
    match t with
    | .text n => some { s with expecting := .colon n }
    | _ => none
  | .nameOrClose =>
    match t with
    | .text n => some { s with expecting := .colon n }
    | .closeRecord => s.close .closeRecord
    | _ => none
  | .colon n =>
    match t with
    | .colon => some ⟨.named n :: s.stack, s.depth, .value⟩
    | _ => none
  | .separator =>
    match t with
    | .comma => s.comma
    | t => s.close t
  | .done _ => none

/-- The document, once it has been read whole. -/
def result? (s : ReaderState) : Option Json :=
  match s.expecting with
  | .done v => some v
  | _ => none

end ReaderState

/-- The document that a sequence of tokens is, with brackets at most `limit` deep. -/
def ofTokens? (limit : Nat) (tokens : List Token) : Option Json :=
  (tokens.foldlM (ReaderState.step limit) ReaderState.start).bind ReaderState.result?

/-- The deepest nesting of brackets in a text that is read. -/
def maxDepth : Nat := 127

/-- The document that a text is, with brackets at most `limit` deep. -/
def readWithin? (limit : Nat) (s : String) : Option Json :=
  (Token.readAll [] s.toList).bind (ofTokens? limit)

/-- The document that a text is. -/
def read? (s : String) : Option Json :=
  readWithin? maxDepth s

end Metering.Json
