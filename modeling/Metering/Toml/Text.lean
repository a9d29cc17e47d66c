import Metering.Json.Token

/-!
# Text in a settings file

The parts of a settings file that hold free text: the gaps and comments
between its words, the ends of its lines, and the four ways to quote. A quoted
text is read in two steps. The first finds where it ends, the second says
which characters it stands for, so that the second is a recursion on a text of
known extent.
-/

namespace Metering.Toml

/-- What is read off the front of a text, and what follows it. -/
abbrev Reader (α : Type) := List Char → Option (α × List Char)

/-- The characters between the words of a line. -/
def isGap (c : Char) : Bool := c = ' ' || c = '\t'

/-- The characters that stand for themselves: all but the controls. -/
def isPlain (c : Char) : Bool := c = '\t' || (0x20 ≤ c.toNat && c.toNat ≠ 0x7f)

def skipGaps (cs : List Char) : List Char := cs.dropWhile isGap

/-- What follows a line break at the front of a text. -/
def afterBreak? : List Char → Option (List Char)
  | c :: cs =>
    if c = '\n' then some cs
    else if c = '\r' then
      match cs with
      | d :: ds => if d = '\n' then some ds else none
      | [] => none
    else none
  | [] => none

/-- What follows a comment, if there is one. -/
def skipComment : List Char → List Char
  | c :: cs => if c = '#' then cs.dropWhile isPlain else c :: cs
  | [] => []

/-- What follows the end of a line: gaps, a comment and a break, or the end of the text. -/
def afterLine? (cs : List Char) : Option (List Char) :=
  match skipComment (skipGaps cs) with
  | [] => some []
  | rest => afterBreak? rest

/-- What follows gaps, breaks and comments, begun inside a comment or outside. -/
def skipTrivia (comment : Bool) : List Char → List Char
  | [] => []
  | c :: cs =>
    if c = '\n' then skipTrivia false cs
    else if (comment && isPlain c) || c = '#' then skipTrivia true cs
    else if isGap c then skipTrivia false cs
    else if c = '\r' then
      match cs with
      | d :: ds => if d = '\n' then skipTrivia false ds else c :: cs
      | [] => c :: cs
    else c :: cs

/-! ## Where a quoted text ends -/

/-- The characters up to a quote, behind those already read. A backslash, where it escapes, takes
the next character with it. -/
def untilQuote (quote : Char) (escapes : Bool) (acc : List Char) : Reader (List Char)
  | [] => none
  | c :: cs =>
    if c = quote then some (acc.reverse, cs)
    else if escapes && c = '\\' then
      match cs with
      | [] => none
      | e :: cs => untilQuote quote escapes (e :: c :: acc) cs
    else untilQuote quote escapes (c :: acc) cs

/-- The characters up to three quotes in a row, behind those already read and so many quotes that
have just been. One or two more quotes may stand before the three that close, and belong to the
text. -/
def untilTripleQuote (quote : Char) (escapes : Bool) (acc : List Char) (run : Nat) :
    Reader (List Char)
  | [] => if 3 ≤ run then some (acc.reverse ++ List.replicate (run - 3) quote, []) else none
  | c :: cs =>
    if c = quote then
      if run = 4 then some (acc.reverse ++ [quote, quote], cs)
      else untilTripleQuote quote escapes acc (run + 1) cs
    else if 3 ≤ run then some (acc.reverse ++ List.replicate (run - 3) quote, c :: cs)
    else
      let acc := List.replicate run quote ++ acc
      if escapes && c = '\\' then
        match cs with
        | [] => none
        | e :: cs => untilTripleQuote quote escapes (e :: c :: acc) 0 cs
      else untilTripleQuote quote escapes (c :: acc) 0 cs

/-! ## What a quoted text stands for -/

/-- The text with every line break written as one character. -/
def joinBreaks : List Char → List Char
  | [] => []
  | c :: cs => if c = '\r' && cs.head? = some '\n' then joinBreaks cs else c :: joinBreaks cs

/-- A break right behind the opening quotes is no part of the text. -/
def dropFirstBreak : List Char → List Char
  | c :: cs => if c = '\n' then cs else c :: cs
  | [] => []

/-- The character that a one-letter escape stands for. -/
def unescape? (c : Char) : Option Char :=
  if c = '"' then some '"'
  else if c = '\\' then some '\\'
  else if c = 'b' then some '\x08'
  else if c = 'f' then some '\x0c'
  else if c = 'n' then some '\n'
  else if c = 'r' then some '\r'
  else if c = 't' then some '\t'
  else none

/-- The character whose number these hexadecimal digits are. -/
def ofHex? (ds : List Char) : Option Char := do
  let n ← ds.foldlM (fun n d => (Json.Token.hexValue? d).map (n * 16 + ·)) 0
  if n.isValidChar then pure (Char.ofNat n) else none

/-- Where a reader stands in a line that a backslash at its end joins to the next text. -/
inductive Joint where
  | none
  /-- Behind the backslash: only gaps may come before the break. -/
  | before
  /-- Behind the break: further gaps and breaks are left out. -/
  | after
deriving DecidableEq, Repr

/-- The characters that a text with escapes stands for, in one line or over several. -/
def expand (lines : Bool) (joint : Joint) : List Char → Option (List Char)
  | [] => if joint = .before then none else some []
  | c :: cs =>
    if joint = .before then
      if isGap c then expand lines .before cs
      else if c = '\n' then expand lines .after cs
      else none
    else if joint = .after && (isGap c || c = '\n') then expand lines .after cs
    else if c = '\\' then
      match cs with
      | [] => none
      | e :: cs =>
        if e = 'u' then
          match cs with
          | a :: b :: c :: d :: cs => do
            let x ← ofHex? [a, b, c, d]
            let rest ← expand lines .none cs
            pure (x :: rest)
          | _ => none
        else if e = 'U' then
          match cs with
          | a :: b :: c :: d :: a' :: b' :: c' :: d' :: cs => do
            let x ← ofHex? [a, b, c, d, a', b', c', d']
            let rest ← expand lines .none cs
            pure (x :: rest)
          | _ => none
        else
          match unescape? e with
          | some x => (expand lines .none cs).map (x :: ·)
          | none =>
            if lines && isGap e then expand lines .before cs
            else if lines && e = '\n' then expand lines .after cs
            else none
    else if isPlain c || (lines && c = '\n') then (expand lines .none cs).map (c :: ·)
    else none

/-- A text without escapes stands for itself. -/
def verbatim (lines : Bool) (cs : List Char) : Option (List Char) :=
  if cs.all (fun c => isPlain c || (lines && c = '\n')) then some cs else none

/-- What a text between quotes stands for. -/
def decode (quote : Char) (lines : Bool) (cs : List Char) : Option String :=
  (if quote = '"' then expand lines .none cs else verbatim lines cs).map String.ofList

/-- A text in one line, behind its opening quote. -/
def readLine (quote : Char) : Reader String := fun cs => do
  let (body, rest) ← untilQuote quote (quote = '"') [] cs
  pure (← decode quote false body, rest)

/-- A text of several lines, behind its three opening quotes. -/
def readLines (quote : Char) : Reader String := fun cs => do
  let (body, rest) ← untilTripleQuote quote (quote = '"') [] 0 cs
  pure (← decode quote true (dropFirstBreak (joinBreaks body)), rest)

/-- A quoted text behind its first quote. -/
def readQuoted (quote : Char) : Reader String
  | a :: b :: cs =>
    if a = quote ∧ b = quote then readLines quote cs else readLine quote (a :: b :: cs)
  | cs => readLine quote cs

end Metering.Toml
