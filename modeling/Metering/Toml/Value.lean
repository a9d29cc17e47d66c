import Metering.Toml.Scalar
import Metering.Toml.Table

/-!
# Names and values of a settings file

A name is a sequence of parts with dots between them, each part bare or
quoted. A value is a plain one, a list, or a table in braces, and values nest
to a limited depth. Reading a value never takes more steps than the text has
characters, so the text's own length is fuel enough.
-/

namespace Metering.Toml

/-- Lists and braces nest less deep than this, and a name has fewer parts. -/
def depthLimit : Nat := 80

def isBare (c : Char) : Bool :=
  c.isAlphanum || c = '_' || c = '-'

/-- One part of a name. -/
def readPart : Reader String
  | [] => none
  | c :: cs =>
    if c = '"' ∨ c = '\'' then readLine c cs
    else
      match (c :: cs).takeWhile isBare with
      | [] => none
      | part => some (String.ofList part, (c :: cs).dropWhile isBare)

/-- The parts of a name, with gaps around each of them. -/
def readParts : Nat → Reader (List String)
  | 0, _ => none
  | fuel + 1, cs => do
    let (part, cs) ← readPart (skipGaps cs)
    match skipGaps cs with
    | c :: cs =>
      if c = '.' then (readParts fuel cs).map fun (parts, rest) => (part :: parts, rest)
      else pure ([part], c :: cs)
    | [] => pure ([part], [])

/-- A dotted name: the parts in front of its last one, and that. -/
def readName : Reader (List String × String) := fun cs => do
  let (parts, rest) ← readParts depthLimit cs
  if depthLimit ≤ parts.length then none
  else pure ((parts.dropLast, ← parts.getLast?), rest)

/-- What follows an equals sign and gaps. -/
def afterEquals? : List Char → Option (List Char)
  | c :: cs => if c = '=' then some (skipGaps cs) else none
  | [] => none

mutual

/-- A value, inside so many brackets. -/
def readValue (depth : Nat) : Nat → Reader Json
  | 0, _ => none
  | fuel + 1, cs =>
    match cs with
    | [] => none
    | c :: rest =>
      if c = '[' then
        if depthLimit ≤ depth + 1 then none
        else (readItems (depth + 1) fuel [] (skipTrivia false rest)).map fun (xs, rest) =>
          (.arr xs, rest)
      else if c = '\x7b' then
        if depthLimit ≤ depth + 1 then none
        else
          match skipGaps rest with
          | [] => none
          | d :: more =>
            if d = '\x7d' then some (.obj [], more)
            else (readFields (depth + 1) fuel [] (d :: more)).map fun (t, rest) => (t.toJson, rest)
      else readScalar (c :: rest)

/-- The items of a list up to its bracket, behind those already read, the last first. -/
def readItems (depth : Nat) : Nat → List Json → Reader (List Json)
  | 0, _, _ => none
  | fuel + 1, acc, cs =>
    match cs with
    | [] => none
    | c :: rest =>
      if c = ']' then some (acc.reverse, rest)
      else do
        let (x, cs) ← readValue depth fuel (c :: rest)
        match skipTrivia false cs with
        | [] => none
        | d :: more =>
          if d = ',' then readItems depth fuel (x :: acc) (skipTrivia false more)
          else if d = ']' then pure ((x :: acc).reverse, more)
          else none

/-- The fields of a table in braces up to the closing one, behind those already read. -/
def readFields (depth : Nat) : Nat → Table → Reader Table
  | 0, _, _ => none
  | fuel + 1, acc, cs => do
    let ((path, name), cs) ← readName cs
    let (x, cs) ← readValue depth fuel (← afterEquals? cs)
    let acc ← acc.insert path name x .own
    match skipGaps cs with
    | [] => none
    | d :: more =>
      if d = ',' then readFields depth fuel acc more
      else if d = '\x7d' then pure (acc, more)
      else none

end

end Metering.Toml
