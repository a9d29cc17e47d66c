import Metering.Toml.Value

/-!
# Settings files

A settings file is a sequence of lines, each a value under a name, the header
of a table, or neither; a value may run over several lines. The lines are read
one after the other into the tables they build. The file is then one document,
in which a reader of settings finds its records.
-/

namespace Metering.Toml

/-- The tables so far, and the path to the one that is open. -/
structure Draft where
  root : Table
  here : List String
deriving Repr

namespace Draft

def empty : Draft := ⟨[], []⟩

/-- Puts a value under a dotted name of the open table. -/
def insert (path : List String) (name : String) (j : Json) (d : Draft) : Option Draft := do
  let root ← Table.modify false (Table.insert path name j) d.here .own d.root
  pure { d with root := root }

/-- Opens the table at a path, in its parent's own way. -/
def enter (f : String → Table → Option Table) (path : List String) (name : String) (d : Draft) :
    Option Draft := do
  pure ⟨← Table.modify false (fun _ => f name) path .own d.root, path ++ [name]⟩

end Draft

/-- What follows so many closing brackets. -/
def afterBrackets? : Nat → List Char → Option (List Char)
  | 0, cs => some cs
  | n + 1, cs => (afterOne? [']'] cs).bind (afterBrackets? n)

/-- A header behind its opening brackets, of which there are one or two. -/
def readHeader (brackets : Nat) (f : String → Table → Option Table) (d : Draft) : Reader Draft :=
  fun cs => do
    let ((path, name), cs) ← readName cs
    let rest ← afterLine? (← afterBrackets? brackets cs)
    pure (← d.enter f path name, rest)

/-- A value under a name. -/
def readPair (fuel : Nat) (d : Draft) : Reader Draft := fun cs => do
  let ((path, name), cs) ← readName cs
  let (x, cs) ← readValue 0 fuel (← afterEquals? cs)
  let rest ← afterLine? cs
  pure (← d.insert path name x, rest)

/-- One line that is not empty, whose values take at most so many steps. -/
def readEntry (fuel : Nat) (d : Draft) (cs : List Char) : Option (Draft × List Char) :=
  match afterOne? ['['] cs with
  | some rest =>
    match afterOne? ['['] rest with
    | some rest => readHeader 2 Table.extend d rest
    | none => readHeader 1 Table.define d rest
  | none => readPair fuel d cs

/-- The tables that the lines of a text build. -/
def readAll : Nat → Draft → List Char → Option Draft
  | 0, _, _ => none
  | fuel + 1, d, cs =>
    match skipTrivia false cs with
    | [] => some d
    | rest => do
      let (d, rest) ← readEntry fuel d rest
      readAll fuel d rest

/-- A mark that may stand in front of a text. -/
def dropMark : List Char → List Char
  | c :: cs => if c = '\ufeff' then cs else c :: cs
  | [] => []

/-- The document that a settings file is. -/
def read? (s : String) : Option Json :=
  let cs := dropMark s.toList
  (readAll (cs.length + 1) .empty cs).map fun d => d.root.toJson

end Metering.Toml
