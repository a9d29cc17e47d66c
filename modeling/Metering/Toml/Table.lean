import Metering.Json.Basic

/-!
# The tables of a settings file

A settings file builds its tables bit by bit: a header opens a table, and the
tables on the way to it come into being in passing; a dotted name in front of
a value does the same below the table it stands in. What may still be added to
a table depends on how it came about, which is its `Origin`. A header may take
over a table that only came about in passing, a dotted name may go on where a
dotted name has been, and nothing is ever defined twice.
-/

namespace Metering.Toml

/-- How a table came about. -/
inductive Origin where
  /-- It has a header, or braces, of its own. -/
  | own
  /-- It lies on the way to a table with a header. -/
  | passing
  /-- It lies on the way of a dotted name. -/
  | dotted
deriving DecidableEq, Repr, Inhabited

/-- What stands under a name: a value, a table, or a list of tables that headers in double brackets
add to, of which the last one is open. -/
inductive Entry where
  | value (j : Json)
  | table (origin : Origin) (fields : List (String × Entry))
  | tables (earlier : List (List (String × Entry))) (last : List (String × Entry))
deriving Repr, Inhabited

abbrev Table := List (String × Entry)

namespace Table

/-- The table with something else under a name. -/
def replace (name : String) (e : Entry) (t : Table) : Table :=
  t.map fun f => if f.1 = name then (name, e) else f

/-- The table with something under a new name. -/
def add (name : String) (e : Entry) (t : Table) : Table := t ++ [(name, e)]

/-- Changes the table at the end of a path. Tables that are missing on the way come about by a
dotted name or in passing, and a list of tables is gone through by its last one. A dotted name does
not go into a table with a header or braces of its own. -/
def modify (dotted : Bool) (f : Origin → Table → Option Table) :
    List String → Origin → Table → Option Table
  | [], origin, t => f origin t
  | name :: path, _, t =>
    match t.lookup name with
    | none => do
      let origin : Origin := if dotted then .dotted else .passing
      pure (t.add name (.table origin (← modify dotted f path origin [])))
    | some (.value _) => none
    | some (.table origin fields) =>
      if dotted && origin = .own then none
      else do pure (t.replace name (.table origin (← modify dotted f path origin fields)))
    | some (.tables earlier last) => do
      pure (t.replace name (.tables earlier (← modify dotted f path .own last)))

/-- Puts a value under a dotted name, the last part of which is given apart. It goes into a table
that dotted names have made if there is a dot in the name, and into no such table if there is
none. -/
def insert (path : List String) (name : String) (j : Json) : Origin → Table → Option Table :=
  modify true (fun origin t =>
    if (origin = .dotted) = path.isEmpty ∨ (t.lookup name).isSome then none
    else some (t.add name (.value j))) path

/-- Opens the table of a header. -/
def define (name : String) (t : Table) : Option Table :=
  match t.lookup name with
  | none => some (t.add name (.table .own []))
  | some (.table .passing fields) => some (t.replace name (.table .own fields))
  | _ => none

/-- Opens a further table of the list of a header in double brackets. -/
def extend (name : String) (t : Table) : Option Table :=
  match t.lookup name with
  | none => some (t.add name (.tables [] []))
  | some (.tables earlier last) => some (t.replace name (.tables (earlier ++ [last]) []))
  | _ => none

end Table

mutual

/-- The document that an entry stands for. -/
def Entry.toJson : Entry → Json
  | .value j => j
  | .table _ fields => .obj (fieldsToJson fields)
  | .tables earlier last => .arr (tablesToJson earlier ++ [.obj (fieldsToJson last)])

def fieldsToJson : List (String × Entry) → List (String × Json)
  | [] => []
  | (name, e) :: rest => (name, e.toJson) :: fieldsToJson rest

def tablesToJson : List (List (String × Entry)) → List Json
  | [] => []
  | t :: rest => .obj (fieldsToJson t) :: tablesToJson rest

end

/-- The document that a table stands for. -/
def Table.toJson (t : Table) : Json := .obj (fieldsToJson t)

end Metering.Toml
