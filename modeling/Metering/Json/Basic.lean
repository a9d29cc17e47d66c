import Metering.Decimal.Scaled

/-!
# Document values

Events carry a free-form document and every answer is one, so the library has
its own type for them. A record keeps its fields in the order they were given,
repeated names included, because a reader of a typed record has to see the
repetition. `Json.normalize` is the other view: fields in rising order of
their names, of a repeated name the last one. A document that is stored is
normalized first.
-/

namespace Metering

open Metering.Decimal (Binary64)

/-- A document. Whole numbers and real ones are different values. -/
inductive Json where
  | null
  | bool (b : Bool)
  | int (n : Int)
  | real (x : Binary64)
  | str (s : String)
  | arr (items : List Json)
  | obj (fields : List (String × Json))
deriving Repr, BEq, Inhabited

namespace Json

/-- Puts a field in its place among fields in rising order of names, over the one with its name. -/
def putField (name : String) (value : Json) : List (String × Json) → List (String × Json)
  | [] => [(name, value)]
  | (n, v) :: rest =>
    if name = n then (name, value) :: rest
    else if name < n then (name, value) :: (n, v) :: rest
    else (n, v) :: putField name value rest

mutual

/-- The document with the fields of every record in rising order of their names, the last of
several with one name. -/
def normalize : Json → Json
  | .arr items => .arr (normalizeItems items)
  | .obj fields => .obj (normalizeFields [] fields)
  | other => other

def normalizeItems : List Json → List Json
  | [] => []
  | x :: rest => normalize x :: normalizeItems rest

def normalizeFields (acc : List (String × Json)) : List (String × Json) → List (String × Json)
  | [] => acc
  | (n, v) :: rest => normalizeFields (putField n (normalize v) acc) rest

end

/-- The first field of a record with a name. -/
def field? (name : String) : Json → Option Json
  | .obj fields => fields.lookup name
  | _ => none

/-- An optional value, with the empty document for its absence. -/
def ofOption {α : Type} (write : α → Json) : Option α → Json
  | none => .null
  | some a => write a

def ofNat (n : Nat) : Json := .int n

end Json

end Metering
