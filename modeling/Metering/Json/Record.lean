import Metering.Json.Basic
import Metering.Word

/-!
# Records in documents

A typed record is read from a document by the names of its fields: from a
record by name, or from a list by position, in the order the type lists them.
By name, a field of unknown name is passed over and a known name may come only
once. An optional field may be left out by name but not by position; a field
with a default may be left out either way.

Two families of documents are read, and they differ in two small points, which
`Dialect` names: whether a list may go on after the record's last field, and
how a bare choice is spelled when it is written as a record of one field.
-/

namespace Metering.Json

/-- The points in which families of documents differ. -/
structure Dialect where
  /-- A list may be longer than the record that is read from it. -/
  extraItems : Bool
  /-- A choice spelled as a record of one field has an empty record or list in it, not null. -/
  emptyForChoice : Bool
deriving DecidableEq, Repr

namespace Dialect

/-- Documents of the kind this library writes. -/
def plain : Dialect := ⟨false, false⟩

/-- Settings files. -/
def settings : Dialect := ⟨true, true⟩

end Dialect

/-- The fields given for a record. -/
structure Fields where
  byName : Bool
  given : List (String × Json)
deriving Repr

/-- The fields of a record whose type lists these names. -/
def fieldsOf? (d : Dialect) (names : List String) : Json → Option Fields
  | .obj fields =>
    let known := fields.filter fun f => names.contains f.1
    if (known.map (·.1)).Nodup then some ⟨true, known⟩ else none
  | .arr items =>
    if items.length ≤ names.length ∨ d.extraItems then some ⟨false, names.zip items⟩ else none
  | _ => none

namespace Fields

/-- A field that must be there. -/
def required {α : Type} (f : Fields) (name : String) (read : Json → Option α) : Option α :=
  (f.given.lookup name).bind read

/-- A field that may be null, and may be left out by name. -/
def optional {α : Type} (f : Fields) (name : String) (read : Json → Option α) :
    Option (Option α) :=
  match f.given.lookup name with
  | none => if f.byName then some none else none
  | some .null => some none
  | some j => (read j).map some

/-- A field that may be left out for its default. -/
def defaulted {α : Type} (f : Fields) (name : String) (default : α) (read : Json → Option α) :
    Option α :=
  match f.given.lookup name with
  | none => some default
  | some j => read j

end Fields

/-! ## Plain values -/

def text? : Json → Option String
  | .str s => some s
  | _ => none

def flag? : Json → Option Bool
  | .bool b => some b
  | _ => none

/-- A whole number between two bounds. -/
def intWithin? (low high : Int) : Json → Option Int
  | .int n => if low ≤ n ∧ n ≤ high then some n else none
  | _ => none

/-- A whole number of 64 bits with a sign. -/
def signed64? (j : Json) : Option Int :=
  j.intWithin? Word.minSigned Word.maxSigned

/-- A whole number of 64 bits without a sign. -/
def unsigned64? (j : Json) : Option Nat :=
  (j.intWithin? 0 Word.max).map Int.toNat

/-- A whole number of 32 bits without a sign. -/
def unsigned32? (j : Json) : Option Nat :=
  (j.intWithin? 0 Word.max32).map Int.toNat

/-- The items of a list, each read the same way. -/
def list? {α : Type} (read : Json → Option α) : Json → Option (List α)
  | .arr items => items.mapM read
  | _ => none

/-- Whether a document stands for nothing at all beside the name of a choice. -/
def isNothing (d : Dialect) : Json → Bool
  | .null => ! d.emptyForChoice
  | .obj [] => d.emptyForChoice
  | .arr [] => d.emptyForChoice
  | _ => false

/-- A choice by its name: a text, or a record of the one name with nothing in it. -/
def choice? {α : Type} (d : Dialect) (ofName? : String → Option α) : Json → Option α
  | .str s => ofName? s
  | .obj [(s, j)] => if j.isNothing d then ofName? s else none
  | _ => none

end Metering.Json
