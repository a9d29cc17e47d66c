import Metering.Error

/-!
# Tables of the inventory

The platform keeps what it runs in tables whose rows have a number and a guid.
Numbers rise and are not given out again, and no two rows of a table share a
guid. Other tables name a row by its number or by its guid.
-/

namespace Metering.Inventory

structure Entry (α : Type) where
  id : Nat
  guid : String
  value : α
deriving DecidableEq, Repr

structure Table (α : Type) where
  entries : List (Entry α)
  /-- The highest number given out so far. -/
  issued : Nat
deriving DecidableEq, Repr

namespace Table

variable {α : Type}

def empty : Table α := ⟨[], 0⟩

instance : Inhabited (Table α) := ⟨empty⟩

def withGuid? (guid : String) (t : Table α) : Option (Entry α) :=
  t.entries.find? (·.guid = guid)

def withId? (id : Nat) (t : Table α) : Option (Entry α) :=
  t.entries.find? (·.id = id)

def size (t : Table α) : Nat := t.entries.length

/-- Adds a row to the table of a name, unless its guid is taken. -/
def insert (name guid : String) (value : α) (t : Table α) : Except Error (Table α) :=
  if (t.withGuid? guid).isSome then .error (.database (.unique [name ++ ".guid"]))
  else .ok ⟨t.entries ++ [⟨t.issued + 1, guid, value⟩], t.issued + 1⟩

def remove (guid : String) (t : Table α) : Table α :=
  { t with entries := t.entries.filter (·.guid ≠ guid) }

/-- Changes the row with a guid. -/
def amend (guid : String) (change : α → α) (t : Table α) : Table α :=
  { t with entries := t.entries.map fun e =>
      if e.guid = guid then { e with value := change e.value } else e }

/-- The number of rows with a guid. -/
def count (guid : String) (t : Table α) : Nat :=
  (t.entries.filter (·.guid = guid)).length

end Table

end Metering.Inventory
