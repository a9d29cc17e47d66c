import Metering.Json.Basic

/-!
# Codecs

A codec writes the values of a type as documents and reads them back, and
comes with the law that what was written is read as it was. Codecs are put
together from those of the parts, and the law goes along, so that a codec of a
large record needs no proof of its own.
-/

namespace Metering.Json

structure Codec (α : Type) where
  write : α → Json
  read? : Json → Option α
  read_write : ∀ a, read? (write a) = some a

namespace Codec

variable {α β : Type}

def text : Codec String where
  write := .str
  read?
    | .str s => some s
    | _ => none
  read_write _ := rfl

def int : Codec Int where
  write := .int
  read?
    | .int n => some n
    | _ => none
  read_write _ := rfl

def nat : Codec Nat where
  write n := .int n
  read?
    | .int n => if 0 ≤ n then some n.toNat else none
    | _ => none
  read_write n := by simp

def flag : Codec Bool where
  write := .bool
  read?
    | .bool b => some b
    | _ => none
  read_write _ := rfl

/-- The values of a type that are told apart by their names. -/
def named (name : α → String) (ofName? : String → Option α)
    (law : ∀ a, ofName? (name a) = some a) : Codec α where
  write a := .str (name a)
  read?
    | .str s => ofName? s
    | _ => none
  read_write := law

/-- Two values, the one after the other. -/
def pair (a : Codec α) (b : Codec β) : Codec (α × β) where
  write p := .arr [a.write p.1, b.write p.2]
  read?
    | .arr [x, y] => (a.read? x).bind fun u => (b.read? y).map fun v => (u, v)
    | _ => none
  read_write p := by simp [a.read_write, b.read_write]

/-- A value or none. A value is wrapped, so that one written as null is told apart from none. -/
def option (a : Codec α) : Codec (Option α) where
  write
    | none => .null
    | some x => .arr [a.write x]
  read?
    | .null => some none
    | .arr [x] => (a.read? x).map some
    | _ => none
  read_write
    | none => rfl
    | some x => by simp [a.read_write]

theorem mapM_read_write (a : Codec α) (xs : List α) :
    (xs.map a.write).mapM a.read? = some xs := by
  induction xs with
  | nil => rfl
  | cons x xs ih =>
    rw [List.map_cons, List.mapM_cons, a.read_write, ih]
    rfl

def list (a : Codec α) : Codec (List α) where
  write xs := .arr (xs.map a.write)
  read?
    | .arr js => js.mapM a.read?
    | _ => none
  read_write := a.mapM_read_write

/-- A codec for a type whose values are made of those of another. -/
def via (a : Codec α) (make : α → β) (parts : β → α) (law : ∀ b, make (parts b) = b) :
    Codec β where
  write b := a.write (parts b)
  read? j := (a.read? j).map make
  read_write b := by simp [a.read_write, law]

end Codec

end Metering.Json
