import Metering.Event
import Metering.Page

/-!
# Ledgers

A ledger is the sequence of a kind's events in the order they were appended,
under identifiers that rise and are never given out twice: the next one is one
above the highest ever given. Reading after an event goes by identifier, so a
reader that remembers the last event it saw misses none and sees none twice.

A guard on an event refuses the event's deletion, and with it every other
deletion of the same statement.
-/

namespace Metering

structure Ledger where
  /-- The events, oldest first. -/
  rows : List EventRow
  /-- The highest identifier given out so far. -/
  issued : Int
  /-- The guids of the events that must not be deleted. -/
  guarded : List String
deriving DecidableEq, Repr, Inhabited

namespace Ledger

def empty : Ledger := ⟨[], 0, []⟩

/-- The event with a guid. -/
def row? (l : Ledger) (guid : String) : Option EventRow :=
  l.rows.find? (·.guid = guid)

def contains (l : Ledger) (guid : String) : Bool :=
  l.rows.any (·.guid = guid)

/-- How an event that is not there is named in an error. -/
def missing (kind : Kind) (guid : String) : Error :=
  .notFound (kind.name ++ " event " ++ guid)

/-- Puts a row at the end, unless its guid is taken. -/
def insert (kind : Kind) (row : Int → EventRow) (l : Ledger) : Except Error (EventRow × Ledger) :=
  let r := row (l.issued + 1)
  if l.contains r.guid then .error (.database (.unique [kind.eventTable ++ ".guid"]))
  else .ok (r, { l with rows := l.rows ++ [r], issued := l.issued + 1 })

/-- Appends an event and reads it back. The event is in the ledger even when reading it back
fails. -/
def append (kind : Kind) (now : Int) (fresh : String) (e : NewEvent) (l : Ledger) :
    Except Error Event × Ledger :=
  match l.insert kind (fun id => e.toRow kind now fresh id) with
  | .error err => (.error err, l)
  | .ok (r, l') => (r.decode, l')

/-- Appends events all or none. -/
def appendAll (kind : Kind) (now : Int) (es : List NewEvent) (l : Ledger) : Except Error Ledger :=
  es.foldlM (fun l e =>
    match l.append kind now "" e with
    | (.ok _, l') => .ok l'
    | (.error err, _) => .error err) l

def find (guid : String) (l : Ledger) : Except Error (Option Event) :=
  match l.row? guid with
  | none => .ok none
  | some r => r.decode.map some

/-- The event with the highest identifier. -/
def latest (l : Ledger) : Except Error (Option Event) :=
  match l.rows.getLast? with
  | none => .ok none
  | some r => r.decode.map some

/-- The events after the one with a guid, or all of them, oldest first, up to a limit. -/
def eventsAfter (kind : Kind) (after : Option String) (limit : Nat) (l : Ledger) :
    Except Error (List Event) := do
  let start ← match after with
    | none => pure 0
    | some guid =>
      match l.row? guid with
      | some r => pure r.id
      | none => throw (missing kind guid)
  EventRow.decodeAll (Page.take limit (l.rows.filter (start < ·.id)))

/-- Changes the stored form of the event with a guid. -/
def amend (guid : String) (change : EventRow → EventRow) (l : Ledger) : Nat × Ledger :=
  ((l.rows.filter (·.guid = guid)).length,
    { l with rows := l.rows.map fun r => if r.guid = guid then change r else r })

def guardEvent (guid : String) (l : Ledger) : Ledger :=
  { l with guarded := guid :: l.guarded }

def unguardEvent (guid : String) (l : Ledger) : Ledger :=
  { l with guarded := l.guarded.filter (· ≠ guid) }

/-- Deletes the events with these identifiers in one statement, which a guard on any of them
undoes. -/
def delete (ids : List Int) (l : Ledger) : Except Error (Nat × Ledger) :=
  let doomed := l.rows.filter fun r => ids.contains r.id
  if doomed.any fun r => l.guarded.contains r.guid then .error (.database .guarded)
  else .ok (doomed.length, { l with rows := l.rows.filter fun r => ! ids.contains r.id })

end Ledger

end Metering
