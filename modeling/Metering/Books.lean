import Metering.Consumer
import Metering.Decimal.Whole
import Metering.Ledger
import Metering.Word

/-!
# The books of a kind

The books of a kind are its ledger, the registry of its consumers and the row
counts that were recorded for the ledger. A record is a text whose first word
is a count; it may be older than the ledger, and it may not be a count at all.
Analyzing the ledger replaces the records by the count of the moment, or by
nothing while the ledger is empty.
-/

namespace Metering

structure Books where
  ledger : Ledger
  consumers : Registry
  /-- The recorded row counts; a record may have no text. -/
  statistics : List (Option String)
deriving DecidableEq, Repr, Inhabited

/-- Records of row counts, as texts. -/
abbrev Statistics := List (Option String)

namespace Statistics

/-- The unsigned 64-bit number that a word is. -/
def count? (word : String) : Option Nat := Decimal.unsigned? Word.max word

/-- The largest count that any record starts with. -/
def largest? (records : Statistics) : Option Nat :=
  (records.filterMap fun r => r.bind fun s => (Text.firstWord? s).bind count?).max?

/-- What analyzing a table of so many rows records. -/
def ofCount (rows : Nat) : Statistics :=
  if rows = 0 then [] else [some (toString rows)]

end Statistics

namespace Books

def empty : Books := ⟨Ledger.empty, [], []⟩

/-- The number of events. -/
def size (b : Books) : Nat := b.ledger.rows.length

/-- Records the current row count. -/
def analyze (b : Books) : Books :=
  { b with statistics := Statistics.ofCount b.size }

end Books

/-- A way to tell how many events a ledger holds. -/
inductive Estimator where
  /-- Counts the events. -/
  | exact
  /-- Takes the recorded count, and counts only where there is none. -/
  | recorded
  /-- Gives an answer from elsewhere. -/
  | told (answer : Except Error Nat)

namespace Estimator

def estimate (b : Books) : Estimator → Except Error Nat
  | .exact => .ok b.size
  | .recorded => .ok ((Statistics.largest? b.statistics).getD b.size)
  | .told answer => answer

/-- Whether an estimator looks at the ledger. -/
def looks : Estimator → Bool
  | .told _ => false
  | _ => true

end Estimator

end Metering
