import Metering.Books
import Metering.Retention.Policy

/-!
# Which events may go

An event is expendable when it is older than the cutoff and nothing protects
it. The newest event of the ledger may be kept; in normal mode the events from
the lowest watermark up may be kept, since some consumer has yet to read past
them; and in normal mode an event that opens the use of a resource may be kept
until one that closes it again, no earlier in time, is expendable by the other
rules. So a resource's opening and closing events go together.

All of it is judged on one state of the books. `Window` holds what the rules
take from the books as a whole, so that each event is judged by itself.
-/

namespace Metering.Retention

/-- The limits that every expendable event stays under. -/
structure Window where
  /-- Events from this moment on are kept. -/
  cutoff : Int
  /-- Events from this identifier on are kept. -/
  newest : Option Int
  /-- Events from this identifier on are kept. -/
  watermark : Option Int
deriving DecidableEq, Repr

/-- The lowest identifier among the events that some consumer names as its watermark. -/
def lowestWatermark? (b : Books) : Option Int :=
  ((b.ledger.rows.filter fun e => b.consumers.any (·.watermark = e.guid)).map (·.id)).min?

/-- The highest identifier in the ledger. -/
def newest? (b : Books) : Option Int :=
  (b.ledger.rows.map (·.id)).max?

namespace Window

/-- The window that a policy opens on the books. -/
def of (p : Policy) (mode : Mode) (cutoff : Int) (b : Books) : Window where
  cutoff := cutoff
  newest := if p.keepAtLeastOne then newest? b else none
  watermark := if mode = .normal ∧ p.keepUnprocessed then lowestWatermark? b else none

/-- Whether an event is under a limit; without a limit, every event is. -/
def isBelow (id : Int) : Option Int → Bool
  | none => true
  | some limit => id < limit

/-- Whether an event is under all limits. -/
def admits (w : Window) (r : EventRow) : Bool :=
  r.createdAt < w.cutoff && isBelow r.id w.newest && isBelow r.id w.watermark

end Window

/-- Whether an event closes what another opens: an event of the same resource in the closing
state, no earlier in time. -/
def closes (k : Kind) (closing opening : EventRow) : Bool :=
  closing.resource = opening.resource && closing.state = k.closing.name &&
    opening.createdAt ≤ closing.createdAt

/-- Whether an event is not an opening one, or is closed by one that may itself go. -/
def isPaired (k : Kind) (w : Window) (rows : List EventRow) (r : EventRow) : Bool :=
  r.state ≠ k.opening.name || rows.any fun c => closes k c r && w.admits c

/-- Whether a policy keeps opening events until they are closed. -/
def keepsOpenings (p : Policy) (mode : Mode) : Bool :=
  mode = .normal && p.keepRunning

/-- Whether an event of the books may go. -/
def isCandidate (p : Policy) (k : Kind) (mode : Mode) (w : Window) (rows : List EventRow)
    (r : EventRow) : Bool :=
  w.admits r && (! keepsOpenings p mode || isPaired k w rows r)

/-- The events that may go, judged on one state of the books. -/
def candidates (p : Policy) (k : Kind) (mode : Mode) (cutoff : Int) (b : Books) : List EventRow :=
  let w := Window.of p mode cutoff b
  b.ledger.rows.filter (isCandidate p k mode w b.ledger.rows)

end Metering.Retention
