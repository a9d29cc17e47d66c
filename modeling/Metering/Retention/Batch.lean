import Metering.Ledger
import Metering.Word

/-!
# Deleting in batches

A set of identifiers is deleted in rising order, so many at a time, and every
batch stands by itself: when one fails, the batches before it stay deleted and
it leaves nothing behind. Identifiers without an event count towards a batch
but delete nothing. The set shrinks with every batch by all identifiers up to
the batch's highest, so the deletion ends.
-/

namespace Metering.Retention

/-- What batches have done so far. -/
structure BatchOutcome where
  deleted : Nat
  batches : Nat
deriving DecidableEq, Repr, Inhabited

namespace BatchOutcome

def none : BatchOutcome := ⟨0, 0⟩

def add (o : BatchOutcome) (deleted : Nat) : BatchOutcome :=
  ⟨o.deleted + deleted, o.batches + 1⟩

end BatchOutcome

/-- The identifiers above the lowest 64-bit one, each once, in rising order. -/
def candidateIds (ids : List Int) : List Int :=
  ((ids.filter (Word.minSigned < ·)).eraseDups).mergeSort

/-- The identifiers above a bound. -/
def above (upper : Int) (ids : List Int) : List Int :=
  ids.filter (upper < ·)

theorem length_above_lt {size : Nat} {remaining : List Int} {upper : Int}
    (h : (Page.take size remaining).getLast? = some upper) :
    (above upper remaining).length < remaining.length := by
  have hmem : upper ∈ remaining := by
    have hsub : (Page.take size remaining).Sublist remaining :=
      Page.slice_sublist 0 size remaining
    exact hsub.subset (List.mem_of_getLast? h)
  exact List.length_filter_lt_length_iff_exists.2 ⟨upper, hmem, by simp⟩

/-- Deletes the remaining identifiers, in rising order and so many at a time. -/
def deleteRemaining (size : Nat) (remaining : List Int) (done : BatchOutcome) (l : Ledger) :
    Except Error BatchOutcome × Ledger :=
  match _h : (Page.take size remaining).getLast? with
  | none => (.ok done, l)
  | some upper =>
    match l.delete (Page.take size remaining) with
    | .error e => (.error e, l)
    | .ok (n, l') => deleteRemaining size (above upper remaining) (done.add n) l'
termination_by remaining.length
decreasing_by exact length_above_lt ‹_›

/-- Deletes a set of identifiers, at least one at a time. -/
def deleteInBatches (size : Nat) (ids : List Int) (l : Ledger) :
    Except Error BatchOutcome × Ledger :=
  deleteRemaining (max size 1) (candidateIds ids) BatchOutcome.none l

end Metering.Retention
