import Metering.Retention.Batch
import Metering.Retention.Candidate
import Metering.Time.Span

/-!
# Running a policy

A run first settles the mode: a ledger estimated above the policy's ceiling is
cleaned without the protections of consumers and running resources. It then
selects the events that may go, all at once. In the exceptional mode the
consumers whose watermark is among them lose their registration. A dry run
stops here with a report; a real run deletes the events in batches and records
the ledger's new row count. A run that fails keeps what it had done.

What is selected stands in a table of the connection that the runs of both
kinds share. It is emptied first, since a run that was aborted has left it filled.
-/

namespace Metering.Retention

open Metering.Time (Instant daysBefore)

/-- The mode of a run, and the estimate that decided it. A policy without a ceiling asks for
none. -/
def selectMode (p : Policy) (k : Kind) (estimator : Estimator) (b : Books) :
    Except Error (Mode × Option Nat) :=
  if p.maxRows = 0 then .ok (.normal, none)
  else
    match estimator.estimate b with
    | .error e => .error (.estimationFailed k.eventTable e.message)
    | .ok n => .ok (if p.maxRows < n then .sizeExceeded else .normal, some n)

/-- Whether a consumer's watermark is among some events. -/
def isOrphaned (events : List EventRow) (c : Registration) : Bool :=
  events.any fun e => e.guid = c.watermark

/-- The report of a run that has selected its events and done nothing yet. -/
def Report.start (k : Kind) (mode : Mode) (estimate : Option Nat) (cutoff : Int)
    (selected : List EventRow) (dryRun : Bool) : Report where
  table := k.eventTable
  mode := mode
  estimatedRows := estimate
  cutoff := Instant.ofMillis cutoff
  candidateRows := selected.length
  deletedRows := 0
  removedConsumers := 0
  batches := 0
  dryRun := dryRun

/-- The consumers that a run in a mode takes off the registry. -/
def orphans (mode : Mode) (selected : List EventRow) (b : Books) : Registry :=
  if mode = .sizeExceeded then b.consumers.filter (isOrphaned selected) else []

/-- The table of a connection for the events that a run selects. -/
abbrev CandidateTable := List EventRow

namespace CandidateTable

/-- The table once it has been emptied. -/
def reset (_ : CandidateTable) : CandidateTable := []

/-- The table once a run has emptied it and put there what it selects. -/
def fill (selected : List EventRow) (left : CandidateTable) : CandidateTable :=
  left.reset ++ selected

end CandidateTable

/-- What a run would do, on a connection whose table may be filled. -/
def dryRunOn (left : CandidateTable) (p : Policy) (k : Kind) (estimator : Estimator) (now : Int)
    (b : Books) : Except Error Report × CandidateTable :=
  match selectMode p k estimator b with
  | .error e => (.error e, left)
  | .ok (mode, estimated) =>
    let cutoff := daysBefore now p.cutoffAgeDays
    let table := left.fill (candidates p k mode cutoff b)
    (.ok { Report.start k mode estimated cutoff table true with
      removedConsumers := (orphans mode table b).length }, table.reset)

/-- What a run would do. -/
def dryRun (p : Policy) (k : Kind) (estimator : Estimator) (now : Int) (b : Books) :
    Except Error Report :=
  (dryRunOn [] p k estimator now b).1

/-- Runs a policy on the books, on a connection whose table may be filled. -/
def runOn (left : CandidateTable) (p : Policy) (k : Kind) (estimator : Estimator) (now : Int)
    (b : Books) : Except Error Report × Books × CandidateTable :=
  match selectMode p k estimator b with
  | .error e => (.error e, b, left)
  | .ok (mode, estimated) =>
    let cutoff := daysBefore now p.cutoffAgeDays
    let table := left.fill (candidates p k mode cutoff b)
    let removed := orphans mode table b
    let b₁ := { b with consumers := b.consumers.filter fun c => ! removed.contains c }
    match deleteInBatches p.batchSize (table.map (·.id)) b₁.ledger with
    | (.error e, l) =>
      (.error (.deletionFailed k.eventTable e.message), { b₁ with ledger := l }, table)
    | (.ok outcome, l) =>
      (.ok { Report.start k mode estimated cutoff table false with
          removedConsumers := removed.length
          deletedRows := outcome.deleted
          batches := outcome.batches },
        { b₁ with ledger := l }.analyze, table.reset)

/-- Runs a policy on the books. -/
def run (p : Policy) (k : Kind) (estimator : Estimator) (now : Int) (b : Books) :
    Except Error Report × Books :=
  let (answer, b, _) := runOn [] p k estimator now b
  (answer, b)

end Metering.Retention
