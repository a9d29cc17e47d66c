import Metering.Snapshot.Store
import Metering.Time.Span

/-!
# Cleaning up snapshots

Complete snapshots are deleted after some days, and one that has been
processing for some minutes is taken for abandoned and deleted too, which
makes room for a new request.
-/

namespace Metering

open Metering.Time (daysBefore minutesBefore)

structure SnapshotCleanup where
  kind : Kind
  cutoffAgeDays : Nat
  staleAfterMinutes : Nat
deriving DecidableEq, Repr

/-- How many snapshots were deleted for each reason. -/
structure SnapshotCleanupReport where
  completed : Nat
  stale : Nat
deriving DecidableEq, Repr

namespace SnapshotCleanup

/-- The minutes after which a snapshot is taken for abandoned, if nothing else is said. -/
def defaultStaleAfterMinutes : Nat := 60

def perform (c : SnapshotCleanup) (now : Int) (s : Snapshots) : SnapshotCleanupReport × Snapshots :=
  let (completed, s) := s.deleteCompletedBefore c.kind (daysBefore now c.cutoffAgeDays)
  let (stale, s) := s.deleteInProgressBefore c.kind (minutesBefore now c.staleAfterMinutes)
  (⟨completed, stale⟩, s)

def toJson (c : SnapshotCleanup) : Json :=
  .obj [("kind", c.kind.toJson),
    ("cutoff_age_days", Json.ofNat c.cutoffAgeDays),
    ("stale_after_minutes", Json.ofNat c.staleAfterMinutes)]

def ofJson? (j : Json) : Option SnapshotCleanup := do
  let f ← j.fieldsOf? .plain ["kind", "cutoff_age_days", "stale_after_minutes"]
  pure {
    kind := ← f.required "kind" Kind.ofJson?
    cutoffAgeDays := ← f.required "cutoff_age_days" Json.unsigned32?
    staleAfterMinutes := ← f.required "stale_after_minutes" Json.unsigned32? }

end SnapshotCleanup

namespace SnapshotCleanupReport

def toJson (r : SnapshotCleanupReport) : Json :=
  .obj [("completed_deleted", Json.ofNat r.completed), ("stale_deleted", Json.ofNat r.stale)]

def ofJson? (j : Json) : Option SnapshotCleanupReport := do
  let f ← j.fieldsOf? .plain ["completed_deleted", "stale_deleted"]
  pure {
    completed := ← f.required "completed_deleted" Json.unsigned64?
    stale := ← f.required "stale_deleted" Json.unsigned64? }

end SnapshotCleanupReport

end Metering
