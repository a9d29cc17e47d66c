import Metering.Database
import Metering.Text.Quoted

/-!
# Jobs

Work that a scheduler hands out is a record that can be stored and read back:
the generation of a requested snapshot, the cleaning up of snapshots, which is
`SnapshotCleanup`, and a run of retention. A job is tried once. If it fails,
whoever scheduled it decides what comes next. A job that runs as a task of its
own can fail in one way more: what ends the task is an error to whoever waits.
-/

namespace Metering

open Metering.Retention (Policy Report)
open Metering.Telemetry (Observation)

/-- How often a job is tried. -/
def jobAttempts : Nat := 1

/-- What is said of a job that was run as the task of a number. -/
def Error.ofTask (task : Nat) : Error → Error
  | .overflow => .runtime ("blocking job task failed: task " ++ toString task ++
      " panicked with message " ++ Text.quoted Error.overflow.message)
  | e => e

/-- Generates the snapshot with this guid. -/
structure GenerationJob where
  snapshot : String
deriving DecidableEq, Repr

namespace GenerationJob

def toJson (job : GenerationJob) : Json :=
  .obj [("snapshot_guid", .str job.snapshot)]

def ofJson? (j : Json) : Option GenerationJob := do
  let f ← j.fieldsOf? .plain ["snapshot_guid"]
  pure { snapshot := ← f.required "snapshot_guid" Json.text? }

def perform (g : GenerationSettings) (now : Int) (job : GenerationJob) (db : Database) :
    Except Error Snapshot × Option Observation × Database :=
  db.generateSnapshot g now job.snapshot

end GenerationJob

/-- Runs retention on the ledger of a kind. -/
structure RetentionJob where
  kind : Kind
  policy : Policy
deriving DecidableEq, Repr

namespace RetentionJob

def toJson (job : RetentionJob) : Json :=
  .obj [("kind", job.kind.toJson), ("policy", job.policy.toJson)]

def ofJson? (j : Json) : Option RetentionJob := do
  let f ← j.fieldsOf? .plain ["kind", "policy"]
  pure {
    kind := ← f.required "kind" Kind.ofJson?
    policy := ← f.required "policy" (Policy.ofJson? .plain) }

/-- The run that a job asks for, by the recorded row counts and for real. -/
def perform (now : Int) (job : RetentionJob) (db : Database) :
    Except Error Report × Database :=
  db.retain job.policy job.kind .recorded now false

end RetentionJob

end Metering
