import Metering.Error

/-!
# What to do about it

Every error comes with advice: a sentence that says what to do, commands that
help, and other ways out. `Error.report` is what a user sees of a failed
command, the message first and then the advice.
-/

namespace Metering

/-- Advice on an error. A command has a label that says what it is for. -/
structure Remedy where
  summary : String
  commands : List (String × String)
  alternatives : List String
deriving DecidableEq, Repr

/-- The advice as it is shown, one item a line. -/
def Remedy.render (r : Remedy) : String :=
  let commands := r.commands.map fun c => "    - " ++ c.1 ++ ": " ++ c.2 ++ "\n"
  let alternatives := r.alternatives.map fun a => "    - " ++ a ++ "\n"
  "To fix:\n  " ++ r.summary ++ "\n" ++
    (if commands.isEmpty then "" else "  Commands:\n" ++ String.join commands) ++
    (if alternatives.isEmpty then "" else "  Alternatives:\n" ++ String.join alternatives)

namespace Error

/-- The advice on an error. -/
def remedy : Error → Remedy
  | .database _ =>
    ⟨"Database operation failed. Check the database path and permissions, then retry.",
      [("Initialize schema", "usage-ledger init")],
      ["Ensure no other process holds a long write lock on the database."]⟩
  | .schemaTooNew current supported =>
    ⟨"Database schema version " ++ toString current ++ " is newer than supported (" ++
        toString supported ++ "). Upgrade usage-ledger.",
      [], ["Point --db at a database created by this version."]⟩
  | .notFound _ =>
    ⟨"The requested row was not found.",
      [("Tail events", "usage-ledger events tail process")],
      ["Verify the guid exists before referencing it."]⟩
  | .invalidConsumer field _ =>
    ⟨"Fix the " ++ field ++ " value and register again.",
      [("List consumers", "usage-ledger consumer list process")],
      ["Consumer guids must be unique, non-empty, and at most 255 characters."]⟩
  | .consumerNotFound consumer =>
    ⟨"Consumer " ++ consumer ++
        " is not registered. It may have been removed by size-exceeded cleanup.",
      [("Re-register",
        "usage-ledger consumer register process " ++ consumer ++ " <last-processed-guid>")],
      []⟩
  | .generationInProgress kind =>
    ⟨"Wait for the in-progress snapshot to finish, then request a new one.",
      [("List snapshots", "usage-ledger snapshot list --kind " ++ kind)],
      ["Stale in-progress snapshots are removed by snapshot cleanup after an hour."]⟩
  | .alreadyComplete guid =>
    ⟨"Snapshot " ++ guid ++ " is complete. Request a new snapshot for fresh data.", [], []⟩
  | .stillProcessing guid =>
    ⟨"Snapshot " ++ guid ++ " has not finished generating. Retry once it completes.",
      [("Show snapshot", "usage-ledger snapshot show " ++ guid)], []⟩
  | .snapshotNotFound _ =>
    ⟨"The snapshot does not exist or was cleaned up.",
      [("List snapshots", "usage-ledger snapshot list --kind process")], []⟩
  | .generationFailed .. =>
    ⟨"Generation rolled back with no partial chunks. Request a new snapshot to retry.",
      [("Create snapshot", "usage-ledger snapshot create process")],
      ["Run with RUST_LOG=debug to see the failing query."]⟩
  | .estimationFailed table _ =>
    ⟨"Could not size " ++ table ++ ". The run was aborted before deleting anything.",
      [("Refresh statistics", "sqlite3 <db> 'ANALYZE'")],
      ["Retry the run; no rows were removed."]⟩
  | .deletionFailed table _ =>
    ⟨"Deleting from " ++ table ++ " failed mid-run. Completed batches stay deleted.",
      [("Retry", "usage-ledger retention run process")],
      ["Cleanup is idempotent; the next run continues where this one stopped."]⟩
  | .settingsNotFound path =>
    ⟨"Config file not found: " ++ path ++ ". Verify the path and retry.",
      [("Check path", "ls -l \"" ++ path ++ "\"")],
      ["Pass --config with the correct path."]⟩
  | .settingsUnreadable path _ =>
    ⟨"Failed to read config file: " ++ path ++ ". Check permissions.",
      [("Check permissions", "ls -l \"" ++ path ++ "\"")],
      ["Ensure the file is readable by the current user."]⟩
  | .settingsMalformed _ =>
    ⟨"Config parse failed. Fix the TOML syntax and retry.", [],
      ["Remove unknown keys; every field has a default."]⟩
  | .settingsInvalid _ =>
    ⟨"Config validation failed. Fix the invalid fields and retry.", [],
      ["Limits and batch sizes must be greater than zero."]⟩
  | .io _ =>
    ⟨"Check filesystem permissions and paths, then retry.", [],
      ["Verify the database directory exists and is writable."]⟩
  | .json _ =>
    ⟨"Validate the JSON input and retry.", [],
      ["Check for trailing commas or invalid UTF-8."]⟩
  | .runtime _ =>
    ⟨"A background task failed to complete. Retry the command.", [],
      ["If the issue persists, run with RUST_LOG=debug and inspect the logs."]⟩
  | .overflow => ⟨"", [], []⟩

/-- What a user is shown of an error. -/
def report (e : Error) : String :=
  "Error: " ++ e.message ++ "\n\n" ++ e.remedy.render

end Error

end Metering
