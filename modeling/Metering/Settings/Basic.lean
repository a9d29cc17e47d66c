import Metering.Retention.Policy
import Metering.Settings.Log
import Metering.Snapshot.Generation

/-!
# Settings

Everything that a deployment may choose. Each setting has a default, so that
the empty document is a valid one, and a name that is not known is passed
over. Reading settings only asks for the right types; `Settings.validate` says
what else is wrong with them, all at once.
-/

namespace Metering

open Metering.Retention (Policy)

structure StorageSettings where
  path : String
  /-- How long a writer waits for another one, in milliseconds. -/
  busyTimeout : Nat
deriving DecidableEq, Repr

namespace StorageSettings

def default : StorageSettings := ⟨"usage-ledger.db", 5000⟩

instance : Inhabited StorageSettings := ⟨default⟩

def ofJson? (d : Json.Dialect) (j : Json) : Option StorageSettings := do
  let f ← j.fieldsOf? d ["db_path", "busy_timeout_ms"]
  pure {
    path := ← f.defaulted "db_path" default.path Json.text?
    busyTimeout := ← f.defaulted "busy_timeout_ms" default.busyTimeout Json.unsigned64? }

def toJson (s : StorageSettings) : Json :=
  .obj [("db_path", .str s.path), ("busy_timeout_ms", Json.ofNat s.busyTimeout)]

end StorageSettings

structure SnapshotSettings where
  generation : GenerationSettings
  /-- The age in days at which a complete snapshot is deleted. -/
  retentionDays : Nat
  /-- The age in minutes at which a snapshot in progress is taken for abandoned. -/
  staleAfterMinutes : Nat
deriving DecidableEq, Repr

namespace SnapshotSettings

def default : SnapshotSettings := ⟨.default, 31, 60⟩

instance : Inhabited SnapshotSettings := ⟨default⟩

def ofJson? (d : Json.Dialect) (j : Json) : Option SnapshotSettings := do
  let f ← j.fieldsOf? d ["chunk_limit", "fetch_batch_size", "insert_batch_size",
    "retention_days", "stale_after_minutes"]
  let size (name : String) (default : Nat) : Option Nat := f.defaulted name default Json.unsigned64?
  let age (name : String) (default : Nat) : Option Nat := f.defaulted name default Json.unsigned32?
  pure {
    generation := {
      chunkLimit := ← size "chunk_limit" default.generation.chunkLimit
      fetchBatchSize := ← size "fetch_batch_size" default.generation.fetchBatchSize
      insertBatchSize := ← size "insert_batch_size" default.generation.insertBatchSize }
    retentionDays := ← age "retention_days" default.retentionDays
    staleAfterMinutes := ← age "stale_after_minutes" default.staleAfterMinutes }

def toJson (s : SnapshotSettings) : Json :=
  .obj [("chunk_limit", Json.ofNat s.generation.chunkLimit),
    ("fetch_batch_size", Json.ofNat s.generation.fetchBatchSize),
    ("insert_batch_size", Json.ofNat s.generation.insertBatchSize),
    ("retention_days", Json.ofNat s.retentionDays),
    ("stale_after_minutes", Json.ofNat s.staleAfterMinutes)]

end SnapshotSettings

structure Settings where
  logging : LogSettings
  storage : StorageSettings
  snapshots : SnapshotSettings
  retention : PerKind Policy
deriving DecidableEq, Repr

namespace Settings

def default : Settings := ⟨.default, .default, .default, PerKind.replicate .default⟩

instance : Inhabited Settings := ⟨default⟩

/-- The policies of both kinds, under the names of their measurements. -/
def policiesOf? (d : Json.Dialect) (j : Json) : Option (PerKind Policy) := do
  let f ← j.fieldsOf? d (Kind.all.map Kind.usageName)
  let policy (k : Kind) : Option Policy := f.defaulted k.usageName .default (Policy.ofJson? d)
  pure ⟨← policy .process, ← policy .service⟩

def ofJson? (d : Json.Dialect) (j : Json) : Option Settings := do
  let f ← j.fieldsOf? d ["logging", "storage", "snapshots", "retention"]
  pure {
    logging := ← f.defaulted "logging" default.logging (LogSettings.ofJson? d)
    storage := ← f.defaulted "storage" default.storage (StorageSettings.ofJson? d)
    snapshots := ← f.defaulted "snapshots" default.snapshots (SnapshotSettings.ofJson? d)
    retention := ← f.defaulted "retention" default.retention (policiesOf? d) }

def toJson (s : Settings) : Json :=
  .obj [("logging", s.logging.toJson),
    ("storage", s.storage.toJson),
    ("snapshots", s.snapshots.toJson),
    ("retention", .obj (Kind.all.map fun k => (k.usageName, (s.retention.get k).toJson)))]

/-! ## Validation -/

/-- What is said about a setting of zero that has to be more. -/
def zeroProblem (name : String) (value : Nat) : Option String :=
  if value = 0 then some (name ++ " must be greater than 0") else none

def levelProblem (level : String) : Option String :=
  if (LogLevel.parse level).isOk then none
  else some ("logging.level " ++ Text.quoted level ++ " is not a log level")

/-- All that is wrong with settings of the right types. -/
def problems (s : Settings) : List String :=
  let g := s.snapshots.generation
  let sizes := [("snapshots.chunk_limit", g.chunkLimit),
      ("snapshots.fetch_batch_size", g.fetchBatchSize),
      ("snapshots.insert_batch_size", g.insertBatchSize)] ++
    Kind.all.map fun k =>
      ("retention." ++ k.usageName ++ ".batch_size", (s.retention.get k).batchSize)
  sizes.filterMap (fun f => zeroProblem f.1 f.2) ++ (levelProblem s.logging.level).toList

def validate (s : Settings) : Except Error Unit :=
  match s.problems with
  | [] => .ok ()
  | ps => .error (.settingsInvalid ("; ".intercalate ps))

end Settings

end Metering
