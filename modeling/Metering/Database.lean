import Metering.Active.Listing
import Metering.Retention.Run
import Metering.Snapshot.Cleanup
import Metering.Snapshot.Generation

/-!
# The database

A database holds the books of both kinds, the snapshots and the platform's
inventory, and is stamped with the version of its schema. Before its
tables are installed it has none, and whatever asks for one fails by the name of
the first table it asks for. Installing them again changes nothing; a database
with a newer stamp is left alone.

Every operation answers with a result and the database after it. The moment
"now" and the guid for a new event or snapshot are given by the caller.
-/

namespace Metering

open Metering.Telemetry (Observation)

structure Database where
  /-- The stamped version. -/
  version : Int
  installed : Bool
  books : PerKind Books
  snapshots : Snapshots
  inventory : Inventory
  /-- Recorded row counts of the tables that are no ledgers. -/
  recorded : List (String × Nat)
deriving DecidableEq, Repr

namespace Database

def empty : Database := ⟨0, false, PerKind.replicate Books.empty, .empty, .empty, []⟩

instance : Inhabited Database := ⟨empty⟩

/-! ## The schema -/

/-- The version that this library writes. -/
def schemaVersion : Int := 1

def snapshotTable : String := "usage_snapshots"

def chunkTable : String := "usage_snapshot_chunks"

def inventoryTables : List String :=
  ["organizations", "spaces", "apps", "droplets", "processes", "service_brokers", "services",
    "service_plans", "service_instances"]

def tables : List String :=
  Kind.all.map Kind.eventTable ++ Kind.all.map Kind.consumerTable ++
    [snapshotTable, chunkTable] ++ inventoryTables

/-- The indexes that belong to a kind. -/
def indexesOf (k : Kind) : List String :=
  ["idx_" ++ k.eventTable ++ "_created_at", "idx_" ++ k.eventTable ++ "_resource_state",
    "idx_" ++ k.consumerTable ++ "_watermark"]

def indexes : List String :=
  Kind.all.flatMap indexesOf ++
    ["idx_usage_snapshots_kind_created", "idx_usage_snapshots_one_in_progress",
      "idx_processes_state"]

/-- The tables and indexes, by sort and name. -/
def objects (db : Database) : List String :=
  if db.installed then
    (indexes.mergeSort (· ≤ ·)).map ("index " ++ ·) ++
      (tables.mergeSort (· ≤ ·)).map ("table " ++ ·)
  else []

def install (db : Database) : Except Error Database :=
  if schemaVersion < db.version then .error (.schemaTooNew db.version schemaVersion)
  else .ok { db with installed := true, version := schemaVersion }

def missing (table : String) : Error := .database (.missingTable table)

/-- Fails unless a table is there. -/
def need (db : Database) (table : String) : Except Error Unit :=
  if db.installed then .ok () else .error (missing table)

/-- An operation on the tables, the first of which is named. -/
def onTables {α : Type} (first : String) (f : Database → Except Error α × Database)
    (db : Database) : Except Error α × Database :=
  if db.installed then f db else (.error (missing first), db)

/-- A change that happens whole or not at all. -/
def attempt {α : Type} (f : Database → Except Error (α × Database)) (db : Database) :
    Except Error α × Database :=
  match f db with
  | .ok (a, db') => (.ok a, db')
  | .error e => (.error e, db)

/-! ## Ledgers -/

def withBooks (k : Kind) (b : Books) (db : Database) : Database :=
  { db with books := db.books.set k b }

def withLedger (k : Kind) (l : Ledger) (db : Database) : Database :=
  db.withBooks k { db.books.get k with ledger := l }

def ledger (k : Kind) (db : Database) : Ledger := (db.books.get k).ledger

def append (k : Kind) (now : Int) (fresh : String) (e : NewEvent) :
    Database → Except Error Event × Database :=
  onTables k.eventTable fun db =>
    let (answer, l) := (db.ledger k).append k now fresh e
    (answer, db.withLedger k l)

/-- Appends events all or none. -/
def appendAll (k : Kind) (now : Int) (es : List NewEvent) :
    Database → Except Error Nat × Database :=
  onTables k.eventTable <| attempt fun db => do
    let l ← (db.ledger k).appendAll k now es
    pure (es.length, db.withLedger k l)

/-- A question to a ledger. -/
def askLedger {α : Type} (k : Kind) (f : Ledger → Except Error α) (db : Database) :
    Except Error α := do
  db.need k.eventTable
  f (db.ledger k)

/-! ## Consumers -/

def consumers (k : Kind) (db : Database) : Registry := (db.books.get k).consumers

/-- A change of a registry. Without a table, only what is wrong with the request itself is said
first. -/
def onConsumers {α : Type} (k : Kind) (f : Registry → Except Error (α × Registry))
    (db : Database) : Except Error α × Database :=
  if db.installed then
    db.attempt fun db => do
      let (a, r) ← f (db.consumers k)
      pure (a, db.withBooks k { db.books.get k with consumers := r })
  else
    match f [] with
    | .error e => (.error (if e.isValidationFailure then e else missing k.consumerTable), db)
    | .ok _ => (.error (missing k.consumerTable), db)

def askConsumers {α : Type} (k : Kind) (f : Registry → α) (db : Database) : Except Error α := do
  db.need k.consumerTable
  pure (f (db.consumers k))

/-! ## Retention -/

/-- The number of rows in the table of a name. -/
def countRows (table : String) (db : Database) : Except Error Nat := do
  db.need table
  let counts := Kind.all.map (fun k => (k.eventTable, (db.ledger k).rows.length)) ++
    Kind.all.map (fun k => (k.consumerTable, (db.consumers k).length)) ++
    [(snapshotTable, db.snapshots.rows.length), (chunkTable, db.snapshots.chunks.length)]
  match counts.lookup table with
  | some n => pure n
  | none =>
    match db.inventory.count? table with
    | some n => pure n
    | none => throw (missing table)

/-- The recorded number of rows in the table of a name, or else the number itself. -/
def estimateRows (table : String) (db : Database) : Except Error Nat :=
  let recorded := match Kind.all.find? (·.eventTable = table) with
    | some k => Statistics.largest? (db.books.get k).statistics
    | none => db.recorded.lookup table
  match recorded with
  | some n => .ok n
  | none => db.countRows table

/-- Records the row counts of all tables that have rows. -/
def analyze (db : Database) : Database :=
  let counted := tables.filterMap fun t =>
    if Kind.all.any (·.eventTable = t) then none
    else
      match db.countRows t with
      | .ok (n + 1) => some (t, n + 1)
      | _ => none
  { db with
    books := ⟨db.books.process.analyze, db.books.service.analyze⟩
    recorded := counted }

/-- Runs a policy, or says what a run would do. -/
def retain (p : Retention.Policy) (k : Kind) (estimator : Estimator) (now : Int) (dry : Bool)
    (db : Database) : Except Error Retention.Report × Database :=
  if ! db.installed then
    let estimator : Estimator :=
      if estimator.looks then .told (.error (missing k.eventTable)) else estimator
    match Retention.selectMode p k estimator Books.empty with
    | .error e => (.error e, db)
    | .ok _ => (.error (.deletionFailed k.eventTable (missing k.eventTable).message), db)
  else if dry then (Retention.dryRun p k estimator now (db.books.get k), db)
  else
    let (answer, b) := Retention.run p k estimator now (db.books.get k)
    (answer, db.withBooks k b)

/-- Deletes events by identifier, so many at a time. -/
def deleteEvents (k : Kind) (size : Nat) (ids : List Int) (db : Database) :
    Except Error Retention.BatchOutcome × Database :=
  if db.installed then
    let (answer, l) := Retention.deleteInBatches size ids (db.ledger k)
    (answer, db.withLedger k l)
  else if (Retention.candidateIds ids).isEmpty then (.ok .none, db)
  else (.error (missing k.eventTable), db)

/-! ## Snapshots -/

def withSnapshots (s : Snapshots) (db : Database) : Database := { db with snapshots := s }

/-- A change of the snapshots that happens whole or not at all. -/
def onSnapshots {α : Type} (f : Snapshots → Except Error (α × Snapshots)) :
    Database → Except Error α × Database :=
  onTables snapshotTable <| attempt fun db => do
    let (a, s) ← f db.snapshots
    pure (a, db.withSnapshots s)

def askSnapshots {α : Type} (f : Snapshots → Except Error α) (db : Database) : Except Error α := do
  db.need snapshotTable
  f db.snapshots

def requestSnapshot (k : Kind) (now : Int) (fresh : String) :
    Database → Except Error Snapshot × Database :=
  onSnapshots (Snapshots.request k now fresh)

/-- The source of a kind's active resources. -/
def source (k : Kind) (db : Database) : Source :=
  if db.installed then db.inventory.source k
  else .failing (missing (match k with
    | .process => "processes"
    | .service => "service_instances"))

/-- Generates a snapshot from a source. -/
def populate (g : GenerationSettings) (source : Source) (now : Int) (snapshot : Snapshot)
    (db : Database) : Except Error Snapshot × Option Observation × Database :=
  let p := snapshot.populate g source now (db.ledger snapshot.kind) db.snapshots
  (p.answer, p.observation, db.withSnapshots p.store)

/-- Generates the snapshot with a guid from what the inventory says is active. -/
def generateSnapshot (g : GenerationSettings) (now : Int) (guid : String) (db : Database) :
    Except Error Snapshot × Option Observation × Database :=
  match db.askSnapshots (Snapshots.get guid) with
  | .error e => (.error e, none, db)
  | .ok snapshot => db.populate g (db.source snapshot.kind) now snapshot

/-- Cleans up snapshots. -/
def cleanup (c : SnapshotCleanup) (now : Int) :
    Database → Except Error SnapshotCleanupReport × Database :=
  onSnapshots fun s => .ok (c.perform now s)

/-! ## Inventory -/

/-- A change of a table of the inventory. -/
def onInventory {α : Type} (table : String) (f : Inventory → Except Error (α × Inventory)) :
    Database → Except Error α × Database :=
  onTables table <| attempt fun db => do
    let (a, inv) ← f db.inventory
    pure (a, { db with inventory := inv })

end Database

end Metering
