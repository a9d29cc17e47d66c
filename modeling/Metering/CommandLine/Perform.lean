import Metering.CommandLine.Command
import Metering.Job
import Metering.Settings.Basic

/-!
# Performing commands

A command is one operation on the database, and its answer is a document. Long
work goes through a job, which opens the database anew; a database that only
its opener can see is then a different one, and empty.
-/

namespace Metering

/-- What a command is performed with. -/
structure Circumstances where
  settings : Settings
  /-- The moment, in milliseconds since 1970. -/
  now : Int
  /-- The guid for a new event or snapshot. -/
  fresh : String
  /-- The database is seen by all who open it. -/
  shared : Bool
  /-- The number of the task that a job is run as. -/
  task : Nat

namespace Command

/-- A result that is looked for by a guid. -/
def found {α : Type} (missing : Error) : Option α → Except Error α
  | some a => .ok a
  | none => .error missing

/-- Does the work of a job. -/
def inJob {α : Type} (c : Circumstances) (work : Database → Except Error α × Database)
    (db : Database) : Except Error α × Database :=
  if c.shared then
    let (answer, db) := work db
    (answer.mapError (Error.ofTask c.task), db)
  else
    match Database.empty.install with
    | .ok own => ((work own).1.mapError (Error.ofTask c.task), db)
    | .error e => (.error e, db)

/-- The generation of the snapshot with a guid, as a job. -/
def generate (c : Circumstances) (guid : String) : Database → Except Error Json × Database :=
  inJob c fun db =>
    let job : GenerationJob := ⟨guid⟩
    let (answer, _, db) := job.perform c.settings.snapshots.generation c.now db
    (answer.map Snapshot.toJson, db)

/-- Appends an event, whose payload is read first. -/
def append (c : Circumstances) (kind : Kind) (e : NewEvent) (payload : Option String)
    (db : Database) : Except Error Json × Database :=
  let event : Except Error NewEvent := match payload with
    | none => .ok e
    | some s =>
      match Json.read? s with
      | some j => .ok { e with payload := some j.normalize }
      | none => .error Error.malformedDocument
  match event with
  | .error err => (.error err, db)
  | .ok e =>
    let (answer, db) := db.append kind c.now c.fresh e
    (answer.map Event.toJson, db)

/-- The answer to a question, which leaves the database as it is. -/
def ask {α : Type} (question : Database → Except Error α) (write : α → Json) (db : Database) :
    Except Error Json × Database :=
  ((question db).map write, db)

/-- The outcome of a change, its result written. -/
def change {α : Type} (write : α → Json) (outcome : Except Error α × Database) :
    Except Error Json × Database :=
  (outcome.1.map write, outcome.2)

def listOf {α : Type} (write : α → Json) (xs : List α) : Json := .arr (xs.map write)

/-- Performs a command. -/
def perform (command : Command) (c : Circumstances) (db : Database) :
    Except Error Json × Database :=
  match command with
  | .init =>
    (.ok (.obj [("db_path", .str c.settings.storage.path),
      ("schema_version", .int Database.schemaVersion)]), db)
  | .createSnapshot kind generates =>
    match db.requestSnapshot kind c.now c.fresh with
    | (.error e, db) => (.error e, db)
    | (.ok snapshot, db) =>
      if generates then generate c snapshot.guid db else (.ok snapshot.toJson, db)
  | .generateSnapshot guid => generate c guid db
  | .showSnapshot guid => ask (Database.askSnapshots (Snapshots.get guid)) Snapshot.toJson db
  | .listSnapshots kind offset limit =>
    ask (Database.askSnapshots fun s => .ok (s.list kind offset limit))
      (listOf Snapshot.toJson) db
  | .showChunks guid offset limit =>
    ask (Database.askSnapshots fun s => do s.chunksPage (← s.get guid) offset limit)
      ChunkPage.toJson db
  | .deleteSnapshot guid =>
    db.onSnapshots fun s =>
      match s.delete guid with
      | (true, s) => .ok (.obj [("deleted", .str guid)], s)
      | (false, _) => .error (.snapshotNotFound guid)
  | .cleanSnapshots kind days =>
    let s := c.settings.snapshots
    let job : SnapshotCleanup := ⟨kind, days.getD s.retentionDays, s.staleAfterMinutes⟩
    inJob c (fun db => change SnapshotCleanupReport.toJson (db.cleanup job c.now)) db
  | .runRetention kind dry =>
    let policy := c.settings.retention.get kind
    if dry then
      change Retention.Report.toJson (db.retain policy kind .recorded c.now true)
    else
      let job : RetentionJob := ⟨kind, policy⟩
      inJob c (fun db => change Retention.Report.toJson (job.perform c.now db)) db
  | .registerConsumer kind consumer watermark =>
    change Registration.toJson
      (db.onConsumers kind (Registry.register c.now consumer watermark))
  | .showConsumer kind consumer =>
    ask (fun db => do
        found (.consumerNotFound consumer) (← db.askConsumers kind (·.find? consumer)))
      Registration.toJson db
  | .updateConsumer kind consumer watermark =>
    change Registration.toJson (db.onConsumers kind (Registry.update c.now consumer watermark))
  | .deregisterConsumer kind consumer =>
    db.onConsumers kind fun r => do
      pure (.obj [("deregistered", .str consumer)], ← r.deregister consumer)
  | .listConsumers kind => ask (Database.askConsumers kind id) (listOf Registration.toJson) db
  | .appendEvent kind event payload => append c kind event payload db
  | .tailEvents kind after limit =>
    ask (Database.askLedger kind (Ledger.eventsAfter kind after limit)) (listOf Event.toJson) db

end Command

end Metering
