import Metering.Event

/-!
# Retention policies

A policy says how old events may get, which of three protections keep old
events nevertheless, how many rows a ledger may hold before the protections
give way, and how many rows are deleted at a time. A ceiling of zero rows is
none. What a run did, or would do, is told in a report.
-/

namespace Metering.Retention

open Metering.Time (Instant)

structure Policy where
  cutoffAgeDays : Nat
  keepAtLeastOne : Bool
  keepRunning : Bool
  keepUnprocessed : Bool
  maxRows : Nat
  batchSize : Nat
deriving DecidableEq, Repr

/-- A month of history under all three protections. -/
def Policy.default : Policy := ⟨31, true, true, true, 5000000, 1000⟩

instance : Inhabited Policy := ⟨Policy.default⟩

/-- Whether the protections of consumers and running resources are in force. -/
inductive Mode where
  | normal
  | sizeExceeded
deriving DecidableEq, Repr, Inhabited

namespace Mode

def all : List Mode := [.normal, .sizeExceeded]

def name : Mode → String
  | .normal => "normal"
  | .sizeExceeded => "size_exceeded"

def ofName? (s : String) : Option Mode := all.find? (·.name = s)

end Mode

/-- What a run did. A dry run counts what it would do in `candidateRows` and
`removedConsumers`. -/
structure Report where
  table : String
  mode : Mode
  estimatedRows : Option Nat
  cutoff : Instant
  candidateRows : Nat
  deletedRows : Nat
  removedConsumers : Nat
  batches : Nat
  dryRun : Bool
deriving DecidableEq, Repr

def Report.anyWorkDone (r : Report) : Bool :=
  0 < r.deletedRows || 0 < r.removedConsumers

namespace Policy

def ofJson? (d : Json.Dialect) (j : Json) : Option Policy := do
  let f ← j.fieldsOf? d ["cutoff_age_days", "keep_at_least_one_record", "keep_running_records",
    "keep_unprocessed_records", "max_rows", "batch_size"]
  pure {
    cutoffAgeDays := ← f.defaulted "cutoff_age_days" default.cutoffAgeDays Json.unsigned32?
    keepAtLeastOne := ← f.defaulted "keep_at_least_one_record" default.keepAtLeastOne Json.flag?
    keepRunning := ← f.defaulted "keep_running_records" default.keepRunning Json.flag?
    keepUnprocessed := ← f.defaulted "keep_unprocessed_records" default.keepUnprocessed Json.flag?
    maxRows := ← f.defaulted "max_rows" default.maxRows Json.unsigned64?
    batchSize := ← f.defaulted "batch_size" default.batchSize Json.unsigned64? }

def toJson (p : Policy) : Json :=
  .obj [("cutoff_age_days", Json.ofNat p.cutoffAgeDays),
    ("keep_at_least_one_record", .bool p.keepAtLeastOne),
    ("keep_running_records", .bool p.keepRunning),
    ("keep_unprocessed_records", .bool p.keepUnprocessed),
    ("max_rows", Json.ofNat p.maxRows),
    ("batch_size", Json.ofNat p.batchSize)]

/-- The policy in force for a table, for a log. -/
def describe (p : Policy) (table : String) : String :=
  "RetentionEngine \x7b table: " ++ Text.quoted table ++
    ", policy: RetentionPolicy \x7b cutoff_age_days: " ++ toString p.cutoffAgeDays ++
    ", keep_at_least_one_record: " ++ toString p.keepAtLeastOne ++
    ", keep_running_records: " ++ toString p.keepRunning ++
    ", keep_unprocessed_records: " ++ toString p.keepUnprocessed ++
    ", max_rows: " ++ toString p.maxRows ++
    ", batch_size: " ++ toString p.batchSize ++ " \x7d, .. \x7d"

end Policy

namespace Report

def ofJson? (j : Json) : Option Report := do
  let f ← j.fieldsOf? .plain ["table", "mode", "estimated_rows", "cutoff", "candidate_rows",
    "deleted_rows", "removed_consumers", "batches", "dry_run"]
  pure {
    table := ← f.required "table" Json.text?
    mode := ← f.required "mode" (Json.choice? .plain Mode.ofName?)
    estimatedRows := ← f.optional "estimated_rows" Json.unsigned64?
    cutoff := ← f.required "cutoff" Json.instant?
    candidateRows := ← f.required "candidate_rows" Json.unsigned64?
    deletedRows := ← f.required "deleted_rows" Json.unsigned64?
    removedConsumers := ← f.required "removed_consumers" Json.unsigned64?
    batches := ← f.required "batches" Json.unsigned64?
    dryRun := ← f.required "dry_run" Json.flag? }

def toJson (r : Report) : Json :=
  .obj [("table", .str r.table),
    ("mode", .str r.mode.name),
    ("estimated_rows", Json.ofOption Json.ofNat r.estimatedRows),
    ("cutoff", Json.ofInstant r.cutoff),
    ("candidate_rows", Json.ofNat r.candidateRows),
    ("deleted_rows", Json.ofNat r.deletedRows),
    ("removed_consumers", Json.ofNat r.removedConsumers),
    ("batches", Json.ofNat r.batches),
    ("dry_run", .bool r.dryRun)]

end Report

end Metering.Retention
