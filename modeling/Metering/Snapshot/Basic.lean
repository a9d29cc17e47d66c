import Metering.Event
import Metering.Word

/-!
# Snapshots

A snapshot says what was in use at one moment. It is requested first, as a
placeholder without counts, and completed later, once, with the summary of
what was found and the newest event of its ledger as a checkpoint. The store
keeps a snapshot as a row of signed 64-bit numbers; a count is the unsigned
number with the same bits.
-/

namespace Metering

open Metering.Time (Instant)

inductive SnapshotState where
  | processing
  | complete
deriving DecidableEq, Repr, Inhabited

namespace SnapshotState

def all : List SnapshotState := [.processing, .complete]

def name : SnapshotState → String
  | .processing => "processing"
  | .complete => "complete"

def ofName? (s : String) : Option SnapshotState := all.find? (·.name = s)

end SnapshotState

/-- What was found. Parents are not counted for kinds that have none. -/
structure Summary where
  instances : Int
  organizations : Nat
  spaces : Nat
  parents : Option Nat
  resources : Nat
  chunks : Nat
deriving DecidableEq, Repr, Inhabited

structure Snapshot where
  id : Int
  guid : String
  kind : Kind
  state : SnapshotState
  createdAt : Instant
  completedAt : Option Instant
  checkpoint : Option String
  checkpointAt : Option Instant
  summary : Summary
deriving DecidableEq, Repr, Inhabited

def Snapshot.isComplete (s : Snapshot) : Bool := s.completedAt.isSome

/-- A snapshot as the store keeps it, its times in milliseconds since 1970. -/
structure SnapshotRow where
  id : Int
  guid : String
  kind : Kind
  createdAt : Int
  completedAt : Option Int
  checkpoint : Option String
  checkpointAt : Option Int
  instances : Int
  organizations : Int
  spaces : Int
  parents : Option Int
  resources : Int
  chunks : Int
deriving DecidableEq, Repr, Inhabited

namespace SnapshotRow

/-- A snapshot that has been requested and not generated. -/
def placeholder (id : Int) (guid : String) (kind : Kind) (now : Int) : SnapshotRow :=
  ⟨id, guid, kind, now, none, none, none, 0, 0, 0, none, 0, 0⟩

def isProcessing (r : SnapshotRow) : Bool := r.completedAt.isNone

def toSnapshot (r : SnapshotRow) : Snapshot where
  id := r.id
  guid := r.guid
  kind := r.kind
  state := if r.isProcessing then .processing else .complete
  createdAt := Instant.ofMillis r.createdAt
  completedAt := r.completedAt.map Instant.ofMillis
  checkpoint := r.checkpoint
  checkpointAt := r.checkpointAt.map Instant.ofMillis
  summary := {
    instances := r.instances
    organizations := Word.unsigned r.organizations
    spaces := Word.unsigned r.spaces
    parents := r.parents.map Word.unsigned
    resources := Word.unsigned r.resources
    chunks := Word.unsigned r.chunks }

end SnapshotRow

/-! ## Documents -/

namespace Summary

def toJson (s : Summary) : Json :=
  .obj [("instance_count", .int s.instances),
    ("organization_count", Json.ofNat s.organizations),
    ("space_count", Json.ofNat s.spaces),
    ("parent_count", Json.ofOption Json.ofNat s.parents),
    ("resource_count", Json.ofNat s.resources),
    ("chunk_count", Json.ofNat s.chunks)]

def ofJson? (j : Json) : Option Summary := do
  let f ← j.fieldsOf? .plain ["instance_count", "organization_count", "space_count",
    "parent_count", "resource_count", "chunk_count"]
  pure {
    instances := ← f.required "instance_count" Json.signed64?
    organizations := ← f.required "organization_count" Json.unsigned64?
    spaces := ← f.required "space_count" Json.unsigned64?
    parents := ← f.optional "parent_count" Json.unsigned64?
    resources := ← f.required "resource_count" Json.unsigned64?
    chunks := ← f.required "chunk_count" Json.unsigned64? }

end Summary

namespace Snapshot

/-- The document of a snapshot, which leaves its identifier out. -/
def toJson (s : Snapshot) : Json :=
  .obj [("guid", .str s.guid),
    ("kind", s.kind.toJson),
    ("state", .str s.state.name),
    ("created_at", Json.ofInstant s.createdAt),
    ("completed_at", Json.ofOption Json.ofInstant s.completedAt),
    ("checkpoint_event_guid", Json.ofText? s.checkpoint),
    ("checkpoint_event_created_at", Json.ofOption Json.ofInstant s.checkpointAt),
    ("summary", s.summary.toJson)]

def ofJson? (j : Json) : Option Snapshot := do
  let f ← j.fieldsOf? .plain ["guid", "kind", "state", "created_at", "completed_at",
    "checkpoint_event_guid", "checkpoint_event_created_at", "summary"]
  pure {
    id := 0
    guid := ← f.required "guid" Json.text?
    kind := ← f.required "kind" Kind.ofJson?
    state := ← f.required "state" (Json.choice? .plain SnapshotState.ofName?)
    createdAt := ← f.required "created_at" Json.instant?
    completedAt := ← f.optional "completed_at" Json.instant?
    checkpoint := ← f.optional "checkpoint_event_guid" Json.text?
    checkpointAt := ← f.optional "checkpoint_event_created_at" Json.instant?
    summary := ← f.required "summary" Summary.ofJson? }

end Snapshot

end Metering
