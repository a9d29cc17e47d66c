import Metering.Page
import Metering.Snapshot.Basic
import Metering.Snapshot.Chunking

/-!
# The store of snapshots

The store keeps snapshots under rising identifiers and the chunks that belong
to them. A kind has at most one snapshot that is still processing. A chunk
belongs to a snapshot that exists, goes when that goes, and is the only one
with its place in its space. A snapshot is completed once.
-/

namespace Metering

/-- A chunk in the store, with the identifier of its snapshot. -/
structure StoredChunk where
  snapshot : Int
  org : String
  orgName : Option String
  space : String
  spaceName : Option String
  index : Int
  items : String
deriving DecidableEq, Repr

namespace StoredChunk

def ofPending (snapshot : Int) (c : PendingChunk) : StoredChunk where
  snapshot := snapshot
  org := c.org
  orgName := c.orgName
  space := c.space
  spaceName := c.spaceName
  index := c.index
  items := c.items

/-- Whether two chunks would have the same place. -/
def collides (a b : StoredChunk) : Bool :=
  a.snapshot = b.snapshot && a.space = b.space && a.index = b.index

/-- Whether a chunk comes before another on pages: by space, then by place. -/
def precedes (a b : StoredChunk) : Bool :=
  a.space < b.space || (a.space = b.space && a.index ≤ b.index)

/-- The chunk with its items. -/
def decode (c : StoredChunk) : Except Error SnapshotChunk :=
  match UsageItem.readAll? c.items with
  | some items => .ok ⟨c.org, c.orgName, c.space, c.spaceName, c.index, items⟩
  | none => .error Error.malformedDocument

end StoredChunk

structure Snapshots where
  /-- The snapshots, in the order they were requested. -/
  rows : List SnapshotRow
  chunks : List StoredChunk
  /-- The highest identifier given out so far. -/
  issued : Int
deriving DecidableEq, Repr

namespace Snapshots

def empty : Snapshots := ⟨[], [], 0⟩

instance : Inhabited Snapshots := ⟨empty⟩

def row? (guid : String) (s : Snapshots) : Option SnapshotRow :=
  s.rows.find? (·.guid = guid)

def find? (guid : String) (s : Snapshots) : Option Snapshot :=
  (s.row? guid).map SnapshotRow.toSnapshot

/-- The snapshot with a guid, which has to be there. -/
def get (guid : String) (s : Snapshots) : Except Error Snapshot :=
  match s.find? guid with
  | some snapshot => .ok snapshot
  | none => .error (.snapshotNotFound guid)

/-- The snapshot of a kind that is still processing. -/
def inProgress? (k : Kind) (s : Snapshots) : Option Snapshot :=
  (s.rows.find? fun r => r.kind = k && r.isProcessing).map SnapshotRow.toSnapshot

/-- Requests a snapshot of a kind under a new guid. -/
def request (k : Kind) (now : Int) (fresh : String) (s : Snapshots) :
    Except Error (Snapshot × Snapshots) :=
  if (s.inProgress? k).isSome then .error (.generationInProgress k.name)
  else
    let row := SnapshotRow.placeholder (s.issued + 1) fresh k now
    .ok (row.toSnapshot, { s with rows := s.rows ++ [row], issued := s.issued + 1 })

/-- Whether a snapshot is listed before another: the newest first. -/
def precedes (a b : SnapshotRow) : Bool :=
  b.createdAt < a.createdAt || (a.createdAt = b.createdAt && b.id ≤ a.id)

/-- One page of the snapshots, of one kind or of all. -/
def list (k : Option Kind) (offset limit : Nat) (s : Snapshots) : List Snapshot :=
  let wanted := s.rows.filter fun r => k.all (r.kind = ·)
  (Page.slice offset limit (wanted.mergeSort precedes)).map SnapshotRow.toSnapshot

/-- Deletes the snapshots that satisfy a condition, and their chunks. -/
def deleteWhere (doomed : SnapshotRow → Bool) (s : Snapshots) : Nat × Snapshots :=
  let gone := s.rows.filter doomed
  (gone.length,
    { s with
      rows := s.rows.filter fun r => ! doomed r
      chunks := s.chunks.filter fun c => ! gone.any (·.id = c.snapshot) })

/-- Deletes the snapshot with a guid and says whether there was one. -/
def delete (guid : String) (s : Snapshots) : Bool × Snapshots :=
  let (n, s) := s.deleteWhere (·.guid = guid)
  (0 < n, s)

/-- Deletes the complete snapshots of a kind requested before a moment. -/
def deleteCompletedBefore (k : Kind) (cutoff : Int) (s : Snapshots) : Nat × Snapshots :=
  s.deleteWhere fun r => r.kind = k && ! r.isProcessing && r.createdAt < cutoff

/-- Deletes the processing snapshots of a kind requested before a moment. -/
def deleteInProgressBefore (k : Kind) (cutoff : Int) (s : Snapshots) : Nat × Snapshots :=
  s.deleteWhere fun r => r.kind = k && r.isProcessing && r.createdAt < cutoff

/-! ## Chunks -/

def uniqueChunkColumns : List String :=
  ["usage_snapshot_chunks.snapshot_id", "usage_snapshot_chunks.space_guid",
    "usage_snapshot_chunks.chunk_index"]

def insertChunk (c : StoredChunk) (s : Snapshots) : Except Error Snapshots :=
  if s.chunks.any (·.collides c) then .error (.database (.unique uniqueChunkColumns))
  else if s.rows.any (·.id = c.snapshot) then .ok { s with chunks := s.chunks ++ [c] }
  else .error (.database .foreignKey)

/-- Stores the chunks of a snapshot one after the other; those before one that fails stay. -/
def insertChunks (snapshot : Int) : Chunking.Sink Snapshots
  | [], s => (.ok (), s)
  | c :: rest, s =>
    match s.insertChunk (.ofPending snapshot c) with
    | .ok s => insertChunks snapshot rest s
    | .error e => (.error e, s)

/-- The chunks of a snapshot by space and place. -/
def chunksOf (snapshot : Int) (s : Snapshots) : List StoredChunk :=
  (s.chunks.filter (·.snapshot = snapshot)).mergeSort StoredChunk.precedes

/-- One page of the chunks of a snapshot that is given as complete. -/
def chunksPage (snapshot : Snapshot) (offset limit : Nat) (s : Snapshots) :
    Except Error ChunkPage := do
  if ! snapshot.isComplete then throw (.stillProcessing snapshot.guid)
  let all := s.chunksOf snapshot.id
  let chunks ← (Page.slice offset limit all).mapM StoredChunk.decode
  pure ⟨all.length, offset, chunks⟩

/-! ## Completing -/

/-- The row of a snapshot that was completed with these totals. -/
def completed (now : Int) (checkpoint : Option Event) (t : Totals) (tracksParents : Bool)
    (r : SnapshotRow) : SnapshotRow :=
  { r with
    completedAt := some now
    checkpoint := checkpoint.map (·.guid)
    checkpointAt := checkpoint.map (·.createdAt.toMillis)
    instances := t.instances
    organizations := Word.signed t.organizations
    spaces := Word.signed t.spaces
    parents := if tracksParents then some (Word.signed t.parents) else none
    resources := Word.signed t.resources
    chunks := Word.signed t.chunks }

/-- Completes a snapshot, unless it is complete or gone. -/
def complete (now : Int) (snapshot : Snapshot) (checkpoint : Option Event) (t : Totals)
    (tracksParents : Bool) (s : Snapshots) : Except Error Snapshots :=
  let isOpen (r : SnapshotRow) : Bool := r.id = snapshot.id && r.isProcessing
  if s.rows.any isOpen then
    .ok { s with rows := s.rows.map fun r =>
            if isOpen r then completed now checkpoint t tracksParents r else r }
  else .error (.alreadyComplete snapshot.guid)

/-! ## Changing what is stored -/

/-- The columns of a snapshot that hold a number. -/
inductive Column where
  | createdAt
  | completedAt
  | checkpointAt
  | instances
  | organizations
  | spaces
  | parents
  | resources
  | chunks
deriving DecidableEq, Repr

namespace Column

def all : List Column :=
  [.createdAt, .completedAt, .checkpointAt, .instances, .organizations, .spaces, .parents,
    .resources, .chunks]

def name : Column → String
  | .createdAt => "created_at"
  | .completedAt => "completed_at"
  | .checkpointAt => "checkpoint_event_created_at"
  | .instances => "instance_count"
  | .organizations => "organization_count"
  | .spaces => "space_count"
  | .parents => "parent_count"
  | .resources => "resource_count"
  | .chunks => "chunk_count"

def ofName? (s : String) : Option Column := all.find? (·.name = s)

/-- Whether a column may be empty. -/
def isOptional : Column → Bool
  | .completedAt | .checkpointAt | .parents => true
  | _ => false

/-- The row with a column changed; an empty value is for the columns that may be empty. -/
def set (c : Column) (value : Option Int) (r : SnapshotRow) : SnapshotRow :=
  let n := value.getD 0
  match c with
  | .createdAt => { r with createdAt := n }
  | .completedAt => { r with completedAt := value }
  | .checkpointAt => { r with checkpointAt := value }
  | .instances => { r with instances := n }
  | .organizations => { r with organizations := n }
  | .spaces => { r with spaces := n }
  | .parents => { r with parents := value }
  | .resources => { r with resources := n }
  | .chunks => { r with chunks := n }

end Column

/-- Whether some kind has two snapshots that are still processing. -/
def hasRivals (rows : List SnapshotRow) : Bool :=
  Kind.all.any fun k => 1 < (rows.filter fun r => r.kind = k && r.isProcessing).length

/-- Overwrites a stored column of the snapshot with a guid. -/
def overwrite (guid : String) (c : Column) (value : Option Int) (s : Snapshots) :
    Except Error (Nat × Snapshots) :=
  let hits := (s.rows.filter (·.guid = guid)).length
  let rows := s.rows.map fun r => if r.guid = guid then c.set value r else r
  if hits = 0 then .ok (0, s)
  else if value.isNone && ! c.isOptional then
    .error (.database (.notNull ("usage_snapshots." ++ c.name)))
  else if hasRivals rows then .error (.database (.unique ["usage_snapshots.kind"]))
  else .ok (hits, { s with rows := rows })

/-- Overwrites the items of all chunks of the snapshot with a guid. -/
def overwriteItems (guid items : String) (s : Snapshots) : Nat × Snapshots :=
  match s.row? guid with
  | none => (0, s)
  | some r =>
    ((s.chunks.filter (·.snapshot = r.id)).length,
      { s with chunks := s.chunks.map fun c =>
          if c.snapshot = r.id then { c with items := items } else c })

end Snapshots

end Metering
