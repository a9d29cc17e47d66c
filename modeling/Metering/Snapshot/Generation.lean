import Metering.Ledger
import Metering.Snapshot.Store
import Metering.Telemetry.Registry

/-!
# Generating a snapshot

A requested snapshot is generated in one go: the newest event of the ledger is
taken as its checkpoint, the source's resources are cut into chunks and
stored, and the snapshot is completed with the totals. The new state of the
store exists only when all of this has succeeded. A failure leaves the store
as it was and is counted; a snapshot given as complete is turned away
uncounted. An overflow is neither answered nor counted, but what was stored is
taken back all the same.
-/

namespace Metering

open Metering.Telemetry (Observation)

structure GenerationSettings where
  chunkLimit : Nat
  fetchBatchSize : Nat
  insertBatchSize : Nat
deriving DecidableEq, Repr

namespace GenerationSettings

def default : GenerationSettings := ⟨50, 1000, 1000⟩

instance : Inhabited GenerationSettings := ⟨default⟩

def limits (g : GenerationSettings) : ChunkLimits := ⟨g.chunkLimit, g.insertBatchSize⟩

def toJson (g : GenerationSettings) : Json :=
  .obj [("chunk_limit", Json.ofNat g.chunkLimit),
    ("fetch_batch_size", Json.ofNat g.fetchBatchSize),
    ("insert_batch_size", Json.ofNat g.insertBatchSize)]

def ofJson? (j : Json) : Option GenerationSettings := do
  let f ← j.fieldsOf? .plain ["chunk_limit", "fetch_batch_size", "insert_batch_size"]
  pure {
    chunkLimit := ← f.required "chunk_limit" Json.unsigned64?
    fetchBatchSize := ← f.required "fetch_batch_size" Json.unsigned64?
    insertBatchSize := ← f.required "insert_batch_size" Json.unsigned64? }

/-- The settings in force, for a log. -/
def describe (g : GenerationSettings) : String :=
  "SnapshotEngine \x7b settings: GenerationSettings \x7b chunk_limit: " ++ toString g.chunkLimit ++
    ", fetch_batch_size: " ++ toString g.fetchBatchSize ++
    ", insert_batch_size: " ++ toString g.insertBatchSize ++ " \x7d, .. \x7d"

end GenerationSettings

namespace Snapshot

/-- The store with a snapshot generated from a source. -/
def generate (g : GenerationSettings) (source : Source) (now : Int) (l : Ledger)
    (snapshot : Snapshot) (s : Snapshots) : Except Error Snapshots := do
  let checkpoint ← l.latest
  let outcome := Chunking.run g.limits (Snapshots.insertChunks snapshot.id)
    (source.walk g.fetchBatchSize) s
  let totals ← outcome.totals
  outcome.sink.complete now snapshot checkpoint totals source.tracksParents

/-- What came of a request to generate a snapshot: the answer, the store, and what there was to
measure. -/
structure Populated where
  answer : Except Error Snapshot
  store : Snapshots
  observation : Option Observation

/-- Generates a snapshot that is given as processing. -/
def populate (g : GenerationSettings) (source : Source) (now : Int) (l : Ledger)
    (snapshot : Snapshot) (s : Snapshots) : Populated :=
  if snapshot.isComplete then ⟨.error (.alreadyComplete snapshot.guid), s, none⟩
  else
    match generate g source now l snapshot s with
    | .error .overflow => ⟨.error .overflow, s, none⟩
    | .error e => ⟨.error (.generationFailed snapshot.guid e), s, some (.failed snapshot.kind)⟩
    | .ok s' =>
      match s'.get snapshot.guid with
      | .error e => ⟨.error e, s', none⟩
      | .ok done => ⟨.ok done, s', some (.generated snapshot.kind)⟩

end Snapshot

end Metering
