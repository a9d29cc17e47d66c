import Metering.Active.Source
import Metering.Snapshot.Chunk
import Metering.Word

/-!
# Cutting resources into chunks

Resources arrive one after the other, those of a space together, and are cut
into chunks as they come: a chunk ends when it is full or when another space
begins. Finished chunks wait until there are enough of them for a batch. So
what is held at any time is bounded by the two limits, however many resources
there are. Totals are counted along the way; a resource without a space or an
organization is only counted as skipped. The instances are summed up in a word,
and a resource whose instances do not fit in it any more ends everything.

Cutting says which batches are to be stored and in which order; storing them
is the business of a sink, and the first batch that a sink refuses ends it.
-/

namespace Metering

/-- What one generation counted. -/
structure Totals where
  instances : Int
  resources : Nat
  chunks : Nat
  organizations : Nat
  spaces : Nat
  parents : Nat
  skipped : Nat
deriving DecidableEq, Repr

namespace Totals

def toJson (t : Totals) : Json :=
  .obj [("instance_count", .int t.instances),
    ("resource_count", Json.ofNat t.resources),
    ("chunk_count", Json.ofNat t.chunks),
    ("organization_count", Json.ofNat t.organizations),
    ("space_count", Json.ofNat t.spaces),
    ("parent_count", Json.ofNat t.parents),
    ("skipped_rows", Json.ofNat t.skipped)]

def ofJson? (j : Json) : Option Totals := do
  let f ← j.fieldsOf? .plain ["instance_count", "resource_count", "chunk_count",
    "organization_count", "space_count", "parent_count", "skipped_rows"]
  pure {
    instances := ← f.required "instance_count" Json.signed64?
    resources := ← f.required "resource_count" Json.unsigned64?
    chunks := ← f.required "chunk_count" Json.unsigned64?
    organizations := ← f.required "organization_count" Json.unsigned64?
    spaces := ← f.required "space_count" Json.unsigned64?
    parents := ← f.required "parent_count" Json.unsigned64?
    skipped := ← f.required "skipped_rows" Json.unsigned64? }

end Totals

/-- Chunks that are stored together. -/
abbrev Batch := List PendingChunk

/-- How many items a chunk and how many chunks a batch holds; zero counts as one. -/
structure ChunkLimits where
  items : Nat
  chunks : Nat
deriving DecidableEq, Repr

namespace ChunkLimits

def perChunk (l : ChunkLimits) : Nat := max l.items 1

def perBatch (l : ChunkLimits) : Nat := max l.chunks 1

end ChunkLimits

/-- The chunk that is being filled. -/
structure OpenChunk where
  org : String
  orgName : Option String
  space : String
  spaceName : Option String
  index : Nat
  items : List UsageItem
deriving DecidableEq, Repr

/-- The finished chunk. -/
def OpenChunk.close (c : OpenChunk) : PendingChunk where
  org := c.org
  orgName := c.orgName
  space := c.space
  spaceName := c.spaceName
  index := c.index
  itemCount := c.items.length
  items := UsageItem.writeAll c.items

/-- What is held between one resource and the next. -/
structure Chunking where
  current : Option OpenChunk
  pending : Batch
  instances : Int
  resources : Nat
  chunks : Nat
  skipped : Nat
  organizations : List String
  spaces : List String
  parents : List String
deriving DecidableEq, Repr

namespace Chunking

def start : Chunking := ⟨none, [], 0, 0, 0, 0, [], [], []⟩

/-- Whether the chunk that is being filled is for a space. -/
def isIn (space : String) (c : Chunking) : Bool :=
  match c.current with
  | some o => o.space = space
  | none => false

/-- Puts the chunk that is being filled, unless it is empty, behind the finished ones. What waits
goes out as a batch as soon as it is one. -/
def flush (l : ChunkLimits) (c : Chunking) : Chunking × List Batch :=
  match c.current with
  | none => (c, [])
  | some o =>
    if o.items.isEmpty then (c, [])
    else
      let pending := c.pending ++ [o.close]
      let full := l.perBatch ≤ pending.length
      ({ c with
          current := some { o with items := [] }
          chunks := c.chunks + 1
          pending := if full then [] else pending },
        if full then [pending] else [])

/-- Begins the first chunk of a space. The room for a full chunk, which is set aside here, is
taken to be there: memory is not part of the model. -/
def enter (org : String) (orgName : Option String) (space : String) (spaceName : Option String)
    (c : Chunking) : Chunking :=
  { c with current := some ⟨org, orgName, space, spaceName, 0, []⟩ }

/-- Makes sure that the chunk that is being filled is one of a space. -/
def turnTo (l : ChunkLimits) (org : String) (orgName : Option String) (space : String)
    (spaceName : Option String) (c : Chunking) : Chunking × List Batch :=
  if c.isIn space then (c, [])
  else
    let (c, batches) := c.flush l
    (c.enter org orgName space spaceName, batches)

/-- Counts a resource and puts its item into the chunk that is being filled. -/
def add (org space : String) (r : ActiveResource) (c : Chunking) : Chunking :=
  { c with
    current := c.current.map fun o => { o with items := o.items ++ [r.item] }
    instances := c.instances + r.instances
    resources := c.resources + 1
    organizations := c.organizations.insert org
    spaces := c.spaces.insert space
    parents := match r.parent with
      | some p => c.parents.insert p
      | none => c.parents }

def isFull (l : ChunkLimits) (c : Chunking) : Bool :=
  match c.current with
  | some o => l.perChunk ≤ o.items.length
  | none => false

/-- Moves on to the next place in the space. -/
def advance (c : Chunking) : Chunking :=
  { c with current := c.current.map fun o => { o with index := o.index + 1 } }

/-- Adds a resource to the chunk that is being filled, and finishes it if that makes it full. -/
def put (l : ChunkLimits) (org space : String) (r : ActiveResource) (c : Chunking) :
    Chunking × List Batch :=
  let c := c.add org space r
  if c.isFull l then
    let (c, batches) := c.flush l
    (c.advance, batches)
  else (c, [])

/-- Takes in the next resource. What goes out before its instances are added goes out even if
they cannot be. -/
def push (l : ChunkLimits) (r : ActiveResource) (c : Chunking) :
    Except Error Chunking × List Batch :=
  match r.space, r.org with
  | some space, some org =>
    let (c, left) := c.turnTo l org r.orgName space r.spaceName
    if Word.holdsSigned (c.instances + r.instances) then
      let (c, batches) := c.put l org space r
      (.ok c, left ++ batches)
    else (.error .overflow, left)
  | _, _ => (.ok { c with skipped := c.skipped + 1 }, [])

/-- Everything that is still held, as batches. -/
def finish (l : ChunkLimits) (c : Chunking) : Chunking × List Batch :=
  let (c, batches) := c.flush l
  ({ c with pending := [] }, if c.pending.isEmpty then batches else batches ++ [c.pending])

def totals (c : Chunking) : Totals where
  instances := c.instances
  resources := c.resources
  chunks := c.chunks
  organizations := c.organizations.length
  spaces := c.spaces.length
  parents := c.parents.length
  skipped := c.skipped

/-! ## Storing the batches -/

/-- Stores a batch, or as much of it as it takes until something fails. -/
abbrev Sink (σ : Type) := Batch → σ → Except Error Unit × σ

variable {σ : Type}

/-- Stores batches in order, up to the first that fails. -/
def deliver (sink : Sink σ) : List Batch → σ → Except Error Unit × σ
  | [], s => (.ok (), s)
  | b :: rest, s =>
    match sink b s with
    | (.ok _, s) => deliver sink rest s
    | (.error e, s) => (.error e, s)

/-- How far a run has come: the resources taken in, what is held, and the sink. -/
structure Progress (σ : Type) where
  accepted : Nat
  state : Except Error Chunking
  sink : σ

/-- Takes in resources, up to the first that cannot be, or whose batches fail. -/
def pushAll (l : ChunkLimits) (sink : Sink σ) :
    List ActiveResource → Nat → Chunking → σ → Progress σ
  | [], n, c, s => ⟨n, .ok c, s⟩
  | r :: rest, n, c, s =>
    let (next, batches) := c.push l r
    match deliver sink batches s with
    | (.error e, s) => ⟨n, .error e, s⟩
    | (.ok _, s) =>
      match next with
      | .error e => ⟨n, .error e, s⟩
      | .ok c => pushAll l sink rest (n + 1) c s

/-- What a run came to: the resources taken in, the totals or the first failure, and the sink. -/
structure Outcome (σ : Type) where
  accepted : Nat
  totals : Except Error Totals
  sink : σ

/-- Cuts all resources of a walk into chunks and stores them. A failure of the walk comes after
the storing of what it passed. -/
def run (l : ChunkLimits) (sink : Sink σ) (w : Walk) (s : σ) : Outcome σ :=
  match pushAll l sink w.rows 0 start s with
  | ⟨n, .error e, s⟩ => ⟨n, .error e, s⟩
  | ⟨n, .ok c, s⟩ =>
    match w.failure with
    | some e => ⟨n, .error e, s⟩
    | none =>
      let (c, batches) := c.finish l
      match deliver sink batches s with
      | (.ok _, s) => ⟨n, .ok c.totals, s⟩
      | (.error e, s) => ⟨n, .error e, s⟩

end Chunking

end Metering
