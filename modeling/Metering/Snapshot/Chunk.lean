import Metering.Active.Item

/-!
# Chunks

A snapshot keeps its items in chunks. Every chunk belongs to one space of one
organization, has a place among the chunks of that space, and holds the text
of a list of items. A chunk that waits to be stored is a `PendingChunk`; read
back from the store with its items decoded it is a `SnapshotChunk`, and a page
of those comes with the number of all.
-/

namespace Metering

structure PendingChunk where
  org : String
  orgName : Option String
  space : String
  spaceName : Option String
  index : Int
  itemCount : Nat
  /-- The text of the items. -/
  items : String
deriving DecidableEq, Repr

structure SnapshotChunk where
  org : String
  orgName : Option String
  space : String
  spaceName : Option String
  index : Int
  items : List UsageItem
deriving DecidableEq, Repr

structure ChunkPage where
  total : Nat
  offset : Nat
  chunks : List SnapshotChunk
deriving DecidableEq, Repr

namespace PendingChunk

def toJson (c : PendingChunk) : Json :=
  .obj [("organization_guid", .str c.org),
    ("organization_name", Json.ofOption .str c.orgName),
    ("space_guid", .str c.space),
    ("space_name", Json.ofOption .str c.spaceName),
    ("chunk_index", .int c.index),
    ("item_count", Json.ofNat c.itemCount),
    ("items", .str c.items)]

def ofJson? (j : Json) : Option PendingChunk := do
  let f ← j.fieldsOf? .plain ["organization_guid", "organization_name", "space_guid",
    "space_name", "chunk_index", "item_count", "items"]
  pure {
    org := ← f.required "organization_guid" Json.text?
    orgName := ← f.optional "organization_name" Json.text?
    space := ← f.required "space_guid" Json.text?
    spaceName := ← f.optional "space_name" Json.text?
    index := ← f.required "chunk_index" Json.signed64?
    itemCount := ← f.required "item_count" Json.unsigned64?
    items := ← f.required "items" Json.text? }

end PendingChunk

namespace SnapshotChunk

def toJson (c : SnapshotChunk) : Json :=
  .obj [("organization_guid", .str c.org),
    ("organization_name", Json.ofOption .str c.orgName),
    ("space_guid", .str c.space),
    ("space_name", Json.ofOption .str c.spaceName),
    ("chunk_index", .int c.index),
    ("items", .arr (c.items.map UsageItem.toJson))]

def ofJson? (j : Json) : Option SnapshotChunk := do
  let f ← j.fieldsOf? .plain ["organization_guid", "organization_name", "space_guid",
    "space_name", "chunk_index", "items"]
  pure {
    org := ← f.required "organization_guid" Json.text?
    orgName := ← f.optional "organization_name" Json.text?
    space := ← f.required "space_guid" Json.text?
    spaceName := ← f.optional "space_name" Json.text?
    index := ← f.required "chunk_index" Json.signed64?
    items := ← f.required "items" (Json.list? UsageItem.ofJson?) }

end SnapshotChunk

namespace ChunkPage

def toJson (p : ChunkPage) : Json :=
  .obj [("total", Json.ofNat p.total),
    ("offset", Json.ofNat p.offset),
    ("chunks", .arr (p.chunks.map SnapshotChunk.toJson))]

def ofJson? (j : Json) : Option ChunkPage := do
  let f ← j.fieldsOf? .plain ["total", "offset", "chunks"]
  pure {
    total := ← f.required "total" Json.unsigned64?
    offset := ← f.required "offset" Json.unsigned64?
    chunks := ← f.required "chunks" (Json.list? SnapshotChunk.ofJson?) }

end ChunkPage

end Metering
