import Metering.Proofs.Storing

/-!
# Chunks and pages read back

A list of items is written twice on its way out of a snapshot: as the text of a chunk,
when the chunk is finished, and inside the document of a page, when the page is given
out. Either way it comes back as it was. The first is `UsageItem.readAll?_writeAll`; for
the second the law of items is carried up to chunks and from chunks to pages. On each
level three things are needed of the document that is written: it is read back as what
it was written for, its numbers are of a range that texts keep, and its brackets do not
nest too deep for the reader.
-/

namespace Metering

namespace Json

theorem unsigned64?_ofNat {n : Nat} (h : n ≤ Word.max) : unsigned64? (ofNat n) = some n := by
  have hwithin : (0 : Int) ≤ n ∧ (n : Int) ≤ Word.max := ⟨Int.natCast_nonneg n, Int.ofNat_le.2 h⟩
  show (intWithin? 0 Word.max (.int n)).map Int.toNat = some n
  rw [intWithin?, if_pos hwithin]
  rfl

theorem isExact_ofNat {n : Nat} (h : n ≤ Word.max) : (ofNat n).IsExact := by
  show Token.IsWhole n
  unfold Token.IsWhole Word.minSigned
  omega

end Json

namespace SnapshotChunk

/-- Whether the numbers of a chunk are of 64 bits. -/
def Fits (c : SnapshotChunk) : Prop :=
  Word.holdsSigned c.index = true ∧ ∀ i ∈ c.items, i.Fits

/-- The fields of a chunk's document. -/
def fields (c : SnapshotChunk) : List (String × Json) :=
  [("organization_guid", .str c.org), ("organization_name", Json.ofOption .str c.orgName),
    ("space_guid", .str c.space), ("space_name", Json.ofOption .str c.spaceName),
    ("chunk_index", .int c.index), ("items", .arr (c.items.map UsageItem.toJson))]

theorem ofJson?_toJson {c : SnapshotChunk} (h : c.Fits) : ofJson? c.toJson = some c := by
  let f : Json.Fields := ⟨true, c.fields⟩
  have hf : c.toJson.fieldsOf? .plain ["organization_guid", "organization_name",
      "space_guid", "space_name", "chunk_index", "items"] = some f :=
    Json.fieldsOf?_obj rfl (by decide)
  have horg : f.required "organization_guid" Json.text? = some c.org := rfl
  have horgName : f.optional "organization_name" Json.text? = some c.orgName :=
    Json.Fields.optional_ofOption rfl fun s _ => ⟨by simp, rfl⟩
  have hspace : f.required "space_guid" Json.text? = some c.space := rfl
  have hspaceName : f.optional "space_name" Json.text? = some c.spaceName :=
    Json.Fields.optional_ofOption rfl fun s _ => ⟨by simp, rfl⟩
  have hindex : f.required "chunk_index" Json.signed64? = some c.index :=
    Json.signed64?_int h.1
  have hitems : f.required "items" (Json.list? UsageItem.ofJson?) = some c.items :=
    Json.list?_map fun i hi => UsageItem.ofJson?_toJson (h.2 i hi)
  simp only [ofJson?, hf, horg, horgName, hspace, hspaceName, hindex, hitems,
    Option.bind_eq_bind, Option.bind_some]
  rfl

theorem isExact_toJson {c : SnapshotChunk} (h : c.Fits) : c.toJson.IsExact := by
  have htext : ∀ value : Option String, (Json.ofOption .str value).IsExact := fun value =>
    Json.isExact_ofOption fun _ _ => trivial
  have hitems : (Json.arr (c.items.map UsageItem.toJson)).IsExact :=
    Json.areExact_map fun i hi => UsageItem.isExact_toJson (h.2 i hi)
  exact ⟨trivial, htext _, trivial, htext _, Json.isWhole_of_holdsSigned h.1, hitems, trivial⟩

theorem nesting_toJson_le (c : SnapshotChunk) : c.toJson.nesting ≤ 3 := by
  have htext : ∀ value : Option String, (Json.ofOption .str value).nesting = 0 := fun value =>
    Json.nesting_ofOption fun _ => rfl
  have hitems : Json.itemNesting (c.items.map UsageItem.toJson) ≤ 1 :=
    Json.itemNesting_map_le fun i _ => Nat.le_of_eq (UsageItem.nesting_toJson i)
  simp only [toJson, Json.nesting, Json.fieldNesting, htext]
  omega

end SnapshotChunk

namespace ChunkPage

/-- Whether the numbers of a page are of 64 bits. -/
def Fits (p : ChunkPage) : Prop :=
  p.total ≤ Word.max ∧ p.offset ≤ Word.max ∧ ∀ c ∈ p.chunks, c.Fits

/-- The fields of a page's document. -/
def fields (p : ChunkPage) : List (String × Json) :=
  [("total", Json.ofNat p.total), ("offset", Json.ofNat p.offset),
    ("chunks", .arr (p.chunks.map SnapshotChunk.toJson))]

theorem ofJson?_toJson {p : ChunkPage} (h : p.Fits) : ofJson? p.toJson = some p := by
  let f : Json.Fields := ⟨true, p.fields⟩
  have hf : p.toJson.fieldsOf? .plain ["total", "offset", "chunks"] = some f :=
    Json.fieldsOf?_obj rfl (by decide)
  have htotal : f.required "total" Json.unsigned64? = some p.total :=
    Json.unsigned64?_ofNat h.1
  have hoffset : f.required "offset" Json.unsigned64? = some p.offset :=
    Json.unsigned64?_ofNat h.2.1
  have hchunks : f.required "chunks" (Json.list? SnapshotChunk.ofJson?) = some p.chunks :=
    Json.list?_map fun c hc => SnapshotChunk.ofJson?_toJson (h.2.2 c hc)
  simp only [ofJson?, hf, htotal, hoffset, hchunks, Option.bind_eq_bind, Option.bind_some]
  rfl

theorem isExact_toJson {p : ChunkPage} (h : p.Fits) : p.toJson.IsExact := by
  have hchunks : (Json.arr (p.chunks.map SnapshotChunk.toJson)).IsExact :=
    Json.areExact_map fun c hc => SnapshotChunk.isExact_toJson (h.2.2 c hc)
  exact ⟨Json.isExact_ofNat h.1, Json.isExact_ofNat h.2.1, hchunks, trivial⟩

theorem nesting_toJson_le (p : ChunkPage) : p.toJson.nesting ≤ 5 := by
  have hnat : ∀ n, (Json.ofNat n).nesting = 0 := fun _ => rfl
  have hchunks : Json.itemNesting (p.chunks.map SnapshotChunk.toJson) ≤ 3 :=
    Json.itemNesting_map_le fun c _ => c.nesting_toJson_le
  simp only [toJson, Json.nesting, Json.fieldNesting, hnat]
  omega

theorem read?_write {p : ChunkPage} (h : p.Fits) :
    (Json.read? p.toJson.write).bind ofJson? = some p := by
  have hdeep : p.toJson.nesting ≤ Json.maxDepth := Nat.le_trans p.nesting_toJson_le (by decide)
  have hread : Json.read? p.toJson.write = some p.toJson :=
    Json.readWithin?_write (isExact_toJson h) hdeep
  rw [hread]
  exact ofJson?_toJson h

end ChunkPage

/-- Items come back as they were, in their order and each in its own shape: from the text
that a finished chunk holds, whatever its place, so that the store gives the chunk out
again, and from the text of a page that shows them. -/
theorem items_survive {items : List UsageItem} (h : ∀ i ∈ items, i.Fits) :
    (∀ o : OpenChunk, o.items = items →
      UsageItem.readAll? o.close.items = some items ∧
      ∀ id, (StoredChunk.ofPending id o.close).decode = .ok o.chunk) ∧
    ∀ p : ChunkPage, p.total ≤ Word.max → p.offset ≤ Word.max →
      (∀ c ∈ p.chunks, Word.holdsSigned c.index = true ∧ c.items ⊆ items) →
      (Json.read? p.toJson.write).bind ChunkPage.ofJson? = some p := by
  constructor
  · rintro o rfl
    refine ⟨UsageItem.readAll?_writeAll h, fun id => ?_⟩
    rw [o.close_eq]
    exact SnapshotChunk.decode_stored (c := o.chunk) h
  · intro p htotal hoffset hchunks
    refine ChunkPage.read?_write ⟨htotal, hoffset, fun c hc => ?_⟩
    obtain ⟨hindex, hitems⟩ := hchunks c hc
    exact ⟨hindex, fun i hi => h i (hitems hi)⟩

/-- A process and a service instance with texts that need escaping, with numbers at both
ends of their range and with gaps. -/
def awkward : List UsageItem :=
  [.process ⟨"a\"b", "back\\slash", "p\u0001", "web\n\t", some Word.minSigned,
      some Word.maxSigned, none, some ""⟩,
    .service ⟨"s", "\x7b\"app_guid\":null\x7d", "managed_service_instance", none, some "plan é",
      none, none, some "\u007f", some "日本"⟩,
    .process ⟨"", "", "", "", none, none, some "null", none⟩]

theorem awkward_fits : ∀ i ∈ awkward, i.Fits := by
  have hends : Word.holdsSigned Word.minSigned = true ∧
    Word.holdsSigned Word.maxSigned = true := by decide
  simp [awkward, UsageItem.Fits, hends]

theorem items_survive_awkward :
    (∀ i ∈ awkward, i.Fits) ∧
    (StoredChunk.ofPending 1 (OpenChunk.close ⟨"o", none, "s", some "\"", 3, awkward⟩)).decode =
      .ok ⟨"o", none, "s", some "\"", 3, awkward⟩ ∧
    (Json.read? (ChunkPage.toJson ⟨Word.max, 0, [⟨"o", none, "s", some "\"", -1, awkward⟩,
        ⟨"o", none, "t", none, 0, awkward.reverse⟩]⟩).write).bind ChunkPage.ofJson? =
      some ⟨Word.max, 0, [⟨"o", none, "s", some "\"", -1, awkward⟩,
        ⟨"o", none, "t", none, 0, awkward.reverse⟩]⟩ := by
  obtain ⟨hchunk, hpage⟩ := items_survive awkward_fits
  refine ⟨awkward_fits, (hchunk _ rfl).2 1, hpage _ (Nat.le_refl _) (Nat.zero_le _) ?_⟩
  simp [Word.holdsSigned, Word.minSigned, Word.maxSigned]

end Metering
