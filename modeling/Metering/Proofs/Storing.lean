import Metering.Proofs.Filling
import Metering.Proofs.Items
import Metering.Snapshot.Store

/-!
# Stored chunks are read back

The store takes the chunks of a snapshot one by one, whatever the batches they
come in, and gives them out by space and number. Chunks that are stored in this
order, and whose places are therefore distinct, are all accepted, stay in it,
and are read back with the items that they were made of.

Which chunks a snapshot finds when it is generated is the other half: a
snapshot that is still processing has none. `IsKept` says so of a store, and
every operation on a store keeps it.
-/

namespace Metering

namespace Snapshots

/-! ## Inserting -/

/-- The store with chunks of a snapshot behind its others. -/
def withChunks (id : Int) (cs : List PendingChunk) (s : Snapshots) : Snapshots :=
  { s with chunks := s.chunks ++ cs.map (.ofPending id) }

theorem withChunks_append (id : Int) (as bs : List PendingChunk) (s : Snapshots) :
    s.withChunks id (as ++ bs) = (s.withChunks id as).withChunks id bs := by
  simp [withChunks]

theorem insertChunks_append {id : Int} {as bs : Batch} {s u : Snapshots}
    (h : insertChunks id (as ++ bs) s = (.ok (), u)) :
    ∃ t, insertChunks id as s = (.ok (), t) ∧ insertChunks id bs t = (.ok (), u) := by
  induction as generalizing s with
  | nil => exact ⟨s, rfl, h⟩
  | cons c as ih =>
      rw [List.cons_append, insertChunks] at h
      rw [insertChunks]
      split
      · next s' hc =>
          rw [hc] at h
          exact ih h
      · next e hc =>
          rw [hc] at h
          cases (Prod.mk.inj h).1

theorem deliver_of_insertChunks {id : Int} {batches : List Batch} {s t : Snapshots}
    (h : insertChunks id batches.flatten s = (.ok (), t)) :
    Chunking.deliver (insertChunks id) batches s = (.ok (), t) := by
  induction batches generalizing s with
  | nil => exact h
  | cons b batches ih =>
      obtain ⟨m, hfirst, hrest⟩ := insertChunks_append h
      simp only [Chunking.deliver, hfirst]
      exact ih hrest

theorem insertChunks_of_distinct {id : Int} {cs : List PendingChunk} {s : Snapshots}
    (hrow : s.rows.any (·.id = id) = true)
    (hfree : ∀ c ∈ s.chunks, ∀ p ∈ cs, c.collides (.ofPending id p) = false)
    (hdistinct : cs.Pairwise fun a b =>
      (StoredChunk.ofPending id a).collides (.ofPending id b) = false) :
    insertChunks id cs s = (.ok (), s.withChunks id cs) := by
  induction cs generalizing s with
  | nil =>
      rw [insertChunks, withChunks, List.map_nil, List.append_nil]
  | cons c cs ih =>
      obtain ⟨hc, hcs⟩ := List.pairwise_cons.1 hdistinct
      have hnone : s.chunks.any (·.collides (.ofPending id c)) = false := by
        rw [List.any_eq_false]
        intro x hx
        rw [hfree x hx c (List.mem_cons_self ..)]
        simp
      have hinsert : s.insertChunk (.ofPending id c) = .ok (s.withChunks id [c]) := by
        rw [insertChunk, hnone]
        simp only [Bool.false_eq_true, if_false]
        exact if_pos hrow
      have hfree' : ∀ x ∈ (s.withChunks id [c]).chunks, ∀ p ∈ cs,
          x.collides (.ofPending id p) = false := by
        intro x hx p hp
        rcases List.mem_append.1 hx with hx | hx
        · exact hfree x hx p (List.mem_cons_of_mem _ hp)
        · rw [List.mem_singleton.1 hx]
          exact hc p hp
      have hnext := ih (s := s.withChunks id [c]) hrow hfree' hcs
      simp only [insertChunks, hinsert]
      rw [hnext, ← withChunks_append, List.singleton_append]

theorem insertChunks_of_append {id : Int} {as bs : Batch} {s t : Snapshots}
    (h : insertChunks id as s = (.ok (), t)) :
    insertChunks id (as ++ bs) s = insertChunks id bs t := by
  induction as generalizing s with
  | nil =>
      obtain rfl := (Prod.mk.inj h).2
      rfl
  | cons c as ih =>
      rw [List.cons_append, insertChunks]
      rw [insertChunks] at h
      split at h
      · exact ih h
      · cases (Prod.mk.inj h).1

theorem insertChunks_of_deliver {id : Int} {batches : List Batch} {s t : Snapshots}
    (h : Chunking.deliver (insertChunks id) batches s = (.ok (), t)) :
    insertChunks id batches.flatten s = (.ok (), t) := by
  induction batches generalizing s with
  | nil => exact h
  | cons b batches ih =>
      rw [Chunking.deliver] at h
      split at h
      · next u hfirst =>
          rw [List.flatten_cons, insertChunks_of_append hfirst]
          exact ih h
      · cases (Prod.mk.inj h).1

theorem insertChunks_eq_ok {id : Int} {cs : List PendingChunk} {s t : Snapshots}
    (h : insertChunks id cs s = (.ok (), t)) :
    t = s.withChunks id cs ∧
      (∀ c ∈ s.chunks, ∀ p ∈ cs, c.collides (.ofPending id p) = false) ∧
      cs.Pairwise fun a b =>
        (StoredChunk.ofPending id a).collides (.ofPending id b) = false := by
  induction cs generalizing s with
  | nil =>
      refine ⟨?_, fun _ _ p hp => absurd hp List.not_mem_nil, List.Pairwise.nil⟩
      rw [withChunks, List.map_nil, List.append_nil]
      exact (Prod.mk.inj h).2.symm
  | cons c cs ih =>
      rw [insertChunks] at h
      split at h
      · next u hinsert =>
          unfold insertChunk at hinsert
          split at hinsert
          · cases hinsert
          · next hfree =>
              split at hinsert
              · have hu : u = s.withChunks id [c] := (Except.ok.inj hinsert).symm
                obtain ⟨rfl, hold, hnew⟩ := ih h
                rw [hu] at hold ⊢
                rw [Bool.not_eq_true, List.any_eq_false] at hfree
                refine ⟨?_, ?_, List.pairwise_cons.2 ⟨?_, hnew⟩⟩
                · rw [← withChunks_append, List.singleton_append]
                · intro x hx p hp
                  rcases List.mem_cons.1 hp with rfl | hp
                  · simpa using hfree x hx
                  · exact hold x (List.mem_append_left _ hx) p hp
                · intro p hp
                  exact hold (.ofPending id c) (List.mem_append_right _ (by simp)) p hp
              · cases hinsert
      · cases (Prod.mk.inj h).1

end Snapshots

/-! ## Reading -/

namespace SnapshotChunk

/-- A chunk as the store keeps it. -/
def stored (id : Int) (c : SnapshotChunk) : StoredChunk := .ofPending id c.pending

theorem decode_stored {id : Int} {c : SnapshotChunk} (h : ∀ i ∈ c.items, i.Fits) :
    (c.stored id).decode = .ok c := by
  unfold StoredChunk.decode
  rw [show (c.stored id).items = UsageItem.writeAll c.items from rfl,
    UsageItem.readAll?_writeAll h]
  rfl

theorem not_collides_of_before {id : Int} {a b : SnapshotChunk} (h : a.Before b) :
    (a.stored id).collides (b.stored id) = false := by
  unfold StoredChunk.collides
  rcases h with hlt | ⟨-, hlt⟩
  · have hne : (a.stored id).space ≠ (b.stored id).space := by
      intro heq
      rw [show a.space = b.space from heq] at hlt
      exact String.lt_irrefl _ hlt
    simp [hne]
  · have hne : (a.stored id).index ≠ (b.stored id).index := Int.ne_of_lt hlt
    simp [hne]

theorem precedes_of_before {id : Int} {a b : SnapshotChunk} (h : a.Before b) :
    (a.stored id).precedes (b.stored id) = true := by
  unfold StoredChunk.precedes
  rw [Bool.or_eq_true, Bool.and_eq_true, decide_eq_true_eq, decide_eq_true_eq,
    decide_eq_true_eq]
  rcases h with hlt | ⟨heq, hlt⟩
  · exact Or.inl hlt
  · exact Or.inr ⟨heq, Int.le_of_lt hlt⟩

end SnapshotChunk

namespace Snapshots

theorem chunksOf_withChunks {id : Int} {cs : List SnapshotChunk} {s : Snapshots}
    (hnone : ∀ c ∈ s.chunks, c.snapshot ≠ id) (hordered : cs.Pairwise (·.Before ·)) :
    (s.withChunks id (cs.map (·.pending))).chunksOf id = cs.map (·.stored id) := by
  have hold : s.chunks.filter (·.snapshot = id) = [] := by
    rw [List.filter_eq_nil_iff]
    intro c hc
    simpa using hnone c hc
  have hnew : (cs.map (·.stored id)).filter (·.snapshot = id) = cs.map (·.stored id) := by
    rw [List.filter_eq_self]
    intro c hc
    obtain ⟨d, -, rfl⟩ := List.mem_map.1 hc
    exact decide_eq_true rfl
  have hpending : (cs.map (·.pending)).map (StoredChunk.ofPending id) =
      cs.map (·.stored id) := List.map_map
  rw [chunksOf, withChunks, hpending, List.filter_append, hold, hnew, List.nil_append]
  refine List.mergeSort_of_pairwise ?_
  exact hordered.map _ fun a b hab => SnapshotChunk.precedes_of_before hab

theorem mapM_decode_stored {id : Int} {cs : List SnapshotChunk}
    (h : ∀ c ∈ cs, ∀ i ∈ c.items, i.Fits) :
    (cs.map (·.stored id)).mapM StoredChunk.decode = .ok cs := by
  induction cs with
  | nil => rfl
  | cons c cs ih =>
      rw [List.map_cons, List.mapM_cons, SnapshotChunk.decode_stored (h c (by simp)),
        ih fun d hd => h d (List.mem_cons_of_mem _ hd)]
      rfl

theorem chunksPage_eq {snapshot : Snapshot} {cs : List SnapshotChunk} {s : Snapshots}
    (hcomplete : snapshot.isComplete = true)
    (hchunks : s.chunksOf snapshot.id = cs.map (·.stored snapshot.id))
    (hfit : ∀ c ∈ cs, ∀ i ∈ c.items, i.Fits) (offset limit : Nat) :
    s.chunksPage snapshot offset limit =
      .ok ⟨cs.length, offset, Page.slice offset limit cs⟩ := by
  have hpage : ∀ c ∈ Page.slice offset limit cs, ∀ i ∈ c.items, i.Fits := fun c hc =>
    hfit c ((Page.slice_sublist offset limit cs).subset hc)
  simp only [chunksPage, hcomplete, hchunks, Page.slice_map, mapM_decode_stored hpage,
    List.length_map]
  rfl

/-! ## What a store keeps to -/

/-- A store as its operations leave it: no two snapshots share an identifier, and a
chunk belongs to a complete snapshot. -/
structure IsKept (s : Snapshots) : Prop where
  distinct : (s.rows.map (·.id)).Nodup
  issued : ∀ r ∈ s.rows, r.id ≤ s.issued
  complete : ∀ c ∈ s.chunks, ∃ r ∈ s.rows, r.id = c.snapshot ∧ r.isProcessing = false

theorem IsKept.eq_of_id {s : Snapshots} (h : s.IsKept) {a b : SnapshotRow}
    (ha : a ∈ s.rows) (hb : b ∈ s.rows) (hid : a.id = b.id) : a = b :=
  List.inj_on_of_nodup_map h.distinct ha hb hid

theorem IsKept.no_chunks {s : Snapshots} (h : s.IsKept) {r : SnapshotRow}
    (hr : r ∈ s.rows) (hopen : r.isProcessing = true) :
    ∀ c ∈ s.chunks, c.snapshot ≠ r.id := by
  intro c hc heq
  obtain ⟨r', hr', hid, hdone⟩ := h.complete c hc
  rw [h.eq_of_id hr' hr (hid.trans heq), hopen] at hdone
  cases hdone

theorem IsKept.empty : Snapshots.empty.IsKept :=
  ⟨List.nodup_nil, fun _ hr => absurd hr List.not_mem_nil,
    fun _ hc => absurd hc List.not_mem_nil⟩

theorem IsKept.request {s t : Snapshots} (h : s.IsKept) {k : Kind} {now : Int}
    {fresh : String} {snapshot : Snapshot}
    (hreq : s.request k now fresh = .ok (snapshot, t)) : t.IsKept := by
  unfold Snapshots.request at hreq
  split at hreq
  · cases hreq
  · obtain ⟨-, rfl⟩ := Prod.mk.inj (Except.ok.inj hreq)
    refine ⟨?_, ?_, ?_⟩
    · rw [List.map_append, List.map_singleton]
      refine List.nodup_append.2 ⟨h.distinct, List.nodup_singleton _, fun id hid id' hid' => ?_⟩
      obtain ⟨r, hr, rfl⟩ := List.mem_map.1 hid
      rw [List.mem_singleton.1 hid']
      have hle := h.issued r hr
      show r.id ≠ s.issued + 1
      omega
    · intro r hr
      show r.id ≤ s.issued + 1
      rcases List.mem_append.1 hr with hr | hr
      · have hle := h.issued r hr
        omega
      · rw [List.mem_singleton.1 hr]
        exact Int.le_refl _
    · intro c hc
      obtain ⟨r, hr, hid, hdone⟩ := h.complete c hc
      exact ⟨r, List.mem_append_left _ hr, hid, hdone⟩

theorem IsKept.deleteWhere {s : Snapshots} (h : s.IsKept) (doomed : SnapshotRow → Bool) :
    (s.deleteWhere doomed).2.IsKept := by
  refine ⟨h.distinct.sublist (List.filter_sublist.map _), fun r hr => ?_, fun c hc => ?_⟩
  · exact h.issued r (List.mem_filter.1 hr).1
  · obtain ⟨hc, hspared⟩ := List.mem_filter.1 hc
    obtain ⟨r, hr, hid, hdone⟩ := h.complete c hc
    refine ⟨r, List.mem_filter.2 ⟨hr, ?_⟩, hid, hdone⟩
    by_contra hgone
    rw [Bool.not_eq_true, Bool.not_eq_false'] at hgone
    have hany : (s.rows.filter doomed).any (·.id = c.snapshot) = true :=
      List.any_eq_true.2 ⟨r, List.mem_filter.2 ⟨hr, hgone⟩, decide_eq_true hid⟩
    rw [hany] at hspared
    cases hspared

/-- The chunks of resources in order are all accepted, in whatever batches they come,
while the snapshot is still processing. -/
theorem IsKept.deliver_batches {s : Snapshots} (h : s.IsKept) {r : SnapshotRow}
    (hr : r ∈ s.rows) (hopen : r.isProcessing = true) (l : ChunkLimits)
    {rows : List ActiveResource}
    (hordered : (cut l.perChunk rows).Pairwise SnapshotChunk.Before) :
    Chunking.deliver (insertChunks r.id) (Chunking.batches l rows) s =
      (.ok (), s.withChunks r.id ((cut l.perChunk rows).map (·.pending))) := by
  refine deliver_of_insertChunks ?_
  rw [Chunking.flatten_batches]
  refine insertChunks_of_distinct ?_ ?_ ?_
  · exact List.any_eq_true.2 ⟨r, hr, decide_eq_true rfl⟩
  · intro c hc p _
    have hne : c.snapshot ≠ (StoredChunk.ofPending r.id p).snapshot :=
      h.no_chunks hr hopen c hc
    simp [StoredChunk.collides, hne]
  · exact hordered.map _ fun a b hab => SnapshotChunk.not_collides_of_before hab

/-! ## Completing -/

section Completing

variable {now id : Int} {checkpoint : Option Event} {totals : Totals} {tracksParents : Bool}

/-- What becomes of a row when the snapshot with an identifier is completed. -/
def close (now id : Int) (checkpoint : Option Event) (totals : Totals)
    (tracksParents : Bool) (r : SnapshotRow) : SnapshotRow :=
  if r.id = id && r.isProcessing then completed now checkpoint totals tracksParents r else r

theorem close_of_open {r : SnapshotRow} (hid : r.id = id) (hopen : r.isProcessing = true) :
    close now id checkpoint totals tracksParents r =
      completed now checkpoint totals tracksParents r := by
  refine if_pos ?_
  rw [hopen, Bool.and_true, decide_eq_true_eq]
  exact hid

@[simp] theorem id_close (r : SnapshotRow) :
    (close now id checkpoint totals tracksParents r).id = r.id := by
  unfold close
  split <;> rfl

@[simp] theorem guid_close (r : SnapshotRow) :
    (close now id checkpoint totals tracksParents r).guid = r.guid := by
  unfold close
  split <;> rfl

theorem isProcessing_close {r : SnapshotRow} (h : r.isProcessing = false ∨ r.id = id) :
    (close now id checkpoint totals tracksParents r).isProcessing = false := by
  unfold close
  split
  · rfl
  · next hopen =>
      rcases h with hdone | hid
      · exact hdone
      · simpa [hid] using hopen

theorem complete_eq_ok {snapshot : Snapshot} {s u : Snapshots} :
    s.complete now snapshot checkpoint totals tracksParents = .ok u ↔
      (∃ r ∈ s.rows, r.id = snapshot.id ∧ r.isProcessing = true) ∧
        { s with rows := s.rows.map (close now snapshot.id checkpoint totals tracksParents) } =
          u := by
  have hany : (s.rows.any fun r => r.id = snapshot.id && r.isProcessing) = true ↔
      ∃ r ∈ s.rows, r.id = snapshot.id ∧ r.isProcessing = true := by
    simp only [List.any_eq_true, Bool.and_eq_true, decide_eq_true_eq]
  rw [← hany]
  unfold complete
  simp only []
  split
  · next h => exact ⟨fun hok => ⟨h, Except.ok.inj hok⟩, fun hu => congrArg Except.ok hu.2⟩
  · next h =>
      constructor
      · intro hok
        cases hok
      · exact fun hu => absurd hu.1 h

/-- The store in which a snapshot has got its chunks and is complete. -/
def generated (now id : Int) (checkpoint : Option Event) (totals : Totals)
    (tracksParents : Bool) (cs : List PendingChunk) (s : Snapshots) : Snapshots :=
  { s.withChunks id cs with rows := s.rows.map (close now id checkpoint totals tracksParents) }

theorem IsKept.generated {s : Snapshots} (h : s.IsKept) {r : SnapshotRow} (hr : r ∈ s.rows)
    (hid : r.id = id) (cs : List PendingChunk) :
    (s.generated now id checkpoint totals tracksParents cs).IsKept := by
  refine ⟨?_, ?_, ?_⟩
  · have hsame : (s.rows.map (close now id checkpoint totals tracksParents)).map (·.id) =
        s.rows.map (·.id) := by
      rw [List.map_map]
      exact List.map_congr_left fun x _ => id_close x
    simp only [Snapshots.generated, hsame]
    exact h.distinct
  · intro y hy
    obtain ⟨x, hx, rfl⟩ := List.mem_map.1 hy
    rw [id_close]
    exact h.issued x hx
  · intro c hc
    rcases List.mem_append.1 hc with hc | hc
    · obtain ⟨x, hx, hxid, hxdone⟩ := h.complete c hc
      exact ⟨_, List.mem_map_of_mem hx, (id_close x).trans hxid,
        isProcessing_close (Or.inl hxdone)⟩
    · obtain ⟨p, -, rfl⟩ := List.mem_map.1 hc
      exact ⟨_, List.mem_map_of_mem hr, (id_close r).trans hid,
        isProcessing_close (Or.inr hid)⟩

end Completing

end Snapshots

end Metering
