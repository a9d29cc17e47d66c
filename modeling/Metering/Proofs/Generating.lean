import Metering.Proofs.Storing
import Metering.Snapshot.Generation

/-!
# Generating from an ordered source

A source that keeps to the order of its rows has all of them passed by a walk
(`Source.walk_eq`), what they are cut into is delivered batch by batch
(`Chunking.run_of_delivered`), and the chunks are distinct because the rows
come in order. Nothing can fail then but the reading of the ledger and the sum
of the instances, so `Snapshot.populate_of_lists` needs only that the newest
event decodes and that no sum is too large.

Of any other source `Snapshot.generate_eq_ok` says what it comes to when it does not
fail.
-/

namespace Metering

open Metering.Time (Instant)

/-! ## Totals are words -/

namespace Totals

/-- Totals whose counts are words of 64 bits. -/
structure Fits (t : Totals) : Prop where
  resources : t.resources ≤ Word.max
  chunks : t.chunks ≤ Word.max
  organizations : t.organizations ≤ Word.max
  spaces : t.spaces ≤ Word.max
  parents : t.parents ≤ Word.max

theorem card_filterMap_le {α : Type} (f : α → Option String) (xs : List α) :
    (xs.filterMap f).toFinset.card ≤ xs.length :=
  Nat.le_trans (List.toFinset_card_le _) (List.length_filterMap_le _ _)

theorem fits_of {n : Nat} {rows : List ActiveResource} (h : rows.length ≤ Word.max) :
    (Totals.of n rows).Fits := by
  have hplaced : (rows.filter ActiveResource.isPlaced).length ≤ Word.max :=
    Nat.le_trans (List.length_filter_le _ _) h
  exact
    { resources := hplaced
      chunks := Nat.le_trans (length_cut_le n rows) h
      organizations := Nat.le_trans (card_filterMap_le _ _) hplaced
      spaces := Nat.le_trans (card_filterMap_le _ _) hplaced
      parents := Nat.le_trans (card_filterMap_le _ _) hplaced }

/-- What a snapshot says of totals. -/
def summary (tracksParents : Bool) (t : Totals) : Summary where
  instances := t.instances
  organizations := t.organizations
  spaces := t.spaces
  parents := if tracksParents then some t.parents else none
  resources := t.resources
  chunks := t.chunks

end Totals

/-! ## Completing -/

/-- A snapshot that was completed with a summary, and with the newest event, if any,
as its checkpoint. -/
def Snapshot.completed (now : Int) (checkpoint : Option Event) (summary : Summary)
    (s : Snapshot) : Snapshot :=
  { s with
    state := .complete
    completedAt := some (Instant.ofMillis now)
    checkpoint := checkpoint.map (·.guid)
    checkpointAt := checkpoint.map fun e => Instant.ofMillis e.createdAt.toMillis
    summary := summary }

namespace Snapshots

theorem toSnapshot_completed {now : Int} {checkpoint : Option Event} {t : Totals}
    (h : t.Fits) (tracksParents : Bool) (r : SnapshotRow) :
    (completed now checkpoint t tracksParents r).toSnapshot =
      r.toSnapshot.completed now checkpoint (t.summary tracksParents) := by
  have hparents : (if tracksParents then some (Word.signed t.parents) else none).map
      Word.unsigned = if tracksParents then some t.parents else none := by
    cases tracksParents with
    | false => rfl
    | true => exact congrArg some (Word.unsigned_signed h.parents)
  simp only [SnapshotRow.toSnapshot, Snapshots.completed, Snapshot.completed,
    Totals.summary, hparents, Word.unsigned_signed h.organizations,
    Word.unsigned_signed h.spaces, Word.unsigned_signed h.resources,
    Word.unsigned_signed h.chunks, Option.map_map]
  rfl

theorem row_of_find {s : Snapshots} {guid : String} {snapshot : Snapshot}
    (hfound : s.find? guid = some snapshot) (hopen : snapshot.isComplete = false) :
    ∃ r ∈ s.rows, r.toSnapshot = snapshot ∧ r.isProcessing = true ∧
      s.rows.find? (·.guid = guid) = some r := by
  obtain ⟨r, hr, rfl⟩ := Option.map_eq_some_iff.1 hfound
  refine ⟨r, List.mem_of_find?_eq_some hr, rfl, ?_, hr⟩
  simpa [Snapshot.isComplete, SnapshotRow.toSnapshot, SnapshotRow.isProcessing] using hopen

theorem find?_guid_close {now id : Int} {checkpoint : Option Event} {t : Totals}
    {tracksParents : Bool} (rows : List SnapshotRow) (guid : String) :
    (rows.map (close now id checkpoint t tracksParents)).find? (·.guid = guid) =
      (rows.find? (·.guid = guid)).map (close now id checkpoint t tracksParents) := by
  rw [List.find?_map]
  congr 2
  funext r
  rw [Function.comp, guid_close]

theorem complete_of_find {s : Snapshots} {snapshot : Snapshot}
    (hfound : s.find? snapshot.guid = some snapshot) (hopen : snapshot.isComplete = false)
    (now : Int) (checkpoint : Option Event) {t : Totals} (ht : t.Fits)
    (tracksParents : Bool) :
    ∃ u, s.complete now snapshot checkpoint t tracksParents = .ok u ∧
      u.chunks = s.chunks ∧
      u.get snapshot.guid =
        .ok (snapshot.completed now checkpoint (t.summary tracksParents)) := by
  obtain ⟨r, hr, rfl, hproc, hfind⟩ := row_of_find hfound hopen
  let closed := close now r.id checkpoint t tracksParents
  have hcomplete : s.complete now r.toSnapshot checkpoint t tracksParents =
      .ok { s with rows := s.rows.map closed } :=
    complete_eq_ok.2 ⟨⟨r, hr, rfl, hproc⟩, rfl⟩
  have hrow : (s.rows.map closed).find? (·.guid = r.guid) =
      some (Snapshots.completed now checkpoint t tracksParents r) := by
    rw [find?_guid_close, show s.rows.find? (·.guid = r.guid) = some r from hfind]
    exact congrArg some (close_of_open rfl hproc)
  refine ⟨_, hcomplete, rfl, ?_⟩
  rw [get, find?, row?, show r.toSnapshot.guid = r.guid from rfl, hrow, Option.map_some,
    toSnapshot_completed ht]

end Snapshots

/-! ## Populating -/

namespace Snapshot

variable (g : GenerationSettings) (now : Int) {source : Source} {l : Ledger}
  {snapshot : Snapshot} {s : Snapshots}

theorem populate_of_lists {rows : List ActiveResource} {checkpoint : Option Event}
    (hkept : s.IsKept) (hfound : s.find? snapshot.guid = some snapshot)
    (hopen : snapshot.isComplete = false) (hlatest : l.latest = .ok checkpoint)
    (hlists : source.Lists rows) (hfit : ∀ r ∈ rows, r.item.Fits)
    (hmany : rows.length ≤ Word.max) (hsums : Chunking.SumsFit 0 rows) :
    ∃ done store,
      done = snapshot.completed now checkpoint
        ((Totals.of (max g.chunkLimit 1) rows).summary source.tracksParents) ∧
      snapshot.populate g source now l s =
        ⟨.ok done, store, some (.generated snapshot.kind)⟩ ∧
      ∀ offset limit, store.chunksPage done offset limit =
        .ok ⟨(cut (max g.chunkLimit 1) rows).length, offset,
          Page.slice offset limit (cut (max g.chunkLimit 1) rows)⟩ := by
  obtain ⟨r, hr, hsnapshot, hproc, -⟩ := Snapshots.row_of_find hfound hopen
  have hid : r.id = snapshot.id := congrArg Snapshot.id hsnapshot
  have hordered := pairwise_cut (max g.chunkLimit 1) hlists.ordered
  obtain ⟨t, ht⟩ : ∃ t, t = s.withChunks snapshot.id
    ((cut (max g.chunkLimit 1) rows).map (·.pending)) := ⟨_, rfl⟩
  have hdelivered : Chunking.deliver (Snapshots.insertChunks snapshot.id)
      (Chunking.batches g.limits rows) s = (.ok (), t) := by
    rw [ht, ← hid]
    exact hkept.deliver_batches hr hproc g.limits hordered
  have hrun := Chunking.run_of_delivered hsums hdelivered
  have hfound' : t.find? snapshot.guid = some snapshot := by
    rw [ht]
    exact hfound
  have hcounts : (Totals.of g.limits.perChunk rows).Fits := Totals.fits_of hmany
  obtain ⟨u, hcomplete, hchunks, hget⟩ := Snapshots.complete_of_find hfound' hopen
    now checkpoint hcounts source.tracksParents
  refine ⟨_, u, rfl, ?_, fun offset limit => ?_⟩
  · have hgenerate : generate g source now l snapshot s = .ok u := by
      unfold generate
      rw [hlatest, Source.walk_eq hlists, hrun]
      exact hcomplete
    unfold populate
    rw [hopen, hgenerate]
    simp only [Bool.false_eq_true, if_false, hget]
    rfl
  · refine Snapshots.chunksPage_eq rfl ?_ (fun c hc i hi => ?_) offset limit
    · have hnone : ∀ c ∈ s.chunks, c.snapshot ≠ snapshot.id := hid ▸ hkept.no_chunks hr hproc
      have hof := Snapshots.chunksOf_withChunks hnone hordered
      rw [← ht] at hof
      unfold Snapshots.chunksOf at hof ⊢
      rw [hchunks]
      exact hof
    · obtain ⟨r, hr, rfl⟩ := items_of_mem_cut hc hi
      exact hfit r hr

/-- Generating succeeds only if the source was passed to its end, no sum was too large, no
two of its chunks are in one place, and the snapshot was still processing. It is complete
then and has these chunks. -/
theorem generate_eq_ok {u : Snapshots}
    (hu : generate g source now l snapshot s = .ok u) :
    ∃ checkpoint rows, l.latest = .ok checkpoint ∧
      source.walk g.fetchBatchSize = ⟨rows, none⟩ ∧ Chunking.SumsFit 0 rows ∧
      (∃ r ∈ s.rows, r.id = snapshot.id ∧ r.isProcessing = true) ∧
      ((cut (max g.chunkLimit 1) rows).Pairwise fun a b =>
        (a.stored snapshot.id).collides (b.stored snapshot.id) = false) ∧
      u = s.generated now snapshot.id checkpoint (.of (max g.chunkLimit 1) rows)
        source.tracksParents ((cut (max g.chunkLimit 1) rows).map (·.pending)) := by
  obtain ⟨checkpoint, hlatest, hu⟩ := bind_eq_ok.1 hu
  obtain ⟨totals, htotals, hdone⟩ := bind_eq_ok.1 hu
  obtain ⟨hwalk, hsums, rfl, hdelivered⟩ := Chunking.run_eq_ok htotals
  have hinsert := Snapshots.insertChunks_of_deliver hdelivered
  rw [Chunking.flatten_batches] at hinsert
  obtain ⟨hsink, -, hdistinct⟩ := Snapshots.insertChunks_eq_ok hinsert
  rw [hsink] at hdone
  obtain ⟨hopen, rfl⟩ := Snapshots.complete_eq_ok.1 hdone
  exact ⟨checkpoint, _, hlatest, congrArg (Walk.mk _) hwalk, hsums, hopen,
    List.pairwise_map.1 hdistinct, rfl⟩

/-- Populating is refused, or fails and is rolled back, or what was generated is stored
and the snapshot is read from it. An overflow is rolled back like a failure, and is nothing
else. -/
theorem populate_outcomes (l : Ledger) (source : Source) (snapshot : Snapshot)
    (s : Snapshots) :
    (snapshot.isComplete = true ∧ snapshot.populate g source now l s =
      ⟨.error (.alreadyComplete snapshot.guid), s, none⟩) ∨
    snapshot.isComplete = false ∧
      ((∃ e, generate g source now l snapshot s = .error e ∧
        snapshot.populate g source now l s =
          if e = .overflow then ⟨.error .overflow, s, none⟩
          else ⟨.error (.generationFailed snapshot.guid e), s, some (.failed snapshot.kind)⟩) ∨
      ∃ u, generate g source now l snapshot s = .ok u ∧
        (snapshot.populate g source now l s).store = u ∧
        (snapshot.populate g source now l s).answer = u.get snapshot.guid) := by
  unfold populate
  cases hdone : snapshot.isComplete with
  | true => exact Or.inl ⟨rfl, rfl⟩
  | false =>
      rw [if_neg Bool.false_ne_true]
      refine Or.inr ⟨rfl, ?_⟩
      cases hgenerate : generate g source now l snapshot s with
      | error e => exact Or.inl ⟨e, rfl, by cases e <;> rfl⟩
      | ok u =>
          refine Or.inr ⟨u, rfl, ?_⟩
          cases hget : u.get snapshot.guid <;> simp only [hget, and_self]

theorem populate_of_generate {e : Error} (hopen : snapshot.isComplete = false)
    (h : generate g source now l snapshot s = .error e) :
    (snapshot.populate g source now l s).store = s ∧
      ∃ e', (snapshot.populate g source now l s).answer = .error e' := by
  rcases populate_outcomes g now l source snapshot s with
    ⟨hdone, -⟩ | ⟨-, ⟨e', -, heq⟩ | ⟨u, hu, -⟩⟩
  · rw [hopen] at hdone
    cases hdone
  · rw [heq]
    split <;> exact ⟨rfl, _, rfl⟩
  · rw [h] at hu
    cases hu

theorem populate_store (l : Ledger) (source : Source) (snapshot : Snapshot) (s : Snapshots) :
    (snapshot.populate g source now l s).store = s ∨
    generate g source now l snapshot s = .ok (snapshot.populate g source now l s).store := by
  rcases populate_outcomes g now l source snapshot s with
    ⟨-, heq⟩ | ⟨hopen, ⟨e, he, -⟩ | ⟨u, hu, hstore, -⟩⟩
  · exact Or.inl (congrArg Populated.store heq)
  · exact Or.inl (populate_of_generate g now hopen he).1
  · exact Or.inr (hu.trans (congrArg Except.ok hstore.symm))

theorem populate_cases (l : Ledger) (source : Source) (snapshot : Snapshot) (s : Snapshots) :
    (∃ e, (snapshot.populate g source now l s).answer = .error e ∧
      (snapshot.populate g source now l s).store = s) ∨
    ∃ r ∈ s.rows, r.id = snapshot.id ∧ r.isProcessing = true ∧ ∃ checkpoint totals cs,
      (snapshot.populate g source now l s).store =
        s.generated now snapshot.id checkpoint totals source.tracksParents cs ∧
      (snapshot.populate g source now l s).answer =
        (snapshot.populate g source now l s).store.get snapshot.guid := by
  rcases populate_outcomes g now l source snapshot s with
    ⟨-, heq⟩ | ⟨hopen, ⟨e, he, -⟩ | ⟨u, hu, hstore, hanswer⟩⟩
  · rw [heq]
    exact Or.inl ⟨_, rfl, rfl⟩
  · obtain ⟨hsame, e', herr⟩ := populate_of_generate g now hopen he
    exact Or.inl ⟨e', herr, hsame⟩
  · obtain ⟨checkpoint, rows, -, -, -, ⟨r, hr, hid, hopen⟩, -, hgenerated⟩ :=
      generate_eq_ok g now hu
    rw [hanswer, hstore]
    exact Or.inr ⟨r, hr, hid, hopen, checkpoint, _, _, hgenerated, rfl⟩

end Snapshot

end Metering
