import Metering.Proofs.Bytes
import Metering.Proofs.Paging
import Metering.Snapshot.Store

/-!
# Which part of a listing a page shows

Chunks and snapshots are listed in an order, and a page shows the entries at
the positions from an offset on. For this the two words that a page is asked
for by have to be read as the numbers they are, and the store reads them as
signed. Of a limit it makes no difference: past the signed range it would be no
limit, and there are not so many entries, since each has an identifier of its own
in that range. Of an offset it does. One past the signed range is behind the end
of every listing, so nothing should be there, but the page shows what it shows at
offset zero (`shows_slice_iff`).
-/

namespace Metering

namespace Page

variable {α : Type}

/-- A page shows the entries of a listing at the positions from an offset on, as many as the
limit says, where there are entries. -/
def Shows (offset limit : Nat) (all page : List α) : Prop :=
  ∀ i, page[i]? = if i < limit then all[offset + i]? else none

theorem Shows.eq {offset limit : Nat} {all page page' : List α}
    (h : Shows offset limit all page) (h' : Shows offset limit all page') : page = page' :=
  List.ext_getElem? fun i => (h i).trans (h' i).symm

theorem shows_take_drop (offset limit : Nat) (xs : List α) :
    Shows offset limit xs ((xs.drop offset).take limit) := by
  intro i
  rw [List.getElem?_take, List.getElem?_drop]

/-- How many entries the store passes over. -/
def start (offset : Nat) : Nat := if offset < signedBound then offset else 0

theorem slice_eq {offset limit : Nat} {xs : List α} (h : xs.length ≤ signedBound) :
    slice offset limit xs = (xs.drop (start offset)).take limit := by
  have hdrop : drop offset xs = xs.drop (start offset) := by
    unfold drop start
    split <;> rfl
  rw [slice, hdrop, take]
  split
  · rfl
  · next hlimit =>
      refine (List.take_of_length_le ?_).symm
      rw [List.length_drop]
      omega

theorem shows_slice {xs : List α} (h : xs.length ≤ signedBound) (offset limit : Nat) :
    Shows (start offset) limit xs (slice offset limit xs) := by
  rw [slice_eq h]
  exact shows_take_drop _ _ xs

/-- It shows those that were asked for, unless the offset is past the signed range while there
is something to show. -/
theorem shows_slice_iff {xs : List α} (h : xs.length ≤ signedBound) (offset limit : Nat) :
    Shows offset limit xs (slice offset limit xs) ↔
      offset < signedBound ∨ limit = 0 ∨ xs = [] := by
  constructor
  · intro hshows
    by_cases hoffset : offset < signedBound
    · exact Or.inl hoffset
    · -- nothing stands behind such an offset, but the page begins at the front
      have hnone : xs.drop offset = [] := List.drop_of_length_le (by omega)
      have hstart : start offset = 0 := if_neg hoffset
      have hempty : xs.take limit = [] := by
        rw [← List.drop_zero (l := xs), ← hstart, ← slice_eq h,
          hshows.eq (shows_take_drop offset limit xs), hnone, List.take_nil]
      exact Or.inr (List.take_eq_nil_iff.1 hempty)
  · rintro (hoffset | rfl | rfl)
    · have hstart : start offset = offset := if_pos hoffset
      have hshows := shows_slice h offset limit
      rwa [hstart] at hshows
    · rw [slice_eq h, List.take_zero]
      exact fun i => rfl
    · rw [slice_eq h, List.drop_nil, List.take_nil]
      intro i
      split <;> rfl

end Page

/-! ## The order of chunks -/

namespace StoredChunk

/-- The place of a chunk among those of its snapshot. -/
def place (c : StoredChunk) : Cursor := ⟨c.space, c.index⟩

theorem precedes_iff {a b : StoredChunk} : a.precedes b = true ↔ ¬ b.place.Before a.place := by
  rw [Cursor.not_before_iff]
  unfold precedes place
  rw [Bool.or_eq_true, Bool.and_eq_true, decide_eq_true_eq, decide_eq_true_eq,
    decide_eq_true_eq]

/-- Whether a chunk may come before another by the bytes of the spaces, then by number. -/
def InOrder (a b : StoredChunk) : Prop :=
  Text.bytes a.space < Text.bytes b.space ∨ a.space = b.space ∧ a.index ≤ b.index

theorem inOrder_of_precedes {a b : StoredChunk} (h : a.precedes b = true) : a.InOrder b :=
  (Cursor.not_before_iff.1 (precedes_iff.1 h)).imp_left Text.bytes_lt_of_lt

end StoredChunk

namespace Snapshots

theorem chunksOf_perm (s : Snapshots) (id : Int) :
    (s.chunksOf id).Perm (s.chunks.filter (·.snapshot = id)) :=
  List.mergeSort_perm ..

theorem pairwise_chunksOf (s : Snapshots) (id : Int) :
    (s.chunksOf id).Pairwise StoredChunk.InOrder := by
  refine (List.pairwise_mergeSort ?_ ?_ _).imp StoredChunk.inOrder_of_precedes
  · intro a b c hab hbc
    rw [StoredChunk.precedes_iff] at *
    exact Cursor.not_before_trans hab hbc
  · intro a b
    rw [Bool.or_eq_true, StoredChunk.precedes_iff, StoredChunk.precedes_iff]
    exact Cursor.not_before_total _ _

theorem chunksPage_of_complete {snapshot : Snapshot} (h : snapshot.isComplete = true)
    (offset limit : Nat) (s : Snapshots) :
    s.chunksPage snapshot offset limit =
      ((Page.slice offset limit (s.chunksOf snapshot.id)).mapM StoredChunk.decode).map
        (⟨(s.chunksOf snapshot.id).length, offset, ·⟩) := by
  unfold chunksPage
  rw [h]
  rfl

/-! ## The order of snapshots -/

/-- The snapshots of a kind, or of all, as they are listed. -/
def newestFirst (k : Option Kind) (s : Snapshots) : List SnapshotRow :=
  (s.rows.filter fun r => k.all (r.kind = ·)).mergeSort precedes

theorem list_eq (k : Option Kind) (offset limit : Nat) (s : Snapshots) :
    s.list k offset limit =
      (Page.slice offset limit (s.newestFirst k)).map SnapshotRow.toSnapshot := rfl

theorem newestFirst_perm (k : Option Kind) (s : Snapshots) :
    (s.newestFirst k).Perm (s.rows.filter fun r => k.all (r.kind = ·)) :=
  List.mergeSort_perm ..

theorem precedes_iff {a b : SnapshotRow} : precedes a b = true ↔
    b.createdAt < a.createdAt ∨ a.createdAt = b.createdAt ∧ b.id ≤ a.id := by
  unfold precedes
  rw [Bool.or_eq_true, Bool.and_eq_true, decide_eq_true_eq, decide_eq_true_eq,
    decide_eq_true_eq]

theorem pairwise_newestFirst (k : Option Kind) (s : Snapshots) :
    (s.newestFirst k).Pairwise fun a b =>
      b.createdAt < a.createdAt ∨ a.createdAt = b.createdAt ∧ b.id ≤ a.id := by
  refine (List.pairwise_mergeSort ?_ ?_ _).imp precedes_iff.1
  · intro a b c hab hbc
    rw [precedes_iff] at *
    omega
  · intro a b
    rw [Bool.or_eq_true, precedes_iff, precedes_iff]
    omega

/-! ## Pages -/

/-- A page of chunks, and one of snapshots, shows what is listed from its offset on, exactly if
the offset is in the signed range or there is nothing to show; past it, what is listed from the
beginning on. Chunks are listed by space and number, snapshots from the newest. -/
theorem pages_show_listing (s : Snapshots) (hrows : s.rows.length ≤ Page.signedBound)
    (hchunks : s.chunks.length ≤ Page.signedBound) (offset limit : Nat) :
    (∀ snapshot : Snapshot, snapshot.isComplete = true →
      ((s.chunksOf snapshot.id).Perm (s.chunks.filter (·.snapshot = snapshot.id)) ∧
        (s.chunksOf snapshot.id).Pairwise StoredChunk.InOrder) ∧
      ∃ page : List StoredChunk,
        s.chunksPage snapshot offset limit =
          (page.mapM StoredChunk.decode).map (⟨(s.chunksOf snapshot.id).length, offset, ·⟩) ∧
        Page.Shows (Page.start offset) limit (s.chunksOf snapshot.id) page ∧
        (Page.Shows offset limit (s.chunksOf snapshot.id) page ↔
          offset < Page.signedBound ∨ limit = 0 ∨ s.chunksOf snapshot.id = [])) ∧
    ∀ k : Option Kind,
      ((s.newestFirst k).Perm (s.rows.filter fun r => k.all (r.kind = ·)) ∧
        (s.newestFirst k).Pairwise fun a b =>
          b.createdAt < a.createdAt ∨ a.createdAt = b.createdAt ∧ b.id ≤ a.id) ∧
      ∃ page : List SnapshotRow,
        s.list k offset limit = page.map SnapshotRow.toSnapshot ∧
        Page.Shows (Page.start offset) limit (s.newestFirst k) page ∧
        (Page.Shows offset limit (s.newestFirst k) page ↔
          offset < Page.signedBound ∨ limit = 0 ∨ s.newestFirst k = []) := by
  constructor
  · intro snapshot hcomplete
    have hperm := s.chunksOf_perm snapshot.id
    have hfew : (s.chunksOf snapshot.id).length ≤ Page.signedBound :=
      Nat.le_trans (hperm.length_eq ▸ List.length_filter_le ..) hchunks
    exact ⟨⟨hperm, s.pairwise_chunksOf _⟩, _, chunksPage_of_complete hcomplete _ _ s,
      Page.shows_slice hfew _ _, Page.shows_slice_iff hfew _ _⟩
  · intro k
    have hperm := s.newestFirst_perm k
    have hfew : (s.newestFirst k).length ≤ Page.signedBound :=
      Nat.le_trans (hperm.length_eq ▸ List.length_filter_le ..) hrows
    exact ⟨⟨hperm, s.pairwise_newestFirst k⟩, _, list_eq k _ _ s,
      Page.shows_slice hfew _ _, Page.shows_slice_iff hfew _ _⟩

def finished : SnapshotRow :=
  { SnapshotRow.placeholder 1 "done" .process 10 with completedAt := some 20 }

/-- A chunk without items. -/
def bare (space : String) : StoredChunk := ⟨1, "org", none, space, none, 0, "[]"⟩

theorem mapM_decode_bare (space : String) :
    [bare space].mapM StoredChunk.decode = .ok [⟨"org", none, space, none, 0, []⟩] := by
  have hread : UsageItem.readAll? "[]" = some [] := by decide +kernel
  rw [List.mapM_cons, StoredChunk.decode, bare, hread]
  rfl

/-- A store in which a complete snapshot has two chunks, and one of the other kind is
processing. -/
def twoChunks : Snapshots where
  rows := [finished, .placeholder 2 "open" .service 10]
  chunks := [bare "here", bare "there"]
  issued := 2

theorem chunksOf_twoChunks :
    twoChunks.chunksOf finished.toSnapshot.id = [bare "here", bare "there"] :=
  List.mergeSort_of_pairwise (by decide)

theorem newestFirst_twoChunks : twoChunks.newestFirst (some .process) = [finished] :=
  List.mergeSort_of_pairwise (by decide)

/-- Behind the first chunk, without a limit, there is the second; behind the first snapshot of
its kind there is none. -/
theorem pages_show_listing_twoChunks :
    twoChunks.rows.length ≤ Page.signedBound ∧ twoChunks.chunks.length ≤ Page.signedBound ∧
      finished.toSnapshot.isComplete = true ∧
      twoChunks.chunksPage finished.toSnapshot 1 Word.max =
        .ok ⟨2, 1, [⟨"org", none, "there", none, 0, []⟩]⟩ ∧
      twoChunks.list (some .process) 1 Word.max = [] := by
  have hrows : twoChunks.rows.length ≤ Page.signedBound := by decide
  have hchunks : twoChunks.chunks.length ≤ Page.signedBound := by decide
  have hoffset : 1 < Page.signedBound := by decide
  obtain ⟨hchunked, hlisted⟩ := pages_show_listing twoChunks hrows hchunks 1 Word.max
  refine ⟨hrows, hchunks, rfl, ?_, ?_⟩
  · obtain ⟨-, page, hpage, -, hshows⟩ := hchunked finished.toSnapshot rfl
    rw [chunksOf_twoChunks] at hpage hshows
    have hsecond : page = [bare "there"] :=
      (hshows.2 (Or.inl hoffset)).eq (Page.shows_take_drop _ _ _)
    rw [hpage, hsecond, mapM_decode_bare]
    rfl
  · obtain ⟨-, page, hlist, -, hshows⟩ := hlisted (some .process)
    rw [newestFirst_twoChunks] at hshows
    have hnone : page = [] := (hshows.2 (Or.inl hoffset)).eq (Page.shows_take_drop _ _ _)
    rw [hlist, hnone, List.map_nil]

/-- Past the signed range both pages are what they are at the beginning. -/
theorem page_past_signed :
    twoChunks.chunksPage finished.toSnapshot 0x8000000000000000 1 =
        .ok ⟨2, 0x8000000000000000, [⟨"org", none, "here", none, 0, []⟩]⟩ ∧
      twoChunks.list (some .process) 0x8000000000000000 1 = [finished.toSnapshot] := by
  constructor
  · have hfirst : Page.slice 0x8000000000000000 1 [bare "here", bare "there"] = [bare "here"] := by
      decide
    rw [chunksPage_of_complete rfl, chunksOf_twoChunks, hfirst, mapM_decode_bare]
    rfl
  · rw [list_eq, newestFirst_twoChunks]
    decide

end Snapshots

end Metering
