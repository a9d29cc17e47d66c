import Metering.Proofs.Cutting
import Metering.Snapshot.Chunking
import Mathlib.Algebra.Ring.Int.Defs
import Mathlib.Data.Finset.Card
import Mathlib.Data.List.Infix

/-!
# Filling chunks is cutting

Chunking sees one resource at a time and holds one chunk that is being filled.
What it puts out is nevertheless what `cut` says of the list as a whole: the
boundaries of spaces, of chunks and of batches may fall together in any way.

The proof goes in two steps. `takeIn` says what one resource does to the chunk
that is being filled, and `emitted_eq` that resources put out what `takeIn`
finishes, batches or not. Then `cutOn_run` follows `takeIn` through a run of one
space, where the chunk that is being filled is the beginning of the pieces still
to come.

All this is said of `fill`, which is `push` for those who need not look at the sum.
`SumsFit` says that no sum on the way is too large, and only then does a run come to
its end.
-/

namespace Metering

/-- A chunk as it waits to be stored. -/
def SnapshotChunk.pending (c : SnapshotChunk) : PendingChunk where
  org := c.org
  orgName := c.orgName
  space := c.space
  spaceName := c.spaceName
  index := c.index
  itemCount := c.items.length
  items := UsageItem.writeAll c.items

namespace ChunkLimits

theorem perChunk_pos (l : ChunkLimits) : 0 < l.perChunk :=
  Nat.lt_of_lt_of_le Nat.zero_lt_one (Nat.le_max_right ..)

theorem perBatch_pos (l : ChunkLimits) : 0 < l.perBatch :=
  Nat.lt_of_lt_of_le Nat.zero_lt_one (Nat.le_max_right ..)

end ChunkLimits

namespace OpenChunk

/-- The chunk with a number and certain items in the place of the one that is being
filled. -/
def piece (o : OpenChunk) (items : List UsageItem) (index : Nat) : SnapshotChunk where
  org := o.org
  orgName := o.orgName
  space := o.space
  spaceName := o.spaceName
  index := index
  items := items

/-- The finished chunk with its items. -/
def chunk (o : OpenChunk) : SnapshotChunk := o.piece o.items o.index

theorem close_eq (o : OpenChunk) : o.close = o.chunk.pending := rfl

/-- The first chunk of a resource's space, before anything is in it. -/
def opened (r : ActiveResource) : OpenChunk where
  org := r.org.getD ""
  orgName := r.orgName
  space := (Cursor.at r).space
  spaceName := r.spaceName
  index := 0
  items := []

/-- The chunk with an item more. -/
def take (r : ActiveResource) (o : OpenChunk) : OpenChunk :=
  { o with items := o.items ++ [r.item] }

/-- The chunk after a full one. -/
def next (o : OpenChunk) : OpenChunk := { o with index := o.index + 1, items := [] }

/-- What is finished when nothing more comes. -/
def closing : Option OpenChunk → List SnapshotChunk
  | none => []
  | some o => if o.items.isEmpty then [] else [o.chunk]

/-- The chunk that a resource goes into, and what is finished because it does not go
into the one that is being filled. -/
def seat (r : ActiveResource) : Option OpenChunk → OpenChunk × List SnapshotChunk
  | none => (opened r, [])
  | some o =>
    if o.space = (Cursor.at r).space then (o, []) else (opened r, closing (some o))

/-- The chunk that is being filled once a resource has come, and the chunks that were
finished. -/
def takeIn (n : Nat) (r : ActiveResource) (current : Option OpenChunk) :
    OpenChunk × List SnapshotChunk :=
  let (o, left) := seat r current
  if n ≤ (o.take r).items.length then ((o.take r).next, left ++ [(o.take r).chunk])
  else (o.take r, left)

end OpenChunk

open OpenChunk (closing seat takeIn)

/-! ## What is put out -/

/-- The chunks that come of resources, all with a place, when one is being filled. -/
def cutOn (n : Nat) : Option OpenChunk → List ActiveResource → List SnapshotChunk
  | current, [] => closing current
  | current, r :: rows =>
    let (o, done) := takeIn n r current
    done ++ cutOn n (some o) rows

theorem cutOn_opened (n : Nat) (r : ActiveResource) (rows : List ActiveResource) :
    cutOn n (some (.opened r)) (r :: rows) = cutOn n none (r :: rows) := by
  have hseat : seat r (some (.opened r)) = seat r none := if_pos rfl
  simp only [cutOn, takeIn, hseat]

theorem cutOn_other {n : Nat} {o : OpenChunk} {rows : List ActiveResource}
    (h : ∀ r ∈ rows.head?, (Cursor.at r).space ≠ o.space) :
    cutOn n (some o) rows = closing (some o) ++ cutOn n none rows := by
  cases rows with
  | nil => exact (List.append_nil _).symm
  | cons r rows =>
      have hne : o.space ≠ (Cursor.at r).space := fun heq => h r rfl heq.symm
      have hseat : seat r (some o) = (.opened r, closing (some o)) := if_neg hne
      have hnone : seat r none = (.opened r, []) := rfl
      simp only [cutOn, takeIn, hseat, hnone]
      split
      · rw [List.nil_append, List.append_assoc]
      · rfl

/-- The resources of one space are cut into pieces, the first of which begins with
what is in the chunk that is being filled. -/
theorem cutOn_run {n : Nat} {o : OpenChunk} {run rest : List ActiveResource}
    (hshort : o.items.length < n)
    (hrun : ∀ r ∈ run, (Cursor.at r).space = o.space)
    (hrest : ∀ r ∈ rest.head?, (Cursor.at r).space ≠ o.space) :
    cutOn n (some o) (run ++ rest) =
      ((pieces n (o.items ++ run.map (·.item))).zipIdx o.index).map
        (fun (items, i) => o.piece items i) ++ cutOn n none rest := by
  induction run generalizing o with
  | nil =>
      rw [List.nil_append, cutOn_other hrest, List.map_nil, List.append_nil]
      congr 1
      cases hitems : o.items with
      | nil => simp [closing, hitems]
      | cons i items =>
          rw [pieces_of_short (by simp) (by rw [← hitems]; omega)]
          simp [closing, hitems, OpenChunk.chunk]
  | cons r run ih =>
      have hr : o.space = (Cursor.at r).space := (hrun r (by simp)).symm
      have hseat : seat r (some o) = (o, []) := if_pos hr
      have hrun' : ∀ s ∈ run, (Cursor.at s).space = o.space := fun s hs =>
        hrun s (List.mem_cons_of_mem _ hs)
      have htaken : (o.take r).items = o.items ++ [r.item] := rfl
      have hmore : o.items ++ (r :: run).map (·.item) =
          (o.take r).items ++ run.map (·.item) := by
        rw [htaken, List.map_cons, List.append_assoc, List.singleton_append]
      rw [List.cons_append, cutOn, takeIn, hseat, hmore]
      simp only [List.nil_append]
      split
      · next hfull =>
          have hlen : (o.take r).items.length = n := by
            rw [htaken, List.length_append] at hfull ⊢
            simp only [List.length_cons, List.length_nil] at hfull ⊢
            omega
          have hnext := ih (o := (o.take r).next) (by show 0 < n; omega) hrun' hrest
          rw [hnext, pieces_append (by omega) hlen, List.zipIdx_cons, List.map_cons]
          rfl
      · next hroom =>
          have hnext := ih (o := o.take r) (by omega) hrun' hrest
          rw [hnext, List.nil_append]
          rfl

theorem cutOn_none {n : Nat} (hn : 0 < n) (rows : List ActiveResource) :
    cutOn n none rows =
      (runs (Cursor.at · |>.space) rows).flatMap (chunksOfRun n) := by
  fun_induction runs (Cursor.at · |>.space) rows with
  | case1 => rfl
  | case2 r rows ih =>
      have hsplit := List.takeWhile_append_dropWhile (p := fun y =>
        decide ((Cursor.at y).space = (Cursor.at r).space)) (l := rows)
      have hrun : ∀ s ∈ r :: rows.takeWhile (fun y =>
          decide ((Cursor.at y).space = (Cursor.at r).space)),
          (Cursor.at s).space = (Cursor.at r).space := by
        intro s hs
        rcases List.mem_cons.1 hs with rfl | hs
        · rfl
        · simpa using List.all_eq_true.1 List.all_takeWhile s hs
      have hrest : ∀ s ∈ (rows.dropWhile (fun y =>
          decide ((Cursor.at y).space = (Cursor.at r).space))).head?,
          (Cursor.at s).space ≠ (Cursor.at r).space := by
        intro s hs
        have hhead := List.head?_dropWhile_not (fun y =>
          decide ((Cursor.at y).space = (Cursor.at r).space)) rows
        rw [Option.mem_def.1 hs] at hhead
        simpa using hhead
      have hcut := cutOn_run (o := .opened r) hn hrun hrest
      rw [List.cons_append, hsplit, cutOn_opened] at hcut
      rw [List.flatMap_cons, ← ih, hcut]
      rfl

theorem cutOn_eq_cut {n : Nat} (hn : 0 < n) (rows : List ActiveResource) :
    cutOn n none (rows.filter ActiveResource.isPlaced) = cut n rows :=
  cutOn_none hn _

/-! ## What is counted -/

/-- A list without repetitions with a value more, if there is one. -/
def note (value : Option String) (known : List String) : List String :=
  match value with
  | some v => known.insert v
  | none => known

theorem nodup_note {known : List String} (value : Option String) (h : known.Nodup) :
    (note value known).Nodup := by
  cases value with
  | none => exact h
  | some v => exact h.insert

theorem mem_note {known : List String} {value : Option String} {v : String} :
    v ∈ note value known ↔ value = some v ∨ v ∈ known := by
  cases value with
  | none => simp [note]
  | some w => simp [note, List.mem_insert_iff, eq_comm]

theorem nodup_foldl_note {α : Type} (f : α → Option String) (xs : List α)
    {known : List String} (h : known.Nodup) :
    (xs.foldl (fun known x => note (f x) known) known).Nodup := by
  induction xs generalizing known with
  | nil => exact h
  | cons x xs ih => exact ih (nodup_note (f x) h)

theorem mem_foldl_note {α : Type} (f : α → Option String) (xs : List α)
    {known : List String} {v : String} :
    v ∈ xs.foldl (fun known x => note (f x) known) known ↔
      v ∈ known ∨ v ∈ xs.filterMap f := by
  induction xs generalizing known with
  | nil => simp
  | cons x xs ih =>
      rw [List.foldl_cons, ih, mem_note, List.mem_filterMap, List.mem_filterMap,
        List.exists_mem_cons_iff, or_comm (a := f x = some v), or_assoc]

theorem length_foldl_note {α : Type} (f : α → Option String) (xs : List α) :
    (xs.foldl (fun known x => note (f x) known) []).length =
      (xs.filterMap f).toFinset.card := by
  rw [← List.toFinset_card_of_nodup (nodup_foldl_note f xs List.nodup_nil)]
  congr 1
  ext v
  rw [List.mem_toFinset, List.mem_toFinset, mem_foldl_note]
  simp

namespace Totals

/-- What one generation counts of resources that are cut into chunks of so many
items. -/
def of (n : Nat) (rows : List ActiveResource) : Totals :=
  let placed := rows.filter ActiveResource.isPlaced
  { instances := (placed.map (·.instances)).sum
    resources := placed.length
    chunks := (cut n rows).length
    organizations := (placed.filterMap (·.org)).toFinset.card
    spaces := (placed.filterMap (·.space)).toFinset.card
    parents := (placed.filterMap (·.parent)).toFinset.card
    skipped := (rows.filter fun r => ! r.isPlaced).length }

end Totals

namespace Chunking

/-- What is counted of a resource with a place. -/
def tally (c : Chunking) (r : ActiveResource) : Chunking :=
  { c with
    instances := c.instances + r.instances
    resources := c.resources + 1
    organizations := note r.org c.organizations
    spaces := note r.space c.spaces
    parents := note r.parent c.parents }

/-- What a push would come to if no sum were too large. -/
def fill (l : ChunkLimits) (r : ActiveResource) (c : Chunking) : Chunking × List Batch :=
  match r.space, r.org with
  | some space, some org =>
    let (c, left) := c.turnTo l org r.orgName space r.spaceName
    let (c, batches) := c.put l org space r
    (c, left ++ batches)
  | _, _ => ({ c with skipped := c.skipped + 1 }, [])

theorem fill_of_not_placed (l : ChunkLimits) {r : ActiveResource} (c : Chunking)
    (h : r.isPlaced = false) : c.fill l r = ({ c with skipped := c.skipped + 1 }, []) := by
  unfold fill
  cases hspace : r.space with
  | none => rfl
  | some space =>
      cases horg : r.org with
      | none => rfl
      | some org => simp [ActiveResource.isPlaced, hspace, horg] at h

theorem flush_eq (l : ChunkLimits) (c : Chunking) : ∃ pending,
    (c.flush l).1 = { c with
        current := c.current.map fun o => { o with items := [] }
        chunks := c.chunks + (closing c.current).length
        pending := pending } ∧
      (c.flush l).2.flatten ++ pending =
        c.pending ++ (closing c.current).map SnapshotChunk.pending := by
  obtain ⟨current, pending, instances, resources, chunks, skipped, orgs, spaces, parents⟩ := c
  cases current with
  | none => exact ⟨pending, rfl, by simp [flush, closing]⟩
  | some o =>
      obtain ⟨org, orgName, space, spaceName, index, items⟩ := o
      cases items with
      | nil => exact ⟨pending, rfl, by simp [flush, closing]⟩
      | cons i items =>
          refine ⟨_, rfl, ?_⟩
          simp only [flush, closing, List.isEmpty_cons, Bool.false_eq_true, if_false]
          split
          · simp [OpenChunk.close_eq]
          · simp [OpenChunk.close_eq]

theorem turnTo_eq (l : ChunkLimits) (org : String) (orgName : Option String) (space : String)
    (spaceName : Option String) (c : Chunking) :
    c.turnTo l org orgName space spaceName =
      if c.isIn space then (c, [])
      else ((c.flush l).1.enter org orgName space spaceName, (c.flush l).2) := rfl

theorem seat_eq (l : ChunkLimits) {r : ActiveResource} {org space : String}
    (c : Chunking) (hspace : r.space = some space) (horg : r.org = some org) :
    ∃ batches pending,
      c.turnTo l org r.orgName space r.spaceName =
        ({ c with
            current := some (seat r c.current).1
            chunks := c.chunks + (seat r c.current).2.length
            pending := pending }, batches) ∧
      batches.flatten ++ pending =
        c.pending ++ (seat r c.current).2.map SnapshotChunk.pending := by
  have hopened : OpenChunk.opened r = ⟨org, r.orgName, space, r.spaceName, 0, []⟩ := by
    simp [OpenChunk.opened, Cursor.at, hspace, horg]
  have hat : (Cursor.at r).space = space := by simp [Cursor.at, hspace]
  obtain ⟨pending, hflush, hout⟩ := flush_eq l c
  rw [turnTo_eq]
  cases hcurrent : c.current with
  | none =>
      have hin : c.isIn space = false := by simp [isIn, hcurrent]
      refine ⟨(c.flush l).2, pending, ?_, ?_⟩
      · rw [hin, if_neg (by simp), hflush, hcurrent]
        simp [enter, seat, closing, hopened]
      · rw [hout, hcurrent]
        rfl
  | some o =>
      by_cases hsame : o.space = space
      · have hin : c.isIn space = true := by simp [isIn, hcurrent, hsame]
        have hseat : seat r (some o) = (o, []) := if_pos (hsame.trans hat.symm)
        refine ⟨[], c.pending, ?_, ?_⟩
        · rw [hin, if_pos rfl, hseat, ← hcurrent]
          rfl
        · rw [hseat]
          simp
      · have hin : c.isIn space = false := by simp [isIn, hcurrent, hsame]
        have hseat : seat r (some o) = (.opened r, closing (some o)) :=
          if_neg fun h => hsame (h.trans hat)
        refine ⟨(c.flush l).2, pending, ?_, ?_⟩
        · rw [hin, if_neg (by simp), hflush, hseat, hopened, hcurrent]
          rfl
        · rw [hout, hseat, hcurrent]

/-- What is held when a resource sits in a chunk, before it is seen whether that chunk
is full. -/
def seated (r : ActiveResource) (pending : Batch) (c : Chunking) : Chunking :=
  { c.tally r with
    current := some ((seat r c.current).1.take r)
    chunks := c.chunks + (seat r c.current).2.length
    pending := pending }

theorem fill_eq_seated (l : ChunkLimits) {r : ActiveResource} (c : Chunking)
    (h : r.isPlaced = true) : ∃ batches pending,
    c.fill l r =
        (if (c.seated r pending).isFull l then
          (((c.seated r pending).flush l).1.advance,
            batches ++ ((c.seated r pending).flush l).2)
        else (c.seated r pending, batches)) ∧
      batches.flatten ++ pending =
        c.pending ++ (seat r c.current).2.map SnapshotChunk.pending := by
  obtain ⟨space, hspace⟩ := Option.isSome_iff_exists.1 (Bool.and_eq_true_iff.1 h).1
  obtain ⟨org, horg⟩ := Option.isSome_iff_exists.1 (Bool.and_eq_true_iff.1 h).2
  obtain ⟨batches, pending, hseat, hout⟩ := seat_eq l c hspace horg
  have hadd : ({ c with
      current := some (seat r c.current).1
      chunks := c.chunks + (seat r c.current).2.length
      pending := pending } : Chunking).add org space r = c.seated r pending := by
    simp only [add, seated, tally, hspace, horg, Option.map_some]
    rfl
  refine ⟨batches, pending, ?_, hout⟩
  rw [← hadd]
  unfold fill put
  rw [hspace, horg]
  simp only [hseat]
  split
  · rfl
  · rw [List.append_nil]

theorem fill_of_placed (l : ChunkLimits) {r : ActiveResource} (c : Chunking)
    (h : r.isPlaced = true) : ∃ pending,
    (c.fill l r).1 = { c.tally r with
        current := some (takeIn l.perChunk r c.current).1
        chunks := c.chunks + (takeIn l.perChunk r c.current).2.length
        pending := pending } ∧
      (c.fill l r).2.flatten ++ pending =
        c.pending ++ (takeIn l.perChunk r c.current).2.map SnapshotChunk.pending := by
  obtain ⟨batches, pending, hpush, hout⟩ := fill_eq_seated l c h
  have hfull : (c.seated r pending).isFull l =
      decide (l.perChunk ≤ ((seat r c.current).1.take r).items.length) := rfl
  obtain ⟨pending', hflush, hout'⟩ := flush_eq l (c.seated r pending)
  have hclosing : closing (c.seated r pending).current =
      [((seat r c.current).1.take r).chunk] := by
    simp [seated, closing, OpenChunk.take]
  rw [hclosing] at hflush hout'
  rw [hpush, hfull, takeIn]
  by_cases hle : l.perChunk ≤ ((seat r c.current).1.take r).items.length
  · simp only [hle, decide_true, if_true]
    refine ⟨pending', ?_, ?_⟩
    · rw [hflush]
      simp [seated, advance, OpenChunk.next, Nat.add_assoc]
    · have hheld : (c.seated r pending).pending = pending := rfl
      rw [List.flatten_append, List.append_assoc, hout', hheld, ← List.append_assoc, hout,
        List.map_append, List.append_assoc]
  · simp only [hle, decide_false, Bool.false_eq_true, if_false]
    exact ⟨pending, rfl, hout⟩

/-- What is counted of resources with a place. -/
def tallyAll (c : Chunking) (rows : List ActiveResource) : Chunking :=
  { c with
    instances := c.instances + (rows.map (·.instances)).sum
    resources := c.resources + rows.length
    organizations := rows.foldl (fun known r => note r.org known) c.organizations
    spaces := rows.foldl (fun known r => note r.space known) c.spaces
    parents := rows.foldl (fun known r => note r.parent known) c.parents }

/-- What is held after resources were taken in, and the batches that were put out, if no sum
is too large. -/
def emitted (l : ChunkLimits) : List ActiveResource → Chunking → Chunking × List Batch
  | [], c => (c, [])
  | r :: rows, c =>
    let (c, batches) := c.fill l r
    let (c, more) := emitted l rows c
    (c, batches ++ more)

/-- Taking in resources counts them, and finishes all chunks that come of them but
the one that is still being filled. -/
theorem emitted_eq (l : ChunkLimits) (rows : List ActiveResource) (c : Chunking) :
    ∃ current done pending,
      (emitted l rows c).1 = { c.tallyAll (rows.filter ActiveResource.isPlaced) with
          current := current
          chunks := c.chunks + done.length
          pending := pending
          skipped := c.skipped + (rows.filter fun r => ! r.isPlaced).length } ∧
      (emitted l rows c).2.flatten ++ pending =
        c.pending ++ done.map SnapshotChunk.pending ∧
      cutOn l.perChunk c.current (rows.filter ActiveResource.isPlaced) =
        done ++ closing current := by
  induction rows generalizing c with
  | nil =>
      exact ⟨c.current, [], c.pending, by simp [emitted, tallyAll], (List.append_nil _).symm, rfl⟩
  | cons r rows ih =>
      cases hplaced : r.isPlaced with
      | false =>
          have hpush := fill_of_not_placed l c hplaced
          obtain ⟨current, done, pending, hstate, hout, hcut⟩ :=
            ih { c with skipped := c.skipped + 1 }
          refine ⟨current, done, pending, ?_, ?_, ?_⟩
          · simp only [emitted, hpush, hstate, List.filter_cons, hplaced]
            simp [tallyAll, Nat.add_assoc, Nat.add_comm 1]
          · simp only [emitted, hpush, List.nil_append, hout]
          · simp only [List.filter_cons, hplaced]
            exact hcut
      | true =>
          obtain ⟨held, hpush, hbatches⟩ := fill_of_placed l c hplaced
          obtain ⟨current, done, pending, hstate, hout, hcut⟩ := ih (c.fill l r).1
          rw [hpush] at hstate hout hcut
          refine ⟨current, (takeIn l.perChunk r c.current).2 ++ done, pending, ?_, ?_, ?_⟩
          · simp only [emitted, hpush, hstate, List.filter_cons, hplaced]
            simp [tallyAll, tally, Int.add_assoc, Nat.add_assoc, Nat.add_comm 1]
          · simp only [emitted, hpush, List.flatten_append, List.append_assoc]
            rw [hout, ← List.append_assoc, hbatches, List.map_append, List.append_assoc]
          · simp only [List.filter_cons, hplaced, if_true, cutOn]
            rw [hcut, List.append_assoc]

theorem emitted_start (l : ChunkLimits) (rows : List ActiveResource) :
    ∃ current done pending,
      (emitted l rows start).1 = { start.tallyAll (rows.filter ActiveResource.isPlaced) with
          current := current
          chunks := done.length
          pending := pending
          skipped := (rows.filter fun r => ! r.isPlaced).length } ∧
      (emitted l rows start).2.flatten ++ pending = done.map SnapshotChunk.pending ∧
      cut l.perChunk rows = done ++ closing current := by
  obtain ⟨current, done, pending, hstate, hout, hcut⟩ := emitted_eq l rows start
  refine ⟨current, done, pending, ?_, hout, ?_⟩
  · rw [hstate]
    simp only [start, Nat.zero_add]
  · rw [← cutOn_eq_cut l.perChunk_pos]
    exact hcut

/-- All batches that are put out for a list of resources. -/
def batches (l : ChunkLimits) (rows : List ActiveResource) : List Batch :=
  (emitted l rows start).2 ++ ((emitted l rows start).1.finish l).2

theorem flatten_batches (l : ChunkLimits) (rows : List ActiveResource) :
    (batches l rows).flatten = (cut l.perChunk rows).map SnapshotChunk.pending := by
  obtain ⟨current, done, pending, hstate, hout, hcut⟩ := emitted_start l rows
  obtain ⟨held, hflush, hlast⟩ := flush_eq l (emitted l rows start).1
  have hfinish : ((emitted l rows start).1.finish l).2.flatten =
      ((emitted l rows start).1.flush l).2.flatten ++ held := by
    simp only [finish, hflush]
    cases held with
    | nil => simp
    | cons c held => simp
  have hpending : (emitted l rows start).1.pending = pending := by rw [hstate]
  have hcurrent : (emitted l rows start).1.current = current := by rw [hstate]
  rw [batches, List.flatten_append, hfinish, hlast, hpending, hcurrent, ← List.append_assoc,
    hout, hcut, List.map_append]

theorem totals_finish (l : ChunkLimits) (rows : List ActiveResource) :
    ((emitted l rows start).1.finish l).1.totals = .of l.perChunk rows := by
  obtain ⟨current, done, pending, hstate, -, hcut⟩ := emitted_start l rows
  have hchunks : (cut l.perChunk rows).length = done.length + (closing current).length := by
    rw [hcut, List.length_append]
  obtain ⟨held, hflush, -⟩ := flush_eq l (emitted l rows start).1
  simp only [finish, totals, hflush]
  simp only [hstate, tallyAll]
  simp only [start, Totals.of, length_foldl_note, Int.zero_add, Nat.zero_add, hchunks]

/-! ## The sum of the instances -/

/-- From a number on, no sum on the way through resources with a place is too large. -/
def SumsFit (n : Int) (rows : List ActiveResource) : Prop :=
  ∀ front, front <+: rows.filter ActiveResource.isPlaced →
    Word.holdsSigned (n + (front.map (·.instances)).sum) = true

instance (n : Int) (rows : List ActiveResource) : Decidable (SumsFit n rows) :=
  decidable_of_iff (∀ front ∈ (rows.filter ActiveResource.isPlaced).inits,
    Word.holdsSigned (n + (front.map (·.instances)).sum) = true) (by simp [SumsFit])

namespace SumsFit

variable {n : Int} {r : ActiveResource} {rows : List ActiveResource}

theorem holds (h : SumsFit n rows) : Word.holdsSigned n = true := by
  have hnone := h [] List.nil_prefix
  rwa [List.map_nil, List.sum_nil, Int.add_zero] at hnone

theorem total (h : SumsFit 0 rows) :
    Word.holdsSigned ((rows.filter ActiveResource.isPlaced).map (·.instances)).sum = true := by
  have hall := h _ List.prefix_rfl
  rwa [Int.zero_add] at hall

theorem nil (h : Word.holdsSigned n = true) : SumsFit n [] := by
  intro front hfront
  obtain rfl := List.prefix_nil.1 hfront
  rwa [List.map_nil, List.sum_nil, Int.add_zero]

theorem cons_of_not_placed (h : r.isPlaced = false) :
    SumsFit n (r :: rows) ↔ SumsFit n rows := by
  rw [SumsFit, List.filter_cons_of_neg (by simp [h])]
  rfl

theorem cons_of_placed (h : r.isPlaced = true) :
    SumsFit n (r :: rows) ↔ Word.holdsSigned n = true ∧ SumsFit (n + r.instances) rows := by
  have hsum (front : List ActiveResource) : n + ((r :: front).map (·.instances)).sum =
      n + r.instances + (front.map (·.instances)).sum := by
    rw [List.map_cons, List.sum_cons, Int.add_assoc]
  refine ⟨fun hfit => ⟨hfit.holds, fun front hfront => ?_⟩, fun ⟨hn, hfit⟩ front hfront => ?_⟩
  · rw [← hsum]
    refine hfit (r :: front) ?_
    rw [List.filter_cons_of_pos h]
    exact List.cons_prefix_cons.2 ⟨rfl, hfront⟩
  · rw [List.filter_cons_of_pos h] at hfront
    rcases List.prefix_cons_iff.1 hfront with rfl | ⟨rest, rfl, hrest⟩
    · rwa [List.map_nil, List.sum_nil, Int.add_zero]
    · rw [hsum]
      exact hfit rest hrest

end SumsFit

theorem instances_flush (l : ChunkLimits) (c : Chunking) :
    (c.flush l).1.instances = c.instances := by
  obtain ⟨pending, hflush, -⟩ := flush_eq l c
  rw [hflush]

theorem instances_turnTo (l : ChunkLimits) (org : String) (orgName : Option String)
    (space : String) (spaceName : Option String) (c : Chunking) :
    (c.turnTo l org orgName space spaceName).1.instances = c.instances := by
  rw [turnTo_eq]
  split
  · rfl
  · exact instances_flush l c

theorem push_of_holds (l : ChunkLimits) {r : ActiveResource} {c : Chunking}
    (h : r.isPlaced = true → Word.holdsSigned (c.instances + r.instances) = true) :
    c.push l r = (.ok (c.fill l r).1, (c.fill l r).2) := by
  unfold push fill
  cases hspace : r.space with
  | none => rfl
  | some space =>
      cases horg : r.org with
      | none => rfl
      | some org =>
          have hplaced : r.isPlaced = true := by simp [ActiveResource.isPlaced, hspace, horg]
          simp only [instances_turnTo, h hplaced, if_true]

theorem push_of_not_holds (l : ChunkLimits) {r : ActiveResource} {c : Chunking}
    (hplaced : r.isPlaced = true)
    (h : Word.holdsSigned (c.instances + r.instances) = false) :
    ∃ left, left <+: (c.fill l r).2 ∧ c.push l r = (.error .overflow, left) := by
  obtain ⟨space, hspace⟩ := Option.isSome_iff_exists.1 (Bool.and_eq_true_iff.1 hplaced).1
  obtain ⟨org, horg⟩ := Option.isSome_iff_exists.1 (Bool.and_eq_true_iff.1 hplaced).2
  refine ⟨(c.turnTo l org r.orgName space r.spaceName).2, ?_, ?_⟩
  · unfold fill
    rw [hspace, horg]
    exact List.prefix_append ..
  · unfold push
    simp only [hspace, horg, instances_turnTo, h, Bool.false_eq_true, if_false]

theorem instances_fill (l : ChunkLimits) (r : ActiveResource) (c : Chunking) :
    (c.fill l r).1.instances =
      if r.isPlaced then c.instances + r.instances else c.instances := by
  cases hplaced : r.isPlaced with
  | false =>
      rw [fill_of_not_placed l c hplaced]
      rfl
  | true =>
      obtain ⟨pending, hfill, -⟩ := fill_of_placed l c hplaced
      rw [hfill]
      rfl

theorem holds_fill {l : ChunkLimits} {r : ActiveResource} {c : Chunking}
    (hc : Word.holdsSigned c.instances = true)
    (hroom : r.isPlaced = true → Word.holdsSigned (c.instances + r.instances) = true) :
    Word.holdsSigned (c.fill l r).1.instances = true := by
  rw [instances_fill]
  split
  · next hplaced => exact hroom hplaced
  · exact hc

theorem sumsFit_cons_iff (l : ChunkLimits) {r : ActiveResource} {rows : List ActiveResource}
    {c : Chunking} (hc : Word.holdsSigned c.instances = true) :
    SumsFit c.instances (r :: rows) ↔
      (r.isPlaced = true → Word.holdsSigned (c.instances + r.instances) = true) ∧
        SumsFit (c.fill l r).1.instances rows := by
  rw [instances_fill]
  cases hplaced : r.isPlaced with
  | false => simp [SumsFit.cons_of_not_placed hplaced]
  | true =>
      rw [SumsFit.cons_of_placed hplaced]
      simp only [if_true, forall_const, hc, true_and]
      exact ⟨fun h => ⟨h.holds, h⟩, And.right⟩

/-! ## Running -/

section Running

variable {σ : Type} {sink : Sink σ}

theorem deliver_append_eq (xs ys : List Batch) (s : σ) :
    deliver sink (xs ++ ys) s =
      match deliver sink xs s with
      | (.ok _, s) => deliver sink ys s
      | (.error e, s) => (.error e, s) := by
  induction xs generalizing s with
  | nil => rfl
  | cons b xs ih =>
      rw [List.cons_append, deliver, deliver]
      split
      · exact ih _
      · rfl

theorem deliver_append {xs ys : List Batch} {s u : σ} :
    deliver sink (xs ++ ys) s = (.ok (), u) ↔
      ∃ t, deliver sink xs s = (.ok (), t) ∧ deliver sink ys t = (.ok (), u) := by
  rw [deliver_append_eq]
  split
  · next t hfront =>
      rw [hfront]
      simp
  · next e t hfront =>
      rw [hfront]
      simp

theorem pushAll_of_delivered {l : ChunkLimits} {rows : List ActiveResource} {n : Nat}
    {c : Chunking} {s t : σ} (hfit : SumsFit c.instances rows)
    (h : deliver sink (emitted l rows c).2 s = (.ok (), t)) :
    pushAll l sink rows n c s = ⟨n + rows.length, .ok (emitted l rows c).1, t⟩ := by
  induction rows generalizing n c s with
  | nil =>
      obtain rfl := (Prod.mk.inj h).2
      rfl
  | cons r rows ih =>
      have hsplit : deliver sink
          ((c.fill l r).2 ++ (emitted l rows (c.fill l r).1).2) s = (.ok (), t) := h
      obtain ⟨hroom, hrestfit⟩ := (sumsFit_cons_iff l hfit.holds).1 hfit
      obtain ⟨m, hfirst, hrest⟩ := deliver_append.1 hsplit
      have hnext := ih (n := n + 1) hrestfit hrest
      simp only [pushAll, push_of_holds l hroom, hfirst, hnext, emitted, List.length_cons]
      rw [Nat.add_right_comm, Nat.add_assoc]

/-- When no sum is too large and all batches are delivered, a run ends with the totals of
the resources. -/
theorem run_of_delivered {l : ChunkLimits} {rows : List ActiveResource} {s t : σ}
    (hfit : SumsFit 0 rows) (h : deliver sink (batches l rows) s = (.ok (), t)) :
    run l sink ⟨rows, none⟩ s = ⟨rows.length, .ok (.of l.perChunk rows), t⟩ := by
  obtain ⟨m, hpushed, hfinished⟩ := deliver_append.1 h
  have hpush := pushAll_of_delivered (c := start) (n := 0) hfit hpushed
  rw [Nat.zero_add] at hpush
  simp only [run, hpush, hfinished, totals_finish]

theorem deliver_of_pushAll {l : ChunkLimits} {rows : List ActiveResource} {n m : Nat}
    {c c' : Chunking} {s t : σ} (hc : Word.holdsSigned c.instances = true)
    (h : pushAll l sink rows n c s = ⟨m, .ok c', t⟩) :
    SumsFit c.instances rows ∧ deliver sink (emitted l rows c).2 s = (.ok (), t) ∧
      (emitted l rows c).1 = c' := by
  induction rows generalizing n c s with
  | nil =>
      obtain ⟨-, hstate, hsink⟩ := Progress.mk.inj h
      exact ⟨.nil hc, congrArg _ hsink, Except.ok.inj hstate⟩
  | cons r rows ih =>
      by_cases hroom : r.isPlaced = true → Word.holdsSigned (c.instances + r.instances) = true
      · simp only [pushAll, push_of_holds l hroom] at h
        split at h
        · cases congrArg Progress.state h
        · next u hfirst =>
            obtain ⟨hfit, hrest, hheld⟩ := ih (holds_fill hc hroom) h
            exact ⟨(sumsFit_cons_iff l hc).2 ⟨hroom, hfit⟩,
              deliver_append.2 ⟨u, hfirst, hrest⟩, hheld⟩
      · obtain ⟨hplaced, hover⟩ := Classical.not_imp.1 hroom
        obtain ⟨left, -, hpush⟩ := push_of_not_holds l hplaced (Bool.not_eq_true _ ▸ hover)
        simp only [pushAll, hpush] at h
        split at h <;> cases congrArg Progress.state h

/-- A run ends well only if the walk did, no sum was too large and all batches were
delivered. -/
theorem run_eq_ok {l : ChunkLimits} {w : Walk} {s : σ} {totals : Totals}
    (h : (run l sink w s).totals = .ok totals) :
    w.failure = none ∧ SumsFit 0 w.rows ∧ totals = .of l.perChunk w.rows ∧
      deliver sink (batches l w.rows) s = (.ok (), (run l sink w s).sink) := by
  unfold run at h ⊢
  split at h
  · cases h
  · next n c t hpush =>
      obtain ⟨hfit, hpushed, rfl⟩ := deliver_of_pushAll (by decide) hpush
      split at h
      · cases h
      · next hwalk =>
          simp only [hwalk] at h ⊢
          split at h
          · next u hlast =>
              refine ⟨trivial, hfit, ?_, deliver_append.2 ⟨t, hpushed, hlast⟩⟩
              rw [← Except.ok.inj h, totals_finish]
          · cases h

end Running

end Chunking

end Metering
