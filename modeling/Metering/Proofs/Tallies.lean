import Metering.Job
import Metering.Proofs.Generating
import Metering.Proofs.Numbering
import Metering.Proofs.Reading

/-!
# Snapshots count what they hold

The counts of a snapshot are kept by whoever cuts the chunks, and the chunks by
the store. They meet when the snapshot is completed, and there they agree: the
chunks were all accepted, so no two are in one place, so the spaces and items
in the store are those that were counted.

`IsTallied` adds this to what a store keeps to. It does not ask anything of the
sources, which may repeat spaces, fail, or answer differently every time; only
that their items are made of words. Every operation keeps it, so it holds
wherever requests, generations, deletions and clean-ups lead
(`Database.Reachable`).
-/

namespace Metering

/-- The items in a stored chunk. One whose text cannot be read has none. -/
def StoredChunk.contents (c : StoredChunk) : List UsageItem :=
  (UsageItem.readAll? c.items).getD []

namespace SnapshotChunk

theorem contents_stored {id : Int} {c : SnapshotChunk} (h : ∀ i ∈ c.items, i.Fits) :
    (c.stored id).contents = c.items := by
  unfold StoredChunk.contents
  rw [show (c.stored id).items = UsageItem.writeAll c.items from rfl,
    UsageItem.readAll?_writeAll h, Option.getD_some]

theorem apart_of_not_collides {id : Int} {a b : SnapshotChunk}
    (h : (a.stored id).collides (b.stored id) = false) : a.Apart b := by
  intro hspace hindex
  have hplace : (a.stored id).collides (b.stored id) = true := by
    simp only [StoredChunk.collides, Bool.and_eq_true, decide_eq_true_eq]
    exact ⟨⟨rfl, hspace⟩, hindex⟩
  rw [h] at hplace
  cases hplace

end SnapshotChunk

/-! ## The counts of one snapshot -/

/-- The counts of a snapshot, which are kept as signed words, are those of certain
chunks. None of these is empty, and those of a space are numbered from zero up. -/
structure SnapshotRow.Tallies (r : SnapshotRow) (own : List StoredChunk) : Prop where
  chunks : r.chunks = Word.signed own.length
  spaces : r.spaces = Word.signed (own.map (·.space)).toFinset.card
  resources : r.resources = Word.signed (own.flatMap (·.contents)).length
  full : ∀ c ∈ own, c.contents ≠ []
  numbered : ∀ space, ∃ n,
    (own.filter (·.space = space)).map (·.index) = (List.range n).map Int.ofNat

theorem SnapshotRow.Tallies.summary {r : SnapshotRow} {own : List StoredChunk}
    (h : r.Tallies own) (hfew : (own.flatMap (·.contents)).length ≤ Word.max) :
    r.toSnapshot.summary.chunks = own.length ∧
      r.toSnapshot.summary.spaces = (own.map (·.space)).toFinset.card ∧
      r.toSnapshot.summary.resources = (own.flatMap (·.contents)).length := by
  have hchunks : own.length ≤ (own.flatMap (·.contents)).length :=
    length_le_length_flatMap h.full
  have hspaces : (own.map (·.space)).toFinset.card ≤ own.length := by
    have := List.toFinset_card_le (own.map (·.space))
    rwa [List.length_map] at this
  simp only [SnapshotRow.toSnapshot, h.chunks, h.spaces, h.resources]
  exact ⟨Word.unsigned_signed (by omega), Word.unsigned_signed (by omega),
    Word.unsigned_signed hfew⟩

theorem Snapshots.tallies_completed {n : Nat} {rows : List ActiveResource}
    (hfit : ∀ r ∈ rows, r.item.Fits) (hapart : (cut n rows).Pairwise SnapshotChunk.Apart)
    (id now : Int) (checkpoint : Option Event) (tracksParents : Bool) (r : SnapshotRow) :
    (completed now checkpoint (.of n rows) tracksParents r).Tallies
      ((cut n rows).map (·.stored id)) := by
  have hcontents : ∀ c ∈ cut n rows, (c.stored id).contents = c.items := fun c hc =>
    SnapshotChunk.contents_stored fun i hi => by
      obtain ⟨r, hr, rfl⟩ := items_of_mem_cut hc hi
      exact hfit r hr
  have hspaces : ((cut n rows).map (·.stored id)).map (·.space) =
      (cut n rows).map (·.space) := List.map_map
  have hitems : ((cut n rows).map (·.stored id)).flatMap (·.contents) =
      (rows.filter ActiveResource.isPlaced).map (·.item) := by
    rw [List.flatMap_map, ← items_cut n rows]
    exact List.flatMap_congr hcontents
  constructor
  · simp only [completed, Totals.of, List.length_map]
  · simp only [completed, Totals.of, hspaces, spaces_cut]
  · simp only [completed, Totals.of, hitems, List.length_map]
  · intro c hc
    obtain ⟨d, hd, rfl⟩ := List.mem_map.1 hc
    rw [hcontents d hd]
    exact items_ne_nil_of_mem_cut hd
  · intro space
    obtain ⟨m, hm⟩ := indices_cut hapart space
    refine ⟨m, ?_⟩
    rw [List.filter_map, List.map_map, ← hm]
    rfl

/-! ## The store -/

namespace Snapshots

/-- The chunks of a snapshot, in the order they were stored. -/
def own (id : Int) (s : Snapshots) : List StoredChunk :=
  s.chunks.filter (·.snapshot = id)

theorem mem_own {id : Int} {c : StoredChunk} {s : Snapshots} (h : c ∈ s.own id) :
    c.snapshot = id := of_decide_eq_true (List.mem_filter.1 h).2

/-- A store as its operations leave it, with the counts of its snapshots: at most one
snapshot of a kind is still processing and is as it was requested, and the others
tally. -/
structure IsTallied (s : Snapshots) : Prop extends IsKept s where
  single : ∀ k, s.rows.countP (fun r => r.kind = k && r.isProcessing) ≤ 1
  blank : ∀ r ∈ s.rows, r.isProcessing = true →
    r = .placeholder r.id r.guid r.kind r.createdAt
  tallied : ∀ r ∈ s.rows, r.isProcessing = false → r.Tallies (s.own r.id)

theorem IsTallied.empty : Snapshots.empty.IsTallied where
  toIsKept := IsKept.empty
  single _ := Nat.zero_le _
  blank _ hr := absurd hr List.not_mem_nil
  tallied _ hr := absurd hr List.not_mem_nil

theorem IsKept.own_eq_nil {s : Snapshots} (h : s.IsKept) {r : SnapshotRow}
    (hr : r ∈ s.rows) (hopen : r.isProcessing = true) : s.own r.id = [] :=
  List.filter_eq_nil_iff.2 fun c hc => by simpa using h.no_chunks hr hopen c hc

theorem IsTallied.request {s t : Snapshots} (h : s.IsTallied) {k : Kind} {now : Int}
    {fresh : String} {snapshot : Snapshot}
    (hreq : s.request k now fresh = .ok (snapshot, t)) : t.IsTallied := by
  have hkept := h.toIsKept.request hreq
  unfold Snapshots.request at hreq
  split at hreq
  · cases hreq
  · next hnone =>
      obtain ⟨-, rfl⟩ := Prod.mk.inj (Except.ok.inj hreq)
      refine ⟨hkept, fun k' => ?_, fun r hr hopen => ?_, fun r hr hdone => ?_⟩
      · have hold := h.single k'
        rw [List.countP_append, List.countP_singleton]
        by_cases hk : k = k'
        · -- nothing of the kind was processing
          have hzero : s.rows.countP (fun r => r.kind = k && r.isProcessing) = 0 := by
            rw [List.countP_eq_zero]
            intro r hr hopen
            refine hnone ?_
            rw [inProgress?, Option.isSome_map, List.find?_isSome]
            exact ⟨r, hr, hopen⟩
          rw [← hk, hzero]
          split <;> omega
        · rw [if_neg (by simp [SnapshotRow.placeholder, hk])]
          omega
      · rcases List.mem_append.1 hr with hr | hr
        · exact h.blank r hr hopen
        · rw [List.mem_singleton.1 hr]
          rfl
      · rcases List.mem_append.1 hr with hr | hr
        · exact h.tallied r hr hdone
        · rw [List.mem_singleton.1 hr] at hdone
          cases hdone

theorem own_deleteWhere (doomed : SnapshotRow → Bool) (id : Int) (s : Snapshots) :
    (s.deleteWhere doomed).2.own id =
      if s.rows.any (fun r => r.id = id && doomed r) then [] else s.own id := by
  have hgone : ∀ c ∈ s.own id, (s.rows.filter doomed).any (·.id = c.snapshot) =
      s.rows.any fun r => r.id = id && doomed r := by
    intro c hc
    rw [List.any_filter, mem_own hc]
    exact congrArg s.rows.any (funext fun r => Bool.and_comm _ _)
  have hcomm : (s.deleteWhere doomed).2.own id =
      (s.own id).filter fun c => ! (s.rows.filter doomed).any (·.id = c.snapshot) := by
    unfold own deleteWhere
    rw [List.filter_filter, List.filter_filter]
    exact List.filter_congr fun c _ => Bool.and_comm _ _
  rw [hcomm]
  split
  · next hany =>
      refine List.filter_eq_nil_iff.2 fun c hc => ?_
      rw [hgone c hc, hany]
      simp
  · next hany =>
      refine List.filter_eq_self.2 fun c hc => ?_
      rw [hgone c hc, Bool.eq_false_of_not_eq_true hany, Bool.not_false]

theorem own_deleteWhere_of_spared {s : Snapshots} (h : (s.rows.map (·.id)).Nodup)
    {doomed : SnapshotRow → Bool} {r : SnapshotRow} (hr : r ∈ s.rows)
    (hspared : doomed r = false) : (s.deleteWhere doomed).2.own r.id = s.own r.id := by
  rw [own_deleteWhere, if_neg]
  rw [List.any_eq_true]
  rintro ⟨d, hd, hdoomed⟩
  obtain ⟨hid, hdoomed⟩ := Bool.and_eq_true_iff.1 hdoomed
  rw [List.inj_on_of_nodup_map h hd hr (of_decide_eq_true hid), hspared] at hdoomed
  cases hdoomed

theorem IsTallied.deleteWhere {s : Snapshots} (h : s.IsTallied)
    (doomed : SnapshotRow → Bool) : (s.deleteWhere doomed).2.IsTallied where
  toIsKept := h.toIsKept.deleteWhere doomed
  single k := Nat.le_trans (List.filter_sublist.countP_le) (h.single k)
  blank r hr := h.blank r (List.mem_filter.1 hr).1
  tallied r hr hdone := by
    obtain ⟨hr, hspared⟩ := List.mem_filter.1 hr
    rw [own_deleteWhere_of_spared h.distinct hr (by simpa using hspared)]
    exact h.tallied r hr hdone

section Generated

variable {now id : Int} {checkpoint : Option Event} {totals : Totals} {tracksParents : Bool}

theorem own_generated_of_ne {s : Snapshots} {other : Int} (hne : other ≠ id)
    (cs : List PendingChunk) :
    (s.generated now id checkpoint totals tracksParents cs).own other = s.own other := by
  have hnew : (cs.map (StoredChunk.ofPending id)).filter (·.snapshot = other) = [] := by
    refine List.filter_eq_nil_iff.2 fun c hc => ?_
    obtain ⟨p, -, rfl⟩ := List.mem_map.1 hc
    exact fun heq => hne (of_decide_eq_true heq).symm
  rw [own, generated, withChunks, List.filter_append, hnew, List.append_nil]
  rfl

theorem own_generated {s : Snapshots} (hnone : s.own id = []) (cs : List PendingChunk) :
    (s.generated now id checkpoint totals tracksParents cs).own id =
      cs.map (.ofPending id) := by
  have hnew : (cs.map (StoredChunk.ofPending id)).filter (·.snapshot = id) =
      cs.map (.ofPending id) := by
    refine List.filter_eq_self.2 fun c hc => ?_
    obtain ⟨p, -, rfl⟩ := List.mem_map.1 hc
    exact decide_eq_true rfl
  rw [own, generated, withChunks, List.filter_append, hnew]
  exact congrArg (· ++ _) hnone

theorem close_of_isProcessing {r : SnapshotRow}
    (h : (close now id checkpoint totals tracksParents r).isProcessing = true) :
    close now id checkpoint totals tracksParents r = r ∧ r.isProcessing = true := by
  unfold close at h ⊢
  split at h
  · cases h
  · next hnot =>
      rw [if_neg hnot]
      exact ⟨rfl, h⟩

theorem kind_close (r : SnapshotRow) :
    (close now id checkpoint totals tracksParents r).kind = r.kind := by
  unfold close
  split <;> rfl

theorem IsTallied.generated {s : Snapshots} (h : s.IsTallied) {r : SnapshotRow}
    (hr : r ∈ s.rows) (hid : r.id = id) (hopen : r.isProcessing = true)
    {cs : List PendingChunk}
    (htally : (completed now checkpoint totals tracksParents r).Tallies
      (cs.map (.ofPending id))) :
    (s.generated now id checkpoint totals tracksParents cs).IsTallied where
  toIsKept := h.toIsKept.generated hr hid cs
  single k := by
    refine Nat.le_trans ?_ (h.single k)
    rw [Snapshots.generated, List.countP_map]
    refine List.countP_mono_left fun x _ hx => ?_
    simp only [Function.comp_apply, kind_close, Bool.and_eq_true] at hx ⊢
    exact ⟨hx.1, (close_of_isProcessing hx.2).2⟩
  blank y hy hyopen := by
    obtain ⟨x, hx, rfl⟩ := List.mem_map.1 hy
    obtain ⟨hsame, hxopen⟩ := close_of_isProcessing hyopen
    rw [hsame]
    exact h.blank x hx hxopen
  tallied y hy hdone := by
    obtain ⟨x, hx, rfl⟩ := List.mem_map.1 hy
    rw [id_close]
    -- the completed snapshot had no chunks before, and no other gets any
    by_cases hxid : x.id = id
    · obtain rfl := h.eq_of_id hx hr (hxid.trans hid.symm)
      rw [close_of_open hxid hopen, hxid,
        own_generated (hxid ▸ h.toIsKept.own_eq_nil hx hopen)]
      exact htally
    · have hxsame : close now id checkpoint totals tracksParents x = x :=
        if_neg (by simp [hxid])
      rw [hxsame] at hdone ⊢
      rw [own_generated_of_ne hxid]
      exact h.tallied x hx hdone

end Generated

end Snapshots

/-! ## Sources -/

/-- All items that a source hands out are made of words. -/
def Source.IsTyped (source : Source) : Prop :=
  ∀ number after size page, source.fetch number after size = .ok page →
    ∀ r ∈ page, r.item.Fits

theorem Source.IsTyped.walkFrom {source : Source} (h : source.IsTyped) (size fuel : Nat)
    (number : Nat) (after : Option Cursor) :
    ∀ r ∈ (source.walkFrom size fuel number after).rows, r.item.Fits := by
  induction fuel generalizing number after with
  | zero => exact fun r hr => absurd hr List.not_mem_nil
  | succ fuel ih =>
      rw [Source.walkFrom]
      cases hfetch : source.fetch number after size with
      | error e => exact fun r hr => absurd hr List.not_mem_nil
      | ok page =>
          have hpage := h number after size page hfetch
          simp only []
          split
          · exact hpage
          · intro r hr
            rcases List.mem_append.1 hr with hr | hr
            · exact hpage r hr
            · exact ih _ _ r hr

theorem Source.isTyped_ofRows {rows : List ActiveResource} (h : ∀ r ∈ rows, r.item.Fits)
    (tracksParents : Bool) (failsAfter : Option Nat) (e : Error) :
    (Source.ofRows tracksParents rows failsAfter e).IsTyped := by
  intro number after size page hpage r hr
  have hdrop : ∀ start, (rows.drop start).take size ⊆ rows := fun start =>
    List.Subset.trans (List.take_subset _ _) (List.drop_subset _ _)
  cases failsAfter with
  | none =>
      obtain rfl := Except.ok.inj hpage
      exact h r (hdrop _ hr)
  | some n =>
      obtain ⟨start, hpage⟩ : ∃ start, (if n ≤ start then Except.error e
        else .ok ((rows.drop start).take size)) = .ok page := ⟨_, hpage⟩
      split at hpage
      · cases hpage
      · obtain rfl := Except.ok.inj hpage
        exact h r (hdrop _ hr)

/-- The numbers in the columns that items are made of are words. -/
def Inventory.IsStorable (inv : Inventory) : Prop :=
  ∀ e ∈ inv.processes.entries, ∀ n,
    e.value.instances = .int n ∨ e.value.memory = .int n → Word.holdsSigned n = true

namespace Inventory

theorem eq_int_of_whole {cell : Cell} {index : Nat} {column : String} {n : Int}
    (h : cell.whole index column = .ok (some n)) : cell = .int n := by
  cases cell with
  | null => cases h
  | int m => rw [Option.some.inj (Except.ok.inj h)]
  | real => cases h
  | text s => cases h

theorem IsStorable.fits {inv : Inventory} (h : inv.IsStorable) {k : Kind} {listed : Listed}
    (hlisted : listed ∈ inv.listing k) {r : ActiveResource} (hr : listed.row = .ok r) :
    r.item.Fits := by
  cases k with
  | process =>
      obtain ⟨e, he, hlist⟩ := List.mem_filterMap.1 (List.mem_mergeSort.1 hlisted)
      unfold listProcess at hlist
      split at hlist
      · obtain ⟨app, -, hlist⟩ := Option.bind_eq_some_iff.1 hlist
        obtain ⟨space, -, hlist⟩ := Option.bind_eq_some_iff.1 hlist
        obtain ⟨org, -, hlist⟩ := Option.bind_eq_some_iff.1 hlist
        obtain rfl := Option.some.inj hlist
        obtain ⟨instances, hinstances, hr⟩ := bind_eq_ok.1 hr
        obtain ⟨memory, hmemory, hr⟩ := bind_eq_ok.1 hr
        obtain rfl := Except.ok.inj hr
        refine ⟨fun n hn => ?_, fun n hn => ?_⟩
        · obtain rfl : instances = some n := hn
          exact h e he n (Or.inl (eq_int_of_whole hinstances))
        · obtain rfl : memory = some n := hn
          exact h e he n (Or.inr (eq_int_of_whole hmemory))
      · cases hlist
  | service =>
      obtain ⟨e, he, hlist⟩ := List.mem_filterMap.1 (List.mem_mergeSort.1 hlisted)
      obtain ⟨space, -, hlist⟩ := Option.bind_eq_some_iff.1 hlist
      obtain ⟨org, -, hlist⟩ := Option.bind_eq_some_iff.1 hlist
      obtain rfl := Option.some.inj hlist
      obtain ⟨managed, -, hr⟩ := bind_eq_ok.1 hr
      obtain rfl := Except.ok.inj hr
      trivial

theorem IsStorable.source {inv : Inventory} (h : inv.IsStorable) (k : Kind) :
    (inv.source k).IsTyped := by
  intro number after size page hpage r hr
  have hrows := mapM_eq_ok.1 hpage
  have hmem : Except.ok r ∈ page.map (Except.ok (ε := Error)) := List.mem_map_of_mem hr
  rw [← hrows] at hmem
  obtain ⟨listed, hlisted, hrow⟩ := List.mem_map.1 hmem
  have hrest := (Page.slice_sublist 0 size _).subset hlisted
  refine h.fits (k := k) ?_ hrow
  cases after with
  | none => exact hrest
  | some c => exact (List.mem_filter.1 hrest).1

end Inventory

/-! ## Operations -/

namespace Snapshot

variable (g : GenerationSettings) (now : Int) {source : Source} {l : Ledger}
  {snapshot : Snapshot} {s : Snapshots}

theorem generate_isTallied (h : s.IsTallied) (htyped : source.IsTyped) {u : Snapshots}
    (hu : generate g source now l snapshot s = .ok u) : u.IsTallied := by
  obtain ⟨checkpoint, rows, -, hwalk, -, ⟨r, hr, hid, hopen⟩, hdistinct, rfl⟩ :=
    generate_eq_ok g now hu
  have hfit : ∀ r ∈ rows, r.item.Fits := by
    have := htyped.walkFrom (max g.fetchBatchSize 1) source.maxPages 0 none
    rwa [show source.walkFrom _ _ 0 none = ⟨rows, none⟩ from hwalk] at this
  refine h.generated hr hid hopen ?_
  have htally := Snapshots.tallies_completed hfit
    (hdistinct.imp SnapshotChunk.apart_of_not_collides) snapshot.id now checkpoint
    source.tracksParents r
  rwa [List.map_map]

/-- Whatever the source does, populating a snapshot leaves the store tallied. -/
theorem populate_isTallied (h : s.IsTallied) (htyped : source.IsTyped) :
    (snapshot.populate g source now l s).store.IsTallied := by
  rcases populate_store g now l source snapshot s with hsame | hu
  · rw [hsame]
    exact h
  · exact generate_isTallied g now h htyped hu

end Snapshot

namespace Database

theorem onSnapshots_snapshots {α : Type} {P : Snapshots → Prop}
    {f : Snapshots → Except Error (α × Snapshots)} {db : Database} (h : P db.snapshots)
    (hf : ∀ a t, f db.snapshots = .ok (a, t) → P t) :
    P (db.onSnapshots f).2.snapshots := by
  unfold onSnapshots onTables
  split
  · unfold attempt
    cases hrun : f db.snapshots with
    | error e =>
        simp only [hrun]
        exact h
    | ok p =>
        simp only [hrun]
        exact hf p.1 p.2 hrun
  · exact h

/-- The databases that requests, generations, deletions and clean-ups of snapshots lead
to, in any order and successful or not. A snapshot may be populated from any source
and by any value that claims to be it. Everything that is not a snapshot may change in
any way in between. -/
inductive Reachable : Database → Prop where
  | start {db : Database} (h : db.snapshots = .empty) : Reachable db
  | elsewhere {db db' : Database} (h : Reachable db) (hsame : db'.snapshots = db.snapshots) :
      Reachable db'
  | request {db : Database} (h : Reachable db) (k : Kind) (now : Int) (fresh : String) :
      Reachable (db.requestSnapshot k now fresh).2
  | populate {db : Database} (h : Reachable db) (g : GenerationSettings) (source : Source)
      (now : Int) (snapshot : Snapshot) (htyped : source.IsTyped) :
      Reachable (db.populate g source now snapshot).2.2
  | generate {db : Database} (h : Reachable db) (g : GenerationSettings) (now : Int)
      (job : GenerationJob) (hstorable : db.inventory.IsStorable) :
      Reachable (job.perform g now db).2.2
  | delete {db : Database} (h : Reachable db) (guid : String) :
      Reachable (db.onSnapshots fun s => .ok (s.delete guid)).2
  | cleanup {db : Database} (h : Reachable db) (c : SnapshotCleanup) (now : Int) :
      Reachable (db.cleanup c now).2

theorem source_isTyped {db : Database} (h : db.inventory.IsStorable) (k : Kind) :
    (db.source k).IsTyped := by
  unfold source
  split
  · exact h.source k
  · intro number after size page hpage
    cases hpage

theorem Reachable.isTallied {db : Database} (h : db.Reachable) : db.snapshots.IsTallied := by
  induction h with
  | start hempty =>
      rw [hempty]
      exact Snapshots.IsTallied.empty
  | elsewhere _ hsame ih =>
      rw [hsame]
      exact ih
  | request _ k now fresh ih =>
      exact onSnapshots_snapshots ih fun _ _ hreq => ih.request hreq
  | populate _ g source now snapshot htyped ih =>
      exact Snapshot.populate_isTallied g now ih htyped
  | @generate db _ g now job hstorable ih =>
      unfold GenerationJob.perform generateSnapshot
      split
      · exact ih
      · exact Snapshot.populate_isTallied g now ih (source_isTyped hstorable _)
  | delete _ guid ih =>
      refine onSnapshots_snapshots ih fun n t ht => ?_
      obtain ⟨-, rfl⟩ := Prod.mk.inj (Except.ok.inj ht)
      exact ih.deleteWhere _
  | cleanup _ c now ih =>
      refine onSnapshots_snapshots ih fun report t ht => ?_
      obtain ⟨-, rfl⟩ := Prod.mk.inj (Except.ok.inj ht)
      exact (ih.deleteWhere _).deleteWhere _

/-- However the snapshots came about, at most one of a kind is still processing. One
that is has no chunks, no counts and no checkpoint. The others count what they hold:
their chunks, the spaces of these and the items in them, as words; no chunk is empty,
and those of a space are numbered from zero up. Every chunk belongs to a snapshot. -/
theorem Reachable.snapshots_count_chunks {db : Database} (h : db.Reachable) :
    (∀ k, (db.snapshots.rows.filter fun r => r.kind = k && r.isProcessing).length ≤ 1) ∧
    (∀ r ∈ db.snapshots.rows, r.isProcessing = true →
      db.snapshots.own r.id = [] ∧ r.toSnapshot.summary = ⟨0, 0, 0, none, 0, 0⟩ ∧
        r.checkpoint = none ∧ r.checkpointAt = none) ∧
    (∀ r ∈ db.snapshots.rows, r.isProcessing = false →
      r.Tallies (db.snapshots.own r.id) ∧
        (((db.snapshots.own r.id).flatMap (·.contents)).length ≤ Word.max →
          r.toSnapshot.summary.chunks = (db.snapshots.own r.id).length ∧
          r.toSnapshot.summary.spaces =
            ((db.snapshots.own r.id).map (·.space)).toFinset.card ∧
          r.toSnapshot.summary.resources =
            ((db.snapshots.own r.id).flatMap (·.contents)).length)) ∧
    ∀ c ∈ db.snapshots.chunks, ∃ r ∈ db.snapshots.rows, r.id = c.snapshot := by
  have htallied := h.isTallied
  refine ⟨fun k => ?_, fun r hr hopen => ?_, fun r hr hdone => ?_, fun c hc => ?_⟩
  · rw [← List.countP_eq_length_filter]
    exact htallied.single k
  · refine ⟨htallied.toIsKept.own_eq_nil hr hopen, ?_⟩
    rw [htallied.blank r hr hopen]
    exact ⟨rfl, rfl, rfl⟩
  · have htally := htallied.tallied r hr hdone
    exact ⟨htally, htally.summary⟩
  · obtain ⟨r, hr, hid, -⟩ := htallied.complete c hc
    exact ⟨r, hr, hid⟩

/-- A service instance in a space. -/
def instanceIn (space : String) (id : Int) (guid : String) : ActiveResource :=
  ⟨id, guid, none, some space, none, some "org", none, 1,
    .service ⟨guid, guid, "managed", none, none, none, none, none, none⟩⟩

/-- A source that returns to a space that it has left. -/
def wandering : Source :=
  .ofRows false [instanceIn "there" 1 "a", instanceIn "here" 2 "b", instanceIn "there" 3 "c"]
    none (.runtime "lost")

/-- The same instances, with those of a space together. -/
def gathered : Source :=
  .ofRows false [instanceIn "there" 1 "a", instanceIn "there" 3 "c", instanceIn "here" 2 "b"]
    none (.runtime "lost")

/-- A snapshot is requested, populated in vain, and populated. -/
def settled : Database :=
  let first := (SnapshotRow.placeholder 1 "first" .service 10).toSnapshot
  let db := ({ empty with installed := true }.requestSnapshot .service 10 "first").2
  let db := (db.populate ⟨1, 1, 1⟩ wandering 20 first).2.2
  (db.populate ⟨1, 1, 1⟩ gathered 30 first).2.2

/-- The snapshot counts the chunks of the second attempt, and the first left none. -/
theorem settled_counts_chunks :
    settled.snapshots.rows.map (fun r => (r.isProcessing, r.chunks, r.spaces)) =
      [(false, 3, 2)] ∧
    settled.snapshots.chunks.map (fun c => (c.space, c.index)) =
      [("there", 0), ("there", 1), ("here", 0)] ∧
    ∀ r ∈ settled.snapshots.rows, r.Tallies (settled.snapshots.own r.id) := by
  have hrows : settled.snapshots.rows.map (fun r => (r.isProcessing, r.chunks, r.spaces)) =
      [(false, 3, 2)] := by decide +kernel
  have hwandering : wandering.IsTyped :=
    Source.isTyped_ofRows (by simp [instanceIn, UsageItem.Fits]) _ _ _
  have hgathered : gathered.IsTyped :=
    Source.isTyped_ofRows (by simp [instanceIn, UsageItem.Fits]) _ _ _
  have hreached : settled.Reachable :=
    .populate (.populate (.request (.start rfl) ..) _ _ _ _ hwandering) _ _ _ _ hgathered
  refine ⟨hrows, by decide +kernel, fun r hr => ?_⟩
  have hdone : r.isProcessing = false := by
    have := List.mem_map_of_mem (f := fun r => (r.isProcessing, r.chunks, r.spaces)) hr
    rw [hrows, List.mem_singleton] at this
    exact congrArg Prod.fst this
  exact (hreached.snapshots_count_chunks.2.2.1 r hr hdone).1

end Database

end Metering
