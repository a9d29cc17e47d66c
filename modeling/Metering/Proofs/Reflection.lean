import Metering.Proofs.Calls

/-!
# Stores that differ in what does not matter

Take a store that both kinds use, and another that only one of them uses, in the same
way. The first gives out identifiers to snapshots of either kind, so that those of the
one kind are not the same in both; the rest is. `Snapshots.Reflects` says so, with the
map that takes the identifiers of the second store to those of the first. The map rises,
since pages put snapshots that were requested at the same moment in the order of their
identifiers, and it says nothing about the snapshots of the other kind but that it leaves
them out.

What is done to the snapshots of the kind has the same outcome in both stores and leaves
them as alike as they were (`Reflects.request`, `Reflects.deleteWhere`,
`Reflects.populate`). A turn of the other kind leaves them alike by changing one store
alone (`Reflects.of_turn`).
-/

namespace Metering

/-! ## Renaming -/

def SnapshotRow.renamed (ρ : Int → Int) (r : SnapshotRow) : SnapshotRow := { r with id := ρ r.id }

def Snapshot.renamed (ρ : Int → Int) (v : Snapshot) : Snapshot := { v with id := ρ v.id }

def StoredChunk.renamed (ρ : Int → Int) (c : StoredChunk) : StoredChunk :=
  { c with snapshot := ρ c.snapshot }

@[simp] theorem Snapshot.toJson_renamed (ρ : Int → Int) (v : Snapshot) :
    (v.renamed ρ).toJson = v.toJson := rfl

@[simp] theorem StoredChunk.decode_renamed (ρ : Int → Int) (c : StoredChunk) :
    (c.renamed ρ).decode = c.decode := rfl

theorem SnapshotRow.renamed_congr {ρ σ : Int → Int} {r : SnapshotRow} (h : ρ r.id = σ r.id) :
    r.renamed ρ = r.renamed σ := by
  unfold renamed
  rw [h]

theorem Snapshot.renamed_congr {ρ σ : Int → Int} {v : Snapshot} (h : ρ v.id = σ v.id) :
    v.renamed ρ = v.renamed σ := by
  unfold renamed
  rw [h]

theorem StoredChunk.renamed_congr {ρ σ : Int → Int} {c : StoredChunk}
    (h : ρ c.snapshot = σ c.snapshot) : c.renamed ρ = c.renamed σ := by
  unfold renamed
  rw [h]

/-! ## Cutting does not look at the sink -/

namespace Chunking

variable {σ τ : Type} {R : σ → τ → Prop} {a : Sink σ} {b : Sink τ}

/-- Two sinks answer alike in states that are alike, and leave them alike. -/
def Sink.Agree (R : σ → τ → Prop) (a : Sink σ) (b : Sink τ) : Prop :=
  ∀ batch s t, R s t → (a batch s).1 = (b batch t).1 ∧ R (a batch s).2 (b batch t).2

theorem deliver_agree (h : Sink.Agree R a b) (batches : List Batch) {s : σ} {t : τ}
    (hR : R s t) :
    (deliver a batches s).1 = (deliver b batches t).1 ∧
      R (deliver a batches s).2 (deliver b batches t).2 := by
  induction batches generalizing s t with
  | nil => exact ⟨rfl, hR⟩
  | cons batch batches ih =>
      obtain ⟨hanswer, hnext⟩ := h batch s t hR
      rcases hs : a batch s with ⟨answer, s'⟩
      rcases ht : b batch t with ⟨answer', t'⟩
      rw [hs, ht] at hanswer hnext
      obtain rfl : answer = answer' := hanswer
      simp only [deliver, hs, ht]
      cases answer with
      | error e => exact ⟨rfl, hnext⟩
      | ok u => exact ih hnext

theorem pushAll_agree (h : Sink.Agree R a b) (l : ChunkLimits) (rows : List ActiveResource)
    (n : Nat) (c : Chunking) {s : σ} {t : τ} (hR : R s t) :
    (pushAll l a rows n c s).state = (pushAll l b rows n c t).state ∧
      R (pushAll l a rows n c s).sink (pushAll l b rows n c t).sink := by
  induction rows generalizing n c s t with
  | nil => exact ⟨rfl, hR⟩
  | cons r rows ih =>
      obtain ⟨hanswer, hnext⟩ := deliver_agree h (c.push l r).2 hR
      rcases hs : deliver a (c.push l r).2 s with ⟨answer, s'⟩
      rcases ht : deliver b (c.push l r).2 t with ⟨answer', t'⟩
      rw [hs, ht] at hanswer hnext
      obtain rfl : answer = answer' := hanswer
      simp only [pushAll, hs, ht]
      cases answer with
      | error e => exact ⟨rfl, hnext⟩
      | ok u =>
          cases (c.push l r).1 with
          | error e => exact ⟨rfl, hnext⟩
          | ok d => exact ih (n + 1) d hnext

/-- The same walk comes to the same with sinks that agree. -/
theorem run_agree (h : Sink.Agree R a b) (l : ChunkLimits) (w : Walk) {s : σ} {t : τ}
    (hR : R s t) :
    (run l a w s).totals = (run l b w t).totals ∧
      R (run l a w s).sink (run l b w t).sink := by
  obtain ⟨hstate, hsink⟩ := pushAll_agree h l w.rows 0 start hR
  rcases hs : pushAll l a w.rows 0 start s with ⟨n, state, s'⟩
  rcases ht : pushAll l b w.rows 0 start t with ⟨m, state', t'⟩
  rw [hs, ht] at hstate hsink
  obtain rfl : state = state' := hstate
  simp only [run, hs, ht]
  cases state with
  | error e => exact ⟨rfl, hsink⟩
  | ok c =>
      cases w.failure with
      | some e => exact ⟨rfl, hsink⟩
      | none =>
          obtain ⟨hanswer, hend⟩ := deliver_agree h (c.finish l).2 hsink
          rcases hu : deliver a (c.finish l).2 s' with ⟨answer, u⟩
          rcases hv : deliver b (c.finish l).2 t' with ⟨answer', v⟩
          rw [hu, hv] at hanswer hend
          obtain rfl : answer = answer' := hanswer
          simp only [hu, hv]
          cases answer <;> exact ⟨rfl, hend⟩

end Chunking

namespace Snapshots

/-- A store that both kinds use is, for one of them, the same as a store that it has for
itself, with identifiers of its own. -/
structure Reflects (k : Kind) (ρ : Int → Int) (s t : Snapshots) : Prop where
  rising : ∀ i j, i < j → j ≤ t.issued → ρ i < ρ j
  given : ∀ i ≤ t.issued, ρ i ≤ s.issued
  known : ∀ r ∈ t.rows, r.id ≤ t.issued
  rows : s.rows.filter (·.kind = k) = t.rows.map (·.renamed ρ)
  apart : ∀ r ∈ s.rows, r.kind ≠ k → ∀ i ≤ t.issued, r.id ≠ ρ i
  own : ∀ i ≤ t.issued, s.own (ρ i) = (t.own i).map (·.renamed ρ)

namespace Reflects

variable {k : Kind} {ρ : Int → Int} {s t : Snapshots}

theorem refl_empty (k : Kind) : Reflects k id empty empty where
  rising _ _ hlt _ := hlt
  given _ hi := hi
  known _ hr := absurd hr List.not_mem_nil
  rows := rfl
  apart _ hr := absurd hr List.not_mem_nil
  own _ _ := rfl

theorem id_le (h : Reflects k ρ s t) {i j : Int} (hi : i ≤ t.issued) (hj : j ≤ t.issued) :
    ρ i ≤ ρ j ↔ i ≤ j := by
  constructor
  · intro hle
    by_contra hlt
    have := h.rising j i (by omega) hi
    omega
  · intro hle
    rcases Int.lt_or_eq_of_le hle with hlt | rfl
    · exact Int.le_of_lt (h.rising i j hlt hj)
    · exact Int.le_refl _

theorem id_inj (h : Reflects k ρ s t) {i j : Int} (hi : i ≤ t.issued) (hj : j ≤ t.issued) :
    ρ i = ρ j ↔ i = j := by
  have hij := h.id_le hi hj
  have hji := h.id_le hj hi
  omega

theorem kind_eq (h : Reflects k ρ s t) {r : SnapshotRow} (hr : r ∈ t.rows) : r.kind = k := by
  have hmem : r.renamed ρ ∈ s.rows.filter (·.kind = k) := by
    rw [h.rows]
    exact List.mem_map_of_mem hr
  exact of_decide_eq_true (List.mem_filter.1 hmem).2

/-! ### Reading

What is read of the kind is chosen by kind, guid or identifier. Each choice finds rows of
the kind alone, and the same ones in both stores, so `filter` answers for all of them. -/

theorem filter (h : Reflects k ρ s t) {p q : SnapshotRow → Bool}
    (hp : ∀ r ∈ s.rows, p r = true → r.kind = k)
    (hq : ∀ r ∈ t.rows, p (r.renamed ρ) = q r) :
    s.rows.filter p = (t.rows.filter q).map (·.renamed ρ) := by
  have hkind : s.rows.filter p = (s.rows.filter (·.kind = k)).filter p := by
    rw [List.filter_filter]
    refine List.filter_congr fun r hr => ?_
    cases hpr : p r with
    | false => rfl
    | true => simp [hp r hr hpr]
  rw [hkind, h.rows, List.filter_map]
  exact congrArg _ (List.filter_congr hq)

theorem find? (h : Reflects k ρ s t) {p q : SnapshotRow → Bool}
    (hp : ∀ r ∈ s.rows, p r = true → r.kind = k)
    (hq : ∀ r ∈ t.rows, p (r.renamed ρ) = q r) :
    s.rows.find? p = (t.rows.find? q).map (·.renamed ρ) := by
  rw [← List.head?_filter, ← List.head?_filter, h.filter hp hq, List.head?_map]

theorem any (h : Reflects k ρ s t) {p q : SnapshotRow → Bool}
    (hp : ∀ r ∈ s.rows, p r = true → r.kind = k)
    (hq : ∀ r ∈ t.rows, p (r.renamed ρ) = q r) : s.rows.any p = t.rows.any q := by
  rw [← List.isSome_find?, ← List.isSome_find?, h.find? hp hq, Option.isSome_map]

theorem kind_of_id (h : Reflects k ρ s t) {i : Int} (hi : i ≤ t.issued) {r : SnapshotRow}
    (hr : r ∈ s.rows) (hid : r.id = ρ i) : r.kind = k := by
  by_contra hne
  exact h.apart r hr hne i hi hid

theorem row? (h : Reflects k ρ s t) {guid : String}
    (hguid : ∀ r ∈ s.rows, r.guid = guid → r.kind = k) :
    s.row? guid = (t.row? guid).map (·.renamed ρ) :=
  h.find? (fun r hr hg => hguid r hr (of_decide_eq_true hg)) fun _ _ => rfl

theorem get (h : Reflects k ρ s t) {guid : String}
    (hguid : ∀ r ∈ s.rows, r.guid = guid → r.kind = k) :
    s.get guid = (t.get guid).map (Snapshot.renamed ρ) := by
  unfold Snapshots.get Snapshots.find?
  rw [h.row? hguid]
  cases t.row? guid <;> rfl

theorem inProgress? (h : Reflects k ρ s t) :
    s.inProgress? k = (t.inProgress? k).map (Snapshot.renamed ρ) := by
  unfold Snapshots.inProgress?
  rw [h.find? (fun r _ hp => by simp at hp; exact hp.1) fun _ _ => rfl, Option.map_map,
    Option.map_map]
  rfl

theorem list (h : Reflects k ρ s t) (offset limit : Nat) :
    s.list (some k) offset limit = (t.list (some k) offset limit).map (Snapshot.renamed ρ) := by
  have hprecedes : ∀ a ∈ t.rows.filter (fun r => (some k).all (r.kind = ·)),
      ∀ b ∈ t.rows.filter (fun r => (some k).all (r.kind = ·)),
      precedes a b = precedes (a.renamed ρ) (b.renamed ρ) := by
    intro a ha b hb
    have hle := h.id_le (h.known b (List.mem_filter.1 hb).1) (h.known a (List.mem_filter.1 ha).1)
    unfold precedes
    exact congrArg _ (congrArg _ (decide_eq_decide.2 hle.symm))
  unfold Snapshots.list
  simp only []
  rw [h.filter (q := fun r => (some k).all (r.kind = ·)) (fun r _ hp => by simpa using hp)
      fun _ _ => rfl, ← List.map_mergeSort hprecedes, Page.slice_map, List.map_map, List.map_map]
  rfl

theorem chunksOf (h : Reflects k ρ s t) {i : Int} (hi : i ≤ t.issued) :
    s.chunksOf (ρ i) = (t.chunksOf i).map (·.renamed ρ) := by
  have hprecedes : ∀ a ∈ t.own i, ∀ b ∈ t.own i,
      a.precedes b = (a.renamed ρ).precedes (b.renamed ρ) := fun _ _ _ _ => rfl
  show (s.own (ρ i)).mergeSort StoredChunk.precedes =
    ((t.own i).mergeSort StoredChunk.precedes).map (·.renamed ρ)
  rw [h.own i hi, List.map_mergeSort hprecedes]

theorem chunksPage (h : Reflects k ρ s t) {v : Snapshot} (hv : v.id ≤ t.issued)
    (offset limit : Nat) :
    s.chunksPage (v.renamed ρ) offset limit = t.chunksPage v offset limit := by
  have hchunks : s.chunksOf (v.renamed ρ).id = (t.chunksOf v.id).map (·.renamed ρ) :=
    h.chunksOf hv
  have hdecode : ∀ cs : List StoredChunk,
      (cs.map (·.renamed ρ)).mapM StoredChunk.decode = cs.mapM StoredChunk.decode := by
    intro cs
    rw [List.mapM_map]
    exact congrArg (cs.mapM ·) (funext (StoredChunk.decode_renamed ρ))
  unfold Snapshots.chunksPage
  simp only [hchunks, Page.slice_map, hdecode, List.length_map]
  rfl

/-! ### Deleting

With a snapshot go its chunks, and these are found by the identifier, so the other store
loses the same. -/

theorem any_id (h : Reflects k ρ s t) {i : Int} (hi : i ≤ t.issued) {p : SnapshotRow → Bool}
    (hp : ∀ r ∈ t.rows, p (r.renamed ρ) = p r) :
    (s.rows.any fun r => r.id = ρ i && p r) = t.rows.any fun r => r.id = i && p r := by
  refine h.any (fun r hr hpr => ?_) fun r hr => ?_
  · rw [Bool.and_eq_true, decide_eq_true_eq] at hpr
    exact h.kind_of_id hi hr hpr.1
  · rw [hp r hr]
    exact congrArg (· && p r) (decide_eq_decide.2 (h.id_inj (h.known r hr) hi))

theorem deleteWhere (h : Reflects k ρ s t) (doomed : SnapshotRow → Bool)
    (hkind : ∀ r ∈ s.rows, doomed r = true → r.kind = k)
    (hsame : ∀ r ∈ t.rows, doomed (r.renamed ρ) = doomed r) :
    (s.deleteWhere doomed).1 = (t.deleteWhere doomed).1 ∧
      Reflects k ρ (s.deleteWhere doomed).2 (t.deleteWhere doomed).2 := by
  refine ⟨?_, h.rising, h.given, fun r hr => h.known r (List.mem_filter.1 hr).1, ?_,
    fun r hr => h.apart r (List.mem_filter.1 hr).1, fun i hi => ?_⟩
  · show (s.rows.filter doomed).length = (t.rows.filter doomed).length
    rw [h.filter hkind hsame, List.length_map]
  · show (s.rows.filter fun r => ! doomed r).filter (·.kind = k) =
      (t.rows.filter fun r => ! doomed r).map (·.renamed ρ)
    rw [List.filter_filter]
    refine h.filter (fun r _ hr => ?_) fun r hr => ?_
    · rw [Bool.and_eq_true, decide_eq_true_eq] at hr
      exact hr.1
    · have hk : r.kind = k := h.kind_eq hr
      rw [hsame r hr, decide_eq_true (p := (r.renamed ρ).kind = k) hk, Bool.true_and]
  · rw [own_deleteWhere, own_deleteWhere, h.any_id hi hsame]
    split
    · rfl
    · exact h.own i hi

theorem delete (h : Reflects k ρ s t) {guid : String}
    (hguid : ∀ r ∈ s.rows, r.guid = guid → r.kind = k) :
    (s.delete guid).1 = (t.delete guid).1 ∧
      Reflects k ρ (s.delete guid).2 (t.delete guid).2 := by
  obtain ⟨hcount, hnext⟩ := h.deleteWhere (·.guid = guid)
    (fun r hr hdoomed => hguid r hr (of_decide_eq_true hdoomed)) fun _ _ => rfl
  exact ⟨congrArg (fun n => decide (0 < n)) hcount, hnext⟩

theorem cleanup (h : Reflects k ρ s t) (days minutes : Nat) (now : Int) :
    (SnapshotCleanup.perform ⟨k, days, minutes⟩ now s).1 =
        (SnapshotCleanup.perform ⟨k, days, minutes⟩ now t).1 ∧
      Reflects k ρ (SnapshotCleanup.perform ⟨k, days, minutes⟩ now s).2
        (SnapshotCleanup.perform ⟨k, days, minutes⟩ now t).2 := by
  have hkind : ∀ (r : SnapshotRow) (a b : Bool), (r.kind = k && a && b) = true → r.kind = k := by
    intro r a b hdoomed
    rw [Bool.and_eq_true, Bool.and_eq_true, decide_eq_true_eq] at hdoomed
    exact hdoomed.1.1
  obtain ⟨hcompleted, hmiddle⟩ := h.deleteWhere
    (fun r => r.kind = k && ! r.isProcessing && r.createdAt < Time.daysBefore now days)
    (fun r _ => hkind r _ _) fun _ _ => rfl
  obtain ⟨hstale, hnext⟩ := hmiddle.deleteWhere
    (fun r => r.kind = k && r.isProcessing && r.createdAt < Time.minutesBefore now minutes)
    (fun r _ => hkind r _ _) fun _ _ => rfl
  exact ⟨congrArg₂ SnapshotCleanupReport.mk hcompleted hstale, hnext⟩

end Reflects

/-! ### Generating

Chunk by chunk, each is refused or taken in both stores for the same reason: whether its
place is free is a matter of the chunks of its own snapshot. The totals do not depend on
the sink at all. -/

theorem any_collides_own (c : StoredChunk) (s : Snapshots) :
    s.chunks.any (·.collides c) = (s.own c.snapshot).any (·.collides c) := by
  unfold own
  rw [List.any_filter]
  refine congrArg s.chunks.any (funext fun x => ?_)
  unfold StoredChunk.collides
  cases decide (x.snapshot = c.snapshot) <;> rfl

theorem own_append (c : StoredChunk) (id : Int) (s : Snapshots) :
    own id { s with chunks := s.chunks ++ [c] } =
      s.own id ++ if c.snapshot = id then [c] else [] := by
  unfold own
  rw [List.filter_append, List.filter_singleton]
  by_cases hown : c.snapshot = id <;> simp [hown]

namespace Reflects

variable {k : Kind} {ρ : Int → Int} {s t : Snapshots}

theorem any_collides (h : Reflects k ρ s t) {c : StoredChunk} (hc : c.snapshot ≤ t.issued) :
    s.chunks.any (·.collides (c.renamed ρ)) = t.chunks.any (·.collides c) := by
  rw [any_collides_own, any_collides_own, show (c.renamed ρ).snapshot = ρ c.snapshot from rfl,
    h.own _ hc, List.any_map, Bool.eq_iff_iff, List.any_eq_true, List.any_eq_true]
  refine exists_congr fun x => and_congr_right fun hx => Eq.congr_left ?_
  have hid := mem_own hx
  show (decide (ρ x.snapshot = ρ c.snapshot) && _ && _) =
    (decide (x.snapshot = c.snapshot) && _ && _)
  rw [decide_eq_true hid, decide_eq_true (congrArg ρ hid)]
  rfl

theorem insertChunk (h : Reflects k ρ s t) {c : StoredChunk} (hc : c.snapshot ≤ t.issued) :
    (∃ e, s.insertChunk (c.renamed ρ) = .error e ∧ t.insertChunk c = .error e) ∨
    ∃ u v, s.insertChunk (c.renamed ρ) = .ok u ∧ t.insertChunk c = .ok v ∧
      Reflects k ρ u v ∧ v.issued = t.issued := by
  have hthere : s.rows.any (·.id = (c.renamed ρ).snapshot) = t.rows.any (·.id = c.snapshot) := by
    have hid := h.any_id hc (p := fun _ => true) fun _ _ => rfl
    simp only [Bool.and_true] at hid
    exact hid
  unfold Snapshots.insertChunk
  rw [h.any_collides hc, hthere]
  split
  · exact Or.inl ⟨_, rfl, rfl⟩
  · split
    · refine Or.inr ⟨_, _, rfl, rfl, ?_, rfl⟩
      refine ⟨h.rising, h.given, h.known, h.rows, h.apart, fun i hi => ?_⟩
      rw [own_append, own_append, List.map_append, h.own i hi]
      have hid : (c.renamed ρ).snapshot = ρ i ↔ c.snapshot = i := h.id_inj hc hi
      by_cases hown : c.snapshot = i
      · rw [if_pos hown, if_pos (hid.2 hown)]
        rfl
      · rw [if_neg hown, if_neg fun heq => hown (hid.1 heq)]
        rfl
    · exact Or.inl ⟨_, rfl, rfl⟩

theorem insertChunks_agree {i : Int} :
    Chunking.Sink.Agree (fun s t => Reflects k ρ s t ∧ i ≤ t.issued)
      (insertChunks (ρ i)) (insertChunks i) := by
  intro batch
  induction batch with
  | nil => exact fun s t h => ⟨rfl, h⟩
  | cons c batch ih =>
      intro s t ⟨h, hi⟩
      have hc : (StoredChunk.ofPending i c).snapshot ≤ t.issued := hi
      have hrenamed : StoredChunk.ofPending (ρ i) c = (StoredChunk.ofPending i c).renamed ρ := rfl
      unfold insertChunks
      rw [hrenamed]
      rcases h.insertChunk hc with ⟨e, hs, ht⟩ | ⟨u, v, hs, ht, hnext, hissued⟩
      · rw [hs, ht]
        exact ⟨rfl, h, hi⟩
      · rw [hs, ht]
        exact ih u v ⟨hnext, hissued ▸ hi⟩

section Completing

variable {now : Int} {checkpoint : Option Event} {totals : Totals} {tracksParents : Bool}

theorem close_of_not_open {id : Int} {r : SnapshotRow}
    (h : ¬ (r.id = id ∧ r.isProcessing = true)) :
    close now id checkpoint totals tracksParents r = r :=
  if_neg (by simpa using h)

theorem close_renamed (h : Reflects k ρ s t) {i : Int} (hi : i ≤ t.issued) {r : SnapshotRow}
    (hr : r ∈ t.rows) :
    close now (ρ i) checkpoint totals tracksParents (r.renamed ρ) =
      (close now i checkpoint totals tracksParents r).renamed ρ := by
  have hid : (r.renamed ρ).id = ρ i ↔ r.id = i := h.id_inj (h.known r hr) hi
  by_cases hopen : r.id = i ∧ r.isProcessing = true
  · rw [close_of_open hopen.1 hopen.2, close_of_open (hid.2 hopen.1) hopen.2]
    simp only [completed, SnapshotRow.renamed]
  · rw [close_of_not_open hopen, close_of_not_open fun heq => hopen ⟨hid.1 heq.1, heq.2⟩]

theorem filter_map_close (id : Int) (rows : List SnapshotRow) :
    (rows.map (close now id checkpoint totals tracksParents)).filter (·.kind = k) =
      (rows.filter (·.kind = k)).map (close now id checkpoint totals tracksParents) := by
  rw [List.filter_map]
  refine congrArg _ (List.filter_congr fun r _ => ?_)
  rw [Function.comp_apply, kind_close]

theorem complete (h : Reflects k ρ s t) {v : Snapshot} (hv : v.id ≤ t.issued) :
    (∃ e, s.complete now (v.renamed ρ) checkpoint totals tracksParents = .error e ∧
      t.complete now v checkpoint totals tracksParents = .error e) ∨
    ∃ u w, s.complete now (v.renamed ρ) checkpoint totals tracksParents = .ok u ∧
      t.complete now v checkpoint totals tracksParents = .ok w ∧ Reflects k ρ u w := by
  have hany : (s.rows.any fun r => r.id = (v.renamed ρ).id && r.isProcessing) =
      t.rows.any fun r => r.id = v.id && r.isProcessing := h.any_id hv fun _ _ => rfl
  unfold Snapshots.complete
  simp only [hany]
  split
  · refine Or.inr ⟨_, _, rfl, rfl, h.rising, h.given, fun r hr => ?_, ?_, fun r hr hk => ?_,
      h.own⟩
    · obtain ⟨old, hold, rfl⟩ := List.mem_map.1 hr
      have hid : (close now v.id checkpoint totals tracksParents old).id = old.id := id_close old
      exact Int.le_trans (Int.le_of_eq hid) (h.known old hold)
    · show (s.rows.map (close now (ρ v.id) checkpoint totals tracksParents)).filter
        (·.kind = k) = (t.rows.map (close now v.id checkpoint totals tracksParents)).map _
      rw [filter_map_close, h.rows, List.map_map, List.map_map]
      exact List.map_congr_left fun r hr => h.close_renamed hv hr
    · obtain ⟨old, hold, rfl⟩ := List.mem_map.1 hr
      have hkind : (close now (ρ v.id) checkpoint totals tracksParents old).kind ≠ k := hk
      have hid : (close now (ρ v.id) checkpoint totals tracksParents old).id = old.id :=
        id_close old
      rw [kind_close] at hkind
      exact fun i hi heq => h.apart old hold hkind i hi (hid.symm.trans heq)
  · exact Or.inl ⟨_, rfl, rfl⟩

end Completing

theorem generate (h : Reflects k ρ s t) {v : Snapshot} (hv : v.id ≤ t.issued)
    (g : GenerationSettings) (source : Source) (now : Int) (l : Ledger) :
    (∃ e, (v.renamed ρ).generate g source now l s = .error e ∧
      v.generate g source now l t = .error e) ∨
    ∃ u w, (v.renamed ρ).generate g source now l s = .ok u ∧
      v.generate g source now l t = .ok w ∧ Reflects k ρ u w := by
  obtain ⟨htotals, hsink, hissued⟩ := Chunking.run_agree insertChunks_agree g.limits
    (source.walk g.fetchBatchSize) (⟨h, hv⟩ : Reflects k ρ s t ∧ v.id ≤ t.issued)
  unfold Snapshot.generate
  cases l.latest with
  | error e => exact Or.inl ⟨e, rfl, rfl⟩
  | ok checkpoint =>
      simp only [bind, Except.bind]
      rw [show (v.renamed ρ).id = ρ v.id from rfl, htotals]
      split
      · next e _ => exact Or.inl ⟨e, rfl, rfl⟩
      · next totals _ => exact hsink.complete hissued

theorem populate (h : Reflects k ρ s t) {v : Snapshot} (hv : v.id ≤ t.issued)
    (hguid : ∀ r ∈ s.rows, r.guid = v.guid → r.kind = k) (g : GenerationSettings)
    (source : Source) (now : Int) (l : Ledger) :
    ((v.renamed ρ).populate g source now l s).answer =
        (v.populate g source now l t).answer.map (Snapshot.renamed ρ) ∧
      ((v.renamed ρ).populate g source now l s).observation =
        (v.populate g source now l t).observation ∧
      Reflects k ρ ((v.renamed ρ).populate g source now l s).store
        (v.populate g source now l t).store := by
  unfold Snapshot.populate
  rw [show (v.renamed ρ).isComplete = v.isComplete from rfl,
    show (v.renamed ρ).guid = v.guid from rfl, show (v.renamed ρ).kind = v.kind from rfl]
  split
  · exact ⟨rfl, rfl, h⟩
  · rcases h.generate hv g source now l with ⟨e, hs, ht⟩ | ⟨u, w, hs, ht, hnext⟩
    · rw [hs, ht]
      cases e <;> exact ⟨rfl, rfl, h⟩
    · have hguid' : ∀ r ∈ u.rows, r.guid = v.guid → r.kind = k := by
        obtain ⟨checkpoint, rows, -, -, -, -, -, rfl⟩ := Snapshot.generate_eq_ok g now hs
        intro r hr
        obtain ⟨old, hold, rfl⟩ := List.mem_map.1 hr
        rw [guid_close, kind_close]
        exact hguid old hold
      rw [hs, ht]
      simp only [hnext.get hguid']
      cases w.get v.guid <;> exact ⟨rfl, rfl, hnext⟩

/-! ### Requesting

Each store gives out the identifier after its last, and the map takes the one to the
other. -/

/-- The map of identifiers once both stores have given out one more. -/
def extended (ρ : Int → Int) (s t : Snapshots) (i : Int) : Int :=
  if i ≤ t.issued then ρ i else s.issued + 1

theorem extended_old {i : Int} (hi : i ≤ t.issued) : extended ρ s t i = ρ i := if_pos hi

@[simp] theorem extended_new : extended ρ s t (t.issued + 1) = s.issued + 1 :=
  if_neg (by omega)

theorem extended_rising (h : Reflects k ρ s t) (i j : Int) (hlt : i < j)
    (hj : j ≤ t.issued + 1) : extended ρ s t i < extended ρ s t j := by
  have hold : i ≤ t.issued := by omega
  rw [extended_old hold]
  by_cases hnew : j ≤ t.issued
  · rw [extended_old hnew]
    exact h.rising i j hlt hnew
  · have hle := h.given i hold
    rw [show j = t.issued + 1 by omega, extended_new]
    omega

theorem own_of_not_issued {u : Snapshots} (hu : u.IsKept) {id : Int} (hid : u.issued < id) :
    u.own id = [] := by
  refine List.filter_eq_nil_iff.2 fun c hc hown => ?_
  obtain ⟨r, hr, hrid, -⟩ := hu.complete c hc
  have hle := hu.issued r hr
  have hown := of_decide_eq_true hown
  omega

theorem placed (h : Reflects k ρ s t) (hs : s.IsKept) (ht : t.IsKept) (fresh : String)
    (now : Int) :
    Reflects k (extended ρ s t)
      { s with
        rows := s.rows ++ [.placeholder (s.issued + 1) fresh k now]
        issued := s.issued + 1 }
      { t with
        rows := t.rows ++ [.placeholder (t.issued + 1) fresh k now]
        issued := t.issued + 1 } := by
  have hcases : ∀ {i : Int}, i ≤ t.issued + 1 → i ≤ t.issued ∨ i = t.issued + 1 := by omega
  refine ⟨h.extended_rising, fun i hi => ?_, fun r hr => ?_, ?_, fun r hr hk i hi => ?_,
    fun i hi => ?_⟩
  · rcases hcases hi with hi | rfl
    · have hle := h.given i hi
      rw [extended_old hi]
      show ρ i ≤ s.issued + 1
      omega
    · rw [extended_new]
  · show r.id ≤ t.issued + 1
    rcases List.mem_append.1 hr with hr | hr
    · have hle := h.known r hr
      omega
    · rw [List.mem_singleton.1 hr]
      exact Int.le_refl _
  · have hold : t.rows.map (·.renamed (extended ρ s t)) = t.rows.map (·.renamed ρ) :=
      List.map_congr_left fun r hr => SnapshotRow.renamed_congr (extended_old (h.known r hr))
    have hnew : (SnapshotRow.placeholder (t.issued + 1) fresh k now).renamed (extended ρ s t) =
        .placeholder (s.issued + 1) fresh k now := by
      simp only [SnapshotRow.renamed, SnapshotRow.placeholder, extended_new]
    rw [List.filter_append, List.map_append, h.rows, hold, List.map_singleton, hnew]
    simp [SnapshotRow.placeholder]
  · rcases List.mem_append.1 hr with hr | hr
    · rcases hcases hi with hi | rfl
      · rw [extended_old hi]
        exact h.apart r hr hk i hi
      · have hle := hs.issued r hr
        rw [extended_new]
        omega
    · rw [List.mem_singleton.1 hr] at hk
      exact absurd rfl hk
  · rcases hcases hi with hi | rfl
    · rw [extended_old hi]
      refine (h.own i hi).trans (List.map_congr_left fun c hc => ?_)
      refine StoredChunk.renamed_congr ?_
      rw [mem_own hc, extended_old hi]
    · have hsnone : s.own (s.issued + 1) = [] := own_of_not_issued hs (by omega)
      have htnone : t.own (t.issued + 1) = [] := own_of_not_issued ht (by omega)
      rw [extended_new]
      exact hsnone.trans (congrArg (List.map _) htnone).symm

theorem request (h : Reflects k ρ s t) (hs : s.IsKept) (ht : t.IsKept) (now : Int)
    (fresh : String) :
    (∃ e, s.request k now fresh = .error e ∧ t.request k now fresh = .error e) ∨
    ∃ v u w, s.request k now fresh = .ok (v.renamed (extended ρ s t), u) ∧
      t.request k now fresh = .ok (v, w) ∧ Reflects k (extended ρ s t) u w := by
  unfold Snapshots.request
  rw [h.inProgress?, Option.isSome_map]
  split
  · exact Or.inl ⟨_, rfl, rfl⟩
  · refine Or.inr ⟨(SnapshotRow.placeholder (t.issued + 1) fresh k now).toSnapshot, _, _, ?_,
      rfl, h.placed hs ht fresh now⟩
    refine congrArg (fun v => Except.ok (v, _)) ?_
    simp only [Snapshot.renamed, SnapshotRow.toSnapshot, SnapshotRow.placeholder, extended_new]
    rfl

/-! ### The other kind -/

theorem of_turn (h : Reflects k ρ s t) (hs : s.IsKept) {j : Kind} (hj : j ≠ k) {now : Int}
    {held : List Snapshot} {c : SnapshotCall} {u : Snapshots}
    (hturn : SnapshotCall.Turn j now held s c u)
    (hopen : ∀ v, (v ∈ held ∨ c.Mentions v.guid ∧ ∃ r ∈ s.rows, r.toSnapshot = v) →
      ∀ r ∈ s.rows, r.id = v.id → r.kind = j)
    (hdooms : ∀ r ∈ s.rows, c.dooms j now r = true → r.kind = j) :
    Reflects k ρ u t := by
  cases hturn with
  | same => exact h
  | requested fresh _ _ =>
      refine ⟨h.rising, fun i hi => ?_, h.known, ?_, fun r hr hk i hi => ?_, h.own⟩
      · have hle := h.given i hi
        show ρ i ≤ s.issued + 1
        omega
      · rw [List.filter_append, h.rows]
        simp [SnapshotRow.placeholder, hj]
      · rcases List.mem_append.1 hr with hr | hr
        · exact h.apart r hr hk i hi
        · have hle := h.given i hi
          rw [List.mem_singleton.1 hr]
          show s.issued + 1 ≠ ρ i
          omega
  | @generated v hv r hr hid hproc at_ checkpoint totals tracksParents cs =>
      have hkind : r.kind ≠ k := fun heq => hj ((hopen v hv r hr hid).symm.trans heq)
      have hne : ∀ i ≤ t.issued, ρ i ≠ v.id := fun i hi heq =>
        h.apart r hr hkind i hi (hid.trans heq.symm)
      refine ⟨h.rising, h.given, h.known, ?_, fun r' hr' hk i hi => ?_, fun i hi => ?_⟩
      · -- the row that is completed is none of the kind
        show (s.rows.map (close at_ v.id checkpoint totals tracksParents)).filter _ = _
        rw [filter_map_close, ← h.rows]
        refine (List.map_congr_left fun x hx => ?_).trans (List.map_id _)
        obtain ⟨hx, hxk⟩ := List.mem_filter.1 hx
        refine close_of_not_open fun hopen => hkind ?_
        rw [← hs.eq_of_id hx hr (hopen.1.trans hid.symm)]
        exact of_decide_eq_true hxk
      · obtain ⟨old, hold, rfl⟩ := List.mem_map.1 hr'
        rw [kind_close] at hk
        rw [id_close]
        exact h.apart old hold hk i hi
      · rw [own_generated_of_ne (hne i hi)]
        exact h.own i hi
  | deleted =>
      refine ⟨h.rising, h.given, h.known, ?_, fun r hr => h.apart r (List.mem_filter.1 hr).1,
        fun i hi => ?_⟩
      · show (s.rows.filter fun r => ! c.dooms j now r).filter (·.kind = k) = _
        rw [← h.rows, List.filter_filter]
        refine List.filter_congr fun r hr => ?_
        cases hdoomed : c.dooms j now r with
        | false => rw [Bool.not_false, Bool.and_true]
        | true =>
            have hk : r.kind ≠ k := fun heq => hj ((hdooms r hr hdoomed).symm.trans heq)
            simp [hk]
      · rw [own_deleteWhere, if_neg, h.own i hi]
        rw [Bool.not_eq_true, List.any_eq_false]
        intro r hr hboth
        rw [Bool.and_eq_true, decide_eq_true_eq] at hboth
        exact h.apart r hr (fun heq => hj ((hdooms r hr hboth.2).symm.trans heq)) i hi hboth.1

end Reflects

end Snapshots

end Metering
