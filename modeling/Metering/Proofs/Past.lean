import Metering.Proofs.Generating

/-!
# The past of a store

A snapshot that a store once gave out keeps its guid for as long as it exists,
and no later one gets its identifier. This is about everything that may have
been done to the store in between, so it is about `Change`: what the store's own
operations do, and what overwriting its rows and chunks does. Of the snapshots
only their names matter, the identifiers and guids, and `perform_tags` says all
that a change can do to these: it adds one name with a new identifier, or it
leaves some of the names that there were.
-/

namespace Metering

namespace Snapshots

/-- Something that is done to a store. What fails changes nothing, except that the
chunks before one that is refused stay when they are inserted by themselves. -/
inductive Change where
  | request (kind : Kind) (now : Int) (fresh : String)
  | delete (doomed : SnapshotRow → Bool)
  | insert (id : Int) (chunks : List PendingChunk)
  | complete (now : Int) (snapshot : Snapshot) (checkpoint : Option Event) (totals : Totals)
      (tracksParents : Bool)
  | populate (g : GenerationSettings) (source : Source) (now : Int) (l : Ledger)
      (snapshot : Snapshot)
  | overwrite (guid : String) (column : Column) (value : Option Int)
  | overwriteItems (guid items : String)

/-- The store after a change. -/
def Change.perform (s : Snapshots) : Change → Snapshots
  | request kind now fresh =>
    match s.request kind now fresh with
    | .ok (_, t) => t
    | .error _ => s
  | delete doomed => (s.deleteWhere doomed).2
  | insert id chunks => (insertChunks id chunks s).2
  | complete now snapshot checkpoint totals tracksParents =>
    match s.complete now snapshot checkpoint totals tracksParents with
    | .ok t => t
    | .error _ => s
  | populate g source now l snapshot => (snapshot.populate g source now l s).store
  | overwrite guid column value =>
    match s.overwrite guid column value with
    | .ok (_, t) => t
    | .error _ => s
  | overwriteItems guid items => (s.overwriteItems guid items).2

/-- The store that some changes lead to. -/
def performAll (changes : List Change) (s : Snapshots) : Snapshots :=
  changes.foldl Change.perform s

/-- The names of the snapshots: their identifiers and guids. -/
def tags (s : Snapshots) : List (Int × String) :=
  s.rows.map fun r => (r.id, r.guid)

theorem mem_tags {s : Snapshots} {r : SnapshotRow} (hr : r ∈ s.rows) :
    (r.id, r.guid) ∈ s.tags := List.mem_map_of_mem hr

theorem tags_map {f : SnapshotRow → SnapshotRow} (rows : List SnapshotRow)
    (hf : ∀ r, (f r).id = r.id ∧ (f r).guid = r.guid) :
    (rows.map f).map (fun r => (r.id, r.guid)) = rows.map fun r => (r.id, r.guid) := by
  rw [List.map_map]
  exact List.map_congr_left fun r _ => Prod.ext (hf r).1 (hf r).2

theorem insertChunks_rows (id : Int) (cs : List PendingChunk) (s : Snapshots) :
    (insertChunks id cs s).2.rows = s.rows ∧ (insertChunks id cs s).2.issued = s.issued := by
  induction cs generalizing s with
  | nil => exact ⟨rfl, rfl⟩
  | cons c cs ih =>
      rw [insertChunks]
      split
      · next t ht =>
          unfold insertChunk at ht
          split at ht
          · cases ht
          · split at ht
            · obtain rfl := Except.ok.inj ht
              exact ih _
            · cases ht
      · exact ⟨rfl, rfl⟩

theorem Column.set_tag (c : Column) (value : Option Int) (r : SnapshotRow) :
    (c.set value r).id = r.id ∧ (c.set value r).guid = r.guid := by
  cases c <;> exact ⟨rfl, rfl⟩

theorem generated_tags {now id : Int} {checkpoint : Option Event} {totals : Totals}
    {tracksParents : Bool} {cs : List PendingChunk} (s : Snapshots) :
    (s.generated now id checkpoint totals tracksParents cs).tags = s.tags :=
  tags_map s.rows fun r => ⟨id_close r, guid_close r⟩

theorem overwrite_tags {guid : String} {column : Column} {value : Option Int} {n : Nat}
    {s t : Snapshots} (h : s.overwrite guid column value = .ok (n, t)) :
    t.tags = s.tags ∧ t.issued = s.issued := by
  have hset : (s.rows.map fun r => if r.guid = guid then column.set value r else r).map
      (fun r => (r.id, r.guid)) = s.tags :=
    tags_map s.rows fun r => by
      split
      · exact column.set_tag value r
      · exact ⟨rfl, rfl⟩
  unfold Snapshots.overwrite at h
  simp only [] at h
  split at h
  · obtain ⟨-, rfl⟩ := Prod.mk.inj (Except.ok.inj h)
    exact ⟨rfl, rfl⟩
  · split at h
    · cases h
    · split at h
      · cases h
      · obtain ⟨-, rfl⟩ := Prod.mk.inj (Except.ok.inj h)
        exact ⟨hset, rfl⟩

theorem perform_tags (s : Snapshots) (c : Change) :
    (∃ guid, (c.perform s).tags = s.tags ++ [(s.issued + 1, guid)] ∧
      (c.perform s).issued = s.issued + 1) ∨
    ((c.perform s).tags.Sublist s.tags ∧ (c.perform s).issued = s.issued) := by
  have hsame : ∀ {t : Snapshots}, t.tags = s.tags ∧ t.issued = s.issued →
      t.tags.Sublist s.tags ∧ t.issued = s.issued := fun h =>
    ⟨h.1 ▸ List.Sublist.refl _, h.2⟩
  cases c with
  | request kind now fresh =>
      cases hreq : s.request kind now fresh with
      | error e =>
          rw [Change.perform, hreq]
          exact Or.inr (hsame ⟨rfl, rfl⟩)
      | ok p =>
          simp only [Change.perform, hreq]
          unfold Snapshots.request at hreq
          split at hreq
          · cases hreq
          · obtain rfl := Except.ok.inj hreq
            exact Or.inl ⟨fresh, List.map_append, rfl⟩
  | delete doomed => exact Or.inr ⟨List.filter_sublist.map _, rfl⟩
  | insert id chunks =>
      obtain ⟨hrows, hissued⟩ := insertChunks_rows id chunks s
      exact Or.inr (hsame ⟨congrArg (List.map _) hrows, hissued⟩)
  | complete now snapshot checkpoint totals tracksParents =>
      cases hdone : s.complete now snapshot checkpoint totals tracksParents with
      | error e =>
          rw [Change.perform, hdone]
          exact Or.inr (hsame ⟨rfl, rfl⟩)
      | ok t =>
          simp only [Change.perform, hdone]
          obtain ⟨-, rfl⟩ := complete_eq_ok.1 hdone
          exact Or.inr (hsame ⟨tags_map s.rows fun r => ⟨id_close r, guid_close r⟩, rfl⟩)
  | populate g source now l snapshot =>
      rw [Change.perform]
      rcases Snapshot.populate_store g now l source snapshot s with heq | hu
      · rw [heq]
        exact Or.inr (hsame ⟨rfl, rfl⟩)
      · obtain ⟨checkpoint, rows, -, -, -, -, -, heq⟩ := Snapshot.generate_eq_ok g now hu
        rw [heq]
        exact Or.inr (hsame ⟨generated_tags s, rfl⟩)
  | overwrite guid column value =>
      cases hset : s.overwrite guid column value with
      | error e =>
          rw [Change.perform, hset]
          exact Or.inr (hsame ⟨rfl, rfl⟩)
      | ok p =>
          simp only [Change.perform, hset]
          exact Or.inr (hsame (overwrite_tags hset))
  | overwriteItems guid items =>
      simp only [Change.perform, Snapshots.overwriteItems]
      split <;> exact Or.inr (hsame ⟨rfl, rfl⟩)

/-- A store whose identifiers are distinct and were given out. -/
structure IsNumbered (s : Snapshots) : Prop where
  distinct : (s.tags.map Prod.fst).Nodup
  issued : ∀ tag ∈ s.tags, tag.1 ≤ s.issued

theorem IsNumbered.perform {s : Snapshots} (h : s.IsNumbered) (c : Change) :
    (c.perform s).IsNumbered := by
  rcases perform_tags s c with ⟨guid, htags, hissued⟩ | ⟨htags, hissued⟩
  · constructor
    · rw [htags, List.map_append, List.map_singleton]
      refine List.nodup_append.2 ⟨h.distinct, List.nodup_singleton _, ?_⟩
      intro a ha b hb
      obtain ⟨tag, htag, rfl⟩ := List.mem_map.1 ha
      rw [List.mem_singleton.1 hb]
      have := h.issued tag htag
      omega
    · intro tag htag
      rw [htags] at htag
      rw [hissued]
      rcases List.mem_append.1 htag with htag | htag
      · have := h.issued tag htag
        omega
      · rw [List.mem_singleton.1 htag]
  · refine ⟨h.distinct.sublist (htags.map _), fun tag htag => ?_⟩
    rw [hissued]
    exact h.issued tag (htags.subset htag)

theorem isNumbered_performAll (changes : List Change) :
    (performAll changes empty).IsNumbered := by
  have hall : ∀ (changes : List Change) (s : Snapshots), s.IsNumbered →
      (performAll changes s).IsNumbered := by
    intro changes
    induction changes with
    | nil => exact fun s h => h
    | cons c changes ih => exact fun s h => ih _ (h.perform c)
  exact hall changes empty ⟨List.nodup_nil, fun tag htag => absurd htag List.not_mem_nil⟩

/-- What a store has after some changes it had before them, or got since under an
identifier that was new. -/
theorem mem_tags_performAll (changes : List Change) (s : Snapshots) :
    s.issued ≤ (performAll changes s).issued ∧
      ∀ tag ∈ (performAll changes s).tags, tag ∈ s.tags ∨ s.issued < tag.1 := by
  induction changes generalizing s with
  | nil => exact ⟨Int.le_refl _, fun tag htag => Or.inl htag⟩
  | cons c changes ih =>
      obtain ⟨hle, hmem⟩ := ih (c.perform s)
      rcases perform_tags s c with ⟨guid, htags, hissued⟩ | ⟨htags, hissued⟩
      · rw [hissued] at hle hmem
        refine ⟨Int.le_trans (by omega) hle, fun tag htag => ?_⟩
        rcases hmem tag htag with hold | hnew
        · rw [htags] at hold
          rcases List.mem_append.1 hold with hold | hfresh
          · exact Or.inl hold
          · rw [List.mem_singleton.1 hfresh]
            exact Or.inr (by omega)
        · exact Or.inr (by omega)
      · rw [hissued] at hle hmem
        refine ⟨hle, fun tag htag => ?_⟩
        rcases hmem tag htag with hold | hnew
        · exact Or.inl (htags.subset hold)
        · exact Or.inr hnew

/-- The store gave a snapshot out at some point of its past. -/
def Returned (past : List Change) (snapshot : Snapshot) : Prop :=
  ∃ before since, past = before ++ since ∧
    ∃ r ∈ (performAll before empty).rows, r.toSnapshot = snapshot

theorem Returned.guid_eq {past : List Change} {snapshot : Snapshot}
    (h : Returned past snapshot) {r : SnapshotRow}
    (hr : r ∈ (performAll past empty).rows) (hid : r.id = snapshot.id) :
    r.guid = snapshot.guid := by
  obtain ⟨before, since, rfl, old, hold, rfl⟩ := h
  have hnumbered := isNumbered_performAll before
  have hlater : performAll (before ++ since) empty =
      performAll since (performAll before empty) := List.foldl_append
  rw [hlater] at hr
  have hmem := (mem_tags_performAll since _).2 _ (mem_tags hr)
  have hle := hnumbered.issued _ (mem_tags hold)
  rcases hmem with hmem | hnew
  · have hsame : (r.id, r.guid) = (old.id, old.guid) :=
      List.inj_on_of_nodup_map hnumbered.distinct hmem (mem_tags hold) hid
    exact congrArg Prod.snd hsame
  · have hid : r.id = old.id := hid
    simp only [hid] at hnew
    omega

end Snapshots

end Metering
