import Metering.Database
import Metering.Proofs.Bytes
import Metering.Proofs.Generating
import Metering.Proofs.Listing

/-!
# A snapshot is what is active

This module puts together what the others say of a part each: the inventory is
an ordered source of its active resources, such a source is cut into chunks and
stored, and the store gives the chunks back. A snapshot that is still processing
comes out as complete, with every resource in one chunk, and with counts of what
is in the chunks.

Every hypothesis is about what was there before: the tables are as their
operations leave them, the columns hold what they declare, the newest event can
be read, and the sum of the instances is one of 64 bits all the way.
-/

namespace Metering

open Metering.Time (Instant)

namespace Ledger

theorem createdAt_of_latest {l : Ledger} {e : Event} (h : l.latest = .ok (some e)) :
    Instant.ofMillis e.createdAt.toMillis = e.createdAt := by
  unfold latest at h
  split at h
  · cases h
  · next r hr =>
      cases hdecode : r.decode with
      | error err =>
          rw [hdecode] at h
          cases h
      | ok e' =>
          rw [hdecode] at h
          obtain rfl := Option.some.inj (Except.ok.inj h)
          obtain ⟨state, -, hdecode⟩ := bind_eq_ok.1 hdecode
          obtain ⟨payload, -, hdecode⟩ := bind_eq_ok.1 hdecode
          obtain rfl := Except.ok.inj hdecode
          exact Instant.ofMillis_toMillis_ofMillis r.createdAt

end Ledger

namespace Inventory

variable {inv : Inventory}

theorem IsActive.place {k : Kind} {r : ActiveResource} (h : inv.IsActive k r) :
    ∃ space ∈ inv.spaces.entries, ∃ org ∈ inv.organizations.entries,
      space.value.organization = org.id ∧
      r.space = some space.guid ∧ r.spaceName = some space.value.name ∧
      r.org = some org.guid ∧ r.orgName = some org.value.name := by
  cases k with
  | process =>
      obtain ⟨e, app, space, org, hin, rfl⟩ := h
      exact ⟨space, hin.exists_space, org, hin.exists_org, hin.in_org, rfl, rfl, rfl, rfl⟩
  | service =>
      obtain ⟨e, space, org, hin, rfl⟩ := h
      exact ⟨space, hin.exists_space, org, hin.exists_org, hin.in_org, rfl, rfl, rfl, rfl⟩

theorem IsActive.isPlaced {k : Kind} {r : ActiveResource} (h : inv.IsActive k r) :
    r.isPlaced = true := by
  obtain ⟨space, -, org, -, -, hspace, -, horg, -⟩ := h.place
  rw [ActiveResource.isPlaced, hspace, horg]
  rfl

end Inventory

theorem exists_of_mem_cut {n : Nat} {rows : List ActiveResource} {c : SnapshotChunk}
    (hc : c ∈ cut n rows) : ∃ r ∈ rows, c.org = r.org.getD "" ∧ c.orgName = r.orgName ∧
      c.space = r.space.getD "" ∧ c.spaceName = r.spaceName := by
  obtain ⟨run, hrun, hc⟩ := List.mem_flatMap.1 hc
  obtain ⟨r, hr, -, -, -, rfl⟩ := mem_chunksOfRun hc
  exact ⟨r, (List.mem_filter.1 (subset_of_mem_runs hrun hr)).1, rfl, rfl, rfl, rfl⟩

theorem Inventory.place_of_mem_cut {inv : Inventory} {k : Kind} {n : Nat}
    {rows : List ActiveResource} (hrows : ∀ r ∈ rows, inv.IsActive k r) {c : SnapshotChunk}
    (hc : c ∈ cut n rows) :
    ∃ space ∈ inv.spaces.entries, ∃ org ∈ inv.organizations.entries,
      space.value.organization = org.id ∧
        c.space = space.guid ∧ c.spaceName = some space.value.name ∧
        c.org = org.guid ∧ c.orgName = some org.value.name := by
  obtain ⟨r, hr, horg, horgName, hspace, hspaceName⟩ := exists_of_mem_cut hc
  obtain ⟨space, hmem, org, hmem', hin, hs, hsn, ho, hon⟩ := (hrows r hr).place
  refine ⟨space, hmem, org, hmem', hin, ?_, hspaceName.trans hsn, ?_, horgName.trans hon⟩
  · rw [hspace, hs]
    rfl
  · rw [horg, ho]
    rfl

namespace Database

/-- A snapshot that is still processing can be populated, and then shows exactly what
is active: pages of its chunks are pages of what the active resources are cut into, by
space and number, and its summary counts them. -/
theorem populate_shows_actives {db : Database} {snapshot : Snapshot}
    {checkpoint : Option Event} (g : GenerationSettings) (now : Int)
    (hinstalled : db.installed = true) (hsnapshots : db.snapshots.IsKept)
    (hinventory : db.inventory.IsKept) (htyped : db.inventory.IsTyped)
    (hfound : db.snapshots.find? snapshot.guid = some snapshot)
    (hopen : snapshot.isComplete = false)
    (hlatest : (db.ledger snapshot.kind).latest = .ok checkpoint)
    (hsums : Chunking.SumsFit 0 (db.inventory.actives snapshot.kind)) :
    let resources := db.inventory.actives snapshot.kind
    let chunks := cut (max g.chunkLimit 1) resources
    (∀ r, r ∈ resources ↔ db.inventory.IsActive snapshot.kind r) ∧
      (snapshot.kind = .service →
        ∀ e ∈ db.inventory.instances.entries, ∃ r ∈ resources, r.guid = e.guid) ∧
      resources.Pairwise (fun a b =>
        Text.bytes (Cursor.at a).space < Text.bytes (Cursor.at b).space ∨
          (Cursor.at a).space = (Cursor.at b).space ∧ a.id < b.id) ∧
      (∀ c ∈ chunks, ∃ space ∈ db.inventory.spaces.entries,
        ∃ org ∈ db.inventory.organizations.entries, space.value.organization = org.id ∧
          c.space = space.guid ∧ c.spaceName = some space.value.name ∧
          c.org = org.guid ∧ c.orgName = some org.value.name) ∧
      ∃ done store,
        db.populate g (db.source snapshot.kind) now snapshot =
          (.ok done, some (.generated snapshot.kind), db.withSnapshots store) ∧
        (∀ offset limit, store.chunksPage done offset limit =
          .ok ⟨chunks.length, offset, Page.slice offset limit chunks⟩) ∧
        done = { snapshot with
          state := .complete
          completedAt := some (Instant.ofMillis now)
          checkpoint := checkpoint.map (·.guid)
          checkpointAt := checkpoint.map (·.createdAt)
          summary := {
            instances := (resources.map (·.instances)).sum
            organizations := (resources.filterMap (·.org)).toFinset.card
            spaces := (resources.filterMap (·.space)).toFinset.card
            parents := if snapshot.kind.tracksParents then
              some (resources.filterMap (·.parent)).toFinset.card else none
            resources := resources.length
            chunks := chunks.length } } := by
  intro resources chunks
  have hactive : ∀ r, r ∈ resources ↔ db.inventory.IsActive snapshot.kind r := fun r =>
    Inventory.mem_actives hinventory
  have hplaced : (db.inventory.actives snapshot.kind).filter ActiveResource.isPlaced =
      db.inventory.actives snapshot.kind :=
    List.filter_eq_self.2 fun r hr => ((hactive r).1 hr).isPlaced
  have hsource : db.source snapshot.kind = db.inventory.source snapshot.kind := if_pos hinstalled
  have hmany : resources.length ≤ Word.max := by
    have hle := Inventory.length_found_le hinventory htyped snapshot.kind
    show (List.mergeSort _ _).length ≤ Word.max
    rw [List.length_mergeSort]
    unfold Word.maxSigned at hle
    unfold Word.max
    omega
  have hcheckpoint : checkpoint.map (fun e => Instant.ofMillis e.createdAt.toMillis) =
      checkpoint.map (·.createdAt) := by
    cases checkpoint with
    | none => rfl
    | some e => exact congrArg some (Ledger.createdAt_of_latest hlatest)
  refine ⟨hactive, ?_, ?_, ?_, ?_⟩
  · intro hkind e he
    obtain ⟨r, hr, hguid⟩ := Inventory.exists_active_of_instance hinventory he
    exact ⟨r, (hactive r).2 (hkind ▸ hr), hguid⟩
  · refine (Inventory.pairwise_actives hinventory snapshot.kind).imp fun hab => ?_
    rcases hab with hlt | hsame
    · exact Or.inl (Text.bytes_lt_of_lt hlt)
    · exact Or.inr hsame
  · exact fun c hc => Inventory.place_of_mem_cut (fun r hr => (hactive r).1 hr) hc
  · obtain ⟨done, store, hdone, hpopulate, hpages⟩ := Snapshot.populate_of_lists
      g now hsnapshots hfound hopen hlatest
      (Inventory.source_lists hinventory htyped snapshot.kind)
      (fun r hr => ((hactive r).1 hr).fits htyped) hmany hsums
    refine ⟨done, store, ?_, hpages, ?_⟩
    · rw [hsource, populate, hpopulate]
    · rw [hdone, Snapshot.completed, hcheckpoint]
      simp only [Totals.summary, Totals.of, hplaced]
      rfl

/-- A platform with three processes that are running, two of them in one space, and
with a task and a process whose app is gone. -/
def runningThree : Inventory :=
  { Inventory.empty with
    organizations := ⟨[⟨1, "org", ⟨"o"⟩⟩], 1⟩
    spaces := ⟨[⟨1, "here", "h", 1⟩, ⟨2, "there", "t", 1⟩], 2⟩
    apps := ⟨[⟨1, "shop", "s", "here", none⟩, ⟨2, "mail", "m", "there", none⟩], 2⟩
    processes := ⟨[⟨1, "a", "shop", "web", "STARTED", .int 2, .int 64⟩,
      ⟨2, "b", "shop", "worker", "STARTED", .null, .null⟩,
      ⟨3, "c", "shop", "TASK", "STARTED", .int 1, .int 64⟩,
      ⟨4, "d", "gone", "web", "STARTED", .int 1, .int 64⟩,
      ⟨5, "e", "mail", "web", "STARTED", .int 1, .int 64⟩], 5⟩ }

/-- The snapshot that was requested of these. -/
def first : Snapshot := (SnapshotRow.placeholder 1 "first" .process 20).toSnapshot

/-- The database in which it was requested. -/
def requested : Database :=
  { Database.empty with
    installed := true
    books := ⟨⟨⟨[⟨1, "start", 10, "STARTED", "shop", none, none, none, none, "{}"⟩], 1, []⟩,
      [], []⟩, Books.empty⟩
    snapshots := ⟨[.placeholder 1 "first" .process 20], [], 1⟩
    inventory := runningThree }

theorem runningThree_isKept : runningThree.IsKept := by
  constructor <;> first | decide | constructor <;> decide

theorem runningThree_isTyped : runningThree.IsTyped := by
  constructor <;> decide

theorem requested_isKept : requested.snapshots.IsKept := by
  constructor <;> decide

theorem actives_runningThree :
    runningThree.actives .process = runningThree.found .process :=
  List.mergeSort_of_pairwise (by decide)

/-- The snapshot counts the three, and two chunks hold them. -/
theorem populate_runningThree :
    ∃ done store,
      requested.populate ⟨2, 1, 1⟩ (requested.source .process) 30 first =
        (.ok done, some (.generated .process), requested.withSnapshots store) ∧
      done.checkpoint = some "start" ∧
      done.summary.instances = 3 ∧ done.summary.resources = 3 ∧
      done.summary.spaces = 2 ∧ done.summary.parents = some 2 ∧
      done.summary.chunks = 2 ∧
      (store.chunksPage done 0 1).map (·.total) = .ok 2 := by
  have hnewest : (requested.ledger .process).latest.map (·.map (·.guid)) =
      .ok (some "start") := by decide +kernel
  cases hlatest : (requested.ledger .process).latest with
  | error e =>
      rw [hlatest] at hnewest
      cases hnewest
  | ok checkpoint =>
      rw [hlatest] at hnewest
      have hsums : Chunking.SumsFit 0 (runningThree.actives .process) := by
        rw [actives_runningThree]
        decide +kernel
      have hfound : requested.snapshots.find? first.guid = some first := by decide
      obtain ⟨-, -, -, -, done, store, hpopulate, hpages, hdone⟩ :=
        populate_shows_actives ⟨2, 1, 1⟩ 30 rfl requested_isKept runningThree_isKept
          runningThree_isTyped hfound rfl hlatest hsums
      have hchunks : (cut 2 (runningThree.actives .process)).length = 2 := by
        rw [actives_runningThree]
        decide +kernel
      refine ⟨done, store, hpopulate, ?_, ?_, ?_, ?_, ?_, ?_, ?_⟩
      · rw [hdone]
        exact Except.ok.inj hnewest
      · rw [hdone]
        show ((runningThree.actives .process).map (·.instances)).sum = 3
        rw [actives_runningThree]
        decide
      · rw [hdone]
        show (runningThree.actives .process).length = 3
        rw [actives_runningThree]
        decide
      · rw [hdone]
        show ((runningThree.actives .process).filterMap (·.space)).toFinset.card = 2
        rw [actives_runningThree]
        decide
      · rw [hdone]
        show some ((runningThree.actives .process).filterMap (·.parent)).toFinset.card = some 2
        rw [actives_runningThree]
        decide
      · rw [hdone]
        exact hchunks
      · rw [hpages]
        exact congrArg Except.ok hchunks

end Database

end Metering
