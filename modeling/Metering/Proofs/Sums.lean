import Metering.Database
import Metering.Proofs.Bundling
import Metering.Proofs.Generating

/-!
# The sum of the instances

Every resource that lands in a chunk contributes its instances to one sum, which is a
number of 64 bits from the first resource to the last. Where it cannot be, the run is
over (`Chunking.run_eq_ok`): it does not matter that the sum of them all might be a
number of 64 bits again. So whatever is reported and stored is the sum of the integers,
and where there is no such number nothing is stored.
-/

namespace Metering

open Chunking (SumsFit)

namespace Snapshot

variable {g : GenerationSettings} {source : Source} {now : Int} {l : Ledger}
  {snapshot done : Snapshot} {s : Snapshots}

theorem populate_eq_ok (h : (snapshot.populate g source now l s).answer = .ok done) :
    snapshot.isComplete = false ∧ ∃ u, generate g source now l snapshot s = .ok u ∧
      u.get snapshot.guid = .ok done ∧ (snapshot.populate g source now l s).store = u := by
  rcases populate_outcomes g now l source snapshot s with
    ⟨-, heq⟩ | ⟨hopen, ⟨e, he, -⟩ | ⟨u, hu, hstore, hget⟩⟩
  · rw [heq] at h
    cases h
  · obtain ⟨-, e', herr⟩ := populate_of_generate g now hopen he
    rw [herr] at h
    cases h
  · exact ⟨hopen, u, hu, hget.symm.trans h, hstore⟩

theorem populate_of_not_fits (h : ¬ SumsFit 0 (source.walk g.fetchBatchSize).rows) :
    (∃ e, (snapshot.populate g source now l s).answer = .error e) ∧
      (snapshot.populate g source now l s).store = s := by
  rcases populate_outcomes g now l source snapshot s with
    ⟨-, heq⟩ | ⟨hopen, ⟨e, he, -⟩ | ⟨u, hu, -⟩⟩
  · rw [heq]
    exact ⟨⟨_, rfl⟩, rfl⟩
  · exact (populate_of_generate g now hopen he).symm
  · obtain ⟨checkpoint, rows, -, hwalk, hsums, -⟩ := generate_eq_ok g now hu
    rw [hwalk] at h
    exact absurd hsums h

end Snapshot

namespace Database

variable {db db' : Database} {g : GenerationSettings} {source : Source} {now : Int}
  {snapshot done : Snapshot} {observation : Option Telemetry.Observation}

/-- A generation that succeeds has cut the rows of the walk, and reports and stores the
totals of these. -/
theorem totals_of_populate (hfound : db.snapshots.find? snapshot.guid = some snapshot)
    (hok : db.populate g source now snapshot = (.ok done, observation, db')) :
    let rows := (source.walk g.fetchBatchSize).rows
    let totals := Totals.of (max g.chunkLimit 1) rows
    SumsFit 0 rows ∧
    db'.snapshots.chunks = db.snapshots.chunks ++
      (cut (max g.chunkLimit 1) rows).map (·.stored snapshot.id) ∧
    done.summary.instances = totals.instances ∧
    ∃ r, db'.snapshots.row? snapshot.guid = some r ∧ r.instances = totals.instances := by
  intro rows totals
  obtain ⟨hanswer, hrest⟩ := Prod.mk.inj hok
  obtain ⟨hopen, u, hgenerate, hget, hstore⟩ := Snapshot.populate_eq_ok hanswer
  have hdb : db'.snapshots = u := by
    rw [← (Prod.mk.inj hrest).2]
    exact hstore
  obtain ⟨checkpoint, passed, -, hwalk, hsums, -, -, hu⟩ :=
    Snapshot.generate_eq_ok g now hgenerate
  obtain rfl : rows = passed := congrArg Walk.rows hwalk
  obtain ⟨r, -, hr, hproc, hrow⟩ := Snapshots.row_of_find hfound hopen
  have hclosed : u.row? snapshot.guid =
      some (Snapshots.completed now checkpoint totals source.tracksParents r) := by
    rw [hu, Snapshots.row?, Snapshots.generated, Snapshots.find?_guid_close, hrow,
      Option.map_some, Snapshots.close_of_open (congrArg Snapshot.id hr) hproc]
  rw [Snapshots.get, Snapshots.find?, hclosed, Option.map_some] at hget
  rw [hdb]
  refine ⟨hsums, ?_, ?_, _, hclosed, rfl⟩
  · rw [hu]
    exact congrArg (db.snapshots.chunks ++ ·) List.map_map
  · rw [← Except.ok.inj hget]
    rfl

/-- The number of instances that a generation reports and stores is the sum over the rows
that landed in chunks, as integers have it. If that sum is too large, in the end or on the
way, the generation does not succeed and nothing is stored. -/
theorem instances_exact (hfound : db.snapshots.find? snapshot.guid = some snapshot) :
    let rows := (source.walk g.fetchBatchSize).rows
    let landed := rows.filter ActiveResource.isPlaced
    let total := (landed.map (·.instances)).sum
    (∀ done observation db',
      db.populate g source now snapshot = (.ok done, observation, db') →
      (∃ chunks : List SnapshotChunk,
        db'.snapshots.chunks = db.snapshots.chunks ++ chunks.map (·.stored snapshot.id) ∧
        chunks.flatMap (·.items) = landed.map (·.item)) ∧
      done.summary.instances = total ∧
      (∃ r, db'.snapshots.row? snapshot.guid = some r ∧ r.instances = total) ∧
      Word.holdsSigned total = true) ∧
    (¬ SumsFit 0 rows →
      (∃ e, (db.populate g source now snapshot).1 = .error e) ∧
      (db.populate g source now snapshot).2.2 = db) := by
  intro rows landed total
  refine ⟨fun done observation db' hok => ?_, fun hover => ?_⟩
  · obtain ⟨hsums, hchunks, hreported, hstored⟩ := totals_of_populate hfound hok
    exact ⟨⟨_, hchunks, items_cut _ _⟩, hreported, hstored, hsums.total⟩
  · obtain ⟨herror, hsame⟩ := Snapshot.populate_of_not_fits hover
    exact ⟨herror, congrArg (fun s => { db with snapshots := s }) hsame⟩

/-- A process with so many instances. -/
def processWith (id : Int) (guid : String) (instances : Int) : ActiveResource :=
  ⟨id, guid, some "shop", some "here", none, some "org", none, instances,
    .process ⟨"shop", "s", guid, "web", some instances, some 64, none, none⟩⟩

/-- Processes with as many instances as a number of 64 bits can be, with so many, and with
two fewer than none. -/
def threeWith (second : Int) : Source :=
  .ofRows true [processWith 1 "a" Word.maxSigned, processWith 2 "b" second,
    processWith 3 "c" (-2)] none (.runtime "lost")

/-- The rows, as they are passed. -/
def passed (second : Int) : List ActiveResource :=
  ((threeWith second).walk GenerationSettings.default.fetchBatchSize).rows

def pending : SnapshotRow := .placeholder 1 "first" .process 10

/-- A database in which a snapshot has been requested. -/
def pendingOne : Database :=
  { empty with installed := true, snapshots := ⟨[pending], [], 1⟩ }

/-- The sum is as large as it can be, and then smaller. With one instance more in between it
would have been too large on the way, and there is no snapshot. -/
theorem instances_exact_threeWith :
    (∃ done observation db', pendingOne.populate .default (threeWith 0) 20 pending.toSnapshot =
        (.ok done, observation, db') ∧
      (passed 0).map (·.instances) = [Word.maxSigned, 0, -2] ∧
      done.summary.instances = Word.maxSigned - 2) ∧
    (passed 1).map (·.instances) = [Word.maxSigned, 1, -2] ∧
    ¬ SumsFit 0 (passed 1) ∧
    (pendingOne.populate .default (threeWith 1) 20 pending.toSnapshot).2.2 = pendingOne := by
  have hfound : pendingOne.snapshots.find? pending.toSnapshot.guid = some pending.toSnapshot := by
    decide
  refine ⟨?_, by decide +kernel, by decide +kernel, ?_⟩
  · have hrows : (passed 0).map (·.instances) = [Word.maxSigned, 0, -2] := by decide +kernel
    have htotal : (((passed 0).filter ActiveResource.isPlaced).map (·.instances)).sum =
        Word.maxSigned - 2 := by decide +kernel
    have hok : (pendingOne.populate .default (threeWith 0) 20
        pending.toSnapshot).1.toBool = true := by decide +kernel
    cases hpopulate : pendingOne.populate .default (threeWith 0) 20 pending.toSnapshot with
    | mk answer rest =>
        obtain ⟨observation, after⟩ := rest
        cases answer with
        | error e =>
            rw [hpopulate] at hok
            cases hok
        | ok done =>
            obtain ⟨-, hexact, -⟩ := (instances_exact hfound).1 _ _ _ hpopulate
            exact ⟨done, observation, after, rfl, hrows, hexact.trans htotal⟩
  · exact ((instances_exact hfound).2 (by decide +kernel)).2

end Database

end Metering
