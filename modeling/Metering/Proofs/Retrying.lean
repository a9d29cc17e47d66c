import Metering.CommandLine.Perform
import Metering.Proofs.Generating
import Metering.Remedy

/-!
# Retrying a failed generation

A generation that fails is rolled back, and the advice that goes with its error
is to request a new snapshot. The request was never part of what is rolled back:
it was made before, and the snapshot that it made is still processing when its
generation has failed. A kind has one such snapshot at a time, so that the advice
cannot be followed. The new request is refused, by the job's own snapshot, until
that one is generated after all, deleted or cleaned up.

A value that was kept from earlier can fail to be generated for another reason:
its snapshot may be complete by now, or gone. Then nothing is in the way, and
`failure_blocks_request` says which of the two it is: a request after a failure
is answered as it would have been without.
-/

namespace Metering

namespace Snapshots

/-- A request is refused while a snapshot of the kind is processing, and otherwise
granted. -/
theorem request_cases (k : Kind) (now : Int) (fresh : String) (s : Snapshots) :
    ((∃ r ∈ s.rows, r.kind = k ∧ r.isProcessing = true) ∧
      s.request k now fresh = .error (.generationInProgress k.name)) ∨
    ((∀ r ∈ s.rows, r.kind = k → r.isProcessing = false) ∧
      s.request k now fresh =
        .ok ((SnapshotRow.placeholder (s.issued + 1) fresh k now).toSnapshot,
          { s with
            rows := s.rows ++ [.placeholder (s.issued + 1) fresh k now]
            issued := s.issued + 1 })) := by
  have hbusy : (s.inProgress? k).isSome = true ↔
      ∃ r ∈ s.rows, r.kind = k ∧ r.isProcessing = true := by
    simp only [inProgress?, Option.isSome_map, List.find?_isSome, Bool.and_eq_true,
      decide_eq_true_eq]
  unfold Snapshots.request
  by_cases h : (s.inProgress? k).isSome = true
  · exact Or.inl ⟨hbusy.1 h, if_pos h⟩
  · refine Or.inr ⟨fun r hr hk => ?_, if_neg h⟩
    cases hopen : r.isProcessing with
    | false => rfl
    | true => exact absurd (hbusy.2 ⟨r, hr, hk, hopen⟩) h

theorem get_eq_ok {guid : String} {snapshot : Snapshot} {s : Snapshots}
    (h : s.get guid = .ok snapshot) :
    ∃ r, s.row? guid = some r ∧ r.toSnapshot = snapshot := by
  unfold get at h
  split at h
  · next found hfound =>
      obtain rfl := Except.ok.inj h
      exact Option.map_eq_some_iff.1 hfound
  · cases h

end Snapshots

theorem SnapshotRow.isComplete_toSnapshot (r : SnapshotRow) :
    r.toSnapshot.isComplete = ! r.isProcessing := by
  unfold Snapshot.isComplete SnapshotRow.isProcessing toSnapshot
  cases r.completedAt <;> rfl

theorem Snapshot.populate_of_failed {g : GenerationSettings} {source : Source} {now : Int}
    {l : Ledger} {v : Snapshot} {s : Snapshots} {guid : String} {e : Error}
    (h : (v.populate g source now l s).answer = .error (.generationFailed guid e)) :
    (v.populate g source now l s).store = s ∧ v.isComplete = false := by
  rcases v.populate_outcomes g now l source s with
    ⟨-, heq⟩ | ⟨hopen, ⟨cause, -, heq⟩ | ⟨u, -, -, hanswer⟩⟩
  · rw [heq] at h
    cases h
  · rw [heq] at h ⊢
    split at h
    · cases h
    · next hanswer =>
        rw [if_neg hanswer]
        exact ⟨rfl, hopen⟩
  · -- the one error left is that the snapshot is not found
    rw [hanswer] at h
    unfold Snapshots.get at h
    split at h <;> cases h

namespace Database

variable {db : Database}

theorem onSnapshots_of_ok {α : Type} (hinst : db.installed = true)
    {f : Snapshots → Except Error (α × Snapshots)} {a : α} {s : Snapshots}
    (h : f db.snapshots = .ok (a, s)) :
    db.onSnapshots f = (.ok a, db.withSnapshots s) := by
  unfold onSnapshots onTables attempt
  rw [if_pos hinst]
  simp only [h]
  rfl

theorem onSnapshots_of_error {α : Type} (hinst : db.installed = true)
    {f : Snapshots → Except Error (α × Snapshots)} {e : Error}
    (h : f db.snapshots = .error e) : db.onSnapshots f = (.error e, db) := by
  unfold onSnapshots onTables attempt
  rw [if_pos hinst]
  simp only [h]
  rfl

/-- Some snapshot of a kind is still processing. -/
def IsBusy (k : Kind) (db : Database) : Prop :=
  ∃ r ∈ db.snapshots.rows, r.kind = k ∧ r.isProcessing = true

instance (k : Kind) (db : Database) : Decidable (db.IsBusy k) :=
  inferInstanceAs (Decidable (∃ r ∈ db.snapshots.rows, r.kind = k ∧ r.isProcessing = true))

theorem request_of_busy (hinst : db.installed = true) {k : Kind} (hbusy : db.IsBusy k)
    (now : Int) (fresh : String) :
    db.requestSnapshot k now fresh = (.error (.generationInProgress k.name), db) := by
  rcases Snapshots.request_cases k now fresh db.snapshots with ⟨-, hreq⟩ | ⟨hfree, -⟩
  · exact onSnapshots_of_error hinst hreq
  · obtain ⟨r, hr, hk, hopen⟩ := hbusy
    rw [hfree r hr hk] at hopen
    cases hopen

theorem request_of_not_busy (hinst : db.installed = true) {k : Kind} (hfree : ¬ db.IsBusy k)
    (now : Int) (fresh : String) :
    ∃ snapshot, (db.requestSnapshot k now fresh).1 = .ok snapshot := by
  rcases Snapshots.request_cases k now fresh db.snapshots with ⟨hbusy, -⟩ | ⟨-, hreq⟩
  · exact absurd hbusy hfree
  · exact ⟨_, congrArg Prod.fst (onSnapshots_of_ok hinst hreq)⟩

theorem busy_of_request {k : Kind} {now : Int} {fresh : String} {snapshot : Snapshot}
    (h : (db.requestSnapshot k now fresh).1 = .ok snapshot) :
    db.installed = true ∧ (db.requestSnapshot k now fresh).2.installed = true ∧
      (db.requestSnapshot k now fresh).2.IsBusy k := by
  cases hinst : db.installed with
  | false =>
      unfold requestSnapshot onSnapshots onTables at h
      rw [hinst] at h
      cases h
  | true =>
      rcases Snapshots.request_cases k now fresh db.snapshots with ⟨-, hreq⟩ | ⟨-, hreq⟩
      · rw [requestSnapshot, onSnapshots_of_error hinst hreq] at h
        cases h
      · rw [requestSnapshot, onSnapshots_of_ok hinst hreq]
        exact ⟨rfl, hinst, _, List.mem_append_right _ (List.mem_singleton_self _), rfl, rfl⟩

theorem request_ne_failed {k : Kind} {now : Int} {fresh guid : String} {e : Error} :
    (db.requestSnapshot k now fresh).1 ≠ .error (.generationFailed guid e) := by
  intro h
  cases hinst : db.installed with
  | false =>
      unfold requestSnapshot onSnapshots onTables at h
      rw [hinst] at h
      cases h
  | true =>
      by_cases hbusy : db.IsBusy k
      · rw [request_of_busy hinst hbusy] at h
        cases h
      · obtain ⟨snapshot, hok⟩ := request_of_not_busy hinst hbusy now fresh
        rw [hok] at h
        cases h

theorem populate_of_failed {g : GenerationSettings} {source : Source} {now : Int}
    {v : Snapshot} {guid : String} {e : Error}
    (h : (db.populate g source now v).1 = .error (.generationFailed guid e)) :
    (db.populate g source now v).2.2 = db ∧ v.isComplete = false := by
  obtain ⟨hstore, hopen⟩ := Snapshot.populate_of_failed h
  refine ⟨?_, hopen⟩
  show db.withSnapshots _ = db
  rw [hstore]
  rfl

/-- A job takes the snapshot from the store. So when its generation has failed, that
snapshot is there, and is still processing. -/
theorem job_of_failed {g : GenerationSettings} {now : Int} {job : GenerationJob}
    {guid : String} {e : Error}
    (h : (job.perform g now db).1 = .error (.generationFailed guid e)) :
    (job.perform g now db).2.2 = db ∧
      ∃ r, db.snapshots.row? job.snapshot = some r ∧ r.isProcessing = true := by
  unfold GenerationJob.perform generateSnapshot at h ⊢
  cases hask : db.askSnapshots (Snapshots.get job.snapshot) with
  | error err =>
      rw [hask] at h
      have herr : err = .generationFailed guid e := Except.error.inj h
      unfold askSnapshots need at hask
      split at hask
      · unfold Snapshots.get at hask
        split at hask
        · cases hask
        · rw [← Except.error.inj hask] at herr
          cases herr
      · rw [← Except.error.inj hask] at herr
        cases herr
  | ok v =>
      rw [hask] at h
      obtain ⟨hsame, hopen⟩ := populate_of_failed h
      obtain ⟨-, -, hget⟩ := bind_eq_ok.1 hask
      obtain ⟨r, hr, rfl⟩ := Snapshots.get_eq_ok hget
      rw [SnapshotRow.isComplete_toSnapshot, Bool.not_eq_false'] at hopen
      exact ⟨hsame, r, hr, hopen⟩

end Database

namespace Command

variable {c : Circumstances} {db : Database}

theorem ofTask_eq_failed {task : Nat} {guid : String} {err e : Error}
    (h : err.ofTask task = .generationFailed guid e) : err = .generationFailed guid e := by
  cases err <;> first | exact h | cases h

theorem generate_of_failed {id guid : String} {e : Error}
    (h : (generate c id db).1 = .error (.generationFailed guid e)) :
    (generate c id db).2 = db := by
  unfold generate inJob at h ⊢
  split
  · next hshared =>
      rw [if_pos hshared] at h
      have hfailed : (GenerationJob.perform c.settings.snapshots.generation c.now ⟨id⟩ db).1 =
          .error (.generationFailed guid e) := by
        cases hanswer :
            (GenerationJob.perform c.settings.snapshots.generation c.now ⟨id⟩ db).1 with
        | error err =>
            simp only [hanswer] at h
            exact congrArg _ (ofTask_eq_failed (Except.error.inj h))
        | ok v =>
            simp only [hanswer] at h
            cases h
      exact (Database.job_of_failed hfailed).1
  · split <;> rfl

theorem create_of_refused {k : Kind} {e : Error} {after : Database}
    (h : db.requestSnapshot k c.now c.fresh = (.error e, after)) (generates : Bool) :
    (createSnapshot k generates).perform c db = (.error e, after) := by
  simp only [perform, h]

theorem create_of_granted {k : Kind} {snapshot : Snapshot} {after : Database}
    (h : db.requestSnapshot k c.now c.fresh = (.ok snapshot, after)) :
    (createSnapshot k true).perform c db = generate c snapshot.guid after := by
  simp only [perform, h, if_true]

theorem busy_of_create_failed {k : Kind} {guid : String} {e : Error}
    (h : ((createSnapshot k true).perform c db).1 = .error (.generationFailed guid e)) :
    ((createSnapshot k true).perform c db).2.installed = true ∧
      ((createSnapshot k true).perform c db).2.IsBusy k := by
  cases hreq : db.requestSnapshot k c.now c.fresh with
  | mk answer after =>
      cases answer with
      | error err =>
          rw [create_of_refused hreq] at h
          rw [Except.error.inj h] at hreq
          exact absurd (congrArg Prod.fst hreq) Database.request_ne_failed
      | ok snapshot =>
          rw [create_of_granted hreq] at h ⊢
          have hbusy := Database.busy_of_request (congrArg Prod.fst hreq)
          rw [hreq] at hbusy
          rw [generate_of_failed h]
          exact hbusy.2

end Command

namespace Database

variable {db : Database}

/-- A generation that fails blocks the request that is advised, as long as there is
anything to retry. A request after it is granted exactly if no snapshot of the kind is
processing. A job's own snapshot is, so that after a job has failed every request of its
kind is refused; and a command that creates a snapshot, once it has failed, is refused
ever after. -/
theorem failure_blocks_request (hinst : db.installed = true) :
    (∀ g source now v guid e,
      (db.populate g source now v).1 = .error (.generationFailed guid e) →
      (db.populate g source now v).2.2 = db ∧ ∀ later fresh,
        (∃ snapshot, ((db.populate g source now v).2.2.requestSnapshot v.kind later fresh).1 =
          .ok snapshot) ↔ ¬ db.IsBusy v.kind) ∧
    (∀ g now (job : GenerationJob) guid e,
      (job.perform g now db).1 = .error (.generationFailed guid e) →
      ∃ r, db.snapshots.row? job.snapshot = some r ∧ ∀ later fresh,
        (job.perform g now db).2.2.requestSnapshot r.kind later fresh =
          (.error (.generationInProgress r.kind.name), db)) ∧
    ∀ c k guid e,
      ((Command.createSnapshot k true).perform c db).1 = .error (.generationFailed guid e) →
      ∀ later generates,
        (Command.createSnapshot k generates).perform later
            ((Command.createSnapshot k true).perform c db).2 =
          (.error (.generationInProgress k.name),
            ((Command.createSnapshot k true).perform c db).2) := by
  refine ⟨fun g source now v guid e hfailed => ?_, fun g now job guid e hfailed => ?_,
    fun c k guid e hfailed later generates => ?_⟩
  · obtain ⟨hsame, -⟩ := populate_of_failed hfailed
    refine ⟨hsame, fun later fresh => ?_⟩
    rw [hsame]
    constructor
    · rintro ⟨snapshot, hok⟩ hbusy
      rw [request_of_busy hinst hbusy] at hok
      cases hok
    · exact fun hfree => request_of_not_busy hinst hfree later fresh
  · obtain ⟨hsame, r, hr, hopen⟩ := job_of_failed hfailed
    refine ⟨r, hr, fun later fresh => ?_⟩
    rw [hsame]
    exact request_of_busy hinst ⟨r, List.mem_of_find?_eq_some hr, rfl, hopen⟩ later fresh
  · obtain ⟨hthere, hbusy⟩ := Command.busy_of_create_failed hfailed
    exact Command.create_of_refused (request_of_busy hthere hbusy _ _) generates

/-- A database in which a snapshot has been requested. -/
def onceRequested : Database :=
  ({ empty with installed := true }.requestSnapshot .process 1700000000000 "first").2

/-- The snapshot. -/
def firstAsked : Snapshot :=
  (SnapshotRow.placeholder 1 "first" .process 1700000000000).toSnapshot

/-- An attempt at it, which fails since its source is gone. -/
def lost : Except Error Snapshot × Option Telemetry.Observation × Database :=
  onceRequested.populate .default (.ofRows true [] (some 0) (.runtime "source went away"))
    1700000000000 firstAsked

/-- The generation fails, and the request that is advised is refused. -/
theorem request_refused_after_lost :
    lost.1 = .error (.generationFailed "first" (.runtime "source went away")) ∧
    (Error.generationFailed "first" (.runtime "source went away")).remedy.summary =
      "Generation rolled back with no partial chunks. Request a new snapshot to retry." ∧
    ¬ ∃ snapshot, (lost.2.2.requestSnapshot .process 1700000000000 "second").1 =
      .ok snapshot := by
  have hfailed : lost.1 = .error (.generationFailed "first" (.runtime "source went away")) :=
    rfl
  have hrefused : (lost.2.2.requestSnapshot .process 1700000000000 "second").1 =
      .error (.generationInProgress "process") := rfl
  refine ⟨hfailed, rfl, ?_⟩
  rintro ⟨snapshot, hok⟩
  rw [hrefused] at hok
  cases hok

/-- A database whose newest event is in a state that no one knows. -/
def damaged : Database :=
  withLedger .process ⟨[⟨1, "a", 10, "LOST", "web", none, none, none, none, "{}"⟩], 1, []⟩
    { empty with installed := true }

/-- A user who does as advised. -/
def user (fresh : String) : Circumstances := ⟨default, 1700000000000, fresh, true, 1⟩

/-- The database once the user has created a snapshot in vain. -/
def stuck : Database :=
  ((Command.createSnapshot .process true).perform (user "first") damaged).2

/-- Whichever way it is asked for, there is no second snapshot. -/
theorem failure_blocks_request_stuck :
    (∃ guid e, ((Command.createSnapshot .process true).perform (user "first") damaged).1 =
      .error (.generationFailed guid e)) ∧
    (Command.createSnapshot .process true).perform (user "second") stuck =
      (.error (.generationInProgress "process"), stuck) ∧
    ∃ r, stuck.snapshots.row? "first" = some r ∧
      ((⟨"first"⟩ : GenerationJob).perform .default 1700000000000 stuck).2.2.requestSnapshot
        r.kind 1700000000000 "second" = (.error (.generationInProgress r.kind.name), stuck) := by
  have hcreate : ((Command.createSnapshot .process true).perform (user "first") damaged).1 =
      .error (.generationFailed "first" (.database (.unknownState "LOST"))) := rfl
  have hjob : ((⟨"first"⟩ : GenerationJob).perform .default 1700000000000 stuck).1 =
      .error (.generationFailed "first" (.database (.unknownState "LOST"))) := rfl
  have hdamaged : damaged.installed = true := rfl
  have hstuck : stuck.installed = true := rfl
  obtain ⟨-, -, hagain⟩ := failure_blocks_request hdamaged
  obtain ⟨-, hblocked, -⟩ := failure_blocks_request hstuck
  obtain ⟨r, hr, hrefused⟩ := hblocked _ _ _ _ _ hjob
  exact ⟨⟨_, _, hcreate⟩, hagain _ _ _ _ hcreate _ true, r, hr, hrefused _ _⟩

end Database

end Metering
