import Metering.Proofs.Calls

/-!
# What a clean-up of snapshots removes

Two things are removed, each in its own statement: complete snapshots that are
older than so many days, and snapshots that have been processing for more than
so many minutes. A snapshot is never both, so the second statement finds what it
would have found in the store as it was, and the two come to one deletion, of
all that is due (`perform_eq`). What is not due is left as it is, with its
chunks, whichever kind it is of.

A request that follows is granted if nothing of the kind is processing any
more. What could be is what the clean-up has left: a snapshot that is younger
than those minutes.
-/

namespace Metering

open Time (millisPerDay millisPerMinute)

namespace SnapshotCleanup

variable (c : SnapshotCleanup) (now : Int)

/-- A complete snapshot of the kind that is too old. -/
def IsExpired (r : SnapshotRow) : Prop :=
  r.kind = c.kind ∧ r.isProcessing = false ∧ r.createdAt < now - c.cutoffAgeDays * millisPerDay

/-- A snapshot of the kind that has been processing for too long. -/
def IsAbandoned (r : SnapshotRow) : Prop :=
  r.kind = c.kind ∧ r.isProcessing = true ∧
    r.createdAt < now - c.staleAfterMinutes * millisPerMinute

/-- A snapshot that a clean-up is there to remove. -/
def IsDue (r : SnapshotRow) : Prop := c.IsExpired now r ∨ c.IsAbandoned now r

instance (r : SnapshotRow) : Decidable (c.IsExpired now r) :=
  inferInstanceAs (Decidable (_ ∧ _ ∧ _))

instance (r : SnapshotRow) : Decidable (c.IsAbandoned now r) :=
  inferInstanceAs (Decidable (_ ∧ _ ∧ _))

instance (r : SnapshotRow) : Decidable (c.IsDue now r) :=
  inferInstanceAs (Decidable (_ ∨ _))

/-- What is asked for, and the moments, are words of their sizes. -/
structure InRange (s : Snapshots) : Prop where
  days : c.cutoffAgeDays ≤ Word.max32
  minutes : c.staleAfterMinutes ≤ Word.max32
  now : now ≤ Word.maxSigned
  rows : ∀ r ∈ s.rows, Word.minSigned ≤ r.createdAt

variable {c now} {s : Snapshots}

theorem IsAbandoned.not_isExpired {r : SnapshotRow} (h : c.IsAbandoned now r) :
    ¬ c.IsExpired now r := by
  rintro ⟨-, hdone, -⟩
  rw [h.2.1] at hdone
  cases hdone

end SnapshotCleanup

theorem Snapshots.deleteWhere_congr {p q : SnapshotRow → Bool} {s : Snapshots}
    (h : ∀ r ∈ s.rows, p r = q r) : s.deleteWhere p = s.deleteWhere q := by
  have hnot : s.rows.filter (fun r => ! p r) = s.rows.filter fun r => ! q r :=
    List.filter_congr fun r hr => congrArg (!·) (h r hr)
  simp only [deleteWhere, List.filter_congr h, hnot]

namespace SnapshotCleanup

variable {c : SnapshotCleanup} {now : Int} {s : Snapshots}

theorem InRange.deleteCompletedBefore (h : c.InRange now s) :
    s.deleteCompletedBefore c.kind (Time.daysBefore now c.cutoffAgeDays) =
      s.deleteWhere (c.IsExpired now ·) := by
  refine Snapshots.deleteWhere_congr fun r hr => ?_
  have hcut := Time.lt_daysBefore (h.rows r hr) h.now h.days
  rw [Bool.eq_iff_iff]
  simp only [Bool.and_eq_true, decide_eq_true_eq, Bool.not_eq_true', hcut]
  exact and_assoc

theorem InRange.deleteInProgressBefore (h : c.InRange now s) :
    s.deleteInProgressBefore c.kind (Time.minutesBefore now c.staleAfterMinutes) =
      s.deleteWhere (c.IsAbandoned now ·) := by
  refine Snapshots.deleteWhere_congr fun r hr => ?_
  have hcut := Time.lt_minutesBefore (h.rows r hr) h.now h.minutes
  rw [Bool.eq_iff_iff]
  simp only [Bool.and_eq_true, decide_eq_true_eq, hcut]
  exact and_assoc

theorem InRange.deleteWhere (h : c.InRange now s) (doomed : SnapshotRow → Bool) :
    c.InRange now (s.deleteWhere doomed).2 :=
  { h with rows := fun r hr => h.rows r (List.mem_filter.1 hr).1 }

theorem perform_eq (h : c.InRange now s) :
    c.perform now s =
      (⟨(s.rows.filter (c.IsExpired now ·)).length, (s.rows.filter (c.IsAbandoned now ·)).length⟩,
        (s.deleteWhere (c.IsDue now ·)).2) := by
  have hleft : (s.rows.filter fun r => ! decide (c.IsExpired now r)).filter
      (c.IsAbandoned now ·) = s.rows.filter (c.IsAbandoned now ·) := by
    rw [List.filter_filter]
    refine List.filter_congr fun r _ => ?_
    by_cases habandoned : c.IsAbandoned now r
    · simp [habandoned, habandoned.not_isExpired]
    · simp [habandoned]
  have hdue : (fun r => decide (c.IsExpired now r) || decide (c.IsAbandoned now r)) =
      fun r => decide (c.IsDue now r) := funext fun r => (Bool.decide_or _ _).symm
  have htwice := Snapshots.deleteWhere_deleteWhere (c.IsExpired now ·) (c.IsAbandoned now ·) s
  rw [hdue] at htwice
  unfold perform
  simp only [h.deleteCompletedBefore, (h.deleteWhere _).deleteInProgressBefore]
  rw [htwice]
  refine Prod.ext (congrArg (SnapshotCleanupReport.mk _) ?_) rfl
  exact congrArg List.length hleft

end SnapshotCleanup

namespace Database

variable {db : Database}

theorem exists_request_iff (hinst : db.installed = true) (k : Kind) (now : Int)
    (fresh : String) :
    (∃ snapshot, (db.requestSnapshot k now fresh).1 = .ok snapshot) ↔ ¬ db.IsBusy k := by
  refine ⟨?_, fun hfree => request_of_not_busy hinst hfree now fresh⟩
  rintro ⟨snapshot, hok⟩ hbusy
  rw [request_of_busy hinst hbusy] at hok
  cases hok

theorem isBusy_cleaned (c : SnapshotCleanup) (now : Int) (db : Database) :
    (db.withSnapshots (db.snapshots.deleteWhere (c.IsDue now ·)).2).IsBusy c.kind ↔
      ∃ r ∈ db.snapshots.rows, r.kind = c.kind ∧ r.isProcessing = true ∧
        now - c.staleAfterMinutes * millisPerMinute ≤ r.createdAt := by
  constructor
  · rintro ⟨r, hr, hk, hopen⟩
    obtain ⟨hr, hspared⟩ := List.mem_filter.1 hr
    have hdue : ¬ c.IsDue now r := by simpa using hspared
    exact ⟨r, hr, hk, hopen, Int.not_lt.1 fun hold => hdue (Or.inr ⟨hk, hopen, hold⟩)⟩
  · rintro ⟨r, hr, hk, hopen, hyoung⟩
    have hdue : ¬ c.IsDue now r := by
      rintro (⟨-, hdone, -⟩ | ⟨-, -, hold⟩)
      · rw [hopen] at hdone
        cases hdone
      · exact Int.not_lt.2 hyoung hold
    exact ⟨r, List.mem_filter.2 ⟨hr, by simpa using hdue⟩, hk, hopen⟩

/-- A clean-up removes what is due, with all its chunks, and nothing else, and says how much
there was for either reason. A request right after it is granted exactly if no snapshot of the
kind had been processing for less than the time that it is given. -/
theorem cleanup_removes_due (hinst : db.installed = true)
    (hids : (db.snapshots.rows.map (·.id)).Nodup) {c : SnapshotCleanup} {now : Int}
    (hrange : c.InRange now db.snapshots) :
    ∃ report after, db.cleanup c now = (.ok report, db.withSnapshots after) ∧
      after.issued = db.snapshots.issued ∧
      after.rows = db.snapshots.rows.filter (fun r => ¬ c.IsDue now r) ∧
      after.chunks = db.snapshots.chunks.filter
        (fun chunk => ¬ ∃ r ∈ db.snapshots.rows, c.IsDue now r ∧ r.id = chunk.snapshot) ∧
      (∀ r ∈ db.snapshots.rows, ¬ c.IsDue now r →
        r ∈ after.rows ∧ after.own r.id = db.snapshots.own r.id) ∧
      report.completed = (db.snapshots.rows.filter (c.IsExpired now ·)).length ∧
      report.stale = (db.snapshots.rows.filter (c.IsAbandoned now ·)).length ∧
      ∀ later fresh,
        (∃ snapshot, ((db.withSnapshots after).requestSnapshot c.kind later fresh).1 =
          .ok snapshot) ↔
        ¬ ∃ r ∈ db.snapshots.rows, r.kind = c.kind ∧ r.isProcessing = true ∧
          now - c.staleAfterMinutes * millisPerMinute ≤ r.createdAt := by
  refine ⟨_, (db.snapshots.deleteWhere (c.IsDue now ·)).2,
    onSnapshots_of_ok hinst (congrArg Except.ok (SnapshotCleanup.perform_eq hrange)), rfl, ?_,
    ?_, fun r hr hdue => ⟨?_, ?_⟩, rfl, rfl, fun later fresh => ?_⟩
  · exact List.filter_congr fun r _ => decide_not.symm
  · refine List.filter_congr fun chunk _ => ?_
    rw [Bool.eq_iff_iff]
    simp [List.any_filter]
  · exact List.mem_filter.2 ⟨hr, by simpa using hdue⟩
  · exact Snapshots.own_deleteWhere_of_spared hids hr (decide_eq_false hdue)
  · have hthere : (db.withSnapshots (db.snapshots.deleteWhere (c.IsDue now ·)).2).installed =
        true := hinst
    rw [exists_request_iff hthere, isBusy_cleaned]

/-- A database with complete snapshots on both sides of a day, a snapshot that has been
processing for more than an hour, and one of the other kind that is as old. -/
def aging : Database :=
  { Database.empty with
    installed := true
    snapshots :=
      { rows := [{ SnapshotRow.placeholder 1 "old" .process 13599999 with completedAt := some 0 },
          { SnapshotRow.placeholder 2 "young" .process 13600000 with completedAt := some 0 },
          .placeholder 3 "stuck" .process 96399999, .placeholder 4 "other" .service 0]
        chunks := [⟨1, "o", none, "s", none, 0, "[]"⟩, ⟨2, "o", none, "s", none, 0, "[]"⟩]
        issued := 4 } }

/-- The second of the complete ones stays, with its chunk, and so does the other kind. -/
theorem cleanup_removes_due_aging :
    aging.installed = true ∧ (aging.snapshots.rows.map (·.id)).Nodup ∧
      SnapshotCleanup.InRange ⟨.process, 1, 60⟩ 100000000 aging.snapshots ∧
      ∃ after, aging.cleanup ⟨.process, 1, 60⟩ 100000000 =
          (.ok ⟨1, 1⟩, aging.withSnapshots after) ∧
        after.rows.map (·.guid) = ["young", "other"] ∧ after.chunks.map (·.snapshot) = [2] ∧
        ∃ snapshot, ((aging.withSnapshots after).requestSnapshot .process 100000000 "next").1 =
          .ok snapshot := by
  have hids : (aging.snapshots.rows.map (·.id)).Nodup := by decide
  have hrange : SnapshotCleanup.InRange ⟨.process, 1, 60⟩ 100000000 aging.snapshots := by
    constructor <;> decide
  obtain ⟨report, after, hcleanup, -, hrows, hchunks, -, hcompleted, hstale, hrequest⟩ :=
    cleanup_removes_due rfl hids hrange
  refine ⟨rfl, hids, hrange, after, ?_, ?_, ?_, (hrequest _ _).2 (by decide)⟩
  · obtain ⟨completed, stale⟩ := report
    obtain rfl : completed = 1 := hcompleted
    obtain rfl : stale = 1 := hstale
    exact hcleanup
  · rw [hrows]
    decide
  · rw [hchunks]
    decide

end Database

end Metering
