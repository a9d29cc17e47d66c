import Metering.Proofs.Consumption
import Metering.Proofs.Watermarks

/-!
# A dry run rehearses the run

A dry run and a run settle the mode and select the events alike. After that they
part: the dry run counts what the run deletes. It takes the number of selected
events for the number of events that will go, and the number of registrations whose
watermark is selected for the number that will be taken back. The run has other ways
to come to its figures. It strikes the registrations from the registry, where two may
name one event and some name none; and it adds up what its batches have deleted. So
there are two counts to compare, on the books and not on the reports
(`deletedRows_eq`, `length_filter_orphans`), and the rest is one report in two
copies.

A run may fail where the dry run did not, at an event that is guarded. So the
rehearsal is of runs that end well.
-/

namespace Metering.Retention

open Metering.Time (daysBefore)

variable {p : Policy} {k : Kind} {b b' : Books} {estimator : Estimator} {now : Int}

theorem deletedRows_eq (hl : b.ledger.WellFormed) {report : Report}
    (hok : (run p k estimator now b).1 = .ok report) :
    report.deletedRows = report.candidateRows := by
  rcases run_cases hl p k estimator now with
    ⟨e, -, herr⟩ | ⟨mode, estimated, gone, -, -, -, -, hall⟩
  · rw [herr] at hok
    cases hok
  · obtain ⟨rfl, -, hcand, hcount, -⟩ := hall report hok
    have hsplit := length_without ((candidates p k mode (daysBefore now p.cutoffAgeDays)
      b).map (·.id)) b.ledger
    have hselected : b.ledger.rows.filter (fun r => ((candidates p k mode
        (daysBefore now p.cutoffAgeDays) b).map (·.id)).contains r.id) =
        candidates p k mode (daysBefore now p.cutoffAgeDays) b := by
      rw [candidates_eq_filter]
      exact List.filter_congr fun r hr => hl.contains_id_filter _ hr
    rw [hselected, ← hcand] at hsplit
    omega

theorem length_filter_orphans (mode : Mode) (selected : List EventRow) (b : Books) :
    (b.consumers.filter fun c => ! (orphans mode selected b).contains c).length +
      (orphans mode selected b).length = b.consumers.length := by
  have hsplit := List.length_eq_countP_add_countP
    (fun c : Registration => decide (mode = .sizeExceeded) && isOrphaned selected c)
    (l := b.consumers)
  have horphans : orphans mode selected b = b.consumers.filter fun c =>
      decide (mode = .sizeExceeded) && isOrphaned selected c := by
    unfold orphans
    split
    · next h => simp [h]
    · next h => simp [h]
  rw [filter_orphans, horphans, ← List.countP_eq_length_filter,
    ← List.countP_eq_length_filter, hsplit, Nat.add_comm]
  simp

theorem dryRun_eq (p : Policy) (k : Kind) (estimator : Estimator) (now : Int) (b : Books) :
    dryRun p k estimator now b =
      match selectMode p k estimator b with
      | .error e => .error e
      | .ok (mode, estimated) =>
        let cutoff := daysBefore now p.cutoffAgeDays
        let selected := candidates p k mode cutoff b
        .ok { Report.start k mode estimated cutoff selected true with
          removedConsumers := (orphans mode selected b).length } := by
  unfold dryRun dryRunOn
  cases selectMode p k estimator b <;> rfl

/-- Before a run that ends well a dry run foretells its report, but for the number of
batches; and it foretells by how much the registry shrinks. -/
theorem dryRun_of_run (hl : b.ledger.WellFormed) {report : Report}
    (hrun : run p k estimator now b = (.ok report, b')) :
    ∃ foretold, dryRun p k estimator now b = .ok foretold ∧
      report = { foretold with
        deletedRows := foretold.candidateRows, batches := report.batches, dryRun := false } ∧
      b'.consumers.length + foretold.removedConsumers = b.consumers.length := by
  have hdeleted := deletedRows_eq hl (congrArg Prod.fst hrun)
  rw [run_eq] at hrun
  rw [dryRun_eq]
  cases hmode : selectMode p k estimator b with
  | error e =>
      rw [hmode] at hrun
      cases (Prod.mk.inj hrun).1
  | ok chosen =>
      obtain ⟨mode, estimated⟩ := chosen
      rw [hmode] at hrun
      simp only [] at hrun
      split at hrun
      · cases (Prod.mk.inj hrun).1
      · obtain ⟨hreport, rfl⟩ := Prod.mk.inj hrun
        obtain rfl := Except.ok.inj hreport
        refine ⟨_, rfl, ?_, length_filter_orphans mode _ b⟩
        simp only [Report.start] at hdeleted ⊢
        rw [hdeleted]

end Metering.Retention

namespace Metering.Database

open Metering.Retention (Policy)

variable {db : Database} {k : Kind}

theorem dry_run_unchanged (db : Database) (p : Policy) (k : Kind) (estimator : Estimator)
    (now : Int) : (db.retain p k estimator now true).2 = db := by
  cases hinst : db.installed with
  | false =>
      obtain ⟨e, herr⟩ := retain_of_not_installed (k := k) hinst p estimator now true
      rw [herr]
  | true => rw [retain_dry hinst]

/-- A dry run changes nothing, and if a run that follows it at the same moment ends
well, the dry run has told its report: the table, the mode and the estimate that
decided it, the cutoff, how many events may go, which are as many as go, and how many
registrations are taken back, which is by how many the registry is shorter. -/
theorem dry_run_foretells_run (hl : (db.ledger k).WellFormed) (p : Policy)
    (estimator : Estimator) (now : Int) :
    (db.retain p k estimator now true).2 = db ∧
    ∀ report after, (db.retain p k estimator now true).2.retain p k estimator now false =
        (.ok report, after) →
      ∃ foretold, (db.retain p k estimator now true).1 = .ok foretold ∧
        report = { foretold with
          deletedRows := foretold.candidateRows, batches := report.batches, dryRun := false } ∧
        (after.consumers k).length + foretold.removedConsumers =
          (db.consumers k).length := by
  have hsame := dry_run_unchanged db p k estimator now
  refine ⟨hsame, fun report after hrun => ?_⟩
  rw [hsame] at hrun
  cases hinst : db.installed with
  | false =>
      obtain ⟨e, herr⟩ := retain_of_not_installed (k := k) hinst p estimator now false
      rw [herr] at hrun
      cases (Prod.mk.inj hrun).1
  | true =>
      rw [retain_real hinst] at hrun
      obtain ⟨hanswer, rfl⟩ := Prod.mk.inj hrun
      obtain ⟨foretold, hforetold, hreport, hcount⟩ :=
        Retention.dryRun_of_run hl (Prod.ext hanswer rfl)
      refine ⟨foretold, ?_, hreport, ?_⟩
      · rw [retain_dry hinst]
        exact hforetold
      · rw [consumers, books_withBooks]
        exact hcount

/-- A database with the books of an overfull ledger. Of four registrations two share
a watermark that stays, one names an event that goes, and one an event that is gone. -/
def crowded : Database :=
  fresh.withBooks .process { Retention.sharedWatermarks with
    ledger := { Retention.sharedWatermarks.ledger with guarded := [] } }

theorem crowded_wellFormed : (crowded.ledger .process).WellFormed := by
  constructor <;> decide

/-- The dry run tells of two events and one registration, and so it comes. -/
theorem retain_crowded :
    ∃ foretold report after,
      crowded.retain Retention.oneRow .process .exact 1700000000000 true =
        (.ok foretold, crowded) ∧
      foretold.candidateRows = 2 ∧ foretold.removedConsumers = 1 ∧
      crowded.retain Retention.oneRow .process .exact 1700000000000 false =
        (.ok report, after) ∧
      report.mode = .sizeExceeded ∧ report.deletedRows = 2 ∧
      (after.consumers .process).length = 3 := by
  have hmode : Retention.selectMode Retention.oneRow .process .exact
      (crowded.books.get .process) = .ok (.sizeExceeded, some 3) := rfl
  obtain ⟨report, left, hrun⟩ :=
    Retention.run_of_unguarded hmode (by decide) 1700000000000
  have hreal : crowded.retain Retention.oneRow .process .exact 1700000000000 false =
      (.ok report, crowded.withBooks .process left) := by
    rw [retain_real rfl, hrun]
  obtain ⟨hsame, hall⟩ := dry_run_foretells_run crowded_wellFormed Retention.oneRow .exact
    1700000000000
  obtain ⟨foretold, hforetold, hreport, hcount⟩ := hall report _ (by rw [hsame]; exact hreal)
  have hdry : crowded.retain Retention.oneRow .process .exact 1700000000000 true =
      (.ok foretold, crowded) := Prod.ext hforetold hsame
  have hselected : foretold.candidateRows = 2 ∧ foretold.removedConsumers = 1 ∧
      foretold.mode = .sizeExceeded := by
    rw [retain_dry rfl] at hforetold
    obtain rfl := Except.ok.inj hforetold
    decide
  refine ⟨foretold, report, _, hdry, hselected.1, hselected.2.1, hreal, ?_, ?_, ?_⟩
  · rw [hreport]
    exact hselected.2.2
  · rw [hreport]
    exact hselected.1
  · rw [hselected.2.1] at hcount
    exact Nat.add_right_cancel hcount

end Metering.Database
