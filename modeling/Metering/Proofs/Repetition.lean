import Metering.Proofs.Protections
import Metering.Proofs.Resuming

/-!
# A run leaves nothing for the next

When a run has ended well, the same policy at the same moment finds nothing more
to delete. That is no consequence of its having deleted what it selected: the next
run judges the events anew, on books in which the newest event, the lowest
watermark and the closing events may be others. In the same mode the limits have
not moved (`IsHalfway.isUnprotected_iff`), and an event that was kept for want of a
closing one has not been given one. After a run over an overfull ledger the next may
be one under normal rules; these are stricter (`Occasion.stricter_normal`), so what
they select the first run had selected.

The other order is left out, and has to be: when the ceiling is found to be exceeded
only by the second run, what the first one kept may go.
-/

namespace Metering.Retention

open Metering.Time (daysBefore)

variable {p : Policy} {k : Kind} {mode later : Mode} {b b' : Books}

/-- When all that a run selected is gone, nothing is left to select: in its mode, or
under normal rules. -/
theorem candidates_of_done (hl : b.ledger.WellFormed) {now : Int}
    (h : IsHalfway p k mode (daysBefore now p.cutoffAgeDays) b b'
      ((candidates p k mode (daysBefore now p.cutoffAgeDays) b).map (·.id)))
    (hmode : later = mode ∨ later = .normal) :
    candidates p k later (daysBefore now p.cutoffAgeDays) b' = [] := by
  refine List.eq_nil_iff_forall_not_mem.2 fun r hr => ?_
  obtain ⟨hr, hexp⟩ := mem_candidates.1 hr
  have hsame : IsExpendable p k mode (daysBefore now p.cutoffAgeDays) b' r := by
    rcases hmode with rfl | rfl
    · exact hexp
    · exact (Occasion.stricter_normal ⟨p, mode, now, b'⟩).isExpendable hexp
  have hselected := mem_candidates.2 ⟨h.mem_of_mem hr, h.isExpendable_before hl hsame⟩
  rw [h.ledger, Ledger.mem_without] at hr
  exact hr.2 (List.mem_map_of_mem hselected)

theorem run_of_candidates_nil {estimator : Estimator} {estimated : Option Nat}
    (hmode : selectMode p k estimator b = .ok (mode, estimated)) {now : Int}
    (hnone : candidates p k mode (daysBefore now p.cutoffAgeDays) b = []) :
    run p k estimator now b =
      (.ok (Report.start k mode estimated (daysBefore now p.cutoffAgeDays) [] false),
        b.analyze) := by
  have hidle : deleteInBatches p.batchSize [] b.ledger = (.ok .none, b.ledger) := by
    rw [deleteInBatches_of_rising List.Pairwise.nil (by simp),
      deleteRemaining_of_none ((getLast?_take_eq_none (by omega)).2 rfl)]
  have hnobody : orphans mode [] b = [] := by
    unfold orphans isOrphaned
    split <;> simp
  have hall : b.consumers.filter (fun c => ! ([] : Registry).contains c) = b.consumers :=
    List.filter_eq_self.2 (by simp)
  rw [run_eq, hmode]
  simp only [hnone, List.map_nil, hidle, hnobody, hall]
  rfl

/-- After a run that ended well, one of the same policy at the same moment has nothing
to do, unless it finds the ceiling exceeded where the first one did not. It ends well,
its report counts nothing, and the books are as they were: the events, the
registrations and the recorded row count. -/
theorem run_again_finds_nothing (hl : b.ledger.WellFormed) {first second : Estimator}
    {now : Int} {report : Report} {left : Books}
    (hrun : run p k first now b = (.ok report, left)) {estimated : Option Nat}
    (hmode : selectMode p k second left = .ok (later, estimated))
    (horder : ¬ (report.mode = .normal ∧ later = .sizeExceeded)) :
    ∃ again, run p k second now left = (.ok again, left) ∧ again.mode = later ∧
      again.candidateRows = 0 ∧ again.deletedRows = 0 ∧ again.removedConsumers = 0 ∧
      again.batches = 0 := by
  have hok : (run p k first now b).1 = .ok report := congrArg Prod.fst hrun
  have hleft : (run p k first now b).2 = left := congrArg Prod.snd hrun
  rcases run_cases hl p k first now with ⟨e, -, herr⟩ | ⟨mode, before, gone, hfirst, -⟩
  · rw [herr] at hok
    cases hok
  · obtain ⟨gone, hpart, hledger, hstay, hall⟩ := run_settled hl hfirst now
    obtain ⟨rfl, hreport⟩ := hall report hok
    rw [hleft] at hledger hstay
    have hsame : later = mode ∨ later = .normal := by
      rw [hreport] at horder
      cases mode <;> cases later <;> simp at horder ⊢
    have hnone := candidates_of_done hl ⟨hpart, hledger, hstay⟩ hsame
    have hcounted : left.analyze = left := by
      have hstat := statistics_run_of_ok hok
      rw [hleft] at hstat
      unfold Books.analyze
      rw [← hstat]
    have hidle := run_of_candidates_nil hmode hnone
    rw [hcounted] at hidle
    exact ⟨_, hidle, rfl, rfl, rfl, rfl, rfl⟩

/-- The books of an overfull ledger in which nothing is guarded. -/
def overfull : Books :=
  { overfullPinned with ledger := { overfullPinned.ledger with guarded := [] } }

theorem overfull_wellFormed : overfull.ledger.WellFormed := by
  constructor <;> decide

/-- The first run brings the ledger down to the row that the policy allows, the
second one is under normal rules. -/
theorem run_overfull_again :
    ∃ report left again, run oneRow .process .exact 1700000000000 overfull =
        (.ok report, left) ∧ report.mode = .sizeExceeded ∧
      run oneRow .process .exact 1700000000000 left = (.ok again, left) ∧
      again.mode = .normal ∧ again.candidateRows = 0 := by
  have hmode : selectMode oneRow .process .exact overfull = .ok (.sizeExceeded, some 3) := rfl
  obtain ⟨report, left, hrun⟩ := run_of_unguarded hmode (by decide) 1700000000000
  have hok := congrArg Prod.fst hrun
  have hexceeded : report.mode = .sizeExceeded := report_mode overfull_wellFormed hmode hok
  have hleft := run_eq_residue overfull_wellFormed hmode hok
  rw [hrun] at hleft
  have hsize : left.size = 1 := by
    rw [Books.size, show left.ledger.rows = _ from congrArg Prod.fst hleft]
    decide
  have hnormal : selectMode oneRow .process .exact left = .ok (.normal, some 1) := by
    rw [selectMode, Estimator.estimate, hsize]
    rfl
  obtain ⟨again, hagain, hlater, hnone, -⟩ := run_again_finds_nothing overfull_wellFormed
    hrun hnormal (by rw [hexceeded]; decide)
  exact ⟨report, left, again, hrun, hexceeded, hagain, hlater, hnone⟩

end Metering.Retention
