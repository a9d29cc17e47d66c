import Metering.Proofs.Orphans

/-!
# Watermarks outlive a run

A run may end a consumer's registration and it may delete the event of a
watermark, but no consumer is left behind with a watermark that the run has
deleted. Each mode has its own reason. Under normal rules that keep what is
unprocessed, an event that a consumer names is not below the lowest watermark,
so it was never selected. Over an overfull ledger it may be selected, and then
the registration is gone before the first batch. Neither reason mentions how
many batches were committed, so the run may fail in any of them.
-/

namespace Metering.Retention

open Metering.Time (daysBefore)

variable {p : Policy} {k : Kind} {b : Books}

theorem not_isExpendable_watermark {cutoff : Int} (hkeep : p.keepUnprocessed = true)
    {c : Registration} (hc : c ∈ b.consumers) {w : EventRow} (hw : w ∈ b.ledger.rows)
    (hguid : c.watermark = w.guid) : ¬ IsExpendable p k .normal cutoff b w := by
  intro hexp
  have hlt := hexp.unprotected.processed rfl hkeep w hw ⟨c, hc, hguid⟩
  omega

theorem mem_of_mem_consumers_run (hl : b.ledger.WellFormed) {estimator : Estimator}
    {now : Int} {c : Registration}
    (hc : c ∈ (run p k estimator now b).2.consumers) : c ∈ b.consumers := by
  rcases run_cases hl p k estimator now with
    ⟨e, -, herr⟩ | ⟨mode, estimated, gone, hmode, -, -, -, -⟩
  · rwa [herr] at hc
  · exact ((mem_consumers_run hl hmode now).1 hc).1

/-- However a run ends, a consumer that is registered after it was registered
before it, and if the event of its watermark was in the ledger, it is there
still and is found under the watermark. Under normal rules this asks that the
policy keeps what is unprocessed; over an overfull ledger it asks nothing. -/
theorem run_keeps_watermarks (hl : b.ledger.WellFormed) {estimator : Estimator}
    (hkeep : ∀ estimated, selectMode p k estimator b = .ok (.normal, estimated) →
      p.keepUnprocessed = true)
    (now : Int) {c : Registration}
    (hc : c ∈ (run p k estimator now b).2.consumers) :
    c ∈ b.consumers ∧ ∀ w ∈ b.ledger.rows, w.guid = c.watermark →
      w ∈ (run p k estimator now b).2.ledger.rows ∧
      (run p k estimator now b).2.ledger.row? c.watermark = some w := by
  have hbefore := mem_of_mem_consumers_run hl hc
  refine ⟨hbefore, fun w hw hguid => ?_⟩
  have hstays : w ∈ (run p k estimator now b).2.ledger.rows := by
    refine Classical.byContradiction fun hgone => ?_
    obtain ⟨mode, estimated, hmode, hexp⟩ := expendable_of_not_mem_run hl hw hgone
    cases mode with
    | normal =>
        exact not_isExpendable_watermark (hkeep estimated hmode) hbefore hw hguid.symm hexp
    | sizeExceeded =>
        exact ((mem_consumers_run hl hmode now).1 hc).2 ⟨rfl, w, hw, hguid, hexp⟩
  refine ⟨hstays, ?_⟩
  rw [← hguid]
  exact (wellFormed_run hl p k estimator now).row?_guid hstays

/-- The books of an overfull ledger whose second event is guarded. One consumer
has come to that event, two to the last one, and one to an event that is gone. -/
def sharedWatermarks : Books :=
  { overfullPinned with
    consumers := [atPinned, ⟨"audit", "third", 0, 0⟩, ⟨"export", "third", 0, 0⟩,
      ⟨"stale", "gone", 0, 0⟩] }

/-- A run that fails at its second batch takes back the registration that named
a selected event, and the two that share a watermark keep it. -/
theorem run_sharedWatermarks :
    selectMode oneRow .process .exact sharedWatermarks = .ok (.sizeExceeded, some 3) ∧
    (∃ cause, (run oneRow .process .exact 1700000000000 sharedWatermarks).1 =
      .error (.deletionFailed Kind.process.eventTable cause)) ∧
    atPinned ∉ (run oneRow .process .exact 1700000000000 sharedWatermarks).2.consumers ∧
    ∀ c ∈ sharedWatermarks.consumers, c.watermark = "third" →
      c ∈ (run oneRow .process .exact 1700000000000 sharedWatermarks).2.consumers ∧
      ∃ w, (run oneRow .process .exact 1700000000000
        sharedWatermarks).2.ledger.row? c.watermark = some w := by
  have hl : sharedWatermarks.ledger.WellFormed := overfullPinned_wellFormed
  have hmode : selectMode oneRow .process .exact sharedWatermarks =
      .ok (.sizeExceeded, some 3) := rfl
  have hexp : IsExpendable oneRow .process .sizeExceeded
      (daysBefore 1700000000000 oneRow.cutoffAgeDays) sharedWatermarks pinned := by decide
  refine ⟨hmode, (run_of_guarded hl hmode _ (by decide) hexp (by decide)).1, ?_, ?_⟩
  · rw [mem_consumers_run hl hmode]
    exact fun hstays => hstays.2 ⟨rfl, pinned, by decide, rfl, hexp⟩
  · intro c hc hthird
    have hkept : c ∈ (run oneRow .process .exact 1700000000000
        sharedWatermarks).2.consumers := by
      rw [mem_consumers_run hl hmode, hthird]
      exact ⟨hc, by decide⟩
    have hnormal : ∀ estimated, selectMode oneRow .process .exact sharedWatermarks =
        .ok (.normal, estimated) → oneRow.keepUnprocessed = true := fun _ _ => rfl
    obtain ⟨-, hfound⟩ := run_keeps_watermarks hl hnormal 1700000000000 hkept
    exact ⟨hkept, _, (hfound (sharedWatermarks.ledger.rows.getLast (by decide))
      (by decide) hthird.symm).2⟩

end Metering.Retention
