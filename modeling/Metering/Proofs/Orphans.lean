import Metering.Proofs.Retention

/-!
# Registrations that a run takes back

A run over an overfull ledger forgets the consumers whose watermark it has
selected before it deletes the first event, and deletes in batches after that.
So a registration is lost for an event that may go, by the state of the books
before the run, and for nothing else. Whether the event does go depends on how
far the batches come. If the run ends well it is gone. If a batch fails, the
registry has run ahead of the ledger: the watermark may still be there, and is
left, with all that was selected after it, for the next run.
-/

namespace Metering.Retention

open Metering.Time (daysBefore)

variable {p : Policy} {k : Kind} {mode : Mode} {b : Books}

theorem mem_consumers_run (hl : b.ledger.WellFormed) {estimator : Estimator}
    {estimated : Option Nat} (hmode : selectMode p k estimator b = .ok (mode, estimated))
    (now : Int) {c : Registration} :
    c ∈ (run p k estimator now b).2.consumers ↔
      c ∈ b.consumers ∧ ¬ (mode = .sizeExceeded ∧ ∃ w ∈ b.ledger.rows,
        w.guid = c.watermark ∧
          IsExpendable p k mode (daysBefore now p.cutoffAgeDays) b w) := by
  obtain ⟨gone, -, -, hleft, -⟩ := run_settled hl hmode now
  have horphan : isOrphaned (candidates p k mode (daysBefore now p.cutoffAgeDays) b) c =
      true ↔ ∃ w ∈ b.ledger.rows, w.guid = c.watermark ∧
        IsExpendable p k mode (daysBefore now p.cutoffAgeDays) b w := by
    simp only [isOrphaned, List.any_eq_true, decide_eq_true_eq, mem_candidates]
    constructor
    · rintro ⟨w, ⟨hw, hexp⟩, hguid⟩
      exact ⟨w, hw, hguid, hexp⟩
    · rintro ⟨w, hw, hguid, hexp⟩
      exact ⟨w, ⟨hw, hexp⟩, hguid⟩
  rw [hleft, List.mem_filter, ← horphan, Bool.not_eq_true', ← Bool.not_eq_true,
    Bool.and_eq_true, decide_eq_true_eq]

theorem deletionFailed_of_run_eq_error {estimator : Estimator} {now : Int}
    {chosen : Mode × Option Nat} (hmode : selectMode p k estimator b = .ok chosen)
    {e : Error} (he : (run p k estimator now b).1 = .error e) :
    ∃ cause, e = .deletionFailed k.eventTable cause := by
  rw [run_eq, hmode] at he
  simp only [] at he
  split at he
  · exact ⟨_, (Except.error.inj he).symm⟩
  · cases he

/-- Where a run has left an event that it selected, it has left all that come
after it. -/
theorem lt_of_deleted_of_kept (hl : b.ledger.WellFormed) {estimator : Estimator}
    {estimated : Option Nat} (hmode : selectMode p k estimator b = .ok (mode, estimated))
    {now : Int} {w r : EventRow}
    (hexp : IsExpendable p k mode (daysBefore now p.cutoffAgeDays) b w)
    (hw : w ∈ (run p k estimator now b).2.ledger.rows) (hr : r ∈ b.ledger.rows)
    (hgone : r ∉ (run p k estimator now b).2.ledger.rows) : r.id < w.id := by
  obtain ⟨gone, hpart, hleft, -, -⟩ := run_settled hl hmode now
  rw [hleft, Ledger.mem_without] at hw hgone
  have hrgone : r.id ∈ gone := by simpa [hr] using hgone
  rcases eq_or_before hl.rising hr hw.1 with rfl | hlt | hlt
  · exact absurd hrgone hw.2
  · exact hlt
  · -- the batches would have come to `w` before they came to `r`
    have hwgone : w.id ∈ gone := mem_of_prefix_of_lt hpart (candidates_rising hl ..)
      hrgone (List.mem_map_of_mem (mem_candidates.2 ⟨hw.1, hexp⟩)) hlt
    exact absurd hwgone hw.2

theorem run_of_guarded (hl : b.ledger.WellFormed) {estimator : Estimator}
    {estimated : Option Nat} (hmode : selectMode p k estimator b = .ok (mode, estimated))
    (now : Int) {w : EventRow} (hw : w ∈ b.ledger.rows)
    (hexp : IsExpendable p k mode (daysBefore now p.cutoffAgeDays) b w)
    (hguard : w.guid ∈ b.ledger.guarded) :
    (∃ cause, (run p k estimator now b).1 = .error (.deletionFailed k.eventTable cause)) ∧
      w ∈ (run p k estimator now b).2.ledger.rows := by
  have hselected : w.id ∈ (candidates p k mode (daysBefore now p.cutoffAgeDays) b).map
      (·.id) := List.mem_map_of_mem (mem_candidates.2 ⟨hw, hexp⟩)
  obtain ⟨l, hdel, hkept⟩ := deleteInBatches_of_guarded p.batchSize
    (candidates_rising hl ..) (candidates_low hl) hw hselected hguard
  rw [run_eq, hmode]
  simp only [hdel]
  exact ⟨⟨_, rfl⟩, hkept⟩

/-- Over an overfull ledger, a registration that a run takes back named an
event that might go, by the state of the books before the run. If the run ends
well no event of that guid is left. If the event is left, a batch failed, and
all that the batches before it had deleted came before the event. -/
theorem run_forgets_only_selected (hl : b.ledger.WellFormed) {estimator : Estimator}
    {estimated : Option Nat}
    (hmode : selectMode p k estimator b = .ok (.sizeExceeded, estimated)) (now : Int)
    {c : Registration} (hc : c ∈ b.consumers)
    (hlost : c ∉ (run p k estimator now b).2.consumers) :
    ∃ w ∈ b.ledger.rows, w.guid = c.watermark ∧
      IsExpendable p k .sizeExceeded (daysBefore now p.cutoffAgeDays) b w ∧
      (∀ report, (run p k estimator now b).1 = .ok report →
        (run p k estimator now b).2.ledger.contains c.watermark = false) ∧
      (w ∈ (run p k estimator now b).2.ledger.rows →
        (∃ cause, (run p k estimator now b).1 =
          .error (.deletionFailed k.eventTable cause)) ∧
        ∀ r ∈ b.ledger.rows, r ∉ (run p k estimator now b).2.ledger.rows →
          r.id < w.id) := by
  rw [mem_consumers_run hl hmode] at hlost
  obtain ⟨-, w, hw, hguid, hexp⟩ :=
    Classical.not_not.1 fun hkept => hlost ⟨hc, hkept⟩
  have hgone : ∀ report, (run p k estimator now b).1 = .ok report →
      w ∉ (run p k estimator now b).2.ledger.rows := fun report hok =>
    not_mem_run_of_expendable hl hok hw (by rwa [report_mode hl hmode hok])
  refine ⟨w, hw, hguid, hexp, ?_, ?_⟩
  · intro report hok
    rw [Ledger.contains, List.any_eq_false]
    intro r hr hsame
    have hsame : r.guid = c.watermark := by simpa using hsame
    rw [hl.eq_of_guid (mem_of_mem_run hl hr) hw (hsame.trans hguid.symm)] at hr
    exact hgone report hok hr
  · intro hkept
    refine ⟨?_, fun r hr hrgone => lt_of_deleted_of_kept hl hmode hexp hkept hr hrgone⟩
    cases hrun : (run p k estimator now b).1 with
    | ok report => exact absurd hkept (hgone report hrun)
    | error e =>
        obtain ⟨cause, rfl⟩ := deletionFailed_of_run_eq_error hmode hrun
        exact ⟨cause, rfl⟩

/-! ## A registry that has run ahead -/

/-- A month of history, but one row at most; one event is deleted at a time. -/
def oneRow : Policy := ⟨31, true, true, true, 1, 1⟩

/-- A guarded event. -/
def pinned : EventRow :=
  ⟨2, "second", 1696118400000, "STOPPED", "A", none, none, none, none, "{}"⟩

/-- The registration of a consumer that has come to that event. -/
def atPinned : Registration := ⟨"billing", "second", 1700000000000, 1700000000000⟩

/-- The books of an overfull ledger that holds the event. -/
def overfullPinned : Books :=
  ⟨⟨[⟨1, "first", 1696118400000, "STARTED", "A", none, none, none, none, "{}"⟩, pinned,
      ⟨3, "third", 1699920000000, "BUILDPACK_SET", "B", none, none, none, none, "{}"⟩],
    3, ["second"]⟩, [atPinned], []⟩

theorem overfullPinned_wellFormed : overfullPinned.ledger.WellFormed := by
  constructor <;> decide

/-- The run fails at the guarded event, and the consumer that had come to it is
not registered any more. -/
theorem run_forgets_pinned :
    selectMode oneRow .process .exact overfullPinned = .ok (.sizeExceeded, some 3) ∧
    ∃ cause left, run oneRow .process .exact 1700000000000 overfullPinned =
        (.error (.deletionFailed Kind.process.eventTable cause), left) ∧
      atPinned ∈ overfullPinned.consumers ∧ atPinned ∉ left.consumers ∧
      pinned ∈ left.ledger.rows ∧ pinned.guid = atPinned.watermark := by
  have hmode : selectMode oneRow .process .exact overfullPinned =
      .ok (.sizeExceeded, some 3) := rfl
  have hexp : IsExpendable oneRow .process .sizeExceeded
      (daysBefore 1700000000000 oneRow.cutoffAgeDays) overfullPinned pinned := by decide
  obtain ⟨⟨cause, herr⟩, hkept⟩ := run_of_guarded overfullPinned_wellFormed hmode
    1700000000000 (by decide) hexp (by decide)
  refine ⟨hmode, cause, _, Prod.ext herr rfl, by decide, ?_, hkept, rfl⟩
  rw [mem_consumers_run overfullPinned_wellFormed hmode]
  exact fun hstays => hstays.2 ⟨rfl, pinned, by decide, rfl, hexp⟩

/-- The event that the consumer had come to was selected, and only the one
before it is deleted. -/
theorem run_overfullPinned :
    atPinned ∉ (run oneRow .process .exact 1700000000000 overfullPinned).2.consumers ∧
    ∃ w ∈ overfullPinned.ledger.rows, w.guid = "second" ∧
      ∀ r ∈ overfullPinned.ledger.rows,
        w ∈ (run oneRow .process .exact 1700000000000 overfullPinned).2.ledger.rows →
        r ∉ (run oneRow .process .exact 1700000000000 overfullPinned).2.ledger.rows →
        r.id < w.id := by
  have hmode : selectMode oneRow .process .exact overfullPinned =
      .ok (.sizeExceeded, some 3) := rfl
  have hlost : atPinned ∉
      (run oneRow .process .exact 1700000000000 overfullPinned).2.consumers := by
    rw [mem_consumers_run overfullPinned_wellFormed hmode]
    exact fun hstays => hstays.2 ⟨rfl, pinned, by decide, rfl, by decide⟩
  obtain ⟨w, hw, hguid, -, -, hbefore⟩ := run_forgets_only_selected
    overfullPinned_wellFormed hmode 1700000000000 (by decide) hlost
  exact ⟨hlost, w, hw, hguid, fun r hr hkept hgone => (hbefore hkept).2 r hr hgone⟩

end Metering.Retention
