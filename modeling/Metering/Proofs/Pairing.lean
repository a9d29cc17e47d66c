import Metering.Proofs.Retention

/-!
# Running resources

A resource is running while the last of its events that opens or closes its
use is an opening one. The order of events is that of their identifiers, but
retention pairs an opening event with a closing one by time alone: a closing
event counts if it is no earlier. Where times rise with the identifiers the
two orders agree except on a tie, and a tie is where a running resource loses
its opening event: an event that closed the resource's previous use in the
same millisecond passes for one that closes the present use.

What retention does promise needs no order of times. A pair leaves together:
an opening event goes only with a closing one that is no earlier, and a closing
event takes along the opening events that come before it in both orders. The
limits cannot come between the two, since what is under them with the closing
event is under them with anything before it (`IsUnprotected.earlier`).
-/

namespace Metering.Retention

open Metering.Time (daysBefore)

/-- The last event that opens or closes the use of its resource, and it opens
it. -/
structure IsRunning (k : Kind) (l : Ledger) (r : EventRow) : Prop where
  present : r ∈ l.rows
  opening : r.state = k.opening.name
  last : ∀ c ∈ l.rows, c.resource = r.resource →
    c.state = k.opening.name ∨ c.state = k.closing.name → c.id ≤ r.id

instance (k : Kind) (l : Ledger) (r : EventRow) : Decidable (IsRunning k l r) :=
  decidable_of_iff
    (r ∈ l.rows ∧ r.state = k.opening.name ∧ ∀ c ∈ l.rows, c.resource = r.resource →
      c.state = k.opening.name ∨ c.state = k.closing.name → c.id ≤ r.id)
    ⟨fun ⟨h₁, h₂, h₃⟩ => ⟨h₁, h₂, h₃⟩, fun ⟨h₁, h₂, h₃⟩ => ⟨h₁, h₂, h₃⟩⟩

theorem closing_ne_opening (k : Kind) : k.closing.name ≠ k.opening.name := by
  cases k <;> decide

variable {p : Policy} {k : Kind} {cutoff : Int} {b : Books}

/-- In a ledger whose times do not fall, the opening event of a running
resource may go exactly if it is old and unprotected and a closing event of the
resource, though appended before it, has its time. -/
theorem isExpendable_running (hl : b.ledger.WellFormed)
    (htimes : b.ledger.rows.Pairwise (·.createdAt ≤ ·.createdAt))
    (hkeep : p.keepRunning = true) {r : EventRow} (hr : IsRunning k b.ledger r) :
    IsExpendable p k .normal cutoff b r ↔
      IsUnprotected p .normal cutoff b r ∧
        ∃ c ∈ b.ledger.rows, c.resource = r.resource ∧
          c.state = k.closing.name ∧ c.id < r.id ∧ c.createdAt = r.createdAt := by
  constructor
  · intro he
    obtain ⟨c, hc, hres, hstate, hle, -⟩ := he.closed rfl hkeep hr.opening
    have hlast := hr.last c hc hres (Or.inr hstate)
    have hne : c ≠ r := by
      rintro rfl
      exact closing_ne_opening k (hstate.symm.trans hr.opening)
    have hord : b.ledger.rows.Pairwise fun x y =>
        x.id < y.id ∧ x.createdAt ≤ y.createdAt := hl.rising.and htimes
    rcases eq_or_before hord hc hr.present with heq | ⟨hlt, htime⟩ | ⟨hlt, -⟩
    · exact absurd heq hne
    · exact ⟨he.unprotected, c, hc, hres, hstate, hlt, Int.le_antisymm htime hle⟩
    · omega
  · rintro ⟨hu, c, hc, hres, hstate, hid, htime⟩
    refine ⟨hu, fun _ _ _ => ⟨c, hc, hres, hstate, ?_, ?_⟩⟩
    · exact Int.le_of_eq htime.symm
    · exact hu.earlier hr.present hid (Int.le_of_eq htime)

/-- A run under normal rules that keeps running resources deletes the opening
event of one only on a tie, and on a tie it does unless the run fails or
something else protects the event. -/
theorem run_drops_running_iff_tie {estimator : Estimator} (now : Int)
    {estimated : Option Nat} (hl : b.ledger.WellFormed)
    (htimes : b.ledger.rows.Pairwise (·.createdAt ≤ ·.createdAt))
    (hmode : selectMode p k estimator b = .ok (.normal, estimated))
    (hkeep : p.keepRunning = true) {r : EventRow} (hr : IsRunning k b.ledger r) :
    (r ∉ (run p k estimator now b).2.ledger.rows →
      IsUnprotected p .normal (daysBefore now p.cutoffAgeDays) b r ∧
        ∃ c ∈ b.ledger.rows, c.resource = r.resource ∧
          c.state = k.closing.name ∧ c.id < r.id ∧ c.createdAt = r.createdAt) ∧
    ∀ report, (run p k estimator now b).1 = .ok report →
      IsUnprotected p .normal (daysBefore now p.cutoffAgeDays) b r →
      (∃ c ∈ b.ledger.rows, c.resource = r.resource ∧
        c.state = k.closing.name ∧ c.id < r.id ∧ c.createdAt = r.createdAt) →
      r ∉ (run p k estimator now b).2.ledger.rows := by
  constructor
  · intro hgone
    obtain ⟨mode, estimated', hmode', hexp⟩ :=
      expendable_of_not_mem_run hl hr.present hgone
    rw [hmode] at hmode'
    obtain ⟨rfl, -⟩ := Prod.mk.inj (Except.ok.inj hmode')
    exact (isExpendable_running hl htimes hkeep hr).1 hexp
  · intro report hok hu htie
    have hnormal : report.mode = .normal := report_mode hl hmode hok
    refine not_mem_run_of_expendable hl hok hr.present ?_
    rw [hnormal]
    exact (isExpendable_running hl htimes hkeep hr).2 ⟨hu, htie⟩

/-- The last start of a process that was stopped in the same millisecond. -/
def restart : EventRow :=
  ⟨2, "start", 1696118400000, "STARTED", "A", none, none, none, none, "{}"⟩

/-- A later event of another process. -/
def afterRestart : EventRow :=
  ⟨3, "tail", 1699920000000, "BUILDPACK_SET", "B", none, none, none, none, "{}"⟩

/-- The books that hold all three events. -/
def restarted : Books :=
  ⟨⟨[⟨1, "stop", 1696118400000, "STOPPED", "A", none, none, none, none, "{}"⟩,
      restart, afterRestart], 3, []⟩, [], []⟩

theorem restarted_wellFormed : restarted.ledger.WellFormed := by
  constructor <;> decide

/-- The process is running, and a run with all protections deletes its start. -/
theorem run_drops_restart :
    IsRunning .process restarted.ledger restart ∧
    ∃ report left, run .default .process .recorded 1700000000000 restarted =
        (.ok report, left) ∧
      report.mode = .normal ∧ restart ∉ left.ledger.rows := by
  have hchosen : selectMode .default .process .recorded restarted =
      .ok (.normal, some 3) := rfl
  obtain ⟨report, left, hrun⟩ := run_of_unguarded hchosen (by decide) 1700000000000
  have hok : (run .default .process .recorded 1700000000000 restarted).1 =
      .ok report := congrArg Prod.fst hrun
  have hmode := report_mode restarted_wellFormed hchosen hok
  have hgone := not_mem_run_of_expendable (r := restart) restarted_wellFormed hok
    (by decide) (hmode ▸ by decide)
  rw [hrun] at hgone
  exact ⟨by decide, report, left, hrun, hmode, hgone⟩

/-- What the tie comes to when the event is protected by nothing else. -/
theorem run_restarted :
    IsRunning .process restarted.ledger restart ∧
    restart ∉ (run .default .process .exact 1700000000000 restarted).2.ledger.rows := by
  have hchosen : selectMode .default .process .exact restarted =
      .ok (.normal, some 3) := rfl
  obtain ⟨report, b', hrun⟩ := run_of_unguarded hchosen (by decide) 1700000000000
  have hrunning : IsRunning .process restarted.ledger restart := by decide
  have hdrop := run_drops_running_iff_tie 1700000000000
    restarted_wellFormed (by decide) hchosen rfl hrunning
  refine ⟨hrunning, hdrop.2 report (congrArg Prod.fst hrun) (by decide) (by decide)⟩

/-! ## Pairs -/

/-- The events that were there before and are not there after. -/
def deleted (before after : Books) : List EventRow :=
  before.ledger.rows.filter (· ∉ after.ledger.rows)

theorem deleted_run (hl : b.ledger.WellFormed) {estimator : Estimator} {now : Int}
    {report : Report} {b' : Books} (hrun : run p k estimator now b = (.ok report, b')) :
    deleted b b' = b.ledger.rows.filter fun r =>
      decide (IsExpendable p k report.mode (daysBefore now p.cutoffAgeDays) b r) := by
  have hok : (run p k estimator now b).1 = .ok report := congrArg Prod.fst hrun
  have hafter : b' = (run p k estimator now b).2 := (congrArg Prod.snd hrun).symm
  refine List.filter_congr fun r hr => decide_eq_decide.2 ?_
  rw [hafter]
  refine ⟨fun hgone => ?_, not_mem_run_of_expendable hl hok hr⟩
  obtain ⟨mode, estimated, hmode, hexp⟩ := expendable_of_not_mem_run hl hr hgone
  rwa [report_mode hl hmode hok]

theorem mem_deleted_run (hl : b.ledger.WellFormed) {estimator : Estimator} {now : Int}
    {report : Report} {b' : Books} (hrun : run p k estimator now b = (.ok report, b'))
    {r : EventRow} :
    r ∈ deleted b b' ↔ r ∈ b.ledger.rows ∧
      IsExpendable p k report.mode (daysBefore now p.cutoffAgeDays) b r := by
  rw [deleted_run hl hrun, List.mem_filter, decide_eq_true_eq]

theorem IsExpendable.exists_closing (hkeep : p.keepRunning = true) {o : EventRow}
    (ho : IsExpendable p k .normal cutoff b o) (hopen : o.state = k.opening.name) :
    ∃ c ∈ b.ledger.rows, IsExpendable p k .normal cutoff b c ∧ c.resource = o.resource ∧
      c.state = k.closing.name ∧ o.createdAt ≤ c.createdAt := by
  obtain ⟨c, hc, hown, hclosing, htime, hu⟩ := ho.closed rfl hkeep hopen
  refine ⟨c, hc, ⟨hu, fun _ _ hopens => ?_⟩, hown, hclosing, htime⟩
  exact absurd (hclosing.symm.trans hopens) (closing_ne_opening k)

theorem IsExpendable.opening_of_closing {mode : Mode} {o c : EventRow}
    (hc : c ∈ b.ledger.rows) (hexp : IsExpendable p k mode cutoff b c)
    (hclosing : c.state = k.closing.name) (hown : o.resource = c.resource)
    (hid : o.id < c.id) (htime : o.createdAt ≤ c.createdAt) :
    IsExpendable p k mode cutoff b o :=
  ⟨hexp.unprotected.earlier hc hid htime,
    fun _ _ _ => ⟨c, hc, hown.symm, hclosing, htime, hexp.unprotected⟩⟩

/-- A run under normal rules that keeps running resources, and ends well, deletes in
pairs, whatever the order of times is. An opening event goes with a closing one of its
resource that is no earlier; and with a closing event goes every opening one of its
resource that was appended before it and is no later. -/
theorem run_deletes_pairs (hl : b.ledger.WellFormed) (hkeep : p.keepRunning = true)
    {estimator : Estimator} {now : Int} {report : Report} {b' : Books}
    (hrun : run p k estimator now b = (.ok report, b')) (hnormal : report.mode = .normal) :
    (∀ o ∈ deleted b b', o.state = k.opening.name →
      ∃ c ∈ deleted b b', c.resource = o.resource ∧ c.state = k.closing.name ∧
        o.createdAt ≤ c.createdAt) ∧
    ∀ c ∈ deleted b b', c.state = k.closing.name →
      ∀ o ∈ b.ledger.rows, o.resource = c.resource → o.state = k.opening.name →
        o.id < c.id → o.createdAt ≤ c.createdAt → o ∈ deleted b b' := by
  constructor
  · intro o ho hopen
    obtain ⟨-, hexp⟩ := (mem_deleted_run hl hrun).1 ho
    rw [hnormal] at hexp
    obtain ⟨c, hc, hcexp, hown, hclosing, htime⟩ := hexp.exists_closing hkeep hopen
    refine ⟨c, (mem_deleted_run hl hrun).2 ⟨hc, ?_⟩, hown, hclosing, htime⟩
    rwa [hnormal]
  · intro c hc hclosing o ho hown _ hid htime
    obtain ⟨hc, hexp⟩ := (mem_deleted_run hl hrun).1 hc
    exact (mem_deleted_run hl hrun).2
      ⟨ho, hexp.opening_of_closing hc hclosing hown hid htime⟩

/-- The start that belongs to the stop of `crossed`. -/
def firstStart : EventRow :=
  ⟨1, "a", 10, "STARTED", "web", none, none, none, none, "{}"⟩

/-- A stop that was recorded after a start which is later. -/
def lateStop : EventRow :=
  ⟨3, "c", 20, "STOPPED", "web", none, none, none, none, "{}"⟩

/-- The books of a process whose second start was recorded too early, and of another
one whose start, though the oldest event, was recorded last. -/
def crossed : Books :=
  ⟨⟨[firstStart,
      ⟨2, "b", 25, "STARTED", "web", none, none, none, none, "{}"⟩,
      lateStop,
      ⟨4, "d", 5, "STARTED", "db", none, none, none, none, "{}"⟩], 4, []⟩, [], []⟩

/-- The first start goes with the stop. The second one, which is later than the stop,
stays. -/
theorem run_deletes_pairs_crossed :
    ∃ report b', run oneByOne .process .exact 35 crossed = (.ok report, b') ∧
      report.mode = .normal ∧ deleted crossed b' = [firstStart, lateStop] ∧
      (∃ c ∈ deleted crossed b', c.resource = firstStart.resource ∧
        c.state = Kind.process.closing.name ∧ firstStart.createdAt ≤ c.createdAt) ∧
      firstStart ∈ deleted crossed b' := by
  have hl : crossed.ledger.WellFormed := by constructor <;> decide
  have hchosen : selectMode oneByOne .process .exact crossed = .ok (.normal, none) := rfl
  obtain ⟨report, b', hrun⟩ := run_of_unguarded hchosen (by decide) 35
  have hnormal : report.mode = .normal := report_mode hl hchosen (congrArg Prod.fst hrun)
  have hall : deleted crossed b' = [firstStart, lateStop] := by
    rw [deleted_run hl hrun, hnormal]
    decide
  have hstart : firstStart ∈ deleted crossed b' := by simp [hall]
  have hstop : lateStop ∈ deleted crossed b' := by simp [hall]
  obtain ⟨hclosed, htaken⟩ := run_deletes_pairs hl rfl hrun hnormal
  exact ⟨report, b', hrun, hnormal, hall, hclosed _ hstart rfl,
    htaken _ hstop rfl _ (by decide) rfl rfl (by decide) (by decide)⟩

end Metering.Retention
