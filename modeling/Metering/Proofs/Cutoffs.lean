import Metering.Proofs.Retention

/-!
# The cutoff of a report

A run selects by a moment in milliseconds and reports an instant. Where no protection is
on, what a run leaves is what is not older than the moment (`run_of_isBare`). The moment
lies so many days back, and so many days may lead out of the years that instants cover;
then the report names the start of 1970, as every reading of such a number does, and it
is not the cutoff that was used. No event is as old as the cutoff in this case, so the
run leaves all of them, and the report is right about them only if they are all of 1970
or later.
-/

namespace Metering

namespace Time

/-- A moment in the years that instants cover. -/
def IsDated (ms : Int) : Prop :=
  Instant.minSeconds ≤ ms / 1000 ∧ ms / 1000 ≤ Instant.maxSeconds

instance (ms : Int) : Decidable (IsDated ms) := inferInstanceAs (Decidable (_ ∧ _))

/-- Instants are compared by their seconds first. -/
instance : LE Instant :=
  ⟨fun i j => i.seconds < j.seconds ∨ i.seconds = j.seconds ∧ i.nanos ≤ j.nanos⟩

instance (i j : Instant) : Decidable (i ≤ j) := inferInstanceAs (Decidable (_ ∨ _))

variable {a b now : Int} {days : Nat}

theorem ofMillis_le_ofMillis (ha : IsDated a) (hb : IsDated b) :
    Instant.ofMillis a ≤ Instant.ofMillis b ↔ a ≤ b := by
  rw [show Instant.ofMillis a = ⟨a / 1000, (a % 1000).toNat * 1000000⟩ from if_pos ha,
    show Instant.ofMillis b = ⟨b / 1000, (b % 1000).toNat * 1000000⟩ from if_pos hb]
  show a / 1000 < b / 1000 ∨ a / 1000 = b / 1000 ∧
    (a % 1000).toNat * 1000000 ≤ (b % 1000).toNat * 1000000 ↔ a ≤ b
  omega

theorem isDated_zero : IsDated 0 := by decide

/-- Milliseconds outside the years of instants read as the start of 1970. -/
theorem ofMillis_eq (ms : Int) :
    Instant.ofMillis ms = Instant.ofMillis (if IsDated ms then ms else 0) := by
  split
  · rfl
  · next h => exact if_neg h

theorem daysBefore_of_isDated (hnow : IsDated now) (hdays : days ≤ Word.max32) :
    daysBefore now days = now - days * millisPerDay := by
  have hfirst : Instant.minSeconds = -8334601228800 := by decide
  have hlast : Instant.maxSeconds = 8210266876799 := by decide
  obtain ⟨hlow, hhigh⟩ := hnow
  unfold Word.max32 at hdays
  have hspan : saturate (days * millisPerDay) = days * millisPerDay := by
    refine saturate_of_mem ?_ ?_ <;> unfold millisPerDay <;>
      simp only [Word.minSigned, Word.maxSigned] <;> omega
  unfold daysBefore
  rw [hspan]
  refine saturate_of_mem ?_ ?_ <;> unfold millisPerDay <;>
    simp only [Word.minSigned, Word.maxSigned] <;> omega

end Time

namespace Retention

open Time (Instant IsDated daysBefore millisPerDay)

/-- A policy without protections. -/
def Policy.IsBare (p : Policy) : Prop :=
  p.keepAtLeastOne = false ∧ p.keepRunning = false ∧ p.keepUnprocessed = false

variable {p : Policy} {k : Kind} {mode : Mode} {cutoff now : Int} {b b' : Books}
  {estimator : Estimator} {report : Report}

theorem isExpendable_of_isBare (h : p.IsBare) {r : EventRow} :
    IsExpendable p k mode cutoff b r ↔ r.createdAt < cutoff := by
  obtain ⟨hone, hrunning, hunprocessed⟩ := h
  constructor
  · exact fun he => he.unprotected.old
  · intro hold
    refine ⟨⟨hold, fun hon => ?_, fun _ hon => ?_⟩, fun _ hon => ?_⟩
    · rw [hone] at hon
      cases hon
    · rw [hunprocessed] at hon
      cases hon
    · rw [hrunning] at hon
      cases hon

theorem cutoff_of_ok (hok : (run p k estimator now b).1 = .ok report) :
    report.cutoff = Instant.ofMillis (daysBefore now p.cutoffAgeDays) := by
  rw [run_eq] at hok
  cases hmode : selectMode p k estimator b with
  | error e =>
      rw [hmode] at hok
      cases hok
  | ok chosen =>
      rw [hmode] at hok
      simp only [] at hok
      split at hok
      · cases hok
      · rw [← Except.ok.inj hok]
        rfl

theorem run_of_isBare (hl : b.ledger.WellFormed) (hbare : p.IsBare) (hnow : IsDated now)
    (hdays : p.cutoffAgeDays ≤ Word.max32)
    (hrun : run p k estimator now b = (.ok report, b')) :
    b'.ledger.rows = b.ledger.rows.filter
      (fun r => decide (now - p.cutoffAgeDays * millisPerDay ≤ r.createdAt)) ∧
    report.cutoff = Instant.ofMillis (now - p.cutoffAgeDays * millisPerDay) := by
  have hcutoff := Time.daysBefore_of_isDated hnow hdays
  rcases run_cases hl p k estimator now with
    ⟨e, -, herr⟩ | ⟨mode, estimated, gone, -, -, hleft, -, hok⟩
  · rw [herr] at hrun
    cases (Prod.mk.inj hrun).1
  · have hreport := cutoff_of_ok (congrArg Prod.fst hrun)
    rw [hrun] at hleft hok
    have hleft : b'.ledger = b.ledger.without gone := hleft
    rw [hcutoff] at hok hreport
    refine ⟨?_, hreport⟩
    rw [hleft, (hok report rfl).1, without_candidates hl]
    refine List.filter_congr fun r _ => ?_
    rw [← decide_not, decide_eq_decide, isExpendable_of_isBare hbare]
    exact Int.not_lt

/-- Without protections, a run that ends well leaves the events from the cutoff on. It
reports this cutoff if there is an instant for it, and else the start of 1970; and the
events that it leaves are those from the reported cutoff on exactly if there is one, or
if no event is older than 1970. -/
theorem kept_since_reported_iff (hl : b.ledger.WellFormed) (hbare : p.IsBare)
    (htimes : ∀ r ∈ b.ledger.rows, IsDated r.createdAt) (hnow : IsDated now)
    (hdays : p.cutoffAgeDays ≤ Word.max32)
    (hrun : run p k estimator now b = (.ok report, b')) :
    let cutoff := now - p.cutoffAgeDays * millisPerDay
    b'.ledger.rows = b.ledger.rows.filter (fun r => decide (cutoff ≤ r.createdAt)) ∧
    report.cutoff = Instant.ofMillis (if IsDated cutoff then cutoff else 0) ∧
    (b'.ledger.rows = b.ledger.rows.filter
        (fun r => decide (report.cutoff ≤ Instant.ofMillis r.createdAt)) ↔
      IsDated cutoff ∨ ∀ r ∈ b.ledger.rows, 0 ≤ r.createdAt) := by
  intro cutoff
  obtain ⟨hleft, hreport⟩ := run_of_isBare hl hbare hnow hdays hrun
  rw [Time.ofMillis_eq] at hreport
  refine ⟨hleft, hreport, ?_⟩
  by_cases hdated : IsDated cutoff
  · rw [show _ = Instant.ofMillis cutoff from hreport.trans (by rw [if_pos hdated])]
    refine iff_of_true (hleft.trans (List.filter_congr fun r hr => ?_)) (Or.inl hdated)
    exact decide_eq_decide.2 (Time.ofMillis_le_ofMillis hdated (htimes r hr)).symm
  · rw [show _ = Instant.ofMillis 0 from hreport.trans (by rw [if_neg hdated])]
    have hpast : cutoff ≤ now := Int.sub_le_self _ (by unfold millisPerDay; omega)
    have hbefore : cutoff / 1000 < Instant.minSeconds := by
      have hlast := hnow.2
      unfold IsDated at hdated
      omega
    have hall : b'.ledger.rows = b.ledger.rows := by
      rw [hleft, List.filter_eq_self]
      intro r hr
      have hfirst := (htimes r hr).1
      have hkept : cutoff ≤ r.createdAt := by omega
      exact decide_eq_true hkept
    rw [hall, eq_comm, List.filter_eq_self, or_iff_right hdated]
    refine forall_congr' fun r => forall_congr' fun hr => ?_
    rw [decide_eq_true_eq]
    exact Time.ofMillis_le_ofMillis Time.isDated_zero (htimes r hr)

/-- No protections, and a window of so many days. -/
def bare (days : Nat) : Policy := ⟨days, false, false, false, 0, 1000⟩

/-- Events of three days at the end of 1969 and the start of 1970. -/
def turnOfTheDecade : Books :=
  ⟨⟨[⟨1, "a", -100000000, "STARTED", "web", none, none, none, none, "{}"⟩,
      ⟨2, "b", -1, "STARTED", "db", none, none, none, none, "{}"⟩,
      ⟨3, "c", 90000000, "STOPPED", "web", none, none, none, none, "{}"⟩], 3, []⟩,
    [], []⟩

theorem turnOfTheDecade_wellFormed : turnOfTheDecade.ledger.WellFormed := by
  constructor <;> decide

/-- What a run leaves three days after the start of 1970, with a window of two days. -/
theorem kept_since_reported_iff_twoDays :
    ∃ report b', run (bare 2) .process .exact 259200000 turnOfTheDecade = (.ok report, b') ∧
      b'.ledger.rows = turnOfTheDecade.ledger.rows.drop 2 ∧
      report.cutoff = ⟨86400, 0⟩ ∧
      b'.ledger.rows = turnOfTheDecade.ledger.rows.filter
        fun r => decide (report.cutoff ≤ Instant.ofMillis r.createdAt) := by
  have hchosen : selectMode (bare 2) .process .exact turnOfTheDecade = .ok (.normal, none) := rfl
  obtain ⟨report, b', hrun⟩ := run_of_unguarded hchosen (by decide) 259200000
  obtain ⟨hleft, hreport, hiff⟩ := kept_since_reported_iff turnOfTheDecade_wellFormed
    ⟨rfl, rfl, rfl⟩ (by decide) (by decide) (by decide) hrun
  exact ⟨report, b', hrun, hleft.trans (by decide), hreport.trans (by decide),
    hiff.2 (Or.inl (by decide))⟩

/-- A window that reaches back beyond all years: the events of 1969 are left, and the
report says that what is left is of 1970 or later. -/
theorem cutoff_beyond_years :
    ∃ report b', run (bare Word.max32) .process .exact 1700000000000 turnOfTheDecade =
        (.ok report, b') ∧
      b'.ledger.rows = turnOfTheDecade.ledger.rows ∧
      report.cutoff = Instant.epoch ∧
      ¬ ∀ r ∈ b'.ledger.rows, report.cutoff ≤ Instant.ofMillis r.createdAt := by
  have hchosen : selectMode (bare Word.max32) .process .exact turnOfTheDecade =
      .ok (.normal, none) := rfl
  obtain ⟨report, b', hrun⟩ := run_of_unguarded hchosen (by decide) 1700000000000
  obtain ⟨hleft, hreport⟩ := run_of_isBare turnOfTheDecade_wellFormed ⟨rfl, rfl, rfl⟩
    (by decide) (Nat.le_refl _) hrun
  have hall : b'.ledger.rows = turnOfTheDecade.ledger.rows := hleft.trans (by decide)
  have hepoch : report.cutoff = Instant.epoch := hreport.trans (by decide)
  refine ⟨report, b', hrun, hall, hepoch, ?_⟩
  rw [hall, hepoch]
  decide

end Retention

end Metering
