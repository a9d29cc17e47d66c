import Metering.Proofs.Idle
import Metering.Proofs.Watermarks

/-!
# An aborted run is resumed by the next

A run that fails leaves a ledger that is cleaned halfway, and the next run judges
everything anew on what it finds there: which event is the newest, which is the
lowest watermark, which closing event an opening one may go with. It still
selects what the first run had left to do and nothing else. None of the three
moves, since the newest event and the watermarks are never selected while the
policy protects them, and a closing event that is gone has taken its opening
event with it, as long as it had the higher identifier.

So what a run is meant to leave, `residue`, does not change when the run fails
(`residue_run`), and is what is left when it ends well (`run_eq_residue`). Any
number of failures makes no difference then.
-/

namespace Metering.Retention

open Metering.Time (daysBefore)

/-- Where a closing event counts for an opening one, by its time, it has the
higher identifier. -/
def ClosesAfter (k : Kind) (l : Ledger) : Prop :=
  ∀ o ∈ l.rows, ∀ c ∈ l.rows, c.resource = o.resource → o.state = k.opening.name →
    c.state = k.closing.name → o.createdAt ≤ c.createdAt → o.id < c.id

instance (k : Kind) (l : Ledger) : Decidable (ClosesAfter k l) :=
  inferInstanceAs (Decidable (∀ o ∈ l.rows, ∀ c ∈ l.rows, _))

theorem ClosesAfter.mono {k : Kind} {l l' : Ledger} (h : ClosesAfter k l)
    (hrows : l'.rows ⊆ l.rows) : ClosesAfter k l' :=
  fun o ho c hc => h o (hrows ho) c (hrows hc)

/-- The events and the registrations that a run is meant to leave. -/
def residue (p : Policy) (k : Kind) (mode : Mode) (cutoff : Int) (b : Books) :
    List EventRow × Registry :=
  (b.ledger.rows.filter fun r =>
      ! isCandidate p k mode (Window.of p mode cutoff b) b.ledger.rows r,
    b.consumers.filter fun c =>
      ! (mode = .sizeExceeded && isOrphaned (candidates p k mode cutoff b) c))

theorem fst_residue (p : Policy) (k : Kind) (mode : Mode) (cutoff : Int) (b : Books) :
    (residue p k mode cutoff b).1 =
      b.ledger.rows.filter fun r => ! decide (IsExpendable p k mode cutoff b r) :=
  List.filter_congr fun r hr => by
    congr 1
    rw [Bool.eq_iff_iff, decide_eq_true_eq]
    exact isCandidate_iff hr

/-- The books `b'` are the books `b` after some batches of a run: those that
deleted the identifiers `gone`. -/
structure IsHalfway (p : Policy) (k : Kind) (mode : Mode) (cutoff : Int) (b b' : Books)
    (gone : List Int) : Prop where
  selected : gone <+: (candidates p k mode cutoff b).map (·.id)
  ledger : b'.ledger = b.ledger.without gone
  consumers : b'.consumers = b.consumers.filter fun c =>
    ! (mode = .sizeExceeded && isOrphaned (candidates p k mode cutoff b) c)

variable {p : Policy} {k : Kind} {mode : Mode} {cutoff : Int} {b b' : Books}
  {gone : List Int}

namespace IsHalfway

theorem mem_of_mem (h : IsHalfway p k mode cutoff b b' gone) {r : EventRow}
    (hr : r ∈ b'.ledger.rows) : r ∈ b.ledger.rows := by
  rw [h.ledger] at hr
  exact (Ledger.mem_without.1 hr).1

theorem mem_of_not_expendable (hl : b.ledger.WellFormed)
    (h : IsHalfway p k mode cutoff b b' gone) {r : EventRow} (hr : r ∈ b.ledger.rows)
    (hkept : ¬ IsExpendable p k mode cutoff b r) : r ∈ b'.ledger.rows := by
  rw [h.ledger, Ledger.mem_without]
  refine ⟨hr, fun hgone => ?_⟩
  obtain ⟨s, hs, hsame⟩ := List.mem_map.1 (h.selected.subset hgone)
  obtain ⟨hs, hexp⟩ := mem_candidates.1 hs
  rw [hl.eq_of_id hs hr hsame] at hexp
  exact hkept hexp

/-- The last event of a ledger is not selected while the policy keeps one, nor is
a watermark while it keeps what is unprocessed; so neither limit has moved. -/
theorem isUnprotected_iff (hl : b.ledger.WellFormed)
    (h : IsHalfway p k mode cutoff b b' gone) {r : EventRow} :
    IsUnprotected p mode cutoff b' r ↔ IsUnprotected p mode cutoff b r := by
  constructor
  · intro hu
    refine ⟨hu.old, fun hkeep => ?_, fun hm hkeep w hw hnamed => ?_⟩
    · obtain ⟨s, hs, hlt⟩ := hu.outlived hkeep
      exact ⟨s, h.mem_of_mem hs, hlt⟩
    · obtain ⟨c, hc, hguid⟩ := hnamed
      subst hm
      have hstays := h.mem_of_not_expendable hl hw
        (not_isExpendable_watermark hkeep hc hw hguid)
      have hregistered : c ∈ b'.consumers := by
        rw [h.consumers, List.mem_filter]
        exact ⟨hc, by simp⟩
      exact hu.processed rfl hkeep w hstays ⟨c, hregistered, hguid⟩
  · intro hu
    refine ⟨hu.old, fun hkeep => ?_, fun hm hkeep w hw hnamed => ?_⟩
    · obtain ⟨s, hs, hlt⟩ := hu.outlived hkeep
      rcases exists_last hl.rising (fun _ => True) with hnone | ⟨m, hm, -, hlast⟩
      · exact absurd trivial (hnone s hs)
      · have hstays : m ∈ b'.ledger.rows := by
          refine h.mem_of_not_expendable hl hm fun hexp => ?_
          obtain ⟨t, ht, hbeyond⟩ := hexp.unprotected.outlived hkeep
          have := hlast t ht trivial
          omega
        have := hlast s hs trivial
        exact ⟨m, hstays, by omega⟩
    · obtain ⟨c, hc, hguid⟩ := hnamed
      rw [h.consumers] at hc
      exact hu.processed hm hkeep w (h.mem_of_mem hw)
        ⟨c, (List.mem_filter.1 hc).1, hguid⟩

theorem isExpendable_before (hl : b.ledger.WellFormed)
    (h : IsHalfway p k mode cutoff b b' gone) {r : EventRow}
    (hexp : IsExpendable p k mode cutoff b' r) : IsExpendable p k mode cutoff b r where
  unprotected := (h.isUnprotected_iff hl).1 hexp.unprotected
  closed hm hkeep hopen := by
    obtain ⟨c, hc, hown, hclosing, htime, hu⟩ := hexp.closed hm hkeep hopen
    exact ⟨c, h.mem_of_mem hc, hown, hclosing, htime, (h.isUnprotected_iff hl).1 hu⟩

theorem isExpendable_iff (hl : b.ledger.WellFormed) (hpairs : ClosesAfter k b.ledger)
    (h : IsHalfway p k mode cutoff b b' gone) {r : EventRow}
    (hr : r ∈ b'.ledger.rows) :
    IsExpendable p k mode cutoff b' r ↔ IsExpendable p k mode cutoff b r := by
  constructor
  · exact h.isExpendable_before hl
  · intro hexp
    refine ⟨(h.isUnprotected_iff hl).2 hexp.unprotected, fun hm hkeep hopen => ?_⟩
    obtain ⟨c, hc, hown, hclosing, htime, hu⟩ := hexp.closed hm hkeep hopen
    have hrow := h.mem_of_mem hr
    have hstays : c ∈ b'.ledger.rows := by
      rw [h.ledger, Ledger.mem_without] at hr ⊢
      refine ⟨hc, fun hgone => ?_⟩
      -- the batches come to the opening event before they come to the closing one
      have hlt := hpairs r hrow c hc hown hopen hclosing htime
      exact hr.2 (mem_of_prefix_of_lt h.selected (candidates_rising hl ..) hgone
        (List.mem_map_of_mem (mem_candidates.2 ⟨hrow, hexp⟩)) hlt)
    exact ⟨c, hstays, hown, hclosing, htime, (h.isUnprotected_iff hl).2 hu⟩

theorem candidates_subset (hl : b.ledger.WellFormed) (hpairs : ClosesAfter k b.ledger)
    (h : IsHalfway p k mode cutoff b b' gone) :
    candidates p k mode cutoff b' ⊆ candidates p k mode cutoff b := by
  intro r hr
  obtain ⟨hr, hexp⟩ := mem_candidates.1 hr
  exact mem_candidates.2 ⟨h.mem_of_mem hr, (h.isExpendable_iff hl hpairs hr).1 hexp⟩

theorem residue_eq (hl : b.ledger.WellFormed) (hpairs : ClosesAfter k b.ledger)
    (h : IsHalfway p k mode cutoff b b' gone) :
    residue p k mode cutoff b' = residue p k mode cutoff b := by
  have hrows : (residue p k mode cutoff b').1 = (residue p k mode cutoff b).1 := by
    rw [fst_residue, fst_residue]
    calc b'.ledger.rows.filter (fun r => ! decide (IsExpendable p k mode cutoff b' r))
        = b'.ledger.rows.filter (fun r => ! decide (IsExpendable p k mode cutoff b r)) :=
          List.filter_congr fun r hr => by
            rw [decide_eq_decide.2 (h.isExpendable_iff hl hpairs hr)]
      _ = b.ledger.rows.filter (fun r => ! decide (IsExpendable p k mode cutoff b r)) := by
          rw [h.ledger, Ledger.without, List.filter_filter]
          refine List.filter_congr fun r hr => ?_
          by_cases hexp : IsExpendable p k mode cutoff b r
          · simp [hexp]
          · have hkept := h.mem_of_not_expendable hl hr hexp
            rw [h.ledger, Ledger.mem_without] at hkept
            simp [hexp, hkept.2]
  have hconsumers : (residue p k mode cutoff b').2 = (residue p k mode cutoff b).2 := by
    show b'.consumers.filter _ = b.consumers.filter _
    rw [h.consumers, List.filter_filter]
    refine List.filter_congr fun c _ => ?_
    have horphan : isOrphaned (candidates p k mode cutoff b') c = true →
        isOrphaned (candidates p k mode cutoff b) c = true := by
      unfold isOrphaned
      rw [List.any_eq_true, List.any_eq_true]
      rintro ⟨e, he, hguid⟩
      exact ⟨e, h.candidates_subset hl hpairs he, hguid⟩
    cases hb' : isOrphaned (candidates p k mode cutoff b') c with
    | true => simp [horphan hb']
    | false => simp
  exact Prod.ext hrows hconsumers

end IsHalfway

/-! ## One run -/

theorem isHalfway_run (hl : b.ledger.WellFormed) {estimator : Estimator}
    {estimated : Option Nat} (hmode : selectMode p k estimator b = .ok (mode, estimated))
    (now : Int) :
    ∃ gone, IsHalfway p k mode (daysBefore now p.cutoffAgeDays) b
      (run p k estimator now b).2 gone := by
  obtain ⟨gone, hpart, hleft, hstay, -⟩ := run_settled hl hmode now
  exact ⟨gone, hpart, hleft, hstay⟩

/-- However a run ends, the same is to be left after it as before it. -/
theorem residue_run (hl : b.ledger.WellFormed) (hpairs : ClosesAfter k b.ledger)
    {estimator : Estimator} {estimated : Option Nat}
    (hmode : selectMode p k estimator b = .ok (mode, estimated)) (now : Int) :
    residue p k mode (daysBefore now p.cutoffAgeDays) (run p k estimator now b).2 =
      residue p k mode (daysBefore now p.cutoffAgeDays) b := by
  obtain ⟨gone, h⟩ := isHalfway_run hl hmode now
  exact h.residue_eq hl hpairs

theorem run_eq_residue (hl : b.ledger.WellFormed) {estimator : Estimator}
    {estimated : Option Nat} (hmode : selectMode p k estimator b = .ok (mode, estimated))
    {now : Int} {report : Report} (hok : (run p k estimator now b).1 = .ok report) :
    ((run p k estimator now b).2.ledger.rows, (run p k estimator now b).2.consumers) =
      residue p k mode (daysBefore now p.cutoffAgeDays) b := by
  obtain ⟨gone, -, hleft, hstay, hall⟩ := run_settled hl hmode now
  refine Prod.ext ?_ hstay
  rw [fst_residue]
  show (run p k estimator now b).2.ledger.rows = _
  rw [hleft, (hall report hok).1]
  exact without_candidates hl p k mode _

/-! ## Many runs -/

namespace Sweep

/-- A sweep runs a policy at a moment and settles on a mode. -/
structure Applies (p : Policy) (k : Kind) (mode : Mode) (now : Int) (b : Books)
    (s : Sweep) : Prop where
  policy : s.policy = p
  now : s.now = now
  mode : ∃ estimated, selectMode p k s.estimator (s.guarding b) = .ok (mode, estimated)

/-- The answer to a sweep. -/
def answer (k : Kind) (b : Books) (s : Sweep) : Except Error Report :=
  (run s.policy k s.estimator s.now (s.guarding b)).1

/-- Each sweep of a series runs the policy in the mode and is aborted. -/
def AllAborted (p : Policy) (k : Kind) (mode : Mode) (now : Int) :
    List Sweep → Books → Prop
  | [], _ => True
  | s :: ss, b => s.Applies p k mode now b ∧ (∃ e, s.answer k b = .error e) ∧
      AllAborted p k mode now ss (s.perform k b)

variable {now : Int}

theorem ledger_perform (hl : b.ledger.WellFormed) (s : Sweep) :
    ∃ gone, (s.perform k b).ledger = { b.ledger.without gone with guarded := s.guarded } := by
  obtain ⟨gone, hleft⟩ := exists_run_ledger (hl.withGuards s.guarded) s.policy k
    s.estimator s.now (b := s.guarding b)
  exact ⟨gone, hleft⟩

theorem wellFormed_perform (hl : b.ledger.WellFormed) (s : Sweep) :
    (s.perform k b).ledger.WellFormed :=
  wellFormed_run (hl.withGuards s.guarded) ..

theorem residue_perform (hl : b.ledger.WellFormed) (hpairs : ClosesAfter k b.ledger)
    {s : Sweep} (hs : s.Applies p k mode now b) :
    residue p k mode (daysBefore now p.cutoffAgeDays) (s.perform k b) =
      residue p k mode (daysBefore now p.cutoffAgeDays) b := by
  obtain ⟨rfl, rfl, estimated, hmode⟩ := hs
  exact residue_run (b := s.guarding b) (hl.withGuards s.guarded) hpairs hmode s.now

theorem perform_of_ok (hl : b.ledger.WellFormed) {s : Sweep}
    (hs : s.Applies p k mode now b) {report : Report} (hok : s.answer k b = .ok report) :
    s.perform k b =
      let left := residue p k mode (daysBefore now p.cutoffAgeDays) b
      ⟨⟨left.1, b.ledger.issued, s.guarded⟩, left.2, Statistics.ofCount left.1.length⟩ := by
  obtain ⟨rfl, rfl, estimated, hmode⟩ := hs
  have hleft : ((s.perform k b).ledger.rows, (s.perform k b).consumers) =
      residue s.policy k mode (daysBefore s.now s.policy.cutoffAgeDays) b :=
    run_eq_residue (b := s.guarding b) (hl.withGuards s.guarded) hmode hok
  have hcounted : (s.perform k b).statistics = Statistics.ofCount (s.perform k b).size :=
    statistics_run_of_ok (b := s.guarding b) hok
  obtain ⟨gone, hledger⟩ := ledger_perform (k := k) hl s
  rw [← hleft]
  generalize s.perform k b = after at hledger hcounted
  obtain ⟨⟨rows, issued, guarded⟩, consumers, statistics⟩ := after
  obtain ⟨-, rfl, rfl⟩ := Ledger.mk.inj hledger
  exact congrArg (Books.mk _ consumers) hcounted

theorem exists_ledger_performAll (ss : List Sweep) (hl : b.ledger.WellFormed) :
    ∃ gone guards, (performAll k ss b).ledger =
      { b.ledger.without gone with guarded := guards } := by
  induction ss generalizing b with
  | nil =>
      refine ⟨[], b.ledger.guarded, ?_⟩
      rw [Ledger.without_nil]
      rfl
  | cons s ss ih =>
      obtain ⟨first, hfirst⟩ := ledger_perform (k := k) hl s
      obtain ⟨gone, guards, hrest⟩ := ih (wellFormed_perform hl s)
      refine ⟨first ++ gone, guards, hrest.trans ?_⟩
      rw [hfirst, ← Ledger.without_append]
      rfl

theorem residue_performAll {ss : List Sweep} (hl : b.ledger.WellFormed)
    (hpairs : ClosesAfter k b.ledger) (hss : AllAborted p k mode now ss b) :
    residue p k mode (daysBefore now p.cutoffAgeDays) (performAll k ss b) =
      residue p k mode (daysBefore now p.cutoffAgeDays) b := by
  induction ss generalizing b with
  | nil => rfl
  | cons s ss ih =>
      obtain ⟨happlies, -, hrest⟩ := hss
      obtain ⟨gone, hleft⟩ := ledger_perform (k := k) hl s
      have hrows : (s.perform k b).ledger.rows ⊆ b.ledger.rows := by
        rw [hleft]
        exact fun r hr => (Ledger.mem_without.1 hr).1
      exact (ih (wellFormed_perform hl s) (hpairs.mono hrows) hrest).trans
        (residue_perform hl hpairs happlies)

/-- Runs of one policy at one moment and in one mode, any number of which are
aborted before the last ends well, leave the books as a single run that ends
well does: the events, the registrations, the identifiers given out and the
recorded row count. Only the guards are those of the last run. -/
theorem performAll_resumes {ss : List Sweep} {last whole : Sweep}
    (hl : b.ledger.WellFormed) (hpairs : ClosesAfter k b.ledger)
    (hss : AllAborted p k mode now ss b)
    (hlast : last.Applies p k mode now (performAll k ss b)) {report : Report}
    (hok : last.answer k (performAll k ss b) = .ok report)
    (hwhole : whole.Applies p k mode now b) {report' : Report}
    (hok' : whole.answer k b = .ok report') :
    whole.guarding (performAll k (ss ++ [last]) b) = whole.perform k b := by
  obtain ⟨gone, guards, hleft⟩ := exists_ledger_performAll (k := k) ss hl
  have hwell : (performAll k ss b).ledger.WellFormed := by
    rw [hleft]
    exact (hl.without gone).withGuards guards
  have hissued : (performAll k ss b).ledger.issued = b.ledger.issued := by rw [hleft]; rfl
  have hresumed : performAll k (ss ++ [last]) b = last.perform k (performAll k ss b) := by
    unfold performAll
    rw [List.foldl_append, List.foldl_cons, List.foldl_nil]
  rw [hresumed, perform_of_ok hwell hlast hok, perform_of_ok hl hwhole hok', hissued,
    residue_performAll hl hpairs hss]
  rfl

/-- A run that is aborted between the start and the stop of a process. -/
def abortedAtStop : Sweep := ⟨oneByOne, .exact, 35, ["b"]⟩

/-- The same run without a guard. -/
def unhindered : Sweep := { abortedAtStop with guarded := [] }

/-- The stop, whose start is gone, goes with the second run. -/
theorem performAll_stoppedAndRunning :
    (∃ e, abortedAtStop.answer .process stoppedAndRunning = .error e) ∧
    unhindered.guarding (performAll .process [abortedAtStop, unhindered]
      stoppedAndRunning) = unhindered.perform .process stoppedAndRunning := by
  have hl := stoppedAndRunning_wellFormed
  have happlies : ∀ s : Sweep, s.policy = oneByOne → s.now = 35 → ∀ b,
      s.Applies oneByOne .process .normal 35 b :=
    fun s hpolicy hnow b => ⟨hpolicy, hnow, none, rfl⟩
  have hends : ∀ b, ∃ report, unhindered.answer .process b = .ok report := by
    intro b
    have hmode : selectMode oneByOne .process .exact (unhindered.guarding b) =
        .ok (.normal, none) := rfl
    obtain ⟨report, left, hrun⟩ := run_of_unguarded hmode (by simp [guarding, unhindered]) 35
    exact ⟨report, congrArg Prod.fst hrun⟩
  have hstop : IsExpendable oneByOne .process .normal
      (daysBefore 35 oneByOne.cutoffAgeDays) (abortedAtStop.guarding stoppedAndRunning)
      ⟨2, "b", 20, "STOPPED", "web", none, none, none, none, "{}"⟩ := by decide
  have hfails : ∃ e, abortedAtStop.answer .process stoppedAndRunning = .error e := by
    have hmode : selectMode oneByOne .process .exact
        (abortedAtStop.guarding stoppedAndRunning) = .ok (.normal, none) := rfl
    obtain ⟨⟨cause, herr⟩, -⟩ :=
      run_of_guarded (hl.withGuards ["b"]) hmode 35 (by decide) hstop (by decide)
    exact ⟨_, herr⟩
  obtain ⟨report, hlast⟩ := hends (abortedAtStop.perform .process stoppedAndRunning)
  obtain ⟨report', hwhole⟩ := hends stoppedAndRunning
  have haborted : AllAborted oneByOne .process .normal 35 [abortedAtStop]
      stoppedAndRunning := ⟨happlies _ rfl rfl _, hfails, trivial⟩
  exact ⟨hfails, performAll_resumes hl (by decide) haborted (happlies _ rfl rfl _) hlast
    (happlies _ rfl rfl _) hwhole⟩

end Sweep

end Metering.Retention
