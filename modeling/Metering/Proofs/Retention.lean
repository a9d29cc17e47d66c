import Metering.Proofs.Batches
import Metering.Retention.Run

/-!
# A run of retention is one filter

A run works in steps: it opens a window on the books, selects the events that
may go, writes their identifiers down and deletes them batch by batch, while
the table that the window was taken from shrinks. What it comes to needs none
of that. `IsExpendable` says of one event, on the books before the run,
whether it may go, in terms of what is in the ledger and who is registered;
`candidates_eq_filter` says that the window asks the same question, and
`run_cases` that a run deletes a prefix of those events however it ends, and
exactly those if it ends well. So after a successful run the ledger is the old
one without the events that might go, judged once on the books before the run.
-/

namespace Metering.Retention

open Metering.Time (daysBefore millisPerDay)

/-! ## The rules, event by event -/

/-- An event is older than a cutoff, and is kept neither as the newest one nor
for a consumer that has yet to read past it. -/
structure IsUnprotected (p : Policy) (mode : Mode) (cutoff : Int) (b : Books)
    (r : EventRow) : Prop where
  old : r.createdAt < cutoff
  outlived : p.keepAtLeastOne = true → ∃ s ∈ b.ledger.rows, r.id < s.id
  processed : mode = .normal → p.keepUnprocessed = true →
    ∀ w ∈ b.ledger.rows, (∃ c ∈ b.consumers, c.watermark = w.guid) → r.id < w.id

/-- An event may go: it is unprotected, and if it opens the use of a resource
that the policy watches, an unprotected event no earlier in time closes it. -/
structure IsExpendable (p : Policy) (k : Kind) (mode : Mode) (cutoff : Int)
    (b : Books) (r : EventRow) : Prop where
  unprotected : IsUnprotected p mode cutoff b r
  closed : mode = .normal → p.keepRunning = true → r.state = k.opening.name →
    ∃ c ∈ b.ledger.rows, c.resource = r.resource ∧ c.state = k.closing.name ∧
      r.createdAt ≤ c.createdAt ∧ IsUnprotected p mode cutoff b c

instance (p : Policy) (mode : Mode) (cutoff : Int) (b : Books) (r : EventRow) :
    Decidable (IsUnprotected p mode cutoff b r) :=
  decidable_of_iff
    (r.createdAt < cutoff ∧
      (p.keepAtLeastOne = true → ∃ s ∈ b.ledger.rows, r.id < s.id) ∧
      (mode = .normal → p.keepUnprocessed = true →
        ∀ w ∈ b.ledger.rows, (∃ c ∈ b.consumers, c.watermark = w.guid) → r.id < w.id))
    ⟨fun ⟨h₁, h₂, h₃⟩ => ⟨h₁, h₂, h₃⟩, fun ⟨h₁, h₂, h₃⟩ => ⟨h₁, h₂, h₃⟩⟩

instance (p : Policy) (k : Kind) (mode : Mode) (cutoff : Int) (b : Books)
    (r : EventRow) : Decidable (IsExpendable p k mode cutoff b r) :=
  decidable_of_iff
    (IsUnprotected p mode cutoff b r ∧
      (mode = .normal → p.keepRunning = true → r.state = k.opening.name →
        ∃ c ∈ b.ledger.rows, c.resource = r.resource ∧ c.state = k.closing.name ∧
          r.createdAt ≤ c.createdAt ∧ IsUnprotected p mode cutoff b c))
    ⟨fun ⟨h₁, h₂⟩ => ⟨h₁, h₂⟩, fun ⟨h₁, h₂⟩ => ⟨h₁, h₂⟩⟩

/-! ## The window asks the same -/

variable {p : Policy} {k : Kind} {mode : Mode} {cutoff : Int} {b : Books}

theorem isBelow_newest {r : EventRow} (hr : r ∈ b.ledger.rows) :
    Window.isBelow r.id (newest? b) = true ↔ ∃ s ∈ b.ledger.rows, r.id < s.id := by
  unfold newest?
  cases hmax : (b.ledger.rows.map (·.id)).max? with
  | none =>
      rw [List.max?_eq_none_iff, List.map_eq_nil_iff] at hmax
      rw [hmax] at hr
      cases hr
  | some m =>
      obtain ⟨hmem, hle⟩ := List.max?_eq_some_iff.1 hmax
      obtain ⟨s, hs, rfl⟩ := List.mem_map.1 hmem
      simp only [Window.isBelow, decide_eq_true_eq]
      constructor
      · intro hlt
        exact ⟨s, hs, hlt⟩
      · rintro ⟨t, ht, hlt⟩
        have := hle t.id (List.mem_map_of_mem ht)
        omega

theorem isBelow_lowestWatermark (b : Books) (id : Int) :
    Window.isBelow id (lowestWatermark? b) = true ↔
      ∀ w ∈ b.ledger.rows, (∃ c ∈ b.consumers, c.watermark = w.guid) → id < w.id := by
  unfold lowestWatermark?
  have hnamed : ∀ w : EventRow,
      (b.consumers.any fun c => c.watermark = w.guid) = true ↔
        ∃ c ∈ b.consumers, c.watermark = w.guid := by simp
  cases hmin : ((b.ledger.rows.filter fun e =>
      b.consumers.any (·.watermark = e.guid)).map (·.id)).min? with
  | none =>
      rw [List.min?_eq_none_iff, List.map_eq_nil_iff, List.filter_eq_nil_iff] at hmin
      refine iff_of_true rfl fun w hw hc => ?_
      exact absurd ((hnamed w).2 hc) (hmin w hw)
  | some m =>
      obtain ⟨hmem, hle⟩ := List.min?_eq_some_iff.1 hmin
      obtain ⟨w, hw, rfl⟩ := List.mem_map.1 hmem
      obtain ⟨hw, hc⟩ := List.mem_filter.1 hw
      simp only [Window.isBelow, decide_eq_true_eq]
      constructor
      · intro hlt v hv hcv
        have := hle v.id
          (List.mem_map_of_mem (List.mem_filter.2 ⟨hv, (hnamed v).2 hcv⟩))
        omega
      · intro h
        exact h w hw ((hnamed w).1 hc)

theorem admits_iff {r : EventRow} (hr : r ∈ b.ledger.rows) :
    (Window.of p mode cutoff b).admits r = true ↔ IsUnprotected p mode cutoff b r := by
  have hnew := isBelow_newest hr
  have hmark := isBelow_lowestWatermark b r.id
  have hnone : Window.isBelow r.id none = true := rfl
  simp only [Window.admits, Window.of, Bool.and_eq_true]
  constructor
  · rintro ⟨⟨hold, h₁⟩, h₂⟩
    refine ⟨of_decide_eq_true hold, fun hkeep => ?_, fun hm hkeep => ?_⟩
    · rw [if_pos hkeep] at h₁
      exact hnew.1 h₁
    · rw [if_pos ⟨hm, hkeep⟩] at h₂
      exact hmark.1 h₂
  · rintro ⟨hold, h₁, h₂⟩
    refine ⟨⟨decide_eq_true hold, ?_⟩, ?_⟩
    · split
      · next hkeep => exact hnew.2 (h₁ hkeep)
      · exact hnone
    · split
      · next hkeep => exact hmark.2 (h₂ hkeep.1 hkeep.2)
      · exact hnone

theorem isCandidate_iff {r : EventRow} (hr : r ∈ b.ledger.rows) :
    isCandidate p k mode (Window.of p mode cutoff b) b.ledger.rows r = true ↔
      IsExpendable p k mode cutoff b r := by
  have hpaired : isPaired k (Window.of p mode cutoff b) b.ledger.rows r = true ↔
      (r.state = k.opening.name → ∃ c ∈ b.ledger.rows, c.resource = r.resource ∧
        c.state = k.closing.name ∧ r.createdAt ≤ c.createdAt ∧
        IsUnprotected p mode cutoff b c) := by
    simp only [isPaired, closes, Bool.or_eq_true, decide_eq_true_eq, ne_eq,
      List.any_eq_true, Bool.and_eq_true]
    constructor
    · rintro (hne | ⟨c, hc, ⟨⟨hres, hstate⟩, hle⟩, hadm⟩) hopen
      · exact absurd hopen hne
      · exact ⟨c, hc, hres, hstate, hle, (admits_iff hc).1 hadm⟩
    · intro h
      by_cases hopen : r.state = k.opening.name
      · obtain ⟨c, hc, hres, hstate, hle, hu⟩ := h hopen
        exact Or.inr ⟨c, hc, ⟨⟨hres, hstate⟩, hle⟩, (admits_iff hc).2 hu⟩
      · exact Or.inl hopen
  simp only [isCandidate, keepsOpenings, Bool.and_eq_true, Bool.or_eq_true,
    Bool.not_eq_true', Bool.and_eq_false_iff, decide_eq_false_iff_not]
  constructor
  · rintro ⟨hadm, hkeep⟩
    refine ⟨(admits_iff hr).1 hadm, fun hm hrun hopen => ?_⟩
    rcases hkeep with (hm' | hrun') | hp
    · exact absurd hm hm'
    · rw [hrun] at hrun'
      cases hrun'
    · exact hpaired.1 hp hopen
  · rintro ⟨hu, hclosed⟩
    refine ⟨(admits_iff hr).2 hu, ?_⟩
    by_cases hm : mode = .normal
    · cases hrun : p.keepRunning with
      | false => exact Or.inl (Or.inr rfl)
      | true => exact Or.inr (hpaired.2 (hclosed hm hrun))
    · exact Or.inl (Or.inl hm)

theorem candidates_eq_filter :
    candidates p k mode cutoff b =
      b.ledger.rows.filter fun r => decide (IsExpendable p k mode cutoff b r) := by
  unfold candidates
  refine List.filter_congr fun r hr => ?_
  rw [Bool.eq_iff_iff, decide_eq_true_eq]
  exact isCandidate_iff hr

theorem mem_candidates {r : EventRow} :
    r ∈ candidates p k mode cutoff b ↔
      r ∈ b.ledger.rows ∧ IsExpendable p k mode cutoff b r := by
  rw [candidates_eq_filter, List.mem_filter, decide_eq_true_eq]

theorem IsUnprotected.earlier {r c : EventRow} (hr : r ∈ b.ledger.rows)
    (hu : IsUnprotected p mode cutoff b r) (hid : c.id < r.id)
    (htime : c.createdAt ≤ r.createdAt) : IsUnprotected p mode cutoff b c where
  old := Int.lt_of_le_of_lt htime hu.old
  outlived _ := ⟨r, hr, hid⟩
  processed hm hkeep w hw hc := Int.lt_trans hid (hu.processed hm hkeep w hw hc)

/-! ## What a run comes to -/

theorem candidates_rising (hl : b.ledger.WellFormed) (p : Policy) (k : Kind)
    (mode : Mode) (cutoff : Int) :
    ((candidates p k mode cutoff b).map (·.id)).Pairwise (· < ·) := by
  rw [List.pairwise_map]
  exact hl.rising.sublist List.filter_sublist

theorem candidates_low (hl : b.ledger.WellFormed) :
    ∀ x ∈ (candidates p k mode cutoff b).map (·.id), Word.minSigned < x := by
  intro x hx
  obtain ⟨r, hr, rfl⟩ := List.mem_map.1 hx
  have := hl.positive r (mem_candidates.1 hr).1
  unfold Word.minSigned
  omega

theorem run_eq (p : Policy) (k : Kind) (estimator : Estimator) (now : Int) (b : Books) :
    run p k estimator now b =
      match selectMode p k estimator b with
      | .error e => (.error e, b)
      | .ok (mode, estimated) =>
        let cutoff := daysBefore now p.cutoffAgeDays
        let selected := candidates p k mode cutoff b
        let removed := orphans mode selected b
        let b₁ := { b with consumers := b.consumers.filter fun c => ! removed.contains c }
        match deleteInBatches p.batchSize (selected.map (·.id)) b.ledger with
        | (.error e, l) =>
          (.error (.deletionFailed k.eventTable e.message), { b₁ with ledger := l })
        | (.ok outcome, l) =>
          (.ok { Report.start k mode estimated cutoff selected false with
              removedConsumers := removed.length
              deletedRows := outcome.deleted
              batches := outcome.batches },
            { b₁ with ledger := l }.analyze) := by
  unfold run runOn
  cases selectMode p k estimator b with
  | error e => rfl
  | ok chosen =>
      obtain ⟨mode, estimated⟩ := chosen
      simp only [CandidateTable.fill, CandidateTable.reset, List.nil_append]
      cases deleteInBatches p.batchSize ((candidates p k mode
        (daysBefore now p.cutoffAgeDays) b).map (·.id)) b.ledger with
      | mk answer l => cases answer <;> rfl

theorem filter_orphans (selected : List EventRow) :
    (b.consumers.filter fun c => ! (orphans mode selected b).contains c) =
      b.consumers.filter fun c => ! (mode = .sizeExceeded && isOrphaned selected c) := by
  refine List.filter_congr fun c hc => ?_
  congr 1
  unfold orphans
  split
  · next h => simp [h, hc]
  · next h => simp [h]

/-- A run either stops before it touches anything, because it could not settle
its mode, or it forgets the consumers that its mode orphans and deletes a
prefix of what it selected. If it ends well the prefix is the whole. -/
theorem run_cases (hl : b.ledger.WellFormed) (p : Policy) (k : Kind)
    (estimator : Estimator) (now : Int) :
    (∃ e, selectMode p k estimator b = .error e ∧
      run p k estimator now b = (.error e, b)) ∨
    ∃ mode estimated gone,
      selectMode p k estimator b = .ok (mode, estimated) ∧
      gone <+: (candidates p k mode (daysBefore now p.cutoffAgeDays) b).map (·.id) ∧
      (run p k estimator now b).2.ledger = b.ledger.without gone ∧
      (run p k estimator now b).2.consumers = b.consumers.filter (fun c =>
        ! (mode = .sizeExceeded &&
          isOrphaned (candidates p k mode (daysBefore now p.cutoffAgeDays) b) c)) ∧
      ∀ report, (run p k estimator now b).1 = .ok report →
        gone = (candidates p k mode (daysBefore now p.cutoffAgeDays) b).map (·.id) ∧
        report.mode = mode ∧
        report.candidateRows =
          (candidates p k mode (daysBefore now p.cutoffAgeDays) b).length ∧
        report.deletedRows + (b.ledger.without gone).rows.length =
          b.ledger.rows.length ∧
        report.batches = batchCount (max p.batchSize 1) report.candidateRows := by
  cases hmode : selectMode p k estimator b with
  | error e =>
      refine Or.inl ⟨e, rfl, ?_⟩
      rw [run_eq, hmode]
  | ok chosen =>
      obtain ⟨mode, estimated⟩ := chosen
      right
      obtain ⟨gone, hgone, hleft, hok⟩ := deleteInBatches_prefix p.batchSize
        (candidates_rising hl p k mode (daysBefore now p.cutoffAgeDays))
        (candidates_low hl) b.ledger
      refine ⟨mode, estimated, gone, rfl, hgone, ?_⟩
      rw [run_eq, hmode]
      simp only [filter_orphans]
      split
      · next e l hdel =>
          rw [hdel] at hleft
          exact ⟨hleft, rfl, by simp⟩
      · next o l hdel =>
          rw [hdel] at hleft hok
          obtain ⟨hall, hdeleted, hbatches⟩ := hok o rfl
          refine ⟨hleft, rfl, ?_⟩
          intro report hreport
          obtain rfl := Except.ok.inj hreport
          refine ⟨hall, rfl, rfl, hdeleted, ?_⟩
          rw [List.length_map] at hbatches
          exact hbatches

theorem run_settled (hl : b.ledger.WellFormed) {estimator : Estimator}
    {estimated : Option Nat} (hmode : selectMode p k estimator b = .ok (mode, estimated))
    (now : Int) :
    ∃ gone,
      gone <+: (candidates p k mode (daysBefore now p.cutoffAgeDays) b).map (·.id) ∧
      (run p k estimator now b).2.ledger = b.ledger.without gone ∧
      (run p k estimator now b).2.consumers = b.consumers.filter (fun c =>
        ! (mode = .sizeExceeded &&
          isOrphaned (candidates p k mode (daysBefore now p.cutoffAgeDays) b) c)) ∧
      ∀ report, (run p k estimator now b).1 = .ok report →
        gone = (candidates p k mode (daysBefore now p.cutoffAgeDays) b).map (·.id) ∧
        report.mode = mode := by
  rcases run_cases hl p k estimator now with
    ⟨e, herr, -⟩ | ⟨mode', estimated', gone, hmode', hpart, hleft, hstay, hall⟩
  · rw [hmode] at herr
    cases herr
  · rw [hmode] at hmode'
    obtain ⟨rfl, -⟩ := Prod.mk.inj (Except.ok.inj hmode')
    exact ⟨gone, hpart, hleft, hstay, fun report hok =>
      ⟨(hall report hok).1, (hall report hok).2.1⟩⟩

theorem report_mode (hl : b.ledger.WellFormed) {estimator : Estimator} {now : Int}
    {estimated : Option Nat} {report : Report}
    (hmode : selectMode p k estimator b = .ok (mode, estimated))
    (hok : (run p k estimator now b).1 = .ok report) : report.mode = mode := by
  obtain ⟨gone, -, -, -, hall⟩ := run_settled hl hmode now
  exact (hall report hok).2

theorem exists_run_ledger (hl : b.ledger.WellFormed) (p : Policy) (k : Kind)
    (estimator : Estimator) (now : Int) :
    ∃ gone, (run p k estimator now b).2.ledger = b.ledger.without gone := by
  rcases run_cases hl p k estimator now with
    ⟨e, -, herr⟩ | ⟨mode, estimated, gone, -, -, hleft, -, -⟩
  · exact ⟨[], by rw [herr, Ledger.without_nil]⟩
  · exact ⟨gone, hleft⟩

theorem wellFormed_run (hl : b.ledger.WellFormed) (p : Policy) (k : Kind)
    (estimator : Estimator) (now : Int) :
    (run p k estimator now b).2.ledger.WellFormed := by
  obtain ⟨gone, hleft⟩ := exists_run_ledger hl p k estimator now
  rw [hleft]
  exact hl.without gone

theorem mem_of_mem_run (hl : b.ledger.WellFormed) {estimator : Estimator} {now : Int}
    {r : EventRow} (hr : r ∈ (run p k estimator now b).2.ledger.rows) :
    r ∈ b.ledger.rows := by
  obtain ⟨gone, hleft⟩ := exists_run_ledger hl p k estimator now
  rw [hleft] at hr
  exact (Ledger.mem_without.1 hr).1

theorem expendable_of_not_mem_run (hl : b.ledger.WellFormed) {estimator : Estimator}
    {now : Int} {r : EventRow} (hr : r ∈ b.ledger.rows)
    (hgone : r ∉ (run p k estimator now b).2.ledger.rows) :
    ∃ mode estimated, selectMode p k estimator b = .ok (mode, estimated) ∧
      IsExpendable p k mode (daysBefore now p.cutoffAgeDays) b r := by
  rcases run_cases hl p k estimator now with
    ⟨e, -, herr⟩ | ⟨mode, estimated, gone, hmode, hpart, hleft, -, -⟩
  · rw [herr] at hgone
    exact absurd hr hgone
  · rw [hleft, Ledger.mem_without] at hgone
    have hid : r.id ∈ gone := by
      simpa [hr] using hgone
    obtain ⟨s, hs, hsame⟩ := List.mem_map.1 (hpart.subset hid)
    obtain ⟨hs, hexp⟩ := mem_candidates.1 hs
    rw [hl.eq_of_id hs hr hsame] at hexp
    exact ⟨mode, estimated, hmode, hexp⟩

theorem not_mem_run_of_expendable (hl : b.ledger.WellFormed) {estimator : Estimator}
    {now : Int} {report : Report} (hok : (run p k estimator now b).1 = .ok report)
    {r : EventRow} (hr : r ∈ b.ledger.rows)
    (hexp : IsExpendable p k report.mode (daysBefore now p.cutoffAgeDays) b r) :
    r ∉ (run p k estimator now b).2.ledger.rows := by
  rcases run_cases hl p k estimator now with
    ⟨e, -, herr⟩ | ⟨mode, estimated, gone, -, -, hleft, -, hall⟩
  · rw [herr] at hok
    cases hok
  · obtain ⟨hgone, rfl, -⟩ := hall report hok
    rw [hleft, Ledger.mem_without]
    rintro ⟨-, hkept⟩
    rw [hgone] at hkept
    exact hkept (List.mem_map_of_mem (mem_candidates.2 ⟨hr, hexp⟩))

theorem statistics_run_of_ok {estimator : Estimator} {now : Int} {report : Report}
    (hok : (run p k estimator now b).1 = .ok report) :
    (run p k estimator now b).2.statistics =
      Statistics.ofCount (run p k estimator now b).2.size := by
  rw [run_eq] at hok ⊢
  cases hmode : selectMode p k estimator b with
  | error e => rw [hmode] at hok; cases hok
  | ok chosen =>
      rw [hmode] at hok
      simp only [] at hok ⊢
      split
      · next hdel => rw [hdel] at hok; cases hok
      · rfl

theorem statistics_run_of_error {estimator : Estimator} {now : Int} {e : Error}
    (herr : (run p k estimator now b).1 = .error e) :
    (run p k estimator now b).2.statistics = b.statistics := by
  rw [run_eq] at herr ⊢
  cases hmode : selectMode p k estimator b with
  | error e => rfl
  | ok chosen =>
      rw [hmode] at herr
      simp only [] at herr ⊢
      split
      · rfl
      · next hdel => rw [hdel] at herr; cases herr

theorem run_of_unguarded {p : Policy} {k : Kind} {estimator : Estimator}
    {chosen : Mode × Option Nat} (hmode : selectMode p k estimator b = .ok chosen)
    (h : ∀ r ∈ b.ledger.rows, r.guid ∉ b.ledger.guarded) (now : Int) :
    ∃ report b', run p k estimator now b = (.ok report, b') := by
  obtain ⟨mode, estimated⟩ := chosen
  obtain ⟨o, ho⟩ := deleteRemaining_of_unguarded (max p.batchSize 1)
    (candidateIds ((candidates p k mode (daysBefore now p.cutoffAgeDays) b).map (·.id)))
    BatchOutcome.none b.ledger h
  rw [run_eq, hmode]
  simp only []
  split
  · next hdel =>
      unfold deleteInBatches at hdel
      rw [hdel] at ho
      cases ho
  · exact ⟨_, _, rfl⟩

/-! ## The run as a filter -/

theorem isUnprotected_congr {cutoff' : Int} {r : EventRow}
    (h : r.createdAt < cutoff ↔ r.createdAt < cutoff') :
    IsUnprotected p mode cutoff b r ↔ IsUnprotected p mode cutoff' b r :=
  ⟨fun hu => ⟨h.1 hu.old, hu.outlived, hu.processed⟩,
    fun hu => ⟨h.2 hu.old, hu.outlived, hu.processed⟩⟩

theorem isExpendable_congr {cutoff' : Int}
    (h : ∀ s ∈ b.ledger.rows, s.createdAt < cutoff ↔ s.createdAt < cutoff')
    {r : EventRow} (hr : r ∈ b.ledger.rows) :
    IsExpendable p k mode cutoff b r ↔ IsExpendable p k mode cutoff' b r := by
  constructor
  · intro he
    refine ⟨(isUnprotected_congr (h r hr)).1 he.unprotected, ?_⟩
    intro hm hkeep hopen
    obtain ⟨c, hc, hres, hstate, hle, hu⟩ := he.closed hm hkeep hopen
    exact ⟨c, hc, hres, hstate, hle, (isUnprotected_congr (h c hc)).1 hu⟩
  · intro he
    refine ⟨(isUnprotected_congr (h r hr)).2 he.unprotected, ?_⟩
    intro hm hkeep hopen
    obtain ⟨c, hc, hres, hstate, hle, hu⟩ := he.closed hm hkeep hopen
    exact ⟨c, hc, hres, hstate, hle, (isUnprotected_congr (h c hc)).2 hu⟩

theorem without_candidates (hl : b.ledger.WellFormed) (p : Policy) (k : Kind)
    (mode : Mode) (cutoff : Int) :
    (b.ledger.without ((candidates p k mode cutoff b).map (·.id))).rows =
      b.ledger.rows.filter fun r => ! decide (IsExpendable p k mode cutoff b r) := by
  rw [candidates_eq_filter]
  refine List.filter_congr fun r hr => ?_
  rw [hl.contains_id_filter _ hr]

/-- After a successful run the ledger is what it was, less the events that may
go by the state of the books before the run. The cutoff is so many days before
the moment of the run, and the batches are as many as the deleted events
make. -/
theorem run_ok_eq_filter {p : Policy} {k : Kind} {estimator : Estimator}
    {now : Int} {b b' : Books} {report : Report} (hl : b.ledger.WellFormed)
    (hids : ∀ r ∈ b.ledger.rows, r.id < Word.maxSigned)
    (htimes : ∀ r ∈ b.ledger.rows, Word.minSigned ≤ r.createdAt)
    (hnow : now ≤ Word.maxSigned) (hdays : p.cutoffAgeDays ≤ Word.max32)
    (hrun : run p k estimator now b = (.ok report, b')) :
    (∃ estimated, selectMode p k estimator b = .ok (report.mode, estimated)) ∧
    b'.ledger.rows = b.ledger.rows.filter (fun r => ! decide (IsExpendable p k
      report.mode (now - p.cutoffAgeDays * millisPerDay) b r)) ∧
    b'.ledger.issued = b.ledger.issued ∧ b'.ledger.guarded = b.ledger.guarded ∧
    report.candidateRows = report.deletedRows ∧
    report.deletedRows + b'.ledger.rows.length = b.ledger.rows.length ∧
    report.batches =
      (report.deletedRows + max p.batchSize 1 - 1) / max p.batchSize 1 := by
  rcases run_cases hl p k estimator now with
    ⟨e, -, herr⟩ | ⟨mode, estimated, gone, hmode, -, hleft, -, hok⟩
  · rw [herr] at hrun
    cases (Prod.mk.inj hrun).1
  · rw [hrun] at hleft hok
    obtain ⟨hgone, hm, hcand, hcount, hbatches⟩ := hok report rfl
    subst hm
    have hcut : ∀ r ∈ b.ledger.rows, r.createdAt < daysBefore now p.cutoffAgeDays ↔
        r.createdAt < now - p.cutoffAgeDays * millisPerDay := fun r hr =>
      Time.lt_daysBefore (htimes r hr) hnow hdays
    have hrows := without_candidates hl p k report.mode
      (daysBefore now p.cutoffAgeDays)
    have hsplit := length_without gone b.ledger
    have hselected : b.ledger.rows.filter (fun r => gone.contains r.id) =
        candidates p k report.mode (daysBefore now p.cutoffAgeDays) b := by
      rw [hgone, candidates_eq_filter]
      exact List.filter_congr fun r hr => hl.contains_id_filter _ hr
    rw [hselected, ← hcand] at hsplit
    have hsame : report.candidateRows = report.deletedRows := by omega
    have hfew : report.candidateRows ≤ Page.signedBound := by
      have := length_le_of_rising 0
        (List.pairwise_map.2 hl.rising)
        (by simpa using hl.positive) (by simpa using hids)
      rw [List.length_map] at this
      unfold Word.maxSigned at this
      unfold Page.signedBound
      omega
    have hleft : b'.ledger = b.ledger.without gone := hleft
    rw [hleft]
    refine ⟨⟨estimated, hmode⟩, ?_, rfl, rfl, hsame, hcount, ?_⟩
    · rw [hgone, hrows]
      refine List.filter_congr fun r hr => ?_
      rw [decide_eq_decide.2 (isExpendable_congr hcut hr)]
    · rw [hbatches, batchCount_eq_div (by omega) hfew, hsame]

/-- All protections on events of any age, and one event deleted at a time. -/
def oneByOne : Policy := ⟨0, true, true, true, 0, 1⟩

/-- The books of one process that was started and stopped and of two that are
running still. -/
def stoppedAndRunning : Books :=
  ⟨⟨[⟨1, "a", 10, "STARTED", "web", none, none, none, none, "{}"⟩,
      ⟨2, "b", 20, "STOPPED", "web", none, none, none, none, "{}"⟩,
      ⟨3, "c", 30, "STARTED", "db", none, none, none, none, "{}"⟩,
      ⟨4, "d", 40, "STARTED", "mail", none, none, none, none, "{}"⟩], 4, []⟩,
    [⟨"billing", "d", 0, 0⟩], []⟩

theorem stoppedAndRunning_wellFormed : stoppedAndRunning.ledger.WellFormed := by
  constructor <;> decide

/-- The events of the stopped process go, one at a time, and the others stay. -/
theorem run_stoppedAndRunning :
    ∃ report b', run oneByOne .process .exact 35 stoppedAndRunning =
        (.ok report, b') ∧
      b'.ledger.rows = stoppedAndRunning.ledger.rows.drop 2 ∧
      report.mode = .normal ∧ report.deletedRows = 2 ∧ report.batches = 2 := by
  have hchosen : selectMode oneByOne .process .exact stoppedAndRunning =
      .ok (.normal, none) := rfl
  obtain ⟨report, b', hrun⟩ := run_of_unguarded hchosen (by decide) 35
  obtain ⟨-, hrows, -, -, -, hcount, hbatches⟩ :=
    run_ok_eq_filter stoppedAndRunning_wellFormed (by decide) (by decide)
      (by decide) (by decide) hrun
  have hnormal : report.mode = .normal :=
    report_mode stoppedAndRunning_wellFormed hchosen (congrArg Prod.fst hrun)
  rw [hnormal] at hrows
  have hleft : b'.ledger.rows = stoppedAndRunning.ledger.rows.drop 2 :=
    hrows.trans (by decide)
  rw [hleft] at hcount
  have hdeleted : report.deletedRows = 2 := Nat.add_right_cancel hcount
  refine ⟨report, b', hrun, hleft, hnormal, hdeleted, ?_⟩
  rw [hbatches, hdeleted]
  rfl

end Metering.Retention
