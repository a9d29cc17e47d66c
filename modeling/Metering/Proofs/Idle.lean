import Metering.Proofs.Pairing

/-!
# Idle resources

A resource is idle while nothing opens or closes its use, or the last event
that does closes it. Retention must not turn an idle resource into a running
one, whatever rules are switched off and wherever a run stops. The danger is
an opening event that outlives the closing one after it. It cannot, where
times do not fall: what lets the closing event go lets every earlier event of
the resource go, because the earlier one is no younger, is below the same
limits, and, if it opens the use of the resource, is closed by the event
itself. And batches delete in the order of identifiers, so a run that came to
the closing event had come to the earlier ones before it.
-/

namespace Metering.Retention

open Metering.Time (daysBefore)

/-- An event opens or closes the use of its resource. -/
def Turns (k : Kind) (r : EventRow) : Prop :=
  r.state = k.opening.name ∨ r.state = k.closing.name

instance (k : Kind) (r : EventRow) : Decidable (Turns k r) :=
  inferInstanceAs (Decidable (_ ∨ _))

/-- No event opens or closes the use of a resource, or the last one that does
closes it. -/
inductive IsIdle (k : Kind) (l : Ledger) (resource : String) : Prop where
  | unused (h : ∀ r ∈ l.rows, r.resource = resource → ¬ Turns k r)
  | closed (c : EventRow) (present : c ∈ l.rows) (own : c.resource = resource)
      (closing : c.state = k.closing.name)
      (last : ∀ r ∈ l.rows, r.resource = resource → Turns k r → r.id ≤ c.id)

variable {p : Policy} {k : Kind} {b : Books} {resource : String}

theorem exists_last {l : Ledger} (hrising : l.rows.Pairwise (·.id < ·.id))
    (q : EventRow → Prop) [DecidablePred q] :
    (∀ r ∈ l.rows, ¬ q r) ∨
      ∃ c ∈ l.rows, q c ∧ ∀ r ∈ l.rows, q r → r.id ≤ c.id := by
  have hmem : ∀ r, r ∈ l.rows.filter (fun r => q r) ↔ r ∈ l.rows ∧ q r := by simp
  cases hlast : (l.rows.filter fun r => q r).getLast? with
  | none =>
      rw [List.getLast?_eq_none_iff] at hlast
      refine Or.inl fun r hr hq => ?_
      have := (hmem r).2 ⟨hr, hq⟩
      rw [hlast] at this
      cases this
  | some c =>
      obtain ⟨hc, hqc⟩ := (hmem c).1 (List.mem_of_getLast? hlast)
      refine Or.inr ⟨c, hc, hqc, fun r hr hq => ?_⟩
      obtain ⟨init, hsplit⟩ := List.getLast?_eq_some_iff.1 hlast
      have hpair := hrising.filter fun r => q r
      have hin := (hmem r).2 ⟨hr, hq⟩
      rw [hsplit] at hpair hin
      rcases List.mem_append.1 hin with hin | hin
      · exact Int.le_of_lt ((List.pairwise_append.1 hpair).2.2 r hin c (by simp))
      · exact Int.le_of_eq (congrArg _ (List.mem_singleton.1 hin))

/-- A resource is idle exactly if every event that opens its use comes before
one that closes it. -/
theorem isIdle_iff {l : Ledger} (hrising : l.rows.Pairwise (·.id < ·.id)) :
    IsIdle k l resource ↔
      ∀ o ∈ l.rows, o.resource = resource → o.state = k.opening.name →
        ∃ c ∈ l.rows, c.resource = resource ∧ c.state = k.closing.name ∧ o.id < c.id := by
  constructor
  · intro hidle o ho hown hopen
    cases hidle with
    | unused h => exact absurd (Or.inl hopen) (h o ho hown)
    | closed c hc hsame hclosing hlast =>
        have hle := hlast o ho hown (Or.inl hopen)
        rcases eq_or_before hrising ho hc with rfl | hlt | hlt
        · exact absurd (hclosing.symm.trans hopen) (closing_ne_opening k)
        · exact ⟨c, hc, hsame, hclosing, hlt⟩
        · omega
  · intro h
    rcases exists_last hrising (fun r => r.resource = resource ∧ Turns k r) with
      hnone | ⟨c, hc, ⟨hown, hturn⟩, hlast⟩
    · exact .unused fun r hr hsame hturn => hnone r hr ⟨hsame, hturn⟩
    · rcases hturn with hopen | hclosing
      · -- an opening event is not the last, since one that closes it follows
        obtain ⟨d, hd, hsame, hclosing, hlt⟩ := h c hc hown hopen
        have := hlast d hd ⟨hsame, Or.inr hclosing⟩
        omega
      · exact .closed c hc hown hclosing fun r hr hsame hturn => hlast r hr ⟨hsame, hturn⟩

theorem IsIdle.not_isRunning {l : Ledger} (hl : l.WellFormed)
    (hidle : IsIdle k l resource) {r : EventRow} (hown : r.resource = resource) :
    ¬ IsRunning k l r := by
  intro hrun
  obtain ⟨c, hc, hsame, hclosing, hlt⟩ :=
    (isIdle_iff hl.rising).1 hidle r hrun.present hown hrun.opening
  have := hrun.last c hc (hsame.trans hown.symm) (Or.inr hclosing)
  omega

/-! ## One run -/

/-- A run that deletes a closing event deletes every earlier event of its
resource, however it ends. -/
theorem earlier_goes_with_closing (hl : b.ledger.WellFormed)
    (htimes : b.ledger.rows.Pairwise (·.createdAt ≤ ·.createdAt))
    {estimator : Estimator} {now : Int} {o c : EventRow} (ho : o ∈ b.ledger.rows)
    (hc : c ∈ b.ledger.rows) (hown : c.resource = o.resource)
    (hclosing : c.state = k.closing.name) (hid : o.id < c.id)
    (hgone : c ∉ (run p k estimator now b).2.ledger.rows) :
    o ∉ (run p k estimator now b).2.ledger.rows := by
  rcases run_cases hl p k estimator now with
    ⟨e, -, herr⟩ | ⟨mode, estimated, gone, -, hpart, hleft, -, -⟩
  · rw [herr] at hgone
    exact absurd hc hgone
  · rw [hleft, Ledger.mem_without] at hgone ⊢
    have hcgone : c.id ∈ gone := by simpa [hc] using hgone
    have hu : IsUnprotected p mode (daysBefore now p.cutoffAgeDays) b c := by
      obtain ⟨s, hs, hsame⟩ := List.mem_map.1 (hpart.subset hcgone)
      obtain ⟨hs, hexp⟩ := mem_candidates.1 hs
      rw [← hl.eq_of_id hs hc hsame]
      exact hexp.unprotected
    have htime : o.createdAt ≤ c.createdAt := by
      rcases eq_or_before (hl.rising.and htimes) ho hc with rfl | ⟨-, hle⟩ | ⟨hlt, -⟩
      · exact Int.le_refl _
      · exact hle
      · omega
    -- nothing that protects `o` alone is left: if it opens the use, `c` closes it
    have hexp : IsExpendable p k mode (daysBefore now p.cutoffAgeDays) b o :=
      ⟨hu.earlier hc hid htime, fun _ _ _ => ⟨c, hc, hown, hclosing, htime, hu⟩⟩
    have hogone : o.id ∈ gone :=
      mem_of_prefix_of_lt hpart (candidates_rising hl ..) hcgone
        (List.mem_map_of_mem (mem_candidates.2 ⟨ho, hexp⟩)) hid
    exact fun hkept => hkept.2 hogone

/-- A ledger as retention expects it: well-formed, with times that do not fall. -/
structure IsTimely (l : Ledger) : Prop where
  wellFormed : l.WellFormed
  times : l.rows.Pairwise (·.createdAt ≤ ·.createdAt)

theorem IsTimely.run (hb : IsTimely b.ledger) (p : Policy) (k : Kind)
    (estimator : Estimator) (now : Int) :
    IsTimely (run p k estimator now b).2.ledger := by
  obtain ⟨gone, hleft⟩ := exists_run_ledger hb.wellFormed p k estimator now
  rw [hleft]
  exact ⟨hb.wellFormed.without gone, hb.times.filter _⟩

theorem IsIdle.run (hb : IsTimely b.ledger) (hidle : IsIdle k b.ledger resource)
    (p : Policy) (estimator : Estimator) (now : Int) :
    IsIdle k (run p k estimator now b).2.ledger resource := by
  have hl := hb.wellFormed
  refine (isIdle_iff (hb.run p k estimator now).wellFormed.rising).2 ?_
  intro o ho hown hopen
  have hpast := mem_of_mem_run hl ho
  obtain ⟨c, hc, hsame, hclosing, hlt⟩ :=
    (isIdle_iff hl.rising).1 hidle o hpast hown hopen
  refine ⟨c, Classical.byContradiction fun hgone => ?_, hsame, hclosing, hlt⟩
  exact earlier_goes_with_closing hl hb.times hpast hc (hsame.trans hown.symm)
    hclosing hlt hgone ho

/-! ## Any series of runs -/

/-- One run of a series, and the guids that are guarded while it lasts. A guard
on an event makes the batch fail that would delete it, so the guards decide
where the run is aborted. -/
structure Sweep where
  policy : Policy
  estimator : Estimator
  now : Int
  guarded : List String

namespace Sweep

/-- The books under the guards of a sweep. -/
def guarding (s : Sweep) (b : Books) : Books :=
  { b with ledger := { b.ledger with guarded := s.guarded } }

/-- The books after a sweep. -/
def perform (k : Kind) (b : Books) (s : Sweep) : Books :=
  (run s.policy k s.estimator s.now (s.guarding b)).2

/-- The books after a series of sweeps. -/
def performAll (k : Kind) (ss : List Sweep) (b : Books) : Books :=
  ss.foldl (perform k) b

theorem isTimely_guarding (s : Sweep) (hb : IsTimely b.ledger) :
    IsTimely (s.guarding b).ledger where
  wellFormed := hb.wellFormed.withGuards s.guarded
  times := hb.times

theorem isIdle_guarding (s : Sweep) (hidle : IsIdle k b.ledger resource) :
    IsIdle k (s.guarding b).ledger resource := by
  cases hidle with
  | unused h => exact .unused h
  | closed c hc hown hclosing hlast => exact .closed c hc hown hclosing hlast

theorem isTimely_performAll (k : Kind) (ss : List Sweep) (hb : IsTimely b.ledger) :
    IsTimely (performAll k ss b).ledger := by
  induction ss generalizing b with
  | nil => exact hb
  | cons s ss ih => exact ih ((s.isTimely_guarding hb).run s.policy k s.estimator s.now)

theorem isIdle_performAll (ss : List Sweep) (hb : IsTimely b.ledger)
    (hidle : IsIdle k b.ledger resource) :
    IsIdle k (performAll k ss b).ledger resource := by
  induction ss generalizing b with
  | nil => exact hidle
  | cons s ss ih =>
      have hguarded := s.isTimely_guarding hb
      exact ih (hguarded.run s.policy k s.estimator s.now)
        ((s.isIdle_guarding hidle).run hguarded s.policy s.estimator s.now)

/-- A resource that is idle at some point of a series of runs is not running at
any later point of it: whatever the clocks and policies are, whether the
consumers' and resources' protections are in force, and wherever the runs are
aborted. -/
theorem performAll_keeps_idle (hl : b.ledger.WellFormed)
    (htimes : b.ledger.rows.Pairwise (·.createdAt ≤ ·.createdAt))
    (done more : List Sweep) (hidle : IsIdle k (performAll k done b).ledger resource) :
    IsIdle k (performAll k (done ++ more) b).ledger resource ∧
    ∀ r, r.resource = resource →
      ¬ IsRunning k (performAll k (done ++ more) b).ledger r := by
  have hafter : IsIdle k (performAll k (done ++ more) b).ledger resource := by
    have := isIdle_performAll more (isTimely_performAll k done ⟨hl, htimes⟩) hidle
    unfold performAll at this ⊢
    rwa [List.foldl_append]
  exact ⟨hafter, fun r hown =>
    hafter.not_isRunning (isTimely_performAll k _ ⟨hl, htimes⟩).wellFormed hown⟩

/-- The last stop of a process that ran twice. -/
def lastStop : EventRow :=
  ⟨4, "d", 40, "STOPPED", "web", none, none, none, none, "{}"⟩

/-- The books of that process and of one that is running, with a consumer in
the middle of the second use. -/
def stoppedTwice : Books :=
  ⟨⟨[⟨1, "a", 10, "STARTED", "web", none, none, none, none, "{}"⟩,
      ⟨2, "b", 20, "STOPPED", "web", none, none, none, none, "{}"⟩,
      ⟨3, "c", 30, "STARTED", "web", none, none, none, none, "{}"⟩,
      lastStop,
      ⟨5, "e", 50, "STARTED", "db", none, none, none, none, "{}"⟩], 5, []⟩,
    [⟨"billing", "c", 0, 0⟩], []⟩

/-- A run without the protection of running resources, aborted at its second
batch. -/
def interrupted : Sweep := ⟨⟨0, true, false, true, 0, 1⟩, .exact, 60, ["b"]⟩

/-- A run over an overfull ledger, aborted at the last stop. -/
def overfull : Sweep := ⟨⟨0, false, true, true, 1, 2⟩, .exact, 60, ["d"]⟩

/-- The process does not come to life again. -/
theorem performAll_stoppedTwice :
    IsIdle .process stoppedTwice.ledger "web" ∧
    ∀ r, r.resource = "web" → ¬ IsRunning .process
      (performAll .process ([] ++ [interrupted, overfull]) stoppedTwice).ledger r := by
  have hidle : IsIdle .process stoppedTwice.ledger "web" :=
    .closed lastStop (by decide) rfl rfl (by decide)
  have hl : stoppedTwice.ledger.WellFormed := by constructor <;> decide
  exact ⟨hidle, (performAll_keeps_idle hl (by decide) [] [interrupted, overfull] hidle).2⟩

end Sweep

end Metering.Retention
