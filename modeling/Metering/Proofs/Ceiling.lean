import Metering.Proofs.Consumption

/-!
# The ceiling and the recorded count

A policy sets the protections of consumers and of running resources aside for
a ledger that is over its ceiling. Nobody counts the ledger for this: the count
is the one that was recorded when the last run ended well, and until the first
such run there is none and the events are counted.

A recorded count grows old in two ways. Events come in, and then it is too low,
so that the protections hold for longer than they need to. And a run that fails
has deleted events all the same but records nothing; then it is too high, and
the protections may be set aside for a ledger that is under its ceiling.

`Counted` has both differences beside the database, and `Counted.Sound` says
that there are no others. So a ledger that loses its protections is over the
ceiling together with the events that failed runs have deleted since the last
count (`overfull_of_sizeExceeded`), and without these it need not be
(`unprotected_under_ceiling`).
-/

namespace Metering

open Retention (Policy Report selectMode)

/-! ## A count read back -/

theorem Text.isBlank_of_isDigit {c : Char} (h : c.isDigit = true) :
    isBlank c = false := by
  have hbounds : 48 ≤ c.toNat ∧ c.toNat ≤ 57 := by
    simpa [Char.isDigit, UInt32.le_iff_toNat_le] using h
  rw [Bool.eq_false_iff]
  simp only [isBlank, ne_eq, Bool.or_eq_true, Bool.and_eq_true, decide_eq_true_eq,
    beq_iff_eq]
  omega

theorem Text.firstWord?_digits {ds : List Char} (hne : ds ≠ [])
    (hds : ∀ c ∈ ds, c.isDigit = true) :
    firstWord? (String.ofList ds) = some (String.ofList ds) := by
  have hfull : ∀ c ∈ ds, isBlank c = false := fun c hc => isBlank_of_isDigit (hds c hc)
  have hdrop : ds.dropWhile isBlank = ds := by
    cases ds with
    | nil => rfl
    | cons c cs =>
        exact List.dropWhile_cons_of_neg
          (Bool.eq_false_iff.1 (hfull c (List.mem_cons_self ..)))
  have htake : ds.takeWhile (! isBlank ·) = ds := by
    have hall : (ds ++ []).takeWhile (! isBlank ·) = ds ++ [].takeWhile (! isBlank ·) :=
      List.takeWhile_append_of_pos fun c hc => by rw [hfull c hc]; rfl
    rwa [List.append_nil, List.takeWhile_nil, List.append_nil] at hall
  unfold firstWord?
  rw [String.toList_ofList, hdrop, htake]
  cases ds with
  | nil => exact absurd rfl hne
  | cons c cs => rfl

theorem Decimal.ofDigits_eq (ds : List Char) : ofDigits ds = Nat.ofDigitChars 10 ds 0 := by
  unfold ofDigits Nat.ofDigitChars
  congr 1
  funext n c
  rw [Nat.mul_comm]

namespace Statistics

theorem count?_toString (n : Nat) :
    count? (toString n) = if n ≤ Word.max then some n else none := by
  have hdigits : ∀ c ∈ Nat.toDigits 10 n, c.isDigit = true := fun _ hc =>
    Nat.isDigit_of_mem_toDigits (by decide) (by decide) hc
  have hword : (toString n).toList = Nat.toDigits 10 n := String.toList_ofList
  have hnatural : Decimal.natural? (Nat.toDigits 10 n) = some n := by
    unfold Decimal.natural?
    rw [if_neg (by simpa [Nat.toDigits_ne_nil] using hdigits), Decimal.ofDigits_eq,
      Nat.ofDigitChars_ten_toDigits]
  unfold count? Decimal.unsigned?
  rw [hword]
  cases hd : Nat.toDigits 10 n with
  | nil => exact absurd hd Nat.toDigits_ne_nil
  | cons c cs =>
      have hplus : c ≠ '+' := by
        rintro rfl
        exact absurd (hdigits '+' (hd ▸ List.mem_cons_self ..)) (by decide)
      simp only [hd] at hnatural
      simp only [if_neg hplus, hnatural]

theorem largest?_ofCount {rows n : Nat} (h : largest? (ofCount rows) = some n) :
    n = rows := by
  unfold ofCount at h
  split at h
  · cases h
  · have hword : Text.firstWord? (toString rows) = some (toString rows) :=
      Text.firstWord?_digits Nat.toDigits_ne_nil fun _ hc =>
        Nat.isDigit_of_mem_toDigits (by decide) (by decide) hc
    have hcount : count? (toString rows) = some n := by
      unfold largest? at h
      rw [List.filterMap_cons, Option.bind_some, hword, Option.bind_some] at h
      cases hc : count? (toString rows) with
      | none => rw [hc] at h; cases h
      | some m => rw [hc] at h; exact h
    rw [count?_toString] at hcount
    split at hcount
    · exact (Option.some.inj hcount).symm
    · cases hcount

end Statistics

theorem Retention.exceeds_of_sizeExceeded {p : Policy} {k : Kind} {estimator : Estimator}
    {b : Books} {estimated : Option Nat}
    (h : selectMode p k estimator b = .ok (.sizeExceeded, estimated)) :
    ∃ n, estimated = some n ∧ p.maxRows < n ∧ estimator.estimate b = .ok n := by
  unfold selectMode at h
  split at h
  · cases h
  · cases hn : estimator.estimate b with
    | error e => rw [hn] at h; cases h
    | ok n =>
        rw [hn] at h
        obtain ⟨hmode, rfl⟩ := Prod.mk.inj (Except.ok.inj h)
        refine ⟨n, rfl, ?_, rfl⟩
        split at hmode
        · assumption
        · cases hmode

/-! ## What the count misses -/

/-- A database, and what has become of the ledger of a kind since its events were
last counted. -/
structure Counted where
  db : Database
  /-- The events that have come in. -/
  added : Nat
  /-- The events that failed runs have deleted. -/
  lost : Nat

namespace Counted

/-- The answer of an action that is a real run on the books of a kind. -/
def outcome? (k : Kind) (db : Database) : Kind × Action → Option (Except Error Report)
  | (j, .retain p estimator now false) =>
      if j = k then some (db.retain p j estimator now false).1 else none
  | _ => none

/-- An action on the books of either kind. -/
def step (k : Kind) (s : Counted) (x : Kind × Action) : Counted :=
  let db := x.2.perform x.1 s.db
  let before := (s.db.books.get k).size
  let after := (db.books.get k).size
  match outcome? k s.db x with
  | some (.ok _) => ⟨db, 0, 0⟩
  | some (.error _) => ⟨db, s.added, s.lost + (before - after)⟩
  | none => ⟨db, s.added + (after - before), s.lost⟩

/-- Where a sequence of actions leads from a fresh database. -/
def after (k : Kind) (xs : List (Kind × Action)) : Counted :=
  xs.foldl (step k) ⟨.fresh, 0, 0⟩

/-- Where there is a recorded count, the ledger differs from it by what came in and
by what failed runs have deleted. -/
structure Sound (k : Kind) (s : Counted) : Prop where
  installed : s.db.installed = true
  ledger : (s.db.ledger k).WellFormed
  recorded : ∀ n, Statistics.largest? (s.db.books.get k).statistics = some n →
    n + s.added = (s.db.books.get k).size + s.lost

variable {k : Kind} {s : Counted}

theorem size_run_le {b : Books} (hl : b.ledger.WellFormed) (p : Policy) (k : Kind)
    (estimator : Estimator) (now : Int) :
    (Retention.run p k estimator now b).2.size ≤ b.size := by
  obtain ⟨gone, hleft⟩ := Retention.exists_run_ledger hl p k estimator now
  unfold Books.size
  rw [hleft]
  exact List.length_filter_le ..

theorem outcome?_eq_some {db : Database} (hinst : db.installed = true) {j : Kind}
    {a : Action} {answer : Except Error Report} (h : outcome? k db (j, a) = some answer) :
    ∃ p estimator now,
      answer = (Retention.run p k estimator now (db.books.get k)).1 ∧
      (a.perform j db).books.get k =
        (Retention.run p k estimator now (db.books.get k)).2 := by
  unfold outcome? at h
  split at h
  · next i p estimator now heq =>
      obtain ⟨rfl, rfl⟩ := Prod.mk.inj heq
      split at h
      · next hj =>
          subst hj
          refine ⟨p, estimator, now, (Option.some.inj h).symm.trans ?_, ?_⟩
          · unfold Database.retain
            simp [hinst]
          · show (db.retain p j estimator now false).2.books.get j = _
            rw [(Database.retain_eq hinst p estimator now).2, Database.books_withBooks]
      · cases h
  · cases h

theorem perform_of_outcome?_eq_none {db : Database} (hinst : db.installed = true)
    (hl : (db.ledger k).WellFormed) {j : Kind} {a : Action}
    (h : outcome? k db (j, a) = none) :
    ((a.perform j db).ledger k).WellFormed ∧
    ((a.perform j db).books.get k).statistics = (db.books.get k).statistics ∧
    (db.books.get k).size ≤ ((a.perform j db).books.get k).size := by
  obtain ⟨b, heq, hcases⟩ := a.perform_eq (k := j) hinst
  unfold Database.ledger
  rw [heq]
  by_cases hj : k = j
  · subst hj
    rw [Database.books_withBooks]
    rcases hcases with ⟨now, guid, e, -, rfl⟩ | ⟨r, -, -, rfl⟩ | ⟨guards, -, rfl⟩ |
      ⟨p, estimator, now, rfl, -⟩
    · refine ⟨hl.append k now guid e, rfl, ?_⟩
      show (db.ledger k).rows.length ≤ ((db.ledger k).append k now guid e).2.rows.length
      rcases Ledger.append_cases k now guid e (db.ledger k) with ⟨-, hsame⟩ | ⟨-, hnew⟩
      · exact Nat.le_of_eq (by rw [hsame])
      · rw [hnew, List.length_append]
        exact Nat.le_add_right ..
    · exact ⟨hl, rfl, Nat.le_refl _⟩
    · exact ⟨hl.withGuards guards, rfl, Nat.le_refl _⟩
    · simp [outcome?] at h
  · rw [Database.books_withBooks_of_ne hj]
    exact ⟨hl, rfl, Nat.le_refl _⟩

theorem Sound.step (hs : s.Sound k) (x : Kind × Action) : (s.step k x).Sound k := by
  obtain ⟨j, a⟩ := x
  have hinst : (a.perform j s.db).installed = true := by
    obtain ⟨b, heq, -⟩ := a.perform_eq (k := j) hs.installed
    rw [heq]
    exact hs.installed
  cases hout : outcome? k s.db (j, a) with
  | none =>
      obtain ⟨hl, hcount, hsize⟩ := perform_of_outcome?_eq_none hs.installed hs.ledger hout
      unfold Counted.step
      simp only [hout]
      refine ⟨hinst, hl, fun n hn => ?_⟩
      rw [hcount] at hn
      have hbefore := hs.recorded n hn
      show n + (s.added + (((a.perform j s.db).books.get k).size - (s.db.books.get k).size)) =
        ((a.perform j s.db).books.get k).size + s.lost
      omega
  | some answer =>
      obtain ⟨p, estimator, now, hanswer, hbooks⟩ := outcome?_eq_some hs.installed hout
      have hl : ((a.perform j s.db).ledger k).WellFormed := by
        unfold Database.ledger
        rw [hbooks]
        exact Retention.wellFormed_run hs.ledger p k estimator now
      unfold Counted.step
      simp only [hout]
      cases answer with
      | ok report =>
          refine ⟨hinst, hl, fun n hn => ?_⟩
          show n + 0 = ((a.perform j s.db).books.get k).size + 0
          rw [hbooks] at hn ⊢
          rw [Retention.statistics_run_of_ok hanswer.symm] at hn
          rw [Statistics.largest?_ofCount hn]
      | error e =>
          refine ⟨hinst, hl, fun n hn => ?_⟩
          rw [hbooks, Retention.statistics_run_of_error hanswer.symm] at hn
          have hbefore := hs.recorded n hn
          have hsize := size_run_le hs.ledger p k estimator now
          rw [← hbooks] at hsize
          show n + s.added = ((a.perform j s.db).books.get k).size + (s.lost +
            ((s.db.books.get k).size - ((a.perform j s.db).books.get k).size))
          omega

theorem sound_after (k : Kind) (xs : List (Kind × Action)) : (after k xs).Sound k := by
  have hstart : Sound k ⟨.fresh, 0, 0⟩ := by
    refine ⟨rfl, ?_, fun n hn => ?_⟩
    · cases k <;> exact Ledger.wellFormed_empty
    · cases k <;> cases hn
  have hall : ∀ (xs : List (Kind × Action)) (s : Counted), s.Sound k →
      (xs.foldl (step k) s).Sound k := by
    intro xs
    induction xs with
    | nil => exact fun s hs => hs
    | cons x xs ih => exact fun s hs => ih _ (hs.step x)
  exact hall xs _ hstart

/-- Wherever a fresh database has been taken, a run that sets the protections aside
does so by a number above the ceiling that is the size of the ledger or was recorded
for it, and then the ledger, together with the events that runs have deleted since
and failed, is over the ceiling. -/
theorem overfull_of_sizeExceeded (k : Kind) (xs : List (Kind × Action)) {p : Policy}
    {estimated : Option Nat}
    (hmode : selectMode p k .recorded ((after k xs).db.books.get k) =
      .ok (.sizeExceeded, estimated)) :
    p.maxRows < ((after k xs).db.books.get k).size + (after k xs).lost ∧
    ∃ n, estimated = some n ∧ p.maxRows < n ∧
      (n = ((after k xs).db.books.get k).size ∨
        n + (after k xs).added =
          ((after k xs).db.books.get k).size + (after k xs).lost) := by
  have hs := sound_after k xs
  generalize after k xs = s at hs hmode
  obtain ⟨n, hestimated, hover, hestimate⟩ := Retention.exceeds_of_sizeExceeded hmode
  have hn := Except.ok.inj hestimate
  have hwhich : n = (s.db.books.get k).size ∨
      n + s.added = (s.db.books.get k).size + s.lost := by
    cases hrecorded : Statistics.largest? (s.db.books.get k).statistics with
    | none => 
        rw [hrecorded] at hn
        exact Or.inl hn.symm
    | some m =>
        rw [hrecorded] at hn
        exact Or.inr (hs.recorded n (hrecorded.trans (congrArg some hn)))
  refine ⟨?_, n, hestimated, hover, hwhich⟩
  rcases hwhich with hcounted | hrecorded
  · omega
  · omega

/-! ## A count that is too high -/

theorem db_after (k : Kind) (xs : List (Kind × Action)) :
    (after k xs).db = xs.foldl (fun db x => x.2.perform x.1 db) .fresh := by
  have hstep : ∀ (s : Counted) (x : Kind × Action), (s.step k x).db = x.2.perform x.1 s.db := by
    intro s x
    unfold step
    split <;> rfl
  have hall : ∀ (xs : List (Kind × Action)) (s : Counted),
      (xs.foldl (step k) s).db = xs.foldl (fun db x => x.2.perform x.1 db) s.db := by
    intro xs
    induction xs with
    | nil => exact fun s => rfl
    | cons x xs ih => exact fun s => (ih (s.step k x)).trans (by rw [hstep]; rfl)
  exact hall xs _

/-- No protection and one event deleted at a time. -/
def bare : Policy := ⟨31, false, false, false, 0, 1⟩

/-- A year of history. -/
def oneYear : Policy := { Policy.default with cutoffAgeDays := 365 }

/-- A month of history, but two rows at most. -/
def twoRows : Policy := { Policy.default with maxRows := 2 }

/-- Three events are counted, and a run deletes the first of them and is stopped by a
guard on the second. -/
def thinning : List (Kind × Action) :=
  [(.process, .append 1696118400000 "a" (.of .stopped "A")),
    (.process, .append 1696118400000 "b" (.of .started "B")),
    (.process, .append 1696118400000 "c" (.of .stopped "C")),
    (.process, .retain oneYear .recorded 1700000000000 false),
    (.process, .guard "b"),
    (.process, .retain bare .recorded 1700000000000 false)]

def stopOfA : EventRow :=
  ⟨1, "a", 1696118400000, "STOPPED", "A", none, none, none, none, "{}"⟩

def startOfB : EventRow :=
  ⟨2, "b", 1696118400000, "STARTED", "B", none, none, none, none, "{}"⟩

def stopOfC : EventRow :=
  ⟨3, "c", 1696118400000, "STOPPED", "C", none, none, none, none, "{}"⟩

/-- The books before the first run. -/
def three : Books := ⟨⟨[stopOfA, startOfB, stopOfC], 3, []⟩, [], []⟩

/-- The books after the second. -/
def thinned : Books := ⟨⟨[startOfB, stopOfC], 3, ["b"]⟩, [], [some "3"]⟩

theorem run_three :
    (Retention.run oneYear .process .recorded 1700000000000 three).2 = three.analyze := by
  have hmode : selectMode oneYear .process .recorded three = .ok (.normal, some 3) := rfl
  rw [Retention.run_eq, hmode]
  simp only []
  rw [Retention.deleteInBatches_of_rising (by decide) (by decide)]
  decide +kernel

theorem run_guarded :
    (Retention.run bare .process .recorded 1700000000000
      { three.analyze with ledger := three.ledger.guardEvent "b" }).2 = thinned := by
  have hmode : selectMode bare .process .recorded
      { three.analyze with ledger := three.ledger.guardEvent "b" } = .ok (.normal, none) := rfl
  rw [Retention.run_eq, hmode]
  simp only []
  rw [Retention.deleteInBatches_of_rising (by decide) (by decide)]
  decide +kernel

theorem books_thinning : (after .process thinning).db.books.get .process = thinned := by
  have hinst : ∀ b : Books, (Database.fresh.withBooks .process b).installed = true := fun _ => rfl
  have hrun : ∀ (p : Policy) (b : Books),
      (Action.retain p .recorded 1700000000000 false).perform .process
        (Database.fresh.withBooks .process b) = Database.fresh.withBooks .process
          (Retention.run p .process .recorded 1700000000000 b).2 := fun p b =>
    (Database.retain_eq (hinst b) p .recorded 1700000000000).2
  have happend : (thinning.take 3).foldl (fun db x => x.2.perform x.1 db) .fresh =
      Database.fresh.withBooks .process three := by decide +kernel
  have hcounted := hrun oneYear three
  rw [run_three] at hcounted
  have hthinned := hrun bare { three.analyze with ledger := three.ledger.guardEvent "b" }
  rw [run_guarded] at hthinned
  rw [db_after, ← List.take_append_drop 3 thinning, List.foldl_append, happend]
  show ((Action.retain bare .recorded 1700000000000 false).perform .process
    ((Action.guard "b").perform .process
      ((Action.retain oneYear .recorded 1700000000000 false).perform .process
        (Database.fresh.withBooks .process three)))).books.get .process = thinned
  rw [hcounted]
  exact congrArg (·.books.get .process) hthinned

theorem selectMode_thinned :
    selectMode twoRows .process .recorded ((after .process thinning).db.books.get .process) =
      .ok (.sizeExceeded, some 3) := by
  rw [books_thinning]
  rfl

/-- A ledger of two events is taken for one of three and loses its protections, and a
resource that is in use may lose its opening event. -/
theorem unprotected_under_ceiling :
    ((after .process thinning).db.books.get .process).size = twoRows.maxRows ∧
    selectMode twoRows .process .recorded ((after .process thinning).db.books.get .process) =
      .ok (.sizeExceeded, some 3) ∧
    Retention.IsExpendable twoRows .process .sizeExceeded
      (Time.daysBefore 1700000000000 twoRows.cutoffAgeDays)
      ((after .process thinning).db.books.get .process) startOfB ∧
    ¬ Retention.IsExpendable twoRows .process .normal
      (Time.daysBefore 1700000000000 twoRows.cutoffAgeDays)
      ((after .process thinning).db.books.get .process) startOfB := by
  refine ⟨?_, selectMode_thinned, ?_⟩
  · rw [books_thinning]
    rfl
  · rw [books_thinning]
    decide

/-- It is over the ceiling with the event that the failed run has deleted. -/
theorem overfull_thinning : twoRows.maxRows < 2 + (after .process thinning).lost := by
  have hover := (overfull_of_sizeExceeded .process thinning selectMode_thinned).1
  rw [books_thinning] at hover
  exact hover

end Counted
end Metering
