import Metering.Database
import Metering.Proofs.Past

/-!
# Failed attempts leave nothing behind

An attempt to populate a snapshot works on a store of its own from the first
batch on, which is dropped when it fails. So a failure changes nothing, wherever
it strikes, and all that remains of it is a count. The one other way to answer
with an error would be not to find the snapshot that was just completed. It is
found if the snapshot was ever given out: what was completed is the row with its
identifier, and that has its guid still (`Snapshots.Returned.guid_eq`).

An overflow is no answer and is not even counted. It leaves nothing at all.
-/

namespace Metering

open Metering.Telemetry (Observation)

namespace Snapshots

theorem exists_get_generated {now id : Int} {checkpoint : Option Event} {totals : Totals}
    {tracksParents : Bool} {cs : List PendingChunk} {s : Snapshots} {r : SnapshotRow}
    (hr : r ∈ s.rows) :
    ∃ done, (s.generated now id checkpoint totals tracksParents cs).get r.guid = .ok done := by
  have hfound : ((s.generated now id checkpoint totals tracksParents cs).row?
      r.guid).isSome = true := by
    rw [row?, List.find?_isSome]
    exact ⟨_, List.mem_map_of_mem hr, decide_eq_true (guid_close r)⟩
  obtain ⟨x, hx⟩ := Option.isSome_iff_exists.1 hfound
  exact ⟨x.toSnapshot, by rw [get, find?, hx, Option.map_some]⟩

end Snapshots

/-- An attempt to populate a snapshot that was given out leaves the store as it was if
it answers with an error. It is measured as a failure, unless the snapshot was given as
complete or a sum was too large. -/
theorem Snapshot.populate_of_error {g : GenerationSettings} {source : Source} {now : Int}
    {l : Ledger} {snapshot : Snapshot} {s : Snapshots} {past : List Snapshots.Change}
    (hpast : s = Snapshots.performAll past .empty)
    (hreturned : Snapshots.Returned past snapshot) {e : Error}
    (he : (snapshot.populate g source now l s).answer = .error e) :
    (snapshot.populate g source now l s).store = s ∧
      ((snapshot.isComplete = true ∧ e = .alreadyComplete snapshot.guid ∧
          (snapshot.populate g source now l s).observation = none) ∨
        (snapshot.isComplete = false ∧ (snapshot.populate g source now l s).observation =
          if e = .overflow then none else some (.failed snapshot.kind))) := by
  rcases populate_outcomes g now l source snapshot s with
    ⟨hdone, heq⟩ | ⟨hopen, ⟨cause, -, heq⟩ | ⟨u, hgenerate, -, hanswer⟩⟩
  · rw [heq] at he ⊢
    exact ⟨rfl, Or.inl ⟨hdone, (Except.error.inj he).symm, rfl⟩⟩
  · rw [heq] at he ⊢
    by_cases hover : cause = .overflow
    · rw [if_pos hover] at he ⊢
      rw [if_pos (Except.error.inj he).symm]
      exact ⟨rfl, Or.inr ⟨hopen, rfl⟩⟩
    · rw [if_neg hover] at he ⊢
      obtain rfl := Except.error.inj he
      exact ⟨rfl, Or.inr ⟨hopen, rfl⟩⟩
  · -- what has been generated is found, so there is no error
    obtain ⟨checkpoint, rows, -, -, -, ⟨r, hr, hid, -⟩, -, hu⟩ := generate_eq_ok g now hgenerate
    obtain ⟨done, hget⟩ := Snapshots.exists_get_generated hr
    rw [← hu, hreturned.guid_eq (hpast ▸ hr) hid, ← hanswer, he] at hget
    cases hget

/-! ## Counters -/

namespace Telemetry

theorem lookup_change {α : Type} (name other : String) (first : α) (f : α → α)
    (l : List (String × α)) :
    (change name first f l).lookup other =
      if other = name then some (f ((l.lookup name).getD first)) else l.lookup other := by
  induction l with
  | nil =>
      by_cases h : other = name
      · simp [change, h]
      · simp [change, List.lookup_cons, h, beq_eq_false_iff_ne.2 h]
  | cons p l ih =>
      obtain ⟨n, a⟩ := p
      by_cases hn : n = name
      · subst hn
        by_cases h : other = n
        · simp [change, h]
        · simp [change, List.lookup_cons, h, beq_eq_false_iff_ne.2 h]
      · have hmiss : (name == n) = false := beq_eq_false_iff_ne.2 fun heq => hn heq.symm
        by_cases h : other = n
        · simp [change, hn, h]
        · simp [change, List.lookup_cons, hn, hmiss, beq_eq_false_iff_ne.2 h, ih]

theorem Registry.counter_increment (name other : String) (r : Registry) :
    (r.increment name).counter other =
      if other = name then r.counter other + 1 else r.counter other := by
  unfold counter increment add
  rw [lookup_change]
  split
  · next h => rw [h, Option.getD_some]
  · rfl

/-- The registry once what there was to measure is recorded; it took so many seconds. -/
def Registry.measure (seconds : Decimal.Binary64) : Option Observation → Registry → Registry
  | none, r => r
  | some o, r => r.record seconds o

end Telemetry

/-! ## One attempt -/

/-- An attempt to populate a snapshot. -/
structure Attempt where
  settings : GenerationSettings
  source : Source
  now : Int
  snapshot : Snapshot
  /-- How long the attempt takes. -/
  seconds : Decimal.Binary64

namespace Attempt

/-- The answer to an attempt, and the database and the measurements after it. -/
def perform (a : Attempt) (db : Database) (m : Telemetry.Registry) :
    Except Error Snapshot × Database × Telemetry.Registry :=
  let (answer, observation, after) := db.populate a.settings a.source a.now a.snapshot
  (answer, after, m.measure a.seconds observation)

/-- Whether an attempt that fails is counted under a name. -/
def countsUnder (name : String) (a : Attempt) : Bool :=
  ! a.snapshot.isComplete && a.snapshot.kind.failureMetric = name

variable {db : Database} {past : List Snapshots.Change}

/-- An attempt that answers with an error leaves the database as it was, and no duration
is recorded. A counter goes up by one if the attempt counts under its name; an overflow is
not counted. -/
theorem perform_of_error (hpast : db.snapshots = Snapshots.performAll past .empty)
    (m : Telemetry.Registry) {a : Attempt} (hreturned : Snapshots.Returned past a.snapshot)
    {e : Error} (he : (a.perform db m).1 = .error e) :
    (a.perform db m).2.1 = db ∧
      (a.snapshot.isComplete = true →
        e = .alreadyComplete a.snapshot.guid ∧ (a.perform db m).2.2 = m) ∧
      (e = .overflow → (a.perform db m).2.2 = m) ∧
      (a.perform db m).2.2.histograms = m.histograms ∧
      (e ≠ .overflow → ∀ name, (a.perform db m).2.2.counter name =
        if a.countsUnder name then m.counter name + 1 else m.counter name) := by
  obtain ⟨hstore, hmeasured⟩ := Snapshot.populate_of_error hpast hreturned he
  have hdb : (a.perform db m).2.1 = db := by
    show db.withSnapshots _ = db
    rw [hstore]
    rfl
  refine ⟨hdb, ?_⟩
  rcases hmeasured with ⟨hdone, hrefused, hnone⟩ | ⟨hopen, hfailed⟩
  · have hm : (a.perform db m).2.2 = m := by
      show m.measure a.seconds _ = m
      rw [hnone]
      rfl
    rw [hm]
    refine ⟨fun _ => ⟨hrefused, rfl⟩, fun _ => rfl, rfl, fun _ name => ?_⟩
    simp [countsUnder, hdone]
  · have hm : (a.perform db m).2.2 =
        if e = .overflow then m else m.increment a.snapshot.kind.failureMetric := by
      show m.measure a.seconds _ = _
      rw [hfailed]
      split <;> rfl
    rw [hm]
    refine ⟨fun hdone => ?_, fun hover => if_pos hover, ?_, fun hanswer name => ?_⟩
    · rw [hopen] at hdone
      cases hdone
    · split <;> rfl
    · rw [if_neg hanswer, Telemetry.Registry.counter_increment]
      simp [countsUnder, hopen, eq_comm]

/-! ## Many attempts -/

/-- The answers to attempts that are made one after the other, and the database and the
measurements after them. -/
def performAll : List Attempt → Database → Telemetry.Registry →
    List (Except Error Snapshot) × Database × Telemetry.Registry
  | [], db, m => ([], db, m)
  | a :: as, db, m =>
    let first := a.perform db m
    let rest := performAll as first.2.1 first.2.2
    (first.1 :: rest.1, rest.2)

theorem performAll_of_errors (hpast : db.snapshots = Snapshots.performAll past .empty)
    {attempts : List Attempt} (m : Telemetry.Registry)
    (hreturned : ∀ a ∈ attempts, Snapshots.Returned past a.snapshot)
    (hfailed : ∀ answer ∈ (performAll attempts db m).1, ∃ e, answer = .error e) :
    (performAll attempts db m).2.1 = db ∧
      (performAll attempts db m).2.2.histograms = m.histograms ∧
      (.error .overflow ∉ (performAll attempts db m).1 →
        ∀ name, (performAll attempts db m).2.2.counter name =
          m.counter name + .ofNat (attempts.countP (·.countsUnder name))) := by
  induction attempts generalizing m with
  | nil => exact ⟨rfl, rfl, fun _ name => (UInt64.add_zero _).symm⟩
  | cons a attempts ih =>
      obtain ⟨e, he⟩ : ∃ e, (a.perform db m).1 = .error e :=
        hfailed _ (List.mem_cons_self ..)
      obtain ⟨hdb, -, -, hhistograms, hcounter⟩ :=
        perform_of_error hpast m (hreturned a (List.mem_cons_self ..)) he
      have hstep : performAll (a :: attempts) db m =
          ((a.perform db m).1 :: (performAll attempts db (a.perform db m).2.2).1,
            (performAll attempts db (a.perform db m).2.2).2) := by
        rw [performAll]
        simp only [hdb]
      rw [hstep] at hfailed ⊢
      obtain ⟨hdb', hhistograms', hcounter'⟩ := ih (a.perform db m).2.2
        (fun b hb => hreturned b (List.mem_cons_of_mem _ hb))
        (fun answer h => hfailed answer (List.mem_cons_of_mem _ h))
      refine ⟨hdb', hhistograms'.trans hhistograms, fun hanswered name => ?_⟩
      obtain ⟨hfirst, hrest⟩ := not_or.1 fun h => hanswered (List.mem_cons.2 h)
      have hanswer : e ≠ .overflow := fun hover => hfirst (by rw [he, hover])
      rw [hcounter' hrest, hcounter hanswer, List.countP_cons]
      split
      · rw [UInt64.ofNat_add, UInt64.add_assoc, UInt64.add_comm 1]
        rfl
      · rfl

/-- An attempt that answers with an error, for a snapshot that the store once gave out,
leaves events, consumers, snapshots and chunks as they were and records no duration. It
is refused without being measured if the snapshot was given as complete, and otherwise
the failures of the kind, and nothing else, are one more. An attempt that ends in an
overflow leaves the measurements as they were, too. So a snapshot can be populated after any
number of failed attempts as if there had been none. -/
theorem failures_leave_nothing (hpast : db.snapshots = Snapshots.performAll past .empty)
    (m : Telemetry.Registry) :
    (∀ (a : Attempt) (e : Error), Snapshots.Returned past a.snapshot →
      (a.perform db m).1 = .error e →
      (a.perform db m).2.1 = db ∧
      (a.perform db m).2.2.histograms = m.histograms ∧
      (a.snapshot.isComplete = true →
        e = .alreadyComplete a.snapshot.guid ∧ (a.perform db m).2.2 = m) ∧
      (e = .overflow → (a.perform db m).2.2 = m) ∧
      (a.snapshot.isComplete = false → e ≠ .overflow →
        (a.perform db m).2.2.counter a.snapshot.kind.failureMetric =
          m.counter a.snapshot.kind.failureMetric + 1 ∧
        ∀ name, name ≠ a.snapshot.kind.failureMetric →
          (a.perform db m).2.2.counter name = m.counter name)) ∧
    ∀ attempts, (∀ a ∈ attempts, Snapshots.Returned past a.snapshot) →
      (∀ answer ∈ (performAll attempts db m).1, ∃ e, answer = .error e) →
      (performAll attempts db m).2.1 = db ∧
      (.error .overflow ∉ (performAll attempts db m).1 →
        ∀ name, (performAll attempts db m).2.2.counter name =
          m.counter name + .ofNat (attempts.countP (·.countsUnder name))) ∧
      ∀ g source now snapshot,
        (performAll attempts db m).2.1.populate g source now snapshot =
          db.populate g source now snapshot := by
  constructor
  · intro a e hreturned he
    obtain ⟨hdb, hrefused, hover, hhistograms, hcounter⟩ :=
      perform_of_error hpast m hreturned he
    refine ⟨hdb, hhistograms, hrefused, hover, fun hopen hanswer => ⟨?_, fun name hne => ?_⟩⟩
    · rw [hcounter hanswer, if_pos]
      simp [countsUnder, hopen]
    · rw [hcounter hanswer, if_neg]
      simp [countsUnder, hne.symm]
  · intro attempts hreturned hfailed
    obtain ⟨hdb, -, hcounter⟩ := performAll_of_errors hpast m hreturned hfailed
    refine ⟨hdb, hcounter, fun g source now snapshot => ?_⟩
    rw [hdb]

/-- A service instance. -/
def mailbox : ActiveResource :=
  ⟨1, "mailbox", none, some "here", none, some "org", none, 1,
    .service ⟨"mailbox", "m", "managed", none, none, none, none, none, none⟩⟩

/-- A source that fails once its first row has been stored. -/
def breaking : Source := .ofRows false [mailbox] (some 1) (.runtime "lost")

/-- The request of a snapshot, and the database in which it was made. -/
def asked : List Snapshots.Change := [.request .service 10 "first"]

def awaiting : Database :=
  { Database.empty with installed := true, snapshots := Snapshots.performAll asked .empty }

/-- An attempt at that snapshot. -/
def trying (source : Source) : Attempt :=
  ⟨⟨1, 1, 1⟩, source, 20, (SnapshotRow.placeholder 1 "first" .service 10).toSnapshot, ⟨0⟩⟩

/-- Two attempts fail, one of them halfway, and are forgotten but for being counted. -/
theorem failures_awaiting :
    ((performAll [trying breaking, trying (.failing (.runtime "lost"))] awaiting .empty).1.map
      fun answer => answer.toBool) = [false, false] ∧
    (performAll [trying breaking, trying (.failing (.runtime "lost"))] awaiting .empty).2.1 =
      awaiting ∧
    (performAll [trying breaking, trying (.failing (.runtime "lost"))] awaiting
      .empty).2.2.counter Kind.service.failureMetric = 2 := by
  have hanswers : ((performAll [trying breaking, trying (.failing (.runtime "lost"))]
      awaiting .empty).1.map fun answer => answer.toBool) = [false, false] := by
    decide +kernel
  have hreturned : ∀ a ∈ [trying breaking, trying (.failing (.runtime "lost"))],
      Snapshots.Returned asked a.snapshot := by
    have hone : Snapshots.Returned asked (trying breaking).snapshot :=
      ⟨asked, [], rfl, .placeholder 1 "first" .service 10, by decide, rfl⟩
    intro a ha
    rcases List.mem_cons.1 ha with rfl | ha
    · exact hone
    · rw [List.mem_singleton.1 ha]
      exact hone
  have hfailed : ∀ answer ∈ (performAll
      [trying breaking, trying (.failing (.runtime "lost"))] awaiting .empty).1,
      ∃ e, answer = .error e := by
    intro answer hanswer
    cases answer with
    | error e => exact ⟨e, rfl⟩
    | ok snapshot =>
        have := List.mem_map_of_mem (f := fun answer => answer.toBool) hanswer
        rw [hanswers] at this
        simp [Except.toBool] at this
  have hpast : awaiting.snapshots = Snapshots.performAll asked .empty := rfl
  obtain ⟨hdb, hcounter, -⟩ := (failures_leave_nothing hpast .empty).2 _ hreturned hfailed
  refine ⟨hanswers, hdb, ?_⟩
  rw [hcounter (by decide +kernel)]
  decide

end Attempt

end Metering
