import Metering.Database
import Metering.Proofs.Orderly

/-!
# A consumer misses nothing

A consumer asks for the events after its watermark and then moves the
watermark to the last one it was given, over and over. Between any two of its
requests others append, register, move and deregister, guards are placed and
lifted, and retention runs, in either mode and to its end or not: a guard can
make any batch of a run fail.

`Reading` is a state of this system, with what no database keeps: the answers to
all appends, the log of the events that were there when the consumer registered
or came in since, deleted or not, and the events that the consumer has been given
and has moved past. The invariant is `Reading.Sound`, and the clause that matters
is `Reading.Follows`. While the consumer is registered, the row of its watermark
and what follows it are the same in the ledger and in the log, so that a poll is
answered from the log. A poll can fail all the same, where an event cannot be
read; but then the append that brought it has failed, so where all appends have
ended well all polls do. `Action.perform_cases` says all that anyone else can do,
and `Action.spares` that it spares the consumer; the consumer's own steps begin
the log and move along it.
-/

namespace Metering

open Retention (Policy Mode selectMode)

/-- What others do to a database. -/
inductive Action where
  | append (now : Int) (fresh : String) (e : NewEvent)
  | register (now : Int) (consumer watermark : String)
  | move (now : Int) (consumer watermark : String)
  | deregister (consumer : String)
  | guard (guid : String)
  | unguard (guid : String)
  | retain (p : Policy) (estimator : Estimator) (now : Int) (dry : Bool)

namespace Action

def perform (k : Kind) (db : Database) : Action → Database
  | append now fresh e => (db.append k now fresh e).2
  | register now consumer watermark =>
      (db.onConsumers k (Registry.register now consumer watermark)).2
  | move now consumer watermark =>
      (db.onConsumers k (Registry.update now consumer watermark)).2
  | deregister consumer =>
      (db.onConsumers k fun r => do pure ((), ← r.deregister consumer)).2
  | guard guid => db.withLedger k ((db.ledger k).guardEvent guid)
  | unguard guid => db.withLedger k ((db.ledger k).unguardEvent guid)
  | retain p estimator now dry => (db.retain p k estimator now dry).2

/-- What is asked of the others: events come in under new guids and with times
that do not fall, no one acts in the consumer's name, and runs under normal
rules keep what is unprocessed. -/
def Admissible (k : Kind) (c : String) (log : List EventRow) (db : Database) :
    Action → Prop
  | append now fresh e =>
      (∀ r ∈ log, r.guid ≠ e.guid.getD fresh) ∧
      ∀ r ∈ (db.ledger k).rows,
        r.createdAt ≤ (e.toRow k now fresh ((db.ledger k).issued + 1)).createdAt
  | register _ consumer _ | move _ consumer _ | deregister consumer => consumer ≠ c
  | guard _ | unguard _ => True
  | retain p estimator _ dry => dry = false → ∀ estimated,
      selectMode p k estimator (db.books.get k) = .ok (.normal, estimated) →
        p.keepUnprocessed = true

end Action

/-! ## Actions on the books -/

namespace Database

/-- A database whose tables are there and empty. -/
def fresh : Database := { empty with installed := true, version := schemaVersion }

variable {db : Database} {k : Kind}

@[simp] theorem books_withBooks (b : Books) : (db.withBooks k b).books.get k = b :=
  PerKind.get_set_self _ _ _

@[simp] theorem ledger_withBooks (b : Books) : (db.withBooks k b).ledger k = b.ledger :=
  congrArg Books.ledger (books_withBooks b)

@[simp] theorem withBooks_self (db : Database) (k : Kind) :
    db.withBooks k (db.books.get k) = db := by
  unfold withBooks
  rw [PerKind.set_get_self]

theorem books_withBooks_of_ne {j : Kind} (h : j ≠ k) (b : Books) :
    (db.withBooks k b).books.get j = db.books.get j := PerKind.get_set_of_ne _ h _

theorem onConsumers_cases {α : Type} (h : db.installed = true)
    (f : Registry → Except Error (α × Registry)) :
    (∃ e, f (db.consumers k) = .error e ∧ db.onConsumers k f = (.error e, db)) ∨
    ∃ a r, f (db.consumers k) = .ok (a, r) ∧
      db.onConsumers k f =
        (.ok a, db.withBooks k { db.books.get k with consumers := r }) := by
  unfold onConsumers attempt
  rw [if_pos h]
  cases hf : f (db.consumers k) with
  | error e => exact Or.inl ⟨e, rfl, by simp [hf, bind, Except.bind]⟩
  | ok ar =>
      obtain ⟨a, r⟩ := ar
      exact Or.inr ⟨a, r, rfl, by simp [hf, bind, Except.bind, pure, Except.pure]⟩

theorem append_eq (h : db.installed = true) (now : Int) (fresh : String)
    (e : NewEvent) :
    db.append k now fresh e = (((db.ledger k).append k now fresh e).1,
      db.withLedger k ((db.ledger k).append k now fresh e).2) := by
  unfold append onTables
  rw [if_pos h]

theorem append_of_not_installed (h : db.installed = false) (now : Int) (fresh : String)
    (e : NewEvent) : db.append k now fresh e = (.error (missing k.eventTable), db) := by
  unfold append onTables
  rw [if_neg (by simp [h])]

theorem retain_of_not_installed (h : db.installed = false) (p : Policy)
    (estimator : Estimator) (now : Int) (dry : Bool) :
    ∃ e, db.retain p k estimator now dry = (.error e, db) := by
  unfold retain
  simp only [h, Bool.not_false, if_true]
  split
  · next e _ => exact ⟨e, rfl⟩
  · exact ⟨_, rfl⟩

theorem retain_dry (h : db.installed = true) (p : Policy) (estimator : Estimator)
    (now : Int) :
    db.retain p k estimator now true =
      (Retention.dryRun p k estimator now (db.books.get k), db) := by
  unfold retain
  simp only [h, Bool.not_true, Bool.false_eq_true, if_false, if_true]

theorem retain_real (h : db.installed = true) (p : Policy) (estimator : Estimator)
    (now : Int) :
    db.retain p k estimator now false =
      ((Retention.run p k estimator now (db.books.get k)).1,
        db.withBooks k (Retention.run p k estimator now (db.books.get k)).2) := by
  unfold retain
  simp only [h, Bool.not_true, Bool.false_eq_true, if_false]

theorem retain_eq (h : db.installed = true) (p : Policy) (estimator : Estimator)
    (now : Int) :
    (db.retain p k estimator now true).2 = db ∧
    (db.retain p k estimator now false).2 =
      db.withBooks k (Retention.run p k estimator now (db.books.get k)).2 :=
  ⟨congrArg Prod.snd (retain_dry h p estimator now),
    congrArg Prod.snd (retain_real h p estimator now)⟩

end Database

/-- The rows that an action adds to the ledger. -/
def Action.entry (k : Kind) (db : Database) : Action → List EventRow
  | append now fresh e => [e.toRow k now fresh ((db.ledger k).issued + 1)]
  | _ => []

/-- What an action is answered by the ledger when it adds to it. -/
def Action.told (k : Kind) (db : Database) : Action → List (Except Error Event)
  | append now fresh e => [(db.append k now fresh e).1]
  | _ => []

theorem Action.pairwise_entry (k : Kind) (db : Database) (a : Action)
    {R : EventRow → EventRow → Prop} : (a.entry k db).Pairwise R := by
  cases a <;> simp [entry]

theorem Action.Admissible.entry_new {k : Kind} {c : String} {log : List EventRow}
    {db : Database} {a : Action} (ha : a.Admissible k c log db) :
    ∀ r ∈ a.entry k db, ∀ x ∈ log, x.guid ≠ r.guid := by
  cases a with
  | append now fresh e =>
      intro r hr
      rw [List.mem_singleton.1 hr]
      exact ha.1
  | _ => exact List.forall_mem_nil _

/-- The answer to an append says whether the row that it added can be read. -/
theorem Action.told_eq {k : Kind} {db : Database} (hinst : db.installed = true) (a : Action)
    (hnew : ∀ r ∈ a.entry k db, ∀ x ∈ (db.ledger k).rows, x.guid ≠ r.guid) :
    a.told k db = (a.entry k db).map EventRow.decode := by
  cases a with
  | append now fresh e =>
      show [(db.append k now fresh e).1] = [(e.toRow k now fresh ((db.ledger k).issued + 1)).decode]
      rw [Database.append_eq hinst]
      rcases Ledger.append_cases k now fresh e (db.ledger k) with ⟨htaken, -⟩ | ⟨-, heq⟩
      · obtain ⟨x, hx, hguid⟩ := List.any_eq_true.1 htaken
        exact absurd (of_decide_eq_true hguid) (hnew _ (List.mem_singleton_self _) x hx)
      · rw [heq]
  | _ => rfl

theorem Database.onConsumers_eq {α : Type} {k : Kind} {db : Database}
    (hinst : db.installed = true) {P : Registry → Prop} (hsame : P (db.consumers k))
    {f : Registry → Except Error (α × Registry)}
    (hf : ∀ a r, f (db.consumers k) = .ok (a, r) → P r) :
    ∃ r, P r ∧ (db.onConsumers k f).2 =
      db.withBooks k { db.books.get k with consumers := r } := by
  rcases onConsumers_cases (k := k) hinst f with ⟨e, -, heq⟩ | ⟨a, r, hok, heq⟩
  · refine ⟨db.consumers k, hsame, ?_⟩
    rw [heq]
    exact (withBooks_self db k).symm
  · exact ⟨r, hf a r hok, by rw [heq]⟩

theorem Action.deregistered {r r' : Registry} {consumer : String} {u : Unit}
    (h : (do pure ((), ← r.deregister consumer)) = Except.ok (u, r')) :
    r.deregister consumer = .ok r' := by
  cases hd : r.deregister consumer with
  | error e => rw [hd] at h; cases h
  | ok r'' =>
      rw [hd] at h
      exact congrArg Except.ok (Prod.mk.inj (Except.ok.inj h)).2

/-- An action that leaves this registry leaves the registrations of those alone whom
it may not act for. -/
def Action.Spared (k : Kind) (db : Database) (a : Action) (r : Registry) : Prop :=
  ∀ c log, a.Admissible k c log db → (db.consumers k).Distinct →
    r.Distinct ∧ r.find? c = (db.consumers k).find? c

/-- Everything that an action can do is done to the books: it appends, it changes the
registry but for a consumer that it may not act for, it changes the guards, or it is a
run. -/
theorem Action.perform_eq {k : Kind} {db : Database} (hinst : db.installed = true)
    (a : Action) :
    ∃ b, a.perform k db = db.withBooks k b ∧
    ((∃ now fresh e, a = .append now fresh e ∧
        b = { db.books.get k with ledger := ((db.ledger k).append k now fresh e).2 }) ∨
      (∃ r : Registry, a.entry k db = [] ∧ a.Spared k db r ∧
        b = { db.books.get k with consumers := r }) ∨
      (∃ guards, a.entry k db = [] ∧
        b = { db.books.get k with ledger := { db.ledger k with guarded := guards } }) ∨
      ∃ p estimator now, a = .retain p estimator now false ∧
        b = (Retention.run p k estimator now (db.books.get k)).2) := by
  cases a with
  | append now fresh e =>
      exact ⟨_, congrArg Prod.snd (Database.append_eq hinst now fresh e),
        Or.inl ⟨now, fresh, e, rfl, rfl⟩⟩
  | register now consumer watermark =>
      obtain ⟨r, hr, heq⟩ := Database.onConsumers_eq (k := k) hinst
        (P := (Action.register now consumer watermark).Spared k db)
        (fun _ _ _ hd => ⟨hd, rfl⟩) fun x r hok c log ha hd =>
          ⟨hd.register hok, Registry.find?_register ha hok⟩
      exact ⟨_, heq, Or.inr (Or.inl ⟨r, rfl, hr, rfl⟩)⟩
  | move now consumer watermark =>
      obtain ⟨r, hr, heq⟩ := Database.onConsumers_eq (k := k) hinst
        (P := (Action.move now consumer watermark).Spared k db)
        (fun _ _ _ hd => ⟨hd, rfl⟩) fun x r hok c log ha hd =>
          ⟨hd.update hok, Registry.find?_update ha hok⟩
      exact ⟨_, heq, Or.inr (Or.inl ⟨r, rfl, hr, rfl⟩)⟩
  | deregister consumer =>
      obtain ⟨r, hr, heq⟩ := Database.onConsumers_eq (k := k) hinst
        (P := (Action.deregister consumer).Spared k db)
        (f := fun r => do pure ((), ← r.deregister consumer))
        (fun _ _ _ hd => ⟨hd, rfl⟩) fun x r hok c log ha hd => by
          have hleft := deregistered hok
          refine ⟨?_, Registry.find?_deregister ha hleft⟩
          rw [Registry.deregister_ok hleft]
          exact hd.filter _
      exact ⟨_, heq, Or.inr (Or.inl ⟨r, rfl, hr, rfl⟩)⟩
  | guard guid => exact ⟨_, rfl, Or.inr (Or.inr (Or.inl ⟨_, rfl, rfl⟩))⟩
  | unguard guid => exact ⟨_, rfl, Or.inr (Or.inr (Or.inl ⟨_, rfl, rfl⟩))⟩
  | retain p estimator now dry =>
      obtain ⟨hdry, hreal⟩ := Database.retain_eq (k := k) hinst p estimator now
      cases dry with
      | true =>
          exact ⟨_, hdry.trans (Database.withBooks_self db k).symm,
            Or.inr (Or.inl ⟨db.consumers k, rfl, fun _ _ _ hd => ⟨hd, rfl⟩, rfl⟩)⟩
      | false => exact ⟨_, hreal, Or.inr (Or.inr (Or.inr ⟨p, estimator, now, rfl, rfl⟩))⟩

theorem Action.perform_cases {k : Kind} {c : String} {log : List EventRow} {db : Database}
    (hinst : db.installed = true) (hdistinct : (db.consumers k).Distinct) {a : Action}
    (ha : a.Admissible k c log db) :
    (a.perform k db).installed = true ∧
    ((∃ now fresh e, a = .append now fresh e ∧ (a.perform k db).books.get k =
        { db.books.get k with ledger := ((db.ledger k).append k now fresh e).2 }) ∨
      (∃ r : Registry, a.entry k db = [] ∧ r.Distinct ∧
        r.find? c = (db.consumers k).find? c ∧
        (a.perform k db).books.get k = { db.books.get k with consumers := r }) ∨
      (∃ guards, a.entry k db = [] ∧ (a.perform k db).books.get k =
        { db.books.get k with ledger := { db.ledger k with guarded := guards } }) ∨
      ∃ p estimator now, a = .retain p estimator now false ∧
        (a.perform k db).books.get k =
          (Retention.run p k estimator now (db.books.get k)).2) := by
  obtain ⟨b, heq, hcases⟩ := a.perform_eq (k := k) hinst
  rw [heq, Database.books_withBooks]
  refine ⟨hinst, ?_⟩
  rcases hcases with happend | ⟨r, hentry, hr, hb⟩ | hguard | hrun
  · exact Or.inl happend
  · obtain ⟨hd, hfind⟩ := hr c log ha hdistinct
    exact Or.inr (Or.inl ⟨r, hentry, hd, hfind, hb⟩)
  · exact Or.inr (Or.inr (Or.inl hguard))
  · exact Or.inr (Or.inr (Or.inr hrun))

/-- What everyone else does spares the consumer. -/
theorem Action.spares {k : Kind} {c : String} {log : List EventRow} {db : Database}
    (hinst : db.installed = true) (hb : (db.books.get k).Orderly)
    (hlog : ∀ r ∈ (db.ledger k).rows, r ∈ log) {a : Action}
    (ha : a.Admissible k c log db) :
    (a.perform k db).installed = true ∧
      Spares c (a.entry k db) (db.books.get k) ((a.perform k db).books.get k) := by
  obtain ⟨hafter, hcases⟩ := a.perform_cases hinst hb.consumers ha
  refine ⟨hafter, ?_⟩
  rcases hcases with ⟨now, fresh, e, rfl, heq⟩ | ⟨r, hentry, hdistinct, hfind, heq⟩ |
    ⟨guards, hentry, heq⟩ | ⟨p, estimator, now, rfl, heq⟩
  · have hnew : (db.ledger k).contains (e.guid.getD fresh) = false := by
      unfold Ledger.contains
      rw [List.any_eq_false]
      intro r hr
      simpa using ha.1 r (hlog r hr)
    rw [heq]
    exact Ledger.append_spares hb c k now fresh e hnew ha.2
  · rw [hentry, heq]
    exact Spares.of_registry hb hdistinct hfind
  · rw [hentry, heq]
    exact Spares.of_guards hb guards
  · rw [heq]
    exact Retention.run_spares hb c estimator now (ha rfl)

/-- A consumer at work on a database. -/
structure Reading where
  db : Database
  /-- What all appends were answered. -/
  told : List (Except Error Event)
  /-- The events that were there when the consumer registered or came in since, whether
  they are still there or not. -/
  log : List EventRow
  /-- The watermark that the consumer last registered with. -/
  origin : Option String
  /-- What the consumer was given last and has not moved past. -/
  answer : List Event
  /-- The events that the consumer was given and has moved past since it registered. -/
  received : List Event

namespace Reading

/-- A step of the consumer or of someone else. -/
inductive Step where
  | others (a : Action)
  | join (now : Int) (watermark : String)
  | poll (limit : Nat)
  | acknowledge (now : Int)

def start (db : Database) : Reading := ⟨db, [], [], none, [], []⟩

/-- What a poll from a watermark is answered. -/
def ask (k : Kind) (s : Reading) (watermark : String) (limit : Nat) :
    Except Error (List Event) :=
  s.db.askLedger k (Ledger.eventsAfter k (some watermark) limit)

/-- The consumer's registration. -/
def registration? (k : Kind) (c : String) (s : Reading) : Option Registration :=
  (s.db.consumers k).find? c

def step (k : Kind) (c : String) (s : Reading) : Step → Reading
  | .others a =>
      { s with
        db := a.perform k s.db
        told := s.told ++ a.told k s.db
        log := s.log ++ a.entry k s.db }
  | .join now watermark =>
      match s.db.onConsumers k (Registry.register now c watermark) with
      | (.error _, db) => { s with db := db }
      | (.ok x, db) =>
          { db := db
            told := s.told
            log := (s.db.ledger k).rows
            origin := some x.watermark
            answer := []
            received := [] }
  | .poll limit =>
      match s.registration? k c with
      | none => s
      | some x =>
        match s.ask k x.watermark limit with
        | .error _ => s
        | .ok events => { s with answer := events }
  | .acknowledge now =>
      match s.answer.getLast? with
      | none => s
      | some e =>
        match s.db.onConsumers k (Registry.update now c e.guid) with
        | (.error _, db) => { s with db := db }
        | (.ok _, db) =>
            { s with db := db, answer := [], received := s.received ++ s.answer }

/-- Steps of others are possible if they are admissible. The consumer registers at
an event that is there, and may ask and move on at any time. -/
def Step.Admissible (k : Kind) (c : String) (s : Reading) : Step → Prop
  | .others a => a.Admissible k c s.log s.db
  | .join _ watermark => ∃ w ∈ (s.db.ledger k).rows, w.guid = watermark
  | .poll _ | .acknowledge _ => True

/-- A state that some steps lead to. -/
inductive Run (k : Kind) (c : String) (s : Reading) : Reading → Prop where
  | refl : Run k c s s
  | step {t : Reading} (h : Run k c s t) (a : Step) (ha : a.Admissible k c t) :
      Run k c s (t.step k c a)

/-! ## The invariant -/

/-- The row of a watermark and what follows it are the same in the ledger and in
the log, and what the consumer was given last is the front of it. -/
structure Follows (k : Kind) (s : Reading) (watermark : String)
    (rest : List EventRow) : Prop where
  kept : ∃ w, w.guid = watermark ∧ w :: rest <:+ s.log ∧
    w :: rest <:+ (s.db.ledger k).rows
  given : ∃ ahead, ahead <+: rest ∧
    ahead.map EventRow.decode = s.answer.map .ok

/-- A consumer that registered at a guid has gone through the log from there. -/
structure CaughtUp (k : Kind) (c origin : String) (s : Reading) : Prop where
  started : ∃ r ∈ s.log, r.guid = origin
  split : ∃ seen rest, Ledger.past origin s.log = seen ++ rest ∧
    seen.map EventRow.decode = s.received.map .ok ∧
    ∀ x, s.registration? k c = some x → Follows k s x.watermark rest

/-- What holds at every step. -/
structure Sound (k : Kind) (c : String) (s : Reading) : Prop where
  installed : s.db.installed = true
  orderly : (s.db.books.get k).Orderly
  guids : s.log.Pairwise (·.guid ≠ ·.guid)
  logged : ∀ r ∈ (s.db.ledger k).rows, r ∈ s.log
  answered : ∀ r ∈ s.log, r.decode ∈ s.told
  absent : s.origin = none → s.registration? k c = none
  caughtUp : ∀ origin, s.origin = some origin → CaughtUp k c origin s

variable {k : Kind} {c : String} {s : Reading}

theorem CaughtUp.others {origin : String} (hs : Sound k c s) (h : CaughtUp k c origin s)
    {a : Action} (ha : a.Admissible k c s.log s.db) :
    CaughtUp k c origin (s.step k c (.others a)) := by
  obtain ⟨-, hspares⟩ := a.spares hs.installed hs.orderly hs.logged ha
  obtain ⟨r, hr, horigin⟩ := h.started
  obtain ⟨seen, rest, hpast, hseen, hfollows⟩ := h.split
  refine ⟨⟨r, List.mem_append_left _ hr, horigin⟩, seen, rest ++ a.entry k s.db, ?_, hseen, ?_⟩
  · show Ledger.past origin (s.log ++ a.entry k s.db) = _
    rw [Ledger.past_append _ h.started, hpast, List.append_assoc]
  · intro x hx
    obtain ⟨hx, hkept⟩ := hspares.reader x hx
    obtain ⟨⟨w, hguid, ⟨front, hlog⟩, hrows⟩, ahead, hahead, hgiven⟩ := hfollows x hx
    refine ⟨⟨w, hguid, ⟨front, ?_⟩, hkept w rest hguid hrows⟩, ahead, ?_, hgiven⟩
    · show front ++ w :: (rest ++ a.entry k s.db) = s.log ++ a.entry k s.db
      rw [← hlog]
      simp
    · exact hahead.trans (List.prefix_append _ _)

theorem others_sound (hs : Sound k c s) {a : Action}
    (ha : a.Admissible k c s.log s.db) : Sound k c (s.step k c (.others a)) := by
  obtain ⟨hinst, hspares⟩ := a.spares hs.installed hs.orderly hs.logged ha
  have hnew := ha.entry_new
  refine ⟨hinst, hspares.orderly, ?_, ?_, ?_, fun hnone => ?_, fun origin horigin =>
    (hs.caughtUp origin horigin).others hs ha⟩
  · refine List.pairwise_append.2 ⟨hs.guids, a.pairwise_entry k s.db, ?_⟩
    exact fun x hx r hr => hnew r hr x hx
  · intro v hv
    rcases List.mem_append.1 (hspares.rows.subset hv) with hv | hv
    · exact List.mem_append_left _ (hs.logged v hv)
    · exact List.mem_append_right _ hv
  · intro r hr
    have htold := a.told_eq hs.installed fun r hr x hx => hnew r hr x (hs.logged x hx)
    rcases List.mem_append.1 hr with hr | hr
    · exact List.mem_append_left _ (hs.answered r hr)
    · exact List.mem_append_right _ (htold ▸ List.mem_map_of_mem hr)
  · cases hx : (s.step k c (.others a)).registration? k c with
    | none => rfl
    | some x =>
        have hbefore := (hspares.reader x hx).1
        rw [show (s.db.books.get k).consumers.find? c = none from hs.absent hnone] at hbefore
        cases hbefore

theorem join_sound (hs : Sound k c s) {now : Int} {watermark : String}
    (hw : ∃ w ∈ (s.db.ledger k).rows, w.guid = watermark) :
    Sound k c (s.step k c (.join now watermark)) := by
  simp only [step]
  rcases Database.onConsumers_cases (k := k) hs.installed
      (Registry.register now c watermark) with ⟨err, -, heq⟩ | ⟨x, r, hok, heq⟩
  · rw [heq]
    exact hs
  · rw [heq]
    obtain ⟨hnew, rfl⟩ := Registry.find?_register_self hok
    obtain ⟨w, hw, hguid⟩ := hw
    obtain ⟨front, rest, hrows⟩ := List.append_of_mem hw
    have hsuffix : w :: rest <:+ (s.db.ledger k).rows := ⟨front, hrows.symm⟩
    have hledger : (s.db.withBooks k { s.db.books.get k with consumers := r }).ledger k =
        s.db.ledger k := Database.ledger_withBooks _
    refine ⟨hs.installed, ?_, hs.orderly.ledger.guids, ?_, fun v hv =>
      hs.answered v (hs.logged v hv), nofun, fun origin horigin => ?_⟩
    · rw [Database.books_withBooks]
      exact ⟨hs.orderly.ledger, hs.orderly.times, hs.orderly.consumers.register hok⟩
    · rw [hledger]
      exact fun v hv => hv
    · obtain rfl := Option.some.inj horigin
      refine ⟨⟨w, hw, hguid⟩, [], rest, ?_, rfl, fun y hy => ?_⟩
      · rw [← hguid]
        exact Ledger.past_of_suffix hs.orderly.ledger.guids hsuffix
      · unfold registration? Database.consumers at hy
        rw [Database.books_withBooks] at hy
        obtain rfl := Option.some.inj (hnew.symm.trans hy)
        refine ⟨⟨w, hguid, hsuffix, ?_⟩, [], List.nil_prefix, rfl⟩
        rw [hledger]
        exact hsuffix

theorem ask_eq (hs : Sound k c s) {watermark : String}
    {rest : List EventRow} (h : Follows k s watermark rest) (limit : Nat) :
    s.ask k watermark limit = EventRow.decodeAll (Page.take limit rest) := by
  obtain ⟨w, rfl, -, hrows⟩ := h.kept
  unfold ask Database.askLedger Database.need
  rw [if_pos hs.installed]
  exact Ledger.eventsAfter_of_suffix hs.orderly.ledger hrows k limit

theorem poll_sound (hs : Sound k c s) (limit : Nat) :
    Sound k c (s.step k c (.poll limit)) := by
  simp only [step]
  split
  · exact hs
  · next x hx =>
      split
      · exact hs
      · next events hask =>
          refine ⟨hs.installed, hs.orderly, hs.guids, hs.logged, hs.answered, hs.absent,
            fun origin horigin => ?_⟩
          obtain ⟨hstarted, seen, rest, hpast, hseen, hfollows⟩ := hs.caughtUp origin horigin
          rw [ask_eq hs (hfollows x hx)] at hask
          refine ⟨hstarted, seen, rest, hpast, hseen, fun y hy => ?_⟩
          exact ⟨(hfollows y hy).kept, Page.take limit rest, Page.take_prefix _ _,
            EventRow.decodeAll_eq_ok.1 hask⟩

/-- The last of the events given is that of the last of their rows, so the rows
after it are those still to be given. -/
theorem Follows.advance {watermark : String} {rest : List EventRow} {e : Event}
    (h : Follows k s watermark rest) (he : s.answer.getLast? = some e) :
    ∃ ahead w more, rest = ahead ++ more ∧
      ahead.map EventRow.decode = s.answer.map .ok ∧ w.guid = e.guid ∧
      w :: more <:+ s.log ∧ w :: more <:+ (s.db.ledger k).rows := by
  obtain ⟨⟨v, -, hlog, hrows⟩, ahead, ⟨more, rfl⟩, hgiven⟩ := h
  obtain ⟨events, hanswer⟩ := List.getLast?_eq_some_iff.1 he
  have hmap := hgiven
  rw [hanswer, List.map_append] at hmap
  obtain ⟨front, back, rfl, -, hback⟩ := List.map_eq_append_iff.1 hmap
  obtain ⟨w, rfl, hw⟩ := List.map_eq_singleton_iff.1 hback
  have hsuffix : w :: more <:+ v :: ((front ++ [w]) ++ more) :=
    ⟨v :: front, by simp⟩
  exact ⟨front ++ [w], w, more, rfl, hgiven, (EventRow.guid_of_decode hw).symm,
    hsuffix.trans hlog, hsuffix.trans hrows⟩

theorem acknowledge_sound (hs : Sound k c s) (now : Int) :
    Sound k c (s.step k c (.acknowledge now)) := by
  simp only [step]
  split
  · exact hs
  · next e he =>
      rcases Database.onConsumers_cases (k := k) hs.installed
          (Registry.update now c e.guid) with ⟨err, -, heq⟩ | ⟨x, r, hok, heq⟩
      · rw [heq]
        exact hs
      · rw [heq]
        obtain ⟨old, hold, -, -⟩ := Registry.update_ok hok
        obtain ⟨hnew, hmark⟩ := Registry.find?_update_self hok
        have hledger : (s.db.withBooks k { s.db.books.get k with consumers := r }).ledger k =
            s.db.ledger k := Database.ledger_withBooks _
        refine ⟨hs.installed, ?_, hs.guids, ?_, hs.answered, fun hnone => ?_,
          fun origin horigin => ?_⟩
        · rw [Database.books_withBooks]
          exact ⟨hs.orderly.ledger, hs.orderly.times, hs.orderly.consumers.update hok⟩
        · rw [hledger]
          exact hs.logged
        · cases hold.symm.trans (hs.absent hnone)
        · obtain ⟨hstarted, seen, rest, hpast, hseen, hfollows⟩ := hs.caughtUp origin horigin
          obtain ⟨ahead, w, more, rfl, hgiven, hguid, hlog, hrows⟩ :=
            (hfollows old hold).advance he
          refine ⟨hstarted, seen ++ ahead, more, ?_, ?_, fun y hy => ?_⟩
          · rw [hpast, List.append_assoc]
          · rw [List.map_append, List.map_append, hseen, hgiven]
          · unfold registration? Database.consumers at hy
            rw [Database.books_withBooks] at hy
            obtain rfl := Option.some.inj (hnew.symm.trans hy)
            refine ⟨⟨w, hguid.trans hmark.symm, hlog, ?_⟩, [], List.nil_prefix, rfl⟩
            rw [hledger]
            exact hrows

theorem step_sound (hs : Sound k c s) {a : Step} (ha : a.Admissible k c s) :
    Sound k c (s.step k c a) := by
  cases a with
  | others a => exact others_sound hs ha
  | join now watermark => exact join_sound hs ha
  | poll limit => exact poll_sound hs limit
  | acknowledge now => exact acknowledge_sound hs now

/-- Forty days after the first events. -/
def fortyDays : Int := 3456000000

end Reading

end Metering
