import Metering.Job
import Metering.Proofs.Consumption
import Metering.Proofs.Retrying
import Metering.Proofs.Tallies

/-!
# Calls on a database

What a program asks of a database is a call on the books of a kind or a call on its
snapshots. A program that has been given a snapshot keeps it as the value that it was
then, and may come back with it when the snapshot has long been completed or is gone. So
a call on snapshots can name one of the values that were handed out.

Two facts about single calls carry what is said of many. A call on the books sees the
books of its kind and whether there are tables, and changes these books alone
(`BookCall.isLocal_perform`). A call on snapshots changes the store alone, and does one
of four things to it (`SnapshotCall.settles_perform`): nothing, or it requests a
snapshot, completes one that is processing, or deletes. Whatever else can happen on the
way, a refusal, a failing source, a broken key, is the first of these.

The guid for a new event or snapshot comes with the call, as everywhere.
-/

namespace Metering

open Retention (Policy Report)
open Telemetry (Observation)
open Time (Instant daysBefore minutesBefore)

/-! ## Calls on the books -/

/-- A call on the books of a kind. -/
inductive BookCall where
  | append (fresh : String) (e : NewEvent)
  | appendAll (es : List NewEvent)
  | find (guid : String)
  | latest
  | count
  | poll (after : Option String) (limit : Nat)
  | register (consumer watermark : String)
  | move (consumer watermark : String)
  | deregister (consumer : String)
  | findConsumer (consumer : String)
  | listConsumers
  | guard (guid : String)
  | unguard (guid : String)
  | retain (p : Policy) (estimator : Estimator) (dry : Bool)

namespace BookCall

open Command (ask change listOf)

def perform (k : Kind) (now : Int) (db : Database) : BookCall → Except Error Json × Database
  | append fresh e => change Event.toJson (db.append k now fresh e)
  | appendAll es => change Json.ofNat (db.appendAll k now es)
  | find guid =>
    ask (Database.askLedger k (Ledger.find guid)) (Json.ofOption Event.toJson) db
  | latest => ask (Database.askLedger k Ledger.latest) (Json.ofOption Event.toJson) db
  | count => ask (Database.askLedger k fun l => .ok l.rows.length) Json.ofNat db
  | poll after limit =>
    ask (Database.askLedger k (Ledger.eventsAfter k after limit)) (listOf Event.toJson) db
  | register consumer watermark =>
    change Registration.toJson (db.onConsumers k (Registry.register now consumer watermark))
  | move consumer watermark =>
    change Registration.toJson (db.onConsumers k (Registry.update now consumer watermark))
  | deregister consumer =>
    change (fun _ => Json.null)
      (db.onConsumers k fun r => do pure ((), ← r.deregister consumer))
  | findConsumer consumer =>
    ask (Database.askConsumers k (·.find? consumer)) (Json.ofOption Registration.toJson) db
  | listConsumers => ask (Database.askConsumers k id) (listOf Registration.toJson) db
  | guard guid => (.ok .null, db.withLedger k ((db.ledger k).guardEvent guid))
  | unguard guid => (.ok .null, db.withLedger k ((db.ledger k).unguardEvent guid))
  | retain p estimator dry => change Report.toJson (db.retain p k estimator now dry)

end BookCall

namespace Database

/-- An operation that sees the books of a kind and whether there are tables, and changes
nothing but these books. -/
def IsLocal {α : Type} (k : Kind) (f : Database → Except Error α × Database) : Prop :=
  ∃ (answer : Bool → Books → Except Error α) (after : Bool → Books → Books),
    ∀ db : Database, f db = (answer db.installed (db.books.get k),
      db.withBooks k (after db.installed (db.books.get k)))

variable {α : Type} {k : Kind}

theorem IsLocal.change {f : Database → Except Error α × Database} (h : IsLocal k f)
    (write : α → Json) : IsLocal k fun db => Command.change write (f db) := by
  obtain ⟨answer, after, heq⟩ := h
  refine ⟨fun there b => (answer there b).map write, after, fun db => ?_⟩
  simp only [heq db, Command.change]

theorem isLocal_askLedger (f : Ledger → Except Error α) (write : α → Json) :
    IsLocal k (Command.ask (askLedger k f) write) := by
  refine ⟨fun there b => Except.map write
      (if there then f b.ledger else .error (missing k.eventTable)), fun _ b => b, fun db => ?_⟩
  rw [withBooks_self]
  unfold Command.ask askLedger need
  cases db.installed <;> rfl

theorem isLocal_askConsumers (f : Registry → α) (write : α → Json) :
    IsLocal k (Command.ask (askConsumers k f) write) := by
  refine ⟨fun there b => Except.map write
      (if there then .ok (f b.consumers) else .error (missing k.consumerTable)),
    fun _ b => b, fun db => ?_⟩
  rw [withBooks_self]
  unfold Command.ask askConsumers need
  cases db.installed <;> rfl

theorem isLocal_withLedger (answer : Ledger → Except Error α) (f : Ledger → Ledger) :
    IsLocal k fun db => (answer (db.ledger k), db.withLedger k (f (db.ledger k))) :=
  ⟨fun _ b => answer b.ledger, fun _ b => { b with ledger := f b.ledger }, fun _ => rfl⟩

theorem IsLocal.onTables {f : Database → Except Error α × Database} (h : IsLocal k f)
    (first : String) : IsLocal k (onTables first f) := by
  obtain ⟨answer, after, heq⟩ := h
  refine ⟨fun there b => if there then answer there b else .error (missing first),
    fun there b => if there then after there b else b, fun db => ?_⟩
  unfold Database.onTables
  rw [heq db]
  cases db.installed with
  | false => simp only [Bool.false_eq_true, if_false, withBooks_self]
  | true => rfl

theorem isLocal_append (now : Int) (fresh : String) (e : NewEvent) :
    IsLocal k fun db => db.append k now fresh e :=
  (isLocal_withLedger (fun l => (l.append k now fresh e).1)
    fun l => (l.append k now fresh e).2).onTables _

theorem isLocal_appendAll (now : Int) (es : List NewEvent) :
    IsLocal k fun db => db.appendAll k now es := by
  refine IsLocal.onTables ⟨fun _ b => (b.ledger.appendAll k now es).map fun _ => es.length,
    fun _ b => match b.ledger.appendAll k now es with
      | .ok l => { b with ledger := l }
      | .error _ => b, fun db => ?_⟩ k.eventTable
  unfold attempt ledger
  cases hall : (db.books.get k).ledger.appendAll k now es with
  | error e =>
      simp only [hall, withBooks_self]
      rfl
  | ok l =>
      simp only [hall]
      rfl

theorem isLocal_onConsumers (f : Registry → Except Error (α × Registry)) :
    IsLocal k fun db => db.onConsumers k f := by
  refine ⟨fun there b => if there then (f b.consumers).map Prod.fst else (empty.onConsumers k f).1,
    fun there b => if there then
        (f b.consumers).toOption.elim b fun found => { b with consumers := found.2 }
      else b, fun db => ?_⟩
  unfold onConsumers attempt consumers
  cases hthere : db.installed with
  | false =>
      simp only [hthere, Bool.false_eq_true, if_false, withBooks_self]
      cases f [] <;> rfl
  | true =>
      simp only [hthere, if_true]
      cases hf : f (db.books.get k).consumers with
      | error e =>
          simp only [Except.toOption, Option.elim_none, withBooks_self]
          rfl
      | ok found => rfl

theorem isLocal_retain (p : Policy) (estimator : Estimator) (now : Int) (dry : Bool) :
    IsLocal k fun db => db.retain p k estimator now dry := by
  refine ⟨fun there b => if there then
      if dry then Retention.dryRun p k estimator now b
      else (Retention.run p k estimator now b).1
      else (empty.retain p k estimator now dry).1,
    fun there b => if there && ! dry then (Retention.run p k estimator now b).2 else b,
    fun db => ?_⟩
  unfold retain
  cases hthere : db.installed with
  | false =>
      simp only [hthere, Bool.not_false, Bool.false_eq_true, if_true, if_false, Bool.false_and,
        withBooks_self]
      split <;> rfl
  | true =>
      simp only [hthere, Bool.not_true, Bool.false_eq_true, if_false, if_true, Bool.true_and]
      cases dry with
      | true => simp only [Bool.not_true, Bool.false_eq_true, if_false, if_true, withBooks_self]
      | false => rfl

end Database

theorem BookCall.isLocal_perform (k : Kind) (now : Int) (c : BookCall) :
    Database.IsLocal k fun db => c.perform k now db := by
  cases c with
  | append fresh e => exact (Database.isLocal_append now fresh e).change _
  | appendAll es => exact (Database.isLocal_appendAll now es).change _
  | find | latest | count | poll => exact Database.isLocal_askLedger _ _
  | register | move | deregister => exact (Database.isLocal_onConsumers _).change _
  | findConsumer | listConsumers => exact Database.isLocal_askConsumers _ _
  | guard guid =>
      exact Database.isLocal_withLedger (fun _ => .ok Json.null) (Ledger.guardEvent guid)
  | unguard guid =>
      exact Database.isLocal_withLedger (fun _ => .ok Json.null) (Ledger.unguardEvent guid)
  | retain p estimator dry => exact (Database.isLocal_retain p estimator now dry).change _

/-! ## Calls on snapshots -/

/-- A call on the snapshots of a kind. A snapshot that was handed out before is named by
its place among these. -/
inductive SnapshotCall where
  | request (fresh : String)
  | inProgress
  | find (guid : String)
  | list (offset limit : Nat)
  /-- Generates a snapshot that was handed out, from a source or what the inventory lists. -/
  | populate (g : GenerationSettings) (source : Option Source) (place : Nat)
  | generate (g : GenerationSettings) (guid : String)
  | chunks (place offset limit : Nat)
  | delete (guid : String)
  | cleanup (days minutes : Nat)

/-- What comes of a call on snapshots: the answer, what there was to measure, the
snapshots that are handed out with the answer, and the database after it. -/
structure Reply where
  answer : Except Error Json
  observation : Option Observation
  handed : List Snapshot
  db : Database

namespace Reply

/-- The reply with a result, in which there may be snapshots. -/
def of {α : Type} (write : α → Json) (handed : α → List Snapshot) (observation : Option Observation)
    (outcome : Except Error α × Database) : Reply where
  answer := outcome.1.map write
  observation := observation
  handed := match outcome.1 with
    | .ok a => handed a
    | .error _ => []
  db := outcome.2

/-- The reply to a call that cannot be made. -/
def nothing (db : Database) : Reply := ⟨.ok .null, none, [], db⟩

end Reply

namespace SnapshotCall

def generated (outcome : Except Error Snapshot × Option Observation × Database) : Reply :=
  .of Snapshot.toJson ([·]) outcome.2.1 (outcome.1, outcome.2.2)

def perform (k : Kind) (now : Int) (held : List Snapshot) (db : Database) : SnapshotCall → Reply
  | request fresh => .of Snapshot.toJson ([·]) none (db.requestSnapshot k now fresh)
  | inProgress =>
    .of (Json.ofOption Snapshot.toJson) Option.toList none
      (db.askSnapshots fun s => .ok (s.inProgress? k), db)
  | find guid => .of Snapshot.toJson ([·]) none (db.askSnapshots (Snapshots.get guid), db)
  | list offset limit =>
    .of (Command.listOf Snapshot.toJson) id none
      (db.askSnapshots fun s => .ok (s.list (some k) offset limit), db)
  | populate g source place =>
    match held[place]? with
    | some v => generated (db.populate g (source.getD (db.source v.kind)) now v)
    | none => .nothing db
  | generate g guid => generated (GenerationJob.perform g now ⟨guid⟩ db)
  | chunks place offset limit =>
    match held[place]? with
    | some v =>
      .of ChunkPage.toJson (fun _ => []) none
        (db.askSnapshots (Snapshots.chunksPage v offset limit), db)
    | none => .nothing db
  | delete guid =>
    .of Json.bool (fun _ => []) none (db.onSnapshots fun s => .ok (s.delete guid))
  | cleanup days minutes =>
    .of SnapshotCleanupReport.toJson (fun _ => []) none (db.cleanup ⟨k, days, minutes⟩ now)

/-- The guids that a call gives or uses. -/
def Mentions (guid : String) : SnapshotCall → Prop
  | request g | find g | generate _ g | delete g => g = guid
  | _ => False

/-- The snapshots that a call is there to delete. -/
def dooms (k : Kind) (now : Int) : SnapshotCall → SnapshotRow → Bool
  | delete guid, r => r.guid = guid
  | cleanup days minutes, r =>
    r.kind = k &&
      r.createdAt < if r.isProcessing then minutesBefore now minutes else daysBefore now days
  | _, _ => false

end SnapshotCall

namespace Database

theorem onSnapshots_cases {α : Type} (f : Snapshots → Except Error (α × Snapshots))
    (db : Database) :
    (∃ e, db.onSnapshots f = (.error e, db)) ∨
    ∃ a s, f db.snapshots = .ok (a, s) ∧ db.onSnapshots f = (.ok a, db.withSnapshots s) := by
  cases hthere : db.installed with
  | false =>
      refine Or.inl ⟨missing snapshotTable, ?_⟩
      unfold onSnapshots onTables
      rw [if_neg (by simp [hthere])]
  | true =>
      cases hf : f db.snapshots with
      | error e => exact Or.inl ⟨e, onSnapshots_of_error hthere hf⟩
      | ok p => exact Or.inr ⟨p.1, p.2, rfl, onSnapshots_of_ok hthere hf⟩

theorem askSnapshots_eq_ok {α : Type} {f : Snapshots → Except Error α} {db : Database} {a : α}
    (h : db.askSnapshots f = .ok a) : f db.snapshots = .ok a := by
  obtain ⟨-, -, hf⟩ := bind_eq_ok.1 h
  exact hf

end Database

theorem Snapshots.row?_eq_some {guid : String} {r : SnapshotRow} {s : Snapshots}
    (h : s.row? guid = some r) : r ∈ s.rows ∧ r.guid = guid :=
  ⟨List.mem_of_find?_eq_some h, by simpa using List.find?_some h⟩

theorem Snapshots.deleteWhere_deleteWhere (p q : SnapshotRow → Bool) (s : Snapshots) :
    ((s.deleteWhere p).2.deleteWhere q).2 = (s.deleteWhere fun r => p r || q r).2 := by
  have hrows : (s.rows.filter fun r => ! p r).filter (fun r => ! q r) =
      s.rows.filter fun r => ! (p r || q r) := by
    rw [List.filter_filter]
    exact List.filter_congr fun r _ => by simp [Bool.and_comm]
  have hchunks : (s.chunks.filter fun c => ! (s.rows.filter p).any (·.id = c.snapshot)).filter
      (fun c => ! ((s.rows.filter fun r => ! p r).filter q).any (·.id = c.snapshot)) =
      s.chunks.filter fun c => ! (s.rows.filter fun r => p r || q r).any (·.id = c.snapshot) := by
    rw [List.filter_filter]
    refine List.filter_congr fun c _ => ?_
    rw [Bool.eq_iff_iff]
    simp only [List.any_filter, Bool.and_eq_true, Bool.not_eq_true', List.any_eq_false,
      Bool.or_eq_true, decide_eq_true_eq]
    grind
  simp only [deleteWhere, hrows, hchunks]

namespace SnapshotCall

theorem perform_cleanup (k : Kind) (days minutes : Nat) (now : Int) (s : Snapshots) :
    (SnapshotCleanup.perform ⟨k, days, minutes⟩ now s).2 =
      (s.deleteWhere (dooms k now (.cleanup days minutes))).2 := by
  have hdooms : (fun r : SnapshotRow =>
      (r.kind = k && ! r.isProcessing && r.createdAt < daysBefore now days) ||
        (r.kind = k && r.isProcessing && r.createdAt < minutesBefore now minutes)) =
      dooms k now (.cleanup days minutes) := by
    funext r
    unfold dooms
    cases hopen : r.isProcessing <;> simp [hopen]
  rw [← hdooms]
  exact Snapshots.deleteWhere_deleteWhere _ _ s

/-- What a call can do to the store: nothing, request a snapshot, generate one that was
handed out or that it names, or delete. -/
inductive Turn (k : Kind) (now : Int) (held : List Snapshot) (s : Snapshots)
    (c : SnapshotCall) : Snapshots → Prop where
  | same : Turn k now held s c s
  | requested (fresh : String) (hc : c = .request fresh)
      (hfree : ∀ r ∈ s.rows, r.kind = k → r.isProcessing = false) :
      Turn k now held s c
        { s with
          rows := s.rows ++ [.placeholder (s.issued + 1) fresh k now]
          issued := s.issued + 1 }
  | generated {v : Snapshot}
      (hv : v ∈ held ∨ c.Mentions v.guid ∧ ∃ r ∈ s.rows, r.toSnapshot = v)
      {r : SnapshotRow} (hr : r ∈ s.rows) (hid : r.id = v.id) (hopen : r.isProcessing = true)
      (at_ : Int) (checkpoint : Option Event) (totals : Totals) (tracksParents : Bool)
      (cs : List PendingChunk) :
      Turn k now held s c (s.generated at_ v.id checkpoint totals tracksParents cs)
  | deleted : Turn k now held s c (s.deleteWhere (c.dooms k now)).2

/-- The row of a snapshot that a call on a kind may hand out: one of the kind, or under a
guid that the call or the one who makes it has. -/
def HandsOut (k : Kind) (held : List Snapshot) (s : Snapshots) (c : SnapshotCall)
    (v : Snapshot) : Prop :=
  ∃ r ∈ s.rows, r.toSnapshot = v ∧
    (r.kind = k ∨ c.Mentions r.guid ∨ ∃ u ∈ held, u.guid = r.guid)

/-- What a reply is like once the call has been made. -/
structure Settles (k : Kind) (now : Int) (held : List Snapshot) (db : Database)
    (c : SnapshotCall) (reply : Reply) : Prop where
  frame : reply.db = db.withSnapshots reply.db.snapshots
  turn : Turn k now held db.snapshots c reply.db.snapshots
  handed : ∀ v ∈ reply.handed, HandsOut k held reply.db.snapshots c v

section Settles

variable {α : Type} {k : Kind} {now : Int} {held : List Snapshot} {db : Database}
  {c : SnapshotCall} {write : α → Json} {handed : α → List Snapshot}

theorem settles_nothing : Settles k now held db c (.nothing db) :=
  ⟨rfl, .same, fun _ hv => absurd hv List.not_mem_nil⟩

theorem settles_ask {f : Snapshots → Except Error α}
    (h : ∀ a, f db.snapshots = .ok a → ∀ v ∈ handed a, HandsOut k held db.snapshots c v) :
    Settles k now held db c (.of write handed none (db.askSnapshots f, db)) := by
  refine ⟨rfl, .same, fun v hv => ?_⟩
  unfold Reply.of at hv
  cases hanswer : db.askSnapshots f with
  | error e =>
      simp only [hanswer] at hv
      cases hv
  | ok a =>
      simp only [hanswer] at hv
      exact h a (Database.askSnapshots_eq_ok hanswer) v hv

theorem settles_change {f : Snapshots → Except Error (α × Snapshots)}
    (h : ∀ a s, f db.snapshots = .ok (a, s) → Turn k now held db.snapshots c s ∧
      ∀ v ∈ handed a, HandsOut k held s c v) :
    Settles k now held db c (.of write handed none (db.onSnapshots f)) := by
  rcases Database.onSnapshots_cases f db with ⟨e, heq⟩ | ⟨a, s, hf, heq⟩
  · rw [heq]
    exact ⟨rfl, .same, fun _ hv => absurd hv List.not_mem_nil⟩
  · rw [heq]
    exact ⟨rfl, (h a s hf).1, (h a s hf).2⟩

theorem settles_populate {v : Snapshot}
    (hv : v ∈ held ∨ c.Mentions v.guid ∧ ∃ r ∈ db.snapshots.rows, r.toSnapshot = v)
    (g : GenerationSettings) (source : Source) :
    Settles k now held db c (generated (db.populate g source now v)) := by
  have hguid : ∀ {r : SnapshotRow}, r.guid = v.guid →
      c.Mentions r.guid ∨ ∃ u ∈ held, u.guid = r.guid := fun heq => by
    rcases hv with hv | ⟨hv, -⟩
    · exact Or.inr ⟨v, hv, heq.symm⟩
    · exact Or.inl (heq ▸ hv)
  refine ⟨rfl, ?_, fun u hu => ?_⟩
  · show Turn k now held db.snapshots c
      (v.populate g source now (db.ledger v.kind) db.snapshots).store
    rcases v.populate_cases g now (db.ledger v.kind) source db.snapshots with
      ⟨-, -, hstore⟩ | ⟨r, hr, hid, hopen, checkpoint, totals, cs, hstore, -⟩
    · rw [hstore]
      exact .same
    · rw [hstore]
      exact .generated hv hr hid hopen now checkpoint totals source.tracksParents cs
  · unfold generated Reply.of at hu
    show HandsOut k held (v.populate g source now (db.ledger v.kind) db.snapshots).store c u
    rcases v.populate_cases g now (db.ledger v.kind) source db.snapshots with
      ⟨e, herr, -⟩ | ⟨-, -, -, -, -, -, -, -, hanswer⟩
    · simp only [Database.populate, herr] at hu
      cases hu
    · cases hget : (v.populate g source now (db.ledger v.kind) db.snapshots).store.get v.guid with
      | error e =>
          simp only [Database.populate, hanswer, hget] at hu
          cases hu
      | ok done =>
          simp only [Database.populate, hanswer, hget, List.mem_singleton] at hu
          obtain ⟨r, hfound, hdone⟩ := Snapshots.get_eq_ok hget
          obtain ⟨hr, heq⟩ := Snapshots.row?_eq_some hfound
          exact ⟨r, hr, hdone.trans hu.symm, Or.inr (hguid heq)⟩

end Settles

/-- Every call on snapshots is one of the four turns, and touches nothing else. -/
theorem settles_perform (k : Kind) (now : Int) (held : List Snapshot) (db : Database)
    (c : SnapshotCall) : Settles k now held db c (c.perform k now held db) := by
  cases c with
  | request fresh =>
      refine settles_change fun v s hreq => ?_
      rcases Snapshots.request_cases k now fresh db.snapshots with ⟨-, herr⟩ | ⟨hfree, hok⟩
      · rw [herr] at hreq
        cases hreq
      · rw [hok] at hreq
        obtain ⟨rfl, rfl⟩ := Prod.mk.inj (Except.ok.inj hreq)
        refine ⟨.requested fresh rfl hfree, fun v hv => ?_⟩
        rw [List.mem_singleton.1 hv]
        exact ⟨_, List.mem_append_right _ (List.mem_singleton_self _), rfl, Or.inl rfl⟩
  | inProgress =>
      refine settles_ask fun found hfound v hv => ?_
      obtain rfl := Except.ok.inj hfound
      obtain ⟨r, hr, rfl⟩ := Option.map_eq_some_iff.1 (Option.mem_toList.1 hv)
      have hwanted := List.find?_some hr
      rw [Bool.and_eq_true, decide_eq_true_eq] at hwanted
      exact ⟨r, List.mem_of_find?_eq_some hr, rfl, Or.inl hwanted.1⟩
  | find guid =>
      refine settles_ask fun u hget v hv => ?_
      obtain ⟨r, hfound, rfl⟩ := Snapshots.get_eq_ok hget
      obtain ⟨hr, heq⟩ := Snapshots.row?_eq_some hfound
      rw [List.mem_singleton.1 hv]
      exact ⟨r, hr, rfl, Or.inr (Or.inl heq.symm)⟩
  | list offset limit =>
      refine settles_ask fun listed hlisted v hv => ?_
      obtain rfl := Except.ok.inj hlisted
      obtain ⟨r, hr, rfl⟩ := List.mem_map.1 hv
      have hr := List.mem_mergeSort.1 ((Page.slice_sublist offset limit _).subset hr)
      obtain ⟨hr, hk⟩ := List.mem_filter.1 hr
      exact ⟨r, hr, rfl, Or.inl (by simpa using hk)⟩
  | populate g source place =>
      simp only [perform]
      split
      · next v hv => exact settles_populate (Or.inl (List.mem_of_getElem? hv)) g _
      · exact settles_nothing
  | generate g guid =>
      simp only [perform, GenerationJob.perform, Database.generateSnapshot]
      split
      · exact ⟨rfl, .same, fun _ hv => absurd hv List.not_mem_nil⟩
      · next v hget =>
          obtain ⟨r, hfound, rfl⟩ := Snapshots.get_eq_ok (Database.askSnapshots_eq_ok hget)
          obtain ⟨hr, heq⟩ := Snapshots.row?_eq_some hfound
          have hnamed : (generate g guid).Mentions r.toSnapshot.guid := heq.symm
          exact settles_populate (Or.inr ⟨hnamed, r, hr, rfl⟩) g _
  | chunks place offset limit =>
      simp only [perform]
      split
      · exact settles_ask fun _ _ v hv => absurd hv List.not_mem_nil
      · exact settles_nothing
  | delete guid =>
      refine settles_change fun b s hdel => ⟨?_, fun _ hv => absurd hv List.not_mem_nil⟩
      obtain ⟨-, rfl⟩ := Prod.mk.inj (Except.ok.inj hdel)
      exact .deleted
  | cleanup days minutes =>
      refine settles_change fun report s hclean => ⟨?_, fun _ hv => absurd hv List.not_mem_nil⟩
      have hs : (SnapshotCleanup.perform ⟨k, days, minutes⟩ now db.snapshots).2 = s :=
        congrArg Prod.snd (Except.ok.inj hclean)
      rw [← hs, perform_cleanup]
      exact .deleted

/-! ## What a turn keeps -/

variable {k : Kind} {now : Int} {held : List Snapshot} {s t : Snapshots} {c : SnapshotCall}

theorem Turn.isKept (h : Turn k now held s c t) (hs : s.IsKept) : t.IsKept := by
  cases h with
  | same => exact hs
  | requested fresh _ hfree =>
      rcases Snapshots.request_cases k now fresh s with ⟨⟨r, hr, hk, hopen⟩, -⟩ | ⟨-, hreq⟩
      · rw [hfree r hr hk] at hopen
        cases hopen
      · exact hs.request hreq
  | generated _ hr hid => exact hs.generated hr hid _
  | deleted => exact hs.deleteWhere _

end SnapshotCall

/-- What a snapshot is told by, and keeps from the request on. -/
def SnapshotRow.label (r : SnapshotRow) : Int × String × Kind × Int :=
  (r.id, r.guid, r.kind, r.createdAt)

@[simp] theorem Snapshots.label_close (now id : Int) (checkpoint : Option Event)
    (totals : Totals) (tracksParents : Bool) (r : SnapshotRow) :
    (close now id checkpoint totals tracksParents r).label = r.label := by
  unfold close
  split <;> rfl

/-- A turn gives out no identifier again. A snapshot after it was there before, or has a
new one and is what was requested. -/
theorem SnapshotCall.Turn.origin {k : Kind} {now : Int} {held : List Snapshot}
    {s t : Snapshots} {c : SnapshotCall} (h : Turn k now held s c t) :
    s.issued ≤ t.issued ∧
      ∀ r ∈ t.rows, (∃ old ∈ s.rows, old.label = r.label) ∨
        s.issued < r.id ∧ r.kind = k ∧ c = .request r.guid := by
  cases h with
  | same => exact ⟨Int.le_refl _, fun r hr => Or.inl ⟨r, hr, rfl⟩⟩
  | requested fresh hc _ =>
      refine ⟨by show s.issued ≤ s.issued + 1; omega, fun r hr => ?_⟩
      rcases List.mem_append.1 hr with hr | hr
      · exact Or.inl ⟨r, hr, rfl⟩
      · rw [List.mem_singleton.1 hr]
        exact Or.inr ⟨by show s.issued < s.issued + 1; omega, rfl, hc⟩
  | generated _ _ _ _ at_ checkpoint totals tracksParents cs =>
      refine ⟨Int.le_refl _, fun r hr => ?_⟩
      obtain ⟨old, hold, rfl⟩ := List.mem_map.1 hr
      exact Or.inl ⟨old, hold, (Snapshots.label_close ..).symm⟩
  | deleted =>
      exact ⟨Int.le_refl _, fun r hr => Or.inl ⟨r, (List.mem_filter.1 hr).1, rfl⟩⟩

end Metering
