import Metering.Proofs.Dialogue
import Metering.Proofs.Reflection

/-!
# The two kinds do not interfere

A dialogue with a database is compared with what is left of it when the calls on one
kind are dropped. Nothing that is said of the other kind may depend on whether they were
made: not an answer, not a measurement, not what is stored. The two runs are followed
side by side. `Mirrors` relates their states, and each operation either takes both runs
one step further, with the same answer (`step_both`), or is dropped and takes one of them
further alone (`step_alone`).

The books of the kinds are apart, so there is nothing to do for them. The snapshots are
in one store, which tells those of one kind from those of the other by their guids and
identifiers. A guid is drawn at random when a snapshot is requested, and is not drawn for
another, so what a call names by its guid is of one kind; `Unmixed` says that the calls
are on the kind that they are filed under. Identifiers are given out by the store, to
both kinds in turn, and are not the same in the two runs. That they are not seen
otherwise is what `Snapshots.Reflects` is about.

The guids come with the calls, and so are the same in both runs.
-/

namespace Metering

open Telemetry (Observation)

theorem Kind.eq_of_ne_of_ne {i j k : Kind} (hjk : j ≠ k) (hij : i ≠ j) : i = k := by
  cases i <;> cases j <;> cases k <;> simp_all

namespace Dialogue

/-! ## What is compared -/

/-- Whether an operation is a call on a kind. -/
def Operation.isOn (k : Kind) : Operation → Bool
  | .books j _ | .snapshots j _ => j = k
  | .clock _ | .inventory _ => false

/-- The operations without the calls on a kind. -/
def dropping (k : Kind) (ops : List Operation) : List Operation :=
  ops.filter fun op => ! op.isOn k

/-- What a call is answered, and what there is to measure. -/
structure Answer where
  result : Except Error Json
  observation : Option Observation

/-- The answer to an operation that is a call on a kind. -/
def answer? (k : Kind) (s : Dialogue) : Operation → Option Answer
  | .books j c => if j = k then some ⟨(c.perform k s.now s.db).1, none⟩ else none
  | .snapshots j c =>
    if j = k then some ⟨(s.reply k c).answer, (s.reply k c).observation⟩ else none
  | .clock _ | .inventory _ => none

/-- The answers to the calls on a kind. -/
def answers (k : Kind) : List Operation → Dialogue → List Answer
  | [], _ => []
  | op :: ops, s => (s.answer? k op).toList ++ answers k ops (s.step op)

/-- The guids that an operation gives to a snapshot of a kind. -/
def Operation.Requests (k : Kind) (guid : String) (op : Operation) : Prop :=
  op = .snapshots k (.request guid)

/-- The guids that a call on the snapshots of a kind gives or uses. -/
def Operation.Mentions (k : Kind) (guid : String) (op : Operation) : Prop :=
  ∃ c : SnapshotCall, op = .snapshots k c ∧ c.Mentions guid

/-- A guid that is given to a snapshot is used in calls on its kind alone. -/
def Unmixed (ops : List Operation) : Prop :=
  ∀ j guid, (∃ op ∈ ops, op.Requests j guid) → ∀ k, (∃ op ∈ ops, op.Mentions k guid) → k = j

theorem unmixed_of_owner {ops : List Operation} (owner : String → Kind)
    (h : ∀ op ∈ ops, ∀ k guid, op.Mentions k guid → owner guid = k) : Unmixed ops := by
  rintro j guid ⟨op, hop, hreq⟩ k ⟨op', hop', hnamed⟩
  exact (h op' hop' k guid hnamed).symm.trans (h op hop j guid ⟨_, hreq, rfl⟩)

end Dialogue

/-- The snapshots of a kind and their chunks, as they are but for the identifiers. -/
def Snapshots.shown (k : Kind) (s : Snapshots) : List (SnapshotRow × List StoredChunk) :=
  (s.rows.filter (·.kind = k)).map fun r =>
    (r.renamed fun _ => 0, (s.own r.id).map (·.renamed fun _ => 0))

namespace Snapshots.Reflects

variable {k : Kind} {ρ : Int → Int} {s t : Snapshots}

theorem shown_eq (h : Reflects k ρ s t) : s.shown k = t.shown k := by
  have hall : t.rows.filter (·.kind = k) = t.rows :=
    List.filter_eq_self.2 fun r hr => decide_eq_true (h.kind_eq hr)
  unfold shown
  rw [h.rows, hall, List.map_map]
  refine List.map_congr_left fun r hr => ?_
  have hown : s.own (r.renamed ρ).id = (t.own r.id).map (·.renamed ρ) := h.own r.id (h.known r hr)
  simp only [Function.comp_apply, hown, List.map_map]
  rfl

end Snapshots.Reflects

/-! ## Calls on the snapshots of the kind -/

/-- Two databases that are the same for a kind: the first may hold anything of the other
kind, and names snapshots differently. -/
structure Database.Mirrors (k : Kind) (ρ : Int → Int) (db db' : Database) : Prop where
  installed : db.installed = db'.installed
  books : db.books.get k = db'.books.get k
  inventory : db.inventory = db'.inventory
  snapshots : Snapshots.Reflects k ρ db.snapshots db'.snapshots

/-- Two replies that tell the same and leave the stores alike. -/
structure Reply.Mirrors (k : Kind) (ρ : Int → Int) (a b : Reply) : Prop where
  answer : a.answer = b.answer
  observation : a.observation = b.observation
  handed : a.handed = b.handed.map (Snapshot.renamed ρ)
  snapshots : Snapshots.Reflects k ρ a.db.snapshots b.db.snapshots

section Replies

variable {α : Type} {k : Kind} {ρ : Int → Int} {write : α → Json}
  {handed : α → List Snapshot} {observation : Option Observation} {db db' : Database}

theorem Reply.Mirrors.of {x y : Except Error α × Database} (φ : α → α)
    (hxy : x.1 = y.1.map φ) (hwrite : ∀ a, write (φ a) = write a)
    (hhanded : ∀ a, handed (φ a) = (handed a).map (Snapshot.renamed ρ))
    (hsnap : Snapshots.Reflects k ρ x.2.snapshots y.2.snapshots) :
    (Reply.of write handed observation x).Mirrors k ρ (.of write handed observation y) := by
  obtain ⟨answer, after⟩ := x
  obtain ⟨answer', after'⟩ := y
  obtain rfl : answer = answer'.map φ := hxy
  cases answer' with
  | error e => exact ⟨rfl, rfl, rfl, hsnap⟩
  | ok a => exact ⟨congrArg Except.ok (hwrite a), rfl, hhanded a, hsnap⟩

namespace Database.Mirrors

theorem source_eq (h : db.Mirrors k ρ db') : db.source k = db'.source k := by
  unfold Database.source
  rw [h.installed, h.inventory]

theorem askSnapshots (h : db.Mirrors k ρ db') {f f' : Snapshots → Except Error α} {φ : α → α}
    (hf : f db.snapshots = (f' db'.snapshots).map φ) :
    db.askSnapshots f = (db'.askSnapshots f').map φ := by
  unfold Database.askSnapshots Database.need
  rw [h.installed]
  cases db'.installed with
  | false => rfl
  | true => exact hf

theorem ask (h : db.Mirrors k ρ db') {f f' : Snapshots → Except Error α} (φ : α → α)
    (hf : f db.snapshots = (f' db'.snapshots).map φ) (hwrite : ∀ a, write (φ a) = write a)
    (hhanded : ∀ a, handed (φ a) = (handed a).map (Snapshot.renamed ρ)) :
    (Reply.of write handed observation (db.askSnapshots f, db)).Mirrors k ρ
      (.of write handed observation (db'.askSnapshots f', db')) :=
  .of φ (h.askSnapshots hf) hwrite hhanded h.snapshots

/-- The same change happens in both or in neither. If it happens, identifiers may have
been given out, and the map goes further than it did. -/
theorem change (h : db.Mirrors k ρ db') {σ : Int → Int}
    (hσ : ∀ i ≤ db'.snapshots.issued, σ i = ρ i)
    {f f' : Snapshots → Except Error (α × Snapshots)}
    (hf : (∃ e, f db.snapshots = .error e ∧ f' db'.snapshots = .error e) ∨
      ∃ a b u w, f db.snapshots = .ok (a, u) ∧ f' db'.snapshots = .ok (b, w) ∧
        write a = write b ∧ handed a = (handed b).map (Snapshot.renamed σ) ∧
        Snapshots.Reflects k σ u w) :
    ∃ τ, (∀ i ≤ db'.snapshots.issued, τ i = ρ i) ∧
      (Reply.of write handed observation (db.onSnapshots f)).Mirrors k τ
        (.of write handed observation (db'.onSnapshots f')) := by
  cases hthere : db'.installed with
  | false =>
      refine ⟨ρ, fun _ _ => rfl, ?_⟩
      unfold Database.onSnapshots Database.onTables
      rw [h.installed, hthere]
      exact ⟨rfl, rfl, rfl, h.snapshots⟩
  | true =>
      have hthere' := h.installed.trans hthere
      rcases hf with ⟨e, hs, ht⟩ | ⟨a, b, u, w, hs, ht, hwrite, hhanded, hnext⟩
      · rw [Database.onSnapshots_of_error hthere' hs, Database.onSnapshots_of_error hthere ht]
        exact ⟨ρ, fun _ _ => rfl, rfl, rfl, rfl, h.snapshots⟩
      · rw [Database.onSnapshots_of_ok hthere' hs, Database.onSnapshots_of_ok hthere ht]
        exact ⟨σ, hσ, congrArg Except.ok hwrite, rfl, hhanded, hnext⟩

theorem generated (h : db.Mirrors k ρ db') {v : Snapshot} (hv : v.id ≤ db'.snapshots.issued)
    (hkind : v.kind = k) (hguid : ∀ r ∈ db.snapshots.rows, r.guid = v.guid → r.kind = k)
    (g : GenerationSettings) (source : Source) (now : Int) :
    (SnapshotCall.generated (db.populate g source now (v.renamed ρ))).Mirrors k ρ
      (SnapshotCall.generated (db'.populate g source now v)) := by
  have hledger : db.ledger (v.renamed ρ).kind = db'.ledger v.kind := by
    unfold Database.ledger
    rw [show (v.renamed ρ).kind = k from hkind, hkind, h.books]
  obtain ⟨hanswer, hobservation, hstore⟩ :=
    h.snapshots.populate hv hguid g source now (db'.ledger v.kind)
  unfold SnapshotCall.generated Database.populate
  rw [hledger]
  simp only [hobservation]
  exact .of (Snapshot.renamed ρ) hanswer (Snapshot.toJson_renamed ρ) (fun _ => rfl) hstore

end Database.Mirrors

end Replies

/-- What a call on the kind sees is the same in both databases, so it tells the same and
leaves the stores alike. -/
theorem SnapshotCall.perform_mirrors {k : Kind} {ρ : Int → Int} {db db' : Database}
    {held : List Snapshot} (h : db.Mirrors k ρ db') (hs : db.snapshots.IsKept)
    (ht : db'.snapshots.IsKept)
    (hheld : ∀ v ∈ held, v.id ≤ db'.snapshots.issued ∧ v.kind = k) (c : SnapshotCall)
    (hguid : ∀ guid, (c.Mentions guid ∨ ∃ v ∈ held, v.guid = guid) →
      ∀ r ∈ db.snapshots.rows, r.guid = guid → r.kind = k) (now : Int) :
    ∃ τ, (∀ i ≤ db'.snapshots.issued, τ i = ρ i) ∧
      (c.perform k now (held.map (Snapshot.renamed ρ)) db).Mirrors k τ
        (c.perform k now held db') := by
  have hstay : ∀ {a b : Reply}, a.Mirrors k ρ b →
      ∃ τ, (∀ i ≤ db'.snapshots.issued, τ i = ρ i) ∧ a.Mirrors k τ b :=
    fun hab => ⟨ρ, fun _ _ => rfl, hab⟩
  cases c with
  | request fresh =>
      have hold : ∀ i ≤ db'.snapshots.issued,
          Snapshots.Reflects.extended ρ db.snapshots db'.snapshots i = ρ i :=
        fun _ hi => Snapshots.Reflects.extended_old hi
      refine h.change hold ?_
      rcases h.snapshots.request hs ht now fresh with hrefused | ⟨v, u, w, hu, hw, hnext⟩
      · exact Or.inl hrefused
      · exact Or.inr ⟨_, v, u, w, hu, hw, Snapshot.toJson_renamed _ v, rfl, hnext⟩
  | inProgress =>
      refine hstay (h.ask (Option.map (Snapshot.renamed ρ)) ?_ ?_ ?_)
      · exact congrArg Except.ok h.snapshots.inProgress?
      · intro found
        cases found <;> rfl
      · intro found
        cases found <;> rfl
  | find guid =>
      have hget := h.snapshots.get (hguid guid (Or.inl rfl))
      exact hstay (h.ask (Snapshot.renamed ρ) hget (Snapshot.toJson_renamed ρ) fun _ => rfl)
  | list offset limit =>
      refine hstay (h.ask (List.map (Snapshot.renamed ρ)) ?_ ?_ fun _ => rfl)
      · exact congrArg Except.ok (h.snapshots.list offset limit)
      · intro listed
        unfold Command.listOf
        rw [List.map_map]
        rfl
  | populate g source place =>
      refine hstay ?_
      simp only [perform, List.getElem?_map]
      cases hplace : held[place]? with
      | none => exact ⟨rfl, rfl, rfl, h.snapshots⟩
      | some v =>
          have hv := List.mem_of_getElem? hplace
          obtain ⟨hid, hkind⟩ := hheld v hv
          simp only [Option.map_some]
          rw [show (v.renamed ρ).kind = k from hkind, hkind, h.source_eq]
          exact h.generated hid hkind (hguid v.guid (Or.inr ⟨v, hv, rfl⟩)) g _ now
  | generate g guid =>
      refine hstay ?_
      have hget := h.askSnapshots (h.snapshots.get (hguid guid (Or.inl rfl)))
      simp only [perform, GenerationJob.perform, Database.generateSnapshot, hget]
      cases hfound : db'.askSnapshots (Snapshots.get guid) with
      | error e => exact ⟨rfl, rfl, rfl, h.snapshots⟩
      | ok v =>
          obtain ⟨r, hrow, rfl⟩ := Snapshots.get_eq_ok (Database.askSnapshots_eq_ok hfound)
          obtain ⟨hr, rfl⟩ := Snapshots.row?_eq_some hrow
          have hid : r.toSnapshot.id ≤ db'.snapshots.issued := h.snapshots.known r hr
          have hkind : r.toSnapshot.kind = k := h.snapshots.kind_eq hr
          simp only [Except.map]
          rw [show (r.toSnapshot.renamed ρ).kind = k from hkind, hkind, h.source_eq]
          exact h.generated hid hkind (hguid r.guid (Or.inl rfl)) g _ now
  | chunks place offset limit =>
      refine hstay ?_
      simp only [perform, List.getElem?_map]
      cases hplace : held[place]? with
      | none => exact ⟨rfl, rfl, rfl, h.snapshots⟩
      | some v =>
          obtain ⟨hid, -⟩ := hheld v (List.mem_of_getElem? hplace)
          refine h.ask id ?_ (fun _ => rfl) fun _ => rfl
          rw [h.snapshots.chunksPage hid]
          cases db'.snapshots.chunksPage v offset limit <;> rfl
  | delete guid =>
      obtain ⟨hfound, hnext⟩ := h.snapshots.delete (hguid guid (Or.inl rfl))
      exact h.change (fun _ _ => rfl)
        (Or.inr ⟨_, _, _, _, rfl, rfl, congrArg Json.bool hfound, rfl, hnext⟩)
  | cleanup days minutes =>
      obtain ⟨hreport, hnext⟩ := h.snapshots.cleanup days minutes now
      exact h.change (fun _ _ => rfl)
        (Or.inr ⟨_, _, _, _, rfl, rfl, congrArg SnapshotCleanupReport.toJson hreport, rfl, hnext⟩)

namespace Dialogue

/-! ## Whose a guid is -/

/-- No guid belongs to both kinds. -/
def Exclusive (owned : Kind → String → Prop) : Prop :=
  ∀ j k guid, owned j guid → owned k guid → j = k

/-- What is done with guids, if each belongs to one kind: a snapshot gets one of its kind,
and calls on a kind use none that belongs to the other. -/
structure Operation.Heeds (owned : Kind → String → Prop) (op : Operation) : Prop where
  requests : ∀ k guid, op.Requests k guid → owned k guid
  mentions : ∀ j k guid, owned j guid → op.Mentions k guid → k = j

/-- A sound state in which all guids belong to the kinds that they are used for. -/
structure Tended (owned : Kind → String → Prop) (s : Dialogue) : Prop extends Sound s where
  rows : ∀ r ∈ s.db.snapshots.rows, owned r.kind r.guid
  values : ∀ k, ∀ v ∈ s.held.get k, v.kind = k ∧ owned k v.guid

section Tended

variable {owned : Kind → String → Prop} {s : Dialogue}

theorem tended_start {db : Database} (hempty : db.snapshots = .empty) (now : Int) :
    (start db now).Tended owned where
  toSound := sound_start hempty now
  rows r hr := by
    rw [show (start db now).db.snapshots = .empty from hempty] at hr
    cases hr
  values k v hv := by
    rw [show (start db now).held.get k = [] from PerKind.get_replicate _ k] at hv
    cases hv

theorem Tended.kind_of_guid (h : s.Tended owned) (hone : Exclusive owned) {k : Kind}
    {c : SnapshotCall} (hop : (Operation.snapshots k c).Heeds owned) {guid : String}
    (hguid : c.Mentions guid ∨ ∃ v ∈ s.held.get k, v.guid = guid) {r : SnapshotRow}
    (hr : owned r.kind r.guid) (heq : r.guid = guid) : r.kind = k := by
  rcases hguid with hnamed | ⟨v, hv, rfl⟩
  · exact (hop.mentions r.kind k guid (heq ▸ hr) ⟨c, rfl, hnamed⟩).symm
  · exact hone _ _ _ hr (heq ▸ (h.values k v hv).2)

theorem step_tended (h : s.Tended owned) (hone : Exclusive owned) {op : Operation}
    (hop : op.Heeds owned) : (s.step op).Tended owned := by
  suffices hboth : (∀ r ∈ (s.step op).db.snapshots.rows, owned r.kind r.guid) ∧
      ∀ k, ∀ v ∈ (s.step op).held.get k, v.kind = k ∧ owned k v.guid from
    ⟨step_sound h.toSound op, hboth.1, hboth.2⟩
  rcases step_cases s op with ⟨hsame, hheld⟩ | ⟨k, c, rfl, hsettles⟩
  · rw [hsame, hheld]
    exact ⟨h.rows, h.values⟩
  · have hrows : ∀ r ∈ (s.reply k c).db.snapshots.rows, owned r.kind r.guid := by
      intro r hr
      rcases hsettles.turn.origin.2 r hr with ⟨old, hold, hlabel⟩ | ⟨-, hkind, hcall⟩
      · have hguid : old.guid = r.guid := congrArg (fun label => label.2.1) hlabel
        have hkind : old.kind = r.kind := congrArg (fun label => label.2.2.1) hlabel
        exact hkind ▸ hguid ▸ h.rows old hold
      · rw [hkind]
        exact hop.requests k r.guid (congrArg _ hcall)
    refine ⟨hrows, fun j v hv => ?_⟩
    rcases mem_held_step hv with hv | ⟨rfl, hv⟩
    · exact h.values j v hv
    · obtain ⟨r, hr, rfl, hwhose⟩ := hsettles.handed v hv
      have hkind : r.kind = j := by
        rcases hwhose with hkind | hguid
        · exact hkind
        · exact h.kind_of_guid hone hop hguid (hrows r hr) rfl
      exact ⟨hkind, hkind ▸ hrows r hr⟩

end Tended

/-! ## Two runs side by side -/

/-- A run with calls on both kinds, and one with those on a kind alone: what is there for
the kind is the same. -/
structure Mirrors (k : Kind) (ρ : Int → Int) (s t : Dialogue) : Prop where
  db : s.db.Mirrors k ρ t.db
  clock : s.now = t.now
  held : s.held.get k = (t.held.get k).map (Snapshot.renamed ρ)

section Mirrors

variable {owned : Kind → String → Prop} {j k : Kind} {ρ : Int → Int} {s t : Dialogue}

theorem mirrors_start {db : Database} (hempty : db.snapshots = .empty) (now : Int) (k : Kind) :
    (start db now).Mirrors k id (start db now) := by
  refine ⟨⟨rfl, rfl, rfl, ?_⟩, rfl, ?_⟩
  · rw [show (start db now).db.snapshots = .empty from hempty]
    exact Snapshots.Reflects.refl_empty k
  · rw [show (start db now).held.get k = [] from PerKind.get_replicate _ k]
    rfl

theorem step_alone (h : s.Mirrors k ρ t) (hs : s.Tended owned) (hone : Exclusive owned)
    (hjk : j ≠ k) {op : Operation} (hop : op.Heeds owned) (hon : op.isOn j = true) :
    (s.step op).Mirrors k ρ t ∧ s.answer? k op = none := by
  cases op with
  | books i c =>
      obtain rfl : i = j := of_decide_eq_true hon
      obtain ⟨answer, after, heq⟩ := c.isLocal_perform i s.now
      have hdb : (s.step (.books i c)).db =
          s.db.withBooks i (after s.db.installed (s.db.books.get i)) :=
        congrArg Prod.snd (heq s.db)
      refine ⟨⟨?_, h.clock, h.held⟩, if_neg hjk⟩
      rw [hdb]
      exact ⟨h.db.installed, (Database.books_withBooks_of_ne hjk.symm _).trans h.db.books,
        h.db.inventory, h.db.snapshots⟩
  | snapshots i c =>
      obtain rfl : i = j := of_decide_eq_true hon
      obtain ⟨hframe, hturn, -⟩ := c.settles_perform i s.now (s.held.get i) s.db
      have hdb : (s.step (.snapshots i c)).db =
          s.db.withSnapshots (s.reply i c).db.snapshots := hframe
      refine ⟨⟨?_, h.clock, (PerKind.get_set_of_ne _ hjk.symm _).trans h.held⟩, if_neg hjk⟩
      rw [hdb]
      refine ⟨h.db.installed, h.db.books, h.db.inventory, ?_⟩
      refine h.db.snapshots.of_turn hs.kept hjk hturn (fun v hv r hr hid => ?_)
        fun r hr hdoomed => ?_
      · -- what is generated is of the kind, whether it was held or is named
        rcases hv with hv | ⟨hnamed, r', hr', rfl⟩
        · exact ((hs.held i v hv).2 r hr hid).2.2.1.trans (hs.values i v hv).1
        · obtain rfl := hs.kept.eq_of_id hr hr' hid
          exact hs.kind_of_guid hone hop (Or.inl hnamed) (hs.rows r hr) rfl
      · cases c with
        | delete guid =>
            exact hs.kind_of_guid hone hop (Or.inl rfl) (hs.rows r hr)
              (of_decide_eq_true hdoomed)
        | cleanup days minutes =>
            unfold SnapshotCall.dooms at hdoomed
            rw [Bool.and_eq_true, decide_eq_true_eq] at hdoomed
            exact hdoomed.1
        | _ => cases hdoomed
  | clock | inventory => cases hon

theorem step_both (h : s.Mirrors k ρ t) (hs : s.Tended owned) (ht : t.Tended owned)
    (hone : Exclusive owned) (hjk : j ≠ k) {op : Operation} (hop : op.Heeds owned)
    (hon : op.isOn j = false) :
    ∃ τ, (s.step op).Mirrors k τ (t.step op) ∧ s.answer? k op = t.answer? k op := by
  cases op with
  | books i c =>
      obtain rfl := Kind.eq_of_ne_of_ne hjk (of_decide_eq_false hon)
      obtain ⟨answer, after, heq⟩ := c.isLocal_perform i s.now
      have hdb : c.perform i s.now s.db = (answer t.db.installed (t.db.books.get i),
          s.db.withBooks i (after t.db.installed (t.db.books.get i))) := by
        rw [← h.db.installed, ← h.db.books]
        exact heq s.db
      have hdb' : c.perform i t.now t.db = (answer t.db.installed (t.db.books.get i),
          t.db.withBooks i (after t.db.installed (t.db.books.get i))) := by
        rw [← h.clock]
        exact heq t.db
      unfold step answer?
      simp only [hdb, hdb', if_true]
      refine ⟨ρ, ⟨⟨h.db.installed, ?_, h.db.inventory, h.db.snapshots⟩, h.clock, h.held⟩,
        trivial⟩
      rw [Database.books_withBooks, Database.books_withBooks]
  | snapshots i c =>
      obtain rfl := Kind.eq_of_ne_of_ne hjk (of_decide_eq_false hon)
      obtain ⟨τ, hτ, hreply⟩ : ∃ τ, (∀ n ≤ t.db.snapshots.issued, τ n = ρ n) ∧
          (s.reply i c).Mirrors i τ (t.reply i c) := by
        unfold reply
        rw [h.held, h.clock]
        refine SnapshotCall.perform_mirrors h.db hs.kept ht.kept
          (fun v hv => ⟨(ht.held i v hv).1, (ht.values i v hv).1⟩) c
          (fun guid hguid r hr heq => hs.kind_of_guid hone hop ?_ (hs.rows r hr) heq) t.now
        refine hguid.imp_right fun ⟨v, hv, hguid⟩ => ⟨v.renamed ρ, ?_, hguid⟩
        exact h.held ▸ List.mem_map_of_mem hv
      have hframe : (s.step (.snapshots i c)).db =
          s.db.withSnapshots (s.reply i c).db.snapshots :=
        (c.settles_perform i s.now (s.held.get i) s.db).frame
      have hframe' : (t.step (.snapshots i c)).db =
          t.db.withSnapshots (t.reply i c).db.snapshots :=
        (c.settles_perform i t.now (t.held.get i) t.db).frame
      refine ⟨τ, ⟨?_, h.clock, ?_⟩, ?_⟩
      · rw [hframe, hframe']
        exact ⟨h.db.installed, h.db.books, h.db.inventory, hreply.snapshots⟩
      · -- what was held before has the identifiers that it had
        have hold : (t.held.get i).map (Snapshot.renamed ρ) =
            (t.held.get i).map (Snapshot.renamed τ) :=
          List.map_congr_left fun v hv => Snapshot.renamed_congr (hτ _ (ht.held i v hv).1).symm
        simp only [step, PerKind.get_set_self]
        rw [h.held, hold, hreply.handed, List.map_append]
      · simp only [answer?, if_true, hreply.answer, hreply.observation]
  | clock now => exact ⟨ρ, ⟨h.db, rfl, h.held⟩, rfl⟩
  | inventory change =>
      exact ⟨ρ, ⟨⟨h.db.installed, h.db.books, congrArg change h.db.inventory, h.db.snapshots⟩,
        h.clock, h.held⟩, rfl⟩

end Mirrors

theorem run_mirrors {owned : Kind → String → Prop} (hone : Exclusive owned) {j k : Kind}
    (hjk : j ≠ k) {ops : List Operation} (hops : ∀ op ∈ ops, op.Heeds owned) {ρ : Int → Int}
    {s t : Dialogue} (h : s.Mirrors k ρ t) (hs : s.Tended owned) (ht : t.Tended owned) :
    answers k ops s = answers k (dropping j ops) t ∧
      ∃ τ, (after ops s).Mirrors k τ (after (dropping j ops) t) := by
  induction ops generalizing ρ s t with
  | nil => exact ⟨rfl, ρ, h⟩
  | cons op ops ih =>
      have hop := hops op (List.mem_cons_self ..)
      have hrest := fun op' hop' => hops op' (List.mem_cons_of_mem _ hop')
      have hs' := step_tended hs hone hop
      cases hon : op.isOn j with
      | true =>
          obtain ⟨hnext, hnone⟩ := step_alone h hs hone hjk hop hon
          obtain ⟨hanswers, hend⟩ := ih hrest hnext hs' ht
          have hdrop : dropping j (op :: ops) = dropping j ops :=
            List.filter_cons_of_neg (by simp [hon])
          rw [hdrop]
          refine ⟨?_, hend⟩
          rw [answers, hnone, hanswers]
          rfl
      | false =>
          obtain ⟨τ, hnext, hanswer⟩ := step_both h hs ht hone hjk hop hon
          obtain ⟨hanswers, hend⟩ := ih hrest hnext hs' (step_tended ht hone hop)
          have hdrop : dropping j (op :: ops) = op :: dropping j ops :=
            List.filter_cons_of_pos (by simp [hon])
          rw [hdrop]
          refine ⟨?_, hend⟩
          rw [answers, answers, hanswer, hanswers]

/-- The two kinds do not interfere. Without the calls on one kind, all calls on the other
are answered and measured the same, and leave the same behind: the events, the consumers
and the recorded counts of the kind, and its snapshots with their chunks but for the
identifiers. -/
theorem kinds_do_not_interfere {j k : Kind} (hjk : j ≠ k) {db : Database}
    (hempty : db.snapshots = .empty) (now : Int) {ops : List Operation} (hops : Unmixed ops) :
    answers k ops (start db now) = answers k (dropping j ops) (start db now) ∧
      (after ops (start db now)).db.books.get k =
        (after (dropping j ops) (start db now)).db.books.get k ∧
      (after ops (start db now)).db.snapshots.shown k =
        (after (dropping j ops) (start db now)).db.snapshots.shown k := by
  obtain ⟨owned, howned⟩ : ∃ owned : Kind → String → Prop, ∀ k guid,
      owned k guid ↔ ∃ op ∈ ops, op.Requests k guid := ⟨_, fun _ _ => Iff.rfl⟩
  have hmention : ∀ {op : Operation} {k : Kind} {guid : String}, op.Requests k guid →
      op.Mentions k guid := fun hreq => ⟨_, hreq, rfl⟩
  have hone : Exclusive owned := by
    intro j k guid hj hk
    obtain ⟨op, hop, hreq⟩ := (howned j guid).1 hj
    exact hops k guid ((howned k guid).1 hk) j ⟨op, hop, hmention hreq⟩
  have hheeds : ∀ op ∈ ops, op.Heeds owned := fun op hop =>
    ⟨fun k guid hreq => (howned k guid).2 ⟨op, hop, hreq⟩,
      fun j k guid hj hnamed => hops j guid ((howned j guid).1 hj) k ⟨op, hop, hnamed⟩⟩
  obtain ⟨hanswers, τ, hend⟩ := run_mirrors hone hjk hheeds (mirrors_start hempty now k)
    (tended_start hempty now) (tended_start hempty now)
  exact ⟨hanswers, hend.db.books, hend.db.snapshots.shown_eq⟩

/-- Both kinds append, and request and generate a snapshot, in turn. Then retention runs for
services, and their snapshot is deleted. -/
def crowded : List Operation :=
  [.books .service (.append "s1" (.of .created "db")),
    .books .process (.append "p1" (.of .started "web")),
    .snapshots .service (.request "theirs"),
    .snapshots .process (.request "ours"),
    .snapshots .service
      (.populate .default (some (.ofRows false [Database.instanceIn "here" 1 "db"] none
        (.runtime "lost"))) 0),
    .clock 20,
    .snapshots .process (.generate .default "ours"),
    .books .service (.retain .default .exact false),
    .snapshots .service (.delete "theirs"),
    .snapshots .process (.list 0 10)]

theorem unmixed_crowded : Unmixed crowded := by
  refine unmixed_of_owner (fun guid => if guid = "ours" then .process else .service) ?_
  simp [crowded, Operation.Mentions, SnapshotCall.Mentions]

/-- The snapshot of processes is the second in the one run and the first in the other, and
nothing else differs. -/
theorem kinds_do_not_interfere_crowded :
    (after crowded (start Database.fresh 10)).db.snapshots.rows.map (fun r => (r.id, r.guid)) =
      [(2, "ours")] ∧
    (after (dropping .service crowded) (start Database.fresh 10)).db.snapshots.rows.map
      (fun r => (r.id, r.guid)) = [(1, "ours")] ∧
    answers .process crowded (start Database.fresh 10) =
      answers .process (dropping .service crowded) (start Database.fresh 10) ∧
    (after crowded (start Database.fresh 10)).db.snapshots.shown .process =
      (after (dropping .service crowded)
        (start Database.fresh 10)).db.snapshots.shown .process := by
  have hne : Kind.service ≠ Kind.process := by decide
  obtain ⟨hanswers, -, hshown⟩ :=
    kinds_do_not_interfere hne (show Database.fresh.snapshots = .empty from rfl) 10 unmixed_crowded
  exact ⟨by decide +kernel, by decide +kernel, hanswers, hshown⟩

end Dialogue

end Metering
