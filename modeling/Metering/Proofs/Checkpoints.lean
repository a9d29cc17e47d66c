import Metering.Proofs.Consumption
import Metering.Proofs.Generating

/-!
# A checkpoint cuts the stream of events

A snapshot is completed with the newest event of its ledger as the checkpoint,
and whoever has the snapshot asks for the events after that one from then on.
What is meant is: everything that came in since. What is asked is: everything
with a higher identifier. In between, events come and go, the checkpoint among
them, and the ledger may be emptied altogether.

The two are the same because identifiers are not given out twice. `Advances`
says what any stretch of time does to a ledger: its events are some of those
that were there, and after them some of those that came in, and whatever came
in has an identifier above all that had been given out. So an event that was
there has no higher identifier than the newest one had, and one that came in
since has (`Advances.filter_rows`). Where there was no event at all there is no
checkpoint, and everything came in since. Whether all of it can be read, the answers to
the appends have told.
-/

namespace Metering

theorem filter_mem_eq {α : Type} [DecidableEq α] {kept all : List α}
    (h : kept.Sublist all) (hnodup : all.Nodup) : all.filter (· ∈ kept) = kept := by
  induction h with
  | slnil => rfl
  | @cons kept all x h ih =>
      obtain ⟨hx, hnodup⟩ := List.nodup_cons.1 hnodup
      rw [List.filter_cons_of_neg (by simpa using fun hin => hx (h.subset hin)), ih hnodup]
  | @cons_cons kept all x h ih =>
      obtain ⟨hx, hnodup⟩ := List.nodup_cons.1 hnodup
      have hsame : all.filter (· ∈ x :: kept) = all.filter (· ∈ kept) :=
        List.filter_congr fun y hy => by
          have hne : y ≠ x := by
            rintro rfl
            exact hx hy
          simp [hne]
      rw [List.filter_cons_of_pos (by simp), hsame, ih hnodup]

theorem Ledger.guid_of_latest {l : Ledger} {newest : Option Event}
    (h : l.latest = .ok newest) : newest.map (·.guid) = l.rows.getLast?.map (·.guid) := by
  unfold latest at h
  split at h
  · next hnone =>
      obtain rfl := Except.ok.inj h
      rw [hnone]
      rfl
  · next r hr =>
      rw [hr]
      cases hdecode : r.decode with
      | error e => rw [hdecode] at h; cases h
      | ok e =>
          rw [hdecode] at h
          obtain rfl := Except.ok.inj h
          exact congrArg some (EventRow.guid_of_decode hdecode)

/-- All that an action can do to the ledger is to put an event at the end that is not
there yet, or to take events away and to change the guards. -/
theorem Action.ledger_perform {k : Kind} {db : Database} (hinst : db.installed = true)
    (hl : (db.ledger k).WellFormed) (a : Action)
    (hnew : ∀ r ∈ a.entry k db, ∀ x ∈ (db.ledger k).rows, x.guid ≠ r.guid) :
    (a.perform k db).installed = true ∧
    ((∃ r, a.entry k db = [r] ∧ r.id = (db.ledger k).issued + 1 ∧
        (a.perform k db).ledger k =
          { db.ledger k with
            rows := (db.ledger k).rows ++ [r]
            issued := (db.ledger k).issued + 1 }) ∨
      a.entry k db = [] ∧ ∃ gone guards, (a.perform k db).ledger k =
        { (db.ledger k).without gone with guarded := guards }) := by
  obtain ⟨b, heq, hcases⟩ := a.perform_eq (k := k) hinst
  rw [heq, Database.ledger_withBooks]
  refine ⟨hinst, ?_⟩
  have hall : (db.ledger k).without [] = db.ledger k := Ledger.without_nil _
  rcases hcases with ⟨now, fresh, e, rfl, rfl⟩ | ⟨r, hentry, -, rfl⟩ |
    ⟨guards, hentry, rfl⟩ | ⟨p, estimator, now, rfl, rfl⟩
  · have hfree : (db.ledger k).contains (e.guid.getD fresh) = false := by
      unfold Ledger.contains
      rw [List.any_eq_false]
      intro x hx
      have hne : x.guid ≠ e.guid.getD fresh := hnew _ (List.mem_singleton_self _) x hx
      simpa using hne
    rcases Ledger.append_cases k now fresh e (db.ledger k) with ⟨htaken, -⟩ | ⟨-, happend⟩
    · rw [hfree] at htaken
      cases htaken
    · exact Or.inl ⟨_, rfl, rfl, congrArg Prod.snd happend⟩
  · refine Or.inr ⟨hentry, [], (db.ledger k).guarded, ?_⟩
    rw [hall]
    rfl
  · refine Or.inr ⟨hentry, [], guards, ?_⟩
    rw [hall]
  · obtain ⟨gone, hleft⟩ := Retention.exists_run_ledger hl p k estimator now
    exact Or.inr ⟨rfl, gone, (db.ledger k).guarded, hleft⟩

/-- A database, all events of a kind that were there at the start or came in since,
whether they are still there or not, and what was answered when they came in. -/
structure History where
  db : Database
  log : List EventRow
  told : List (Except Error Event)

namespace History

/-- The events that are there. -/
def rows (k : Kind) (s : History) : List EventRow := (s.db.ledger k).rows

/-- Those of some events that are still there. -/
def present (k : Kind) (s : History) (events : List EventRow) : List EventRow :=
  events.filter (· ∈ s.rows k)

/-- What is answered to the question for the events after a checkpoint. -/
def ask (k : Kind) (s : History) (checkpoint : Option String) (limit : Nat) :
    Except Error (List Event) :=
  s.db.askLedger k (Ledger.eventsAfter k checkpoint limit)

def start (k : Kind) (db : Database) : History := ⟨db, (db.ledger k).rows, []⟩

/-- Something is done to the books of the kind. -/
def act (k : Kind) (a : Action) (s : History) : History :=
  ⟨a.perform k s.db, s.log ++ a.entry k s.db, s.told ++ a.told k s.db⟩

/-- An attempt at generating a snapshot. -/
def populate (g : GenerationSettings) (source : Source) (now : Int) (snapshot : Snapshot)
    (s : History) : History :=
  { s with db := (s.db.populate g source now snapshot).2.2 }

/-- What can happen: something is done to the books of the kind, a snapshot is
generated or is not, or anything else is done that leaves the ledger alone. Events come
in under guids that none has had. -/
inductive Step (k : Kind) (s : History) : History → Prop where
  | act (a : Action) (hnew : ∀ r ∈ a.entry k s.db, ∀ x ∈ s.log, x.guid ≠ r.guid) :
      Step k s (s.act k a)
  | populate (g : GenerationSettings) (source : Source) (now : Int) (snapshot : Snapshot) :
      Step k s (s.populate g source now snapshot)
  | elsewhere (db : Database) (hinst : db.installed = s.db.installed)
      (hledger : db.ledger k = s.db.ledger k) : Step k s { s with db := db }

/-- A state that some steps lead to. -/
inductive Run (k : Kind) (s : History) : History → Prop where
  | refl : Run k s s
  | step {t u : History} (h : Run k s t) (hstep : Step k t u) : Run k s u

/-! ## What time does to a ledger -/

structure Sound (k : Kind) (s : History) : Prop where
  installed : s.db.installed = true
  ledger : (s.db.ledger k).WellFormed
  logged : s.rows k ⊆ s.log

/-- From one state to another some events have come in. -/
structure Advances (k : Kind) (s t : History) (since : List EventRow) : Prop where
  log : t.log = s.log ++ since
  told : t.told = s.told ++ since.map EventRow.decode
  rows : (t.rows k).Sublist (s.rows k ++ since)
  issued : (s.db.ledger k).issued ≤ (t.db.ledger k).issued
  above : ∀ r ∈ since, (s.db.ledger k).issued < r.id
  below : ∀ r ∈ since, r.id ≤ (t.db.ledger k).issued
  rising : since.Pairwise (·.id < ·.id)
  guids : ∀ r ∈ since, ∀ x ∈ s.log, x.guid ≠ r.guid

variable {k : Kind} {s t u : History} {since more : List EventRow}

theorem Advances.refl (k : Kind) (s : History) : Advances k s s [] where
  log := (List.append_nil _).symm
  told := (List.append_nil _).symm
  rows := by simp
  issued := Int.le_refl _
  above := by simp
  below := by simp
  rising := List.Pairwise.nil
  guids := by simp

theorem Advances.trans (h : Advances k s t since) (h' : Advances k t u more) :
    Advances k s u (since ++ more) where
  log := by rw [h'.log, h.log, List.append_assoc]
  told := by rw [h'.told, h.told, List.append_assoc, List.map_append]
  rows := by
    rw [← List.append_assoc]
    exact h'.rows.trans (h.rows.append_right more)
  issued := Int.le_trans h.issued h'.issued
  above r hr := by
    rcases List.mem_append.1 hr with hr | hr
    · exact h.above r hr
    · exact Int.lt_of_le_of_lt h.issued (h'.above r hr)
  below r hr := by
    rcases List.mem_append.1 hr with hr | hr
    · exact Int.le_trans (h.below r hr) h'.issued
    · exact h'.below r hr
  rising := by
    refine List.pairwise_append.2 ⟨h.rising, h'.rising, fun a ha b hb => ?_⟩
    exact Int.lt_of_le_of_lt (h.below a ha) (h'.above b hb)
  guids r hr x hx := by
    rcases List.mem_append.1 hr with hr | hr
    · exact h.guids r hr x hx
    · exact h'.guids r hr x (h.log ▸ List.mem_append_left _ hx)

theorem Sound.shrunk (hs : s.Sound k) (db : Database) (hinst : db.installed = true)
    (hl : (db.ledger k).WellFormed) (hissued : (db.ledger k).issued = (s.db.ledger k).issued)
    (hrows : ((db.ledger k).rows).Sublist (s.rows k)) :
    Sound k { s with db := db } ∧ Advances k s { s with db := db } [] := by
  refine ⟨⟨hinst, hl, fun r hr => hs.logged (hrows.subset hr)⟩, ?_⟩
  refine { Advances.refl k s with rows := ?_, issued := Int.le_of_eq hissued.symm, below := by simp }
  rw [List.append_nil]
  exact hrows

theorem Sound.grown (hs : s.Sound k) (db : Database) (hinst : db.installed = true)
    {r : EventRow} (hid : r.id = (s.db.ledger k).issued + 1)
    (hfree : ∀ x ∈ s.log, x.guid ≠ r.guid)
    (hledger : db.ledger k = { s.db.ledger k with
      rows := (s.db.ledger k).rows ++ [r]
      issued := (s.db.ledger k).issued + 1 }) :
    Sound k ⟨db, s.log ++ [r], s.told ++ [r.decode]⟩ ∧
      Advances k s ⟨db, s.log ++ [r], s.told ++ [r.decode]⟩ [r] := by
  have hrows : rows k ⟨db, s.log ++ [r], s.told ++ [r.decode]⟩ = s.rows k ++ [r] :=
    congrArg Ledger.rows hledger
  have hissued : (db.ledger k).issued = (s.db.ledger k).issued + 1 :=
    congrArg Ledger.issued hledger
  constructor
  · refine ⟨hinst, ?_, ?_⟩
    · show (db.ledger k).WellFormed
      rw [hledger]
      exact hs.ledger.snoc hid fun x hx => hfree x (hs.logged hx)
    · rw [hrows]
      intro x hx
      rcases List.mem_append.1 hx with hx | hx
      · exact List.mem_append_left _ (hs.logged hx)
      · exact List.mem_append_right _ hx
  · refine ⟨rfl, rfl, hrows ▸ List.Sublist.refl _, ?_, ?_, ?_, List.pairwise_singleton _ _, ?_⟩
    · show (s.db.ledger k).issued ≤ (db.ledger k).issued
      omega
    · intro x hx
      rw [List.mem_singleton.1 hx]
      omega
    · intro x hx
      rw [List.mem_singleton.1 hx]
      show r.id ≤ (db.ledger k).issued
      omega
    · intro x hx
      rw [List.mem_singleton.1 hx]
      exact hfree

theorem Sound.step (hs : s.Sound k) (h : Step k s t) :
    t.Sound k ∧ ∃ since, Advances k s t since := by
  cases h with
  | populate g source now snapshot =>
      obtain ⟨hsound, hadvances⟩ := hs.shrunk (s.populate g source now snapshot).db
        hs.installed hs.ledger rfl (List.Sublist.refl _)
      exact ⟨hsound, [], hadvances⟩
  | elsewhere db hinst hledger =>
      obtain ⟨hsound, hadvances⟩ := hs.shrunk db (hinst.trans hs.installed)
        (hledger ▸ hs.ledger) (congrArg Ledger.issued hledger)
        (by rw [hledger]; exact List.Sublist.refl _)
      exact ⟨hsound, [], hadvances⟩
  | act a hnew =>
      have hfresh : ∀ r ∈ a.entry k s.db, ∀ x ∈ s.rows k, x.guid ≠ r.guid :=
        fun r hr x hx => hnew r hr x (hs.logged hx)
      have htold := a.told_eq hs.installed hfresh
      obtain ⟨hinst, ⟨r, hentry, hid, hledger⟩ | ⟨hentry, gone, guards, hledger⟩⟩ :=
        a.ledger_perform hs.installed hs.ledger hfresh
      · have hfree : ∀ x ∈ s.log, x.guid ≠ r.guid :=
          hnew r (hentry ▸ List.mem_singleton_self r)
        obtain ⟨hsound, hadvances⟩ := hs.grown _ hinst hid hfree hledger
        rw [act, htold, hentry]
        exact ⟨hsound, [r], hadvances⟩
      · obtain ⟨hsound, hadvances⟩ := hs.shrunk _ hinst
          (hledger ▸ (hs.ledger.without gone).withGuards guards)
          ((congrArg Ledger.issued hledger).trans rfl)
          (by rw [hledger]; exact List.filter_sublist)
        rw [act, htold, hentry, List.map_nil, List.append_nil, List.append_nil]
        exact ⟨hsound, [], hadvances⟩

theorem Sound.run (hs : s.Sound k) (h : Run k s t) :
    t.Sound k ∧ ∃ since, Advances k s t since := by
  induction h with
  | refl => exact ⟨hs, [], Advances.refl k s⟩
  | step h hstep ih =>
      obtain ⟨ht, since, hsince⟩ := ih
      obtain ⟨hu, more, hmore⟩ := ht.step hstep
      exact ⟨hu, since ++ more, hsince.trans hmore⟩

/-! ## What came in since -/

/-- What came in and is still there is what has a higher identifier than any event that
was there. -/
theorem Advances.filter_rows (h : Advances k s t since) {bound : Int}
    (hbound : bound ≤ (s.db.ledger k).issued) (hold : ∀ r ∈ s.rows k, r.id ≤ bound) :
    (t.rows k).filter (bound < ·.id) = t.present k since := by
  obtain ⟨old, new, hsplit, hwas, hcame⟩ := List.sublist_append_iff.1 h.rows
  have hnodup : since.Nodup := h.rising.imp fun hlt heq => by rw [heq] at hlt; omega
  have hlow : ∀ r ∈ old, r.id ≤ bound := fun r hr => hold r (hwas.subset hr)
  have hhigh : ∀ r ∈ since, bound < r.id := fun r hr =>
    Int.lt_of_le_of_lt hbound (h.above r hr)
  have hpresent : t.present k since = new := by
    have hsame : t.present k since = since.filter (· ∈ new) :=
      List.filter_congr fun r hr => by
        have hnot : r ∉ old := fun hin => by
          have := hlow r hin
          have := hhigh r hr
          omega
        simp [hsplit, hnot]
    rw [hsame, filter_mem_eq hcame hnodup]
  rw [hpresent, hsplit, List.filter_append,
    List.filter_eq_nil_iff.2 (by simpa using hlow), List.nil_append,
    List.filter_eq_self.2 (by simpa using fun r hr => hhigh r (hcame.subset hr))]

theorem ask_of_installed (ht : t.Sound k) (checkpoint : Option String) (limit : Nat) :
    t.ask k checkpoint limit = (t.db.ledger k).eventsAfter k checkpoint limit := by
  unfold ask Database.askLedger Database.need
  rw [if_pos ht.installed]
  rfl

theorem Advances.ask_eq (hs : s.Sound k) (ht : t.Sound k) (h : Advances k s t since)
    (hkept : ∀ w, (s.rows k).getLast? = some w → w ∈ t.rows k) (limit : Nat) :
    t.ask k ((s.rows k).getLast?.map (·.guid)) limit =
      EventRow.decodeAll (Page.take limit (t.present k since)) := by
  rw [ask_of_installed ht]
  cases hlast : (s.rows k).getLast? with
  | none =>
      have hempty : s.rows k = [] := List.getLast?_eq_none_iff.1 hlast
      have hall : t.present k since = t.rows k := by
        rw [← h.filter_rows hs.ledger.started (by rw [hempty]; simp)]
        exact List.filter_eq_self.2 fun r hr => by simpa using ht.ledger.positive r hr
      rw [hall]
      exact Ledger.eventsAfter_none ht.ledger k limit
  | some w =>
      have hw : w ∈ s.rows k := List.mem_of_getLast? hlast
      have hold : ∀ r ∈ s.rows k, r.id ≤ w.id := by
        obtain ⟨front, hsplit⟩ := List.getLast?_eq_some_iff.1 hlast
        have hrising : (front ++ [w]).Pairwise (·.id < ·.id) := hsplit ▸ hs.ledger.rising
        rw [hsplit]
        intro r hr
        rcases List.mem_append.1 hr with hr | hr
        · exact Int.le_of_lt ((List.pairwise_append.1 hrising).2.2 r hr w (by simp))
        · rw [List.mem_singleton.1 hr]
      rw [← h.filter_rows (hs.ledger.issued w hw) hold]
      exact Ledger.eventsAfter_of_mem ht.ledger (hkept w hlast) k limit

theorem Advances.ask_of_deleted (hs : s.Sound k) (ht : t.Sound k) (h : Advances k s t since)
    {w : EventRow} (hw : w ∈ s.rows k) (hgone : w ∉ t.rows k) (limit : Nat) :
    t.ask k (some w.guid) limit = .error (Ledger.missing k w.guid) := by
  rw [ask_of_installed ht]
  refine Ledger.eventsAfter_of_missing (fun r hr hguid => ?_) k limit
  rcases List.mem_append.1 (h.rows.subset hr) with hwas | hcame
  · rw [hs.ledger.eq_of_guid hwas hw hguid] at hr
    exact hgone hr
  · exact h.guids r hcame w (hs.logged hw) hguid.symm

theorem Advances.guid_ne_of_decodeAll (hs : s.Sound k) (h : Advances k s t since)
    {rows : List EventRow} (hrows : rows ⊆ since) {events : List Event}
    (hanswer : EventRow.decodeAll rows = .ok events) {e : Event} (he : e ∈ events)
    {w : EventRow} (hw : w ∈ s.rows k) : e.guid ≠ w.guid := by
  obtain ⟨r, hr, hdecode⟩ := EventRow.exists_of_mem_decodeAll hanswer he
  rw [EventRow.guid_of_decode hdecode]
  exact (h.guids r (hrows hr) w (hs.logged hw)).symm

/-! ## The checkpoint -/

/-- A snapshot that is in the store after an attempt at generating one, and was not there
like that before, is complete and has the newest event of the ledger as its
checkpoint. -/
theorem checkpoint_of_populate {g : GenerationSettings} {source : Source} {now : Int}
    {snapshot : Snapshot} (hkind : snapshot.kind = k) {r : SnapshotRow}
    (hr : r ∈ (s.populate g source now snapshot).db.snapshots.rows)
    (hnew : r ∉ s.db.snapshots.rows) :
    r.isProcessing = false ∧ r.checkpoint = (s.rows k).getLast?.map (·.guid) := by
  subst hkind
  have hstore : r ∈ (snapshot.populate g source now (s.db.ledger snapshot.kind)
      s.db.snapshots).store.rows := hr
  rcases Snapshot.populate_store g now (s.db.ledger snapshot.kind) source snapshot
    s.db.snapshots with hsame | hu
  · rw [hsame] at hstore
    exact absurd hstore hnew
  · obtain ⟨checkpoint, rows, hlatest, -, -, -, -, heq⟩ := Snapshot.generate_eq_ok g now hu
    rw [heq] at hstore
    obtain ⟨old, hold, rfl⟩ := List.mem_map.1 hstore
    unfold Snapshots.close at hnew ⊢
    split
    · exact ⟨rfl, Ledger.guid_of_latest hlatest⟩
    · next hother =>
        rw [if_neg hother] at hnew
        exact absurd hold hnew

/-- At one moment a snapshot was completed with a checkpoint; these are the answers
to the questions from the checkpoint at a later one. -/
structure Cuts (k : Kind) (s t : History) (checkpoint : Option String)
    (since : List EventRow) : Prop where
  log : t.log = s.log ++ since
  told : t.told = s.told ++ since.map EventRow.decode
  newest : checkpoint = (s.rows k).getLast?.map (·.guid)
  /-- If the event of the checkpoint has been deleted, it is not found. -/
  deleted : ∀ w ∈ s.rows k, checkpoint = some w.guid → w ∉ t.rows k →
    ∀ limit, t.ask k checkpoint limit = .error (Ledger.missing k w.guid)
  /-- If not, or if there is none, the answer is what came in since and is still
  there, in the order in which it came. -/
  kept : (∀ w ∈ s.rows k, checkpoint = some w.guid → w ∈ t.rows k) →
    ∀ limit, t.ask k checkpoint limit =
      EventRow.decodeAll (Page.take limit (t.present k since))
  found : (∀ w ∈ s.rows k, checkpoint = some w.guid → w ∈ t.rows k) →
    ∀ limit what, t.ask k checkpoint limit ≠ .error (.notFound what)
  whole : (∀ w ∈ s.rows k, checkpoint = some w.guid → w ∈ t.rows k) →
    (∀ x ∈ t.present k since, ∃ e, x.decode = .ok e) →
    ∃ events, t.ask k checkpoint Word.max = .ok events ∧
      events.map .ok = (t.present k since).map EventRow.decode
  /-- The appends since then tell whether it can be read. -/
  answered : (∀ w ∈ s.rows k, checkpoint = some w.guid → w ∈ t.rows k) →
    (∀ answer ∈ t.told.drop s.told.length, answer.isOk = true) →
    ∃ events, t.ask k checkpoint Word.max = .ok events ∧
      events.map .ok = (t.present k since).map EventRow.decode
  /-- An event that was there when the snapshot was completed is in no answer. -/
  unseen : ∀ limit events, t.ask k checkpoint limit = .ok events →
    ∀ e ∈ events, ∀ w ∈ s.rows k, e.guid ≠ w.guid

theorem Advances.cuts (hs : s.Sound k) (ht : t.Sound k) (h : Advances k s t since)
    {checkpoint : Option String}
    (hnewest : checkpoint = (s.rows k).getLast?.map (·.guid)) :
    Cuts k s t checkpoint since := by
  have hdeleted : ∀ w ∈ s.rows k, checkpoint = some w.guid → w ∉ t.rows k →
      ∀ limit, t.ask k checkpoint limit = .error (Ledger.missing k w.guid) := by
    intro w hw hcheckpoint hgone limit
    rw [hcheckpoint]
    exact h.ask_of_deleted hs ht hw hgone limit
  have hkept : (∀ w ∈ s.rows k, checkpoint = some w.guid → w ∈ t.rows k) →
      ∀ limit, t.ask k checkpoint limit =
        EventRow.decodeAll (Page.take limit (t.present k since)) := by
    intro hthere limit
    rw [hnewest]
    refine h.ask_eq hs ht (fun w hlast => ?_) limit
    refine hthere w (List.mem_of_getLast? hlast) ?_
    rw [hnewest, hlast]
    rfl
  have hwhole : (∀ w ∈ s.rows k, checkpoint = some w.guid → w ∈ t.rows k) →
      (∀ x ∈ t.present k since, ∃ e, x.decode = .ok e) →
      ∃ events, t.ask k checkpoint Word.max = .ok events ∧
        events.map .ok = (t.present k since).map EventRow.decode := by
    intro hthere hread
    obtain ⟨events, hevents⟩ := EventRow.exists_decodeAll hread
    refine ⟨events, ?_, (EventRow.decodeAll_eq_ok.1 hevents).symm⟩
    rw [hkept hthere, Page.take, if_neg (by decide), hevents]
  refine ⟨h.log, h.told, hnewest, hdeleted, hkept, ?_, hwhole, ?_, ?_⟩
  · intro hthere limit what
    rw [hkept hthere]
    exact EventRow.decodeAll_ne_notFound _ what
  · intro hthere hok
    rw [h.told, List.drop_left] at hok
    exact hwhole hthere fun x hx => EventRow.exists_of_isOk
      (hok _ (List.mem_map_of_mem (List.mem_filter.1 hx).1))
  · intro limit events hanswer e he w hw
    by_cases hgone : ∃ v ∈ s.rows k, checkpoint = some v.guid ∧ v ∉ t.rows k
    · obtain ⟨v, hv, hcheckpoint, hv'⟩ := hgone
      rw [hdeleted v hv hcheckpoint hv'] at hanswer
      cases hanswer
    · rw [hkept fun v hv hcheckpoint =>
        Classical.byContradiction fun hnot => hgone ⟨v, hv, hcheckpoint, hnot⟩] at hanswer
      exact h.guid_ne_of_decodeAll hs (fun r hr =>
        (List.mem_filter.1 ((Page.take_prefix limit _).subset hr)).1) hanswer he hw

/-- Wherever things stand when a snapshot is completed, and whatever happens after, its
checkpoint cuts the stream of events there: the snapshot is complete with the newest
event, if any, as its checkpoint, and from then on a question from the checkpoint is
answered with what has come in since. -/
theorem checkpoint_cuts_stream {db : Database} (hinst : db.installed = true)
    (hl : (db.ledger k).WellFormed) (hs : Run k (start k db) s) {g : GenerationSettings}
    {source : Source} {now : Int} {snapshot : Snapshot} (hkind : snapshot.kind = k)
    {r : SnapshotRow} (hr : r ∈ (s.populate g source now snapshot).db.snapshots.rows)
    (hnew : r ∉ s.db.snapshots.rows) (ht : Run k (s.populate g source now snapshot) t) :
    r.isProcessing = false ∧ ∃ since, Cuts k s t r.checkpoint since := by
  have hstart : (start k db).Sound k := ⟨hinst, hl, fun r hr => hr⟩
  have hbefore : s.Sound k := (hstart.run hs).1
  have hafter : (s.populate g source now snapshot).Sound k :=
    (hbefore.step (.populate g source now snapshot)).1
  obtain ⟨hlater, since, hadvances⟩ := hafter.run ht
  obtain ⟨hdone, hnewest⟩ := checkpoint_of_populate hkind hr hnew
  have hsince : Advances k s t since := ⟨hadvances.log, hadvances.told, hadvances.rows,
    hadvances.issued, hadvances.above, hadvances.below, hadvances.rising, hadvances.guids⟩
  exact ⟨hdone, since, hsince.cuts hbefore hlater hnewest⟩

/-- A ledger of one event, and a snapshot that is asked for. -/
def waiting : History :=
  let opened := (start .process .fresh).act .process (.append 10 "a" (.of .started "web"))
  { opened with db := (opened.db.requestSnapshot .process 20 "first").2 }

/-- The snapshot is generated from a source that has nothing. -/
def taken : History :=
  waiting.populate ⟨1, 1, 1⟩ (.ofRows true [] none (.runtime "lost")) 30
    (SnapshotRow.placeholder 1 "first" .process 20).toSnapshot

/-- Two more events come in, the second of them after forty days, and retention runs. -/
def later : History :=
  ((taken.act .process (.append 40 "b" (.of .stopped "db"))).act .process
    (.append Reading.fortyDays "c" (.of .started "shop"))).act .process
      (.retain .default .recorded Reading.fortyDays false)

theorem run_waiting : Run .process (start .process .fresh) waiting :=
  (Run.refl.step (.act _ (by decide))).step (.elsewhere _ (by decide) (by decide))

theorem run_later : Run .process taken later :=
  ((Run.refl.step (.act _ (by decide +kernel))).step (.act _ (by decide +kernel))).step
    (.act _ (by decide))

/-- The snapshot after that. -/
def first : SnapshotRow :=
  { SnapshotRow.placeholder 1 "first" .process 20 with
    completedAt := some 30
    checkpoint := some "a"
    checkpointAt := some 10
    parents := some 0 }

/-- Of the two events retention has deleted the first, and what is answered from the
checkpoint is the other. -/
theorem checkpoint_cuts_later :
    first ∈ taken.db.snapshots.rows ∧
    ∃ since, Cuts .process waiting later (some "a") since ∧
      since.map (·.guid) = ["b", "c"] ∧
      ∃ events, later.ask .process (some "a") Word.max = .ok events ∧
        events.map (·.guid) = ["c"] := by
  have hl : (Database.fresh.ledger .process).WellFormed := Ledger.wellFormed_empty
  have hin : first ∈ taken.db.snapshots.rows := by decide +kernel
  have hnew : first ∉ waiting.db.snapshots.rows := by decide
  obtain ⟨-, since, hcuts⟩ := checkpoint_cuts_stream rfl hl run_waiting rfl hin hnew run_later
  have hthere : ∀ w ∈ waiting.rows .process, some "a" = some w.guid →
      w ∈ later.rows .process := by decide +kernel
  have htold : ∀ answer ∈ later.told.drop waiting.told.length, answer.isOk = true := by
    decide +kernel
  obtain ⟨events, hask, hevents⟩ := hcuts.answered hthere htold
  have hsince : later.log.drop waiting.log.length = since := by rw [hcuts.log, List.drop_left]
  subst hsince
  refine ⟨hin, _, hcuts, by decide +kernel, events, hask, ?_⟩
  rw [EventRow.map_guid_of_decode hevents.symm]
  decide +kernel

end History

end Metering
