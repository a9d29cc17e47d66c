import Metering.Proofs.Dialogue
import Metering.Proofs.Documents

/-!
# Appending, and reading back what was appended

An event is appended in two steps: its row goes into the ledger, and then the row is
read back for the answer. The first step happens whole or not at all. It fails where
the guid is taken and leaves everything as it was, or it puts one row at the end, under
an identifier that no event of the ledger has ever had, deleted or not; for that, what
can happen to a ledger is gone through once (`step_ledger`).

The second step can fail after the first is done. What a payload is read back as is
known from the payload (`decode_toRow`): its numbers come back one by one, and if its
brackets nest deeper than a reader goes, nothing does. Such a payload can be written,
and its row is in the ledger when the answer says that there was an error. A time comes
back cut to milliseconds, unless it is in a leap second at the very end of the calendar:
that is written as a moment past all instants, and read back as another.
-/

namespace Metering

open Time (Instant)

/-! ## The row of an event -/

/-- An instant cut to whole milliseconds. A leap second is told as the start of the
second after it. -/
def Time.Instant.wholeMillis (i : Instant) : Instant :=
  ⟨i.seconds + i.nanos / 1000000000, i.nanos % 1000000000 / 1000000 * 1000000⟩

/-- The instants that are within the years that instants cover, leap seconds told so. -/
def Time.Instant.IsCovered (i : Instant) : Prop :=
  Instant.minSeconds ≤ i.wholeMillis.seconds ∧ i.wholeMillis.seconds ≤ Instant.maxSeconds

theorem Time.Instant.ofMillis_toMillis {i : Instant} (h : i.IsCovered) :
    Instant.ofMillis i.toMillis = i.wholeMillis := by
  have hseconds : i.toMillis / 1000 = i.wholeMillis.seconds := by
    unfold toMillis wholeMillis
    simp only []
    omega
  have hmillis : (i.toMillis % 1000).toNat * 1000000 = i.wholeMillis.nanos := by
    unfold toMillis wholeMillis
    simp only []
    omega
  unfold ofMillis
  simp only [hseconds, hmillis]
  exact if_pos h

namespace NewEvent

/-- What the payload of an event is read back as, if its brackets do not nest too deep
and its numbers can be read. -/
def readBack? (e : NewEvent) : Option Json :=
  let payload := e.payload.getD (.obj [])
  if payload.nesting ≤ Json.maxDepth then payload.reread? else none

theorem readBack?_of_deep {e : NewEvent} {payload : Json} (hpayload : e.payload = some payload)
    (hdeep : Json.maxDepth < payload.nesting) : e.readBack? = none := by
  unfold readBack?
  rw [hpayload]
  exact if_neg (Nat.not_le.2 hdeep)

/-- What reading the row of an event back comes to. -/
def answer (k : Kind) (e : NewEvent) (row : EventRow) : Except Error Event :=
  match e.readBack? with
  | some payload => .ok (row.toEvent (e.state.getD k.opening) payload.normalize)
  | none => .error Error.malformedDocument

theorem ofMillis_createdAt {e : NewEvent} {i : Instant} (hi : e.createdAt = some i)
    (hcovered : i.IsCovered) (k : Kind) (now : Int) (fresh : String) (id : Int) :
    Instant.ofMillis (e.toRow k now fresh id).createdAt = i.wholeMillis := by
  have htime : (e.toRow k now fresh id).createdAt = i.toMillis := by
    show (e.createdAt.map Instant.toMillis).getD now = _
    rw [hi]
    rfl
  rw [htime, Instant.ofMillis_toMillis hcovered]

theorem decode_toRow (k : Kind) (now : Int) (fresh : String) (id : Int) (e : NewEvent) :
    (e.toRow k now fresh id).decode = e.answer k (e.toRow k now fresh id) := by
  have hstate : (e.toRow k now fresh id).decodeState = .ok (e.state.getD k.opening) := by
    unfold EventRow.decodeState toRow
    simp only [EventState.ofName?_name]
  have hpayload : Json.read? (e.toRow k now fresh id).payload = e.readBack? :=
    Json.readWithin?_write_eq _ _
  unfold EventRow.decode EventRow.decodePayload answer
  rw [hstate, hpayload]
  cases e.readBack? <;> rfl

end NewEvent

/-! ## What becomes of a ledger -/

/-- A ledger may come after another: it has given out at least as many identifiers. -/
structure Ledger.Later (l l' : Ledger) : Prop where
  wellFormed : l'.WellFormed
  issued : l.issued ≤ l'.issued

namespace Ledger.Later

variable {l l' l'' : Ledger}

theorem refl (hl : l.WellFormed) : Later l l := ⟨hl, Int.le_refl _⟩

theorem trans (h : Later l l') (h' : Later l' l'') : Later l l'' :=
  ⟨h'.wellFormed, Int.le_trans h.issued h'.issued⟩

theorem id_le (h : Later l l') (hl : l.WellFormed) {r : EventRow} (hr : r ∈ l.rows) :
    r.id ≤ l'.issued :=
  Int.le_trans (hl.issued r hr) h.issued

theorem withGuards (hl : l.WellFormed) (guards : List String) :
    Later l { l with guarded := guards } :=
  ⟨hl.withGuards guards, Int.le_refl _⟩

theorem append (hl : l.WellFormed) (k : Kind) (now : Int) (fresh : String) (e : NewEvent) :
    Later l (l.append k now fresh e).2 := by
  refine ⟨hl.append k now fresh e, ?_⟩
  rcases append_cases k now fresh e l with ⟨-, heq⟩ | ⟨-, heq⟩
  · rw [heq]
  · rw [heq]
    show l.issued ≤ l.issued + 1
    omega

theorem appendAll (hl : l.WellFormed) {k : Kind} {now : Int} {es : List NewEvent}
    (h : l.appendAll k now es = .ok l') : Later l l' := by
  induction es generalizing l with
  | nil =>
      obtain rfl := Except.ok.inj h
      exact refl hl
  | cons e es ih =>
      unfold Ledger.appendAll at h
      rw [List.foldlM_cons] at h
      obtain ⟨m, hfirst, hrest⟩ := bind_eq_ok.1 h
      have hm : Later l m := by
        have hstep := append hl k now "" e
        split at hfirst
        · next heq =>
            rw [heq] at hstep
            obtain rfl := Except.ok.inj hfirst
            exact hstep
        · cases hfirst
      exact hm.trans (ih hm.wellFormed hrest)

end Ledger.Later

namespace Database

variable {k : Kind} {db : Database}

theorem later_withBooks {b : Books} (h : (db.ledger k).Later b.ledger) :
    (db.ledger k).Later ((db.withBooks k b).ledger k) := by
  rw [ledger_withBooks]
  exact h

theorem ledger_onConsumers {α : Type} (f : Registry → Except Error (α × Registry)) :
    (db.onConsumers k f).2.ledger k = db.ledger k := by
  cases hinst : db.installed with
  | false =>
      unfold onConsumers
      rw [if_neg (by simp [hinst])]
      split <;> rfl
  | true =>
      rcases onConsumers_cases (k := k) hinst f with ⟨e, -, heq⟩ | ⟨a, r, -, heq⟩
      · rw [heq]
      · rw [heq]
        exact ledger_withBooks _

theorem later_append (hl : (db.ledger k).WellFormed) (now : Int) (fresh : String)
    (e : NewEvent) : (db.ledger k).Later ((db.append k now fresh e).2.ledger k) := by
  cases hinst : db.installed with
  | false =>
      rw [append_of_not_installed hinst]
      exact .refl hl
  | true =>
      rw [append_eq hinst]
      exact later_withBooks (.append hl k now fresh e)

theorem later_appendAll (hl : (db.ledger k).WellFormed) (now : Int) (es : List NewEvent) :
    (db.ledger k).Later ((db.appendAll k now es).2.ledger k) := by
  unfold appendAll onTables attempt
  split
  · cases hall : (db.ledger k).appendAll k now es with
    | error e =>
        simp only [hall]
        exact .refl hl
    | ok l =>
        simp only [hall]
        exact later_withBooks (.appendAll hl hall)
  · exact .refl hl

theorem later_retain (hl : (db.ledger k).WellFormed) (p : Retention.Policy)
    (estimator : Estimator) (now : Int) (dry : Bool) :
    (db.ledger k).Later ((db.retain p k estimator now dry).2.ledger k) := by
  cases hinst : db.installed with
  | false =>
      obtain ⟨e, heq⟩ := retain_of_not_installed (k := k) hinst p estimator now dry
      rw [heq]
      exact .refl hl
  | true =>
      cases dry with
      | true =>
          rw [retain_dry hinst]
          exact .refl hl
      | false =>
          rw [retain_real hinst]
          refine later_withBooks ⟨Retention.wellFormed_run hl p k estimator now, ?_⟩
          obtain ⟨gone, hleft⟩ := Retention.exists_run_ledger hl p k estimator now
          rw [hleft]
          exact Int.le_refl _

end Database

theorem BookCall.later {k : Kind} {db : Database} (hl : (db.ledger k).WellFormed) (now : Int)
    (c : BookCall) : (db.ledger k).Later ((c.perform k now db).2.ledger k) := by
  cases c with
  | append fresh e => exact Database.later_append hl now fresh e
  | appendAll es => exact Database.later_appendAll hl now es
  | find | latest | count | poll | findConsumer | listConsumers => exact .refl hl
  | register | move | deregister =>
      show (db.ledger k).Later ((db.onConsumers k _).2.ledger k)
      rw [Database.ledger_onConsumers]
      exact .refl hl
  | guard | unguard => exact Database.later_withBooks (.withGuards hl _)
  | retain p estimator dry => exact Database.later_retain hl p estimator now dry

namespace Dialogue

variable {s : Dialogue} {k : Kind}

theorem step_ledger (hl : (s.db.ledger k).WellFormed) (op : Operation) :
    (s.db.ledger k).Later ((s.step op).db.ledger k) := by
  cases op with
  | books j c =>
      by_cases hj : k = j
      · subst hj
        exact c.later hl s.now
      · obtain ⟨answer, b, heq⟩ := c.isLocal_perform j s.now
        have hsame : (s.step (.books j c)).db.ledger k = s.db.ledger k := by
          show ((c.perform j s.now s.db).2.books.get k).ledger = _
          rw [show c.perform j s.now s.db = _ from heq s.db]
          exact congrArg Books.ledger (Database.books_withBooks_of_ne hj _)
        rw [hsame]
        exact .refl hl
  | snapshots j c =>
      have hframe := (c.settles_perform j s.now (s.held.get j) s.db).frame
      have hsame : (s.step (.snapshots j c)).db.ledger k = s.db.ledger k := by
        show (c.perform j s.now (s.held.get j) s.db).db.ledger k = _
        rw [hframe]
        rfl
      rw [hsame]
      exact .refl hl
  | clock | inventory => exact .refl hl

theorem ledger_after (hl : (s.db.ledger k).WellFormed) (ops : List Operation) :
    (s.db.ledger k).Later ((after ops s).db.ledger k) := by
  induction ops generalizing s with
  | nil => exact .refl hl
  | cons op ops ih =>
      have hstep := step_ledger hl op
      exact hstep.trans (ih hstep.wellFormed)

/-- At any point of a dialogue, an append is refused and changes nothing, or it commits
one row, at the end, under an identifier above those of all events that were ever in
the ledger. It is refused where the guid is taken or there are no tables. What it
answers is what the row reads as, then and later: the event, its time cut to whole
milliseconds, with its payload as it is read back; or, where the payload cannot be read
back, an error, although the row has been committed. -/
theorem append_commits_or_refuses {db : Database} (hl : (db.ledger k).WellFormed)
    (moment : Int) (before since : List Operation) (fresh : String) (e : NewEvent) :
    let earlier := after before (start db moment)
    let s := after since earlier
    let row := e.toRow k s.now fresh ((s.db.ledger k).issued + 1)
    ((s.db.installed = false ∨ (s.db.ledger k).contains row.guid = true) ∧
      ∃ err, s.db.append k s.now fresh e = (.error err, s.db)) ∨
    (s.db.installed = true ∧ (s.db.ledger k).contains row.guid = false ∧
      s.db.append k s.now fresh e = (e.answer k row, s.db.withLedger k
        { s.db.ledger k with
          rows := (s.db.ledger k).rows ++ [row]
          issued := row.id }) ∧
      row.decode = e.answer k row ∧
      (∀ r ∈ (earlier.db.ledger k).rows, r.id < row.id) ∧
      ∀ i, e.createdAt = some i → i.IsCovered →
        Instant.ofMillis row.createdAt = i.wholeMillis) := by
  intro earlier s row
  cases hinst : s.db.installed with
  | false =>
      exact Or.inl ⟨Or.inl rfl, _, Database.append_of_not_installed hinst s.now fresh e⟩
  | true =>
      rcases Ledger.append_cases k s.now fresh e (s.db.ledger k) with
        ⟨htaken, heq⟩ | ⟨hfree, heq⟩
      · refine Or.inl ⟨Or.inr htaken, .database (.unique [k.eventTable ++ ".guid"]), ?_⟩
        rw [Database.append_eq hinst, heq]
        exact congrArg (Prod.mk _) (Database.withBooks_self s.db k)
      · have hdecode : row.decode = e.answer k row := e.decode_toRow k s.now fresh _
        have hearlier : (db.ledger k).Later (earlier.db.ledger k) :=
          ledger_after (s := start db moment) hl before
        have hlater : (earlier.db.ledger k).Later (s.db.ledger k) :=
          ledger_after hearlier.wellFormed since
        refine Or.inr ⟨rfl, hfree, ?_, hdecode,
          fun r hr => Int.lt_add_one_of_le (hlater.id_le hearlier.wellFormed hr),
          fun i hi hcovered => NewEvent.ofMillis_createdAt hi hcovered k s.now fresh _⟩
        rw [Database.append_eq hinst, heq]
        exact congrArg (·, _) hdecode

/-- A database with the tables of which one holds an event, and has held a second. -/
def lastGone : Database :=
  Database.fresh.withBooks .process
    ⟨⟨[⟨1, "a", 10, "STARTED", "web", none, none, none, none, "{}"⟩], 2, []⟩, [], []⟩

/-- An event that is told to the nanosecond. -/
def precise : NewEvent :=
  { NewEvent.of .stopped "web" with guid := some "c", createdAt := some ⟨10, 1500000⟩ }

/-- The identifier of the event that is gone is not given out again. -/
theorem append_lastGone :
    ∃ event left, lastGone.append .process 7 "" precise = (.ok event, left) ∧
      event.id = 3 ∧ event.createdAt = ⟨10, 1000000⟩ ∧
      (left.ledger .process).rows.map (·.id) = [1, 3] := by
  have hl : (lastGone.ledger .process).WellFormed := by constructor <;> decide
  rcases append_commits_or_refuses hl 7 [] [] "" precise with
    ⟨hrefused, -⟩ | ⟨-, -, happend, -, -, htime⟩
  · exact absurd hrefused (by decide)
  · exact ⟨_, _, happend, rfl, htime _ rfl (by constructor <;> decide), rfl⟩

/-- An event of the leap second at the end of the last year there is. -/
def lastSecond : NewEvent :=
  { NewEvent.of .started "r" with
    guid := some "last", createdAt := Instant.read? "+262142-12-31T23:59:60Z" }

/-- It is committed, and comes back as an event of 1970. -/
theorem append_lastSecond :
    lastSecond.createdAt = some ⟨8210266876799, 1000000000⟩ ∧
    ∃ event left, Database.fresh.append .process 1700000000000 "" lastSecond =
        (.ok event, left) ∧
      event.createdAt = ⟨0, 0⟩ ∧
      (left.ledger .process).rows.map (·.createdAt) = [8210266876800000] := by
  have hread : (Database.fresh.append .process 1700000000000 "" lastSecond).1.map
      (·.createdAt) = .ok ⟨0, 0⟩ := by decide +kernel
  have hrows : ((Database.fresh.append .process 1700000000000 "" lastSecond).2.ledger
      .process).rows.map (·.createdAt) = [8210266876800000] := by decide +kernel
  refine ⟨by decide +kernel, ?_⟩
  cases happend : Database.fresh.append .process 1700000000000 "" lastSecond with
  | mk answer left =>
      rw [happend] at hread hrows
      cases answer with
      | error e => cases hread
      | ok event => exact ⟨event, left, rfl, Except.ok.inj hread, hrows⟩

end Dialogue

/-! ## A payload that is written and not read -/

/-- Under a guid that is free, a payload whose brackets nest too deep is committed with its
row, although the answer is an error. The identifier is spent, and whoever looks the
event up is given the error again. -/
theorem Database.append_of_deep {db : Database} {k : Kind} (hinst : db.installed = true)
    (hl : (db.ledger k).WellFormed) {e : NewEvent} {payload : Json}
    (hpayload : e.payload = some payload) (hdeep : Json.maxDepth < payload.nesting)
    (now : Int) {fresh : String} (hfree : (db.ledger k).contains (e.guid.getD fresh) = false) :
    ∃ row left, row.guid = e.guid.getD fresh ∧
      db.append k now fresh e = (.error Error.malformedDocument, left) ∧
      (left.ledger k).rows = (db.ledger k).rows ++ [row] ∧
      (left.ledger k).issued = (db.ledger k).issued + 1 ∧
      left.askLedger k (Ledger.find row.guid) = .error Error.malformedDocument := by
  have hunread : (e.toRow k now fresh ((db.ledger k).issued + 1)).decode =
      .error Error.malformedDocument := by
    rw [e.decode_toRow, NewEvent.answer, NewEvent.readBack?_of_deep hpayload hdeep]
  have hwell := hl.append k now fresh e
  rcases Ledger.append_cases k now fresh e (db.ledger k) with ⟨htaken, -⟩ | ⟨-, heq⟩
  · rw [hfree] at htaken
    cases htaken
  · rw [hunread] at heq
    have hleft : (db.append k now fresh e).2.ledger k = ((db.ledger k).append k now fresh e).2 := by
      rw [append_eq hinst]
      exact ledger_withBooks _
    have hinstalled : (db.append k now fresh e).2.installed = true := by
      rw [append_eq hinst]
      exact hinst
    rw [heq] at hleft hwell
    refine ⟨_, _, rfl, Prod.ext ?_ rfl, congrArg Ledger.rows hleft,
      congrArg Ledger.issued hleft, ?_⟩
    · rw [append_eq hinst, heq]
    · have hfound := hwell.row?_guid (List.mem_append_right _ (List.mem_singleton_self _))
      unfold askLedger need
      rw [hinstalled, hleft]
      show Ledger.find _ _ = _
      unfold Ledger.find
      rw [hfound]
      show Except.map some _ = _
      rw [hunread]
      rfl

end Metering
